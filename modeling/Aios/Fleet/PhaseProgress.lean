import Aios.Fleet.CanaryGate

/-! # Phases and their plans

The state of a phase sums up what its hosts have reported. `report_host_status` brings it up to date
with `auto_complete_phases`; `report_host_error`, `start_phase` and `resume_rollout` change one side
and leave the other alone, so a phase can stay in progress after its last host has ended.
-/

namespace Aios.Fleet

open Aios.Rust

namespace FleetDistributionRollout

variable {F : Type} {self after : FleetDistributionRollout F}

/-! ## Finished phases in progress -/

/-- Some host of the phase has not ended. -/
def Open (self : FleetDistributionRollout F) (phase : RolloutPhase) : Prop :=
  ∃ host ∈ phase.hosts, self.hostIs (·.isTerminal) host = false

/-- No phase is in progress while all its hosts are in a terminal install status. -/
def Unstuck (self : FleetDistributionRollout F) : Prop :=
  ∀ phase ∈ self.phases, phase.state = .inProgress →
    ¬ ∀ host ∈ phase.hosts, self.hostIs (·.isTerminal) host = true

theorem open_iff (self : FleetDistributionRollout F) (phase : RolloutPhase) :
    self.Open phase ↔ ¬ ∀ host ∈ phase.hosts, self.hostIs (·.isTerminal) host = true := by
  simp [Open]

theorem unstuck_iff_open (self : FleetDistributionRollout F) :
    self.Unstuck ↔ ∀ phase ∈ self.phases, phase.state = .inProgress → self.Open phase := by
  simp only [Unstuck, open_iff]

theorem Unstuck.of_idle (idle : ∀ phase ∈ self.phases, phase.state ≠ .inProgress) : self.Unstuck :=
  fun phase member busy => absurd busy (idle phase member)

/-- Hosts that are taken back to work leave no phase stuck. -/
theorem Unstuck.of_reopened (clean : self.Unstuck) (phases : after.phases = self.phases)
    (reopened : ∀ host, after.hostIs (·.isTerminal) host = true → self.hostIs (·.isTerminal) host = true) :
    after.Unstuck := by
  intro phase member busy ended
  rw [phases] at member
  exact clean phase member busy fun host listed => reopened host (ended host listed)

/-- Closing every phase whose hosts have ended leaves none stuck. -/
theorem Unstuck.of_closed {now : DateTime} (phases : after.phases = self.phases.map (after.closed now)) :
    after.Unstuck := by
  intro phase member busy ended
  rw [phases] at member
  obtain ⟨before, -, rfl⟩ := List.mem_map.mp member
  cases closing : after.closes before with
  | true =>
    have terminal := closed_isTerminal closing now
    rw [busy] at terminal
    cases terminal
  | false =>
    rw [closed, closing] at busy ended
    have finished : before.hosts.all (after.hostIs (·.isTerminal)) = true := List.all_eq_true.mpr ended
    rw [closes, finished, show before.state = .inProgress from busy] at closing
    cases closing

/-! ## The steps that leave a phase stuck -/

/-- The step of a request does not put in progress, or leave there, a phase whose hosts have ended. -/
def MovesOn (self : FleetDistributionRollout F) : RolloutOp F → Prop
  | .startPhase phaseId _ => ∀ index phase, self.MayStart phaseId index phase → self.Open phase
  | .reportHostError hostId _ _ => self.hostIs (fun _ => true) hostId = true →
      ∀ phase ∈ self.phases, phase.state = .inProgress →
        ∃ host ∈ phase.hosts, host ≠ hostId ∧ self.hostIs (·.isTerminal) host = false
  | .resumeRollout => self.aborted = false → self.paused = true →
      ∀ phase ∈ self.phases, phase.state = .paused → self.Open phase
  | _ => True

theorem isTerminal_beginDownload (state : RolloutHostState) :
    state.beginDownload.installStatus.isTerminal = state.installStatus.isTerminal := by
  rw [RolloutHostState.beginDownload]
  split
  · next pending => simp only [pending, HostInstallStatus.isTerminal]
  · rfl

theorem hostIs_modify {states : Table String RolloutHostState} {update : RolloutHostState → RolloutHostState}
    {test : HostInstallStatus → Bool} (kept : ∀ state, test (update state).installStatus = test state.installStatus)
    (hosts : List String) (host : String) :
    ((hosts.foldl (fun states host => states.modify host update) states).lookup host).any (test ·.installStatus) =
      (states.lookup host).any (test ·.installStatus) := by
  induction hosts generalizing states with
  | nil => rfl
  | cons first rest ih =>
    rw [List.foldl_cons, ih, Table.lookup_modify]
    split
    · next same =>
      rw [← same]
      cases states.lookup host with
      | none => rfl
      | some state => exact kept state
    · rfl

/-- Starting a phase ends no host and takes none back. -/
theorem isTerminal_withStarted (self : FleetDistributionRollout F) (phaseId : Ulid) (now : DateTime) (index : ℕ)
    (phase : RolloutPhase) (host : String) :
    (self.withStarted phaseId now index phase).hostIs (·.isTerminal) host = self.hostIs (·.isTerminal) host :=
  hostIs_modify isTerminal_beginDownload phase.hosts host

theorem unstuck_withStarted (clean : self.Unstuck) {phaseId : Ulid} {index : ℕ} {phase : RolloutPhase}
    (checks : self.MayStart phaseId index phase) (now : DateTime) :
    (self.withStarted phaseId now index phase).Unstuck ↔ self.Open phase := by
  obtain ⟨bound, -⟩ := List.getElem?_eq_some_iff.mp checks.stored
  simp only [Unstuck, isTerminal_withStarted, open_iff]
  constructor
  · intro moving
    exact moving { phase with state := .inProgress, startedAt := some now } (List.mem_set bound _) rfl
  · intro going other member busy
    obtain old | rfl := List.mem_or_eq_of_mem_set member
    · exact clean other old busy
    · exact going

/-- An unknown host is refused. -/
theorem onHost_unknown {hostId : String} (unknown : self.hostIs (fun _ => true) hostId = false)
    (next : RolloutHostState → Call F Unit) : onHost hostId next self = .error (.hostNotInRollout hostId) self := by
  rw [onHost, Stateful.get_bind_apply]
  cases stored : self.hostStates.lookup hostId with
  | none => rfl
  | some state => simp [hostIs, stored] at unknown

/-- An error report fails the host and looks at no phase. -/
theorem reportHostError_apply {hostId : String} (known : self.hostIs (fun _ => true) hostId = true) (error : String)
    (now : DateTime) :
    ∃ after, reportHostError hostId error now self = .ok () after ∧ after.phases = self.phases ∧
      ∀ test other, after.hostIs test other = if other = hostId then test .failed else self.hostIs test other := by
  obtain ⟨state, stored, -⟩ := (Option.any_eq_true _ _).mp known
  rw [reportHostError, onHost, Stateful.get_bind_apply, stored]
  refine ⟨_, rfl, rfl, ?_⟩
  exact hostIs_insert { state with
    errorMessage := some error, installStatus := .failed, lastUpdate := now, attempt := state.attempt + 1 } rfl

/-- A retry of a host that has not ended, or is not there, changes nothing. -/
theorem retryHost_idle {hostId : String} (idle : self.hostIs (·.isTerminal) hostId = false) (now : DateTime) :
    Stateful.finalState (retryHost hostId now self) = self := by
  rw [retryHost, onHost, Stateful.get_bind_apply]
  cases stored : self.hostStates.lookup hostId with
  | none => rfl
  | some state =>
    have busy : state.installStatus.isTerminal = false := by simpa [hostIs, stored] using idle
    simp only [busy, Bool.false_eq_true, if_false]
    rfl

variable [F64 F]

variable {α : Type} {phases : List RolloutPhase} {targetHosts : List String} {strategy : RolloutStrategy F}
  (rolloutId : Ulid)

theorem unstuck_step_startPhase (clean : self.Unstuck) (phaseId : Ulid) (now : DateTime) :
    (self.step (.startPhase phaseId now)).Unstuck ↔ self.MovesOn (.startPhase phaseId now) := by
  obtain ⟨index, phase, checks, same⟩ | ⟨refused, same⟩ := step_startPhase self phaseId now
  · rw [same, unstuck_withStarted clean checks]
    constructor
    · intro going other another found
      obtain ⟨-, rfl⟩ := checks.unique found
      exact going
    · exact fun moves => moves index phase checks
  · rw [same]
    exact iff_of_true clean fun index phase checks => absurd ⟨index, phase, checks⟩ refused

theorem unstuck_step_reportHostStatus (clean : self.Unstuck) (hostId : String) (status : HostInstallStatus)
    (now : DateTime) : (self.step (.reportHostStatus hostId status now)).Unstuck := by
  rw [step, call]
  cases known : self.hostIs (fun _ => true) hostId with
  | true =>
    obtain ⟨after, ran, phases, -⟩ := reportHostStatus_apply known status now
    rw [ran]
    exact Unstuck.of_closed phases
  | false =>
    rw [reportHostStatus, onHost_unknown known]
    exact clean

theorem unstuck_step_reportHostError (clean : self.Unstuck) (hostId error : String) (now : DateTime) :
    (self.step (.reportHostError hostId error now)).Unstuck ↔ self.MovesOn (.reportHostError hostId error now) := by
  rw [step, call, MovesOn]
  cases known : self.hostIs (fun _ => true) hostId with
  | true =>
    obtain ⟨after, ran, phases, statuses⟩ := reportHostError_apply known error now
    rw [ran, unstuck_iff_open]
    simp only [Stateful.finalState, phases, Open, statuses, forall_const]
    refine forall₃_congr fun phase _ _ => exists_congr fun host => and_congr_right fun _ => ?_
    by_cases same : host = hostId
    · simp [same, HostInstallStatus.isTerminal]
    · simp [same]
  | false =>
    rw [reportHostError, onHost_unknown known]
    exact iff_of_true clean fun impossible => Bool.noConfusion impossible

theorem unstuck_step_retryHost (clean : self.Unstuck) (hostId : String) (now : DateTime) :
    (self.step (.retryHost hostId now)).Unstuck := by
  rw [step, call]
  cases ended : self.hostIs (·.isTerminal) hostId with
  | true =>
    obtain ⟨after, ran, phases, -, -, statuses⟩ := retryHost_apply ended now
    rw [ran]
    apply clean.of_reopened phases
    intro host terminal
    simp only [statuses] at terminal
    split at terminal
    · cases terminal
    · exact terminal
  | false => rwa [retryHost_idle ended]

theorem toChunks_go_flatten (size : ℕ) (rest : List α) (chunk : Array α) (chunks : Array (List α)) :
    (List.toChunks.go size rest chunk chunks).flatten = chunks.toList.flatten ++ chunk.toList ++ rest := by
  induction rest generalizing chunk chunks with
  | nil => simp [List.toChunks.go]
  | cons next rest ih =>
    rw [List.toChunks.go]
    split
    · rw [ih]
      simp
    · rw [ih]
      simp

/-- The batches of a rolling plan are the target hosts in order. -/
theorem toChunks_flatten (size : ℕ) (xs : List α) : (xs.toChunks size).flatten = xs := by
  unfold List.toChunks
  split
  · rfl
  · simp
  · rw [toChunks_go_flatten]
    simp

/-- A plan sets pending phases over target hosts. -/
theorem plannedPhases_ok {mint : ℕ → Ulid} (planned : self.plannedPhases mint = .ok phases) :
    ∀ phase ∈ phases, phase.state = .pending ∧ phase.hosts ⊆ self.targetHosts := by
  unfold plannedPhases at planned
  intro phase member
  split at planned
  · cases planned
    obtain rfl := List.mem_singleton.mp member
    exact ⟨rfl, List.Subset.refl _⟩
  · cases planned
    unfold canaryPhases at member
    split at member
    · obtain rfl | rfl := List.mem_pair.mp member
      · exact ⟨rfl, List.take_subset _ _⟩
      · exact ⟨rfl, List.drop_subset _ _⟩
    · obtain rfl := List.mem_singleton.mp member
      exact ⟨rfl, List.Subset.refl _⟩
  · unfold rollingPhases at planned
    split at planned
    · cases planned
    · cases planned
      obtain ⟨index, bound, rfl⟩ := List.mem_mapIdx.mp member
      refine ⟨rfl, fun host listed => ?_⟩
      rw [← toChunks_flatten _ self.targetHosts]
      exact List.mem_flatten.mpr ⟨_, List.getElem_mem bound, listed⟩
  · cases planned
    obtain rfl | rfl := List.mem_pair.mp member
    · exact ⟨rfl, List.take_subset _ _⟩
    · exact ⟨rfl, List.drop_subset _ _⟩

/-- A plan replaces the phases, or nothing changes. -/
theorem step_planPhases_cases (self : FleetDistributionRollout F) (mint : ℕ → Ulid) :
    (∃ phases, self.plannedPhases mint = .ok phases ∧ self.step (.planPhases mint) = { self with phases }) ∨
      self.step (.planPhases mint) = self := by
  simp only [step, call, planPhases]
  rw [Stateful.bind_apply, Stateful.get_bind_apply]
  cases self.targetHosts.isEmpty with
  | true => exact .inr rfl
  | false =>
    simp only [Bool.false_eq_true, if_false]
    cases planned : self.plannedPhases mint with
    | error failure => exact .inr rfl
    | ok phases => exact .inl ⟨phases, rfl, rfl⟩

theorem unstuck_step_planPhases (clean : self.Unstuck) (mint : ℕ → Ulid) : (self.step (.planPhases mint)).Unstuck := by
  obtain ⟨phases, planned, same⟩ | same := step_planPhases_cases self mint
  · rw [same]
    apply Unstuck.of_idle
    intro phase member
    rw [(plannedPhases_ok planned phase member).1]
    decide
  · rwa [same]

theorem mem_movePhases {source target : PhaseState} {phase : RolloutPhase}
    (member : phase ∈ movePhases phases source target) :
    (phase ∈ phases ∧ phase.state ≠ source) ∨
      ∃ before ∈ phases, before.state = source ∧ phase = { before with state := target } := by
  obtain ⟨before, listed, rfl⟩ := List.mem_map.mp member
  by_cases moved : before.state = source
  · exact .inr ⟨before, listed, moved, if_pos moved⟩
  · rw [if_neg moved]
    exact .inl ⟨listed, moved⟩

theorem unstuck_step_pauseRollout (clean : self.Unstuck) : (self.step .pauseRollout).Unstuck := by
  simp only [step, call, pauseRollout]
  rw [Stateful.get_bind_apply]
  cases self.aborted with
  | true => exact clean
  | false =>
    apply Unstuck.of_idle
    intro phase member
    obtain ⟨-, idle⟩ | ⟨before, -, -, rfl⟩ := mem_movePhases member
    · exact idle
    · exact PhaseState.noConfusion

theorem unstuck_step_resumeRollout (clean : self.Unstuck) :
    (self.step .resumeRollout).Unstuck ↔ self.MovesOn .resumeRollout := by
  simp only [step, call, resumeRollout, MovesOn]
  rw [Stateful.get_bind_apply]
  cases self.aborted with
  | true => exact iff_of_true clean fun impossible => Bool.noConfusion impossible
  | false =>
  cases self.paused with
  | false => exact iff_of_true clean fun _ impossible => Bool.noConfusion impossible
  | true =>
    simp only [Bool.false_eq_true, if_false, if_true, forall_const]
    change Unstuck { self with paused := false, phases := movePhases self.phases .paused .inProgress } ↔ _
    simp only [open_iff]
    constructor
    · intro moving phase member held
      have moved : { phase with state := .inProgress } ∈ movePhases self.phases .paused .inProgress :=
        List.mem_map.mpr ⟨phase, member, if_pos held⟩
      exact moving { phase with state := .inProgress } moved rfl
    · intro going phase member busy
      obtain ⟨listed, -⟩ | ⟨before, listed, held, rfl⟩ := mem_movePhases member
      · exact clean phase listed busy
      · exact going before listed held

theorem unstuck_step_abortRollout (clean : self.Unstuck) (now : DateTime) :
    (self.step (.abortRollout now)).Unstuck := by
  simp only [step, call, abortRollout]
  rw [Stateful.get_bind_apply]
  cases self.aborted with
  | true => exact clean
  | false =>
    apply Unstuck.of_idle
    intro phase member
    obtain ⟨before, -, rfl⟩ := List.mem_map.mp member
    rw [abortPhase]
    split
    · next ended => exact fun busy => by simp [busy, PhaseState.isTerminal] at ended
    · exact PhaseState.noConfusion

/-- A step leaves a phase stuck exactly if it is one of the three that do not bring phases up to date. -/
theorem unstuck_step (clean : self.Unstuck) (op : RolloutOp F) : (self.step op).Unstuck ↔ self.MovesOn op := by
  cases op with
  | setEvidenceEmitter => exact iff_of_true clean trivial
  | setCanaryThreshold percentage =>
    refine iff_of_true ?_ trivial
    simp only [step, call, setCanaryThreshold]
    split
    · exact clean
    · exact clean
  | planPhases mint => exact iff_of_true (unstuck_step_planPhases clean mint) trivial
  | startPhase phaseId now => exact unstuck_step_startPhase clean phaseId now
  | reportHostStatus hostId status now =>
    exact iff_of_true (unstuck_step_reportHostStatus clean hostId status now) trivial
  | reportHostError hostId error now => exact unstuck_step_reportHostError clean hostId error now
  | retryHost hostId now => exact iff_of_true (unstuck_step_retryHost clean hostId now) trivial
  | pauseRollout => exact iff_of_true (unstuck_step_pauseRollout clean) trivial
  | resumeRollout => exact unstuck_step_resumeRollout clean
  | abortRollout now => exact iff_of_true (unstuck_step_abortRollout clean now) trivial

/-! ## A run into a stuck phase

Every plan has one: all target hosts report activation before their phase is started, and the phase
that is then started stays in progress.
-/

theorem toChunks_ne_nil {xs : List α} (filled : xs ≠ []) (size : ℕ) : xs.toChunks size ≠ [] := by
  intro none_left
  apply filled
  rw [← toChunks_flatten size xs, none_left, List.flatten_nil]

/-- A plan over some host succeeds, unless its batches are empty. -/
theorem plannedPhases_total (self : FleetDistributionRollout F) (filled : self.targetHosts ≠ [])
    (batches : ∀ pauseSeconds, self.strategy ≠ .rolling 0 pauseSeconds) (mint : ℕ → Ulid) :
    ∃ phase rest, self.plannedPhases mint = .ok (phase :: rest) := by
  unfold plannedPhases
  split
  · exact ⟨_, _, rfl⟩
  · unfold canaryPhases
    split
    · exact ⟨_, _, rfl⟩
    · exact ⟨_, _, rfl⟩
  · next batchSize pauseSeconds strategy =>
    have some_host : batchSize ≠ 0 := fun none => batches pauseSeconds (none ▸ strategy)
    obtain ⟨chunk, chunks, split⟩ := List.exists_cons_of_ne_nil (toChunks_ne_nil filled batchSize)
    rw [rollingPhases, if_neg some_host, split, List.mapIdx_cons]
    exact ⟨_, _, rfl⟩
  · exact ⟨_, _, rfl⟩

theorem step_planPhases_ok (filled : self.targetHosts ≠ []) {mint : ℕ → Ulid}
    (planned : self.plannedPhases mint = .ok phases) : self.step (.planPhases mint) = { self with phases } := by
  have some_host : self.targetHosts.isEmpty = false := by simpa using filled
  simp only [step, call, planPhases]
  rw [Stateful.bind_apply, Stateful.get_bind_apply, some_host]
  simp only [Bool.false_eq_true, if_false, planned]
  rfl

/-- All target hosts are activated, and then the first phase of a plan is started. -/
theorem exists_stuck (now : DateTime) (filled : targetHosts ≠ [])
    (batches : ∀ pauseSeconds, strategy ≠ .rolling 0 pauseSeconds) :
    ∃ ops, ¬ (runFrom (new rolloutId targetHosts strategy now) ops).Unstuck := by
  obtain ⟨phase, rest, planned⟩ := plannedPhases_total
    (new rolloutId targetHosts strategy now) filled batches fun _ => ""
  obtain ⟨pending, within⟩ := plannedPhases_ok planned phase List.mem_cons_self
  have start : (new rolloutId targetHosts strategy now).step (.planPhases fun _ => "") =
      { new rolloutId targetHosts strategy now with phases := phase :: rest } := step_planPhases_ok filled planned
  have idle : ∀ other ∈ ((new rolloutId targetHosts strategy now).step (.planPhases fun _ => "")).phases,
      other.state ≠ .inProgress := by
    rw [start]
    intro other member
    rw [(plannedPhases_ok planned other member).1]
    decide
  have known : ∀ host ∈ targetHosts,
      ((new rolloutId targetHosts strategy now).step (.planPhases fun _ => "")).hostIs (fun _ => true) host = true := by
    rw [start]
    exact fun host member => hostIs_new rolloutId strategy now member
  obtain ⟨after, reached, phases, running, unpaused, active⟩ := runFrom_activated idle known
  rw [start] at phases running unpaused
  have checks : after.MayStart phase.phaseId 0 phase := by
    refine ⟨running, unpaused, ?_, by rw [phases]; rfl, fun later => absurd later (Nat.lt_irrefl 0), ?_⟩
    · rw [phases]
      simp [List.findIdx?_cons]
    · rw [pending]
      decide
  refine ⟨.planPhases (fun _ => "") :: (targetHosts.map (.reportHostStatus · .activated 0) ++
    [.startPhase phase.phaseId 0]), ?_⟩
  rw [runFrom] at reached ⊢
  rw [StepRun.run_cons, StepRun.run_append, reached, StepRun.run_cons, StepRun.run_nil, checks.step]
  intro moving
  refine moving { phase with state := .inProgress, startedAt := some 0 } ?_ rfl fun host listed => ?_
  · rw [withStarted, phases]
    exact List.mem_cons_self
  · rw [isTerminal_withStarted]
    exact hostIs_mono (fun status activated => by rw [eq_of_beq activated]; rfl) (active host (.inl (within listed)))

theorem unstuck_new (targetHosts : List String) (strategy : RolloutStrategy F) (now : DateTime) :
    (new rolloutId targetHosts strategy now).Unstuck :=
  fun _ member => absurd member List.not_mem_nil

/-- Without targets, or in batches of none, nothing is planned. -/
theorem step_planPhases_refused
    (refused : self.targetHosts = [] ∨ ∃ pauseSeconds, self.strategy = .rolling 0 pauseSeconds) (mint : ℕ → Ulid) :
    self.step (.planPhases mint) = self := by
  obtain empty | ⟨pauseSeconds, rolling⟩ := refused
  · simp only [step, call, planPhases]
    rw [Stateful.bind_apply, Stateful.get_bind_apply, empty]
    rfl
  · obtain ⟨phases, planned, -⟩ | same := step_planPhases_cases self mint
    · rw [plannedPhases, rolling] at planned
      cases planned
    · exact same

/-- No plan of the rollout succeeds, and none is there. -/
structure Unplanned (rollout : FleetDistributionRollout F) : Prop where
  refused : rollout.targetHosts = [] ∨ ∃ pauseSeconds, rollout.strategy = .rolling 0 pauseSeconds
  empty : rollout.phases = []

theorem Unplanned.step (unplanned : self.Unplanned) (op : RolloutOp F) : (self.step op).Unplanned := by
  obtain ⟨mint, rfl⟩ | kept := step_layout self op
  · rwa [step_planPhases_refused unplanned.refused]
  · simp only [layout, Prod.mk.injEq] at kept
    obtain ⟨targets, strategy, batches⟩ := kept
    refine ⟨by rw [targets, strategy]; exact unplanned.refused, ?_⟩
    rw [unplanned.empty] at batches
    exact List.map_eq_nil_iff.mp batches

/-- A rollout that cannot be planned has no phase. -/
theorem unstuck_of_unplanned {rolloutId : Ulid} {now : DateTime}
    (refused : targetHosts = [] ∨ ∃ pauseSeconds, strategy = .rolling 0 pauseSeconds) (ops : List (RolloutOp F)) :
    (runFrom (new rolloutId targetHosts strategy now) ops).Unstuck := by
  have unplanned : (runFrom (new rolloutId targetHosts strategy now) ops).Unplanned :=
    StepRun.run_invariant Unplanned (fun _ op held => held.step op) ⟨refused, rfl⟩ ops
  intro phase member
  rw [unplanned.empty] at member
  exact absurd member List.not_mem_nil

/-- In a run no phase is stuck exactly if each start, error report and resumption leaves a host to
wait for in every phase in progress; no run of a rollout gets stuck exactly if it cannot be planned. -/
theorem unstuck_iff (targetHosts : List String) (strategy : RolloutStrategy F) (now : DateTime) :
    (∀ ops, (∀ before, before <+: ops → (runFrom (new rolloutId targetHosts strategy now) before).Unstuck) ↔
      StepRun.Along step MovesOn (new rolloutId targetHosts strategy now) ops) ∧
    ((∀ ops, (runFrom (new rolloutId targetHosts strategy now) ops).Unstuck) ↔
      targetHosts = [] ∨ ∃ pauseSeconds, strategy = .rolling 0 pauseSeconds) := by
  refine ⟨fun ops => ?_, fun unstuck => ?_, fun unplanned ops => unstuck_of_unplanned unplanned ops⟩
  · rw [StepRun.along_iff_cut]
    exact StepRun.forall_prefix_iff_cut (unstuck_new rolloutId targetHosts strategy now)
      fun _ op _ _ clean => unstuck_step clean op
  · by_contra planned
    rw [not_or, not_exists] at planned
    obtain ⟨ops, stuck⟩ := exists_stuck rolloutId now planned.1 planned.2
    exact stuck (unstuck ops)

/-- The only host of a started phase reports an error: the phase stays in progress. -/
theorem not_unstuck_hostError :
    ¬ (runFrom (new "rollout" ["h0"] (.allAtOnce : RolloutStrategy ℚ) 0)
      [.planPhases fun _ => "p0", .startPhase "p0" 0, .reportHostError "h0" "disk full" 0]).Unstuck := by
  intro moving
  refine moving ⟨"p0", ["h0"], some 0, none, .inProgress⟩ (by decide +kernel) rfl ?_
  decide +kernel

end FleetDistributionRollout

/-! ## Phase plans as partitions

`plan_phases` cuts the target hosts into phases by one of four rules. The batches are the targets in
order under every rule; `canary_phases` takes care that both of its phases have a host, and
`blue_green_phases` halves the targets without that care.
-/

namespace FleetDistributionRollout

variable {F : Type} {self : FleetDistributionRollout F}

/-! ### Chunks -/

/-- The chunk under construction has an element, so every chunk that is put away has one. -/
theorem toChunks_go_ne_nil {α : Type} {size : ℕ} {rest : List α} {chunk : Array α} {chunks : Array (List α)}
    (started : chunk.toList ≠ []) (filled : ∀ batch ∈ chunks, batch ≠ []) :
    ∀ batch ∈ List.toChunks.go size rest chunk chunks, batch ≠ [] := by
  induction rest generalizing chunk chunks with
  | nil =>
    intro batch member
    rw [List.toChunks.go, Array.toList_push, List.mem_append, List.mem_singleton, Array.mem_toList_iff] at member
    obtain earlier | rfl := member
    · exact filled batch earlier
    · exact started
  | cons next rest ih =>
    rw [List.toChunks.go]
    split
    · apply ih
      · simp
      · intro batch member
        obtain earlier | rfl := Array.mem_push.mp member
        · exact filled batch earlier
        · exact started
    · apply ih
      · simp
      · exact filled

theorem chunk_ne_nil {α : Type} (size : ℕ) (xs : List α) : ∀ batch ∈ xs.toChunks size, batch ≠ [] := by
  unfold List.toChunks
  split
  · simp
  · next nonempty => simpa using nonempty
  · exact toChunks_go_ne_nil (by simp) (by simp)

/-! ### The four rules -/

/-- The phases split the targets, in order. -/
def Splits (phases : List RolloutPhase) (targetHosts : List String) : Prop :=
  phases.flatMap (·.hosts) = targetHosts

/-- No phase is without a host. -/
def Filled (phases : List RolloutPhase) : Prop := ∀ phase ∈ phases, phase.hosts ≠ []

theorem rollingPhases_hosts {targetHosts : List String} {batchSize : ℕ} {mint : ℕ → Ulid} {phases : List RolloutPhase}
    (planned : rollingPhases (F := F) targetHosts batchSize mint = .ok phases) :
    phases.map (·.hosts) = targetHosts.toChunks batchSize := by
  unfold rollingPhases at planned
  split at planned
  · cases planned
  · cases planned
    apply List.ext_getElem?
    intro index
    simp [RolloutPhase.new, Function.comp_def]

theorem blueGreenPhases_splits (targetHosts : List String) (mint : ℕ → Ulid) :
    Splits (blueGreenPhases targetHosts mint) targetHosts := by
  simp [blueGreenPhases, Splits, RolloutPhase.new]

/-- The first half of a single host is empty. -/
theorem blueGreenPhases_filled {targetHosts : List String} (some_host : targetHosts ≠ []) (mint : ℕ → Ulid) :
    Filled (blueGreenPhases targetHosts mint) ↔ targetHosts.length ≠ 1 := by
  have positive := List.length_pos_iff.mpr some_host
  simp only [Filled, blueGreenPhases, List.forall_mem_cons, List.not_mem_nil, false_implies, implies_true, and_true,
    RolloutPhase.new, ← List.length_pos_iff, List.length_take, List.length_drop]
  omega

variable [F64 F]

variable {mint : ℕ → Ulid} {phases : List RolloutPhase}

theorem canaryPhases_splits (targetHosts : List String) (percentage : F) (mint : ℕ → Ulid) :
    Splits (canaryPhases targetHosts percentage mint) targetHosts := by
  unfold canaryPhases Splits
  split
  · simp [RolloutPhase.new]
  · simp [RolloutPhase.new]

theorem canaryPhases_filled {targetHosts : List String} (some_host : targetHosts ≠ []) (percentage : F)
    (mint : ℕ → Ulid) : Filled (canaryPhases targetHosts percentage mint) := by
  have positive := canaryCount_pos (List.length_pos_iff.mpr some_host) percentage
  unfold canaryPhases Filled
  split
  · next partly =>
    intro phase member
    obtain rfl | rfl := List.mem_pair.mp member
    · apply List.ne_nil_of_length_pos
      rw [RolloutPhase.new, List.length_take]
      omega
    · apply List.ne_nil_of_length_pos
      rw [RolloutPhase.new, List.length_drop]
      omega
  · intro phase member
    obtain rfl := List.mem_singleton.mp member
    exact some_host

/-! ### Plans -/

/-- A plan over some host. -/
theorem planPhases_ok {after : FleetDistributionRollout F} (ran : planPhases mint self = .ok phases after) :
    self.targetHosts ≠ [] ∧ self.plannedPhases mint = .ok phases := by
  rw [planPhases, Stateful.get_bind_apply] at ran
  cases empty : self.targetHosts with
  | nil =>
    rw [empty] at ran
    cases ran
  | cons first rest =>
    rw [empty] at ran
    cases planned : self.plannedPhases mint with
    | error failure =>
      rw [planned] at ran
      cases ran
    | ok planned' =>
      rw [planned] at ran
      cases ran
      exact ⟨List.cons_ne_nil _ _, rfl⟩

theorem plannedPhases_splits (planned : self.plannedPhases mint = .ok phases) : Splits phases self.targetHosts := by
  unfold plannedPhases at planned
  split at planned
  · cases planned
    simp [Splits, RolloutPhase.new]
  · cases planned
    exact canaryPhases_splits _ _ _
  · rw [Splits, List.flatMap_def, rollingPhases_hosts planned, toChunks_flatten]
  · cases planned
    exact blueGreenPhases_splits _ _

/-- Halving a single host is the one rule that leaves a phase without one. -/
theorem plannedPhases_filled (some_host : self.targetHosts ≠ []) (planned : self.plannedPhases mint = .ok phases) :
    Filled phases ↔ ¬ (self.strategy = .blueGreen ∧ self.targetHosts.length = 1) := by
  unfold plannedPhases at planned
  split at planned
  · next strategy =>
    cases planned
    simpa [strategy, Filled, RolloutPhase.new] using some_host
  · next strategy =>
    cases planned
    simpa [strategy] using canaryPhases_filled some_host _ mint
  · next strategy =>
    refine iff_of_true (fun phase member => ?_) (by simp [strategy])
    apply chunk_ne_nil
    rw [← rollingPhases_hosts planned]
    exact List.mem_map.mpr ⟨phase, member, rfl⟩
  · next strategy =>
    cases planned
    simpa [strategy] using blueGreenPhases_filled some_host mint

/-- What a plan that succeeds gives: the targets in order, and no phase without a host. -/
def PlanPartitions (self : FleetDistributionRollout F) (mint : ℕ → Ulid) : Prop :=
  ∀ phases after, planPhases mint self = .ok phases after → Splits phases self.targetHosts ∧ Filled phases

/-- The phases of a plan always split the targets, and none is empty unless a single host is halved. -/
theorem planPartitions_iff (self : FleetDistributionRollout F) (mint : ℕ → Ulid) :
    (∀ phases after, planPhases mint self = .ok phases after → Splits phases self.targetHosts) ∧
      (self.PlanPartitions mint ↔ ¬ (self.strategy = .blueGreen ∧ self.targetHosts.length = 1)) := by
  refine ⟨fun phases after ran => plannedPhases_splits (planPhases_ok ran).2, fun partitions => ?_, ?_⟩
  · rintro ⟨halved, single⟩
    cases strategy : self.strategy with
    | blueGreen =>
      have some_host : self.targetHosts ≠ [] := by
        intro empty
        simp [empty] at single
      have planned : self.plannedPhases mint = .ok (blueGreenPhases self.targetHosts mint) := by
        rw [plannedPhases, strategy]
      obtain ⟨after, ran⟩ : ∃ after, planPhases mint self = .ok (blueGreenPhases self.targetHosts mint) after := by
        rw [planPhases, Stateful.get_bind_apply, List.isEmpty_eq_false_iff.mpr some_host, planned]
        exact ⟨_, rfl⟩
      exact (blueGreenPhases_filled some_host mint).mp (partitions _ _ ran).2 single
    | _ => simp [strategy] at halved
  · intro fits phases after ran
    obtain ⟨some_host, planned⟩ := planPhases_ok ran
    exact ⟨plannedPhases_splits planned, (plannedPhases_filled some_host planned).mpr fits⟩

/-- One host on blue-green: the green phase is planned without a host. -/
theorem not_planPartitions_single :
    ¬ (new "rollout" ["h0"] (.blueGreen : RolloutStrategy ℚ) 0).PlanPartitions fun _ => "p" := by
  intro partitions
  exact (partitions _ _ rfl).2 (.new "p" []) List.mem_cons_self rfl

end FleetDistributionRollout

end Aios.Fleet
