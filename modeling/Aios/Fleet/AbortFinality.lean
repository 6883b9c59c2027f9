import Aios.Fleet.PhaseProgress

/-! # What an abort leaves open

`abort_rollout` ends every host and closes every phase, and `start_phase`, `pause_rollout` and
`resume_rollout` refuse to work on an aborted rollout. The reports of hosts, `retry_host` and
`plan_phases` do not look at the flag.
-/

namespace Aios.Fleet

open Aios.Rust

namespace FleetDistributionRollout

variable {F : Type} {self after : FleetDistributionRollout F}

section

variable {host : String} (now : DateTime) (state : RolloutHostState)

/-! ## The hosts of an aborted rollout -/

/-- Aborting an installation activates no host. -/
theorem activated_abortInstall :
    ((state.abortInstall now).installStatus == .activated) = (state.installStatus == .activated) := by
  rw [RolloutHostState.abortInstall]
  split
  · rfl
  · next busy =>
    cases status : state.installStatus with
    | activated => simp [status, HostInstallStatus.isTerminal] at busy
    | _ => rfl

theorem isTerminal_abortInstall : (state.abortInstall now).installStatus.isTerminal = true := by
  rw [RolloutHostState.abortInstall]
  split
  · assumption
  · rfl

/-- An abort ends every host it goes through. -/
theorem lookup_abortInstall {states : Table String RolloutHostState} {hosts : List String}
    (before : host ∈ hosts ∨ (states.lookup host).any (fun state => !state.installStatus.isTerminal) = false) :
    ((hosts.foldl (fun states host => states.modify host (.abortInstall now)) states).lookup host).any
      (fun state => !state.installStatus.isTerminal) = false := by
  induction hosts generalizing states with
  | nil => exact before.resolve_left List.not_mem_nil
  | cons first rest ih =>
    apply ih
    rw [Table.lookup_modify]
    split
    · right
      cases states.lookup first with
      | none => rfl
      | some state => simp [isTerminal_abortInstall]
    · next other => exact before.imp_left fun member => (List.mem_cons.mp member).resolve_left other

/-! ## Steps of an aborted rollout -/

/-- What is to hold of each step into an aborted rollout: all hosts have ended, none is newly activated,
and the closed phases are there as they were closed. -/
structure AbortKept (before after : FleetDistributionRollout F) : Prop where
  ended : ∀ host, after.hostIs (fun status => !status.isTerminal) host = false
  inactive : ∀ host, after.hostIs (· == .activated) host = true → before.hostIs (· == .activated) host = true
  closed : ∀ (index : ℕ) phase, before.phases[index]? = some phase → phase.state.isTerminal = true →
    ∃ later, after.phases[index]? = some later ∧ later.phaseId = phase.phaseId ∧ later.state = phase.state

/-- The requests that undo an abort where they get through: a report that a known host is at work or newly
activated, a retry of a known host, and a plan in the place of closed phases. -/
def LateIgnored (self : FleetDistributionRollout F) : RolloutOp F → Prop
  | .planPhases _ => (∀ phase ∈ self.phases, phase.state.isTerminal = false) ∨ self.targetHosts = [] ∨
      ∃ pauseSeconds, self.strategy = .rolling 0 pauseSeconds
  | .reportHostStatus hostId status _ => self.hostIs (fun _ => true) hostId = true →
      status.isTerminal = true ∧ (status = .activated → self.hostIs (· == .activated) hostId = true)
  | .retryHost hostId _ => self.hostIs (fun _ => true) hostId = false
  | _ => True

/-- The hosts on record are target hosts, and all of them have ended once the rollout is aborted. -/
structure Settled (rollout : FleetDistributionRollout F) : Prop where
  listed : ∀ host, rollout.hostIs (fun _ => true) host = true → host ∈ rollout.targetHosts
  ended : rollout.aborted = true → ∀ host, rollout.hostIs (fun status => !status.isTerminal) host = false

/-- A known host of which nothing but an end is on record has ended. -/
theorem Settled.isTerminal (settled : self.Settled) (aborted : self.aborted = true)
    (known : self.hostIs (fun _ => true) host = true) : self.hostIs (·.isTerminal) host = true := by
  obtain ⟨state, stored, -⟩ := (Option.any_eq_true _ _).mp known
  have ended := settled.ended aborted host
  simpa [hostIs, stored] using ended

/-- A step that changes neither hosts nor phases undoes nothing. -/
theorem AbortKept.of_same (ended : ∀ host, self.hostIs (fun status => !status.isTerminal) host = false)
    (states : after.hostStates = self.hostStates) (phases : after.phases = self.phases) : AbortKept self after := by
  refine ⟨fun host => ?_, fun host active => ?_, fun index phase stored _ => ⟨phase, phases ▸ stored, rfl, rfl⟩⟩
  · rw [hostIs, states]
    exact ended host
  · rwa [hostIs, states] at active

/-- Closing what is in progress leaves the closed phases alone. -/
theorem closed_kept {now : DateTime} (phases : after.phases = self.phases.map (after.closed now)) {index : ℕ}
    {phase : RolloutPhase} (stored : self.phases[index]? = some phase) (terminal : phase.state.isTerminal = true) :
    ∃ later, after.phases[index]? = some later ∧ later.phaseId = phase.phaseId ∧ later.state = phase.state := by
  have idle : phase.state ≠ .inProgress := by
    intro busy
    rw [busy] at terminal
    cases terminal
  refine ⟨phase, ?_, rfl, rfl⟩
  rw [phases, List.getElem?_map, stored, Option.map_some, closed_of_idle idle]

/-- A known host stays known and an unknown one unknown, whatever is stored under a known one. -/
theorem known_of_onHost {hostId : String} (known : self.hostIs (fun _ => true) hostId = true)
    {status : HostInstallStatus}
    (statuses : ∀ test other, after.hostIs test other = if other = hostId then test status else self.hostIs test other)
    (host : String) : after.hostIs (fun _ => true) host = self.hostIs (fun _ => true) host := by
  rw [statuses]
  split
  · next same => rw [same, known]
  · rfl

theorem known_modify (update : RolloutHostState → RolloutHostState) (hosts : List String) (host : String) :
    ((hosts.foldl (fun states host => states.modify host update) self.hostStates).lookup host).any (fun _ => true) =
      self.hostIs (fun _ => true) host :=
  @hostIs_modify _ update (fun _ => true) (fun _ => rfl) hosts host

/-! ## Requests that touch neither hosts nor the flag -/

end

section Keeps

variable {α : Type} {view : FleetDistributionRollout F → α}

theorem pauseRollout_keeps (free : ∀ (self : FleetDistributionRollout F) paused phases,
    view { self with paused, phases } = view self) : Stateful.Keeps view (pauseRollout (F := F)) := by
  refine .of_get fun current => ?_
  cases current.aborted with
  | true => exact .of_throw _
  | false => exact .of_modify fun self => free self _ _

theorem resumeRollout_keeps (free : ∀ (self : FleetDistributionRollout F) paused phases,
    view { self with paused, phases } = view self) : Stateful.Keeps view (resumeRollout (F := F)) := by
  refine .of_get fun current => ?_
  cases current.aborted with
  | true => exact .of_throw _
  | false =>
    cases current.paused with
    | true => exact .of_modify fun self => free self _ _
    | false => exact .of_pure ()

theorem setCanaryThreshold_keeps [F64 F] (free : ∀ (self : FleetDistributionRollout F) canarySuccessThreshold,
    view { self with canarySuccessThreshold } = view self) (percentage : F) :
    Stateful.Keeps view (setCanaryThreshold percentage) := by
  unfold setCanaryThreshold
  split
  · exact .of_throw _
  · exact .of_modify fun self => free self _

end Keeps

variable [F64 F]

def AbortFinal (self : FleetDistributionRollout F) (op : RolloutOp F) : Prop :=
  (self.step op).aborted = true → AbortKept self (self.step op)

theorem step_aborted (self : FleetDistributionRollout F) (op : RolloutOp F) :
    (∃ now, op = .abortRollout now) ∨ (self.step op).aborted = self.aborted := by
  cases op with
  | setEvidenceEmitter => exact .inr rfl
  | setCanaryThreshold percentage => exact .inr (setCanaryThreshold_keeps (fun _ _ => rfl) percentage self)
  | planPhases mint =>
    right
    obtain ⟨phases, -, same⟩ | same := step_planPhases_cases self mint
    · rw [same]
    · rw [same]
  | startPhase phaseId now =>
    right
    obtain ⟨index, phase, -, same⟩ | ⟨-, same⟩ := step_startPhase self phaseId now
    · rw [same, withStarted]
    · rw [same]
  | reportHostStatus hostId status now =>
    right
    rw [step, call]
    cases known : self.hostIs (fun _ => true) hostId with
    | true =>
      obtain ⟨after, ran, -, aborted, -⟩ := reportHostStatus_apply known status now
      rw [ran]
      exact aborted
    | false => rw [reportHostStatus, onHost_unknown known, Stateful.finalState]
  | reportHostError hostId error now =>
    have kept : Stateful.Keeps aborted (reportHostError (F := F) hostId error now) :=
      onHost_keeps fun _ => .of_modify fun _ => rfl
    exact .inr (kept self)
  | retryHost hostId now =>
    have kept : Stateful.Keeps aborted (retryHost (F := F) hostId now) := by
      apply onHost_keeps
      intro state
      split
      · exact .of_modify fun _ => rfl
      · exact .of_pure ()
    exact .inr (kept self)
  | pauseRollout => exact .inr (pauseRollout_keeps (fun _ _ _ => rfl) self)
  | resumeRollout => exact .inr (resumeRollout_keeps (fun _ _ _ => rfl) self)
  | abortRollout now => exact .inl ⟨now, rfl⟩

/-- No step adds a host. -/
theorem known_step (self : FleetDistributionRollout F) (op : RolloutOp F) (host : String) :
    (self.step op).hostIs (fun _ => true) host = self.hostIs (fun _ => true) host := by
  cases op with
  | setEvidenceEmitter => rfl
  | setCanaryThreshold percentage =>
    have kept : Stateful.Keeps (hostIs · (fun _ => true) host) (setCanaryThreshold percentage) :=
      setCanaryThreshold_keeps (fun _ _ => rfl) percentage
    exact kept self
  | planPhases mint =>
    obtain ⟨phases, -, same⟩ | same := step_planPhases_cases self mint
    · rw [same, hostIs, hostIs]
    · rw [same]
  | startPhase phaseId now =>
    obtain ⟨index, phase, -, same⟩ | ⟨-, same⟩ := step_startPhase self phaseId now
    · rw [same]
      exact known_modify _ phase.hosts host
    · rw [same]
  | reportHostStatus hostId status now =>
    rw [step, call]
    cases known : self.hostIs (fun _ => true) hostId with
    | true =>
      obtain ⟨after, ran, -, -, -, statuses⟩ := reportHostStatus_apply known status now
      rw [ran]
      exact known_of_onHost known statuses host
    | false => rw [reportHostStatus, onHost_unknown known, Stateful.finalState]
  | reportHostError hostId error now =>
    rw [step, call]
    cases known : self.hostIs (fun _ => true) hostId with
    | true =>
      obtain ⟨after, ran, -, statuses⟩ := reportHostError_apply known error now
      rw [ran]
      exact known_of_onHost known statuses host
    | false => rw [reportHostError, onHost_unknown known, Stateful.finalState]
  | retryHost hostId now =>
    rw [step, call]
    cases ended : self.hostIs (·.isTerminal) hostId with
    | true =>
      obtain ⟨after, ran, -, -, -, statuses⟩ := retryHost_apply ended now
      rw [ran]
      exact known_of_onHost (hostIs_mono (fun _ _ => rfl) ended) statuses host
    | false => rw [retryHost_idle ended]
  | pauseRollout =>
    have kept : Stateful.Keeps (hostIs · (fun _ => true) host) (pauseRollout (F := F)) :=
      pauseRollout_keeps fun _ _ _ => rfl
    exact kept self
  | resumeRollout =>
    have kept : Stateful.Keeps (hostIs · (fun _ => true) host) (resumeRollout (F := F)) :=
      resumeRollout_keeps fun _ _ _ => rfl
    exact kept self
  | abortRollout now =>
    simp only [step, call, abortRollout]
    rw [Stateful.get_bind_apply]
    cases self.aborted with
    | true => rfl
    | false => exact known_modify _ self.targetHosts host

theorem step_targetHosts (self : FleetDistributionRollout F) (op : RolloutOp F) :
    (self.step op).targetHosts = self.targetHosts := by
  obtain ⟨mint, rfl⟩ | kept := step_layout self op
  · obtain ⟨phases, -, same⟩ | same := step_planPhases_cases self mint
    · rw [same]
    · rw [same]
  · exact congrArg Prod.fst kept

/-! ## What each request spares -/

/-- A plan takes the place of the closed phases. -/
theorem abortKept_planPhases (settled : self.Settled) (aborted : self.aborted = true) (mint : ℕ → Ulid) :
    AbortKept self (self.step (.planPhases mint)) ↔ self.LateIgnored (.planPhases mint) := by
  constructor
  · intro kept
    by_contra late
    simp only [LateIgnored, not_or, not_exists] at late
    obtain ⟨closed, filled, batches⟩ := late
    obtain ⟨phase, member, terminal⟩ : ∃ phase ∈ self.phases, phase.state.isTerminal = true := by simpa using closed
    obtain ⟨first, rest, planned⟩ := plannedPhases_total self filled batches mint
    obtain ⟨index, stored⟩ := List.mem_iff_getElem?.mp member
    obtain ⟨later, present, -, same⟩ := kept.closed index phase stored terminal
    rw [step_planPhases_ok filled planned] at present
    have pending := (plannedPhases_ok planned later (List.mem_of_getElem? present)).1
    rw [← same, pending] at terminal
    cases terminal
  · rintro (none_closed | refused)
    · obtain ⟨phases, -, same⟩ | same := step_planPhases_cases self mint
      · rw [same]
        refine ⟨settled.ended aborted, fun host active => active, fun index phase stored terminal => ?_⟩
        rw [none_closed phase (List.mem_of_getElem? stored)] at terminal
        cases terminal
      · rw [same]
        exact .of_same (settled.ended aborted) rfl rfl
    · rw [step_planPhases_refused refused]
      exact .of_same (settled.ended aborted) rfl rfl

theorem abortKept_reportHostStatus (settled : self.Settled) (aborted : self.aborted = true) (hostId : String)
    (status : HostInstallStatus) (now : DateTime) :
    AbortKept self (self.step (.reportHostStatus hostId status now)) ↔
      self.LateIgnored (.reportHostStatus hostId status now) := by
  rw [step, call, LateIgnored]
  cases known : self.hostIs (fun _ => true) hostId with
  | false =>
    rw [reportHostStatus, onHost_unknown known]
    exact iff_of_true (.of_same (settled.ended aborted) rfl rfl) fun impossible => Bool.noConfusion impossible
  | true =>
    obtain ⟨after, ran, phases, -, -, statuses⟩ := reportHostStatus_apply known status now
    rw [ran]
    constructor
    · intro kept _
      have ended := kept.ended hostId
      rw [Stateful.finalState, statuses, if_pos rfl] at ended
      refine ⟨by simpa using ended, fun activated => kept.inactive hostId ?_⟩
      rw [Stateful.finalState, statuses, if_pos rfl, activated]
      rfl
    · intro spared
      obtain ⟨terminal, earlier⟩ := spared rfl
      refine ⟨fun host => ?_, fun host active => ?_, fun index phase => closed_kept phases⟩
      · rw [Stateful.finalState, statuses]
        split
        · simp [terminal]
        · exact settled.ended aborted host
      · rw [Stateful.finalState, statuses] at active
        split at active
        · next same => rw [same]; exact earlier (eq_of_beq active)
        · exact active

theorem abortKept_reportHostError (settled : self.Settled) (aborted : self.aborted = true) (hostId error : String)
    (now : DateTime) : AbortKept self (self.step (.reportHostError hostId error now)) := by
  rw [step, call]
  cases known : self.hostIs (fun _ => true) hostId with
  | false =>
    rw [reportHostError, onHost_unknown known]
    exact .of_same (settled.ended aborted) rfl rfl
  | true =>
    obtain ⟨after, ran, phases, statuses⟩ := reportHostError_apply known error now
    rw [ran]
    refine ⟨fun host => ?_, fun host active => ?_, fun index phase stored _ => ⟨phase, phases ▸ stored, rfl, rfl⟩⟩
    · rw [Stateful.finalState, statuses]
      split
      · rfl
      · exact settled.ended aborted host
    · rw [Stateful.finalState, statuses] at active
      split at active
      · cases active
      · exact active

/-- A retry takes a host that has ended back to work. -/
theorem abortKept_retryHost (settled : self.Settled) (aborted : self.aborted = true) (hostId : String)
    (now : DateTime) :
    AbortKept self (self.step (.retryHost hostId now)) ↔ self.LateIgnored (.retryHost hostId now) := by
  rw [step, call, LateIgnored]
  cases known : self.hostIs (fun _ => true) hostId with
  | false =>
    rw [retryHost, onHost_unknown known]
    exact iff_of_true (.of_same (settled.ended aborted) rfl rfl) rfl
  | true =>
    obtain ⟨after, ran, -, -, -, statuses⟩ := retryHost_apply (settled.isTerminal aborted known) now
    rw [ran]
    refine iff_of_false (fun kept => ?_) (by decide)
    have ended := kept.ended hostId
    rw [Stateful.finalState, statuses, if_pos rfl] at ended
    cases ended

/-- The abort itself ends every host on record. -/
theorem abortKept_abortRollout (settled : self.Settled) (now : DateTime) :
    AbortKept self (self.step (.abortRollout now)) := by
  simp only [step, call, abortRollout]
  rw [Stateful.get_bind_apply]
  cases aborted : self.aborted with
  | true => exact .of_same (settled.ended aborted) rfl rfl
  | false =>
    refine ⟨fun host => lookup_abortInstall now ?_, fun host active => ?_, fun index phase stored terminal => ?_⟩
    · by_cases known : self.hostIs (fun _ => true) host = true
      · exact .inl (settled.listed host known)
      · right
        cases stored : self.hostStates.lookup host with
        | none => rfl
        | some state => simp [hostIs, stored] at known
    · exact (@hostIs_modify _ _ (· == .activated) (activated_abortInstall now) self.targetHosts host).symm.trans active
    · refine ⟨phase, ?_, rfl, rfl⟩
      change (self.phases.map (abortPhase now))[index]? = some phase
      rw [List.getElem?_map, stored, Option.map_some, abortPhase, if_pos terminal]

/-- A step spares an abort exactly if it is none of the three that do not look at it. -/
theorem abortFinal_step (settled : self.Settled) (op : RolloutOp F) :
    self.AbortFinal op ↔ (self.aborted = true → self.LateIgnored op) := by
  obtain ⟨now, rfl⟩ | same := step_aborted self op
  · exact iff_of_true (fun _ => abortKept_abortRollout settled now) fun _ => trivial
  · rw [AbortFinal, same]
    refine forall_congr' fun aborted => ?_
    have unchanged : AbortKept self self := .of_same (settled.ended aborted) rfl rfl
    cases op with
    | setEvidenceEmitter => exact iff_of_true (.of_same (settled.ended aborted) rfl rfl) trivial
    | setCanaryThreshold percentage =>
      refine iff_of_true ?_ trivial
      simp only [step, call, setCanaryThreshold]
      split
      · exact unchanged
      · exact .of_same (settled.ended aborted) rfl rfl
    | planPhases mint => exact abortKept_planPhases settled aborted mint
    | startPhase phaseId now =>
      refine iff_of_true ?_ trivial
      obtain ⟨index, phase, checks, -⟩ | ⟨-, refused⟩ := step_startPhase self phaseId now
      · rw [checks.running] at aborted
        cases aborted
      · rwa [refused]
    | reportHostStatus hostId status now => exact abortKept_reportHostStatus settled aborted hostId status now
    | reportHostError hostId error now =>
      exact iff_of_true (abortKept_reportHostError settled aborted hostId error now) trivial
    | retryHost hostId now => exact abortKept_retryHost settled aborted hostId now
    | pauseRollout =>
      refine iff_of_true ?_ trivial
      simp only [step, call, pauseRollout]
      rw [Stateful.get_bind_apply, if_pos aborted]
      exact unchanged
    | resumeRollout =>
      refine iff_of_true ?_ trivial
      simp only [step, call, resumeRollout]
      rw [Stateful.get_bind_apply, if_pos aborted]
      exact unchanged
    | abortRollout now => exact iff_of_true (abortKept_abortRollout settled now) trivial

/-! ## Runs -/

section

variable (rolloutId : Ulid) (targetHosts : List String) (strategy : RolloutStrategy F)

variable (now : DateTime) (ops : List (RolloutOp F))

theorem Settled.step (settled : self.Settled) {op : RolloutOp F} (final : self.AbortFinal op) :
    (self.step op).Settled := by
  refine ⟨fun host known => ?_, fun aborted host => (final aborted).ended host⟩
  rw [known_step] at known
  rw [step_targetHosts]
  exact settled.listed host known

theorem Settled.new : (new rolloutId targetHosts strategy now).Settled := by
  refine ⟨fun host known => ?_, fun aborted => Bool.noConfusion aborted⟩
  obtain ⟨state, stored, -⟩ := (Option.any_eq_true _ _).mp known
  obtain ⟨listed, member, rfl, -⟩ | impossible := Table.exists_of_lookup_foldl_insert stored
  · exact member
  · cases impossible

theorem along_abortFinal_iff :
    StepRun.Along step AbortFinal (new rolloutId targetHosts strategy now) ops ↔
      StepRun.Along step (fun self op => self.aborted = true → self.LateIgnored op)
        (new rolloutId targetHosts strategy now) ops :=
  StepRun.along_iff_along Settled (fun _ _ settled final => settled.step final)
    (fun _ op settled => abortFinal_step settled op) (.new rolloutId targetHosts strategy now) ops

/-- Without targets no request gets through to a host or a phase. -/
theorem lateIgnored_of_empty (op : RolloutOp F) : (runFrom (new rolloutId [] strategy now) ops).LateIgnored op := by
  have empty : (runFrom (new rolloutId [] strategy now) ops).targetHosts = [] ∧
      ∀ host, (runFrom (new rolloutId [] strategy now) ops).hostIs (fun _ => true) host = false := by
    apply StepRun.run_invariant fun self : FleetDistributionRollout F =>
      self.targetHosts = [] ∧ ∀ host, self.hostIs (fun _ => true) host = false
    · intro state input held
      simpa only [step_targetHosts, known_step] using held
    · exact ⟨rfl, fun host => rfl⟩
  obtain ⟨targets, unknown⟩ := empty
  cases op with
  | planPhases mint => exact .inr (.inl targets)
  | reportHostStatus hostId status now =>
    intro known
    rw [unknown] at known
    cases known
  | retryHost hostId now => exact unknown hostId
  | _ => trivial

/-- In a run an abort is final exactly if no later report puts a known host to work or activates it, no
known host is retried and no closed phase is planned anew; in all runs it is exactly if there is no host. -/
theorem abortFinal_iff :
    (∀ ops, StepRun.Along step AbortFinal (new rolloutId targetHosts strategy now) ops ↔
      StepRun.Along step (fun self op => self.aborted = true → self.LateIgnored op)
        (new rolloutId targetHosts strategy now) ops) ∧
    ((∀ ops, StepRun.Along step AbortFinal (new rolloutId targetHosts strategy now) ops) ↔ targetHosts = []) := by
  refine ⟨along_abortFinal_iff rolloutId targetHosts strategy now, fun final => ?_, ?_⟩
  · by_contra filled
    obtain ⟨first, rest, rfl⟩ := List.exists_cons_of_ne_nil filled
    -- the first host is retried after the abort
    have along := final [.abortRollout 0, .retryHost first 0]
    rw [along_abortFinal_iff] at along
    have unknown := along.2.1 rfl
    rw [LateIgnored, known_step, hostIs_new rolloutId strategy now List.mem_cons_self] at unknown
    cases unknown
  · rintro rfl ops
    rw [along_abortFinal_iff, StepRun.along_iff_cut]
    exact fun before op _ _ _ => lateIgnored_of_empty rolloutId strategy now before op

/-- The host reports activation after the rollout was aborted. -/
theorem not_abortFinal_lateReport :
    ¬ StepRun.Along step AbortFinal (new "rollout" ["h0"] (.allAtOnce : RolloutStrategy ℚ) 0)
      [.planPhases fun _ => "p0", .startPhase "p0" 0, .abortRollout 0, .reportHostStatus "h0" .activated 0] := by
  rintro ⟨-, -, -, final, -⟩
  have failed := (final (by decide +kernel)).inactive "h0" (by decide +kernel)
  exact absurd failed (by decide +kernel)

end

end FleetDistributionRollout

end Aios.Fleet
