import Aios.Fleet.Rollout
import Mathlib.Data.Rat.Defs

/-! # The canary gate

A canary rollout is meant to go on to the rest of the fleet only after the canary hosts have ended
with enough successes. `can_proceed_to_next_phase` computes that verdict, but `start_phase` asks only
whether the preceding phase is closed, and a phase is closed by any mix of outcomes and stays closed
when one of its hosts is retried.
-/

namespace Aios.Fleet

open Aios.Rust

namespace FleetDistributionRollout

variable {F : Type} {self : FleetDistributionRollout F}

section

variable {after : FleetDistributionRollout F} {hostId host : String} (now : DateTime) (phase : RolloutPhase)

/-! ## What the requests leave alone -/

/-- What every request but a plan leaves alone. -/
def layout (self : FleetDistributionRollout F) : List String × RolloutStrategy F × List (List String) :=
  (self.targetHosts, self.strategy, self.phases.map (·.hosts))

theorem layout_eq (targets : after.targetHosts = self.targetHosts) (strategy : after.strategy = self.strategy)
    (batches : after.phases.map (·.hosts) = self.phases.map (·.hosts)) : after.layout = self.layout := by
  simp only [layout, targets, strategy, batches]

/-- Rewriting phases one by one keeps the batches. -/
theorem map_hosts_map {update : RolloutPhase → RolloutPhase} (kept : ∀ phase, (update phase).hosts = phase.hosts)
    (phases : List RolloutPhase) : (phases.map update).map (·.hosts) = phases.map (·.hosts) := by
  rw [List.map_map]
  exact List.map_congr_left fun phase _ => kept phase

theorem emit_keeps_layout (evidence : RolloutEvidence) : Stateful.Keeps layout (emit (F := F) evidence) :=
  Stateful.Keeps.of_modify fun _ => rfl

theorem closed_hosts : (self.closed now phase).hosts = phase.hosts := by
  unfold closed
  split
  · rfl
  · rfl

theorem closed_phaseId : (self.closed now phase).phaseId = phase.phaseId := by
  unfold closed
  split
  · rfl
  · rfl

theorem autoCompletePhases_keeps_layout (now : DateTime) : Stateful.Keeps layout (autoCompletePhases (F := F) now) := by
  refine .bind (.of_modify fun self => layout_eq rfl rfl (map_hosts_map (closed_hosts now) _)) fun _ => .of_get ?_
  intro current
  cases current.allPhasesTerminal with
  | true => exact emit_keeps_layout _
  | false => exact .of_pure ()

theorem onHost_keeps {α : Type} {view : FleetDistributionRollout F → α} {next : RolloutHostState → Call F Unit}
    (rest : ∀ state, Stateful.Keeps view (next state)) : Stateful.Keeps view (onHost hostId next) := by
  refine .of_get fun current => ?_
  cases current.hostStates.lookup hostId with
  | none => exact .of_throw _
  | some state => exact rest state

theorem storeHost_keeps_layout (hostId : String) (state : RolloutHostState) :
    Stateful.Keeps layout (storeHost (F := F) hostId state) :=
  Stateful.Keeps.of_modify fun _ => rfl

theorem reportHostStatus_keeps_layout (hostId : String) (status : HostInstallStatus) (now : DateTime) :
    Stateful.Keeps layout (reportHostStatus (F := F) hostId status now) := by
  apply onHost_keeps
  intro state
  refine .bind (storeHost_keeps_layout _ _) fun _ => .of_get fun current => ?_
  exact .bind (emit_keeps_layout _) fun _ => autoCompletePhases_keeps_layout now

theorem retryHost_keeps_layout (hostId : String) (now : DateTime) :
    Stateful.Keeps layout (retryHost (F := F) hostId now) := by
  apply onHost_keeps
  intro state
  split
  · exact storeHost_keeps_layout _ _
  · exact .of_pure ()

theorem movePhases_hosts (phases : List RolloutPhase) (source target : PhaseState) :
    (movePhases phases source target).map (·.hosts) = phases.map (·.hosts) := by
  apply map_hosts_map
  intro phase
  split
  · rfl
  · rfl

theorem pauseRollout_keeps_layout : Stateful.Keeps layout (pauseRollout (F := F)) := by
  refine .of_get fun current => ?_
  cases current.aborted with
  | true => exact .of_throw _
  | false => exact .of_modify fun self => layout_eq rfl rfl (movePhases_hosts _ _ _)

theorem resumeRollout_keeps_layout : Stateful.Keeps layout (resumeRollout (F := F)) := by
  refine .of_get fun current => ?_
  cases current.aborted with
  | true => exact .of_throw _
  | false =>
    cases current.paused with
    | true => exact .of_modify fun self => layout_eq rfl rfl (movePhases_hosts _ _ _)
    | false => exact .of_pure ()

theorem abortPhase_hosts : (abortPhase now phase).hosts = phase.hosts := by
  unfold abortPhase
  split
  · rfl
  · rfl

theorem abortRollout_keeps_layout (now : DateTime) : Stateful.Keeps layout (abortRollout (F := F) now) := by
  refine .of_get fun current => ?_
  cases current.aborted with
  | true => exact .of_pure ()
  | false =>
    refine .bind (.of_modify fun self => ?_) fun _ => emit_keeps_layout _
    exact layout_eq rfl rfl (map_hosts_map (abortPhase_hosts now) _)

/-! ## What the requests change -/

theorem hostIs_insert (state : RolloutHostState) (same : after.hostStates = self.hostStates.insert hostId state)
    (test : HostInstallStatus → Bool) (other : String) :
    after.hostIs test other = if other = hostId then test state.installStatus else self.hostIs test other := by
  rw [hostIs, same, Table.lookup_insert_eq]
  split
  · rfl
  · rfl

theorem hostIs_mono {test weaker : HostInstallStatus → Bool}
    (implied : ∀ status, test status = true → weaker status = true) (holds : self.hostIs test host = true) :
    self.hostIs weaker host = true := by
  obtain ⟨state, stored, passed⟩ := (Option.any_eq_true _ _).mp holds
  exact (Option.any_eq_true _ _).mpr ⟨state, stored, implied _ passed⟩

theorem closed_of_idle {phase : RolloutPhase} (idle : phase.state ≠ .inProgress) (now : DateTime) :
    self.closed now phase = phase := by
  simp [closed, closes, idle]

theorem closed_isTerminal {phase : RolloutPhase} (closes : self.closes phase = true) (now : DateTime) :
    (self.closed now phase).state.isTerminal = true := by
  rw [closed, if_pos closes]
  dsimp only
  split
  · rfl
  · rfl

/-- Closing phases looks at the hosts and writes to the phases. -/
theorem autoCompletePhases_apply (self : FleetDistributionRollout F) (now : DateTime) :
    ∃ after, autoCompletePhases now self = .ok () after ∧ after.phases = self.phases.map (after.closed now) ∧
      after.hostStates = self.hostStates ∧ after.aborted = self.aborted ∧ after.paused = self.paused := by
  rw [autoCompletePhases, Stateful.modify_bind_apply, Stateful.get_bind_apply]
  split
  · exact ⟨_, rfl, rfl, rfl, rfl, rfl⟩
  · exact ⟨_, rfl, rfl, rfl, rfl, rfl⟩

/-- A report on a known host sets its status and closes what it completes. -/
theorem reportHostStatus_apply (known : self.hostIs (fun _ => true) hostId = true) (status : HostInstallStatus)
    (now : DateTime) :
    ∃ after, reportHostStatus hostId status now self = .ok () after ∧
      after.phases = self.phases.map (after.closed now) ∧ after.aborted = self.aborted ∧ after.paused = self.paused ∧
      ∀ test other, after.hostIs test other = if other = hostId then test status else self.hostIs test other := by
  obtain ⟨state, stored, -⟩ := (Option.any_eq_true _ _).mp known
  rw [reportHostStatus, onHost, Stateful.get_bind_apply, stored]
  dsimp only
  rw [storeHost, Stateful.modify_bind_apply, Stateful.get_bind_apply, emit, Stateful.modify_bind_apply]
  generalize reached : FleetDistributionRollout.mk .. = middle
  obtain ⟨after, ran, phases, states, aborted, paused⟩ := autoCompletePhases_apply middle now
  subst reached
  exact ⟨after, ran, phases, aborted, paused, hostIs_insert _ states⟩

/-- A retried host that had ended is pending again; its phase stays as it was. -/
theorem retryHost_apply (ended : self.hostIs (·.isTerminal) hostId = true) (now : DateTime) :
    ∃ after, retryHost hostId now self = .ok () after ∧
      after.phases = self.phases ∧ after.aborted = self.aborted ∧ after.paused = self.paused ∧
      ∀ test other, after.hostIs test other = if other = hostId then test .pending else self.hostIs test other := by
  obtain ⟨state, stored, terminal⟩ := (Option.any_eq_true _ _).mp ended
  rw [retryHost, onHost, Stateful.get_bind_apply, stored]
  dsimp only
  rw [if_pos terminal]
  refine ⟨_, rfl, rfl, rfl, rfl, ?_⟩
  exact hostIs_insert { state with installStatus := .pending, lastUpdate := now, errorMessage := none } rfl

/-- The rollout with the phase in progress and its hosts downloading. -/
def withStarted (self : FleetDistributionRollout F) (phaseId : Ulid) (now : DateTime) (index : ℕ)
    (phase : RolloutPhase) : FleetDistributionRollout F :=
  { self with
    phases := self.phases.set index { phase with state := .inProgress, startedAt := some now }
    hostStates := phase.hosts.foldl (fun states host => states.modify host .beginDownload) self.hostStates
    emitted := self.emitted.map (· ++ [.phaseStarted self.rolloutId phaseId phase.hosts.length]) }

/-- Starting a phase moves only pending hosts. -/
theorem lookup_beginDownload {states : Table String RolloutHostState} {state : RolloutHostState}
    (stored : states.lookup host = some state) (busy : state.installStatus ≠ .pending) (hosts : List String) :
    (hosts.foldl (fun states host => states.modify host .beginDownload) states).lookup host = some state := by
  induction hosts generalizing states with
  | nil => exact stored
  | cons first rest ih =>
    apply ih
    rw [Table.lookup_modify]
    split
    · next same =>
      rw [← same, stored, Option.map_some, RolloutHostState.beginDownload, if_neg busy]
    · exact stored

theorem hostIs_withStarted (active : self.hostIs (· == .activated) host = true) (phaseId : Ulid) (now : DateTime)
    (index : ℕ) (phase : RolloutPhase) :
    (self.withStarted phaseId now index phase).hostIs (· == .activated) host = true := by
  obtain ⟨state, stored, activated⟩ := (Option.any_eq_true _ _).mp active
  have status : state.installStatus = .activated := eq_of_beq activated
  have kept : (self.withStarted phaseId now index phase).hostStates.lookup host = some state :=
    lookup_beginDownload stored (by rw [status]; decide) phase.hosts
  exact (Option.any_eq_true _ _).mpr ⟨state, kept, activated⟩

/-! ## What `start_phase` has checked -/

/-- The checks of `start_phase` pass for the phase at an index. -/
structure MayStart (rollout : FleetDistributionRollout F) (phaseId : Ulid) (index : ℕ) (phase : RolloutPhase) :
    Prop where
  running : rollout.aborted = false
  unpaused : rollout.paused = false
  position : rollout.phases.findIdx? (·.phaseId == phaseId) = some index
  stored : rollout.phases[index]? = some phase
  prior : 0 < index → rollout.phases[index - 1]?.any (!·.state.isTerminal) = false
  idle : phase.state ≠ .inProgress

theorem MayStart.unique {phaseId : Ulid} {index other : ℕ} {phase another : RolloutPhase}
    (checks : self.MayStart phaseId index phase) (found : self.MayStart phaseId other another) :
    index = other ∧ phase = another := by
  obtain rfl : index = other := Option.some.inj (checks.position.symm.trans found.position)
  exact ⟨rfl, Option.some.inj (checks.stored.symm.trans found.stored)⟩

end

variable [F64 F]

/-- A phase is started after its checks; otherwise nothing changes. -/
theorem step_startPhase (self : FleetDistributionRollout F) (phaseId : Ulid) (now : DateTime) :
    (∃ index phase, self.MayStart phaseId index phase ∧
        self.step (.startPhase phaseId now) = self.withStarted phaseId now index phase) ∨
      ((¬ ∃ index phase, self.MayStart phaseId index phase) ∧ self.step (.startPhase phaseId now) = self) := by
  simp only [step, call, startPhase]
  rw [Stateful.get_bind_apply]
  -- a check that fails ends the call and rules out `MayStart`
  cases aborted : self.aborted with
  | true => exact .inr ⟨fun ⟨_, _, checks⟩ => by simp [checks.running] at aborted, rfl⟩
  | false =>
  cases paused : self.paused with
  | true => exact .inr ⟨fun ⟨_, _, checks⟩ => by simp [checks.unpaused] at paused, rfl⟩
  | false =>
  cases position : self.phases.findIdx? (·.phaseId == phaseId) with
  | none => exact .inr ⟨fun ⟨_, _, checks⟩ => by simp [checks.position] at position, rfl⟩
  | some index =>
    simp only [Bool.false_eq_true, if_false]
    cases blocked : decide (0 < index) && self.phases[index - 1]?.any (!·.state.isTerminal) with
    | true =>
      refine .inr ⟨?_, rfl⟩
      rintro ⟨other, phase, checks⟩
      obtain rfl : index = other := Option.some.inj (position.symm.trans checks.position)
      rw [Bool.and_eq_true, decide_eq_true_eq] at blocked
      simp [checks.prior blocked.1] at blocked
    | false =>
    cases stored : self.phases[index]? with
    | none =>
      obtain ⟨bound, -⟩ := List.findIdx?_eq_some_iff_getElem.mp position
      simp [bound] at stored
    | some phase =>
      by_cases busy : phase.state = .inProgress
      · refine .inr ⟨?_, by simp only [busy, Bool.false_eq_true, if_false, if_true]; rfl⟩
        rintro ⟨other, another, checks⟩
        obtain rfl : index = other := Option.some.inj (position.symm.trans checks.position)
        obtain rfl : phase = another := Option.some.inj (stored.symm.trans checks.stored)
        exact checks.idle busy
      · refine .inl ⟨index, phase, ⟨aborted, paused, position, stored, ?_, busy⟩, ?_⟩
        · intro later
          rwa [decide_eq_true later, Bool.true_and] at blocked
        · simp only [busy, Bool.false_eq_true, if_false]
          rfl

theorem MayStart.step {phaseId : Ulid} {index : ℕ} {phase : RolloutPhase} (checks : self.MayStart phaseId index phase)
    (now : DateTime) : self.step (.startPhase phaseId now) = self.withStarted phaseId now index phase := by
  obtain ⟨other, another, found, same⟩ | ⟨refused, -⟩ := step_startPhase self phaseId now
  · obtain ⟨rfl, rfl⟩ := checks.unique found
    exact same
  · exact absurd ⟨index, phase, checks⟩ refused

/-- A request puts the phase at an index in progress that was not. -/
def Starts (self after : FleetDistributionRollout F) (index : ℕ) : Prop :=
  (∃ phase, self.phases[index]? = some phase ∧ phase.state ≠ .inProgress) ∧
    ∃ phase, after.phases[index]? = some phase ∧ phase.state = .inProgress

/-- The phase that `start_phase` starts is the one it has checked. -/
theorem starts_iff (self : FleetDistributionRollout F) (phaseId : Ulid) (now : DateTime) (index : ℕ) :
    Starts self (self.step (.startPhase phaseId now)) index ↔ ∃ phase, self.MayStart phaseId index phase := by
  obtain ⟨started, phase, checks, same⟩ | ⟨refused, same⟩ := step_startPhase self phaseId now
  · rw [same]
    constructor
    · rintro ⟨⟨before, stored, idle⟩, after, running, busy⟩
      by_cases here : started = index
      · subst here
        exact ⟨phase, checks⟩
      · have unchanged : self.phases[index]? = some after := by
          rwa [withStarted, List.getElem?_set_ne here] at running
        obtain rfl := Option.some.inj (stored.symm.trans unchanged)
        exact absurd busy idle
    · rintro ⟨other, found⟩
      obtain ⟨rfl, -⟩ := checks.unique found
      obtain ⟨bound, -⟩ := List.findIdx?_eq_some_iff_getElem.mp checks.position
      exact ⟨⟨phase, checks.stored, checks.idle⟩, _, List.getElem?_set_self bound, rfl⟩
  · rw [same]
    constructor
    · rintro ⟨⟨before, stored, idle⟩, after, running, busy⟩
      obtain rfl := Option.some.inj (stored.symm.trans running)
      exact absurd busy idle
    · rintro ⟨phase, checks⟩
      exact absurd ⟨index, phase, checks⟩ refused

/-! ## The gate and the verdict -/

/-- Every host of the phase has ended, and the share of activated hosts reaches the threshold. -/
def GateMet (self : FleetDistributionRollout F) (phase : RolloutPhase) : Prop :=
  (∀ host ∈ phase.hosts, self.hostIs (·.isTerminal) host = true) ∧
    F64.le self.canarySuccessThreshold
      (successPct (phase.hosts.countP (self.hostIs (·.isSuccess))) phase.hosts.length) = true

theorem asU32_eq {value : ℕ} (fits : value ≤ U32_MAX) : asU32 value = value :=
  Nat.mod_eq_of_lt (Nat.lt_succ_of_le fits)

/-- The verdict on the first phase is the gate, as long as the counts fit their type. -/
theorem canProceedToNextPhase_iff {phase : RolloutPhase} {rest : List RolloutPhase}
    (first : self.phases = phase :: rest)
    (filled : phase.hosts ≠ []) (fits : phase.hosts.length ≤ U32_MAX) :
    self.canProceedToNextPhase phase.phaseId = true ↔ self.GateMet phase := by
  have found : self.phases.find? (·.phaseId == phase.phaseId) = some phase := by
    rw [first]
    exact List.find?_cons_of_pos (by simp)
  have counted : phase.hosts.countP (self.hostIs (·.isSuccess)) ≤ phase.hosts.length := List.countP_le_length
  have some_host : phase.hosts.length ≠ 0 := by simpa using filled
  simp only [canProceedToNextPhase, checkPhaseComplete, found, hostCount, asU32_eq fits,
    asU32_eq (Nat.le_trans counted fits), some_host, if_false, GateMet]
  rw [← List.all_eq_true]
  cases phase.hosts.all (self.hostIs (·.isTerminal)) with
  | true => simp
  | false => simp

/-! ## The phases of a canary rollout -/

theorem canaryCount_pos {hostCount : ℕ} (some_host : 0 < hostCount) (percentage : F) :
    0 < canaryCount hostCount percentage := by
  unfold canaryCount
  omega

theorem canaryCount_le (hostCount : ℕ) (percentage : F) : canaryCount hostCount percentage ≤ hostCount :=
  Nat.min_le_right _ _

theorem canaryPhases_split {targetHosts : List String} {percentage : F}
    (partly : canaryCount targetHosts.length percentage < targetHosts.length) (mint : ℕ → Ulid) :
    canaryPhases targetHosts percentage mint =
      [.new (mint 0) (targetHosts.take (canaryCount targetHosts.length percentage)),
        .new (mint 1) (targetHosts.drop (canaryCount targetHosts.length percentage))] := if_pos partly

theorem step_startPhase_layout (self : FleetDistributionRollout F) (phaseId : Ulid) (now : DateTime) :
    (self.step (.startPhase phaseId now)).layout = self.layout := by
  obtain ⟨index, phase, checks, same⟩ | ⟨-, same⟩ := step_startPhase self phaseId now
  · rw [same]
    refine layout_eq rfl rfl ?_
    have batch : (self.phases.map (·.hosts))[index]? = some phase.hosts := by simp [checks.stored]
    obtain ⟨bound, value⟩ := List.getElem?_eq_some_iff.mp batch
    simp only [withStarted, List.map_set]
    rw [← value, List.set_getElem_self]
  · rw [same]

/-- Every request but a plan keeps the layout. -/
theorem step_layout (self : FleetDistributionRollout F) (op : RolloutOp F) :
    (∃ mint, op = .planPhases mint) ∨ (self.step op).layout = self.layout := by
  cases op with
  | setEvidenceEmitter => exact .inr rfl
  | setCanaryThreshold value =>
    simp only [step, call, setCanaryThreshold]
    split
    · exact .inr rfl
    · exact .inr rfl
  | planPhases mint => exact .inl ⟨mint, rfl⟩
  | startPhase phaseId now => exact .inr (step_startPhase_layout self phaseId now)
  | reportHostStatus hostId status now => exact .inr (reportHostStatus_keeps_layout hostId status now self)
  | reportHostError hostId error now => exact .inr (onHost_keeps (fun _ => storeHost_keeps_layout _ _) self)
  | retryHost hostId now => exact .inr (retryHost_keeps_layout hostId now self)
  | pauseRollout => exact .inr (pauseRollout_keeps_layout self)
  | resumeRollout => exact .inr (resumeRollout_keeps_layout self)
  | abortRollout now => exact .inr (abortRollout_keeps_layout now self)

theorem step_planPhases {percentage : F} (strategy : self.strategy = .canary percentage)
    (filled : self.targetHosts.isEmpty = false) (mint : ℕ → Ulid) :
    self.step (.planPhases mint) = { self with phases := canaryPhases self.targetHosts percentage mint } := by
  simp only [step, call, planPhases]
  rw [Stateful.bind_apply, Stateful.get_bind_apply, filled]
  simp only [Bool.false_eq_true, if_false, plannedPhases, strategy]
  rw [← strategy]
  rfl

/-- In a canary rollout nothing is planned yet, or the phases are those of a canary plan. -/
structure CanaryPlan (targetHosts : List String) (percentage : F) (rollout : FleetDistributionRollout F) : Prop where
  targets : rollout.targetHosts = targetHosts
  strategy : rollout.strategy = .canary percentage
  planned : rollout.phases = [] ∨ targetHosts ≠ [] ∧
    ∃ mint, rollout.phases.map (·.hosts) = (canaryPhases targetHosts percentage mint).map (·.hosts)

namespace CanaryPlan

variable {targetHosts : List String} {percentage : F}

theorem of_layout {after : FleetDistributionRollout F} (plan : CanaryPlan targetHosts percentage self)
    (same : after.layout = self.layout) : CanaryPlan targetHosts percentage after := by
  simp only [layout, Prod.mk.injEq] at same
  obtain ⟨targets, strategy, batches⟩ := same
  refine ⟨targets.trans plan.targets, strategy.trans plan.strategy, ?_⟩
  rw [← List.map_eq_nil_iff (f := (·.hosts)), batches, List.map_eq_nil_iff]
  exact plan.planned

theorem of_planPhases (plan : CanaryPlan targetHosts percentage self) (mint : ℕ → Ulid) :
    CanaryPlan targetHosts percentage (self.step (.planPhases mint)) := by
  cases filled : self.targetHosts.isEmpty with
  | true =>
    simp only [FleetDistributionRollout.step, call, planPhases]
    rw [Stateful.bind_apply, Stateful.get_bind_apply, filled]
    exact plan
  | false =>
    rw [step_planPhases plan.strategy filled]
    refine ⟨plan.targets, plan.strategy, .inr ⟨?_, mint, by rw [plan.targets]⟩⟩
    rw [plan.targets] at filled
    simpa using filled

theorem step (plan : CanaryPlan targetHosts percentage self) (op : RolloutOp F) :
    CanaryPlan targetHosts percentage (self.step op) := by
  obtain ⟨mint, rfl⟩ | kept := step_layout self op
  · exact plan.of_planPhases mint
  · exact plan.of_layout kept

/-- Every run of a canary rollout keeps to its plan. -/
theorem runFrom_new (rolloutId : Ulid) (targetHosts : List String) (percentage : F) (now : DateTime)
    (ops : List (RolloutOp F)) :
    CanaryPlan targetHosts percentage (runFrom (.new rolloutId targetHosts (.canary percentage) now) ops) :=
  StepRun.run_invariant (CanaryPlan targetHosts percentage) (fun _ op plan => plan.step op) ⟨rfl, rfl, .inl rfl⟩ ops

/-- A phase with another after it is the first of two: some of the hosts, and not all of them. -/
theorem first_of_two (plan : CanaryPlan targetHosts percentage self) {index : ℕ} {previous phase : RolloutPhase}
    (stored : self.phases[index]? = some previous) (later : self.phases[index + 1]? = some phase) :
    self.phases = [previous, phase] ∧ previous.hosts ≠ [] ∧ previous.hosts.length ≤ targetHosts.length ∧
      canaryCount targetHosts.length percentage < targetHosts.length := by
  obtain empty | ⟨filled, mint, batches⟩ := plan.planned
  · simp [empty] at stored
  -- a plan has one phase or two, and only two leave room for the later one
  obtain ⟨bound, -⟩ := List.getElem?_eq_some_iff.mp later
  have counted := congrArg List.length batches
  rw [List.length_map, List.length_map] at counted
  by_cases partly : canaryCount targetHosts.length percentage < targetHosts.length
  · rw [canaryPhases_split partly, List.length_cons, List.length_cons, List.length_nil] at counted
    obtain ⟨first, second, both⟩ := List.length_eq_two.mp counted
    obtain rfl : index = 0 := by omega
    rw [both] at stored later
    obtain rfl := (Option.some.inj stored).symm
    obtain rfl := (Option.some.inj later).symm
    rw [canaryPhases_split partly, both] at batches
    have hosts : previous.hosts = targetHosts.take (canaryCount targetHosts.length percentage) :=
      (List.cons.inj batches).1
    refine ⟨both, ?_, ?_, partly⟩
    · rw [hosts, ne_eq, List.take_eq_nil_iff]
      rintro (zero | empty)
      · exact absurd zero (Nat.ne_of_gt (canaryCount_pos (List.length_pos_iff.mpr filled) percentage))
      · exact filled empty
    · rw [hosts, List.length_take]
      omega
  · rw [canaryPhases, if_neg partly, List.length_cons, List.length_nil] at counted
    omega

end CanaryPlan

variable {targetHosts : List String} {percentage : F} {first : String} (rolloutId : Ulid)

/-! ## The gate along a run -/

/-- A phase after the first is started only with the gate met by the phase before it. -/
def CanaryGated (self : FleetDistributionRollout F) : RolloutOp F → Prop
  | .startPhase phaseId now => ∀ index previous, self.phases[index]? = some previous →
      Starts self (self.step (.startPhase phaseId now)) (index + 1) → self.GateMet previous
  | _ => True

/-- Where `start_phase` would start a phase after the first, the verdict on the phase before it is to
proceed. -/
def VerdictAsked (self : FleetDistributionRollout F) : RolloutOp F → Prop
  | .startPhase phaseId _ => ∀ index previous phase, self.phases[index]? = some previous →
      self.MayStart phaseId (index + 1) phase → self.canProceedToNextPhase previous.phaseId = true
  | _ => True

theorem canaryGated_iff_verdictAsked (plan : CanaryPlan targetHosts percentage self)
    (fits : targetHosts.length ≤ U32_MAX) (op : RolloutOp F) : self.CanaryGated op ↔ self.VerdictAsked op := by
  cases op with
  | startPhase phaseId now =>
    simp only [CanaryGated, VerdictAsked, starts_iff]
    have verdict {index : ℕ} {previous phase : RolloutPhase} (stored : self.phases[index]? = some previous)
        (checks : self.MayStart phaseId (index + 1) phase) :
        self.canProceedToNextPhase previous.phaseId = true ↔ self.GateMet previous := by
      obtain ⟨both, filled, small, -⟩ := plan.first_of_two stored checks.stored
      exact canProceedToNextPhase_iff both filled (Nat.le_trans small fits)
    constructor
    · intro gated index previous phase stored checks
      exact (verdict stored checks).mpr (gated index previous stored ⟨phase, checks⟩)
    · rintro asked index previous stored ⟨phase, checks⟩
      exact (verdict stored checks).mp (asked index previous phase stored checks)
  | _ => exact Iff.rfl

/-- Where the canary share covers the fleet there is no phase to be gated. -/
theorem canaryGated_of_covered (plan : CanaryPlan targetHosts percentage self)
    (covered : canaryCount targetHosts.length percentage = targetHosts.length) (op : RolloutOp F) :
    self.CanaryGated op := by
  cases op with
  | startPhase phaseId now =>
    rintro index previous stored ⟨⟨phase, later, -⟩, -⟩
    obtain ⟨-, -, -, partly⟩ := plan.first_of_two stored later
    omega
  | _ => exact trivial

/-! ## A run past a closed canary

Every rollout with a second phase has a run that goes wrong: all canary hosts report activation, the
canary phase is started and closes with the next report, one of its hosts is retried, and the second
phase is started while that host is pending.
-/

/-- Reports of activation, made while no phase is in progress, change the hosts and nothing else. -/
theorem runFrom_activated {canary : List String} (idle : ∀ phase ∈ self.phases, phase.state ≠ .inProgress)
    (known : ∀ host ∈ canary, self.hostIs (fun _ => true) host = true) :
    ∃ after, runFrom self (canary.map (.reportHostStatus · .activated 0)) = after ∧
      after.phases = self.phases ∧ after.aborted = self.aborted ∧ after.paused = self.paused ∧
      ∀ host, host ∈ canary ∨ self.hostIs (· == .activated) host = true →
        after.hostIs (· == .activated) host = true := by
  induction canary generalizing self with
  | nil => exact ⟨self, rfl, rfl, rfl, rfl, fun _ active => active.resolve_left List.not_mem_nil⟩
  | cons host rest ih =>
    obtain ⟨middle, ran, phases, aborted, paused, statuses⟩ :=
      reportHostStatus_apply (known host List.mem_cons_self) .activated 0
    have unchanged : middle.phases = self.phases := by
      rw [phases]
      exact (List.map_congr_left fun phase member => closed_of_idle (idle phase member) 0).trans (List.map_id _)
    have still_known : ∀ other ∈ rest, middle.hostIs (fun _ => true) other = true := by
      intro other member
      rw [statuses]
      split
      · rfl
      · exact known other (List.mem_cons_of_mem _ member)
    obtain ⟨after, reached, phases', aborted', paused', active⟩ := ih (unchanged ▸ idle) still_known
    have first : self.step (.reportHostStatus host .activated 0) = middle := by
      simp only [step, call, ran, Stateful.finalState]
    refine ⟨after, ?_, phases'.trans unchanged, aborted'.trans aborted, paused'.trans paused, ?_⟩
    · rw [List.map_cons, runFrom, StepRun.run_cons, first]
      exact reached
    · intro other before
      apply active
      by_cases same : other = host
      · right
        rw [statuses, if_pos same]
        rfl
      · rw [statuses, if_neg same]
        exact before.imp_left fun member => (List.mem_cons.mp member).resolve_left same

/-- A new rollout knows its target hosts. -/
theorem hostIs_new (strategy : RolloutStrategy F) (now : DateTime) {host : String} (member : host ∈ targetHosts) :
    (new rolloutId targetHosts strategy now).hostIs (fun _ => true) host = true := by
  have known : ((new rolloutId targetHosts strategy now).hostStates.lookup host).isSome = true :=
    Table.isSome_lookup_foldl_insert.mpr (.inl ⟨host, member, rfl⟩)
  obtain ⟨state, stored⟩ := Option.isSome_iff_exists.mp known
  exact (Option.any_eq_true _ _).mpr ⟨state, stored, rfl⟩

/-- A canary of activated hosts is started and closed, and one of them is retried: the phase stays
closed over a pending host. -/
theorem runFrom_reopened {canary rest : RolloutPhase} (phases : self.phases = [canary, rest])
    (idle : canary.state ≠ .inProgress) (idleRest : rest.state ≠ .inProgress) (running : self.aborted = false)
    (unpaused : self.paused = false) (active : ∀ host ∈ canary.hosts, self.hostIs (· == .activated) host = true)
    (member : first ∈ canary.hosts) :
    ∃ after previous, after = runFrom self [.startPhase canary.phaseId 0, .reportHostStatus first .activated 0,
        .retryHost first 0] ∧
      after.phases = [previous, rest] ∧ previous.phaseId = canary.phaseId ∧ previous.hosts = canary.hosts ∧
      previous.state.isTerminal = true ∧
      after.aborted = false ∧ after.paused = false ∧ after.hostIs (·.isTerminal) first = false := by
  have checks : self.MayStart canary.phaseId 0 canary := by
    refine ⟨running, unpaused, ?_, ?_, fun later => absurd later (Nat.lt_irrefl 0), idle⟩
    · simp [phases, List.findIdx?_cons]
    · simp [phases]
  have ended : ∀ status : HostInstallStatus, (status == .activated) = true → status.isTerminal = true := by
    intro status activated
    rw [eq_of_beq activated]
    rfl
  have started : ∀ host ∈ canary.hosts,
      (self.withStarted canary.phaseId 0 0 canary).hostIs (· == .activated) host = true :=
    fun host listed => hostIs_withStarted (active host listed) canary.phaseId 0 0 canary
  obtain ⟨closing, ran, closed, aborted, paused, statuses⟩ :=
    reportHostStatus_apply (hostIs_mono (fun _ _ => rfl) (started first member)) .activated 0
  -- the report finds every host of the canary activated, so it closes the phase
  have terminal : ∀ host ∈ canary.hosts, closing.hostIs (·.isTerminal) host = true := by
    intro host listed
    rw [statuses]
    split
    · rfl
    · exact hostIs_mono ended (started host listed)
  obtain ⟨after, retried, same, aborted', paused', statuses'⟩ := retryHost_apply (terminal first member) 0
  have reached : runFrom self [.startPhase canary.phaseId 0, .reportHostStatus first .activated 0,
      .retryHost first 0] = after := by
    rw [runFrom, StepRun.run_cons, StepRun.run_cons, StepRun.run_cons, StepRun.run_nil, checks.step]
    simp only [step, call, ran, retried, Stateful.finalState]
  have canary_closes : closing.closes { canary with state := .inProgress, startedAt := some 0 } = true := by
    simpa [closes] using terminal
  refine ⟨after, closing.closed 0 { canary with state := .inProgress, startedAt := some 0 }, reached.symm, ?_,
    closed_phaseId 0 _, closed_hosts 0 _, closed_isTerminal canary_closes 0, aborted'.trans (aborted.trans running),
    paused'.trans (paused.trans unpaused), ?_⟩
  · rw [same, closed, withStarted, phases, List.set_cons_zero, List.map_cons, List.map_cons, List.map_nil,
      closed_of_idle idleRest]
  · rw [statuses', if_pos rfl]
    rfl

/-- Identifiers for the two phases of a plan. -/
def reopenedMint (index : ℕ) : Ulid := if index = 0 then "canary" else "rest"

/-- All canary hosts report activation, the canary is started and closed, and its first host retried. -/
def reopenedRun (canary : List String) (first : String) : List (RolloutOp F) :=
  .planPhases reopenedMint ::
    (canary.map (.reportHostStatus · .activated 0) ++
      [.startPhase "canary" 0, .reportHostStatus first .activated 0, .retryHost first 0])

/-- After such a run the second phase may be started although the gate is not met. -/
theorem reopenedRun_mayStart (now : DateTime) (partly : canaryCount targetHosts.length percentage < targetHosts.length)
    (member : first ∈ targetHosts.take (canaryCount targetHosts.length percentage)) :
    ∃ after previous phase,
      runFrom (new rolloutId targetHosts (.canary percentage) now)
        (reopenedRun (targetHosts.take (canaryCount targetHosts.length percentage)) first) = after ∧
      after.phases[0]? = some previous ∧ after.MayStart "rest" 1 phase ∧ ¬ after.GateMet previous := by
  have filled : targetHosts.isEmpty = false := by
    cases targetHosts with
    | nil => exact absurd partly (Nat.not_lt_zero _)
    | cons => rfl
  rw [reopenedRun, runFrom, StepRun.run_cons, StepRun.run_append]
  have knows : ∀ host ∈ targetHosts.take (canaryCount targetHosts.length percentage), hostIs
      (step (new rolloutId targetHosts (.canary percentage) now) (.planPhases reopenedMint))
      (fun _ => true) host = true := by
    intro host listed
    rw [step_planPhases rfl filled]
    exact hostIs_new rolloutId (.canary percentage) now (List.mem_of_mem_take listed)
  generalize planned : step (new rolloutId targetHosts (.canary percentage) now) (.planPhases reopenedMint) = start at *
  rw [step_planPhases rfl filled] at planned
  have phases : start.phases = [.new "canary" (targetHosts.take (canaryCount targetHosts.length percentage)),
      .new "rest" (targetHosts.drop (canaryCount targetHosts.length percentage))] := by
    rw [← planned]
    exact canaryPhases_split partly reopenedMint
  have idle : ∀ phase ∈ start.phases, phase.state ≠ .inProgress := by
    intro phase listed
    rw [phases] at listed
    simp only [List.mem_cons, List.not_mem_nil, or_false] at listed
    obtain rfl | rfl := listed <;> simp [RolloutPhase.new]
  obtain ⟨reported, ran, kept, aborted, paused, active⟩ := runFrom_activated idle knows
  have running : reported.aborted = false := by rw [aborted, ← planned]; rfl
  have unpaused : reported.paused = false := by rw [paused, ← planned]; rfl
  obtain ⟨after, previous, reached, both, named, hosts, terminal, running', unpaused', pending⟩ :=
    runFrom_reopened (kept.trans phases) (by simp [RolloutPhase.new]) (by simp [RolloutPhase.new]) running unpaused
      (fun host listed => active host (.inl listed)) member
  refine ⟨after, previous, .new "rest" (targetHosts.drop (canaryCount targetHosts.length percentage)), ?_,
    by simp [both], ?_, ?_⟩
  · rw [reached, ← ran]
    rfl
  · have position : after.phases.findIdx? (·.phaseId == "rest") = some 1 := by
      simp [both, List.findIdx?_cons, named, RolloutPhase.new]
    exact ⟨running', unpaused', position, by simp [both], fun _ => by simp [both, terminal], by simp [RolloutPhase.new]⟩
  · intro met
    have ended := met.1 first (hosts ▸ member)
    rw [pending] at ended
    cases ended

/-- A rollout that keeps to the gate in every run has no second phase. -/
theorem covered_of_gated {rolloutId : Ulid} {now : DateTime}
    (gated : ∀ ops, StepRun.Along step CanaryGated (new rolloutId targetHosts (.canary percentage) now) ops) :
    canaryCount targetHosts.length percentage = targetHosts.length := by
  have bound := canaryCount_le targetHosts.length percentage
  by_contra uncovered
  have partly : canaryCount targetHosts.length percentage < targetHosts.length := by omega
  obtain ⟨first, member⟩ : ∃ first, first ∈ targetHosts.take (canaryCount targetHosts.length percentage) := by
    apply List.exists_mem_of_length_pos
    have := canaryCount_pos (Nat.zero_lt_of_lt partly) percentage
    rw [List.length_take]
    omega
  obtain ⟨after, previous, phase, reached, stored, checks, unmet⟩ := reopenedRun_mayStart rolloutId now partly member
  have along := gated (reopenedRun (targetHosts.take (canaryCount targetHosts.length percentage)) first ++
    [.startPhase "rest" 0])
  rw [StepRun.along_iff_cut] at along
  have last := along _ _ [] rfl
  rw [← runFrom, reached] at last
  exact unmet (last 0 previous stored ((starts_iff ..).mpr ⟨phase, checks⟩))

/-- In a run the gate holds exactly if the verdict is asked for before every later phase; in all runs
of a rollout it holds exactly if the canary is the whole fleet. -/
theorem canaryGated_iff (targetHosts : List String) (percentage : F) (now : DateTime) :
    (targetHosts.length ≤ U32_MAX → ∀ ops,
      (StepRun.Along step CanaryGated (new rolloutId targetHosts (.canary percentage) now) ops ↔
        StepRun.Along step VerdictAsked (new rolloutId targetHosts (.canary percentage) now) ops)) ∧
    ((∀ ops, StepRun.Along step CanaryGated (new rolloutId targetHosts (.canary percentage) now) ops) ↔
      canaryCount targetHosts.length percentage = targetHosts.length) := by
  have plan := CanaryPlan.runFrom_new rolloutId targetHosts percentage now
  refine ⟨fun fits ops => ?_, covered_of_gated, fun covered ops => ?_⟩
  · rw [StepRun.along_iff_cut, StepRun.along_iff_cut]
    exact forall₄_congr fun before op _ _ => canaryGated_iff_verdictAsked (plan before) fits op
  · rw [StepRun.along_iff_cut]
    exact fun before op _ _ => canaryGated_of_covered (plan before) covered op

/-- The `f64` operations on rationals: exact where no rounding or overflow occurs. -/
instance : F64 ℚ where
  le left right := decide (left ≤ right)
  ceil value := value.ceil
  toUsize value := value.floor.toNat

/-- The canary host fails, its phase closes as failed, and the rest of the fleet is started. -/
theorem not_canaryGated_failed :
    ¬ StepRun.Along step CanaryGated (new "rollout" ["h0", "h1"] (.canary (50 : ℚ)) 0)
      [.planPhases fun index => if index = 0 then "p0" else "p1", .startPhase "p0" 0,
        .reportHostStatus "h0" .failed 0, .startPhase "p1" 0] := by
  rintro ⟨-, -, -, gated, -⟩
  have met := gated 0 ⟨"p0", ["h0"], some 0, some 0, .failed⟩ (by decide +kernel)
    ((starts_iff ..).mpr ⟨.new "p1" ["h1"], by decide +kernel, by decide +kernel, by decide +kernel, by decide +kernel,
      by decide +kernel, by decide +kernel⟩)
  exact absurd met.2 (by decide +kernel)

end FleetDistributionRollout

end Aios.Fleet
