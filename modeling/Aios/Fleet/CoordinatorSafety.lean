import Aios.Fleet.Recovery

/-! # Coordinator safety

Leadership is meant to move only to an enrolled member while there is a quorum, and a heartbeat that
names another coordinator is meant to be refused. A split brain is counted among the other claimants
alone, so the first of them is taken for the coordinator, and the way out of a split brain looks
neither at the membership of the winner nor at the quorum.
-/

namespace Aios.Fleet

open Aios.Rust

namespace FleetRecoveryCoordinator

variable {self : FleetRecoveryCoordinator}

variable {start : FleetRecoveryCoordinator} {current : String} {op : RecoveryOp} {heartbeat : CoordinatorHeartbeat}
  (one other : String × DateTime)

/-! ## Members -/

/-- The identifier is that of an enrolled member. -/
def IsEnrolled (self : FleetRecoveryCoordinator) (memberId : String) : Prop :=
  ∃ member, self.memberships.lookup memberId = some member ∧ member.state = .enrolled

/-- At least `quorum_size` members are enrolled. -/
def HasQuorum (self : FleetRecoveryCoordinator) : Prop :=
  self.quorumSize ≤ self.memberships.count fun _ member => member.state = .enrolled

theorem mem_enrolledMemberIds (self : FleetRecoveryCoordinator) (memberId : String) :
    memberId ∈ self.enrolledMemberIds ↔ self.IsEnrolled memberId := by
  rw [enrolledMemberIds, List.mem_mergeSort, List.mem_map]
  constructor
  · rintro ⟨entry, listed, rfl⟩
    obtain ⟨stored, enrolled⟩ := List.mem_filter.mp listed
    exact ⟨entry.2, AList.mem_lookup_iff.mpr stored, of_decide_eq_true enrolled⟩
  · rintro ⟨member, stored, enrolled⟩
    exact ⟨⟨memberId, member⟩, List.mem_filter.mpr ⟨AList.mem_lookup_iff.mp stored, decide_eq_true enrolled⟩, rfl⟩

theorem length_enrolledMemberIds (self : FleetRecoveryCoordinator) :
    self.enrolledMemberIds.length = self.memberships.count fun _ member => member.state = .enrolled := by
  rw [enrolledMemberIds, List.length_mergeSort, List.length_map, Table.count, List.countP_eq_length_filter]

/-! ## The answers -/

/-- The heartbeat is answered with `Ok`. -/
def Accepts (self : FleetRecoveryCoordinator) (heartbeat : CoordinatorHeartbeat) : Prop :=
  ∃ after, receiveHeartbeat heartbeat self = .ok () after

/-- The coordinator after a heartbeat that was accepted. -/
def refreshed (self : FleetRecoveryCoordinator) (heartbeat : CoordinatorHeartbeat) : FleetRecoveryCoordinator :=
  { self with
    lastHeartbeatSequence := heartbeat.sequence
    coordinatorHeartbeatDeadline := some (heartbeat.timestamp + self.heartbeatTimeout)
    lastHealthStatus := .healthy }

theorem refreshDeadline_apply (self : FleetRecoveryCoordinator) (heartbeat : CoordinatorHeartbeat) :
    refreshDeadline heartbeat self =
      if heartbeat.sequence ≤ self.lastHeartbeatSequence
      then .error (.sequenceRegression self.lastHeartbeatSequence heartbeat.sequence) self
      else .ok () (self.refreshed heartbeat) := by
  rw [refreshDeadline, Stateful.get_bind_apply]
  split
  · rfl
  · rfl

/-- A heartbeat of the coordinator only has its sequence number compared. -/
theorem receiveHeartbeat_own (own : self.currentCoordinator = some heartbeat.coordinatorId) :
    receiveHeartbeat heartbeat self = refreshDeadline heartbeat self := by
  rw [receiveHeartbeat, Stateful.get_bind_apply]
  simp [own]

/-- The claimants on record together with one more are two or more. -/
def Contested (self : FleetRecoveryCoordinator) (coordinatorId : String) : Prop :=
  2 ≤ ((self.claimedCoordinators.map (·.1)).insert coordinatorId).length

theorem detectSplitBrain_recorded (self : FleetRecoveryCoordinator) (coordinatorId : String) (timestamp : DateTime) :
    (self.recordClaimedCoordinator coordinatorId timestamp).detectSplitBrain = true ↔ self.Contested coordinatorId := by
  have known : self.claimedCoordinators.any (·.1 == coordinatorId) = true ↔
      coordinatorId ∈ self.claimedCoordinators.map (·.1) := by
    simp only [List.any_eq_true, beq_iff_eq, List.mem_map]
  rw [detectSplitBrain, decide_eq_true_eq, Contested, recordClaimedCoordinator]
  by_cases listed : coordinatorId ∈ self.claimedCoordinators.map (·.1)
  · rw [if_pos (known.mpr listed), List.insert_of_mem listed, List.length_map]
  · rw [if_neg (mt known.mp listed), List.insert_of_not_mem listed]
    simp

/-- Recording a claim leaves all but the claims and the health status alone. -/
theorem recordClaimedCoordinator_keeps (self : FleetRecoveryCoordinator) (coordinatorId : String)
    (timestamp : DateTime) :
    (self.recordClaimedCoordinator coordinatorId timestamp).currentCoordinator = self.currentCoordinator ∧
      (self.recordClaimedCoordinator coordinatorId timestamp).coordinatorHeartbeatDeadline =
        self.coordinatorHeartbeatDeadline ∧
      (self.recordClaimedCoordinator coordinatorId timestamp).lastHeartbeatSequence = self.lastHeartbeatSequence := by
  rw [recordClaimedCoordinator]
  split
  · exact ⟨rfl, rfl, rfl⟩
  · exact ⟨rfl, rfl, rfl⟩

/-- A foreign heartbeat is refused once two claimants are on record. -/
theorem receiveHeartbeat_contested (set : self.currentCoordinator = some current)
    (foreign : heartbeat.coordinatorId ≠ current) (contested : self.Contested heartbeat.coordinatorId) :
    ∃ after, receiveHeartbeat heartbeat self = .error (.splitBrainDetected current heartbeat.coordinatorId) after ∧
      after.currentCoordinator = self.currentCoordinator ∧
      after.coordinatorHeartbeatDeadline = self.coordinatorHeartbeatDeadline ∧
      after.lastHeartbeatSequence = self.lastHeartbeatSequence ∧ after.detectSplitBrain = true := by
  obtain ⟨same, deadline, sequence⟩ :=
    recordClaimedCoordinator_keeps self heartbeat.coordinatorId heartbeat.timestamp
  have detected := (detectSplitBrain_recorded self heartbeat.coordinatorId heartbeat.timestamp).mpr contested
  rw [receiveHeartbeat, Stateful.get_bind_apply]
  simp only [set, Option.any_some, bne_iff_ne, ne_eq, foreign, not_false_eq_true, if_true]
  rw [Stateful.modify_bind_apply, Stateful.get_bind_apply]
  simp only [detected, if_true, same, set]
  exact ⟨_, rfl, same.trans set, deadline, sequence, detected⟩

/-- Before that it is taken for the coordinator's own. -/
theorem receiveHeartbeat_uncontested (set : self.currentCoordinator = some current)
    (foreign : heartbeat.coordinatorId ≠ current) (alone : ¬ self.Contested heartbeat.coordinatorId) :
    receiveHeartbeat heartbeat self =
      refreshDeadline heartbeat (self.recordClaimedCoordinator heartbeat.coordinatorId heartbeat.timestamp) := by
  have undetected := mt (detectSplitBrain_recorded self heartbeat.coordinatorId heartbeat.timestamp).mp alone
  rw [receiveHeartbeat, Stateful.get_bind_apply]
  simp only [set, Option.any_some, bne_iff_ne, ne_eq, foreign, not_false_eq_true, if_true]
  rw [Stateful.modify_bind_apply, Stateful.get_bind_apply]
  simp only [undetected]
  rfl

/-! ## Leadership -/

/-- A new term: its coordinator has sent no heartbeat yet. -/
structure TakesOver (after : FleetRecoveryCoordinator) (leader : String) : Prop where
  current : after.currentCoordinator = some leader
  deadline : after.coordinatorHeartbeatDeadline = none
  sequence : after.lastHeartbeatSequence = 0

theorem install_apply (self : FleetRecoveryCoordinator) (candidate reason : String) :
    ∃ after, install candidate reason self = .ok candidate after ∧ TakesOver after candidate := by
  rw [install, Stateful.get_bind_apply, Stateful.modify_bind_apply, Stateful.get_bind_apply, emit,
    Stateful.modify_bind_apply]
  exact ⟨_, rfl, rfl, rfl, rfl⟩

/-- What a request for a new coordinator does: a member takes over with a quorum, or nothing changes. -/
def Elects (self : FleetRecoveryCoordinator) (request : Call String) : Prop :=
  (∃ failure, request self = .error failure self) ∨
    ∃ leader after, request self = .ok leader after ∧ TakesOver after leader ∧ self.IsEnrolled leader ∧ self.HasQuorum

theorem elects_install {candidate : String} (listed : candidate ∈ self.enrolledMemberIds)
    (enough : ¬ self.enrolledMemberIds.length < self.quorumSize) (reason : String) :
    self.Elects (install candidate reason) := by
  obtain ⟨after, ran, takes⟩ := install_apply self candidate reason
  refine .inr ⟨candidate, after, ran, takes, (mem_enrolledMemberIds self candidate).mp listed, ?_⟩
  rw [HasQuorum, ← length_enrolledMemberIds]
  exact Nat.le_of_not_lt enough

theorem elects_promoteCoordinator (self : FleetRecoveryCoordinator) (now : DateTime) :
    self.Elects (promoteCoordinator now) := by
  rw [Elects, promoteCoordinator, Stateful.get_bind_apply]
  split
  · exact .inl ⟨_, rfl⟩
  dsimp only
  split
  · exact .inl ⟨_, rfl⟩
  next enough =>
  cases found : self.backupCoordinators.find? (self.enrolledMemberIds.contains ·) with
  | none => exact .inl ⟨_, rfl⟩
  | some candidate =>
    have listed : candidate ∈ self.enrolledMemberIds := by simpa using List.find?_some found
    exact elects_install listed enough _

theorem elects_electNewCoordinator (self : FleetRecoveryCoordinator) : self.Elects electNewCoordinator := by
  rw [Elects, electNewCoordinator, Stateful.get_bind_apply]
  dsimp only
  split
  · exact .inl ⟨_, rfl⟩
  next enough =>
  split
  · exact .inl ⟨_, rfl⟩
  cases found : (self.backupCoordinators.find? (self.enrolledMemberIds.contains ·)).or self.enrolledMemberIds.head? with
  | none => exact .inl ⟨_, rfl⟩
  | some candidate =>
    have listed : candidate ∈ self.enrolledMemberIds := by
      obtain backup | ⟨-, first⟩ := Option.or_eq_some_iff.mp found
      · simpa using List.find?_some backup
      · exact List.mem_of_head? first
    exact elects_install listed enough _

/-- The claim with the latest timestamp; of several the one recorded first. -/
def latestClaim : List (String × DateTime) → Option (String × DateTime)
  | [] => none
  | claim :: rest => match latestClaim rest with
    | none => some claim
    | some later => if claim.2 < later.2 then some later else some claim

theorem laterFirst_trans (third : String × DateTime) (first : laterFirst one other = true)
    (second : laterFirst other third = true) : laterFirst one third = true :=
  decide_eq_true (le_trans (of_decide_eq_true second) (of_decide_eq_true first))

theorem laterFirst_total : (laterFirst one other || laterFirst other one) = true := by
  rw [Bool.or_eq_true, laterFirst, laterFirst, decide_eq_true_eq, decide_eq_true_eq]
  exact le_total _ _

/-- The head of a stable sort is the first of the largest. -/
theorem head?_claimantsByTime (self : FleetRecoveryCoordinator) :
    self.claimantsByTime.head? = latestClaim self.claimedCoordinators := by
  rw [claimantsByTime]
  induction self.claimedCoordinators with
  | nil => simp [latestClaim]
  | cons claim rest ih =>
    obtain ⟨newer, older, sorted, others, later⟩ :=
      List.mergeSort_cons laterFirst_trans laterFirst_total claim rest
    have descending := List.pairwise_mergeSort laterFirst_trans laterFirst_total (claim :: rest)
    rw [others] at ih
    rw [sorted, latestClaim, ← ih]
    cases newer with
    | nil =>
      cases older with
      | nil => rfl
      | cons next older =>
        rw [sorted] at descending
        have bound : next.2 ≤ claim.2 := by simpa [laterFirst] using
          (List.rel_of_pairwise_cons descending List.mem_cons_self)
        simp [not_lt.mpr bound]
    | cons first newer =>
      have bound : claim.2 < first.2 := by simpa [laterFirst] using later first List.mem_cons_self
      simp [bound]

/-- With two claimants the one of the latest claim takes over; otherwise nothing changes. -/
theorem recoverFromSplitBrain_apply (self : FleetRecoveryCoordinator) :
    (self.detectSplitBrain = false ∧ recoverFromSplitBrain self = .ok () self) ∨
      (self.detectSplitBrain = true ∧ ∃ claim after, latestClaim self.claimedCoordinators = some claim ∧
        recoverFromSplitBrain self = .ok () after ∧ TakesOver after claim.1 ∧ after.claimedCoordinators = []) := by
  rw [detectSplitBrain, recoverFromSplitBrain, Stateful.get_bind_apply, ← head?_claimantsByTime]
  by_cases few : self.claimedCoordinators.length < 2
  · exact .inl ⟨decide_eq_false (Nat.not_le.mpr few), by simp only [few, if_true]; rfl⟩
  · refine .inr ⟨decide_eq_true (Nat.le_of_not_lt few), ?_⟩
    have counted : self.claimantsByTime.length = self.claimedCoordinators.length := List.length_mergeSort _
    cases sorted : self.claimantsByTime with
    | nil =>
      rw [sorted, List.length_nil] at counted
      omega
    | cons winner rest =>
      simp only [few, if_false]
      exact ⟨winner, _, rfl, rfl, ⟨rfl, rfl, rfl⟩, rfl⟩

/-! ## The law -/

/-- What every request has to respect, seen from the state in which it is made. -/
structure Lawful (coordinator : FleetRecoveryCoordinator) (op : RecoveryOp) : Prop where
  /-- Only an accepted heartbeat sets the deadline. -/
  deadline : ∀ deadline, (coordinator.step op).coordinatorHeartbeatDeadline = some deadline →
    coordinator.coordinatorHeartbeatDeadline = some deadline ∨
      ∃ heartbeat, op = .receiveHeartbeat heartbeat ∧ coordinator.Accepts heartbeat ∧
        deadline = heartbeat.timestamp + coordinator.heartbeatTimeout
  /-- An accepted heartbeat is the current coordinator's. -/
  accepted : ∀ heartbeat, op = .receiveHeartbeat heartbeat → coordinator.Accepts heartbeat →
    coordinator.currentCoordinator = some heartbeat.coordinatorId
  /-- A heartbeat that names another coordinator is answered with `SplitBrainDetected`. -/
  refused : ∀ heartbeat current, op = .receiveHeartbeat heartbeat → coordinator.currentCoordinator = some current →
    heartbeat.coordinatorId ≠ current →
      ∃ after, receiveHeartbeat heartbeat coordinator =
        .error (.splitBrainDetected current heartbeat.coordinatorId) after
  /-- The coordinator changes to an enrolled member while there is a quorum. -/
  leadership : (coordinator.step op).currentCoordinator ≠ coordinator.currentCoordinator →
    ∃ leader, (coordinator.step op).currentCoordinator = some leader ∧ coordinator.IsEnrolled leader ∧
      coordinator.HasQuorum

/-- The request starts a term: a promotion or election that succeeds, or a recovery with two claimants. -/
def StartsTerm (self : FleetRecoveryCoordinator) : RecoveryOp → Prop
  | .receiveHeartbeat _ => False
  | .promoteCoordinator now => ∃ leader after, promoteCoordinator now self = .ok leader after
  | .electNewCoordinator => ∃ leader after, electNewCoordinator self = .ok leader after
  | .recoverFromSplitBrain => self.detectSplitBrain = true

/-- Within a term the accepted heartbeats have strictly increasing sequence numbers. -/
def SequencesIncrease (start : FleetRecoveryCoordinator) (ops : List RecoveryOp) : Prop :=
  ∀ before earlier between later rest,
    ops = before ++ .receiveHeartbeat earlier :: (between ++ .receiveHeartbeat later :: rest) →
    (runFrom start before).Accepts earlier →
    StepRun.Along step (fun state op => ¬ state.StartsTerm op)
      (runFrom start (before ++ [.receiveHeartbeat earlier])) between →
    (runFrom start (before ++ .receiveHeartbeat earlier :: between)).Accepts later →
    earlier.sequence < later.sequence

/-- The conditions under which a request respects the law: a foreign heartbeat comes when two
claimants are on record with it, and the latest claimant is a member with a quorum behind it. -/
def Fits (self : FleetRecoveryCoordinator) : RecoveryOp → Prop
  | .receiveHeartbeat heartbeat => self.currentCoordinator ≠ some heartbeat.coordinatorId →
      self.Contested heartbeat.coordinatorId
  | .recoverFromSplitBrain => self.detectSplitBrain = true →
      ∀ claim, latestClaim self.claimedCoordinators = some claim → self.currentCoordinator ≠ some claim.1 →
        self.IsEnrolled claim.1 ∧ self.HasQuorum
  | _ => True

/-! ### One step -/

theorem Lawful.of_unchanged (quiet : ∀ heartbeat, op ≠ .receiveHeartbeat heartbeat) (same : self.step op = self) :
    self.Lawful op where
  deadline _ held := .inl (same ▸ held)
  accepted heartbeat received := absurd received (quiet heartbeat)
  refused heartbeat _ received := absurd received (quiet heartbeat)
  leadership changed := absurd (congrArg currentCoordinator same) changed

theorem lawful_takesOver_iff (quiet : ∀ heartbeat, op ≠ .receiveHeartbeat heartbeat) {leader : String}
    (takes : TakesOver (self.step op) leader) :
    self.Lawful op ↔ (self.currentCoordinator ≠ some leader → self.IsEnrolled leader ∧ self.HasQuorum) := by
  constructor
  · intro lawful moved
    obtain ⟨other, installed, enrolled⟩ := lawful.leadership (by rw [takes.current]; exact moved.symm)
    obtain rfl := Option.some.inj (takes.current.symm.trans installed)
    exact enrolled
  · intro member
    refine ⟨fun deadline held => ?_, fun heartbeat received => absurd received (quiet heartbeat),
      fun heartbeat _ received => absurd received (quiet heartbeat), fun changed => ?_⟩
    · rw [takes.deadline] at held
      cases held
    · rw [takes.current] at changed
      exact ⟨leader, takes.current, member changed.symm⟩

theorem lawful_of_elects (quiet : ∀ heartbeat, op ≠ .receiveHeartbeat heartbeat) {request : Call String}
    (called : call op = do let _ ← request) (elects : self.Elects request) :
    self.Lawful op := by
  obtain ⟨failure, ran⟩ | ⟨leader, after, ran, takes, enrolled, quorum⟩ := elects
  · apply Lawful.of_unchanged quiet
    rw [step, called, Stateful.bind_apply, ran]
    rfl
  · have reached : self.step op = after := by
      rw [step, called, Stateful.bind_apply, ran]
      rfl
    exact (lawful_takesOver_iff quiet (reached ▸ takes)).mpr fun _ => ⟨enrolled, quorum⟩

theorem lawful_recover_iff (self : FleetRecoveryCoordinator) :
    self.Lawful .recoverFromSplitBrain ↔ self.Fits .recoverFromSplitBrain := by
  have quiet : ∀ heartbeat, RecoveryOp.recoverFromSplitBrain ≠ .receiveHeartbeat heartbeat :=
    fun _ => RecoveryOp.noConfusion
  obtain ⟨undetected, ran⟩ | ⟨detected, claim, after, latest, ran, takes, -⟩ := recoverFromSplitBrain_apply self
  · refine iff_of_true (Lawful.of_unchanged quiet ?_) fun detected => ?_
    · rw [step, call, ran]
      rfl
    · rw [undetected] at detected
      cases detected
  · have reached : self.step .recoverFromSplitBrain = after := by
      rw [step, call, ran]
      rfl
    rw [lawful_takesOver_iff quiet (reached ▸ takes)]
    constructor
    · intro member _ other found moved
      obtain rfl := Option.some.inj (latest.symm.trans found)
      exact member moved
    · exact fun fits => fits detected claim latest

theorem accepts_iff_refreshDeadline {recorded : FleetRecoveryCoordinator}
    (same : receiveHeartbeat heartbeat self = refreshDeadline heartbeat recorded) :
    self.Accepts heartbeat ↔ recorded.lastHeartbeatSequence < heartbeat.sequence := by
  rw [Accepts, same, refreshDeadline_apply]
  split
  · next stale => exact iff_of_false (fun ⟨_, ran⟩ => nomatch ran) (Nat.not_lt.mpr stale)
  · next fresh => exact iff_of_true ⟨_, rfl⟩ (Nat.lt_of_not_le fresh)

theorem lawful_receive_own (own : self.currentCoordinator = some heartbeat.coordinatorId) :
    self.Lawful (.receiveHeartbeat heartbeat) := by
  have same := receiveHeartbeat_own own
  have reached : self.step (.receiveHeartbeat heartbeat) = self ∨
      (self.lastHeartbeatSequence < heartbeat.sequence ∧
        self.step (.receiveHeartbeat heartbeat) = self.refreshed heartbeat) := by
    rw [step, call, same, refreshDeadline_apply]
    split
    · exact .inl rfl
    · next fresh => exact .inr ⟨Nat.lt_of_not_le fresh, rfl⟩
  refine ⟨fun deadline held => ?_, ?_, ?_, fun changed => ?_⟩
  · obtain unchanged | ⟨fresh, unchanged⟩ := reached
    · exact .inl (unchanged ▸ held)
    · rw [unchanged] at held
      exact .inr ⟨heartbeat, rfl, (accepts_iff_refreshDeadline same).mpr fresh, (Option.some.inj held).symm⟩
  · rintro _ ⟨rfl⟩ -
    exact own
  · rintro _ current ⟨rfl⟩ set foreign
    exact absurd (Option.some.inj (own.symm.trans set)) foreign
  · obtain unchanged | ⟨-, unchanged⟩ := reached
    · exact absurd (congrArg currentCoordinator unchanged) changed
    · exact absurd (congrArg currentCoordinator unchanged) changed

theorem lawful_receive_contested (set : self.currentCoordinator = some current)
    (foreign : heartbeat.coordinatorId ≠ current) (contested : self.Contested heartbeat.coordinatorId) :
    self.Lawful (.receiveHeartbeat heartbeat) := by
  obtain ⟨after, ran, same, deadline, -⟩ := receiveHeartbeat_contested set foreign contested
  have reached : self.step (.receiveHeartbeat heartbeat) = after := by
    rw [step, call, ran]
    rfl
  refine ⟨fun _ held => ?_, ?_, ?_, fun changed => ?_⟩
  · rw [reached, deadline] at held
    exact .inl held
  · rintro _ ⟨rfl⟩ ⟨other, accepted⟩
    rw [ran] at accepted
    cases accepted
  · rintro _ other ⟨rfl⟩ named -
    obtain rfl := Option.some.inj (set.symm.trans named)
    exact ⟨after, ran⟩
  · rw [reached] at changed
    exact absurd same changed

theorem lawful_receive_iff (set : self.currentCoordinator = some current) (heartbeat : CoordinatorHeartbeat) :
    self.Lawful (.receiveHeartbeat heartbeat) ↔ self.Fits (.receiveHeartbeat heartbeat) := by
  by_cases own : heartbeat.coordinatorId = current
  · have named : self.currentCoordinator = some heartbeat.coordinatorId := by rw [set, own]
    exact iff_of_true (lawful_receive_own named) fun foreign => absurd named foreign
  have foreign : self.currentCoordinator ≠ some heartbeat.coordinatorId := by
    rw [set]
    exact fun same => own (Option.some.inj same).symm
  by_cases contested : self.Contested heartbeat.coordinatorId
  · exact iff_of_true (lawful_receive_contested set own contested) fun _ => contested
  · refine iff_of_false (fun lawful => ?_) fun fits => contested (fits foreign)
    obtain ⟨after, ran⟩ := lawful.refused heartbeat current rfl set own
    rw [receiveHeartbeat_uncontested set own contested, refreshDeadline_apply] at ran
    split at ran
    · cases ran
    · cases ran

/-- A request respects the law exactly if it fits the state it is made in. -/
theorem lawful_iff (set : self.currentCoordinator = some current) (op : RecoveryOp) :
    self.Lawful op ↔ self.Fits op := by
  cases op with
  | receiveHeartbeat heartbeat => exact lawful_receive_iff set heartbeat
  | promoteCoordinator now =>
    exact iff_of_true (lawful_of_elects (fun _ => RecoveryOp.noConfusion) rfl
      (elects_promoteCoordinator self now)) trivial
  | electNewCoordinator =>
    exact iff_of_true (lawful_of_elects (fun _ => RecoveryOp.noConfusion) rfl (elects_electNewCoordinator self)) trivial
  | recoverFromSplitBrain => exact lawful_recover_iff self

/-! ### Whole runs -/

theorem refreshDeadline_keeps (self : FleetRecoveryCoordinator) (heartbeat : CoordinatorHeartbeat) :
    (Stateful.finalState (refreshDeadline heartbeat self)).currentCoordinator = self.currentCoordinator ∧
      self.lastHeartbeatSequence ≤ (Stateful.finalState (refreshDeadline heartbeat self)).lastHeartbeatSequence := by
  rw [refreshDeadline_apply]
  split
  · exact ⟨rfl, Nat.le_refl _⟩
  · next fresh => exact ⟨rfl, Nat.le_of_not_le fresh⟩

/-- A heartbeat changes no coordinator and takes no sequence number back. -/
theorem step_receive_keeps (set : self.currentCoordinator = some current) (heartbeat : CoordinatorHeartbeat) :
    (self.step (.receiveHeartbeat heartbeat)).currentCoordinator = self.currentCoordinator ∧
      self.lastHeartbeatSequence ≤ (self.step (.receiveHeartbeat heartbeat)).lastHeartbeatSequence := by
  rw [step, call]
  by_cases own : heartbeat.coordinatorId = current
  · rw [receiveHeartbeat_own (by rw [set, own])]
    exact refreshDeadline_keeps self heartbeat
  by_cases contested : self.Contested heartbeat.coordinatorId
  · obtain ⟨after, ran, same, -, sequence, -⟩ := receiveHeartbeat_contested set own contested
    rw [ran]
    exact ⟨same, Nat.le_of_eq sequence.symm⟩
  · obtain ⟨same, -, sequence⟩ := recordClaimedCoordinator_keeps self heartbeat.coordinatorId heartbeat.timestamp
    obtain ⟨kept, raised⟩ := refreshDeadline_keeps
      (self.recordClaimedCoordinator heartbeat.coordinatorId heartbeat.timestamp) heartbeat
    rw [receiveHeartbeat_uncontested set own contested]
    exact ⟨kept.trans same, sequence ▸ raised⟩

/-- An accepted heartbeat has a new sequence number, which is recorded. -/
theorem Accepts.fresh (set : self.currentCoordinator = some current) (accepted : self.Accepts heartbeat) :
    self.lastHeartbeatSequence < heartbeat.sequence ∧
      (self.step (.receiveHeartbeat heartbeat)).lastHeartbeatSequence = heartbeat.sequence := by
  have refreshes : ∃ recorded : FleetRecoveryCoordinator,
      recorded.lastHeartbeatSequence = self.lastHeartbeatSequence ∧
        receiveHeartbeat heartbeat self = refreshDeadline heartbeat recorded := by
    by_cases own : heartbeat.coordinatorId = current
    · exact ⟨self, rfl, receiveHeartbeat_own (by rw [set, own])⟩
    by_cases contested : self.Contested heartbeat.coordinatorId
    · obtain ⟨after, refused, -⟩ := receiveHeartbeat_contested set own contested
      obtain ⟨other, ran⟩ := accepted
      rw [refused] at ran
      cases ran
    · obtain ⟨-, -, sequence⟩ := recordClaimedCoordinator_keeps self heartbeat.coordinatorId heartbeat.timestamp
      exact ⟨_, sequence, receiveHeartbeat_uncontested set own contested⟩
  obtain ⟨recorded, sequence, same⟩ := refreshes
  have newer := (accepts_iff_refreshDeadline same).mp accepted
  rw [← sequence, step, call, same, refreshDeadline_apply, if_neg (Nat.not_le.mpr newer)]
  exact ⟨newer, rfl⟩

/-- There is always a coordinator. -/
theorem step_isSet (set : self.currentCoordinator = some current) (op : RecoveryOp) :
    ∃ next, (self.step op).currentCoordinator = some next := by
  have of_elects {request : Call String} (elects : self.Elects request) :
      ∃ next, (Stateful.finalState ((do let _ ← request : Call Unit) self)).currentCoordinator = some next := by
    rw [Stateful.bind_apply]
    obtain ⟨failure, ran⟩ | ⟨leader, after, ran, takes, -⟩ := elects
    · rw [ran]
      exact ⟨current, set⟩
    · rw [ran]
      exact ⟨leader, takes.current⟩
  cases op with
  | receiveHeartbeat heartbeat => exact ⟨current, (step_receive_keeps set heartbeat).1.trans set⟩
  | promoteCoordinator now => exact of_elects (elects_promoteCoordinator self now)
  | electNewCoordinator => exact of_elects (elects_electNewCoordinator self)
  | recoverFromSplitBrain =>
    rw [step, call]
    obtain ⟨-, ran⟩ | ⟨-, claim, after, -, ran, takes, -⟩ := recoverFromSplitBrain_apply self
    · rw [ran]
      exact ⟨current, set⟩
    · rw [ran]
      exact ⟨claim.1, takes.current⟩

theorem runFrom_isSet (set : start.currentCoordinator = some current) (ops : List RecoveryOp) :
    ∃ next, (runFrom start ops).currentCoordinator = some next :=
  StepRun.run_invariant (fun state : FleetRecoveryCoordinator => ∃ next, state.currentCoordinator = some next)
    (fun _ op ⟨_, held⟩ => step_isSet held op) ⟨current, set⟩ ops

/-- Until a term starts the last sequence number is not taken back. -/
theorem step_sequence (set : self.currentCoordinator = some current) (going : ¬ self.StartsTerm op) :
    self.lastHeartbeatSequence ≤ (self.step op).lastHeartbeatSequence := by
  have of_elects {request : Call String} (elects : self.Elects request)
      (fails : ¬ ∃ leader after, request self = .ok leader after) :
      self.lastHeartbeatSequence ≤
        (Stateful.finalState ((do let _ ← request : Call Unit) self)).lastHeartbeatSequence := by
    obtain ⟨failure, ran⟩ | ⟨leader, after, ran, -⟩ := elects
    · rw [Stateful.bind_apply, ran]
      exact Nat.le_refl _
    · exact absurd ⟨leader, after, ran⟩ fails
  cases op with
  | receiveHeartbeat heartbeat => exact (step_receive_keeps set heartbeat).2
  | promoteCoordinator now => exact of_elects (elects_promoteCoordinator self now) going
  | electNewCoordinator => exact of_elects (elects_electNewCoordinator self) going
  | recoverFromSplitBrain =>
    rw [step, call]
    obtain ⟨-, ran⟩ | ⟨detected, -⟩ := recoverFromSplitBrain_apply self
    · rw [ran]
      exact Nat.le_refl _
    · exact absurd detected going

theorem run_sequence (set : self.currentCoordinator = some current) {ops : List RecoveryOp}
    (going : StepRun.Along step (fun state op => ¬ state.StartsTerm op) self ops) :
    self.lastHeartbeatSequence ≤ (runFrom self ops).lastHeartbeatSequence := by
  induction ops generalizing self current with
  | nil => exact Nat.le_refl _
  | cons op rest ih =>
    obtain ⟨next, held⟩ := step_isSet set op
    exact Nat.le_trans (step_sequence set going.1) (ih held going.2)

theorem sequencesIncrease (set : start.currentCoordinator = some current) (ops : List RecoveryOp) :
    SequencesIncrease start ops := by
  intro before earlier between later rest _ accepted going accepted'
  obtain ⟨_, held⟩ := runFrom_isSet set before
  obtain ⟨-, recorded⟩ := accepted.fresh held
  obtain ⟨_, held'⟩ := runFrom_isSet set (before ++ [.receiveHeartbeat earlier])
  obtain ⟨_, held''⟩ := runFrom_isSet set (before ++ .receiveHeartbeat earlier :: between)
  have raised := run_sequence held' going
  have newer := (accepted'.fresh held'').1
  simp only [runFrom, StepRun.run_append, StepRun.run_cons, StepRun.run_nil] at recorded raised newer
  omega

theorem along_lawful_iff (set : start.currentCoordinator = some current) (ops : List RecoveryOp) :
    StepRun.Along step Lawful start ops ↔ StepRun.Along step Fits start ops := by
  rw [StepRun.along_iff_cut, StepRun.along_iff_cut]
  refine forall₄_congr fun before op _ _ => ?_
  obtain ⟨_, held⟩ := runFrom_isSet set before
  exact lawful_iff held op

/-! ### Runs that break the law -/

theorem ne_append_x (name : String) : name ++ "x" ≠ name := by
  intro same
  have lengths := congrArg String.length same
  rw [String.length_append] at lengths
  exact absurd lengths (by simp)

/-- Without claims on record the first foreign heartbeat is taken for the coordinator's. -/
theorem not_fits_first (set : self.currentCoordinator = some current) (fresh : self.claimedCoordinators = []) :
    ¬ self.Fits (.receiveHeartbeat ⟨current ++ "x", 0, 0⟩) := by
  intro fits
  have foreign : self.currentCoordinator ≠ some (current ++ "x") := by
    rw [set]
    exact fun same => ne_append_x current (Option.some.inj same).symm
  have contested := fits foreign
  rw [Contested, fresh] at contested
  simp at contested

/-- Once a split brain is detected, the recovery from it is followed by such a heartbeat. -/
theorem exists_unfit_of_detected (detected : self.detectSplitBrain = true) :
    ∃ ops, ¬ StepRun.Along step Fits self ops := by
  obtain ⟨undetected, -⟩ | ⟨-, claim, after, -, ran, takes, fresh⟩ := recoverFromSplitBrain_apply self
  · rw [undetected] at detected
    cases detected
  · refine ⟨[.recoverFromSplitBrain, .receiveHeartbeat ⟨claim.1 ++ "x", 0, 0⟩], ?_⟩
    rintro ⟨-, unfit, -⟩
    rw [step, call, ran] at unfit
    exact not_fits_first takes.current fresh unfit

/-- Whatever is on record, some run breaks the law. -/
theorem exists_unfit (set : self.currentCoordinator = some current) : ∃ ops, ¬ StepRun.Along step Fits self ops := by
  cases detected : self.detectSplitBrain with
  | true => exact exists_unfit_of_detected detected
  | false =>
    rw [detectSplitBrain, decide_eq_false_iff_not] at detected
    cases claims : self.claimedCoordinators with
    | nil => exact ⟨[_], fun along => not_fits_first set claims along.1⟩
    | cons claim rest =>
      obtain rfl : rest = [] := by
        rw [claims, List.length_cons] at detected
        exact List.eq_nil_of_length_eq_zero (by omega)
      by_cases own : claim.1 = current
      · -- a second claimant joins the coordinator's own old claim
        have contested : self.Contested (current ++ "x") := by
          rw [Contested, claims, List.map_cons, List.map_nil, own]
          simp
        have foreign : (CoordinatorHeartbeat.mk (current ++ "x") 0 0).coordinatorId ≠ current := ne_append_x current
        obtain ⟨after, ran, -, -, -, split⟩ := receiveHeartbeat_contested set foreign contested
        obtain ⟨ops, unfit⟩ := exists_unfit_of_detected split
        refine ⟨.receiveHeartbeat ⟨current ++ "x", 0, 0⟩ :: ops, fun along => unfit ?_⟩
        have later := along.2
        rwa [step, call, ran] at later
      · refine ⟨[.receiveHeartbeat ⟨claim.1, 0, 0⟩], fun along => ?_⟩
        have contested := along.1 (by rw [set]; exact fun same => own (Option.some.inj same).symm)
        rw [Contested, claims] at contested
        simp at contested

/-- A run keeps the law exactly if every foreign heartbeat finds two claimants on record with it and
every recovery finds the latest claimant enrolled and a quorum; from no state do all runs keep it. -/
theorem coordinatorSafety_iff (start : FleetRecoveryCoordinator) (current : String)
    (set : start.currentCoordinator = some current) :
    (∀ ops, (StepRun.Along step Lawful start ops ∧ SequencesIncrease start ops) ↔ StepRun.Along step Fits start ops) ∧
      ∃ ops, ¬ (StepRun.Along step Lawful start ops ∧ SequencesIncrease start ops) := by
  have exactly (ops : List RecoveryOp) :
      (StepRun.Along step Lawful start ops ∧ SequencesIncrease start ops) ↔ StepRun.Along step Fits start ops := by
    rw [along_lawful_iff set]
    exact and_iff_left (sequencesIncrease set ops)
  obtain ⟨ops, unfit⟩ := exists_unfit set
  exact ⟨exactly, ops, mt (exactly ops).mp unfit⟩

/-- Three enrolled members, one of them a backup, and a quorum of two. -/
def exampleCoordinator : FleetRecoveryCoordinator :=
  let memberships := ["coord-a", "coord-b", "coord-c"].map fun host =>
    ⟨host, { FleetMembership.new host host "fleet" with state := .enrolled }⟩
  { (new memberships.toAList 2 "fleet").setCoordinator "coord-a" with backupCoordinators := ["coord-b"] }

/-- A promotion comes while the coordinator is alive, and an election after its heartbeats. -/
def exampleRun : List RecoveryOp :=
  [.receiveHeartbeat ⟨"coord-a", 0, 1⟩, .receiveHeartbeat ⟨"coord-a", 10, 2⟩, .promoteCoordinator 15,
    .receiveHeartbeat ⟨"coord-a", 20, 3⟩, .electNewCoordinator]

theorem coordinatorSafety_iff_example :
    (runFrom exampleCoordinator (exampleRun.take 4)).lastHeartbeatSequence = 3 ∧
      StepRun.Along step Lawful exampleCoordinator exampleRun ∧ SequencesIncrease exampleCoordinator exampleRun := by
  refine ⟨by decide +kernel, ((coordinatorSafety_iff exampleCoordinator "coord-a" rfl).1 exampleRun).mpr ?_⟩
  have alive : (runFrom exampleCoordinator (exampleRun.take 3)).currentCoordinator = some "coord-a" := by decide +kernel
  exact ⟨fun foreign => absurd rfl foreign, fun foreign => absurd rfl foreign, trivial,
    fun foreign => absurd alive foreign, trivial, trivial⟩

/-- The first heartbeat of another claimant is answered with `Ok` and sets the deadline. -/
theorem not_lawful_first_claim :
    ¬ (StepRun.Along step Lawful exampleCoordinator [.receiveHeartbeat ⟨"coord-b", 0, 1⟩] ∧
      SequencesIncrease exampleCoordinator [.receiveHeartbeat ⟨"coord-b", 0, 1⟩]) := by
  rintro ⟨⟨lawful, -⟩, -⟩
  have own := lawful.accepted ⟨"coord-b", 0, 1⟩ rfl ⟨_, rfl⟩
  exact absurd own (by decide)

end FleetRecoveryCoordinator

end Aios.Fleet
