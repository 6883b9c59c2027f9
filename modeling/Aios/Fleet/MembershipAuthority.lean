import Aios.Fleet.Membership

/-! # Who may move a membership

What a request has checked when it moves a membership, and what follows for the two requests that
rest on signatures of hosts: expulsion by a quorum of members, and enrolment and withdrawal by the
host itself. `expel` counts signatures without looking at one of them, `enroll` checks nothing for a
host without a registered key, and `withdraw` checks the proof against the key and the id that the
proof itself brings.
-/

namespace Aios.Fleet

open Aios.Rust

namespace FleetMembershipDriver

variable {ed25519 : Ed25519} {self : FleetMembershipDriver}

variable (membershipId : Ulid)

/-! ## What a request has checked -/

/-- The membership is stored and its state machine allows the target. -/
def Allows (self : FleetMembershipDriver) (membershipId : Ulid) (target : FleetMembershipState) : Prop :=
  ∃ membership, self.memberships.lookup membershipId = some membership ∧ membership.transition target = some target

/-- A stored membership in another state; only the record of events may differ besides. -/
def Moved (membership : FleetMembership) (target : FleetMembershipState) (self after : FleetMembershipDriver) : Prop :=
  after.memberships = self.memberships.insert membershipId { membership with state := target }

theorem moveTo_cases (self : FleetMembershipDriver) (membershipId : Ulid) (target : FleetMembershipState)
    (event : FleetMembership → MembershipEvent) :
    (¬ self.Allows membershipId target ∧ ∃ failure, moveTo membershipId target event self = .error failure self) ∨
      ∃ membership after, self.memberships.lookup membershipId = some membership ∧
        membership.transition target = some target ∧ Moved membershipId membership target self after ∧
        moveTo membershipId target event self = .ok { membership with state := target } after := by
  unfold moveTo
  rw [Stateful.get_bind_apply]
  cases stored : self.memberships.lookup membershipId with
  | none => exact .inl ⟨by simp [Allows, stored], _, rfl⟩
  | some membership =>
    cases allowed : membership.transition target with
    | none =>
      refine .inl ⟨by simp [Allows, stored, allowed], .invalidTransition membership.state target, ?_⟩
      simp only [allowed]
      rfl
    | some state =>
      obtain rfl := FleetMembership.transition_eq_some allowed
      refine .inr ⟨membership, _, rfl, allowed, ?_, by simp only [allowed]; rfl⟩
      rfl

/-- The checks a request has passed when it moves a membership to a state. -/
inductive Granted (ed25519 : Ed25519) (self : FleetMembershipDriver) (membershipId : Ulid)
    (membership : FleetMembership) : MembershipOp → FleetMembershipState → Prop where
  | invite {invitedBy : Ulid} {now : DateTime} (coordinator : invitedBy = self.coordinatorId) :
      Granted ed25519 self membershipId membership (.invite membershipId invitedBy now) .invited
  | attest {tpmReceipt : TpmAttestationReceipt} {now : DateTime}
      (measured : verifyTpmAttestation tpmReceipt = .ok ()) :
      Granted ed25519 self membershipId membership (.attest membershipId tpmReceipt now) .attesting
  | enroll {hostRootSignature : Signature} {now : DateTime}
      (accepted : ∀ hostKey, self.hostPublicKeys.lookup membership.hostId = some hostKey →
        self.verifyHostRootAcceptance ed25519 hostKey membershipId hostRootSignature = true) :
      Granted ed25519 self membershipId membership (.enroll membershipId hostRootSignature now) .enrolled
  | suspend {reason : SuspendReason} {now : DateTime} :
      Granted ed25519 self membershipId membership (.suspend membershipId reason now) .suspended
  | quarantine {reason : QuarantineReason} {now : DateTime} :
      Granted ed25519 self membershipId membership (.quarantine membershipId reason now) .quarantined
  | withdraw {hostAuth : HostAuthProof} {now : DateTime} (verified : verifyHostAuthProof ed25519 hostAuth = true)
      (host : membership.hostId = hostAuth.hostId) :
      Granted ed25519 self membershipId membership (.withdraw membershipId hostAuth now) .withdrawn
  | expel {reason : ExpelReason} {quorumSignatures : List Signature} {now : DateTime}
      (enough : quorumThreshold self.enrolledCount ≤ quorumSignatures.length) :
      Granted ed25519 self membershipId membership (.expel membershipId reason quorumSignatures now) .expelled
  | enforcePostureFloor {now : DateTime} (below : self.checkPostureFloor membershipId = false) :
      Granted ed25519 self membershipId membership (.enforcePostureFloor membershipId now) .suspended

/-- A request leaves the memberships, adds one as discovered, or moves one after its checks. -/
def Effect (ed25519 : Ed25519) (self after : FleetMembershipDriver) (op : MembershipOp) : Prop :=
  after.memberships = self.memberships ∨
    (∃ membershipId hostId hostInfo now, op = .discover membershipId hostId hostInfo now ∧
      after.memberships = self.memberships.insert membershipId
        (.new membershipId hostId self.clusterRoot.clusterId)) ∨
    ∃ membershipId membership target, self.memberships.lookup membershipId = some membership ∧
      membership.transition target = some target ∧ Granted ed25519 self membershipId membership op target ∧
      Moved membershipId membership target self after

/-- A request that fails, or goes on to `moveTo` with its checks passed, has the effect. -/
theorem effect_of_program {op : MembershipOp} {program : Call FleetMembership}
    (ran : (∃ failure, program self = .error failure self) ∨
      ∃ membershipId target event, program self = moveTo membershipId target event self ∧
        ∀ membership, self.memberships.lookup membershipId = some membership →
          Granted ed25519 self membershipId membership op target) :
    Effect ed25519 self (Stateful.finalState ((do let _ ← program : Call Unit) self)) op := by
  rw [Stateful.bind_apply]
  obtain ⟨failure, refused⟩ | ⟨membershipId, target, event, same, granted⟩ := ran
  · rw [refused]
    exact .inl rfl
  rw [same]
  obtain ⟨-, failure, refused⟩ | ⟨membership, after, stored, allowed, moved, ran⟩ :=
    moveTo_cases self membershipId target event
  · rw [refused]
    exact .inl rfl
  · rw [ran]
    exact .inr (.inr ⟨membershipId, membership, target, stored, allowed, granted membership stored, moved⟩)

/-! One equation for each request that checks something first. -/

theorem invite_apply (invitedBy : Ulid) (now : DateTime) :
    (invitedBy ≠ self.coordinatorId ∧ ∃ failure, invite membershipId invitedBy now self = .error failure self) ∨
      (invitedBy = self.coordinatorId ∧ ∃ event,
        invite membershipId invitedBy now self = moveTo membershipId .invited event self) := by
  unfold invite
  rw [Stateful.get_bind_apply]
  by_cases coordinator : invitedBy = self.coordinatorId
  · refine .inr ⟨coordinator, ?_⟩
    simp only [coordinator, ne_eq, not_true_eq_false, if_false]
    exact ⟨_, rfl⟩
  · refine .inl ⟨coordinator, .notCoordinator, ?_⟩
    simp only [coordinator, ne_eq, not_false_eq_true, if_true]
    rfl

theorem enroll_apply (hostRootSignature : Signature) (now : DateTime) :
    (∃ failure, enroll ed25519 membershipId hostRootSignature now self = .error failure self) ∨
      ∃ membership event, self.memberships.lookup membershipId = some membership ∧
        (∀ hostKey, self.hostPublicKeys.lookup membership.hostId = some hostKey →
          self.verifyHostRootAcceptance ed25519 hostKey membershipId hostRootSignature = true) ∧
        enroll ed25519 membershipId hostRootSignature now self = moveTo membershipId .enrolled event self := by
  unfold enroll
  rw [Stateful.get_bind_apply]
  cases self.memberships.lookup membershipId with
  | none => exact .inl ⟨_, rfl⟩
  | some membership =>
    cases registered : self.hostPublicKeys.lookup membership.hostId with
    | none =>
      simp only [registered]
      exact .inr ⟨membership, _, rfl, by simp [registered], rfl⟩
    | some hostKey =>
      cases verified : self.verifyHostRootAcceptance ed25519 hostKey membershipId hostRootSignature with
      | false =>
        refine .inl ⟨.hostSignatureVerificationFailed, ?_⟩
        simp only [registered, verified]
        rfl
      | true =>
        simp only [registered, verified, Bool.not_true, Bool.false_eq_true, if_false]
        exact .inr ⟨membership, _, rfl, by simp [registered, verified], rfl⟩

theorem withdraw_apply (hostAuth : HostAuthProof) (now : DateTime) :
    (∃ failure, withdraw ed25519 membershipId hostAuth now self = .error failure self) ∨
      ∃ membership event, self.memberships.lookup membershipId = some membership ∧
        verifyHostAuthProof ed25519 hostAuth = true ∧ membership.hostId = hostAuth.hostId ∧
        withdraw ed25519 membershipId hostAuth now self = moveTo membershipId .withdrawn event self := by
  unfold withdraw
  cases verified : verifyHostAuthProof ed25519 hostAuth with
  | false => exact .inl ⟨_, rfl⟩
  | true =>
    simp only [Bool.not_true, Bool.false_eq_true, if_false]
    rw [Stateful.get_bind_apply]
    cases self.memberships.lookup membershipId with
    | none => exact .inl ⟨_, rfl⟩
    | some membership =>
      by_cases host : membership.hostId = hostAuth.hostId
      · simp only [host, ne_eq, not_true_eq_false, if_false]
        exact .inr ⟨membership, _, rfl, trivial, host, rfl⟩
      · refine .inl ⟨.hostSignatureVerificationFailed, ?_⟩
        simp only [host, ne_eq, not_false_eq_true, if_true]
        rfl

theorem expel_apply (reason : ExpelReason) (quorumSignatures : List Signature) (now : DateTime) :
    (quorumSignatures.length < quorumThreshold self.enrolledCount ∧
        ∃ failure, expel membershipId reason quorumSignatures now self = .error failure self) ∨
      (quorumThreshold self.enrolledCount ≤ quorumSignatures.length ∧ ∃ event,
        expel membershipId reason quorumSignatures now self = moveTo membershipId .expelled event self) := by
  unfold expel
  rw [Stateful.get_bind_apply]
  by_cases few : quorumSignatures.length < quorumThreshold self.enrolledCount
  · refine .inl ⟨few, .quorumRequired (quorumThreshold self.enrolledCount) quorumSignatures.length, ?_⟩
    simp only [few, if_true]
    rfl
  · refine .inr ⟨Nat.le_of_not_lt few, ?_⟩
    simp only [few, if_false]
    exact ⟨_, rfl⟩

theorem enforcePostureFloor_effect (now : DateTime) :
    Effect ed25519 self (self.step ed25519 (.enforcePostureFloor membershipId now))
      (.enforcePostureFloor membershipId now) := by
  simp only [step, call, enforcePostureFloor]
  rw [Stateful.get_bind_apply]
  cases below : self.checkPostureFloor membershipId with
  | true => exact .inl rfl
  | false =>
    simp only [Bool.not_false, if_true]
    obtain ⟨-, failure, refused⟩ | ⟨membership, after, stored, allowed, moved, ran⟩ :=
      moveTo_cases self membershipId .suspended fun membership =>
        .fleetHostSuspended membership.membershipId membership.hostId .postureFloorViolation now
    · have same : suspend membershipId .postureFloorViolation now self = .error failure self := refused
      rw [Stateful.tryCatch_apply, Stateful.bind_apply, same]
      exact .inl rfl
    · have same : suspend membershipId .postureFloorViolation now self =
          .ok { membership with state := .suspended } after := ran
      rw [Stateful.tryCatch_apply, Stateful.bind_apply, same]
      exact .inr (.inr ⟨membershipId, membership, .suspended, stored, allowed, .enforcePostureFloor below, moved⟩)

theorem step_effect (ed25519 : Ed25519) (self : FleetMembershipDriver) (op : MembershipOp) :
    Effect ed25519 self (self.step ed25519 op) op := by
  cases op with
  | setEvidenceEmitter => exact .inl rfl
  | setPostureScore membershipId score => exact .inl rfl
  | registerHostKey hostId key => exact .inl rfl
  | discover membershipId hostId hostInfo now =>
    exact .inr (.inl ⟨membershipId, hostId, hostInfo, now, rfl, rfl⟩)
  | invite membershipId invitedBy now =>
    apply effect_of_program
    obtain ⟨-, refused⟩ | ⟨coordinator, event, ran⟩ := invite_apply membershipId invitedBy now
    · exact .inl refused
    · exact .inr ⟨_, _, event, ran, fun _ _ => .invite coordinator⟩
  | attest membershipId tpmReceipt now =>
    apply effect_of_program
    cases measured : verifyTpmAttestation tpmReceipt with
    | error failure => exact .inl ⟨failure, by rw [attest, measured]; rfl⟩
    | ok => exact .inr ⟨_, _, _, by rw [attest, measured], fun _ _ => .attest measured⟩
  | enroll membershipId hostRootSignature now =>
    apply effect_of_program
    obtain refused | ⟨membership, event, stored, accepted, ran⟩ := enroll_apply membershipId hostRootSignature now
    · exact .inl refused
    · refine .inr ⟨_, _, event, ran, fun found same => ?_⟩
      obtain rfl : membership = found := Option.some.inj (stored.symm.trans same)
      exact .enroll accepted
  | suspend membershipId reason now =>
    exact effect_of_program (.inr ⟨_, _, _, rfl, fun _ _ => .suspend⟩)
  | quarantine membershipId reason now =>
    exact effect_of_program (.inr ⟨_, _, _, rfl, fun _ _ => .quarantine⟩)
  | withdraw membershipId hostAuth now =>
    apply effect_of_program
    obtain refused | ⟨membership, event, stored, verified, host, ran⟩ := withdraw_apply membershipId hostAuth now
    · exact .inl refused
    · refine .inr ⟨_, _, event, ran, fun found same => ?_⟩
      obtain rfl : membership = found := Option.some.inj (stored.symm.trans same)
      exact .withdraw verified host
  | expel membershipId reason quorumSignatures now =>
    apply effect_of_program
    obtain ⟨-, refused⟩ | ⟨enough, event, ran⟩ := expel_apply membershipId reason quorumSignatures now
    · exact .inl refused
    · exact .inr ⟨_, _, event, ran, fun _ _ => .expel enough⟩
  | enforcePostureFloor membershipId now => exact enforcePostureFloor_effect membershipId now

/-! ## Expulsion by a quorum -/

/-- The enrolled members with a valid signature of the text in the list, each counted once. -/
def signerCount (ed25519 : Ed25519) (self : FleetMembershipDriver) (message : String)
    (signatures : List Signature) : ℕ :=
  self.memberships.count fun _ membership =>
    membership.state == .enrolled && (self.hostPublicKeys.lookup membership.hostId).any fun hostKey =>
      signatures.any fun signature => ed25519.verify hostKey message signature

/-- Two thirds of the enrolled members, rounded up and at least one, have signed the text. -/
def QuorumSigned (ed25519 : Ed25519) (self : FleetMembershipDriver) (message : String) (signatures : List Signature) :
    Prop :=
  max 1 ((2 * self.enrolledCount + 2) / 3) ≤ self.signerCount ed25519 message signatures

/-- An expulsion that succeeds is signed by a quorum; `message` is the text that stands for it. -/
def ExpulsionSigned (ed25519 : Ed25519) (message : Ulid → ExpelReason → String) (self : FleetMembershipDriver) :
    MembershipOp → Prop
  | .expel membershipId reason quorumSignatures now =>
    (∃ membership after, expel membershipId reason quorumSignatures now self = .ok membership after) →
      self.QuorumSigned ed25519 (message membershipId reason) quorumSignatures
  | _ => True

/-- A list long enough for the threshold, on a membership that can be expelled, is signed by a quorum. -/
def QuorumPresented (ed25519 : Ed25519) (message : Ulid → ExpelReason → String) (self : FleetMembershipDriver) :
    MembershipOp → Prop
  | .expel membershipId reason quorumSignatures _ =>
    quorumThreshold self.enrolledCount ≤ quorumSignatures.length → self.Allows membershipId .expelled →
      self.QuorumSigned ed25519 (message membershipId reason) quorumSignatures
  | _ => True

theorem expel_ok_iff {membershipId : Ulid} {reason : ExpelReason} {quorumSignatures : List Signature} {now : DateTime} :
    (∃ membership after, expel membershipId reason quorumSignatures now self = .ok membership after) ↔
      quorumThreshold self.enrolledCount ≤ quorumSignatures.length ∧ self.Allows membershipId .expelled := by
  obtain ⟨few, failure, refused⟩ | ⟨enough, event, same⟩ := expel_apply membershipId reason quorumSignatures now
  · rw [refused]
    exact iff_of_false (by simp) fun accepted => absurd accepted.1 (Nat.not_le_of_lt few)
  rw [same]
  obtain ⟨barred, failure, refused⟩ | ⟨membership, after, stored, allowed, -, ran⟩ :=
    moveTo_cases self membershipId .expelled event
  · rw [refused]
    exact iff_of_false (by simp) fun accepted => barred accepted.2
  · rw [ran]
    exact iff_of_true ⟨_, after, rfl⟩ ⟨enough, membership, stored, allowed⟩

/-- The expulsions of a run that succeed are signed by a quorum exactly if every list that is long
enough is. -/
theorem expulsionsSigned_iff (ed25519 : Ed25519) (message : Ulid → ExpelReason → String)
    (start : FleetMembershipDriver) (ops : List MembershipOp) :
    (∀ before op rest, ops = before ++ op :: rest →
        (runFrom ed25519 start before).ExpulsionSigned ed25519 message op) ↔
      ∀ before op rest, ops = before ++ op :: rest →
        (runFrom ed25519 start before).QuorumPresented ed25519 message op := by
  refine forall_congr' fun before => forall_congr' fun op => forall_congr' fun rest => imp_congr_right fun _ => ?_
  cases op with
  | expel membershipId reason quorumSignatures now =>
    simp only [ExpulsionSigned, QuorumPresented, expel_ok_iff, and_imp]
  | _ => exact Iff.rfl

/-- A scheme in which the signature of a text by a key names both. -/
def sampleEd25519 : Ed25519 := ⟨fun key message signature => signature == key ++ " signs " ++ message⟩

def sampleRoot : ClusterTrustRoot := ⟨"clr_01ARZ3NDEKTSV4RRFFQ69G5FAV", "ed25519_pubkey_hex", 1, "realm:aios-default"⟩

def sampleReceipt : TpmAttestationReceipt := ⟨((List.range 8).map fun pcr => ⟨pcr, "pcr"⟩).toAList, "quote"⟩

/-- One host, discovered, invited, attested and enrolled with its own signature. -/
def enrolment : List MembershipOp :=
  [.registerHostKey "host_01" "key_01", .discover "mem_01" "host_01" ⟨"host_01", "host", "6.12.0-aios"⟩ 0,
    .invite "mem_01" "coordinator" 1, .attest "mem_01" sampleReceipt 2,
    .enroll "mem_01" "key_01 signs clr_01ARZ3NDEKTSV4RRFFQ69G5FAV||mem_01" 3]

/-- Three strings that no member has signed expel a member. -/
theorem not_expulsionsSigned_garbage :
    ¬ ∃ message, ∀ before op rest,
      enrolment ++ [.expel "mem_01" .quorumDecision ["01", "02", "03"] 4] = before ++ op :: rest →
        (runFrom sampleEd25519 (new sampleRoot "coordinator" 50) before).ExpulsionSigned sampleEd25519 message op := by
  rintro ⟨message, signed⟩
  have short : ∀ hostKey text, ∀ signature ∈ ["01", "02", "03"],
      sampleEd25519.verify hostKey text signature = false := by
    intro hostKey text signature listed
    apply beq_eq_false_iff_ne.mpr
    intro same
    have sizes := congrArg String.length same
    simp only [String.length_append] at sizes
    have size : signature.length = 2 := by
      simp only [List.mem_cons, List.not_mem_nil, or_false] at listed
      rcases listed with rfl | rfl | rfl <;> rfl
    have middle : " signs ".length = 7 := rfl
    omega
  have unsigned : ∀ driver : FleetMembershipDriver, ∀ text,
      driver.signerCount sampleEd25519 text ["01", "02", "03"] = 0 := by
    intro driver text
    refine List.countP_eq_zero.mpr fun entry _ => ?_
    cases registered : driver.hostPublicKeys.lookup entry.2.hostId with
    | none => simp [registered]
    | some hostKey => simp [registered, short hostKey text]
  have enrolled : (runFrom sampleEd25519 (new sampleRoot "coordinator" 50) enrolment).memberships.lookup "mem_01" =
      some ⟨"mem_01", "host_01", "clr_01ARZ3NDEKTSV4RRFFQ69G5FAV", .enrolled, true, false⟩ := by decide +kernel
  have threshold : quorumThreshold (runFrom sampleEd25519
      (new sampleRoot "coordinator" 50) enrolment).enrolledCount = 1 := by
    decide +kernel
  have quorum := signed enrolment _ [] rfl (expel_ok_iff.mpr ⟨by simp [threshold], _, enrolled, rfl⟩)
  rw [QuorumSigned, unsigned] at quorum
  omega

/-! ## The host's own signature -/

/-- The membership gets the state in this step. -/
def Becomes (self after : FleetMembershipDriver) (membershipId : Ulid) (state : FleetMembershipState) : Prop :=
  (∃ membership, after.memberships.lookup membershipId = some membership ∧ membership.state = state) ∧
    ∀ membership, self.memberships.lookup membershipId = some membership → membership.state ≠ state

/-- The signature of a host that a request carries. -/
def hostSignature : MembershipOp → Option Signature
  | .enroll _ hostRootSignature _ => some hostRootSignature
  | .withdraw _ hostAuth _ => some hostAuth.signature
  | _ => none

/-- The request carries a signature that the registered key of the membership's host verifies, over
the membership's id alone or after the cluster's. -/
def HostAuthorised (ed25519 : Ed25519) (self : FleetMembershipDriver) (op : MembershipOp)
    (membershipId : Ulid) : Prop :=
  ∃ membership hostKey signature text, self.memberships.lookup membershipId = some membership ∧
    self.hostPublicKeys.lookup membership.hostId = some hostKey ∧ hostSignature op = some signature ∧
    (text = membershipId ∨ text = self.acceptanceText membershipId) ∧ ed25519.verify hostKey text signature = true

/-- Enrolment finds a registered key, and an accepted withdrawal proof brings the registered key and
names the membership it is used on. -/
def HostIdentified (ed25519 : Ed25519) (self : FleetMembershipDriver) : MembershipOp → Prop
  | .enroll membershipId _ _ =>
    ∀ membership, self.memberships.lookup membershipId = some membership → membership.state = .attesting →
      self.hostPublicKeys.lookup membership.hostId ≠ none
  | .withdraw membershipId hostAuth _ =>
    ∀ membership, self.memberships.lookup membershipId = some membership → membership.state ≠ .withdrawn →
      membership.hostId = hostAuth.hostId → verifyHostAuthProof ed25519 hostAuth = true →
        self.hostPublicKeys.lookup membership.hostId = some hostAuth.hostPublicKey ∧
          hostAuth.membershipId = membershipId
  | _ => True

theorem state_of_transition_enrolled {membership : FleetMembership}
    (allowed : membership.transition .enrolled = some .enrolled) : membership.state = .attesting := by
  cases state : membership.state <;> simp [FleetMembership.transition, state] at allowed ⊢

/-- One step: a membership that becomes enrolled or withdrawn is moved by its own host. -/
theorem HostIdentified.authorises {op : MembershipOp} (identified : self.HostIdentified ed25519 op)
    {membershipId : Ulid} {state : FleetMembershipState} (exits : state = .enrolled ∨ state = .withdrawn)
    (becomes : self.Becomes (self.step ed25519 op) membershipId state) :
    self.HostAuthorised ed25519 op membershipId := by
  obtain ⟨⟨found, stored, reached⟩, before⟩ := becomes
  obtain same | ⟨newId, hostId, hostInfo, now, rfl, inserted⟩ |
    ⟨movedId, membership, target, known, allowed, granted, moved⟩ := step_effect ed25519 self op
  · rw [same] at stored
    exact absurd reached (before found stored)
  · rw [inserted, Table.lookup_insert_eq] at stored
    split_ifs at stored with isNew
    · obtain rfl := Option.some.inj stored
      rcases exits with rfl | rfl <;> cases reached
    · exact absurd reached (before found stored)
  · rw [moved, Table.lookup_insert_eq] at stored
    split_ifs at stored with isMoved
    · subst isMoved
      obtain rfl := Option.some.inj stored
      obtain rfl : target = state := reached
      have changes := before membership known
      cases granted with
      | enroll accepted =>
        have registered := identified membership known (state_of_transition_enrolled allowed)
        obtain ⟨hostKey, lookup⟩ := Option.ne_none_iff_exists'.mp registered
        exact ⟨membership, hostKey, _, _, known, lookup, rfl, .inr rfl, accepted hostKey lookup⟩
      | withdraw verified host =>
        obtain ⟨registered, named⟩ := identified membership known changes host verified
        exact ⟨membership, _, _, _, known, registered, rfl, .inl named, verified⟩
      | _ => simp at exits
    · exact absurd reached (before found stored)

/-- The request makes a membership enrolled or withdrawn only with a signature of its own host. -/
def HostMoves (ed25519 : Ed25519) (self : FleetMembershipDriver) (op : MembershipOp) : Prop :=
  ∀ membershipId state, state = .enrolled ∨ state = .withdrawn →
    self.Becomes (self.step ed25519 op) membershipId state → self.HostAuthorised ed25519 op membershipId

/-- In every run whose requests identify the host, a membership becomes enrolled or withdrawn only on
a request with a signature of its own host. -/
theorem hostMoves_of_identified (ed25519 : Ed25519) (start : FleetMembershipDriver) (ops : List MembershipOp)
    (identified : ∀ before op rest, ops = before ++ op :: rest →
      (runFrom ed25519 start before).HostIdentified ed25519 op) :
    ∀ before op rest, ops = before ++ op :: rest → (runFrom ed25519 start before).HostMoves ed25519 op := by
  intro before op rest split membershipId state exits becomes
  exact (identified before op rest split).authorises exits becomes

theorem hostMoves_enrolment :
    (runFrom sampleEd25519 (new sampleRoot "coordinator" 50) (enrolment.take 4)).HostMoves sampleEd25519
      (.enroll "mem_01" "key_01 signs clr_01ARZ3NDEKTSV4RRFFQ69G5FAV||mem_01" 3) := by
  refine hostMoves_of_identified sampleEd25519 _ enrolment ?_ (enrolment.take 4) _ [] rfl
  apply (StepRun.along_iff_cut (step sampleEd25519) (HostIdentified sampleEd25519) _ enrolment).mp
  refine ⟨trivial, trivial, trivial, trivial, ?_, trivial⟩
  intro membership stored _
  have attesting : (runFrom sampleEd25519 (new sampleRoot "coordinator" 50)
    (enrolment.take 4)).memberships.lookup "mem_01" =
      some ⟨"mem_01", "host_01", "clr_01ARZ3NDEKTSV4RRFFQ69G5FAV", .attesting, true, false⟩ := by decide +kernel
  obtain rfl := Option.some.inj (attesting.symm.trans stored)
  decide +kernel

/-- A stranger withdraws the host with a key and a text of its own choice. -/
theorem not_hostMoves_stranger :
    ¬ ∀ before op rest,
      enrolment ++ [.withdraw "mem_01" ⟨"host_01", "any text", "key_02", "key_02 signs any text"⟩ 4] =
        before ++ op :: rest →
      (runFrom sampleEd25519 (new sampleRoot "coordinator" 50) before).HostMoves sampleEd25519 op := by
  intro moves
  have enrolled : (runFrom sampleEd25519 (new sampleRoot "coordinator" 50) enrolment).memberships.lookup "mem_01" =
      some ⟨"mem_01", "host_01", "clr_01ARZ3NDEKTSV4RRFFQ69G5FAV", .enrolled, true, false⟩ := by decide +kernel
  obtain ⟨membership, hostKey, signature, text, stored, registered, carried, covers, verified⟩ :=
    moves enrolment _ [] rfl "mem_01" .withdrawn (.inr rfl)
      ⟨⟨⟨"mem_01", "host_01", "clr_01ARZ3NDEKTSV4RRFFQ69G5FAV", .withdrawn, true, false⟩, by decide +kernel, rfl⟩, by
        intro membership stored
        rw [← Option.some.inj (enrolled.symm.trans stored)]
        decide⟩
  obtain rfl := Option.some.inj (enrolled.symm.trans stored)
  obtain rfl : "key_01" = hostKey := by
    have own : (runFrom sampleEd25519 (new sampleRoot "coordinator" 50) enrolment).hostPublicKeys.lookup "host_01" =
        some "key_01" := by decide +kernel
    exact Option.some.inj (own.symm.trans registered)
  obtain rfl := Option.some.inj carried
  rcases covers with rfl | rfl
  · revert verified
    decide +kernel
  · revert verified
    decide +kernel

/-! ## Forward only -/

/-- The membership is stored for the same host, in its state or a later one. -/
def Past (membershipId : Ulid) (membership : FleetMembership) (self : FleetMembershipDriver) : Prop :=
  ∃ found, self.memberships.lookup membershipId = some found ∧ found.hostId = membership.hostId ∧
    (found.state = membership.state ∨ membership.state.stage < found.state.stage)

/-- In every run that does not discover its id anew, a membership never comes back to a state it has left: a host that
was suspended, quarantined, expelled or withdrawn is not enrolled again. -/
theorem memberships_forward (ed25519 : Ed25519) (start : FleetMembershipDriver) (ops : List MembershipOp)
    {membershipId : Ulid} {membership : FleetMembership}
    (stored : start.memberships.lookup membershipId = some membership)
    (fresh : ∀ hostId hostInfo now, .discover membershipId hostId hostInfo now ∉ ops) :
    (runFrom ed25519 start ops).Past membershipId membership := by
  refine StepRun.run_invariant_cut (Past membershipId membership) ⟨membership, stored, rfl, .inl rfl⟩ ?_ ops
    List.prefix_rfl
  rintro before op rest split ⟨found, held, host, reached⟩
  obtain same | ⟨newId, hostId, hostInfo, now, rfl, inserted⟩ |
    ⟨movedId, moving, target, known, allowed, -, moved⟩ :=
      step_effect ed25519 (StepRun.run (step ed25519) start before) op
  · exact ⟨found, same ▸ held, host, reached⟩
  · have other : membershipId ≠ newId := by
      rintro rfl
      exact fresh hostId hostInfo now (split ▸ List.mem_append_right _ List.mem_cons_self)
    refine ⟨found, ?_, host, reached⟩
    rw [inserted, Table.lookup_insert_eq, if_neg other]
    exact held
  · by_cases here : membershipId = movedId
    · subst here
      obtain rfl : found = moving := Option.some.inj (held.symm.trans known)
      refine ⟨{ found with state := target }, ?_, host, ?_⟩
      · rw [moved, Table.lookup_insert_eq, if_pos rfl]
      · obtain rfl | further := FleetMembership.stage_of_transition allowed
        · exact reached
        · exact .inr (reached.elim (fun same => same ▸ further) fun past => past.trans further)
    · refine ⟨found, ?_, host, reached⟩
      rw [moved, Table.lookup_insert_eq, if_neg here]
      exact held

/-- A suspended host attests and enrols in vain. -/
theorem memberships_forward_suspended :
    (runFrom sampleEd25519 (runFrom sampleEd25519 (new sampleRoot "coordinator" 50)
      (enrolment ++ [.suspend "mem_01" .coordinatorRequested 4]))
        [.attest "mem_01" sampleReceipt 5,
          .enroll "mem_01" "key_01 signs clr_01ARZ3NDEKTSV4RRFFQ69G5FAV||mem_01" 6]).Past "mem_01"
      ⟨"mem_01", "host_01", "clr_01ARZ3NDEKTSV4RRFFQ69G5FAV", .suspended, true, false⟩ :=
  memberships_forward sampleEd25519 _ _ (by decide +kernel) (by simp)

end FleetMembershipDriver

end Aios.Fleet
