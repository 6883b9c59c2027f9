import Aios.Lib.Run
import Aios.Lib.Stateful
import Aios.Lib.Table
import Aios.Rust.Basic

/-! # Fleet membership

The embedding of `membership.rs` and `membership_driver.rs`: the state machine of one membership, and
the driver that checks each request, moves the membership and emits an event. Identifiers the driver
mints and clock readings are arguments. Every request that fails leaves the driver as it was.
-/

namespace Aios.Fleet

open Aios.Rust

/-- A `Ulid`, as its canonical text. -/
abbrev Ulid := String

abbrev VerifyingKey := String

abbrev Signature := String

/-- `VerifyingKey::verify` of `ed25519_dalek`. -/
structure Ed25519 where
  verify : VerifyingKey → String → Signature → Bool

/-! ## The state machine of a membership -/

inductive FleetMembershipState where
  | discovered
  | invited
  | attesting
  | enrolled
  | suspended
  | quarantined
  | withdrawn
  | expelled
deriving DecidableEq, Repr

/-- How far a membership has come. -/
def FleetMembershipState.stage : FleetMembershipState → ℕ
  | .discovered => 0
  | .invited => 1
  | .attesting => 2
  | .enrolled => 3
  | .suspended | .quarantined => 4
  | .expelled => 5
  | .withdrawn => 6

structure FleetMembership where
  membershipId : String
  hostId : String
  clusterId : String
  state : FleetMembershipState
  hostPolicySupremacy : Bool
  clusterOverridable : Bool
deriving DecidableEq

namespace FleetMembership

variable {self : FleetMembership} {target : FleetMembershipState}

def new (membershipId hostId clusterId : String) : FleetMembership where
  membershipId := membershipId
  hostId := hostId
  clusterId := clusterId
  state := .discovered
  hostPolicySupremacy := true
  clusterOverridable := false

def transition (self : FleetMembership) (target : FleetMembershipState) : Option FleetMembershipState :=
  match self.state, target with
  | .discovered, .invited => some target
  | .invited, .attesting => some target
  | .attesting, .enrolled => some target
  | .enrolled, .suspended => some target
  | .enrolled, .expelled => some target
  | _, .withdrawn => some target
  | .enrolled, .quarantined => some target
  | .quarantined, .expelled => some target
  | .expelled, _ => none
  | _, _ => none

/-- A transition that is allowed ends in its target. -/
theorem transition_eq_some {state : FleetMembershipState} (allowed : self.transition target = some state) :
    state = target := by
  unfold transition at allowed
  split at allowed <;> first | exact (Option.some.inj allowed).symm | cases allowed

/-- A transition goes forward; only a withdrawal can be repeated. -/
theorem stage_of_transition (allowed : self.transition target = some target) :
    target = self.state ∨ self.state.stage < target.stage := by
  by_cases withdrawn : target = .withdrawn
  · subst withdrawn
    cases self.state <;> decide
  · unfold transition at allowed
    split at allowed <;> rename_i entered
    all_goals first | exact absurd rfl withdrawn | exact .inr (by rw [entered]; decide) | cases allowed

end FleetMembership

/-! ## Requests, events and errors -/

structure TpmAttestationReceipt where
  pcrValues : Table ℕ String
  quoteSignature : Signature

structure HostAuthProof where
  hostId : String
  membershipId : String
  hostPublicKey : VerifyingKey
  signature : Signature

structure HostInfo where
  hostId : String
  hostname : String
  kernelVersion : String

inductive SuspendReason where
  | postureFloorViolation
  | hostDriftSignal
  | coordinatorRequested
deriving DecidableEq, Repr

inductive QuarantineReason where
  | driftDetection
  | compromisedSignal
  | evidenceForRDetected
deriving DecidableEq, Repr

inductive ExpelReason where
  | quorumDecision
  | repeatedViolation
  | hostCompromised
deriving DecidableEq, Repr

inductive MembershipEvent where
  | fleetHostDiscovered (membershipId hostId clusterId : String) (timestamp : DateTime)
  | fleetHostInvited (membershipId hostId : String) (invitedBy : Ulid) (timestamp : DateTime)
  | fleetHostAttesting (membershipId hostId : String) (timestamp : DateTime)
  | fleetHostEnrolled (membershipId hostId : String) (timestamp : DateTime)
  | fleetHostSuspended (membershipId hostId : String) (reason : SuspendReason) (timestamp : DateTime)
  | fleetHostQuarantined (membershipId hostId : String) (reason : QuarantineReason) (timestamp : DateTime)
  | fleetHostWithdrawn (membershipId hostId : String) (timestamp : DateTime)
  | fleetHostExpelled (membershipId hostId : String) (reason : ExpelReason) (quorumCount : ℕ) (timestamp : DateTime)
deriving DecidableEq

inductive MembershipError where
  | invalidTransition (source target : FleetMembershipState)
  | notCoordinator
  | attestationFailed (detail : String)
  | quorumRequired (required provided : ℕ)
  | postureFloorViolation (current floor : ℕ)
  | membershipNotFound (membershipId : String)
  | hostSignatureVerificationFailed
deriving DecidableEq

/-! ## The driver -/

structure ClusterTrustRoot where
  clusterId : String
  clusterRootPubkey : String
  rotationIndex : ℕ
  boundRealm : String

structure FleetMembershipDriver where
  memberships : Table Ulid FleetMembership
  clusterRoot : ClusterTrustRoot
  coordinatorId : Ulid
  /-- What an attached emitter has recorded. -/
  emitted : Option (List MembershipEvent)
  hostPublicKeys : Table String VerifyingKey
  postureScores : Table Ulid ℕ
  postureFloor : ℕ

namespace FleetMembershipDriver

variable (ed25519 : Ed25519) (self : FleetMembershipDriver)

def new (clusterRoot : ClusterTrustRoot) (coordinatorId : Ulid) (postureFloor : ℕ) : FleetMembershipDriver where
  memberships := ∅
  clusterRoot := clusterRoot
  coordinatorId := coordinatorId
  emitted := none
  hostPublicKeys := ∅
  postureScores := ∅
  postureFloor := postureFloor

/-- A request to the driver: a value or an error. -/
abbrev Call (α : Type) := EStateM MembershipError FleetMembershipDriver α

def emitEvent (event : MembershipEvent) : Call Unit :=
  modify fun self => { self with emitted := self.emitted.map (· ++ [event]) }

def discover (membershipId : Ulid) (hostId : String) (hostInfo : HostInfo) (now : DateTime) : Call FleetMembership := do
  let self ← get
  let membership := FleetMembership.new membershipId hostId self.clusterRoot.clusterId
  modify fun self => { self with memberships := self.memberships.insert membershipId membership }
  emitEvent (.fleetHostDiscovered membership.membershipId hostInfo.hostId self.clusterRoot.clusterId now)
  return membership

/-- What the requests on a stored membership share: find it, take the transition, emit the event and
return the membership. -/
def moveTo (membershipId : Ulid) (target : FleetMembershipState) (event : FleetMembership → MembershipEvent) :
    Call FleetMembership := do
  let self ← get
  match self.memberships.lookup membershipId with
  | none => throw (.membershipNotFound membershipId)
  | some membership =>
    match membership.transition target with
    | none => throw (.invalidTransition membership.state target)
    | some state =>
      let moved := { membership with state }
      modify fun self => { self with memberships := self.memberships.insert membershipId moved }
      emitEvent (event moved)
      return moved

def invite (membershipId invitedBy : Ulid) (now : DateTime) : Call FleetMembership := do
  if invitedBy ≠ (← get).coordinatorId then throw .notCoordinator
  moveTo membershipId .invited fun membership =>
    .fleetHostInvited membership.membershipId membership.hostId invitedBy now

/-- PCR registers 0 to 7 are present; the error names the first that is missing. -/
def verifyTpmAttestation (receipt : TpmAttestationReceipt) : Except MembershipError Unit :=
  match (List.range 8).find? fun pcr => (receipt.pcrValues.lookup pcr).isNone with
  | some pcr => .error (.attestationFailed ("missing PCR register " ++ toString pcr))
  | none => .ok ()

def attest (membershipId : Ulid) (tpmReceipt : TpmAttestationReceipt) (now : DateTime) : Call FleetMembership :=
  match verifyTpmAttestation tpmReceipt with
  | .error failure => throw failure
  | .ok () => moveTo membershipId .attesting fun membership =>
      .fleetHostAttesting membership.membershipId membership.hostId now

/-- The text an enrolling host signs. -/
def acceptanceText (membershipId : String) : String :=
  self.clusterRoot.clusterId ++ "||" ++ membershipId

def verifyHostRootAcceptance (self : FleetMembershipDriver) (hostKey : VerifyingKey) (membershipId : String)
    (signature : Signature) : Bool :=
  ed25519.verify hostKey (self.acceptanceText membershipId) signature

/-- The signature is checked only for a host with a registered key. -/
def enroll (membershipId : Ulid) (hostRootSignature : Signature) (now : DateTime) :
    Call FleetMembership := do
  let self ← get
  match self.memberships.lookup membershipId with
  | none => throw (.membershipNotFound membershipId)
  | some membership =>
    if let some hostKey := self.hostPublicKeys.lookup membership.hostId then
      if !self.verifyHostRootAcceptance ed25519 hostKey membershipId hostRootSignature then
        throw .hostSignatureVerificationFailed
    moveTo membershipId .enrolled fun membership =>
      .fleetHostEnrolled membership.membershipId membership.hostId now

def suspend (membershipId : Ulid) (reason : SuspendReason) (now : DateTime) : Call FleetMembership :=
  moveTo membershipId .suspended fun membership =>
    .fleetHostSuspended membership.membershipId membership.hostId reason now

def quarantine (membershipId : Ulid) (reason : QuarantineReason) (now : DateTime) : Call FleetMembership :=
  moveTo membershipId .quarantined fun membership =>
    .fleetHostQuarantined membership.membershipId membership.hostId reason now

/-- The key and the text both come from the proof. -/
def verifyHostAuthProof (proof : HostAuthProof) : Bool :=
  ed25519.verify proof.hostPublicKey proof.membershipId proof.signature

def withdraw (membershipId : Ulid) (hostAuth : HostAuthProof) (now : DateTime) :
    Call FleetMembership := do
  if !verifyHostAuthProof ed25519 hostAuth then throw .hostSignatureVerificationFailed
  match (← get).memberships.lookup membershipId with
  | none => throw (.membershipNotFound membershipId)
  | some membership =>
    if membership.hostId ≠ hostAuth.hostId then throw .hostSignatureVerificationFailed
    moveTo membershipId .withdrawn fun membership =>
      .fleetHostWithdrawn membership.membershipId membership.hostId now

def enrolledCount : ℕ :=
  self.memberships.count fun _ membership => membership.state == .enrolled

def quorumThreshold (enrolledCount : ℕ) : ℕ :=
  if enrolledCount = 0 then 1 else (enrolledCount * 2 + 2) / 3

def expel (membershipId : Ulid) (reason : ExpelReason) (quorumSignatures : List Signature) (now : DateTime) :
    Call FleetMembership := do
  let required := quorumThreshold (← get).enrolledCount
  let provided := quorumSignatures.length
  if provided < required then throw (.quorumRequired required provided)
  moveTo membershipId .expelled fun membership =>
    .fleetHostExpelled membership.membershipId membership.hostId reason provided now

def checkPostureFloor (membershipId : Ulid) : Bool :=
  match self.postureScores.lookup membershipId with
  | some score => self.postureFloor ≤ score
  | none => true

def enforcePostureFloor (membershipId : Ulid) (now : DateTime) : Call Unit := do
  let self ← get
  if !self.checkPostureFloor membershipId then
    let current := (self.postureScores.lookup membershipId).getD 0
    try
      let _ ← suspend membershipId .postureFloorViolation now
    catch _ => throw (.postureFloorViolation current self.postureFloor)

end FleetMembershipDriver

/-! ## Runs -/

inductive MembershipOp where
  | setEvidenceEmitter
  | setPostureScore (membershipId : Ulid) (score : ℕ)
  | registerHostKey (hostId : String) (key : VerifyingKey)
  | discover (membershipId : Ulid) (hostId : String) (hostInfo : HostInfo) (now : DateTime)
  | invite (membershipId invitedBy : Ulid) (now : DateTime)
  | attest (membershipId : Ulid) (tpmReceipt : TpmAttestationReceipt) (now : DateTime)
  | enroll (membershipId : Ulid) (hostRootSignature : Signature) (now : DateTime)
  | suspend (membershipId : Ulid) (reason : SuspendReason) (now : DateTime)
  | quarantine (membershipId : Ulid) (reason : QuarantineReason) (now : DateTime)
  | withdraw (membershipId : Ulid) (hostAuth : HostAuthProof) (now : DateTime)
  | expel (membershipId : Ulid) (reason : ExpelReason) (quorumSignatures : List Signature) (now : DateTime)
  | enforcePostureFloor (membershipId : Ulid) (now : DateTime)

namespace FleetMembershipDriver

variable (ed25519 : Ed25519)

def call : MembershipOp → Call Unit
  | .setEvidenceEmitter => modify fun self => { self with emitted := some [] }
  | .setPostureScore membershipId score =>
    modify fun self => { self with postureScores := self.postureScores.insert membershipId score }
  | .registerHostKey hostId key =>
    modify fun self => { self with hostPublicKeys := self.hostPublicKeys.insert hostId key }
  | .discover membershipId hostId hostInfo now => do let _ ← discover membershipId hostId hostInfo now
  | .invite membershipId invitedBy now => do let _ ← invite membershipId invitedBy now
  | .attest membershipId tpmReceipt now => do let _ ← attest membershipId tpmReceipt now
  | .enroll membershipId hostRootSignature now => do let _ ← enroll ed25519 membershipId hostRootSignature now
  | .suspend membershipId reason now => do let _ ← suspend membershipId reason now
  | .quarantine membershipId reason now => do let _ ← quarantine membershipId reason now
  | .withdraw membershipId hostAuth now => do let _ ← withdraw ed25519 membershipId hostAuth now
  | .expel membershipId reason quorumSignatures now => do let _ ← expel membershipId reason quorumSignatures now
  | .enforcePostureFloor membershipId now => enforcePostureFloor membershipId now

def step (self : FleetMembershipDriver) (op : MembershipOp) : FleetMembershipDriver :=
  Stateful.finalState (call ed25519 op self)

/-- The driver after a sequence of requests. -/
def runFrom (start : FleetMembershipDriver) (ops : List MembershipOp) : FleetMembershipDriver :=
  StepRun.run (step ed25519) start ops

end FleetMembershipDriver

end Aios.Fleet
