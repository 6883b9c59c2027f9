import Aios.Fleet.Membership
import Mathlib.Data.String.Basic

/-! # Fleet recovery coordination

The embedding of `fleet_recovery.rs`: the heartbeats of the coordinator and of others that claim its
place, the promotion of a backup, the election of a new coordinator and the way out of a split brain.
The clock is an argument. A failed request keeps what it has written so far.
-/

namespace Aios.Fleet

open Aios.Rust

inductive FleetHealthStatus where
  | healthy
  | degraded
  | quorumLost
  | recovering
  | splitBrain
deriving DecidableEq, Repr

/-- A heartbeat; its signature is not looked at when it is received. -/
structure CoordinatorHeartbeat where
  coordinatorId : String
  timestamp : DateTime
  sequence : ℕ
deriving DecidableEq

inductive FleetRecoveryError where
  | noBackupCoordinators
  | quorumNotMet (required current : ℕ)
  | splitBrainDetected (coordA coordB : String)
  | sequenceRegression (expected got : ℕ)
  | electionFailed (reason : String)
  | recoveryAlreadyInProgress
deriving DecidableEq

inductive FleetRecoveryEvidence where
  | coordinatorPromoted (fleetId : Ulid) (oldCoordinator : Option String) (newCoordinator reason : String)
  | splitBrainDetected (fleetId : Ulid) (coordA coordB : String)
  | fleetRecovered (fleetId : Ulid) (coordinator : String) (fromStatus : FleetHealthStatus)
deriving DecidableEq

structure FleetRecoveryCoordinator where
  memberships : Table String FleetMembership
  currentCoordinator : Option String
  coordinatorHeartbeatDeadline : Option DateTime
  quorumSize : ℕ
  backupCoordinators : List String
  /-- What an attached emitter has recorded. -/
  emitted : Option (List FleetRecoveryEvidence)
  fleetId : Ulid
  heartbeatTimeoutSecs : ℕ
  lastHeartbeatSequence : ℕ
  lastHealthStatus : FleetHealthStatus
  claimedCoordinators : List (String × DateTime)

namespace FleetRecoveryCoordinator

variable (self : FleetRecoveryCoordinator)

def new (memberships : Table String FleetMembership) (quorumSize : ℕ) (fleetId : Ulid) : FleetRecoveryCoordinator where
  memberships := memberships
  currentCoordinator := none
  coordinatorHeartbeatDeadline := none
  quorumSize := quorumSize
  backupCoordinators := []
  emitted := none
  fleetId := fleetId
  heartbeatTimeoutSecs := 30
  lastHeartbeatSequence := 0
  lastHealthStatus := .healthy
  claimedCoordinators := []

def setCoordinator (coordinatorId : String) : FleetRecoveryCoordinator :=
  { self with currentCoordinator := some coordinatorId }

/-- `chrono::Duration::seconds(self.heartbeat_timeout_secs as i64)`. -/
def heartbeatTimeout : ℤ :=
  Int.bmod self.heartbeatTimeoutSecs 18446744073709551616 * 1000000000

/-- A request: a value or an error. -/
abbrev Call (α : Type) := EStateM FleetRecoveryError FleetRecoveryCoordinator α

def emit (evidence : FleetRecoveryEvidence) : Call Unit :=
  modify fun self => { self with emitted := self.emitted.map (· ++ [evidence]) }

/-! ## Heartbeats -/

/-- The first claim of each claimant is kept. -/
def recordClaimedCoordinator (coordinatorId : String) (timestamp : DateTime) : FleetRecoveryCoordinator :=
  if self.claimedCoordinators.any (·.1 == coordinatorId) then self
  else { self with
    claimedCoordinators := self.claimedCoordinators ++ [(coordinatorId, timestamp)]
    lastHealthStatus := .splitBrain }

/-- The current coordinator is not among the claimants that are counted. -/
def detectSplitBrain : Bool := 2 ≤ self.claimedCoordinators.length

/-- The last part of `receive_heartbeat`, for whomever the heartbeat names. -/
def refreshDeadline (heartbeat : CoordinatorHeartbeat) : Call Unit := do
  let self ← get
  if heartbeat.sequence ≤ self.lastHeartbeatSequence then
    throw (.sequenceRegression self.lastHeartbeatSequence heartbeat.sequence)
  modify fun self => { self with
    lastHeartbeatSequence := heartbeat.sequence
    coordinatorHeartbeatDeadline := some (heartbeat.timestamp + self.heartbeatTimeout)
    lastHealthStatus := .healthy }

def receiveHeartbeat (heartbeat : CoordinatorHeartbeat) : Call Unit := do
  let claimedByOther := (← get).currentCoordinator.any (heartbeat.coordinatorId != ·)
  if claimedByOther then
    modify (·.recordClaimedCoordinator heartbeat.coordinatorId heartbeat.timestamp)
    let self ← get
    if self.detectSplitBrain then
      if let some current := self.currentCoordinator then
        emit (.splitBrainDetected self.fleetId current heartbeat.coordinatorId)
      throw (.splitBrainDetected (self.currentCoordinator.getD "") heartbeat.coordinatorId)
  refreshDeadline heartbeat

/-! ## Leadership -/

/-- The identifiers are sorted, so the order in which the map is iterated does not show. -/
def enrolledMemberIds : List String :=
  ((self.memberships.entries.filter (·.2.state = .enrolled)).map (·.1)).mergeSort
    (fun one other => decide (one ≤ other))

def checkCoordinatorAlive (now : DateTime) : FleetHealthStatus :=
  if self.currentCoordinator.isNone then .degraded
  else match self.coordinatorHeartbeatDeadline with
    | none => .degraded
    | some deadline =>
      if now > deadline then .degraded
      else if asU32 (self.memberships.count fun _ member => member.state = .enrolled) < self.quorumSize then .quorumLost
      else .healthy

/-- What a promotion and an election do with their candidate. -/
def install (candidate reason : String) : Call String := do
  let oldCoordinator := (← get).currentCoordinator
  modify fun self => { self with
    currentCoordinator := some candidate
    coordinatorHeartbeatDeadline := none
    lastHeartbeatSequence := 0
    lastHealthStatus := .recovering }
  emit (.coordinatorPromoted (← get).fleetId oldCoordinator candidate reason)
  return candidate

def promoteCoordinator (now : DateTime) : Call String := do
  let self ← get
  if self.currentCoordinator.isSome && self.checkCoordinatorAlive now == .healthy then
    throw .recoveryAlreadyInProgress
  let enrolled := self.enrolledMemberIds
  if enrolled.length < self.quorumSize then throw (.quorumNotMet self.quorumSize (asU32 enrolled.length))
  match self.backupCoordinators.find? (enrolled.contains ·) with
  | none => throw .noBackupCoordinators
  | some candidate => install candidate "backup_promotion"

def electNewCoordinator : Call String := do
  let self ← get
  let enrolledIds := self.enrolledMemberIds
  if enrolledIds.length < self.quorumSize then throw (.quorumNotMet self.quorumSize (asU32 enrolledIds.length))
  if enrolledIds.isEmpty then throw (.electionFailed "no enrolled members")
  match (self.backupCoordinators.find? (enrolledIds.contains ·)).or enrolledIds.head? with
  | none => throw (.electionFailed "no eligible candidate found")
  | some candidate => install candidate "full_election"

/-- The order of `Reverse` on the timestamps of two claims. -/
def laterFirst (one other : String × DateTime) : Bool := other.2 ≤ one.2

/-- The claimants by descending timestamp; the sort is stable. -/
def claimantsByTime : List (String × DateTime) :=
  self.claimedCoordinators.mergeSort laterFirst

/-- Neither the membership of the winner nor the quorum is looked at. -/
def recoverFromSplitBrain : Call Unit := do
  let self ← get
  if self.claimedCoordinators.length < 2 then return
  match self.claimantsByTime with
  | [] => return -- there are two claimants
  | winner :: _ =>
    modify fun self => { self with
      currentCoordinator := some winner.1
      claimedCoordinators := []
      coordinatorHeartbeatDeadline := none
      lastHeartbeatSequence := 0
      lastHealthStatus := .recovering }
    emit (.fleetRecovered self.fleetId winner.1 .splitBrain)

/-! ## Runs -/

end FleetRecoveryCoordinator

inductive RecoveryOp where
  | receiveHeartbeat (heartbeat : CoordinatorHeartbeat)
  | promoteCoordinator (now : DateTime)
  | electNewCoordinator
  | recoverFromSplitBrain

namespace FleetRecoveryCoordinator

def call : RecoveryOp → Call Unit
  | .receiveHeartbeat heartbeat => receiveHeartbeat heartbeat
  | .promoteCoordinator now => do let _ ← promoteCoordinator now
  | .electNewCoordinator => do let _ ← electNewCoordinator
  | .recoverFromSplitBrain => recoverFromSplitBrain

def step (self : FleetRecoveryCoordinator) (op : RecoveryOp) : FleetRecoveryCoordinator :=
  Stateful.finalState (call op self)

/-- The coordinator's state after a sequence of requests. -/
def runFrom (start : FleetRecoveryCoordinator) (ops : List RecoveryOp) : FleetRecoveryCoordinator :=
  StepRun.run step start ops

end FleetRecoveryCoordinator

end Aios.Fleet
