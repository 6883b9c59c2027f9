import Aios.Fleet.Membership

/-! # Distribution rollouts

The embedding of `distribution_rollout.rs`: a rollout plans phases over its target hosts, starts them
one after another, records what the hosts report and closes a phase once all its hosts have ended.
The `f64` operations are a parameter; minted identifiers are arguments, and so is the clock, read once
for each request.
-/

namespace Aios.Fleet

open Aios.Rust

/-- The `f64` operations of the rollout: `as f64`, `*`, `/`, `<=`, `ceil` and `as usize`. -/
class F64 (F : Type) extends NatCast F, Mul F, Div F where
  le : F → F → Bool
  ceil : F → F
  toUsize : F → ℕ

/-! ## Phases and hosts -/

inductive RolloutStrategy (F : Type) where
  | allAtOnce
  | canary (percentage : F)
  | rolling (batchSize pauseSeconds : ℕ)
  | blueGreen
deriving DecidableEq

inductive PhaseState where
  | pending
  | inProgress
  | completed
  | failed
  | paused
deriving DecidableEq, Repr

def PhaseState.isTerminal : PhaseState → Bool
  | .completed | .failed => true
  | _ => false

structure RolloutPhase where
  phaseId : Ulid
  hosts : List String
  startedAt : Option DateTime
  completedAt : Option DateTime
  state : PhaseState
deriving DecidableEq

def RolloutPhase.new (phaseId : Ulid) (hosts : List String) : RolloutPhase where
  phaseId := phaseId
  hosts := hosts
  startedAt := none
  completedAt := none
  state := .pending

inductive HostInstallStatus where
  | pending
  | downloading
  | verifying
  | installing
  | activated
  | failed
  | rolledBack
deriving DecidableEq, Repr

namespace HostInstallStatus

def isTerminal : HostInstallStatus → Bool
  | .activated | .failed | .rolledBack => true
  | _ => false

def isSuccess : HostInstallStatus → Bool
  | .activated => true
  | _ => false

def isFailure : HostInstallStatus → Bool
  | .failed | .rolledBack => true
  | _ => false

/-- The derived `Debug` text. -/
def debug : HostInstallStatus → String
  | .pending => "Pending"
  | .downloading => "Downloading"
  | .verifying => "Verifying"
  | .installing => "Installing"
  | .activated => "Activated"
  | .failed => "Failed"
  | .rolledBack => "RolledBack"

end HostInstallStatus

structure RolloutHostState where
  hostId : String
  installStatus : HostInstallStatus
  attempt : ℕ
  lastUpdate : DateTime
  errorMessage : Option String
deriving DecidableEq

namespace RolloutHostState

def new (hostId : String) (now : DateTime) : RolloutHostState where
  hostId := hostId
  installStatus := .pending
  attempt := 0
  lastUpdate := now
  errorMessage := none

/-- What `start_phase` does to a host of the phase. -/
def beginDownload (state : RolloutHostState) : RolloutHostState :=
  if state.installStatus = .pending then { state with installStatus := .downloading } else state

/-- What `abort_rollout` does to a target host. -/
def abortInstall (now : DateTime) (state : RolloutHostState) : RolloutHostState :=
  if state.installStatus.isTerminal then state
  else { state with installStatus := .failed, errorMessage := some "rollout aborted", lastUpdate := now }

end RolloutHostState

/-! ## Evidence and errors -/

inductive RolloutEvidence where
  | phaseStarted (rolloutId phaseId : Ulid) (hostCount : ℕ)
  | phaseCompleted (rolloutId phaseId : Ulid) (successCount failureCount : ℕ)
  | aborted (rolloutId : Ulid) (reason : String)
  | complete (rolloutId : Ulid)
  | hostStatusChanged (rolloutId : Ulid) (hostId : String) (oldStatus newStatus : HostInstallStatus)
deriving DecidableEq

inductive RolloutError (F : Type) where
  | phaseNotFound (phaseId : Ulid)
  | hostNotInRollout (hostId : String)
  | rolloutTerminal (status : String)
  | prerequisiteNotMet (phaseId : Ulid)
  | phaseAlreadyInProgress
  | rolloutPaused
  | invalidCanaryPercentage (percentage : F)
  | emptyTargetHosts
  | invalidBatchSize (batchSize totalHosts : ℕ)

/-! ## The rollout -/

structure FleetDistributionRollout (F : Type) where
  rolloutId : Ulid
  targetHosts : List String
  strategy : RolloutStrategy F
  phases : List RolloutPhase
  hostStates : Table String RolloutHostState
  /-- What an attached emitter has recorded. -/
  emitted : Option (List RolloutEvidence)
  canarySuccessThreshold : F
  paused : Bool
  aborted : Bool

namespace FleetDistributionRollout

variable {F : Type} [F64 F]

variable (self : FleetDistributionRollout F)

def new (rolloutId : Ulid) (targetHosts : List String) (strategy : RolloutStrategy F) (now : DateTime) :
    FleetDistributionRollout F where
  rolloutId := rolloutId
  targetHosts := targetHosts
  strategy := strategy
  phases := []
  hostStates := targetHosts.foldl (fun states host => states.insert host (.new host now)) ∅
  emitted := none
  canarySuccessThreshold := ((80 : ℕ) : F)
  paused := false
  aborted := false

/-- A request to the rollout: a value or an error. -/
abbrev Call (F α : Type) := EStateM (RolloutError F) (FleetDistributionRollout F) α

def emit (evidence : RolloutEvidence) : Call F Unit :=
  modify fun self => { self with emitted := self.emitted.map (· ++ [evidence]) }

def setCanaryThreshold (percentage : F) : Call F Unit := do
  if !(F64.le ((1 : ℕ) : F) percentage && F64.le percentage ((99 : ℕ) : F)) then
    throw (.invalidCanaryPercentage percentage)
  modify fun self => { self with canarySuccessThreshold := percentage }

/-! ### Planning -/

/-- The number of hosts that go first: their share rounded up, at least one and at most all. -/
def canaryCount (hostCount : ℕ) (percentage : F) : ℕ :=
  min (max (F64.toUsize (F64.ceil ((hostCount : F) * (percentage / ((100 : ℕ) : F))))) 1) hostCount

def canaryPhases (targetHosts : List String) (percentage : F) (mint : ℕ → Ulid) : List RolloutPhase :=
  if canaryCount targetHosts.length percentage < targetHosts.length then
    [.new (mint 0) (targetHosts.take (canaryCount targetHosts.length percentage)),
      .new (mint 1) (targetHosts.drop (canaryCount targetHosts.length percentage))]
  else [.new (mint 0) targetHosts]

def rollingPhases (targetHosts : List String) (batchSize : ℕ) (mint : ℕ → Ulid) :
    Except (RolloutError F) (List RolloutPhase) :=
  if batchSize = 0 then .error (.invalidBatchSize batchSize (asU32 targetHosts.length))
  else .ok ((targetHosts.toChunks batchSize).mapIdx fun index chunk => .new (mint index) chunk)

def blueGreenPhases (targetHosts : List String) (mint : ℕ → Ulid) : List RolloutPhase :=
  let mid := targetHosts.length / 2
  [.new (mint 0) (targetHosts.take mid), .new (mint 1) (targetHosts.drop mid)]

/-- The phases a plan sets; `mint` gives the identifier of each new phase. -/
def plannedPhases (mint : ℕ → Ulid) : Except (RolloutError F) (List RolloutPhase) :=
  match self.strategy with
  | .allAtOnce => .ok [.new (mint 0) self.targetHosts]
  | .canary percentage => .ok (canaryPhases self.targetHosts percentage mint)
  | .rolling batchSize _ => rollingPhases self.targetHosts batchSize mint
  | .blueGreen => .ok (blueGreenPhases self.targetHosts mint)

def planPhases (mint : ℕ → Ulid) : Call F (List RolloutPhase) := do
  let self ← get
  if self.targetHosts.isEmpty then throw .emptyTargetHosts
  match self.plannedPhases mint with
  | .error failure => throw failure
  | .ok phases =>
    modify fun self => { self with phases }
    return phases

/-! ### Starting a phase -/

/-- The preceding phase has only to be closed; its success ratio is not looked at. -/
def startPhase (phaseId : Ulid) (now : DateTime) : Call F Unit := do
  let self ← get
  if self.aborted then throw (.rolloutTerminal "aborted")
  if self.paused then throw .rolloutPaused
  match self.phases.findIdx? (·.phaseId == phaseId) with
  | none => throw (.phaseNotFound phaseId)
  | some phaseIdx =>
    if 0 < phaseIdx && self.phases[phaseIdx - 1]?.any (!·.state.isTerminal) then
      throw (.prerequisiteNotMet phaseId)
    match self.phases[phaseIdx]? with
    | none => throw (.phaseNotFound phaseId) -- the position is in range
    | some phase =>
      if phase.state = .inProgress then throw .phaseAlreadyInProgress
      modify fun self => { self with
        phases := self.phases.set phaseIdx { phase with state := .inProgress, startedAt := some now }
        hostStates := phase.hosts.foldl (fun states host => states.modify host .beginDownload) self.hostStates }
      emit (.phaseStarted self.rolloutId phaseId phase.hosts.length)

/-! ### Closing a phase -/

/-- A stored status passes a test: `is_some_and` on the host's entry. -/
def hostIs (test : HostInstallStatus → Bool) (host : String) : Bool :=
  (self.hostStates.lookup host).any fun state => test state.installStatus

def hostCount (test : HostInstallStatus → Bool) (hosts : List String) : ℕ :=
  asU32 (hosts.countP (self.hostIs test))

def checkPhaseComplete (phaseId : Ulid) : Bool :=
  match self.phases.find? (·.phaseId == phaseId) with
  | none => false
  | some phase => phase.hosts.all (self.hostIs (·.isTerminal))

/-- `(successes / total) * 100.0`. -/
def successPct (successes total : ℕ) : F := ((successes : F) / (total : F)) * ((100 : ℕ) : F)

def canProceedToNextPhase (phaseId : Ulid) : Bool :=
  match self.phases.find? (·.phaseId == phaseId) with
  | none => false
  | some phase =>
    if !self.checkPhaseComplete phaseId then false
    else
      let total := asU32 phase.hosts.length
      if total = 0 then true
      else F64.le self.canarySuccessThreshold (successPct (self.hostCount (·.isSuccess) phase.hosts) total)

/-- A phase in progress whose hosts have all ended is about to be closed. -/
def closes (phase : RolloutPhase) : Bool :=
  phase.state = .inProgress && phase.hosts.all (self.hostIs (·.isTerminal))

/-- A closed phase has failed where more of its hosts failed than succeeded. -/
def closed (now : DateTime) (phase : RolloutPhase) : RolloutPhase :=
  if self.closes phase then
    { phase with
      state := if self.hostCount (·.isFailure) phase.hosts > self.hostCount (·.isSuccess) phase.hosts
        then .failed else .completed
      completedAt := some now }
  else phase

def allPhasesTerminal : Bool := self.phases.all (·.state.isTerminal)

/-- The same evidence is emitted for a completed and for a failed phase. -/
def closingEvidence (phase : RolloutPhase) : RolloutEvidence :=
  .phaseCompleted self.rolloutId phase.phaseId (self.hostCount (·.isSuccess) phase.hosts)
    (self.hostCount (·.isFailure) phase.hosts)

def autoCompletePhases (now : DateTime) : Call F Unit := do
  modify fun self => { self with
    phases := self.phases.map (self.closed now)
    emitted := self.emitted.map (· ++ (self.phases.filter self.closes).map self.closingEvidence) }
  let self ← get
  if self.allPhasesTerminal then emit (.complete self.rolloutId)

/-! ### Reports of hosts -/

/-- What the requests on one host share. -/
def onHost (hostId : String) (next : RolloutHostState → Call F Unit) : Call F Unit := do
  match (← get).hostStates.lookup hostId with
  | none => throw (.hostNotInRollout hostId)
  | some state => next state

def storeHost (hostId : String) (state : RolloutHostState) : Call F Unit :=
  modify fun self => { self with hostStates := self.hostStates.insert hostId state }

def reportHostStatus (hostId : String) (status : HostInstallStatus) (now : DateTime) : Call F Unit :=
  onHost hostId fun state => do
    let marked := if status.isFailure then
        { state with
          attempt := state.attempt + 1
          errorMessage := some ("install failed with status " ++ status.debug) }
      else state
    storeHost hostId { marked with installStatus := status, lastUpdate := now }
    emit (.hostStatusChanged (← get).rolloutId hostId state.installStatus status)
    autoCompletePhases now

def reportHostError (hostId error : String) (now : DateTime) : Call F Unit :=
  onHost hostId fun state =>
    storeHost hostId { state with
      errorMessage := some error, installStatus := .failed, lastUpdate := now, attempt := state.attempt + 1 }

def retryHost (hostId : String) (now : DateTime) : Call F Unit :=
  onHost hostId fun state => do
    if state.installStatus.isTerminal then
      storeHost hostId { state with installStatus := .pending, lastUpdate := now, errorMessage := none }

/-! ### Pausing and aborting -/

/-- Put the phases in one state into another. -/
def movePhases (phases : List RolloutPhase) (source target : PhaseState) : List RolloutPhase :=
  phases.map fun phase => if phase.state = source then { phase with state := target } else phase

def pauseRollout : Call F Unit := do
  if (← get).aborted then throw (.rolloutTerminal "aborted")
  modify fun self => { self with paused := true, phases := movePhases self.phases .inProgress .paused }

def resumeRollout : Call F Unit := do
  let self ← get
  if self.aborted then throw (.rolloutTerminal "aborted")
  if self.paused then
    modify fun self => { self with paused := false, phases := movePhases self.phases .paused .inProgress }

/-- What `abort_rollout` does to a phase. -/
def abortPhase (now : DateTime) (phase : RolloutPhase) : RolloutPhase :=
  if phase.state.isTerminal then phase else { phase with state := .failed, completedAt := some now }

def abortRollout (now : DateTime) : Call F Unit := do
  let self ← get
  if !self.aborted then
    modify fun self => { self with
      aborted := true
      paused := false
      hostStates := self.targetHosts.foldl (fun states host => states.modify host (.abortInstall now)) self.hostStates
      phases := self.phases.map (abortPhase now) }
    emit (.aborted self.rolloutId "operator_requested")

end FleetDistributionRollout

/-! ## Runs -/

inductive RolloutOp (F : Type) where
  | setEvidenceEmitter
  | setCanaryThreshold (percentage : F)
  | planPhases (mint : ℕ → Ulid)
  | startPhase (phaseId : Ulid) (now : DateTime)
  | reportHostStatus (hostId : String) (status : HostInstallStatus) (now : DateTime)
  | reportHostError (hostId error : String) (now : DateTime)
  | retryHost (hostId : String) (now : DateTime)
  | pauseRollout
  | resumeRollout
  | abortRollout (now : DateTime)

namespace FleetDistributionRollout

variable {F : Type} [F64 F]

def call : RolloutOp F → Call F Unit
  | .setEvidenceEmitter => modify fun self => { self with emitted := some [] }
  | .setCanaryThreshold percentage => setCanaryThreshold percentage
  | .planPhases mint => do let _ ← planPhases mint
  | .startPhase phaseId now => startPhase phaseId now
  | .reportHostStatus hostId status now => reportHostStatus hostId status now
  | .reportHostError hostId error now => reportHostError hostId error now
  | .retryHost hostId now => retryHost hostId now
  | .pauseRollout => pauseRollout
  | .resumeRollout => resumeRollout
  | .abortRollout now => abortRollout now

def step (self : FleetDistributionRollout F) (op : RolloutOp F) : FleetDistributionRollout F :=
  Stateful.finalState (call op self)

/-- The rollout after a sequence of requests. -/
def runFrom (start : FleetDistributionRollout F) (ops : List (RolloutOp F)) : FleetDistributionRollout F :=
  StepRun.run step start ops

end FleetDistributionRollout

end Aios.Fleet
