import Aios.Evidence.LogRuns
import Mathlib.Data.Finset.Basic

/-! # Compaction

The embedding of `compaction.rs` over the persistent backend. A tick draws what its backend calls take from a list, one
entry for each segment it walks; where the list ends the process stops.
-/

namespace Aios.Evidence

open Aios.Rust

inductive CompactionPolicy where
  | auto
  | operatorApproval
  | disabled
deriving DecidableEq, Repr

structure CompactionReport where
  eligibleSegments : ℕ := 0
  compactedSegments : ℕ := 0
  awaitingApproval : ℕ := 0
  receiptsRemoved : ℕ := 0
  indexEntriesPruned : ℕ := 0
deriving DecidableEq, Repr

structure CompactionWorker where
  policy : CompactionPolicy
  awaitingApproval : Finset SegmentId
  approved : Finset SegmentId

/-- What `list_sealed_segments` tells of a segment. -/
abbrev ListedSegment := SegmentId × RetentionClass × DateTime

def isEligible (retentionClass : RetentionClass) (sealedAt now : DateTime) : Bool :=
  let age := now - sealedAt
  match retentionClass with
  | .standard24M => decide (days 730 ≤ age)
  | .extended60M => decide (days 1825 ≤ age)
  | .forever => false

namespace CompactionWorker

variable (self : CompactionWorker)

def new (policy : CompactionPolicy) : CompactionWorker := ⟨policy, ∅, ∅⟩

def approveSegment (segmentId : SegmentId) : CompactionWorker :=
  { self with
    approved := insert segmentId self.approved
    awaitingApproval := self.awaitingApproval.erase segmentId }

/-- The bookkeeping for a segment that has been compacted is dropped. -/
def forget (segmentId : SegmentId) : CompactionWorker :=
  { self with
    approved := self.approved.erase segmentId
    awaitingApproval := self.awaitingApproval.erase segmentId }

def await (segmentId : SegmentId) : CompactionWorker :=
  { self with awaitingApproval := insert segmentId self.awaitingApproval }

end CompactionWorker

/-- What one backend call of a tick reads and how its write ends. -/
structure Draw where
  stamp : Stamp
  now : DateTime
  outcome : WriteOutcome

/-- The state of a tick: the worker, and the backend it is handed. -/
structure Ticking where
  worker : CompactionWorker
  backend : RocksDbEvidenceLog

namespace Ticking

def onBackend {ε α : Type} (program : EStateM ε RocksDbEvidenceLog α) : EStateM ε Ticking α :=
  Stateful.zoom backend (fun self backend => { self with backend }) program

def onWorker {ε : Type} (update : CompactionWorker → CompactionWorker) : EStateM ε Ticking Unit :=
  modify fun self => { self with worker := update self.worker }

end Ticking

namespace CompactionWorker

open Ticking

variable (codec : Codec) (ed25519 : Ed25519) (signingKey : SigningKey)

/-- The branch that `Auto` and an approval have in common. -/
def compactListed (segmentId : SegmentId) (draw : Draw) (report : CompactionReport) :
    EStateM (Halt EvidenceError) Ticking CompactionReport := do
  let removed ← onBackend (RocksDbEvidenceLog.compactSegment codec segmentId draw.now draw.outcome)
  onWorker (forget · segmentId)
  pure { report with
    compactedSegments := report.compactedSegments + 1
    receiptsRemoved := report.receiptsRemoved + removed.1
    indexEntriesPruned := report.indexEntriesPruned + removed.2 }

/-- The branch that asks for an approval. -/
def askForApproval (segmentId : SegmentId) (draw : Draw) (report : CompactionReport) :
    EStateM (Halt EvidenceError) Ticking CompactionReport := do
  onBackend (RocksDbEvidenceLog.emitApprovalRequired codec ed25519 signingKey segmentId draw.stamp draw.outcome)
  onWorker (await · segmentId)
  pure { report with awaitingApproval := report.awaitingApproval + 1 }

/-- The body of the loop of `tick`. -/
def visit (now : DateTime) (listed : ListedSegment) (draw : Draw) (report : CompactionReport) :
    EStateM (Halt EvidenceError) Ticking CompactionReport :=
  let (segmentId, retentionClass, sealedAt) := listed
  if !isEligible retentionClass sealedAt now then pure report
  else do
    let report := { report with eligibleSegments := report.eligibleSegments + 1 }
    let self ← get
    match self.worker.policy with
    | .auto => compactListed codec segmentId draw report
    | .operatorApproval =>
      if segmentId ∈ self.worker.approved then compactListed codec segmentId draw report
      else if segmentId ∈ self.worker.awaitingApproval then
        pure { report with awaitingApproval := report.awaitingApproval + 1 }
      else askForApproval codec ed25519 signingKey segmentId draw report
    | .disabled => pure report

def visitAll (now : DateTime) :
    List ListedSegment → List Draw → CompactionReport → EStateM (Halt EvidenceError) Ticking CompactionReport
  | [], _, report => pure report
  | _ :: _, [], _ => throw .stopped
  | listed :: rest, draw :: draws, report => do
    let report ← visit codec ed25519 signingKey now listed draw report
    visitAll now rest draws report

def tick (now : DateTime) (draws : List Draw) : EStateM (Halt EvidenceError) Ticking CompactionReport := do
  let self ← get
  let segments ← orHalt (RocksDbEvidenceLog.listSealedSegments self.backend.disk)
  visitAll codec ed25519 signingKey now segments draws {}

end CompactionWorker

/-! ## A log and its worker -/

/-- A machine and a worker, which a restart of the machine leaves alone. -/
structure TendedLog where
  machine : Machine
  worker : CompactionWorker

inductive TendedEvent where
  | store (event : Event)
  | started (policy : CompactionPolicy)
  | approve (segmentId : SegmentId)
  | tick (now : DateTime) (draws : List Draw)

namespace TendedEvent

def ulids : TendedEvent → List String
  | .store event => event.ulids
  | .started _ | .approve _ => []
  | .tick _ draws => draws.map fun draw => draw.stamp.ulid

def times : TendedEvent → List DateTime
  | .store event => event.times
  | .started _ | .approve _ | .tick .. => []

end TendedEvent

namespace TendedLog

/-- The log before it is opened, with a worker under the policy that is the default. -/
def blank : TendedLog := ⟨.blank, .new .operatorApproval⟩

def after {α : Type} : EStateM.Result (Halt EvidenceError) Ticking α → TendedLog
  | .ok _ ticking => ⟨⟨ticking.backend.disk, some ticking.backend.state⟩, ticking.worker⟩
  | .error (.failed _) ticking => ⟨⟨ticking.backend.disk, some ticking.backend.state⟩, ticking.worker⟩
  | .error .stopped ticking => ⟨⟨ticking.backend.disk, none⟩, ticking.worker⟩

variable (codec : Codec) (ed25519 : Ed25519) (signingKey : SigningKey)

def step (self : TendedLog) : TendedEvent → TendedLog
  | .store event => { self with machine := self.machine.step codec ed25519 signingKey event }
  | .started policy => { self with worker := .new policy }
  | .approve segmentId => { self with worker := self.worker.approveSegment segmentId }
  | .tick now draws =>
    match self.machine.process with
    | none => self
    | some state =>
      after (CompactionWorker.tick codec ed25519 signingKey now draws ⟨self.worker, ⟨self.machine.disk, state⟩⟩)

def run (events : List TendedEvent) : TendedLog := StepRun.run (step codec ed25519 signingKey) blank events

end TendedLog

end Aios.Evidence
