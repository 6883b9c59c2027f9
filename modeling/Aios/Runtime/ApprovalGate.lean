import Aios.Action.Envelope
import Aios.Lib.Run
import Aios.Lib.Table

/-! # The approval gate

The embedding of `approval_gate.rs`. The policy, the pending map and the audit trail are behind three
locks. A call is cut where it holds none of them: `evaluate` reads the policy, appends to the trail
and parks the request in three sections; a manual decision and an escalation hold the pending map
while they append, in one section; `expire_stale_pending` collects under a read lock and removes
under a later write lock, in two. Another call may append to the trail inside a section that holds
the pending map; the entries are about other requests, and their order does not matter here.

The evidence hash is third-party code over a JSON text and a parameter; a clock reading comes with
each section.
-/

namespace Aios.Runtime.Gate

open Aios.Rust Aios.Action

/-- The configured approval strategy. -/
inductive ApprovalPolicy where
  | autoDeny
  | humanRequired
  | classifiedOnly
  | delegated (delegatedScopeTag : String)
deriving DecidableEq, Repr

structure GateApprovalRequest where
  actionId : ActionId
  proposedByCapsuleId : String
  targetResource : String
  requiredCapability : String
  delegatedScopeTag : Option String := none
  isClassified : Bool := false
  submittedAt : DateTime
deriving DecidableEq, Repr

inductive ApprovalDecision where
  | approved (approver : String)
  | denied (reason : String)
  | escalated (escalatedTo reason : String)
  | pending (deadline : DateTime)
deriving DecidableEq, Repr

namespace ApprovalDecision

def isApproved : ApprovalDecision → Bool
  | .approved _ => true
  | _ => false

def isDenied : ApprovalDecision → Bool
  | .denied _ => true
  | _ => false

def isPending : ApprovalDecision → Bool
  | .pending _ => true
  | _ => false

/-- Approved or denied. -/
def isFinal (self : ApprovalDecision) : Bool := self.isApproved || self.isDenied

end ApprovalDecision

structure GateAuditEntry where
  request : GateApprovalRequest
  decision : ApprovalDecision
  decidedAt : DateTime
  evidenceHash : String
deriving DecidableEq

/-- `GateAuditEntry::compute_evidence_hash`. -/
abbrev EvidenceHash := GateApprovalRequest → ApprovalDecision → DateTime → String

structure ApprovalGate where
  policy : ApprovalPolicy
  pending : Table String GateApprovalRequest
  auditTrail : List GateAuditEntry

namespace ApprovalGate

def new (policy : ApprovalPolicy) : ApprovalGate := ⟨policy, ∅, []⟩

/-- The decision of `evaluate` under a policy it has read. -/
def decision (policy : ApprovalPolicy) (request : GateApprovalRequest) (now : DateTime) : ApprovalDecision :=
  let timeout := now + seconds 300
  match policy with
  | .autoDeny => .denied "automatic denial policy in effect"
  | .humanRequired => .pending timeout
  | .classifiedOnly => if request.isClassified then .pending timeout else .approved "system:classified-bypass"
  | .delegated tag =>
      if request.delegatedScopeTag = some tag then .approved "system:delegated" else .pending timeout

/-- AI capsule identifiers start with `ai:`. -/
def isAiActor (id : String) : Bool := startsWith id "ai:"

section

variable (hash : EvidenceHash)

variable (self : ApprovalGate)

/-- Append an audit entry. -/
def record (request : GateApprovalRequest) (decision : ApprovalDecision) (now : DateTime) : ApprovalGate :=
  let entry : GateAuditEntry :=
    { request, decision, decidedAt := now, evidenceHash := hash request decision now }
  { self with auditTrail := self.auditTrail ++ [entry] }

def park (request : GateApprovalRequest) : ApprovalGate :=
  { self with pending := self.pending.insert request.actionId request }

/-- The shared body of the manual decisions: an AI actor is refused, an absent request is not found. -/
def decideManually (actionId actor : String) (decision : ApprovalDecision) (now : DateTime) : ApprovalGate × Bool :=
  if isAiActor actor then (self, false)
  else match self.pending.lookup actionId with
    | some request =>
        (record hash { self with pending := self.pending.erase actionId } request decision now, true)
    | none => (self, false)

def approveManually (actionId approver : String) (now : DateTime) : ApprovalGate × Bool :=
  self.decideManually hash actionId approver (.approved approver) now

def denyManually (actionId reason denier : String) (now : DateTime) : ApprovalGate × Bool :=
  self.decideManually hash actionId denier (.denied reason) now

/-- Record an escalation; the request stays pending. -/
def escalate (actionId escalatedTo reason : String) (now : DateTime) : ApprovalGate × Bool :=
  match self.pending.lookup actionId with
  | some request => (self.record hash request (.escalated escalatedTo reason) now, true)
  | none => (self, false)

/-- The read section of `expire_stale_pending`: the entries past their deadline, in map order. -/
def stalePending (order : IterationOrder (Σ _ : String, GateApprovalRequest)) (self : ApprovalGate)
    (now : DateTime) : List (String × GateApprovalRequest) :=
  ((order.arrange self.pending.entries).filter fun entry => entry.2.submittedAt + seconds 300 ≤ now).map
    fun entry => (entry.1, entry.2)

/-- One turn of the write section: remove the id and append a denial, whatever has happened since. -/
def expireOne (now : DateTime) (self : ApprovalGate) (expired : String × GateApprovalRequest) : ApprovalGate :=
  record hash { self with pending := self.pending.erase expired.1 } expired.2 (.denied "pending timeout expired") now

/-- The write section of `expire_stale_pending`. -/
def expireAll (now : DateTime) (expired : List (String × GateApprovalRequest)) : ApprovalGate :=
  expired.foldl (expireOne hash now) self

/-- `evaluate` with no other call between its sections. -/
def evaluate (request : GateApprovalRequest) (now : DateTime) : ApprovalGate × ApprovalDecision :=
  let decision := decision self.policy request now
  let recorded := self.record hash request decision now
  (if decision.isPending then recorded.park request else recorded, decision)

/-- `expire_stale_pending` with no other call between its sections. -/
def expireStalePending (order : IterationOrder (Σ _ : String, GateApprovalRequest)) (self : ApprovalGate)
    (now : DateTime) : ApprovalGate × ℕ :=
  let expired := self.stalePending order now
  if expired.isEmpty then (self, 0) else (self.expireAll hash now expired, expired.length)

end

end ApprovalGate

/-! ## Calls and their sections -/

inductive GateCall where
  | evaluate (request : GateApprovalRequest)
  | setPolicy (policy : ApprovalPolicy)
  | approveManually (actionId approver : String)
  | denyManually (actionId reason denier : String)
  | escalate (actionId escalatedTo reason : String)
  | expireStalePending
deriving DecidableEq

inductive GateResult where
  | done
  | decision (decision : ApprovalDecision)
  | found (found : Bool)
  | expired (count : ℕ)
deriving DecidableEq

/-- Where a call stands between two of its sections. -/
inductive GatePhase where
  | entered
  | decided (decision : ApprovalDecision) (now : DateTime)
  | parking (decision : ApprovalDecision)
  | expiring (now : DateTime) (expired : List (String × GateApprovalRequest))
  | returned (result : GateResult)
deriving DecidableEq

/-- The next section of a call, taken at a clock reading. -/
def GateCall.advance (hash : EvidenceHash) (order : IterationOrder (Σ _ : String, GateApprovalRequest))
    (gate : ApprovalGate) (now : DateTime) : GateCall → GatePhase → ApprovalGate × GatePhase
  | .evaluate request, .entered => (gate, .decided (ApprovalGate.decision gate.policy request now) now)
  | .evaluate request, .decided decision decidedAt =>
      (gate.record hash request decision decidedAt,
        if decision.isPending then .parking decision else .returned (.decision decision))
  | .evaluate request, .parking decision => (gate.park request, .returned (.decision decision))
  | .setPolicy policy, .entered => ({ gate with policy }, .returned .done)
  | .approveManually actionId approver, .entered =>
      let (after, found) := gate.approveManually hash actionId approver now
      (after, .returned (.found found))
  | .denyManually actionId reason denier, .entered =>
      let (after, found) := gate.denyManually hash actionId reason denier now
      (after, .returned (.found found))
  | .escalate actionId escalatedTo reason, .entered =>
      let (after, found) := gate.escalate hash actionId escalatedTo reason now
      (after, .returned (.found found))
  | .expireStalePending, .entered =>
      let expired := gate.stalePending order now
      if expired.isEmpty then (gate, .returned (.expired 0)) else (gate, .expiring now expired)
  | .expireStalePending, .expiring collectedAt expired =>
      (gate.expireAll hash collectedAt expired, .returned (.expired expired.length))
  | _, phase => (gate, phase)

/-- A call taken alone, at one clock reading. -/
def GateCall.perform (hash : EvidenceHash) (order : IterationOrder (Σ _ : String, GateApprovalRequest))
    (gate : ApprovalGate) (now : DateTime) : GateCall → ApprovalGate × GateResult
  | .evaluate request =>
      let (after, decision) := gate.evaluate hash request now
      (after, .decision decision)
  | .setPolicy policy => ({ gate with policy }, .done)
  | .approveManually actionId approver =>
      let (after, found) := gate.approveManually hash actionId approver now
      (after, .found found)
  | .denyManually actionId reason denier =>
      let (after, found) := gate.denyManually hash actionId reason denier now
      (after, .found found)
  | .escalate actionId escalatedTo reason =>
      let (after, found) := gate.escalate hash actionId escalatedTo reason now
      (after, .found found)
  | .expireStalePending =>
      let (after, count) := gate.expireStalePending hash order now
      (after, .expired count)

/-- The gate and the phase of each call. -/
structure GateSystem (ι : Type) where
  gate : ApprovalGate
  phases : ι → GatePhase

section Interleave

variable {ι : Type} [DecidableEq ι] (hash : EvidenceHash)
  (order : IterationOrder (Σ _ : String, GateApprovalRequest)) (calls : ι → GateCall)

/-- One call takes its next section at a clock reading. -/
def GateSystem.move (system : GateSystem ι) (turn : ι × DateTime) : GateSystem ι :=
  let (gate, phase) := (calls turn.1).advance hash order system.gate turn.2 (system.phases turn.1)
  { gate, phases := Function.update system.phases turn.1 phase }

/-- The calls enter on a new gate and take their sections in the given order. -/
def interleave (policy : ApprovalPolicy) (turns : List (ι × DateTime)) : GateSystem ι :=
  StepRun.run (GateSystem.move hash order calls) ⟨.new policy, fun _ => .entered⟩ turns

end Interleave

end Aios.Runtime.Gate
