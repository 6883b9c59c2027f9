import Aios.Lib.Table
import Aios.Policy.Decision
import Aios.Runtime.Lifecycle

/-! # Approval requests and bindings

The in-memory approval sink: the requests the runtime submits, the bindings an operator grants on
them, and the atomic consumption of a binding. Every method holds one write guard, so each is one
step on the maps. Ids and clock readings are arguments.
-/

namespace Aios.Runtime

open Aios.Rust Aios.Action Aios.Policy

inductive ApprovalBindingState where
  | pending
  | granted
  | consumed
  | denied
  | expired
deriving DecidableEq, Repr

structure ApprovalRequest where
  requestId : String
  actionId : ActionId
  requirement : ApprovalRequirement
  proposingSubjectId : String
  proposingSubjectIsAi : Bool
  boundActionCanonicalHash : String
  requestedAt : DateTime
deriving DecidableEq, Repr

/-- The signature field is empty on every binding the in-memory sink makes and is left out. -/
structure ApprovalBinding where
  bindingId : String
  requestId : String
  actionId : ActionId
  grantedBy : String
  grantedByClass : ApproverClass
  grantedAt : DateTime
  expiresAt : DateTime
  boundActionCanonicalHash : String
  state : ApprovalBindingState
deriving DecidableEq, Repr

structure InMemoryApprovalSink where
  requests : Table String ApprovalRequest := ∅
  bindings : Table String ApprovalBinding := ∅
  requestToBinding : Table String String := ∅

namespace InMemoryApprovalSink

variable (self : InMemoryApprovalSink)

def submitRequest (request : ApprovalRequest) : InMemoryApprovalSink :=
  { self with requests := self.requests.insert request.requestId request }

/-- Grant a binding on a submitted request; a lifetime of zero seconds means five minutes. -/
def injectGrantedBinding (requestId grantedBy : String) (grantedByClass : ApproverClass) (bindingId : String)
    (now : DateTime) : Except RuntimeError (ApprovalBinding × InMemoryApprovalSink) :=
  match self.requests.lookup requestId with
  | none => .error (.approvalRequestNotFound requestId)
  | some request =>
      let ttlSeconds := if request.requirement.ttlSeconds = 0 then 300 else request.requirement.ttlSeconds
      let binding : ApprovalBinding :=
        { bindingId, requestId, actionId := request.actionId, grantedBy, grantedByClass, grantedAt := now
          expiresAt := now + seconds ttlSeconds
          boundActionCanonicalHash := request.boundActionCanonicalHash, state := .granted }
      .ok (binding, { self with
        bindings := self.bindings.insert bindingId binding
        requestToBinding := self.requestToBinding.insert requestId bindingId })

/-- The update the three `force_*` methods make on a stored binding. -/
def force (bindingId : String) (update : ApprovalBinding → ApprovalBinding) :
    Except RuntimeError InMemoryApprovalSink :=
  match self.bindings.lookup bindingId with
  | none => .error (.approvalBindingInvalid bindingId)
  | some _ => .ok { self with bindings := self.bindings.modify bindingId update }

def forceExpire (bindingId : String) (now : DateTime) : Except RuntimeError InMemoryApprovalSink :=
  self.force bindingId fun binding => { binding with expiresAt := now - seconds 1 }

def forceDenied (bindingId : String) : Except RuntimeError InMemoryApprovalSink :=
  self.force bindingId fun binding => { binding with state := .denied }

def forcePending (bindingId : String) : Except RuntimeError InMemoryApprovalSink :=
  self.force bindingId fun binding => { binding with state := .pending }

/-- Consume a binding: only a granted one whose lifetime has not elapsed, and only once. -/
def consumeBinding (bindingId : String) (now : DateTime) : Except RuntimeError ApprovalBinding × InMemoryApprovalSink :=
  match self.bindings.lookup bindingId with
  | none => (.error (.approvalBindingInvalid bindingId), self)
  | some binding =>
    match binding.state with
    | .pending =>
        (.error (.approvalBindingInvalid ("binding " ++ bindingId ++ " is not yet GRANTED (state = PENDING)")), self)
    | .consumed => (.error .approvalBindingConsumed, self)
    | .denied => (.error (.approvalBindingInvalid ("binding " ++ bindingId ++ " is DENIED")), self)
    | .expired => (.error .approvalBindingExpired, self)
    | .granted =>
        if binding.expiresAt ≤ now then
          (.error .approvalBindingExpired,
            { self with bindings := self.bindings.modify bindingId fun stored => { stored with state := .expired } })
        else
          (.ok { binding with state := .consumed },
            { self with bindings := self.bindings.modify bindingId fun stored => { stored with state := .consumed } })

/-- A binding is handed out exactly when it is granted and unexpired, and it is marked consumed. -/
theorem consumeBinding_ok_iff {self after : InMemoryApprovalSink} {bindingId : String} {now : DateTime}
    {binding : ApprovalBinding} :
    self.consumeBinding bindingId now = (.ok binding, after) ↔
      ∃ stored, self.bindings.lookup bindingId = some stored ∧ stored.state = .granted ∧ now < stored.expiresAt ∧
        binding = { stored with state := .consumed } ∧
        after = { self with
          bindings := self.bindings.modify bindingId fun held => { held with state := .consumed } } := by
  unfold consumeBinding
  cases held : self.bindings.lookup bindingId with
  | none => simp
  | some stored =>
    cases state : stored.state with
    | granted =>
      by_cases elapsed : stored.expiresAt ≤ now
      · simp [state, elapsed, Int.not_lt.mpr elapsed]
      · simp only [elapsed, if_false, Prod.mk.injEq, Except.ok.injEq, Option.some.injEq, exists_eq_left', state,
          Int.not_le.mp elapsed, true_and]
        exact and_congr eq_comm eq_comm
    | _ => simp [state]

/-- A refused consumption changes no binding except to mark it expired. -/
theorem consumeBinding_bindings (bindingId : String) (now : DateTime) :
    (self.consumeBinding bindingId now).2 = self ∨
      ∃ state, state ≠ .granted ∧ (self.consumeBinding bindingId now).2 =
        { self with bindings := self.bindings.modify bindingId fun stored => { stored with state := state } } := by
  unfold consumeBinding
  cases self.bindings.lookup bindingId with
  | none => exact .inl rfl
  | some binding =>
    cases state : binding.state with
    | granted =>
      by_cases elapsed : binding.expiresAt ≤ now
      · exact .inr ⟨.expired, by decide, by simp [state, elapsed]⟩
      · exact .inr ⟨.consumed, by decide, by simp [state, elapsed]⟩
    | _ => exact .inl (by simp [state])

end InMemoryApprovalSink

end Aios.Runtime
