import Aios.Policy.OverrideBoundary
import Aios.Vault.Broker
import Mathlib.Data.String.Basic

/-! # The override broker

The embedding of `override_broker.rs`, of the records of `override_class.rs` and `identity.rs` it
keeps, and of the lookup that `integration.rs` offers to policy. Each request has one section under
the lock of the store; a binding past its expiry is moved to its final state by whichever request
comes across it. The identity catalog is an argument, as are the clock readings; binding identifiers
come from an injective supply.
-/

namespace Aios.Vault

open Aios.Rust

section

variable (catalog : IdentityCatalog)

/-! ## Subjects and bindings -/

inductive SubjectType where
  | human
  | agent
  | application
  | service
  | device
  | workflow
  | remoteOperator
  | localOperator
deriving DecidableEq, Repr

structure Subject where
  canonicalSubjectId : String
  subjectType : SubjectType
  isAi : Bool
deriving DecidableEq

/-- The subjects of `IdentityCatalog` by canonical id. -/
abbrev IdentityCatalog := Table String Subject

def IdentityCatalog.lookupSubject (canonicalId : String) : Except VaultError Subject :=
  match catalog.lookup canonicalId with
  | none => .error (.subjectNotFound canonicalId)
  | some subject => .ok subject

inductive OverrideBindingState where
  | granted
  | consumed
  | revoked
  | expired
deriving DecidableEq, Repr

structure OverrideBinding where
  bindingId : String
  class' : OverrideClass
  grantedBy : List SubjectRef
  grantedAt : DateTime
  expiresAt : DateTime
  targetActionId : Option String
  state : OverrideBindingState
deriving DecidableEq

/-- A request for a grant; its reason is dropped. -/
structure GrantOverrideRequest where
  class' : OverrideClass
  grantedBy : List SubjectRef
  targetActionId : Option String
  expiresAt : DateTime

/-! ## The checks of a grant -/

def expectedApproverCount : OverrideClass → ℕ
  | .strongSolo => 1
  | .dualHuman => 2
  | .tripleHuman => 3

/-- `u32::try_from(count).unwrap_or(u32::MAX)`. -/
def countToU32 (count : ℕ) : ℕ := if count ≤ U32_MAX then count else U32_MAX

def validateApproverCount (class' : OverrideClass) (found : ℕ) : Except VaultError Unit :=
  if countToU32 found = expectedApproverCount class' then .ok ()
  else .error (.overrideClassApproverCountMismatch class' (expectedApproverCount class') (countToU32 found))

def lookupGrantingSubjects (grantedBy : List SubjectRef) : Except VaultError (List Subject) :=
  grantedBy.mapM catalog.lookupSubject

/-- The check reads the type of the subject, not its `is_ai` mark. -/
def rejectAiGrantingSubjects (subjects : List Subject) : Except VaultError Unit :=
  match subjects.find? fun subject => subject.subjectType = .agent ∨ subject.subjectType = .application with
  | some subject => .error (.aiCannotGrantOverride subject.canonicalSubjectId)
  | none => .ok ()

def validateHumanApprovers (class' : OverrideClass) (subjects : List Subject) : Except VaultError Unit :=
  let foundNonHuman := (subjects.filter (·.subjectType ≠ .human)).map (·.canonicalSubjectId)
  if foundNonHuman.isEmpty then .ok () else .error (.overrideRequiresHumanApprovers class' foundNonHuman)

/-- The four passes over the list of granting subjects. -/
def checkGrant (request : GrantOverrideRequest) : Except VaultError Unit := do
  validateApproverCount request.class' request.grantedBy.length
  let subjects ← lookupGrantingSubjects catalog request.grantedBy
  rejectAiGrantingSubjects subjects
  validateHumanApprovers request.class' subjects

/-! ## The broker -/

abbrev OverrideStore (mint : ℕ ↪ String) := Ledger mint OverrideBinding

def transitionExpiredBinding (now : DateTime) (binding : OverrideBinding) : OverrideBinding :=
  if binding.state = .granted ∧ binding.expiresAt ≤ now then { binding with state := .expired } else binding

end

namespace OverrideStore

variable {mint : ℕ ↪ String}

/-- A request: a value or an error. -/
abbrev Call (mint : ℕ ↪ String) (α : Type) := EStateM VaultError (OverrideStore mint) α

def setState (state : OverrideBindingState) (binding : OverrideBinding) : OverrideBinding := { binding with state }

def grantOverride (catalog : IdentityCatalog) (request : GrantOverrideRequest) (now : DateTime)
    (emitFailure : Option String) : Call mint OverrideBinding := do
  match checkGrant catalog request with
  | .error failure => throw failure
  | .ok () =>
    let binding : OverrideBinding :=
      { bindingId := (← get).nextKey
        class' := request.class'
        grantedBy := request.grantedBy
        grantedAt := now
        expiresAt := request.expiresAt
        targetActionId := request.targetActionId
        state := .granted }
    modify fun (store : OverrideStore mint) => store.add binding
    awaitEmitter emitFailure
    return binding

/-- The section of `consume_override` under the lock. -/
def consumeLocked (bindingId : String) (now : DateTime) : Call mint OverrideBinding := do
  match (← get).lookup bindingId with
  | none => throw (.overrideBindingNotFound bindingId)
  | some binding =>
    match binding.state with
    | .granted =>
      if binding.expiresAt ≤ now then
        modify fun (store : OverrideStore mint) => store.modify bindingId (setState .expired)
        throw (.overrideExpired bindingId)
      modify fun (store : OverrideStore mint) => store.modify bindingId (setState .consumed)
      return setState .consumed binding
    | .consumed => throw .overrideAlreadyConsumed
    | .expired => throw (.overrideExpired bindingId)
    | .revoked => throw (.internal ("override binding revoked: " ++ bindingId))

def consumeOverride (bindingId : String) (now : DateTime) (emitFailure : Option String) :
    Call mint OverrideBinding := do
  let binding ← consumeLocked bindingId now
  awaitEmitter emitFailure
  return binding

/-- A binding is revoked in any state. -/
def revokeOverride (bindingId : String) (emitFailure : Option String) : Call mint Unit := do
  match (← get).lookup bindingId with
  | none => throw (.overrideBindingNotFound bindingId)
  | some _ =>
    modify fun (store : OverrideStore mint) => store.modify bindingId (setState .revoked)
    awaitEmitter emitFailure

def lookupOverride (bindingId : String) (now : DateTime) : Call mint OverrideBinding := do
  match (← get).lookup bindingId with
  | none => throw (.overrideBindingNotFound bindingId)
  | some binding =>
    modify fun (store : OverrideStore mint) => store.modify bindingId (transitionExpiredBinding now)
    return transitionExpiredBinding now binding

/-- The listed bindings are sorted by identifier, so the order of iteration does not show. -/
def listOverrides (now : DateTime) : Call mint (List OverrideBinding) := do
  modify fun (store : OverrideStore mint) => store.rewrite fun _ => transitionExpiredBinding now
  return (← get).records.values.mergeSort fun left right => decide (left.bindingId ≤ right.bindingId)

def listOverridesForSubject (subject : SubjectRef) (now : DateTime) : Call mint (List OverrideBinding) := do
  return (← listOverrides now).filter (·.grantedBy.contains subject)

/-! ## The lookup for policy -/

def bindingMatchesAction (binding : OverrideBinding) (action : String) (now : DateTime) : Bool :=
  binding.state == .granted && decide (now < binding.expiresAt) && binding.targetActionId.all (· == action)

def overrideClassToken : OverrideClass → String
  | .strongSolo => "STRONG_SOLO"
  | .dualHuman => "DUAL_HUMAN"
  | .tripleHuman => "TRIPLE_HUMAN"

def toEmergencyOverride (binding : OverrideBinding) : Policy.EmergencyOverride where
  overrideId := binding.bindingId
  grantedBySubjectId := ",".intercalate binding.grantedBy
  grantedAt := binding.grantedAt
  expiresAt := binding.expiresAt
  scope := { ruleId := "", action := binding.targetActionId.getD "", subjects := [] }
  reason := "vault override binding class=" ++ overrideClassToken binding.class'
  revoked := binding.state != .granted

/-- The list is made at one clock reading and searched at another. -/
def isOverriddenAt (action : String) (now clock : DateTime) : Call mint (Option Policy.EmergencyOverride) := do
  return ((← listOverrides clock).find? (bindingMatchesAction · action now)).map toEmergencyOverride

end OverrideStore

/-! ## Interleavings of the locked sections -/

inductive OverrideOp where
  | grantOverride (request : GrantOverrideRequest) (now : DateTime) (emitFailure : Option String)
  | consumeOverride (bindingId : String) (now : DateTime) (emitFailure : Option String)
  | revokeOverride (bindingId : String) (emitFailure : Option String)
  | lookupOverride (bindingId : String) (now : DateTime)
  | listOverrides (now : DateTime)
  | listOverridesForSubject (subject : SubjectRef) (now : DateTime)
  | isOverriddenAt (action : String) (now clock : DateTime)

/-- What a request returns. -/
inductive OverrideReply where
  | binding (binding : OverrideBinding)
  | done
  | bindings (bindings : List OverrideBinding)
  | policy (found : Option Policy.EmergencyOverride)

namespace OverrideStore

variable {mint : ℕ ↪ String}

section

variable (catalog : IdentityCatalog)

def call : OverrideOp → Call mint OverrideReply
  | .grantOverride request now emitFailure => .binding <$> grantOverride catalog request now emitFailure
  | .consumeOverride bindingId now emitFailure => .binding <$> consumeOverride bindingId now emitFailure
  | .revokeOverride bindingId emitFailure => (fun _ => .done) <$> revokeOverride bindingId emitFailure
  | .lookupOverride bindingId now => .binding <$> lookupOverride bindingId now
  | .listOverrides now => .bindings <$> listOverrides now
  | .listOverridesForSubject subject now => .bindings <$> listOverridesForSubject subject now
  | .isOverriddenAt action now clock => .policy <$> isOverriddenAt action now clock

def step (store : OverrideStore mint) (op : OverrideOp) : OverrideStore mint :=
  Stateful.finalState (call catalog op store)

/-- The store after the sections of a sequence of requests, by any clients and at any clocks. -/
def runFrom (start : OverrideStore mint) (ops : List OverrideOp) : OverrideStore mint :=
  StepRun.run (step catalog) start ops

/-! ## What the sections do to the store -/

end

variable {store : OverrideStore mint}

variable {catalog : IdentityCatalog} {binding : OverrideBinding} (bindingId : String) (now : DateTime)
  (emitFailure : Option String)

/-- The binding that a request for a grant is answered with. -/
def grantedBinding (request : GrantOverrideRequest) (bindingId : String) (now : DateTime) : OverrideBinding where
  bindingId := bindingId
  class' := request.class'
  grantedBy := request.grantedBy
  grantedAt := now
  expiresAt := request.expiresAt
  targetActionId := request.targetActionId
  state := .granted

/-- A rewriting of bindings that touches the state alone, and grants none anew. -/
def Closes (update : OverrideBinding → OverrideBinding) : Prop :=
  ∀ binding, ∃ state, update binding = setState state binding ∧ (binding.state ≠ .granted → state ≠ .granted)

theorem closes_setState {state : OverrideBindingState} (closed : state ≠ .granted) : Closes (setState state) :=
  fun _ => ⟨state, rfl, fun _ => closed⟩

theorem closes_transitionExpiredBinding : Closes (transitionExpiredBinding now) := by
  intro binding
  rw [transitionExpiredBinding]
  split
  · exact ⟨.expired, rfl, fun _ => by decide⟩
  · exact ⟨binding.state, rfl, id⟩

theorem consumeLocked_cases (store : OverrideStore mint) :
    (∃ binding, store.lookup bindingId = some binding ∧ binding.state = .granted ∧ now < binding.expiresAt ∧
      consumeLocked bindingId now store =
        .ok (setState .consumed binding) (store.modify bindingId (setState .consumed))) ∨
    (∃ binding, store.lookup bindingId = some binding ∧ binding.state = .granted ∧ binding.expiresAt ≤ now ∧
      consumeLocked bindingId now store =
        .error (.overrideExpired bindingId) (store.modify bindingId (setState .expired))) ∨
    ∃ failure, consumeLocked bindingId now store = .error failure store ∧
      ∀ other, failure = .overrideExpired other → other = bindingId ∧
        ∃ binding, store.lookup bindingId = some binding ∧ binding.state = .expired := by
  rw [consumeLocked, Stateful.get_bind_apply]
  cases stored : store.lookup bindingId with
  | none => exact .inr (.inr ⟨_, rfl, fun _ same => nomatch same⟩)
  | some binding =>
    dsimp only
    cases state : binding.state with
    | granted =>
      by_cases past : binding.expiresAt ≤ now
      · refine .inr (.inl ⟨binding, rfl, state, past, ?_⟩)
        simp only [past, if_true]
        rfl
      · refine .inl ⟨binding, rfl, state, not_le.mp past, ?_⟩
        simp only [past, if_false]
        rfl
    | consumed => exact .inr (.inr ⟨_, rfl, fun _ same => nomatch same⟩)
    | expired =>
      refine .inr (.inr ⟨_, rfl, fun other same => ?_⟩)
      cases same
      exact ⟨rfl, binding, rfl, state⟩
    | revoked => exact .inr (.inr ⟨_, rfl, fun _ same => nomatch same⟩)

theorem finalState_consumeOverride (store : OverrideStore mint) :
    Stateful.finalState (consumeOverride bindingId now emitFailure store) =
      Stateful.finalState (consumeLocked bindingId now store) := by
  rw [consumeOverride, Stateful.bind_apply]
  cases consumeLocked bindingId now store with
  | error failure after => rfl
  | ok binding after => exact finalState_emit_return emitFailure binding after

theorem finalState_revokeOverride (store : OverrideStore mint) :
    Stateful.finalState (revokeOverride bindingId emitFailure store) = store.modify bindingId (setState .revoked) ∨
      store.lookup bindingId = none ∧ Stateful.finalState (revokeOverride bindingId emitFailure store) = store := by
  rw [revokeOverride, Stateful.get_bind_apply]
  cases stored : store.lookup bindingId with
  | none => exact .inr ⟨rfl, rfl⟩
  | some binding =>
    dsimp only
    rw [Stateful.modify_bind_apply]
    exact .inl (finalState_awaitEmitter emitFailure _)

theorem finalState_lookupOverride (store : OverrideStore mint) :
    Stateful.finalState (lookupOverride bindingId now store) = store.modify bindingId (transitionExpiredBinding now) ∨
      Stateful.finalState (lookupOverride bindingId now store) = store := by
  rw [lookupOverride, Stateful.get_bind_apply]
  cases store.lookup bindingId with
  | none => exact .inr rfl
  | some binding => exact .inl rfl

/-- A grant whose checks pass adds its binding. -/
theorem step_grantOverride {request : GrantOverrideRequest} (passed : checkGrant catalog request = .ok ())
    (now : DateTime) (emitFailure : Option String) (store : OverrideStore mint) :
    step catalog store (.grantOverride request now emitFailure) =
      store.add (grantedBinding request store.nextKey now) := by
  rw [step, call, Stateful.finalState_map, grantOverride, passed]
  dsimp only
  rw [Stateful.get_bind_apply, Stateful.modify_bind_apply]
  exact finalState_emit_return _ _ _

/-- What a section can do: nothing, add a granted binding after its checks, or close some. -/
theorem step_cases (catalog : IdentityCatalog) (store : OverrideStore mint) (op : OverrideOp) :
    step catalog store op = store ∨
    (∃ request now emitFailure, op = .grantOverride request now emitFailure ∧ checkGrant catalog request = .ok () ∧
      step catalog store op = store.add (grantedBinding request store.nextKey now)) ∨
    (∃ bindingId update, Closes update ∧ step catalog store op = store.modify bindingId update) ∨
    ∃ update, Closes update ∧ step catalog store op = store.rewrite fun _ => update := by
  cases op with
  | grantOverride request now emitFailure =>
    cases passed : checkGrant catalog request with
    | error failure =>
      rw [step, call, Stateful.finalState_map, grantOverride, passed]
      exact .inl rfl
    | ok => exact .inr (.inl ⟨request, now, emitFailure, rfl, passed, step_grantOverride passed now emitFailure store⟩)
  | consumeOverride bindingId now emitFailure =>
    rw [step, call, Stateful.finalState_map, finalState_consumeOverride]
    obtain ⟨binding, -, -, -, ran⟩ | ⟨binding, -, -, -, ran⟩ | ⟨failure, ran, -⟩ :=
      consumeLocked_cases bindingId now store
    · rw [ran]
      exact .inr (.inr (.inl ⟨bindingId, _, closes_setState (by decide), rfl⟩))
    · rw [ran]
      exact .inr (.inr (.inl ⟨bindingId, _, closes_setState (by decide), rfl⟩))
    · rw [ran]
      exact .inl rfl
  | revokeOverride bindingId emitFailure =>
    rw [step, call, Stateful.finalState_map]
    obtain moved | ⟨-, same⟩ := finalState_revokeOverride bindingId emitFailure store
    · exact .inr (.inr (.inl ⟨bindingId, _, closes_setState (by decide), moved⟩))
    · exact .inl same
  | lookupOverride bindingId now =>
    rw [step, call, Stateful.finalState_map]
    obtain moved | same := finalState_lookupOverride bindingId now store
    · exact .inr (.inr (.inl ⟨bindingId, _, closes_transitionExpiredBinding now, moved⟩))
    · exact .inl same
  | listOverrides now => exact .inr (.inr (.inr ⟨_, closes_transitionExpiredBinding now, rfl⟩))
  | listOverridesForSubject subject now => exact .inr (.inr (.inr ⟨_, closes_transitionExpiredBinding now, rfl⟩))
  | isOverriddenAt action now clock => exact .inr (.inr (.inr ⟨_, closes_transitionExpiredBinding clock, rfl⟩))

/-- A stored binding keeps everything but its state, and is not granted anew. -/
theorem step_lookup {bindingId : String} (stored : store.lookup bindingId = some binding) (catalog : IdentityCatalog)
    (op : OverrideOp) :
    ∃ state, (step catalog store op).lookup bindingId = some (setState state binding) ∧
      (binding.state ≠ .granted → state ≠ .granted) := by
  obtain same | ⟨request, now, emitFailure, -, -, same⟩ | ⟨other, update, closes, same⟩ | ⟨update, closes, same⟩ :=
    step_cases catalog store op
  · rw [same]
    exact ⟨binding.state, stored, id⟩
  · rw [same]
    exact ⟨binding.state, Ledger.lookup_add_of_stored stored _, id⟩
  · rw [same, Ledger.lookup_modify]
    split
    · next own =>
      obtain ⟨state, moved, closed⟩ := closes binding
      rw [← own, stored, Option.map_some, moved]
      exact ⟨state, rfl, closed⟩
    · exact ⟨binding.state, stored, id⟩
  · obtain ⟨state, moved, closed⟩ := closes binding
    rw [same, Ledger.lookup_rewrite, stored, Option.map_some, moved]
    exact ⟨state, rfl, closed⟩

/-- A binding that is new after a section was granted by it. -/
theorem step_lookup_new {bindingId : String} (absent : store.lookup bindingId = none) {op : OverrideOp}
    (stored : (step catalog store op).lookup bindingId = some binding) :
    ∃ request now emitFailure, op = .grantOverride request now emitFailure ∧ checkGrant catalog request = .ok () ∧
      binding = grantedBinding request bindingId now := by
  obtain same | ⟨request, now, emitFailure, granting, passed, same⟩ | ⟨other, update, -, same⟩ | ⟨update, -, same⟩ :=
    step_cases catalog store op
  · rw [same, absent] at stored
    cases stored
  · rw [same, Ledger.lookup_add, absent] at stored
    split at stored
    · next own =>
      obtain rfl := Option.some.inj stored
      exact ⟨request, now, emitFailure, granting, passed, by rw [own]⟩
    · cases stored
  · rw [same, Ledger.lookup_modify, absent] at stored
    split at stored
    · next own =>
      rw [← own, absent] at stored
      cases stored
    · cases stored
  · rw [same, Ledger.lookup_rewrite, absent] at stored
    cases stored

end OverrideStore

end Aios.Vault
