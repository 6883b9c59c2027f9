import Aios.Vault.Override

/-! # One use of an override

A binding leaves the granted state once and for good. Consuming, revoking and finding it past its
expiry all take it out of that state, in whatever order the sections come and whichever way the clocks
go, and only a granted binding can be consumed.
-/

namespace Aios.Vault

open Aios.Rust

namespace OverrideStore

variable {mint : ℕ ↪ String} {store : OverrideStore mint} {catalog : IdentityCatalog}

variable {failure : VaultError} {op : OverrideOp} {bindingId named : String} {now clock : DateTime}
  {binding : OverrideBinding} {emitFailure : Option String} {after : OverrideStore mint}

/-! ## Bindings under their identifiers -/

/-- Every binding is stored under its own identifier. -/
def Keyed (store : OverrideStore mint) : Prop :=
  ∀ bindingId binding, store.lookup bindingId = some binding → binding.bindingId = bindingId

theorem Keyed.step (keyed : store.Keyed) (catalog : IdentityCatalog) (op : OverrideOp) :
    (step catalog store op).Keyed := by
  intro bindingId binding stored
  cases before : store.lookup bindingId with
  | some old =>
    obtain ⟨state, kept, -⟩ := step_lookup before catalog op
    obtain rfl := Option.some.inj (stored.symm.trans kept)
    exact keyed bindingId old before
  | none =>
    obtain ⟨request, now, emitFailure, -, -, rfl⟩ := step_lookup_new before stored
    rfl

theorem runFrom_keyed (mint : ℕ ↪ String) (catalog : IdentityCatalog) (ops : List OverrideOp) :
    (runFrom catalog (Ledger.empty mint OverrideBinding) ops).Keyed :=
  StepRun.run_invariant Keyed (fun _ op keyed => keyed.step catalog op)
    (fun _ _ stored => by simp at stored) ops

/-! ## Bindings that are closed -/

/-- The binding is stored and no longer granted. -/
def Closed (store : OverrideStore mint) (bindingId : String) : Prop :=
  ∃ binding, store.lookup bindingId = some binding ∧ binding.state ≠ .granted

theorem Closed.runFrom (closed : store.Closed bindingId) (catalog : IdentityCatalog) (ops : List OverrideOp) :
    (runFrom catalog store ops).Closed bindingId := by
  refine StepRun.run_invariant (Closed · bindingId) ?_ closed ops
  rintro reached op ⟨binding, stored, ended⟩
  obtain ⟨state, kept, still⟩ := step_lookup stored catalog op
  exact ⟨_, kept, still ended⟩

/-- The section of a consumption at a clock reading succeeds. -/
def Consumes (store : OverrideStore mint) (bindingId : String) (now : DateTime) : Prop :=
  ∃ binding after, consumeLocked bindingId now store = .ok binding after

theorem consumes_of_ok (ran : consumeOverride bindingId now emitFailure store = .ok binding after) :
    store.Consumes bindingId now := by
  rw [consumeOverride, Stateful.bind_apply] at ran
  cases locked : consumeLocked bindingId now store with
  | error failure reached =>
    rw [locked] at ran
    cases ran
  | ok consumed reached => exact ⟨consumed, reached, locked⟩

theorem Consumes.live (consumes : store.Consumes bindingId now) :
    ∃ binding, store.lookup bindingId = some binding ∧ binding.state = .granted ∧ now < binding.expiresAt := by
  obtain ⟨consumed, after, ran⟩ := consumes
  obtain ⟨binding, stored, granted, before, -⟩ | ⟨binding, -, -, -, refused⟩ | ⟨failure, refused, -⟩ :=
    consumeLocked_cases bindingId now store
  · exact ⟨binding, stored, granted, before⟩
  · rw [refused] at ran
    cases ran
  · rw [refused] at ran
    cases ran

theorem Closed.not_consumes (closed : store.Closed bindingId) (now : DateTime) : ¬ store.Consumes bindingId now := by
  intro consumes
  obtain ⟨binding, stored, ended⟩ := closed
  obtain ⟨other, found, granted, -⟩ := consumes.live
  obtain rfl := Option.some.inj (stored.symm.trans found)
  exact ended granted

/-! ## The sections that close a binding -/

/-- What the caller of a request sees. -/
def reply (catalog : IdentityCatalog) (store : OverrideStore mint) (op : OverrideOp) :
    Except VaultError OverrideReply :=
  Stateful.outcome id (call catalog op store)

/-- The answer says that the binding has expired. -/
def SaysExpired (bindingId : String) : Except VaultError OverrideReply → Prop
  | .error (.overrideExpired named) => named = bindingId
  | .ok (.binding binding) => binding.bindingId = bindingId ∧ binding.state = .expired
  | .ok (.bindings bindings) => ∃ binding ∈ bindings, binding.bindingId = bindingId ∧ binding.state = .expired
  | _ => False

theorem saysExpired_error (answered : SaysExpired bindingId (.error failure)) :
    failure = .overrideExpired bindingId := by
  cases failure with
  | overrideExpired named => rw [show named = bindingId from answered]
  | _ => exact answered.elim

theorem lookup_modify_stored (stored : store.lookup bindingId = some binding)
    (update : OverrideBinding → OverrideBinding) :
    (store.modify bindingId update).lookup bindingId = some (update binding) := by
  rw [Ledger.lookup_modify, if_pos rfl, stored]
  rfl

/-- A successful consumption closes the binding, whatever the emitter answers. -/
theorem closed_of_consumes (consumes : store.Consumes bindingId now) (catalog : IdentityCatalog)
    (emitFailure : Option String) :
    (step catalog store (.consumeOverride bindingId now emitFailure)).Closed bindingId := by
  obtain ⟨consumed, after, ran⟩ := consumes
  rw [step, call, Stateful.finalState_map, finalState_consumeOverride]
  obtain ⟨binding, stored, -, -, locked⟩ | ⟨binding, -, -, -, refused⟩ | ⟨failure, refused, -⟩ :=
    consumeLocked_cases bindingId now store
  · rw [locked]
    exact ⟨_, lookup_modify_stored stored _, OverrideBindingState.noConfusion⟩
  · rw [refused] at ran
    cases ran
  · rw [refused] at ran
    cases ran

theorem closed_of_revoke (stored : store.lookup bindingId = some binding) (catalog : IdentityCatalog)
    (emitFailure : Option String) : (step catalog store (.revokeOverride bindingId emitFailure)).Closed bindingId := by
  rw [step, call, Stateful.finalState_map]
  obtain moved | ⟨absent, -⟩ := finalState_revokeOverride bindingId emitFailure store
  · rw [moved]
    exact ⟨_, lookup_modify_stored stored _, OverrideBindingState.noConfusion⟩
  · rw [absent] at stored
    cases stored

theorem lookupGrantingSubjects_error {references : List SubjectRef}
    (refused : lookupGrantingSubjects catalog references = .error failure) :
    ∃ reference, failure = .subjectNotFound reference := by
  rw [lookupGrantingSubjects] at refused
  induction references with
  | nil => cases refused
  | cons reference rest ih =>
    rw [List.mapM_cons, IdentityCatalog.lookupSubject] at refused
    cases stored : catalog.lookup reference with
    | none =>
      rw [stored] at refused
      cases refused
      exact ⟨reference, rfl⟩
    | some subject =>
      rw [stored] at refused
      cases looked : rest.mapM catalog.lookupSubject with
      | error other =>
        rw [looked] at refused
        cases refused
        exact ih looked
      | ok subjects =>
        rw [looked] at refused
        cases refused

/-- No check of a grant fails with an expiry. -/
theorem checkGrant_error {request : GrantOverrideRequest} (refused : checkGrant catalog request = .error failure)
    (bindingId : String) : failure ≠ .overrideExpired bindingId := by
  rintro rfl
  rw [checkGrant, validateApproverCount] at refused
  split at refused
  · cases looked : lookupGrantingSubjects catalog request.grantedBy with
    | error other =>
      rw [looked] at refused
      cases refused
      obtain ⟨reference, impossible⟩ := lookupGrantingSubjects_error looked
      cases impossible
    | ok subjects =>
      rw [looked] at refused
      change (rejectAiGrantingSubjects subjects >>= fun _ => validateHumanApprovers request.class' subjects) =
        _ at refused
      rw [rejectAiGrantingSubjects] at refused
      split at refused
      · cases refused
      · change validateHumanApprovers request.class' subjects = _ at refused
        rw [validateHumanApprovers] at refused
        split at refused
        · cases refused
        · cases refused
  · cases refused

theorem closed_of_expired (stored : store.lookup bindingId = some binding) (expired : binding.state = .expired) :
    store.Closed bindingId :=
  ⟨binding, stored, by rw [expired]; decide⟩

/-- What is listed is stored. -/
theorem mem_listOverrides {bindings : List OverrideBinding} (ran : listOverrides now store = .ok bindings after)
    (listed : binding ∈ bindings) : ∃ bindingId, after.lookup bindingId = some binding := by
  cases ran
  exact (Table.mem_values_iff _ binding).mp (List.mem_mergeSort.mp listed)

theorem saysExpired_consume
    (answered : SaysExpired bindingId (reply catalog store (.consumeOverride named now emitFailure))) :
    (step catalog store (.consumeOverride named now emitFailure)).Closed bindingId := by
  rw [reply, call, Stateful.outcome_map, consumeOverride, Stateful.bind_apply] at answered
  rw [step, call, Stateful.finalState_map, finalState_consumeOverride]
  obtain ⟨binding, -, -, -, ran⟩ | ⟨binding, stored, -, -, ran⟩ | ⟨failure, ran, reason⟩ :=
    consumeLocked_cases named now store
  · rw [ran] at answered
    cases emitFailure with
    | none => exact OverrideBindingState.noConfusion answered.2
    | some detail => exact answered.elim
  · rw [ran] at answered ⊢
    obtain rfl : named = bindingId := answered
    exact ⟨_, lookup_modify_stored stored _, OverrideBindingState.noConfusion⟩
  · rw [ran] at answered ⊢
    obtain ⟨rfl, binding, stored, expired⟩ := reason bindingId (saysExpired_error answered)
    exact closed_of_expired stored expired

theorem saysExpired_lookup (keyed : store.Keyed)
    (answered : SaysExpired bindingId (reply catalog store (.lookupOverride named now))) :
    (step catalog store (.lookupOverride named now)).Closed bindingId := by
  rw [reply, call, Stateful.outcome_map, lookupOverride, Stateful.get_bind_apply] at answered
  rw [step, call, Stateful.finalState_map, lookupOverride, Stateful.get_bind_apply]
  cases stored : store.lookup named with
  | none =>
    rw [stored] at answered
    exact answered.elim
  | some binding =>
    rw [stored] at answered
    obtain ⟨own, expired⟩ : (transitionExpiredBinding now binding).bindingId = bindingId ∧
        (transitionExpiredBinding now binding).state = .expired := answered
    obtain ⟨state, moved, -⟩ := closes_transitionExpiredBinding now binding
    have same : named = bindingId := by
      rw [← own, moved]
      exact (keyed named binding stored).symm
    subst same
    exact closed_of_expired (lookup_modify_stored stored _) expired

/-- An answer that says so comes from a section after which the binding is closed. -/
theorem closed_of_saysExpired (keyed : store.Keyed) (answered : SaysExpired bindingId (reply catalog store op)) :
    (step catalog store op).Closed bindingId := by
  have next := keyed.step catalog op
  cases op with
  | grantOverride request now emitFailure =>
    rw [reply, call, Stateful.outcome_map, grantOverride] at answered
    cases passed : checkGrant catalog request with
    | error failure =>
      rw [passed] at answered
      exact absurd (saysExpired_error answered) (checkGrant_error passed bindingId)
    | ok =>
      rw [passed] at answered
      cases emitFailure with
      | none => exact OverrideBindingState.noConfusion answered.2
      | some detail => exact answered.elim
  | consumeOverride named now emitFailure => exact saysExpired_consume answered
  | revokeOverride named emitFailure =>
    rw [reply, call, Stateful.outcome_map, revokeOverride, Stateful.get_bind_apply] at answered
    cases stored : store.lookup named with
    | none =>
      rw [stored] at answered
      exact answered.elim
    | some binding =>
      rw [stored] at answered
      cases emitFailure with
      | none => exact answered.elim
      | some detail => exact answered.elim
  | lookupOverride named now => exact saysExpired_lookup keyed answered
  | listOverrides now =>
    obtain ⟨binding, listed, rfl, expired⟩ := answered
    obtain ⟨key, stored⟩ := mem_listOverrides rfl listed
    exact closed_of_expired (next key binding stored ▸ stored) expired
  | listOverridesForSubject subject now =>
    obtain ⟨binding, listed, rfl, expired⟩ := answered
    obtain ⟨key, stored⟩ := mem_listOverrides rfl (List.mem_of_mem_filter listed)
    exact closed_of_expired (next key binding stored ▸ stored) expired
  | isOverriddenAt action now clock => exact answered.elim

/-! ## Every interleaving -/

/-- The section takes the binding out of the granted state: it consumes it, it is a revocation of it,
or its answer says that the binding has expired. -/
def Spends (catalog : IdentityCatalog) (store : OverrideStore mint) (op : OverrideOp) (bindingId : String) : Prop :=
  (∃ now emitFailure, op = .consumeOverride bindingId now emitFailure ∧ store.Consumes bindingId now) ∨
    (∃ emitFailure binding, op = .revokeOverride bindingId emitFailure ∧ store.lookup bindingId = some binding) ∨
    SaysExpired bindingId (reply catalog store op)

theorem closed_of_spends (keyed : store.Keyed) (spends : store.Spends catalog op bindingId) :
    (step catalog store op).Closed bindingId := by
  obtain ⟨now, emitFailure, rfl, consumes⟩ | ⟨emitFailure, binding, rfl, stored⟩ | answered := spends
  · exact closed_of_consumes consumes catalog emitFailure
  · exact closed_of_revoke stored catalog emitFailure
  · exact closed_of_saysExpired keyed answered

/-- A binding that is still granted after the transition has not expired. -/
theorem live_of_transition
    (stored : (store.rewrite fun _ => transitionExpiredBinding clock).lookup bindingId = some binding)
    (granted : binding.state = .granted) : clock < binding.expiresAt := by
  rw [Ledger.lookup_rewrite] at stored
  obtain ⟨old, -, rfl⟩ := Option.map_eq_some_iff.mp stored
  rw [transitionExpiredBinding] at granted ⊢
  split at granted
  · cases granted
  · next live =>
    rw [if_neg live]
    exact not_le.mp fun past => live ⟨granted, past⟩

/-- What policy is told of is granted, unexpired at both clock readings, and bound to the action or to none. -/
theorem isOverriddenAt_live (keyed : store.Keyed) {action : String} {found : Policy.EmergencyOverride}
    (ran : isOverriddenAt action now clock store = .ok (some found) after) :
    ∃ binding, after.lookup found.overrideId = some binding ∧ found = toEmergencyOverride binding ∧
      binding.state = .granted ∧ now < binding.expiresAt ∧ clock < binding.expiresAt ∧
      (binding.targetActionId = none ∨ binding.targetActionId = some action) := by
  have next : Keyed (store.rewrite fun _ => transitionExpiredBinding clock) := keyed.step ∅ (.listOverrides clock)
  cases listing : listOverrides clock store with
  | error failure reached => cases listing
  | ok bindings reached =>
    rw [isOverriddenAt, Stateful.bind_apply, listing] at ran
    obtain ⟨searched, rfl⟩ := EStateM.Result.ok.inj ran
    obtain ⟨binding, hit, rfl⟩ := Option.map_eq_some_iff.mp searched
    obtain ⟨key, stored⟩ := mem_listOverrides listing (List.mem_of_find?_eq_some hit)
    have fits := List.find?_some hit
    simp only [bindingMatchesAction, Bool.and_eq_true, beq_iff_eq, decide_eq_true_eq] at fits
    obtain ⟨⟨granted, before⟩, target⟩ := fits
    obtain rfl : reached = store.rewrite fun _ => transitionExpiredBinding clock := by
      cases listing
      rfl
    refine ⟨binding, ?_, rfl, granted, before, live_of_transition stored granted, ?_⟩
    · rw [toEmergencyOverride, next key binding stored]
      exact stored
    · cases bound : binding.targetActionId with
      | none => exact .inl rfl
      | some other =>
        rw [bound] at target
        exact .inr (congrArg some (by simpa using target))

/-- In every interleaving, at any clocks: a consumption that is answered with its binding has consumed
it in its section; a section consumes a binding only while it is granted and before its expiry, and
never after another section has spent it; and policy is told of live bindings alone. -/
theorem overrideSingleUse (mint : ℕ ↪ String) (catalog : IdentityCatalog) (ops : List OverrideOp) :
    (∀ bindingId now emitFailure binding after,
      consumeOverride bindingId now emitFailure (runFrom catalog (Ledger.empty mint _) ops) = .ok binding after →
      (runFrom catalog (Ledger.empty mint _) ops).Consumes bindingId now) ∧
    (∀ bindingId now, (runFrom catalog (Ledger.empty mint _) ops).Consumes bindingId now →
      ∃ binding, (runFrom catalog (Ledger.empty mint _) ops).lookup bindingId = some binding ∧
        binding.state = .granted ∧ now < binding.expiresAt) ∧
    (∀ op bindingId later now, (runFrom catalog (Ledger.empty mint _) ops).Spends catalog op bindingId →
      ¬ (runFrom catalog (Ledger.empty mint _) (ops ++ op :: later)).Consumes bindingId now) ∧
    (∀ action now clock found after,
      isOverriddenAt action now clock (runFrom catalog (Ledger.empty mint _) ops) = .ok (some found) after →
      ∃ binding, after.lookup found.overrideId = some binding ∧ found = toEmergencyOverride binding ∧
        binding.state = .granted ∧ now < binding.expiresAt ∧ clock < binding.expiresAt ∧
        (binding.targetActionId = none ∨ binding.targetActionId = some action)) := by
  have keyed := runFrom_keyed mint catalog ops
  refine ⟨fun _ _ _ _ _ ran => consumes_of_ok ran, fun _ _ consumes => consumes.live, ?_,
    fun _ _ _ _ _ ran => isOverriddenAt_live keyed ran⟩
  intro op bindingId later now spends
  rw [runFrom, StepRun.run_append, StepRun.run_cons]
  exact ((closed_of_spends keyed spends).runFrom catalog later).not_consumes now

end OverrideStore

end Aios.Vault
