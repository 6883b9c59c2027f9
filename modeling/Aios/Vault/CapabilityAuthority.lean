import Aios.Vault.Broker

/-! # The authority of a capability

A capability that has been revoked or has expired is never active again, and no use of it gets as far
as its key, in whatever order the sections of the requests come and whatever their clocks read.
-/

namespace Aios.Vault

open Aios.Rust

namespace VaultStore

variable {mint : ℕ ↪ CapabilityId} {crypto : Crypto} {store : VaultStore mint}

variable {capabilityId : CapabilityId} {op : VaultOp} {operation : VaultOperation}
  {held : VaultCapability × KeyMaterial}

/-! ## What the sections do to the store -/

/-- An issued capability is added under a new identifier; a refused request changes nothing. -/
theorem finalState_issueCapability (request : IssueCapabilityRequest) (now : DateTime) (generated : Bytes)
    (emitFailure : Option String) (store : VaultStore mint) :
    Stateful.finalState (issueCapability request now generated emitFailure store) = store ∨
      ∃ held, Stateful.finalState (issueCapability request now generated emitFailure store) = store.add held := by
  rw [issueCapability]
  cases validateKeyAlgorithmForClass request.class' request.keyAlgorithm with
  | error failure => exact .inl rfl
  | ok =>
    dsimp only
    rw [Stateful.get_bind_apply, Stateful.modify_bind_apply]
    exact .inr ⟨_, finalState_emit_return _ _ _⟩

/-- The store after one capability has moved from active to another state. -/
structure Ends (store : VaultStore mint) (capabilityId : CapabilityId) (target : CapabilityState)
    (after : VaultStore mint) : Prop where
  active : ∃ held, store.lookup capabilityId = some held ∧ held.1.state = .active
  moved : after = store.modify capabilityId (setState target)

/-- The section of a use returns the key after every check; otherwise it fails, and expires an active
capability that is due. -/
theorem checkUse_cases (capabilityId : CapabilityId) (operation : VaultOperation) (now : DateTime)
    (store : VaultStore mint) :
    (∃ held, store.lookup capabilityId = some held ∧ held.1.state = .active ∧ isDue held.1 now = false ∧
      (operationMatchesClass held.1.class' operation || operationMatchesT049Extension held.1.class' operation) = true ∧
      checkUse capabilityId operation now store = .ok held.2 store) ∨
    ∃ failure after, checkUse capabilityId operation now store = .error failure after ∧
      (after = store ∨ (∃ held, store.lookup capabilityId = some held ∧ isDue held.1 now = true) ∧
        store.Ends capabilityId .expired after) := by
  rw [checkUse, Stateful.get_bind_apply]
  cases stored : store.lookup capabilityId with
  | none => exact .inr ⟨_, _, rfl, .inl rfl⟩
  | some held =>
    obtain ⟨capability, keyMaterial⟩ := held
    dsimp only
    cases state : capability.state with
    | active =>
      cases due : isDue capability now with
      | true => exact .inr ⟨_, _, rfl, .inr ⟨⟨_, rfl, due⟩, ⟨⟨_, stored, state⟩, rfl⟩⟩⟩
      | false =>
        simp only [Bool.false_eq_true, if_false]
        cases direct : operationMatchesClass capability.class' operation with
        | true => exact .inl ⟨_, rfl, state, due, by simp [direct], rfl⟩
        | false =>
          cases extended : operationMatchesT049Extension capability.class' operation with
          | true => exact .inl ⟨_, rfl, state, due, by simp [extended], rfl⟩
          | false => exact .inr ⟨_, _, rfl, .inl rfl⟩
    | draft => exact .inr ⟨_, _, rfl, .inl rfl⟩
    | expired => exact .inr ⟨_, _, rfl, .inl rfl⟩
    | revoked => exact .inr ⟨_, _, rfl, .inl rfl⟩
    | rotated => exact .inr ⟨_, _, rfl, .inl rfl⟩
    | discarded => exact .inr ⟨_, _, rfl, .inl rfl⟩

/-- Only the section under the lock touches the store. -/
theorem finalState_useCapability (capabilityId : CapabilityId) (operation : VaultOperation) (now : DateTime)
    (entropy : Bytes) (emitFailure : Option String) (store : VaultStore mint) :
    Stateful.finalState (useCapability crypto capabilityId operation now entropy emitFailure store) =
      Stateful.finalState (checkUse capabilityId operation now store) := by
  rw [useCapability, Stateful.bind_apply]
  cases checkUse capabilityId operation now store with
  | error failure after => rfl
  | ok keyMaterial after =>
    dsimp only
    cases executeOperation crypto keyMaterial operation entropy with
    | error failure => rfl
    | ok result => exact finalState_emit_return emitFailure result after

theorem finalState_endCapability (capabilityId : CapabilityId) (target : CapabilityState) (store : VaultStore mint) :
    Stateful.finalState (endCapability capabilityId target store) = store ∨
      store.Ends capabilityId target (Stateful.finalState (endCapability capabilityId target store)) := by
  rw [endCapability, Stateful.get_bind_apply]
  cases stored : store.lookup capabilityId with
  | none => exact .inl rfl
  | some held =>
    dsimp only
    by_cases active : held.1.state = .active
    · simp only [active, ne_eq, not_true_eq_false, if_false]
      exact .inr ⟨⟨held, stored, active⟩, rfl⟩
    · simp only [active, ne_eq, not_false_eq_true, if_true]
      exact .inl rfl

theorem finalState_end_emit (capabilityId : CapabilityId) (target : CapabilityState) (emitFailure : Option String)
    (store : VaultStore mint) :
    Stateful.finalState ((do endCapability capabilityId target; awaitEmitter emitFailure : Call mint Unit) store) =
      Stateful.finalState (endCapability capabilityId target store) := by
  rw [Stateful.bind_apply]
  cases endCapability capabilityId target store with
  | error failure after => rfl
  | ok value after => exact finalState_awaitEmitter emitFailure after

theorem finalState_runExpirationPass (now : DateTime) (emitFailure : Option String) (store : VaultStore mint) :
    Stateful.finalState (runExpirationPass now emitFailure store) = store.rewrite fun _ => expireIfDue now := by
  rw [runExpirationPass, Stateful.get_bind_apply, Stateful.modify_bind_apply]
  exact finalState_emit_return _ _ _

/-- The request names one capability. -/
def Names (op : VaultOp) (capabilityId : CapabilityId) : Prop :=
  match op with
  | .useCapability named .. | .revokeCapability named _ | .expireCapability named _ => capabilityId = named
  | _ => False

/-- What a section can do: nothing, add a record, end the capability it names, or expire all that are due. -/
theorem step_cases (crypto : Crypto) (store : VaultStore mint) (op : VaultOp) :
    step crypto store op = store ∨
    (∃ request now generated emitFailure held, op = .issueCapability request now generated emitFailure ∧
      step crypto store op = store.add held) ∨
    (∃ capabilityId target, Names op capabilityId ∧ (target = .expired ∨ target = .revoked) ∧
      store.Ends capabilityId target (step crypto store op)) ∨
    ∃ now emitFailure, op = .runExpirationPass now emitFailure ∧ step crypto store op = store.rewrite fun _ =>
      expireIfDue now := by
  cases op with
  | issueCapability request now generated emitFailure =>
    rw [step, call, Stateful.finalState_discard]
    exact (finalState_issueCapability request now generated emitFailure store).imp id
      fun ⟨held, same⟩ => .inl ⟨request, now, generated, emitFailure, held, rfl, same⟩
  | useCapability capabilityId operation now entropy emitFailure =>
    rw [step, call, Stateful.finalState_discard, finalState_useCapability]
    obtain ⟨held, -, -, -, -, ran⟩ | ⟨failure, after, ran, rfl | ⟨-, ended⟩⟩ :=
      checkUse_cases capabilityId operation now store
    · rw [ran]
      exact .inl rfl
    · rw [ran]
      exact .inl rfl
    · rw [ran]
      exact .inr (.inr (.inl ⟨capabilityId, .expired, rfl, .inl rfl, ended⟩))
  | revokeCapability capabilityId emitFailure =>
    rw [step, call, revokeCapability, finalState_end_emit]
    exact (finalState_endCapability capabilityId .revoked store).imp id
      fun ended => .inr (.inl ⟨capabilityId, .revoked, rfl, .inr rfl, ended⟩)
  | expireCapability capabilityId emitFailure =>
    rw [step, call, expireCapability, finalState_end_emit]
    exact (finalState_endCapability capabilityId .expired store).imp id
      fun ended => .inr (.inl ⟨capabilityId, .expired, rfl, .inl rfl, ended⟩)
  | runExpirationPass now emitFailure =>
    rw [step, call, Stateful.finalState_discard, finalState_runExpirationPass]
    exact .inr (.inr (.inr ⟨now, emitFailure, rfl, rfl⟩))

/-! ## What becomes of one record -/

/-- The request is about the capability: it issues or names it, or is a pass at which it is due. -/
def Concerns (store : VaultStore mint) (op : VaultOp) (capabilityId : CapabilityId) : Prop :=
  match op with
  | .issueCapability .. => capabilityId = store.nextKey
  | .useCapability named .. | .revokeCapability named _ | .expireCapability named _ => capabilityId = named
  | .runExpirationPass now _ => ∃ held, store.lookup capabilityId = some held ∧ held.1.state = .active ∧
      isDue held.1 now = true

/-- A stored record stays as it is, or it was active and its state, and nothing else, is now final. -/
theorem step_lookup (stored : store.lookup capabilityId = some held) (crypto : Crypto) (op : VaultOp) :
    (step crypto store op).lookup capabilityId = some held ∨
      held.1.state = .active ∧ store.Concerns op capabilityId ∧
        ∃ target, (target = .expired ∨ target = .revoked) ∧
          (step crypto store op).lookup capabilityId = some (setState target held) := by
  obtain same | ⟨_, _, _, _, added, rfl, same⟩ | ⟨named, target, names, final, ended⟩ | ⟨now, emitFailure, rfl, same⟩ :=
    step_cases crypto store op
  · rw [same]
    exact .inl stored
  · rw [same]
    exact .inl (Ledger.lookup_add_of_stored stored added)
  · rw [ended.moved, Ledger.lookup_modify]
    by_cases own : capabilityId = named
    · subst own
      obtain ⟨found, present, active⟩ := ended.active
      obtain rfl := Option.some.inj (stored.symm.trans present)
      rw [if_pos rfl, stored]
      refine .inr ⟨active, ?_, target, final, rfl⟩
      cases op with
      | issueCapability request now generated emitFailure => exact names.elim
      | useCapability other operation now entropy emitFailure => exact names
      | revokeCapability other emitFailure => exact names
      | expireCapability other emitFailure => exact names
      | runExpirationPass now emitFailure => exact names.elim
    · rw [if_neg own]
      exact .inl stored
  · rw [same, Ledger.lookup_rewrite, stored, Option.map_some, expireIfDue]
    split
    · next due => exact .inr ⟨due.1, ⟨held, stored, due⟩, .expired, .inl rfl, rfl⟩
    · exact .inl rfl

/-- A capability that is new after a section was issued by it. -/
theorem step_lookup_new (absent : store.lookup capabilityId = none)
    (stored : (step crypto store op).lookup capabilityId = some held) :
    ∃ request now generated emitFailure, op = .issueCapability request now generated emitFailure ∧
      capabilityId = store.nextKey := by
  obtain same | ⟨request, now, generated, emitFailure, added, rfl, same⟩ | ⟨named, target, names, -, ended⟩ |
    ⟨now, emitFailure, rfl, same⟩ := step_cases crypto store op
  · rw [same, absent] at stored
    cases stored
  · rw [same, Ledger.lookup_add, absent] at stored
    split at stored
    · next own => exact ⟨request, now, generated, emitFailure, rfl, own⟩
    · cases stored
  · obtain ⟨old, present, -⟩ := ended.active
    rw [ended.moved, Ledger.lookup_modify, absent] at stored
    split at stored
    · next own =>
      rw [← own, absent] at present
      cases present
    · cases stored
  · rw [same, Ledger.lookup_rewrite, absent] at stored
    cases stored

/-- A request changes no record but those it is about. -/
theorem step_frame (unconcerned : ¬ store.Concerns op capabilityId) (crypto : Crypto) :
    (step crypto store op).lookup capabilityId = store.lookup capabilityId := by
  cases stored : store.lookup capabilityId with
  | some held =>
    obtain same | ⟨-, concerned, -⟩ := step_lookup stored crypto op
    · exact same
    · exact absurd concerned unconcerned
  | none =>
    cases after : (step crypto store op).lookup capabilityId with
    | none => rfl
    | some held =>
      obtain ⟨request, now, generated, emitFailure, rfl, own⟩ := step_lookup_new stored after
      exact absurd own unconcerned

/-- A capability that has ended keeps its record for good. -/
theorem runFrom_ended (stored : store.lookup capabilityId = some held) (ended : held.1.state ≠ .active)
    (crypto : Crypto) (ops : List VaultOp) : (runFrom crypto store ops).lookup capabilityId = some held := by
  refine StepRun.run_invariant (fun reached : VaultStore mint => reached.lookup capabilityId = some held) ?_ stored ops
  intro reached op still
  obtain same | ⟨active, -⟩ := step_lookup still crypto op
  · exact same
  · exact absurd active ended

/-! ## What a use needs -/

/-- The operations that a capability of a class stands for. -/
inductive Authorizes : CapabilityClass → VaultOperation → Prop
  | sign (message : Bytes) : Authorizes .keySign (.sign message)
  | bootstrapSign (message : Bytes) : Authorizes .bootstrapKeySign (.sign message)
  | verify (message signature : Bytes) : Authorizes .keyVerify (.verify message signature)
  | encrypt (plaintext aad : Bytes) : Authorizes .keyEncrypt (.encrypt plaintext aad)
  | derive (info : Bytes) (length : ℕ) : Authorizes .keyEncrypt (.kdfDerive info length)
  | decrypt (ciphertext aad : Bytes) : Authorizes .keyDecrypt (.decrypt ciphertext aad)
  | macGenerate (message : Bytes) : Authorizes .macGenerate (.macGenerate message)
  | macVerify (message tag : Bytes) : Authorizes .macVerify (.macVerify message tag)
  | randomGenerate (byteCount : ℕ) : Authorizes .randomGenerate (.randomGenerate byteCount)
  | secretGet (coSignerApprovalId : String) : Authorizes .secretGet (.secretGet coSignerApprovalId)

theorem authorizes_of_matches {class' : CapabilityClass}
    (passed : (operationMatchesClass class' operation || operationMatchesT049Extension class' operation) = true) :
    Authorizes class' operation := by
  cases class' <;> cases operation <;> first | constructor | cases passed

/-- A use that succeeds found the capability active, not past its expiry, and of a class that stands
for the operation. -/
theorem useCapability_ok {now : DateTime} {entropy : Bytes} {emitFailure : Option String} {result : UseCapabilityResult}
    {after : VaultStore mint}
    (ran : useCapability crypto capabilityId operation now entropy emitFailure store = .ok result after) :
    ∃ held, store.lookup capabilityId = some held ∧ held.1.state = .active ∧ isDue held.1 now = false ∧
      Authorizes held.1.class' operation := by
  obtain ⟨held, stored, active, undue, passed, -⟩ | ⟨failure, reached, refused, -⟩ :=
    checkUse_cases capabilityId operation now store
  · exact ⟨held, stored, active, undue, authorizes_of_matches passed⟩
  · rw [useCapability, Stateful.bind_apply, refused] at ran
    cases ran

/-- The use is answered with an error and no operation result. -/
def UseFails (crypto : Crypto) (store : VaultStore mint) (capabilityId : CapabilityId) (operation : VaultOperation)
    (now : DateTime) : Prop :=
  ∀ entropy emitFailure, ∃ failure after,
    useCapability crypto capabilityId operation now entropy emitFailure store = .error failure after

theorem useFails_of_not {capabilityId : CapabilityId} {operation : VaultOperation} {now : DateTime}
    (unable : ∀ held, store.lookup capabilityId = some held → held.1.state = .active →
      isDue held.1 now = false → False) :
    UseFails crypto store capabilityId operation now := by
  intro entropy emitFailure
  cases ran : useCapability crypto capabilityId operation now entropy emitFailure store with
  | error failure after => exact ⟨failure, after, rfl⟩
  | ok result after =>
    obtain ⟨held, stored, active, undue, -⟩ := useCapability_ok ran
    exact (unable held stored active undue).elim

/-! ## Every interleaving -/

/-- The section ends an active capability: it revokes or expires it, or finds it past its expiry. -/
def EndsCapability (store : VaultStore mint) (op : VaultOp) (capabilityId : CapabilityId) : Prop :=
  ∃ held, store.lookup capabilityId = some held ∧ held.1.state = .active ∧
    match op with
    | .revokeCapability named _ | .expireCapability named _ => capabilityId = named
    | .useCapability named _ now _ _ => capabilityId = named ∧ isDue held.1 now = true
    | .runExpirationPass now _ => isDue held.1 now = true
    | .issueCapability .. => False

theorem endCapability_of_active (stored : store.lookup capabilityId = some held) (active : held.1.state = .active)
    (target : CapabilityState) :
    endCapability capabilityId target store = .ok () (store.modify capabilityId (setState target)) := by
  rw [endCapability, Stateful.get_bind_apply, stored]
  dsimp only
  simp only [active, ne_eq, not_true_eq_false, if_false]
  rfl

theorem checkUse_of_due (stored : store.lookup capabilityId = some held) (active : held.1.state = .active)
    {now : DateTime} (due : isDue held.1 now = true) (operation : VaultOperation) :
    checkUse capabilityId operation now store =
      .error (.capabilityExpired capabilityId) (store.modify capabilityId (setState .expired)) := by
  rw [checkUse, Stateful.get_bind_apply, stored]
  simp only [active, due, if_true]
  rfl

theorem lookup_modify_setState (stored : store.lookup capabilityId = some held) (target : CapabilityState) :
    (store.modify capabilityId (setState target)).lookup capabilityId = some (setState target held) := by
  rw [Ledger.lookup_modify, if_pos rfl, stored]
  rfl

/-- After such a section the capability is expired or revoked. -/
theorem lookup_of_endsCapability (ends : store.EndsCapability op capabilityId) (crypto : Crypto) :
    ∃ held, (step crypto store op).lookup capabilityId = some held ∧
      (held.1.state = .expired ∨ held.1.state = .revoked) := by
  obtain ⟨held, stored, active, how⟩ := ends
  cases op with
  | issueCapability request now generated emitFailure => exact how.elim
  | useCapability named operation now entropy emitFailure =>
    obtain ⟨rfl, due⟩ := how
    rw [step, call, Stateful.finalState_discard, finalState_useCapability, checkUse_of_due stored active due]
    exact ⟨_, lookup_modify_setState stored .expired, .inl rfl⟩
  | revokeCapability named emitFailure =>
    obtain rfl := how
    rw [step, call, revokeCapability, finalState_end_emit, endCapability_of_active stored active]
    exact ⟨_, lookup_modify_setState stored .revoked, .inr rfl⟩
  | expireCapability named emitFailure =>
    obtain rfl := how
    rw [step, call, expireCapability, finalState_end_emit, endCapability_of_active stored active]
    exact ⟨_, lookup_modify_setState stored .expired, .inl rfl⟩
  | runExpirationPass now emitFailure =>
    rw [step, call, Stateful.finalState_discard, finalState_runExpirationPass, Ledger.lookup_rewrite, stored,
      Option.map_some,
      expireIfDue, if_pos ⟨active, how⟩]
    exact ⟨_, rfl, .inl rfl⟩

/-- In every interleaving: a record that is expired or revoked stays as it is; a use after the section
that ended its capability, or at a clock past its expiry, fails; a use that succeeds has an operation
of the capability's class; and no section changes a record it is not about. -/
theorem capabilityAuthority (crypto : Crypto) (start : VaultStore mint) (ops : List VaultOp) :
    (∀ capabilityId held later, (runFrom crypto start ops).lookup capabilityId = some held →
      held.1.state = .revoked ∨ held.1.state = .expired →
      (runFrom crypto start (ops ++ later)).lookup capabilityId = some held) ∧
    (∀ op capabilityId later operation now, (runFrom crypto start ops).EndsCapability op capabilityId →
      UseFails crypto (runFrom crypto start (ops ++ op :: later)) capabilityId operation now) ∧
    (∀ capabilityId held operation now deadline, (runFrom crypto start ops).lookup capabilityId = some held →
      held.1.expiresAt = some deadline → deadline < now →
      UseFails crypto (runFrom crypto start ops) capabilityId operation now) ∧
    (∀ capabilityId operation now entropy emitFailure result after,
      useCapability crypto capabilityId operation now entropy emitFailure (runFrom crypto start ops) =
        .ok result after →
      ∃ held, (runFrom crypto start ops).lookup capabilityId = some held ∧ Authorizes held.1.class' operation) ∧
    (∀ op capabilityId, ¬ (runFrom crypto start ops).Concerns op capabilityId →
      (runFrom crypto start (ops ++ [op])).lookup capabilityId = (runFrom crypto start ops).lookup capabilityId) := by
  refine ⟨?_, ?_, ?_, ?_, ?_⟩
  · intro capabilityId held later stored final
    rw [runFrom, StepRun.run_append]
    refine runFrom_ended stored (fun active => ?_) crypto later
    rw [active] at final
    cases final with
    | inl impossible => cases impossible
    | inr impossible => cases impossible
  · intro op capabilityId later operation now ends
    obtain ⟨held, stored, final⟩ := lookup_of_endsCapability ends crypto
    have ended : held.1.state ≠ .active := by
      obtain expired | revoked := final
      · rw [expired]
        decide
      · rw [revoked]
        decide
    rw [runFrom, StepRun.run_append, StepRun.run_cons]
    apply useFails_of_not
    intro other found active _
    obtain rfl := Option.some.inj ((runFrom_ended stored ended crypto later).symm.trans found)
    exact ended active
  · intro capabilityId held operation now deadline stored expires past
    apply useFails_of_not
    intro other found _ undue
    obtain rfl := Option.some.inj (stored.symm.trans found)
    simp [isDue, expires, past] at undue
  · intro capabilityId operation now entropy emitFailure result after ran
    obtain ⟨held, stored, -, -, authorized⟩ := useCapability_ok ran
    exact ⟨held, stored, authorized⟩
  · intro op capabilityId unconcerned
    rw [runFrom, StepRun.run_append]
    exact step_frame unconcerned crypto

end VaultStore

end Aios.Vault
