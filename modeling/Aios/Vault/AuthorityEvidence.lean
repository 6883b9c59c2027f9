import Aios.Vault.CapabilityAuthority
import Aios.Vault.OverrideQuorum

/-! # Authority and its evidence

The emissions of `evidence_emit.rs` beside the two brokers. A request changes its store under the lock
and waits for the emitter afterwards, so what it has issued is in the store before its receipt is in
the log, and stays there when the emission fails. Receipts of uses, revocations and expirations are
left out: they issue nothing.
-/

namespace Aios.Vault

open Aios.Rust

/-! ## Calls that emit last -/

/-- A failed emission leaves the store as a successful one does, and any other error leaves it as it
was. -/
def EmitsLast {σ α : Type} (request : Option String → EStateM VaultError σ α) : Prop :=
  ∀ emitFailure store failure after, request emitFailure store = .error failure after →
    (∀ detail, failure = .evidenceEmitFailed detail →
      emitFailure = some detail ∧ ∃ value, request none store = .ok value after) ∧
    ((∀ detail, failure ≠ .evidenceEmitFailed detail) → after = store)

/-- The errors of a check are none of the emitter's. -/
def ChecksOnly {α : Type} (check : Except VaultError α) : Prop :=
  ∀ detail, check ≠ .error (.evidenceEmitFailed detail)

namespace ChecksOnly

variable {α β : Type}

theorem of_ite {passes : Prop} [Decidable passes] {value : α} {failure : VaultError}
    (named : ∀ detail, failure ≠ .evidenceEmitFailed detail) :
    ChecksOnly (if passes then .ok value else .error failure) := by
  intro detail same
  split at same
  · cases same
  · exact named detail (Except.error.inj same)

theorem bind {check : Except VaultError α} {next : α → Except VaultError β} (first : ChecksOnly check)
    (rest : ∀ value, ChecksOnly (next value)) : ChecksOnly (check >>= next) := by
  intro detail same
  cases passed : check with
  | error failure =>
    rw [passed] at same
    exact first detail (passed.trans (congrArg _ (Except.error.inj same)))
  | ok value =>
    rw [passed] at same
    exact rest value detail same

theorem mapM {check : α → Except VaultError β} (each : ∀ entry, ChecksOnly (check entry)) (entries : List α) :
    ChecksOnly (entries.mapM check) := by
  induction entries with
  | nil =>
    intro detail same
    cases same
  | cons entry rest ih =>
    rw [List.mapM_cons]
    exact (each entry).bind fun _ => ih.bind fun _ detail same => by cases same

end ChecksOnly

theorem validateKeyAlgorithmForClass_checksOnly (class' : CapabilityClass) (found : KeyAlgorithm) :
    ChecksOnly (validateKeyAlgorithmForClass class' found) := by
  have expect (expected : KeyAlgorithm) : ChecksOnly (expectAlgorithm expected found) :=
    .of_ite fun _ same => by cases same
  intro detail same
  cases class' with
  | keySign | keyVerify | bootstrapKeySign => exact expect .ed25519 detail same
  | keyEncrypt | keyDecrypt =>
    rw [validateKeyAlgorithmForClass] at same
    split at same
    · cases same
    · exact expect .aes256Gcm detail same
  | macGenerate | macVerify => exact expect .hmacSha256 detail same
  | randomGenerate | secretGet => cases same

theorem checkGrant_checksOnly (catalog : IdentityCatalog) (request : GrantOverrideRequest) :
    ChecksOnly (checkGrant catalog request) := by
  have counted : ChecksOnly (validateApproverCount request.class' request.grantedBy.length) :=
    .of_ite fun _ same => by cases same
  have known (canonicalId : String) : ChecksOnly (catalog.lookupSubject canonicalId) := by
    intro detail same
    rw [IdentityCatalog.lookupSubject] at same
    cases found : catalog.lookup canonicalId with
    | none =>
      rw [found] at same
      cases same
    | some subject =>
      rw [found] at same
      cases same
  have notAi (subjects : List Subject) : ChecksOnly (rejectAiGrantingSubjects subjects) := by
    intro detail same
    rw [rejectAiGrantingSubjects] at same
    split at same
    · cases same
    · cases same
  have humans (subjects : List Subject) : ChecksOnly (validateHumanApprovers request.class' subjects) :=
    .of_ite fun _ same => by cases same
  exact counted.bind fun _ => (ChecksOnly.mapM known _).bind fun subjects => (notAi subjects).bind fun _ =>
    humans subjects

/-- A call that is its own success followed by the emission, and whose checks come before it touches
the store. -/
theorem emitsLast_of_split {σ α : Type} {request : Option String → EStateM VaultError σ α}
    (split : ∀ emitFailure, request emitFailure = do
      let value ← request none
      awaitEmitter emitFailure
      return value)
    (refused : ∀ store failure after, request none store = .error failure after →
      after = store ∧ ∀ detail, failure ≠ .evidenceEmitFailed detail) :
    EmitsLast request := by
  intro emitFailure store failure after ran
  rw [split emitFailure, Stateful.bind_apply] at ran
  cases section' : request none store with
  | error early reached =>
    rw [section'] at ran
    obtain ⟨rfl, rfl⟩ := EStateM.Result.error.inj ran
    obtain ⟨rfl, checks⟩ := refused store early reached section'
    exact ⟨fun detail same => absurd same (checks detail), fun _ => rfl⟩
  | ok value reached =>
    rw [section'] at ran
    cases emitFailure with
    | none => cases ran
    | some detail =>
      obtain ⟨rfl, rfl⟩ := EStateM.Result.error.inj ran
      refine ⟨fun other same => ?_, fun named => absurd rfl (named detail)⟩
      obtain rfl := VaultError.evidenceEmitFailed.inj same
      exact ⟨rfl, value, rfl⟩

namespace VaultStore

variable {mint : ℕ ↪ CapabilityId}

variable (request : IssueCapabilityRequest) (capabilityId : CapabilityId)

section

variable (now : DateTime) (generated : Bytes) (emitFailure : Option String)

theorem issueCapability_split :
    (issueCapability request now generated emitFailure : Call mint VaultCapability) = do
      let capability ← issueCapability request now generated none
      awaitEmitter emitFailure
      return capability := by
  funext store
  rw [Stateful.bind_apply, issueCapability, issueCapability]
  cases validateKeyAlgorithmForClass request.class' request.keyAlgorithm with
  | error failure => rfl
  | ok => rfl

theorem issueCapability_emitsLast :
    EmitsLast (issueCapability request now generated : Option String → Call mint VaultCapability) := by
  apply emitsLast_of_split (issueCapability_split request now generated)
  intro store failure after ran
  rw [issueCapability] at ran
  cases checked : validateKeyAlgorithmForClass request.class' request.keyAlgorithm with
  | error early =>
    rw [checked] at ran
    obtain ⟨rfl, rfl⟩ := EStateM.Result.error.inj ran
    refine ⟨rfl, fun detail same => ?_⟩
    exact validateKeyAlgorithmForClass_checksOnly _ _ detail (checked.trans (congrArg _ same))
  | ok =>
    rw [checked] at ran
    cases ran

theorem revokeCapability_split :
    (revokeCapability capabilityId emitFailure : Call mint Unit) = do
      let done ← revokeCapability capabilityId none
      awaitEmitter emitFailure
      return done := by
  funext store
  rw [Stateful.bind_apply, revokeCapability, revokeCapability, Stateful.bind_apply, Stateful.bind_apply]
  cases endCapability capabilityId .revoked store with
  | error failure after => rfl
  | ok value after => cases emitFailure <;> rfl

theorem revokeCapability_emitsLast : EmitsLast (revokeCapability capabilityId : Option String → Call mint Unit) := by
  apply emitsLast_of_split (revokeCapability_split capabilityId)
  intro store failure after ran
  rw [revokeCapability, endCapability, Stateful.bind_apply, Stateful.get_bind_apply] at ran
  cases stored : store.lookup capabilityId with
  | none =>
    rw [stored] at ran
    obtain ⟨rfl, rfl⟩ := EStateM.Result.error.inj ran
    exact ⟨rfl, fun detail same => by cases same⟩
  | some held =>
    rw [stored] at ran
    dsimp only at ran
    by_cases active : held.1.state = .active
    · simp only [active, ne_eq, not_true_eq_false, if_false] at ran
      cases ran
    · simp only [active, ne_eq, not_false_eq_true, if_true] at ran
      obtain ⟨rfl, rfl⟩ := EStateM.Result.error.inj ran
      exact ⟨rfl, fun detail same => by cases same⟩

end

end VaultStore

namespace OverrideStore

variable {mint : ℕ ↪ String}

variable (catalog : IdentityCatalog) (request : GrantOverrideRequest) (now : DateTime)

theorem grantOverride_split (emitFailure : Option String) :
    (grantOverride catalog request now emitFailure : Call mint OverrideBinding) = do
      let binding ← grantOverride catalog request now none
      awaitEmitter emitFailure
      return binding := by
  funext store
  rw [Stateful.bind_apply, grantOverride, grantOverride]
  cases checkGrant catalog request with
  | error failure => rfl
  | ok => rfl

theorem grantOverride_emitsLast :
    EmitsLast (grantOverride catalog request now : Option String → Call mint OverrideBinding) := by
  apply emitsLast_of_split (grantOverride_split catalog request now)
  intro store failure after ran
  rw [grantOverride] at ran
  cases checked : checkGrant catalog request with
  | error early =>
    rw [checked] at ran
    obtain ⟨rfl, rfl⟩ := EStateM.Result.error.inj ran
    exact ⟨rfl, fun detail same => checkGrant_checksOnly catalog request detail (checked.trans (congrArg _ same))⟩
  | ok =>
    rw [checked] at ran
    cases ran

end OverrideStore

/-! ## Receipts -/

/-- `CapabilityIssuedPayload`. -/
structure CapabilityIssuedPayload where
  capabilityId : CapabilityId
  class' : CapabilityClass
  issuedTo : SubjectRef
  issuedAt : DateTime
  expiresAt : Option DateTime
deriving DecidableEq

/-- `OverrideGrantedPayload`. -/
structure OverrideGrantedPayload where
  bindingId : String
  class' : OverrideClass
  grantedBy : List SubjectRef
  targetActionId : Option String
  grantedAt : DateTime
  expiresAt : DateTime
deriving DecidableEq

/-- The receipts of what is issued: `VAULT_CAPABILITY_ISSUED` and `OVERRIDE_GRANTED`. -/
inductive IssuanceReceipt where
  | capabilityIssued (payload : CapabilityIssuedPayload)
  | overrideGranted (payload : OverrideGrantedPayload)
deriving DecidableEq

def emitCapabilityIssued (capability : VaultCapability) : IssuanceReceipt :=
  .capabilityIssued
    { capabilityId := capability.capabilityId
      class' := capability.class'
      issuedTo := capability.issuedTo
      issuedAt := capability.issuedAt
      expiresAt := capability.expiresAt }

def emitOverrideGranted (binding : OverrideBinding) : IssuanceReceipt :=
  .overrideGranted
    { bindingId := binding.bindingId
      class' := binding.class'
      grantedBy := binding.grantedBy
      targetActionId := binding.targetActionId
      grantedAt := binding.grantedAt
      expiresAt := binding.expiresAt }

/-- The state of a capability is not in its receipt. -/
@[simp] theorem emitCapabilityIssued_setState (state : CapabilityState) (held : VaultCapability × KeyMaterial) :
    emitCapabilityIssued (VaultStore.setState state held).1 = emitCapabilityIssued held.1 := rfl

@[simp] theorem emitOverrideGranted_setState (state : OverrideBindingState) (binding : OverrideBinding) :
    emitOverrideGranted (OverrideStore.setState state binding) = emitOverrideGranted binding := rfl

/-- An emission under way, with the failure it will meet if it fails. -/
structure Emission where
  receipt : IssuanceReceipt
  emitFailure : Option String
deriving DecidableEq

/-- The emission that a request goes on to when its section has issued a capability. -/
def VaultStore.emissions {mint : ℕ ↪ CapabilityId} (store : VaultStore mint) : VaultOp → List Emission
  | .issueCapability request now generated emitFailure =>
    match VaultStore.issueCapability request now generated none store with
    | .ok capability _ => [⟨emitCapabilityIssued capability, emitFailure⟩]
    | .error .. => []
  | _ => []

def OverrideStore.emissions {mint : ℕ ↪ String} (catalog : IdentityCatalog) (store : OverrideStore mint) :
    OverrideOp → List Emission
  | .grantOverride request now emitFailure =>
    match OverrideStore.grantOverride catalog request now none store with
    | .ok binding _ => [⟨emitOverrideGranted binding, emitFailure⟩]
    | .error .. => []
  | _ => []

/-- A capability that is new after a section has its emission under way. -/
theorem VaultStore.emissions_of_new {mint : ℕ ↪ CapabilityId} {store : VaultStore mint} {capabilityId : CapabilityId}
    (absent : store.lookup capabilityId = none) {crypto : Crypto} {op : VaultOp} {held : VaultCapability × KeyMaterial}
    (stored : (VaultStore.step crypto store op).lookup capabilityId = some held) :
    ∃ emission ∈ VaultStore.emissions store op, emission.receipt = emitCapabilityIssued held.1 := by
  obtain ⟨request, now, generated, emitFailure, rfl, -⟩ := VaultStore.step_lookup_new absent stored
  rw [VaultStore.step, VaultStore.call, Stateful.finalState_discard, VaultStore.issueCapability] at stored
  rw [VaultStore.emissions, VaultStore.issueCapability]
  cases checked : validateKeyAlgorithmForClass request.class' request.keyAlgorithm with
  | error failure =>
    rw [checked] at stored
    exact absurd (stored.symm.trans absent) (by simp)
  | ok =>
    rw [checked] at stored
    dsimp only at stored
    rw [Stateful.get_bind_apply, Stateful.modify_bind_apply, finalState_emit_return, Ledger.lookup_add,
      absent] at stored
    split at stored
    · obtain rfl := Option.some.inj stored
      exact ⟨_, List.mem_singleton_self _, rfl⟩
    · cases stored

/-- A binding that is new after a section has its emission under way. -/
theorem OverrideStore.emissions_of_new {mint : ℕ ↪ String} {store : OverrideStore mint} {bindingId : String}
    (absent : store.lookup bindingId = none) {catalog : IdentityCatalog} {op : OverrideOp} {binding : OverrideBinding}
    (stored : (OverrideStore.step catalog store op).lookup bindingId = some binding) :
    ∃ emission ∈ OverrideStore.emissions catalog store op, emission.receipt = emitOverrideGranted binding := by
  obtain ⟨request, now, emitFailure, rfl, passed, -⟩ := OverrideStore.step_lookup_new absent stored
  rw [OverrideStore.step_grantOverride passed, Ledger.lookup_add, absent] at stored
  rw [OverrideStore.emissions, OverrideStore.grantOverride, passed]
  split at stored
  · obtain rfl := Option.some.inj stored
    exact ⟨_, List.mem_singleton_self _, rfl⟩
  · cases stored

/-! ## Interleavings of the sections and the emissions -/

/-- The two stores and the log: emissions under way, receipts recorded, and the receipts whose emission
failed, each with the error its caller was given. -/
structure Brokers (capabilityMint : ℕ ↪ CapabilityId) (bindingMint : ℕ ↪ String) where
  vault : VaultStore capabilityMint
  overrides : OverrideStore bindingMint
  waiting : List Emission
  recorded : List IssuanceReceipt
  failed : List (IssuanceReceipt × VaultError)

/-- A section of a request, or the end of one of the emissions under way. -/
inductive BrokerEvent where
  | vaultSection (op : VaultOp)
  | overrideSection (op : OverrideOp)
  | emissionEnds (position : ℕ)

namespace Brokers

variable {capabilityMint : ℕ ↪ CapabilityId} {bindingMint : ℕ ↪ String} {crypto : Crypto} {catalog : IdentityCatalog}
  {brokers : Brokers capabilityMint bindingMint}

section

variable {receipt : IssuanceReceipt} {more : List Emission}

def empty (capabilityMint : ℕ ↪ CapabilityId) (bindingMint : ℕ ↪ String) : Brokers capabilityMint bindingMint where
  vault := Ledger.empty capabilityMint _
  overrides := Ledger.empty bindingMint _
  waiting := []
  recorded := []
  failed := []

/-- The emission is no longer awaited: its receipt is in the log, or its caller has the error. -/
def endEmission (brokers : Brokers capabilityMint bindingMint) (position : ℕ) : Brokers capabilityMint bindingMint :=
  match brokers.waiting[position]? with
  | none => brokers
  | some emission =>
    let waiting := brokers.waiting.eraseIdx position
    match Stateful.outcome id (awaitEmitter emission.emitFailure ()) with
    | .ok () => { brokers with waiting, recorded := brokers.recorded ++ [emission.receipt] }
    | .error failure => { brokers with waiting, failed := brokers.failed ++ [(emission.receipt, failure)] }

def step (crypto : Crypto) (catalog : IdentityCatalog) (brokers : Brokers capabilityMint bindingMint) :
    BrokerEvent → Brokers capabilityMint bindingMint
  | .vaultSection op =>
    { brokers with
      vault := VaultStore.step crypto brokers.vault op
      waiting := brokers.waiting ++ VaultStore.emissions brokers.vault op }
  | .overrideSection op =>
    { brokers with
      overrides := OverrideStore.step catalog brokers.overrides op
      waiting := brokers.waiting ++ OverrideStore.emissions catalog brokers.overrides op }
  | .emissionEnds position => brokers.endEmission position

def runFrom (crypto : Crypto) (catalog : IdentityCatalog) (start : Brokers capabilityMint bindingMint)
    (events : List BrokerEvent) : Brokers capabilityMint bindingMint :=
  StepRun.run (step crypto catalog) start events

/-! ## What is issued is accounted for -/

/-- The receipt is recorded, or its emission is under way, or it has failed and the caller was told. -/
def Accounted (brokers : Brokers capabilityMint bindingMint) (receipt : IssuanceReceipt) : Prop :=
  receipt ∈ brokers.recorded ∨ (∃ emission ∈ brokers.waiting, emission.receipt = receipt) ∨
    ∃ detail, (receipt, VaultError.evidenceEmitFailed detail) ∈ brokers.failed

/-- Every capability and every binding in the stores is accounted for, whatever its state. -/
structure EvidenceKept (brokers : Brokers capabilityMint bindingMint) : Prop where
  capabilities : ∀ capabilityId held, brokers.vault.lookup capabilityId = some held →
    brokers.Accounted (emitCapabilityIssued held.1)
  bindings : ∀ bindingId binding, brokers.overrides.lookup bindingId = some binding →
    brokers.Accounted (emitOverrideGranted binding)

theorem evidenceKept_empty : (empty capabilityMint bindingMint).EvidenceKept where
  capabilities _ _ stored := by
    rw [empty, Ledger.lookup_empty] at stored
    cases stored
  bindings _ _ stored := by
    rw [empty, Ledger.lookup_empty] at stored
    cases stored

/-- More emissions under way leave what is accounted for as it is. -/
theorem Accounted.await {after : Brokers capabilityMint bindingMint} (accounted : brokers.Accounted receipt)
    (recorded : after.recorded = brokers.recorded) (failed : after.failed = brokers.failed)
    (waiting : after.waiting = brokers.waiting ++ more) : after.Accounted receipt := by
  rw [Accounted, recorded, failed, waiting]
  obtain logged | ⟨emission, member, same⟩ | told := accounted
  · exact .inl logged
  · exact .inr (.inl ⟨emission, List.mem_append_left _ member, same⟩)
  · exact .inr (.inr told)

/-- The end of an emission loses no receipt. -/
theorem Accounted.endEmission (accounted : brokers.Accounted receipt) (position : ℕ) :
    (brokers.endEmission position).Accounted receipt := by
  rw [Brokers.endEmission]
  cases found : brokers.waiting[position]? with
  | none => exact accounted
  | some ended =>
    obtain ⟨ending, emitFailure⟩ := ended
    -- an emission that is still awaited is another one than the one that ends
    have still : (∃ emission ∈ brokers.waiting, emission.receipt = receipt) →
        ending = receipt ∨ ∃ emission ∈ brokers.waiting.eraseIdx position, emission.receipt = receipt := by
      rintro ⟨emission, member, same⟩
      obtain ⟨index, place⟩ := List.mem_iff_getElem?.mp member
      by_cases here : index = position
      · subst here
        obtain rfl := Option.some.inj (found.symm.trans place)
        exact .inl same
      · exact .inr ⟨emission, List.mem_eraseIdx_iff_getElem?.mpr ⟨index, here, place⟩, same⟩
    cases emitFailure with
    | none =>
      obtain logged | awaited | told := accounted
      · exact .inl (List.mem_append_left _ logged)
      · obtain rfl | awaited := still awaited
        · exact .inl (List.mem_append_right _ (List.mem_singleton_self _))
        · exact .inr (.inl awaited)
      · exact .inr (.inr told)
    | some detail =>
      obtain logged | awaited | ⟨earlier, told⟩ := accounted
      · exact .inl logged
      · obtain rfl | awaited := still awaited
        · exact .inr (.inr ⟨detail, List.mem_append_right _ (List.mem_singleton_self _)⟩)
        · exact .inr (.inl awaited)
      · exact .inr (.inr ⟨earlier, List.mem_append_left _ told⟩)

/-- However an emission ends, the stores stay as they are. -/
theorem endEmission_stores (brokers : Brokers capabilityMint bindingMint) (position : ℕ) :
    (brokers.endEmission position).vault = brokers.vault ∧
      (brokers.endEmission position).overrides = brokers.overrides := by
  rw [Brokers.endEmission]
  cases brokers.waiting[position]? with
  | none => exact ⟨rfl, rfl⟩
  | some emission =>
    obtain ⟨receipt, emitFailure⟩ := emission
    cases emitFailure with
    | none => exact ⟨rfl, rfl⟩
    | some detail => exact ⟨rfl, rfl⟩

/-- An emission that is now under way accounts for its receipt. -/
theorem accounted_of_emission {earlier : List Emission} (waiting : brokers.waiting = earlier ++ more)
    (issued : ∃ emission ∈ more, emission.receipt = receipt) : brokers.Accounted receipt := by
  obtain ⟨emission, member, same⟩ := issued
  refine .inr (.inl ⟨emission, ?_, same⟩)
  rw [waiting]
  exact List.mem_append_right _ member

theorem EvidenceKept.step (kept : brokers.EvidenceKept) (crypto : Crypto) (catalog : IdentityCatalog)
    (event : BrokerEvent) : (brokers.step crypto catalog event).EvidenceKept := by
  cases event with
  | vaultSection op =>
    refine ⟨fun capabilityId held stored => ?_, fun bindingId binding stored => ?_⟩
    · cases before : brokers.vault.lookup capabilityId with
      | none => exact accounted_of_emission rfl (VaultStore.emissions_of_new before stored)
      | some old =>
        have accounted : (brokers.step crypto catalog (.vaultSection op)).Accounted (emitCapabilityIssued old.1) :=
          (kept.capabilities capabilityId old before).await rfl rfl rfl
        obtain same | ⟨-, -, state, -, moved⟩ := VaultStore.step_lookup before crypto op
        · obtain rfl := Option.some.inj (same.symm.trans stored)
          exact accounted
        · obtain rfl := Option.some.inj (moved.symm.trans stored)
          rw [emitCapabilityIssued_setState]
          exact accounted
    · exact (kept.bindings bindingId binding stored).await rfl rfl rfl
  | overrideSection op =>
    refine ⟨fun capabilityId held stored => ?_, fun bindingId binding stored => ?_⟩
    · exact (kept.capabilities capabilityId held stored).await rfl rfl rfl
    · cases before : brokers.overrides.lookup bindingId with
      | none => exact accounted_of_emission rfl (OverrideStore.emissions_of_new before stored)
      | some old =>
        obtain ⟨state, moved, -⟩ := OverrideStore.step_lookup before catalog op
        obtain rfl := Option.some.inj (moved.symm.trans stored)
        rw [emitOverrideGranted_setState]
        exact (kept.bindings bindingId old before).await rfl rfl rfl
  | emissionEnds position =>
    refine ⟨fun capabilityId held stored => ?_, fun bindingId binding stored => ?_⟩
    · rw [Brokers.step, (endEmission_stores brokers position).1] at stored
      exact (kept.capabilities capabilityId held stored).endEmission position
    · rw [Brokers.step, (endEmission_stores brokers position).2] at stored
      exact (kept.bindings bindingId binding stored).endEmission position

theorem runFrom_evidenceKept (crypto : Crypto) (catalog : IdentityCatalog) (events : List BrokerEvent) :
    (runFrom crypto catalog (empty capabilityMint bindingMint) events).EvidenceKept :=
  StepRun.run_invariant EvidenceKept (fun _ event kept => kept.step crypto catalog event) evidenceKept_empty events

/-- What an error of a call says about the stores, and what every run says about what they hold: an
error before the emission leaves the store alone, an emission that fails leaves it as one that
succeeds, and everything issued has its receipt recorded, awaited, or reported as failed. -/
theorem authority_accountedFor (capabilityMint : ℕ ↪ CapabilityId) (bindingMint : ℕ ↪ String) (crypto : Crypto)
    (catalog : IdentityCatalog) :
    (∀ request now generated, EmitsLast (VaultStore.issueCapability request now generated :
      Option String → VaultStore.Call capabilityMint VaultCapability)) ∧
    (∀ capabilityId, EmitsLast (VaultStore.revokeCapability capabilityId :
      Option String → VaultStore.Call capabilityMint Unit)) ∧
    (∀ request now, EmitsLast (OverrideStore.grantOverride catalog request now :
      Option String → OverrideStore.Call bindingMint OverrideBinding)) ∧
    ∀ events, (runFrom crypto catalog (empty capabilityMint bindingMint) events).EvidenceKept :=
  ⟨VaultStore.issueCapability_emitsLast, VaultStore.revokeCapability_emitsLast,
    OverrideStore.grantOverride_emitsLast catalog, runFrom_evidenceKept crypto catalog⟩

/-- Primitives that are never reached. -/
def exampleCrypto : Crypto where
  encrypt _ _ _ _ := .error (.cryptoError "")
  decrypt _ _ _ := .error (.cryptoError "")
  macGenerate _ _ := .error (.cryptoError "")
  macVerify _ _ _ := .error (.cryptoError "")
  derive _ _ _ _ := .error (.cryptoError "")
  sign _ _ := .error (.cryptoError "")
  verify _ _ _ := .error (.cryptoError "")

end

open OverrideStore (exampleMint aliceCatalog)

def signingKeyRequest : IssueCapabilityRequest := ⟨.keySign, "family:alice", none, .ed25519, none⟩

def soloRequest : GrantOverrideRequest := ⟨.strongSolo, ["family:alice"], none, 10⟩

/-- An issuance and a grant that answer an error leave an active capability and a granted binding in
stores that were empty, and no receipt of either. -/
theorem failedEmission_leavesAuthority :
    (∃ after held, VaultStore.issueCapability signingKeyRequest 0 [] (some "log closed") (Ledger.empty exampleMint _) =
        .error (.evidenceEmitFailed "log closed") after ∧
      after.lookup "" = some held ∧ held.1.state = .active) ∧
    (∃ after binding, OverrideStore.grantOverride aliceCatalog soloRequest 0 (some "log closed")
        (Ledger.empty exampleMint _) = .error (.evidenceEmitFailed "log closed") after ∧
      after.lookup "" = some binding ∧ binding.state = .granted) ∧
    (runFrom exampleCrypto aliceCatalog (empty exampleMint exampleMint)
      [.vaultSection (.issueCapability signingKeyRequest 0 [] (some "log closed")), .emissionEnds 0,
        .overrideSection (.grantOverride soloRequest 0 (some "log closed")), .emissionEnds 0]).recorded = [] :=
  ⟨⟨_, _, rfl, rfl, rfl⟩, ⟨_, _, rfl, rfl, rfl⟩, by decide +kernel⟩

end Brokers

end Aios.Vault
