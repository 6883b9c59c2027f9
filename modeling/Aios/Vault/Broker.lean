import Aios.Lib.Ledger
import Aios.Lib.Run
import Aios.Lib.Stateful
import Aios.Rust.Basic

/-! # The vault broker

The embedding of `in_memory_broker.rs`, `broker.rs`, `capability.rs` and `lifecycle.rs`: capabilities
are issued, used, revoked and expired over one store, each request in one section under the store's
lock. What a request does after that section touches no capability. The cryptographic primitives are
a parameter; minted identifiers come from an injective supply, and the clock, the generated bytes and
the failure of an evidence emitter are arguments.
-/

namespace Aios.Vault

open Aios.Rust

section

variable {σ : Type} (emitFailure : Option String)

abbrev Bytes := List UInt8

/-- `SubjectRef`, the canonical subject string. -/
abbrev SubjectRef := String

abbrev CapabilityId := String

/-! ## Capabilities and keys -/

inductive CapabilityClass where
  | keySign
  | keyVerify
  | keyEncrypt
  | keyDecrypt
  | macGenerate
  | macVerify
  | randomGenerate
  | secretGet
  | bootstrapKeySign
deriving DecidableEq, Repr

inductive CapabilityState where
  | draft
  | active
  | expired
  | revoked
  | rotated
  | discarded
deriving DecidableEq, Repr

structure VaultCapability where
  capabilityId : CapabilityId
  class' : CapabilityClass
  issuedTo : SubjectRef
  issuedAt : DateTime
  expiresAt : Option DateTime
  state : CapabilityState
  keyMaterialHandle : String
deriving DecidableEq

inductive KeyAlgorithm where
  | aes256Gcm
  | hmacSha256
  | hkdfSha256
  | ed25519
  | x25519
deriving DecidableEq, Repr

structure KeyMaterial where
  algorithm : KeyAlgorithm
  createdAt : DateTime
  bytes : Bytes
deriving DecidableEq

/-! ## Operations and errors -/

inductive VaultOperation where
  | encrypt (plaintext aad : Bytes)
  | decrypt (ciphertext aad : Bytes)
  | macGenerate (message : Bytes)
  | macVerify (message tag : Bytes)
  | kdfDerive (info : Bytes) (length : ℕ)
  | sign (message : Bytes)
  | verify (message signature : Bytes)
  | randomGenerate (byteCount : ℕ)
  | secretGet (coSignerApprovalId : String)
deriving DecidableEq

def VaultOperation.operationKind : VaultOperation → String
  | .encrypt .. => "ENCRYPT"
  | .decrypt .. => "DECRYPT"
  | .macGenerate .. => "MAC_GENERATE"
  | .macVerify .. => "MAC_VERIFY"
  | .kdfDerive .. => "KDF_DERIVE"
  | .sign .. => "SIGN"
  | .verify .. => "VERIFY"
  | .randomGenerate .. => "RANDOM_GENERATE"
  | .secretGet .. => "SECRET_GET"

inductive UseCapabilityResult where
  | encrypted (ciphertext nonce aad : Bytes)
  | decrypted (plaintext : Bytes)
  | macGenerated (tag : Bytes)
  | macVerified (valid : Bool)
  | kdfDerived (derivedKeyHandle : String)
  | signed (signature : Bytes)
  | verified (valid : Bool)
  | randomGenerated (randomBytes : Bytes)
deriving DecidableEq

inductive OverrideClass where
  | strongSolo
  | dualHuman
  | tripleHuman
deriving DecidableEq, Repr

inductive VaultError where
  | capabilityNotFound (capabilityId : CapabilityId)
  | capabilityExpired (capabilityId : CapabilityId)
  | capabilityRevoked (capabilityId : CapabilityId)
  | subjectNotFound (canonicalId : String)
  | overrideBindingNotFound (bindingId : String)
  | overrideAlreadyConsumed
  | overrideRequiresHumanApprovers (class' : OverrideClass) (foundNonHuman : List String)
  | aiCannotGrantOverride (canonicalSubjectId : String)
  | overrideClassApproverCountMismatch (class' : OverrideClass) (expected found : ℕ)
  | overrideExpired (bindingId : String)
  | invalidTransition (source target : CapabilityState)
  | operationClassMismatch (capabilityClass : CapabilityClass) (operationKind : String)
  | operationUnsupportedInT049 (operation : VaultOperation)
  | keyAlgorithmMismatch (expected found : KeyAlgorithm)
  | cryptoError (detail : String)
  | evidenceEmitFailed (detail : String)
  | internal (detail : String)
deriving DecidableEq

/-- The primitives of `crypto`; `entropy` stands for what the operating system's generator returns. -/
structure Crypto where
  encrypt : (key plaintext aad entropy : Bytes) → Except VaultError (Bytes × Bytes)
  decrypt : (key ciphertext aad : Bytes) → Except VaultError Bytes
  macGenerate : (key message : Bytes) → Except VaultError Bytes
  macVerify : (key message tag : Bytes) → Except VaultError Bool
  derive : (key info : Bytes) → (length : ℕ) → (entropy : Bytes) → Except VaultError String
  sign : (key message : Bytes) → Except VaultError Bytes
  verify : (key message signature : Bytes) → Except VaultError Bool

/-! ## Classes, algorithms and operations -/

def operationMatchesClass (capabilityClass : CapabilityClass) (operation : VaultOperation) : Bool :=
  match capabilityClass, operation with
  | .keySign, .sign .. | .bootstrapKeySign, .sign .. => true
  | .keyVerify, .verify .. => true
  | .keyEncrypt, .encrypt .. => true
  | .keyDecrypt, .decrypt .. => true
  | .macGenerate, .macGenerate .. => true
  | .macVerify, .macVerify .. => true
  | .randomGenerate, .randomGenerate .. => true
  | .secretGet, .secretGet .. => true
  | _, _ => false

def operationMatchesT049Extension (capabilityClass : CapabilityClass) (operation : VaultOperation) : Bool :=
  match capabilityClass, operation with
  | .keyEncrypt, .kdfDerive .. => true
  | _, _ => false

def expectAlgorithm (expected found : KeyAlgorithm) : Except VaultError Unit :=
  if expected = found then .ok () else .error (.keyAlgorithmMismatch expected found)

def validateKeyAlgorithmForClass (class' : CapabilityClass) (found : KeyAlgorithm) : Except VaultError Unit :=
  match class' with
  | .keySign | .keyVerify | .bootstrapKeySign => expectAlgorithm .ed25519 found
  | .keyEncrypt | .keyDecrypt =>
    if found = .aes256Gcm ∨ found = .hkdfSha256 ∨ found = .x25519 then .ok () else expectAlgorithm .aes256Gcm found
  | .macGenerate | .macVerify => expectAlgorithm .hmacSha256 found
  | .randomGenerate | .secretGet => .ok ()

/-- What a use does with the key once it has been checked. -/
def executeOperation (crypto : Crypto) (keyMaterial : KeyMaterial) (operation : VaultOperation) (entropy : Bytes) :
    Except VaultError UseCapabilityResult :=
  match operation with
  | .encrypt plaintext aad =>
    if keyMaterial.algorithm = .aes256Gcm then do
      let (ciphertext, nonce) ← crypto.encrypt keyMaterial.bytes plaintext aad entropy
      return .encrypted ciphertext nonce aad
    else .error (.operationUnsupportedInT049 operation)
  | .decrypt ciphertext aad =>
    if keyMaterial.algorithm = .aes256Gcm then .decrypted <$> crypto.decrypt keyMaterial.bytes ciphertext aad
    else .error (.operationUnsupportedInT049 operation)
  | .macGenerate message =>
    if keyMaterial.algorithm = .hmacSha256 then .macGenerated <$> crypto.macGenerate keyMaterial.bytes message
    else .error (.operationUnsupportedInT049 operation)
  | .macVerify message tag =>
    if keyMaterial.algorithm = .hmacSha256 then .macVerified <$> crypto.macVerify keyMaterial.bytes message tag
    else .error (.operationUnsupportedInT049 operation)
  | .kdfDerive info length =>
    if keyMaterial.algorithm = .hkdfSha256 then .kdfDerived <$> crypto.derive keyMaterial.bytes info length entropy
    else .error (.keyAlgorithmMismatch .hkdfSha256 keyMaterial.algorithm)
  | .sign message =>
    if keyMaterial.algorithm = .ed25519 then .signed <$> crypto.sign keyMaterial.bytes message
    else .error (.operationUnsupportedInT049 operation)
  | .verify message signature =>
    if keyMaterial.algorithm = .ed25519 then .verified <$> crypto.verify keyMaterial.bytes message signature
    else .error (.operationUnsupportedInT049 operation)
  | .randomGenerate byteCount => .ok (.randomGenerated (entropy.take byteCount))
  | .secretGet _ => .error (.operationUnsupportedInT049 operation)

/-- The last thing a request waits for is an evidence emitter, which may fail. -/
def awaitEmitter (emitFailure : Option String) : EStateM VaultError σ Unit :=
  match emitFailure with
  | none => return ()
  | some detail => throw (.evidenceEmitFailed detail)

theorem finalState_awaitEmitter (state : σ) : Stateful.finalState (awaitEmitter emitFailure state) = state := by
  cases emitFailure with
  | none => rfl
  | some detail => rfl

/-- Waiting for the emitter and returning leaves the state as it is. -/
theorem finalState_emit_return {α : Type} (value : α) (state : σ) :
    Stateful.finalState ((do awaitEmitter emitFailure; return value : EStateM VaultError σ α) state) = state := by
  cases emitFailure with
  | none => rfl
  | some detail => rfl

/-! ## The broker and the lifecycle driver -/

structure IssueCapabilityRequest where
  class' : CapabilityClass
  issuedTo : SubjectRef
  expiresAt : Option DateTime
  keyAlgorithm : KeyAlgorithm
  keyMaterialBytes : Option Bytes

/-- The store: a capability with its key under each minted identifier. -/
abbrev VaultStore (mint : ℕ ↪ CapabilityId) := Ledger mint (VaultCapability × KeyMaterial)

end

namespace VaultStore

variable {mint : ℕ ↪ CapabilityId}

/-- A request: a value or an error. -/
abbrev Call (mint : ℕ ↪ CapabilityId) (α : Type) := EStateM VaultError (VaultStore mint) α

def setState (state : CapabilityState) (held : VaultCapability × KeyMaterial) : VaultCapability × KeyMaterial :=
  ({ held.1 with state }, held.2)

def issueCapability (request : IssueCapabilityRequest) (now : DateTime) (generated : Bytes)
    (emitFailure : Option String) : Call mint VaultCapability := do
  match validateKeyAlgorithmForClass request.class' request.keyAlgorithm with
  | .error failure => throw failure
  | .ok () =>
    let capabilityId := (← get).nextKey
    let capability : VaultCapability :=
      { capabilityId := capabilityId
        class' := request.class'
        issuedTo := request.issuedTo
        issuedAt := now
        expiresAt := request.expiresAt
        state := .active
        keyMaterialHandle := "vault-internal:" ++ capabilityId }
    let keyMaterial : KeyMaterial :=
      { algorithm := request.keyAlgorithm
        createdAt := now
        bytes := request.keyMaterialBytes.getD generated }
    modify fun (store : VaultStore mint) => store.add (capability, keyMaterial)
    awaitEmitter emitFailure
    return capability

/-- `expires_at.is_some_and(|expires_at| expires_at < now)`. -/
def isDue (capability : VaultCapability) (now : DateTime) : Bool := capability.expiresAt.any (· < now)

/-- The section of `use_capability` under the lock: the key comes out only after every check. -/
def checkUse (capabilityId : CapabilityId) (operation : VaultOperation) (now : DateTime) : Call mint KeyMaterial := do
  match (← get).lookup capabilityId with
  | none => throw (.capabilityNotFound capabilityId)
  | some (capability, keyMaterial) =>
    match capability.state with
    | .active =>
      if isDue capability now then
        modify fun (store : VaultStore mint) => store.modify capabilityId (setState .expired)
        throw (.capabilityExpired capabilityId)
      if !operationMatchesClass capability.class' operation &&
          !operationMatchesT049Extension capability.class' operation then
        throw (.operationClassMismatch capability.class' operation.operationKind)
      return keyMaterial
    | .expired => throw (.capabilityExpired capabilityId)
    | .revoked => throw (.capabilityRevoked capabilityId)
    | state => throw (.invalidTransition state .active)

def useCapability (crypto : Crypto) (capabilityId : CapabilityId) (operation : VaultOperation) (now : DateTime)
    (entropy : Bytes) (emitFailure : Option String) : Call mint UseCapabilityResult := do
  let keyMaterial ← checkUse capabilityId operation now
  match executeOperation crypto keyMaterial operation entropy with
  | .error failure => throw failure
  | .ok result =>
    awaitEmitter emitFailure
    return result

/-- What `revoke_capability` and `expire_capability` share: only an active capability moves. -/
def endCapability (capabilityId : CapabilityId) (target : CapabilityState) : Call mint Unit := do
  match (← get).lookup capabilityId with
  | none => throw (.capabilityNotFound capabilityId)
  | some (capability, _) =>
    if capability.state ≠ .active then throw (.invalidTransition capability.state target)
    modify fun (store : VaultStore mint) => store.modify capabilityId (setState target)

def revokeCapability (capabilityId : CapabilityId) (emitFailure : Option String) : Call mint Unit := do
  endCapability capabilityId .revoked
  awaitEmitter emitFailure

def expireCapability (capabilityId : CapabilityId) (emitFailure : Option String) : Call mint Unit := do
  endCapability capabilityId .expired
  awaitEmitter emitFailure

/-- An active capability past its expiry is expired by a pass. -/
def expireIfDue (now : DateTime) (held : VaultCapability × KeyMaterial) : VaultCapability × KeyMaterial :=
  if held.1.state = .active ∧ isDue held.1 now = true then setState .expired held else held

/-- The pass returns how many capabilities it has inspected and expired. -/
def runExpirationPass (now : DateTime) (emitFailure : Option String) : Call mint (ℕ × ℕ) := do
  let store ← get
  let expired := store.records.count fun _ held => decide (held.1.state = .active) && isDue held.1 now
  modify fun (store : VaultStore mint) => store.rewrite fun _ => expireIfDue now
  awaitEmitter emitFailure
  return (store.records.entries.length, expired)

end VaultStore

/-! ## Interleavings of the locked sections -/

inductive VaultOp where
  | issueCapability (request : IssueCapabilityRequest) (now : DateTime) (generated : Bytes)
    (emitFailure : Option String)
  | useCapability (capabilityId : CapabilityId) (operation : VaultOperation) (now : DateTime) (entropy : Bytes)
    (emitFailure : Option String)
  | revokeCapability (capabilityId : CapabilityId) (emitFailure : Option String)
  | expireCapability (capabilityId : CapabilityId) (emitFailure : Option String)
  | runExpirationPass (now : DateTime) (emitFailure : Option String)

namespace VaultStore

variable {mint : ℕ ↪ CapabilityId}

def call (crypto : Crypto) : VaultOp → Call mint Unit
  | .issueCapability request now generated emitFailure => do let _ ← issueCapability request now generated emitFailure
  | .useCapability capabilityId operation now entropy emitFailure => do
    let _ ← useCapability crypto capabilityId operation now entropy emitFailure
  | .revokeCapability capabilityId emitFailure => revokeCapability capabilityId emitFailure
  | .expireCapability capabilityId emitFailure => expireCapability capabilityId emitFailure
  | .runExpirationPass now emitFailure => do let _ ← runExpirationPass now emitFailure

def step (crypto : Crypto) (store : VaultStore mint) (op : VaultOp) : VaultStore mint :=
  Stateful.finalState (call crypto op store)

/-- The store after the sections of a sequence of requests, by any clients and at any clocks. -/
def runFrom (crypto : Crypto) (start : VaultStore mint) (ops : List VaultOp) : VaultStore mint :=
  StepRun.run (step crypto) start ops

end VaultStore

end Aios.Vault
