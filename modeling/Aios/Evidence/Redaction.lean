import Aios.Evidence.Codec
import Aios.Evidence.RecordType
import Mathlib.Data.List.Forall2

/-! # Redaction

The profiles and the key patterns of `redaction.rs`. A payload is redacted before it is hashed, so that no
receipt witnesses the raw form. Both kinds of treatment walk the tree and replace the values of the keys they
match.
-/

namespace Aios.Evidence

open Aios.Rust

def REDACTED_SENTINEL : String := "<redacted>"

inductive RedactionProfile where
  | default
  | strict
  | debugCapture
deriving DecidableEq, Repr

def RedactionProfile.asWireStr : RedactionProfile → String
  | default => "default"
  | strict => "strict"
  | debugCapture => "debug_capture"

theorem RedactionProfile.asWireStr_injective : Function.Injective RedactionProfile.asWireStr := by
  intro first second same
  cases first <;> cases second <;> simp [asWireStr] at same ⊢

inductive RecordCategory where
  | lifecycle
  | vault
  | recovery
  | telemetry
  | segment
  | generic
deriving DecidableEq, Repr

def recordCategory (rt : RecordType) : RecordCategory :=
  let name := rt.asWireStr
  let startsWithAny (starts : List String) : Bool := starts.any (startsWith name)
  if startsWithAny ["VAULT_", "SUBJECT_KIND_"] then .vault
  else if startsWithAny ["RECOVERY_", "TAMPER_", "CHAIN_INCONSISTENCY", "RECEIPT_FORGERY", "RECEIPT_INTEGRITY",
      "RECEIPT_LINEAGE", "RECEIPT_SEQUENCE"] || name == "RECOVERY_EVENT" then .recovery
  else if startsWithAny ["TELEMETRY_", "OBSERVABILITY_"] then .telemetry
  else if startsWithAny ["SEGMENT_", "CHAIN_CHECKPOINT"] ||
      ["GC_PASS", "QUARANTINE_EVENT", "CONFLICT_EVENT"].contains name then .segment
  else if ["ACTION_RECEIVED", "TRANSLATION_CREATED", "ROUTING_DECISION", "POLICY_DECISION", "APPROVAL_REQUESTED",
      "APPROVAL_GRANTED", "APPROVAL_DENIED", "EXECUTION_STARTED", "EXECUTION_COMPLETED", "VERIFICATION_RESULT",
      "ROLLBACK_COMPLETED", "MODEL_CALL", "EMERGENCY_OVERRIDE_GRANT", "POLICY_BUNDLE_LOAD"].contains name ||
      startsWithAny ["EXECUTION_", "APPROVAL_", "MODEL_", "POLICY_"] then .lifecycle
  else .generic

def SECRET_KEY_PATTERNS : List String :=
  ["password", "passwd", "secret", "token", "api_key", "apikey", "private_key", "privatekey", "raw_payload",
   "raw_prompt", "credentials", "bearer", "authorization", "session_key", "client_secret"]

def PII_KEY_PATTERNS : List String :=
  ["user", "email", "phone", "address", "ip", "hostname", "device_id", "operator", "subject", "actor", "principal",
   "username", "account", "owner"]

variable (codec : Codec)

/-- The loop of `normalize_key`: lowercase, with an underscore for `-`, ` ` and `.` and at each camelCase
boundary. -/
def normalizeChars (prevWasLower : Bool) : List Char → List Char
  | [] => []
  | c :: rest =>
    if c = '-' ∨ c = ' ' ∨ c = '.' then '_' :: normalizeChars false rest
    else if c.isUpper then
      (if prevWasLower then ['_'] else []) ++ codec.toLowercase c ++ normalizeChars false rest
    else codec.toLowercase c ++ normalizeChars c.isLower rest

def normalizeKey (k : String) : String := String.ofList (normalizeChars codec false k.toList)

/-- `k_norm.contains(p)` for one of the patterns. -/
def matchesKey (patterns : List String) (k : String) : Bool :=
  patterns.any fun pattern => (normalizeKey codec k).toList.tails.any pattern.toList.isPrefixOf

section

variable (replace : String → Json → Option Json)

mutual

/-- Replace the values of the keys that are matched, everywhere in a tree. -/
def mapKeys : Json → Json
  | .object fields => .object (mapKeysOfFields fields)
  | .array items => .array (mapKeysOfItems items)
  | value => value

def mapKeysOfItems : List Json → List Json
  | [] => []
  | item :: rest => mapKeys item :: mapKeysOfItems rest

def mapKeysOfFields : List (String × Json) → List (String × Json)
  | [] => []
  | (key, value) :: rest => (key, (replace key value).getD (mapKeys value)) :: mapKeysOfFields rest

end

end

def redactKeys (patterns : List String) : Json → Json :=
  mapKeys fun key _ => if matchesKey codec patterns key then some (.string REDACTED_SENTINEL) else none

def hashPiiKeys : Json → Json :=
  mapKeys fun key value =>
    if matchesKey codec PII_KEY_PATTERNS key then
      match jcsCanonicalize codec value with
      | .ok canonical => some (.string ("hash:" ++ blake3Truncated codec canonical))
      | .error _ => some (.string REDACTED_SENTINEL)
    else none

/-- The fields in the order of `serde_json::Map`, which sorts its keys. -/
def reduceToStructuralMarker (recordType : RecordType) (stripped : Json) : Except EvidenceError Json := do
  let canonical ← jcsCanonicalize codec stripped
  pure (.object
    [("payload_hash_prefix", .string (blake3Truncated codec canonical)),
     ("record_type", .string recordType.asWireStr),
     ("redacted_under_profile", .string RedactionProfile.strict.asWireStr)])

def applyStrict (recordType : RecordType) (payload : Json) : Except EvidenceError Json :=
  let stripped := redactKeys codec SECRET_KEY_PATTERNS payload
  match recordCategory recordType with
  | .lifecycle | .telemetry | .generic => reduceToStructuralMarker codec recordType stripped
  | .vault => .ok (hashPiiKeys codec stripped)
  | .recovery | .segment => .ok stripped

def applyRedaction (profile : RedactionProfile) (recordType : RecordType) (payload : Json) :
    Except EvidenceError Json :=
  match profile with
  | .default | .debugCapture => .ok (redactKeys codec SECRET_KEY_PATTERNS payload)
  | .strict => applyStrict codec recordType payload

end Aios.Evidence

/-! ## What redaction hides

Two payloads that differ in the values of secret keys alone are redacted to the same payload, whatever the profile and
the record type: the scan for secrets comes first, and it tells apart nothing but payloads that differ elsewhere.
-/

namespace Aios.Evidence

open Aios.Rust

mutual

/-- Two values that differ only in what is stored under hidden keys, at any depth. -/
inductive AgreeApart (hidden : String → Prop) : Json → Json → Prop
  | same (value : Json) : AgreeApart hidden value value
  | array {items items' : List Json} (each : List.Forall₂ (AgreeApart hidden) items items') :
    AgreeApart hidden (.array items) (.array items')
  | object {fields fields' : List (String × Json)} (each : List.Forall₂ (FieldsAgree hidden) fields fields') :
    AgreeApart hidden (.object fields) (.object fields')

inductive FieldsAgree (hidden : String → Prop) : String × Json → String × Json → Prop
  | hidden {key : String} (secret : hidden key) (value value' : Json) : FieldsAgree hidden (key, value) (key, value')
  | shown (key : String) {value value' : Json} (agree : AgreeApart hidden value value') :
    FieldsAgree hidden (key, value) (key, value')

end

/-- The two payloads differ only in values stored under keys that match a secret pattern. -/
def DifferInSecrets (codec : Codec) (payload payload' : Json) : Prop :=
  AgreeApart (fun key => matchesKey codec SECRET_KEY_PATTERNS key = true) payload payload'

/-! ### The scan as a map -/

theorem mapKeysOfItems_eq_map (replace : String → Json → Option Json) (items : List Json) :
    mapKeysOfItems replace items = items.map (mapKeys replace) := by
  induction items with
  | nil => rfl
  | cons item rest ih => rw [mapKeysOfItems, ih, List.map_cons]

theorem mapKeysOfFields_eq_map (replace : String → Json → Option Json) (fields : List (String × Json)) :
    mapKeysOfFields replace fields =
      fields.map fun field => (field.1, (replace field.1 field.2).getD (mapKeys replace field.2)) := by
  induction fields with
  | nil => rfl
  | cons field rest ih => rw [mapKeysOfFields, ih, List.map_cons]

variable {codec : Codec} {patterns : List String}

variable {α β : Type} {payload payload' : Json} {first : List α}

/-- What the scan makes of a field. -/
def redactField (codec : Codec) (patterns : List String) (field : String × Json) : String × Json :=
  (field.1, if matchesKey codec patterns field.1 then .string REDACTED_SENTINEL else redactKeys codec patterns field.2)

theorem redactKeys_array (items : List Json) :
    redactKeys codec patterns (.array items) = .array (items.map (redactKeys codec patterns)) := by
  rw [redactKeys, mapKeys, mapKeysOfItems_eq_map]

theorem redactKeys_object (fields : List (String × Json)) :
    redactKeys codec patterns (.object fields) = .object (fields.map (redactField codec patterns)) := by
  rw [redactKeys, mapKeys, mapKeysOfFields_eq_map]
  congr 2
  funext field
  rw [redactField, redactKeys]
  cases matchesKey codec patterns field.1 <;> rfl

/-! ### Noninterference -/

theorem forall₂_congr_of_mem {R S : α → β → Prop} {second : List β}
    (same : ∀ left ∈ first, ∀ right, R left right ↔ S left right) :
    List.Forall₂ R first second ↔ List.Forall₂ S first second := by
  induction first generalizing second with
  | nil => rw [List.forall₂_nil_left_iff, List.forall₂_nil_left_iff]
  | cons left rest ih =>
    simp only [List.forall₂_cons_left_iff, same left List.mem_cons_self,
      ih fun other inside => same other (List.mem_cons_of_mem _ inside)]

theorem map_eq_map_iff_forall₂ {f : α → β} {second : List α} :
    first.map f = second.map f ↔ List.Forall₂ (fun left right => f left = f right) first second := by
  rw [← List.forall₂_eq_eq_eq, List.forall₂_map_left_iff, List.forall₂_map_right_iff]

/-- A value without parts is told apart from every other. -/
theorem redactKeys_eq_iff_of_leaf (array : ∀ items, payload ≠ .array items)
    (object : ∀ fields, payload ≠ .object fields) :
    redactKeys codec patterns payload = redactKeys codec patterns payload' ↔
      AgreeApart (fun key => matchesKey codec patterns key = true) payload payload' := by
  have kept : redactKeys codec patterns payload = payload := by
    cases payload with
    | array items => exact absurd rfl (array items)
    | object fields => exact absurd rfl (object fields)
    | _ => rfl
  rw [kept]
  constructor
  · intro same
    suffices payload = payload' from this ▸ .same payload
    cases payload' with
    | array items => exact absurd (same.trans (redactKeys_array items)) (array _)
    | object fields => exact absurd (same.trans (redactKeys_object fields)) (object _)
    | _ => exact same
  · intro agree
    cases agree with
    | same value => exact kept.symm
    | array each => exact absurd rfl (array _)
    | object each => exact absurd rfl (object _)

/-- The scan makes the same of two fields exactly if they agree, where it does so for their values. -/
theorem redactField_eq_iff {field field' : String × Json}
    (values : redactKeys codec patterns field.2 = redactKeys codec patterns field'.2 ↔
      AgreeApart (fun key => matchesKey codec patterns key = true) field.2 field'.2) :
    redactField codec patterns field = redactField codec patterns field' ↔
      FieldsAgree (fun key => matchesKey codec patterns key = true) field field' := by
  obtain ⟨key, value⟩ := field
  obtain ⟨key', value'⟩ := field'
  rw [redactField, redactField, Prod.mk.injEq]
  constructor
  · rintro ⟨rfl, same⟩
    by_cases secret : matchesKey codec patterns key = true
    · exact .hidden secret value value'
    · rw [if_neg secret, if_neg secret] at same
      exact .shown key (values.mp same)
  · intro agree
    cases agree with
    | hidden secret => exact ⟨rfl, by rw [if_pos secret, if_pos secret]⟩
    | shown _ agree => exact ⟨rfl, by rw [values.mpr agree]⟩

/-- The scan makes the same of two payloads exactly if they agree apart from the values of the keys it matches. -/
theorem redactKeys_eq_iff :
    redactKeys codec patterns payload = redactKeys codec patterns payload' ↔
      AgreeApart (fun key => matchesKey codec patterns key = true) payload payload' := by
  induction payload using Json.forall_tree generalizing payload' with
  | null => exact redactKeys_eq_iff_of_leaf nofun nofun
  | bool value => exact redactKeys_eq_iff_of_leaf nofun nofun
  | number literal => exact redactKeys_eq_iff_of_leaf nofun nofun
  | string value => exact redactKeys_eq_iff_of_leaf nofun nofun
  | array items ih =>
    have each (items' : List Json) : items.map (redactKeys codec patterns) = items'.map (redactKeys codec patterns) ↔
        List.Forall₂ (AgreeApart fun key => matchesKey codec patterns key = true) items items' :=
      map_eq_map_iff_forall₂.trans (forall₂_congr_of_mem fun item inside _ => ih item inside)
    rw [redactKeys_array]
    constructor
    · intro same
      cases payload' with
      | array items' =>
        rw [redactKeys_array, Json.array.injEq] at same
        exact .array ((each items').mp same)
      | object fields => exact absurd (same.trans (redactKeys_object fields)) nofun
      | _ => cases same
    · intro agree
      cases agree with
      | same value => rw [redactKeys_array]
      | array agree => rw [redactKeys_array, (each _).mpr agree]
  | object fields ih =>
    have each (fields' : List (String × Json)) :
        fields.map (redactField codec patterns) = fields'.map (redactField codec patterns) ↔
        List.Forall₂ (FieldsAgree fun key => matchesKey codec patterns key = true) fields fields' :=
      map_eq_map_iff_forall₂.trans
        (forall₂_congr_of_mem fun field inside _ => redactField_eq_iff (ih field.1 field.2 inside))
    rw [redactKeys_object]
    constructor
    · intro same
      cases payload' with
      | array items => exact absurd (same.trans (redactKeys_array items)) nofun
      | object fields' =>
        rw [redactKeys_object, Json.object.injEq] at same
        exact .object ((each fields').mp same)
      | _ => cases same
    · intro agree
      cases agree with
      | same value => rw [redactKeys_object]
      | object agree => rw [redactKeys_object, (each _).mpr agree]

/-- Payloads that differ in secrets alone are redacted to the same payload, or fail alike. -/
theorem applyRedaction_noninterference (codec : Codec) (profile : RedactionProfile) (recordType : RecordType)
    {payload payload' : Json} (differ : DifferInSecrets codec payload payload') :
    applyRedaction codec profile recordType payload = applyRedaction codec profile recordType payload' := by
  have stripped : redactKeys codec SECRET_KEY_PATTERNS payload = redactKeys codec SECRET_KEY_PATTERNS payload' :=
    redactKeys_eq_iff.mpr differ
  cases profile with
  | default => exact congrArg Except.ok stripped
  | debugCapture => exact congrArg Except.ok stripped
  | strict =>
    -- every category reads the stripped payload alone
    change applyStrict codec recordType payload = applyStrict codec recordType payload'
    rw [applyStrict, applyStrict, stripped]

/-- A payload with a token inside an array, and the name of its owner. -/
def tokenPayload (token : String) : Json :=
  .object [("events", .array [.object [("access_token", .string token), ("owner", .string "alice")]])]

theorem tokenPayload_redacted :
    applyRedaction blankCodec .strict .vaultOperation (tokenPayload "a") =
      applyRedaction blankCodec .strict .vaultOperation (tokenPayload "b") :=
  applyRedaction_noninterference blankCodec .strict .vaultOperation
    (.object (.cons (.shown "events" (.array (.cons
      (.object (.cons (.hidden (by decide +kernel) (.string "a") (.string "b"))
        (.cons (.shown "owner" (.same (.string "alice"))) .nil))) .nil))) .nil))

/-- What the scan leaves differs from the payload in the values of the keys it matches alone. -/
theorem redactKeys_agree (payload : Json) :
    AgreeApart (fun key => matchesKey codec patterns key = true) (redactKeys codec patterns payload) payload := by
  induction payload using Json.forall_tree with
  | array items ih =>
    rw [redactKeys_array]
    exact .array (List.forall₂_map_left_iff.mpr (List.forall₂_same.mpr ih))
  | object fields ih =>
    rw [redactKeys_object]
    refine .object (List.forall₂_map_left_iff.mpr (List.forall₂_same.mpr fun field inside => ?_))
    rw [redactField]
    by_cases secret : matchesKey codec patterns field.1 = true
    · exact .hidden secret _ _
    · rw [if_neg secret]
      exact .shown field.1 (ih field.1 field.2 inside)
  | _ => exact .same _

/-- A redaction under the default profile changes nothing of what a later one under any profile releases; in particular
it need not be repeated. -/
theorem applyRedaction_after_default (codec : Codec) (profile : RedactionProfile) (recordType : RecordType)
    (payload : Json) :
    (do let released ← applyRedaction codec .default recordType payload
        applyRedaction codec profile recordType released) = applyRedaction codec profile recordType payload := by
  have stripped : redactKeys codec SECRET_KEY_PATTERNS (redactKeys codec SECRET_KEY_PATTERNS payload) =
      redactKeys codec SECRET_KEY_PATTERNS payload := redactKeys_eq_iff.mpr (redactKeys_agree payload)
  change applyRedaction codec profile recordType (redactKeys codec SECRET_KEY_PATTERNS payload) = _
  cases profile with
  | strict =>
    change applyStrict codec recordType (redactKeys codec SECRET_KEY_PATTERNS payload) = _
    rw [applyStrict, stripped]
    rfl
  | _ => exact congrArg Except.ok stripped

end Aios.Evidence
