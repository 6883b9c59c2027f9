import Aios.Lib.Fallible
import Aios.Lib.Hex
import Aios.Rust.Basic

/-! # Errors, canonical text and signatures of the evidence log

The closed error type of `error.rs` with its texts, and the gRPC status each error is reported as.
-/

namespace Aios.Evidence

inductive EvidenceError where
  | encodingFailed (message : String)
  | hashMismatch (expected computed : String)
  | chainBroken (index : ℕ) (actual expected : String)
  | genesisMissing
  | emptyChain
  | duplicateGenesis
  | invalidReceiptId (detail : String)
  | invalidSubject (detail : String)
  | signatureMalformed (detail : String)
  | signatureMissing
  | signatureMismatch
  | segmentAlreadySealed
  | emptySegment
  | segmentChainBroken (index : ℕ) (actual expected : String)
  | segmentSealMismatch (expected computed : String)
  | segmentSignatureMismatch
deriving DecidableEq, Repr

namespace EvidenceError

/-- `Display`. -/
def toText : EvidenceError → String
  | encodingFailed message => "evidence payload canonical encoding failed: " ++ message
  | hashMismatch expected computed =>
    "content hash mismatch: expected `" ++ expected ++ "`, computed `" ++ computed ++ "`"
  | chainBroken index actual expected =>
    "chain broken at receipt index " ++ toString index ++ ": previous_receipt_hash `" ++ actual ++
      "` does not match expected `" ++ expected ++ "`"
  | genesisMissing => "non-genesis receipt is missing previous_receipt_hash (S3.1 §5.1)"
  | emptyChain => "evidence chain is empty; integrity check has no receipts to walk"
  | duplicateGenesis =>
    "attempted to append a genesis receipt (previous_receipt_hash = None) to a non-empty chain"
  | invalidReceiptId detail => "invalid receipt id: " ++ detail
  | invalidSubject detail => "subject_canonical_id is invalid: " ++ detail
  | signatureMalformed detail => "evidence signature is malformed: " ++ detail
  | signatureMissing => "evidence receipt carries no signature; cannot verify"
  | signatureMismatch => "evidence signature verification failed (Ed25519 reject)"
  | segmentAlreadySealed => "segment is already sealed; cannot append further receipts"
  | emptySegment => "evidence segment has no receipts; cannot seal an empty segment"
  | segmentChainBroken index actual expected =>
    "segment chain broken at segment index " ++ toString index ++ ": previous_segment_seal_hash `" ++ actual ++
      "` does not match expected `" ++ expected ++ "`"
  | segmentSealMismatch expected computed =>
    "segment seal hash mismatch: expected `" ++ expected ++ "`, computed `" ++ computed ++ "`"
  | segmentSignatureMismatch => "segment signature verification failed (Ed25519 reject)"

end EvidenceError

/-- The `tonic::Code`s the services answer with. -/
inductive Code where
  | invalidArgument
  | notFound
  | permissionDenied
  | failedPrecondition
  | internal
  | dataLoss
deriving DecidableEq, Repr

/-- `tonic::Status`. -/
structure Status where
  code : Code
  message : String
deriving DecidableEq, Repr

def EvidenceError.toCode : EvidenceError → Code
  | signatureMismatch | segmentSignatureMismatch | chainBroken .. | segmentChainBroken .. | segmentSealMismatch .. =>
    .dataLoss
  | signatureMalformed _ | invalidReceiptId _ | invalidSubject _ => .invalidArgument
  | signatureMissing | genesisMissing | duplicateGenesis | emptyChain | segmentAlreadySealed | emptySegment =>
    .failedPrecondition
  | encodingFailed _ | hashMismatch .. => .internal

/-- `Status::from`. -/
def EvidenceError.toStatus (self : EvidenceError) : Status := ⟨self.toCode, self.toText⟩

/-! ## Canonical text, digests and signatures

What the log takes from other crates, and the thin layer of `aios_action::canonical` and of the signature
codecs over it. Everything that is hashed or signed is text, and stands here as a string; a signature is a
list of bytes.
-/

open Aios.Rust

def hexDigits : List Char := "0123456789abcdef".toList

/-- A text of `count` lowercase hex characters. -/
def IsHex (count : ℕ) (text : String) : Prop := text.toList.length = count ∧ ∀ c ∈ text.toList, c ∈ hexDigits

/-- Whether a text is hex is decided from its bytes, which need not be decoded. -/
theorem isHex_iff_bytes {count : ℕ} {text : String} :
    ((Hex.bytesOf text).length == count && (Hex.bytesOf text).all fun byte => (Hex.nibble byte).isSome) = true ↔
      IsHex count text := by
  rw [Bool.and_eq_true, beq_iff_eq, List.all_eq_true]
  constructor
  · rintro ⟨length, digits⟩
    have each : (List.range 256).all (fun value => (Hex.nibble (UInt8.ofNat value)).isSome ==
        (decide (value < 128) && hexDigits.contains (Char.ofNat value))) = true := by decide +kernel
    have byteDigit : ∀ byte ∈ Hex.bytesOf text, byte.toNat < 128 ∧ Char.ofNat byte.toNat ∈ hexDigits := by
      intro byte member
      have tested := beq_iff_eq.mp (List.all_eq_true.mp each byte.toNat (List.mem_range.mpr byte.toNat_lt))
      rw [UInt8.ofNat_toNat, digits byte member] at tested
      simpa using tested.symm
    rw [IsHex, Hex.toList_of_ascii fun byte member => (byteDigit byte member).1, List.length_map]
    refine ⟨length, fun c member => ?_⟩
    obtain ⟨byte, inside, rfl⟩ := List.mem_map.mp member
    exact (byteDigit byte inside).2
  · rintro ⟨length, digits⟩
    have each : hexDigits.all (fun c => c.utf8Size == 1 &&
        (String.utf8EncodeChar c).all fun byte => (Hex.nibble byte).isSome) = true := by decide +kernel
    have ascii : ∀ c ∈ text.toList, c.utf8Size = 1 ∧
        ∀ byte ∈ String.utf8EncodeChar c, (Hex.nibble byte).isSome = true := by
      intro c member
      have tested := List.all_eq_true.mp each c (digits c member)
      rw [Bool.and_eq_true, beq_iff_eq, List.all_eq_true] at tested
      exact tested
    rw [Hex.bytesOf_length_of_ascii fun c member => (ascii c member).1]
    refine ⟨length, fun byte member => ?_⟩
    rw [← String.ofList_toList (s := text), Hex.bytesOf_ofList] at member
    obtain ⟨c, inside, encodes⟩ := List.mem_flatMap.mp member
    exact (ascii c inside).2 byte encodes

instance (count : ℕ) (text : String) : Decidable (IsHex count text) := decidable_of_iff _ isHex_iff_bytes

/-- The library functions behind the log: `serde_jcs::to_string` of a serialized value, `blake3::hash` with
`to_hex`, the `Serialize` and the `to_rfc3339` form of a UTC instant, `char::to_lowercase`, the check of
`Ulid::from_string`, and the single value of `Utc.timestamp_opt`. A digest is 64 hex characters. -/
structure Codec where
  jcs : Json → Except String String
  blake3 : String → String
  serializeTime : DateTime → String
  toRfc3339 : DateTime → String
  toLowercase : Char → List Char
  ulidFromString : String → Except String Unit
  timestampOpt : ℤ → ℕ → Option DateTime
  blake3_hex : ∀ text, IsHex 64 (blake3 text)

/-- `ed25519_dalek::SigningKey`, by its seed. -/
abbrev SigningKey := List UInt8

abbrev VerifyingKey := List UInt8

def SIGNATURE_LENGTH : ℕ := 64

/-- `ed25519_dalek`. A signature is 64 bytes, and verifies under the key pair it was made with. -/
structure Ed25519 where
  verifyingKey : SigningKey → VerifyingKey
  sign : SigningKey → String → List UInt8
  verify : VerifyingKey → String → List UInt8 → Bool
  sign_length : ∀ key message, (sign key message).length = SIGNATURE_LENGTH
  verify_sign : ∀ key message, verify (verifyingKey key) message (sign key message) = true

/-! ### Canonical text and digests -/

/-- A type whose values are serialized: `serde::Serialize`, as the JSON value the derived implementation
describes. -/
class Serialize (α : Type) where
  toValue : Codec → α → Json

instance : Serialize Json := ⟨fun _ value => value⟩

instance {α : Type} [Serialize α] : Serialize (List α) :=
  ⟨fun codec items => .array (items.map (Serialize.toValue codec))⟩

variable (codec : Codec)

/-- The canonical text of a value. A failure is a `CanonicalError::Projection`, which becomes an
`EncodingFailed` where the callers use `?`. -/
def jcsCanonicalize {α : Type} [Serialize α] (value : α) : Except EvidenceError String :=
  (codec.jcs (Serialize.toValue codec value)).mapError fun message =>
    .encodingFailed ("failed to project value into canonical JSON: " ++ message)

def blake3Hash (text : String) : String := codec.blake3 text

/-- The first 32 hex characters of the digest. -/
def blake3Truncated (text : String) : String :=
  String.ofList (((codec.blake3 text).toList.take 32).map Char.toLower)

variable {codec}

section

variable {α : Type} {signature : List UInt8} {value : α} {text : String} (chars blob : String)

theorem jcsCanonicalize_eq_ok_iff [Serialize α] :
    jcsCanonicalize codec value = .ok text ↔ codec.jcs (Serialize.toValue codec value) = .ok text := by
  rw [jcsCanonicalize]
  cases codec.jcs (Serialize.toValue codec value) <;> simp [Except.mapError]

/-- JCS writes the two values the same only if they are the same. -/
def Codec.JcsTells (codec : Codec) (value other : Json) : Prop :=
  ∀ canonical, codec.jcs value = .ok canonical → codec.jcs other = .ok canonical → value = other

/-- The canonical texts of the two values are no collision of BLAKE3. -/
def Codec.Blake3Tells (codec : Codec) (value other : Json) : Prop :=
  ∀ canonical canonical', codec.jcs value = .ok canonical → codec.jcs other = .ok canonical' →
    blake3Hash codec canonical = blake3Hash codec canonical' → canonical = canonical'

/-- Values with the same digest are the same. -/
theorem toValue_eq_of_digest {β : Type} [Serialize α] [Serialize β] {other : β} {text' : String}
    (jcs : codec.JcsTells (Serialize.toValue codec value) (Serialize.toValue codec other))
    (blake3 : codec.Blake3Tells (Serialize.toValue codec value) (Serialize.toValue codec other))
    (written : jcsCanonicalize codec value = .ok text) (written' : jcsCanonicalize codec other = .ok text')
    (same : blake3Hash codec text = blake3Hash codec text') :
    Serialize.toValue codec value = Serialize.toValue codec other := by
  have raw := jcsCanonicalize_eq_ok_iff.mp written
  have raw' := jcsCanonicalize_eq_ok_iff.mp written'
  obtain rfl := blake3 text text' raw raw' same
  exact jcs text raw raw'

theorem toLower_hexDigit {c : Char} (digit : c ∈ hexDigits) : c.toLower = c := by
  have all : hexDigits.all (fun c => c.toLower == c) = true := by decide
  exact beq_iff_eq.mp (List.all_eq_true.mp all c digit)

/-- The truncated digest is the front of the digest. -/
theorem blake3Truncated_toList (text : String) :
    (blake3Truncated codec text).toList = (codec.blake3 text).toList.take 32 := by
  have digits : ∀ c ∈ (codec.blake3 text).toList.take 32, c.toLower = id c := fun c member =>
    toLower_hexDigit ((codec.blake3_hex text).2 c (List.mem_of_mem_take member))
  rw [blake3Truncated, String.toList_ofList, List.map_congr_left digits, List.map_id]

theorem blake3Truncated_hex (text : String) : IsHex 32 (blake3Truncated codec text) := by
  obtain ⟨length, digits⟩ := codec.blake3_hex text
  rw [IsHex, blake3Truncated_toList, List.length_take]
  refine ⟨by omega, fun c member => digits c (List.mem_of_mem_take member)⟩

/-! ### Signatures in hex -/

/-- `hex_nibble`, with the name of the blob in its text. -/
def hexNibble (blob : String) (c : UInt8) : Except EvidenceError UInt8 :=
  match Hex.nibble c with
  | some value => .ok value
  | none => .error (.signatureMalformed ("non-lowercase-hex byte 0x" ++ Hex.encode [c] ++ " in " ++ blob))

/-- The decoder that `receipt.rs` and `segment.rs` each have, up to the names in its texts. -/
def decodeHex (chars blob hex : String) : Except EvidenceError (List UInt8) :=
  let bytes := Hex.bytesOf hex
  if bytes.length ≠ SIGNATURE_LENGTH * 2 then
    .error (.signatureMalformed ("expected " ++ toString (SIGNATURE_LENGTH * 2) ++ " lowercase hex chars" ++ chars ++
      ", got " ++ toString bytes.length ++ " chars"))
  else
    (Hex.pairs bytes).mapM fun chunk => do
      let hi ← hexNibble blob chunk.1
      let lo ← hexNibble blob chunk.2
      pure (hi <<< 4 ||| lo)

def encodeSignatureHex (signature : List UInt8) : String := Hex.encode signature

def decodeSignatureHex (hex : String) : Except EvidenceError (List UInt8) := decodeHex "" "Ed25519 signature blob" hex

def encodeSignatureHex64 (signature : List UInt8) : String := Hex.encode signature

def decodeSignatureHex64 (hex : String) : Except EvidenceError (List UInt8) :=
  decodeHex " on segment signature" "Ed25519 segment signature blob" hex

theorem hexNibble_toOption (c : UInt8) : (hexNibble blob c).toOption = Hex.nibble c := by
  rw [hexNibble]
  cases Hex.nibble c <;> rfl

/-- The names in the texts aside, the decoder reads lowercase digits. -/
theorem decodeHex_toOption (hex : String) : (decodeHex chars blob hex).toOption = Hex.decode SIGNATURE_LENGTH hex := by
  have read (chunk : UInt8 × UInt8) : (do
      let hi ← hexNibble blob chunk.1
      let lo ← hexNibble blob chunk.2
      pure (hi <<< 4 ||| lo)).toOption = Hex.byteOf chunk := by
    rw [Hex.byteOf, ← hexNibble_toOption blob, ← hexNibble_toOption blob]
    cases hexNibble blob chunk.1 with
    | error failure => rfl
    | ok hi => cases hexNibble blob chunk.2 <;> rfl
  rw [decodeHex, Hex.decode, Nat.mul_comm 2]
  by_cases sized : (Hex.bytesOf hex).length = SIGNATURE_LENGTH * 2
  · rw [if_neg (not_not.mpr sized), if_pos sized, Fallible.toOption_mapM]
    exact congrArg (fun program => (Hex.pairs (Hex.bytesOf hex)).mapM program) (funext read)
  · rw [if_pos sized, if_neg sized]
    rfl

/-- A text is accepted exactly if it is the encoding of a signature, which is what it is decoded to. -/
theorem decodeHex_eq_ok_iff {chars blob hex : String} :
    decodeHex chars blob hex = .ok signature ↔
      signature.length = SIGNATURE_LENGTH ∧ Hex.encode signature = hex := by
  rw [← Fallible.toOption_eq_some_iff, decodeHex_toOption, Hex.decode_eq_some_iff]

/-- What is encoded is decoded. -/
theorem decodeHex_encode (length : signature.length = SIGNATURE_LENGTH) :
    decodeHex chars blob (Hex.encode signature) = .ok signature := decodeHex_eq_ok_iff.mpr ⟨length, rfl⟩

/-! ### A codec to run the log with

The canonical writer for texts that need no escape, BLAKE3 on the texts of a table, and the forms of the epoch.
-/

def quoted (text : String) : String := "\"" ++ text ++ "\""

def insertField (field : String × String) : List (String × String) → List (String × String)
  | [] => [field]
  | first :: rest =>
    if Hex.bytesOf field.1 < Hex.bytesOf first.1 then field :: first :: rest else first :: insertField field rest

end

mutual

def writeJson : Json → String
  | .null => "null"
  | .bool value => if value then "true" else "false"
  | .number literal => literal
  | .string value => quoted value
  | .array items => "[" ++ ",".intercalate (writeItems items) ++ "]"
  | .object fields =>
    "\x7b" ++ ",".intercalate ((writeFields fields).map fun field => quoted field.1 ++ ":" ++ field.2) ++ "\x7d"

def writeItems : List Json → List String
  | [] => []
  | item :: rest => writeJson item :: writeItems rest

/-- The written fields, sorted by their keys. -/
def writeFields : List (String × Json) → List (String × String)
  | [] => []
  | (key, value) :: rest => insertField (key, writeJson value) (writeFields rest)

end

/-- The digest of the empty text stands for every text that is not in the table. -/
def tableDigest (digests : List (String × String)) (text : String) : String :=
  (digests.lookup text).getD "af1349b9f5f9a1a6a0404dea36dcc9499bcb25c9adc112b7cc9a93cae41f3262"

theorem tableDigest_hex {digests : List (String × String)} (listed : ∀ entry ∈ digests, IsHex 64 entry.2)
    (text : String) : IsHex 64 (tableDigest digests text) := by
  rw [tableDigest]
  cases found : digests.lookup text with
  | none => decide +kernel
  | some digest =>
    obtain ⟨before, after, split, -⟩ := List.lookup_eq_some_iff.mp found
    exact listed (text, digest) (by simp [split])

/-- Crockford's base 32. -/
def ulidDigits : List Char := "0123456789ABCDEFGHJKMNPQRSTVWXYZ".toList

def tableCodec (digests : List (String × String)) (listed : ∀ entry ∈ digests, IsHex 64 entry.2) : Codec where
  jcs value := .ok (writeJson value)
  blake3 := tableDigest digests
  serializeTime _ := "1970-01-01T00:00:00Z"
  toRfc3339 _ := "1970-01-01T00:00:00+00:00"
  toLowercase c := [c.toLower]
  ulidFromString body :=
    if (Hex.bytesOf body).length ≠ 26 then .error "invalid length"
    else if body.toList.all fun c => ulidDigits.contains c.toUpper then .ok ()
    else .error "invalid character"
  timestampOpt seconds nanos := if nanos < 1000000000 then some (seconds * 1000000000 + nanos) else none
  blake3_hex := tableDigest_hex listed

/-- The codec of the empty table, for what is written and not hashed. -/
def blankCodec : Codec := tableCodec [] (List.forall_mem_nil _)

/-- The bytes of a hex text. -/
def hexBytes (hex : String) : List UInt8 :=
  (Hex.pairs (Hex.bytesOf hex)).map fun chunk =>
    (Hex.nibble chunk.1).getD 0 <<< 4 ||| (Hex.nibble chunk.2).getD 0

/-- The signature a table gives for a message, and zeros for every other message. -/
def tableSignature (signatures : List (String × String)) (message : String) : List UInt8 :=
  ((signatures.lookup message).map hexBytes).getD (List.replicate 64 0)

theorem tableSignature_length {signatures : List (String × String)}
    (listed : ∀ entry ∈ signatures, (hexBytes entry.2).length = SIGNATURE_LENGTH) (message : String) :
    (tableSignature signatures message).length = SIGNATURE_LENGTH := by
  rw [tableSignature]
  cases found : signatures.lookup message with
  | none => rfl
  | some signature =>
    obtain ⟨before, after, split, -⟩ := List.lookup_eq_some_iff.mp found
    exact listed (message, signature) (by simp [split])

/-- Ed25519 under one key pair. -/
def tableEd25519 (verifyingKey : VerifyingKey) (signatures : List (String × String))
    (listed : ∀ entry ∈ signatures, (hexBytes entry.2).length = SIGNATURE_LENGTH) : Ed25519 where
  verifyingKey _ := verifyingKey
  sign _ := tableSignature signatures
  verify _ message signature := decide (signature = tableSignature signatures message)
  sign_length _ := tableSignature_length listed
  verify_sign _ _ := decide_eq_true rfl

end Aios.Evidence
