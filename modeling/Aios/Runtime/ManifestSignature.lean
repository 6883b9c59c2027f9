import Aios.Evidence.Codec

/-! # The signature of an adapter manifest in hex

The codec that the adapter registry has of its own, and its agreement with the codecs of receipts and of segments. A
digit is written by a look-up in a table here, and by a formatter there.
-/

namespace Aios.Runtime

open Aios.Evidence

variable (hexLower : String) (byte : UInt8) (signature : List UInt8)

/-- `hex_nibble`. -/
def hexNibble (b : UInt8) : Option UInt8 := Hex.nibble b

def decodeHexSignature : Option (List UInt8) :=
  if (Hex.bytesOf hexLower).length ≠ 128 then none
  else
    (Hex.pairs (Hex.bytesOf hexLower)).mapM fun chunk => do
      let hi ← hexNibble chunk.1
      let lo ← hexNibble chunk.2
      some (hi <<< 4 ||| lo)

/-- The table `HEX`. -/
def hexTable : List Char := "0123456789abcdef".toList

/-- Neither half of a byte lies outside the table. -/
theorem halves_lt : (byte >>> 4).toNat < hexTable.length ∧ (byte &&& 0x0f).toNat < hexTable.length := by
  have each : ∀ value < 256, (UInt8.ofNat value >>> 4).toNat < 16 ∧ (UInt8.ofNat value &&& 0x0f).toNat < 16 := by
    decide +kernel
  have here := each byte.toNat byte.toNat_lt
  rwa [UInt8.ofNat_toNat] at here

/-- One round of the loop of `encode_hex_signature`. -/
def pushByte (out : String) (byte : UInt8) : String :=
  (out.push (hexTable.get ⟨(byte >>> 4).toNat, (halves_lt byte).1⟩)).push
    (hexTable.get ⟨(byte &&& 0x0f).toNat, (halves_lt byte).2⟩)

def encodeHexSignature : String := signature.foldl pushByte ""

/-! ## Agreement -/

theorem decodeHexSignature_eq : decodeHexSignature hexLower = Hex.decode SIGNATURE_LENGTH hexLower := by
  rw [decodeHexSignature, Hex.decode, ite_not]
  rfl

/-- The table holds the digits. -/
theorem hexTable_get :
    hexTable.get ⟨(byte >>> 4).toNat, (halves_lt byte).1⟩ = Hex.digit (byte.toNat / 16) ∧
      hexTable.get ⟨(byte &&& 0x0f).toNat, (halves_lt byte).2⟩ = Hex.digit (byte.toNat % 16) := by
  have each : ∀ value < 256, hexTable[(UInt8.ofNat value >>> 4).toNat]? = some (Hex.digit (value / 16)) ∧
      hexTable[(UInt8.ofNat value &&& 0x0f).toNat]? = some (Hex.digit (value % 16)) := by decide +kernel
  obtain ⟨high, low⟩ := each byte.toNat byte.toNat_lt
  rw [UInt8.ofNat_toNat] at high low
  exact ⟨(List.getElem?_eq_some_iff.mp high).2, (List.getElem?_eq_some_iff.mp low).2⟩

theorem encodeHexSignature_eq : encodeHexSignature signature = Hex.encode signature := by
  have pushed (out : String) : (signature.foldl pushByte out).toList = out.toList ++ Hex.chars signature := by
    induction signature generalizing out with
    | nil => simp [Hex.chars]
    | cons byte rest ih =>
      rw [List.foldl_cons, ih, pushByte, (hexTable_get byte).1, (hexTable_get byte).2, String.toList_push,
        String.toList_push, List.append_assoc, List.append_assoc]
      rfl
  apply String.toList_injective
  calc (encodeHexSignature signature).toList = [] ++ Hex.chars signature := pushed ""
    _ = (Hex.encode signature).toList := String.toList_ofList.symm

/-- Each of the three decoders accepts exactly the encodings of the signatures of 64 bytes, and gives the signature
back; so they accept the same texts and decode them alike. -/
theorem signature_codecs_agree (hex : String) (signature : List UInt8) :
    (decodeSignatureHex hex = .ok signature ↔
        signature.length = 64 ∧ encodeSignatureHex signature = hex) ∧
      (decodeSignatureHex64 hex = .ok signature ↔
        signature.length = 64 ∧ encodeSignatureHex64 signature = hex) ∧
      (decodeHexSignature hex = some signature ↔
        signature.length = 64 ∧ encodeHexSignature signature = hex) ∧
      (decodeSignatureHex hex).toOption = decodeHexSignature hex ∧
      (decodeSignatureHex64 hex).toOption = decodeHexSignature hex := by
  refine ⟨decodeHex_eq_ok_iff, decodeHex_eq_ok_iff, ?_, ?_, ?_⟩
  · rw [decodeHexSignature_eq, encodeHexSignature_eq, Hex.decode_eq_some_iff, SIGNATURE_LENGTH]
  · rw [decodeHexSignature_eq, decodeSignatureHex, decodeHex_toOption]
  · rw [decodeHexSignature_eq, decodeSignatureHex64, decodeHex_toOption]

end Aios.Runtime
