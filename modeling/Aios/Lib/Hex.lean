import Mathlib.Data.List.Basic
import Mathlib.Data.Nat.Notation

/-! # Lowercase hexadecimal text

Two digits for each byte, the high half first. Reading goes over the bytes of a text, so that any text can be
read; it accepts the lowercase digits only.
-/

namespace Hex

variable {value : ℕ} {text : String} {byte : UInt8} (bytes : List UInt8)

/-- The UTF-8 bytes of a text. -/
def bytesOf (text : String) : List UInt8 := text.toByteArray.data.toList

def digit (nibble : ℕ) : Char := if nibble < 10 then Char.ofNat (48 + nibble) else Char.ofNat (87 + nibble)

/-- The value of a lowercase digit. -/
def nibble (byte : UInt8) : Option UInt8 :=
  if 48 ≤ byte ∧ byte ≤ 57 then some (byte - 48)
  else if 97 ≤ byte ∧ byte ≤ 102 then some (byte - 97 + 10)
  else none

def chars : List Char :=
  bytes.flatMap fun byte => [digit (byte.toNat / 16), digit (byte.toNat % 16)]

def encode : String := String.ofList (chars bytes)

/-- The items two by two; an odd one is dropped. -/
def pairs {α : Type} : List α → List (α × α)
  | first :: second :: rest => (first, second) :: pairs rest
  | _ => []

/-! ## Digits -/

/-- The byte of a digit. -/
def digitByte (nibble : ℕ) : UInt8 := if nibble < 10 then UInt8.ofNat (48 + nibble) else UInt8.ofNat (87 + nibble)

theorem bytesOf_append (text other : String) : bytesOf (text ++ other) = bytesOf text ++ bytesOf other := by
  rw [bytesOf, String.toByteArray_append, ByteArray.data_append, Array.toList_append]
  rfl

theorem bytesOf_ofList (l : List Char) : bytesOf (String.ofList l) = l.flatMap String.utf8EncodeChar := by
  rw [bytesOf, String.toByteArray_ofList, List.utf8Encode]
  simp

/-- A text of one-byte characters has as many bytes as characters. -/
theorem bytesOf_length_of_ascii (ascii : ∀ c ∈ text.toList, c.utf8Size = 1) :
    (bytesOf text).length = text.toList.length := by
  have bytes : bytesOf text = text.toList.flatMap String.utf8EncodeChar := by
    rw [← bytesOf_ofList, String.ofList_toList]
  rw [bytes, List.length_flatMap]
  have each : ∀ c ∈ text.toList, (String.utf8EncodeChar c).length = 1 := by
    intro c member
    rw [String.length_utf8EncodeChar, ascii c member]
  rw [List.map_congr_left each]
  simp

theorem bytesOf_injective : Function.Injective bytesOf := by
  intro text other same
  apply String.toByteArray_inj.mp
  exact ByteArray.ext (Array.toList_inj.mp same)

/-- A one-byte character is encoded by its byte. -/
theorem utf8EncodeChar_ofNat (ascii : byte.toNat < 128) : String.utf8EncodeChar (Char.ofNat byte.toNat) = [byte] := by
  have each : ∀ value < 128, String.utf8EncodeChar (Char.ofNat value) = [UInt8.ofNat value] := by decide +kernel
  rw [each byte.toNat ascii, UInt8.ofNat_toNat]

/-- A text of one-byte characters is read off its bytes. -/
theorem toList_of_ascii (ascii : ∀ byte ∈ bytesOf text, byte.toNat < 128) :
    text.toList = (bytesOf text).map fun byte => Char.ofNat byte.toNat := by
  have same : text = String.ofList ((bytesOf text).map fun byte => Char.ofNat byte.toNat) := by
    apply bytesOf_injective
    rw [bytesOf_ofList, List.flatMap_map, List.flatMap_congr fun byte member =>
      utf8EncodeChar_ofNat (ascii byte member)]
    simp
  calc text.toList = (String.ofList ((bytesOf text).map fun byte => Char.ofNat byte.toNat)).toList := by rw [← same]
    _ = _ := String.toList_ofList

theorem bytesOf_digit (small : value < 16) : bytesOf (String.ofList [digit value]) = [digitByte value] := by
  rw [bytesOf, String.toByteArray_ofList]
  revert value
  decide

theorem nibble_digitByte (small : value < 16) : nibble (digitByte value) = some (UInt8.ofNat value) := by
  revert value
  decide

/-- The bytes of an encoded text are its digits. -/
theorem bytesOf_encode :
    bytesOf (encode bytes) =
      bytes.flatMap fun byte => [digitByte (byte.toNat / 16), digitByte (byte.toNat % 16)] := by
  induction bytes with
  | nil => rfl
  | cons byte rest ih =>
    have bound := byte.toNat_lt
    have split : encode (byte :: rest) = String.ofList [digit (byte.toNat / 16)] ++
        (String.ofList [digit (byte.toNat % 16)] ++ encode rest) := by
      rw [encode, encode, ← String.ofList_append, ← String.ofList_append]
      rfl
    rw [split, bytesOf_append, bytesOf_append, ih, bytesOf_digit (by omega), bytesOf_digit (by omega)]
    rfl

theorem bytesOf_encode_length : (bytesOf (encode bytes)).length = 2 * bytes.length := by
  rw [bytesOf_encode]
  induction bytes with
  | nil => rfl
  | cons byte rest ih =>
    rw [List.flatMap_cons, List.length_append, ih, List.length_cons, List.length_cons, List.length_cons,
      List.length_nil]
    omega

/-- Read two by two, an encoded text is the digits of one byte after the other. -/
theorem pairs_encode :
    pairs (bytesOf (encode bytes)) =
      bytes.map fun byte => (digitByte (byte.toNat / 16), digitByte (byte.toNat % 16)) := by
  rw [bytesOf_encode]
  induction bytes with
  | nil => rfl
  | cons byte rest ih =>
    rw [List.flatMap_cons, List.map_cons, ← ih]
    rfl

/-- The digits of a byte are its two halves. -/
theorem halves (byte : UInt8) : (UInt8.ofNat (byte.toNat / 16) <<< 4) ||| UInt8.ofNat (byte.toNat % 16) = byte := by
  have each : ∀ value < 256, (UInt8.ofNat (value / 16) <<< 4) ||| UInt8.ofNat (value % 16) = UInt8.ofNat value := by
    decide +kernel
  rw [each byte.toNat byte.toNat_lt, UInt8.ofNat_toNat]

/-! ## Reading -/

/-- The byte of two lowercase digits. -/
def byteOf (digits : UInt8 × UInt8) : Option UInt8 := do
  let hi ← nibble digits.1
  let lo ← nibble digits.2
  some (hi <<< 4 ||| lo)

/-- The bytes of a text of `2 * count` lowercase digits. -/
def decode (count : ℕ) (text : String) : Option (List UInt8) :=
  if (bytesOf text).length = 2 * count then (pairs (bytesOf text)).mapM byteOf else none

/-- A digit is the one that its value is written with. -/
theorem nibble_eq_some {value : UInt8} (read : nibble byte = some value) :
    value.toNat < 16 ∧ byte = digitByte value.toNat := by
  have each : (List.range 256).all (fun number => (nibble (UInt8.ofNat number)).all fun value =>
      value.toNat < 16 && UInt8.ofNat number == digitByte value.toNat) = true := by decide +kernel
  have here := List.all_eq_true.mp each byte.toNat (List.mem_range.mpr byte.toNat_lt)
  rw [UInt8.ofNat_toNat, read] at here
  simpa using here

/-- The halves of a byte that is put together from two of them. -/
theorem halves_join {hi lo : UInt8} (high : hi.toNat < 16) (low : lo.toNat < 16) :
    (hi <<< 4 ||| lo).toNat / 16 = hi.toNat ∧ (hi <<< 4 ||| lo).toNat % 16 = lo.toNat := by
  have each : ∀ first < 16, ∀ second < 16,
      (UInt8.ofNat first <<< 4 ||| UInt8.ofNat second).toNat / 16 = first ∧
        (UInt8.ofNat first <<< 4 ||| UInt8.ofNat second).toNat % 16 = second := by decide +kernel
  have here := each hi.toNat high lo.toNat low
  rwa [UInt8.ofNat_toNat, UInt8.ofNat_toNat] at here

theorem byteOf_eq_some_iff {digits : UInt8 × UInt8} :
    byteOf digits = some byte ↔ digits = (digitByte (byte.toNat / 16), digitByte (byte.toNat % 16)) := by
  constructor
  · intro read
    obtain ⟨hi, highRead, rest⟩ := Option.bind_eq_some_iff.mp read
    obtain ⟨lo, lowRead, joined⟩ := Option.bind_eq_some_iff.mp rest
    obtain ⟨high, highDigit⟩ := nibble_eq_some highRead
    obtain ⟨low, lowDigit⟩ := nibble_eq_some lowRead
    rw [← Option.some.inj joined, (halves_join high low).1, (halves_join high low).2, ← highDigit, ← lowDigit]
  · rintro rfl
    have bound := byte.toNat_lt
    rw [byteOf, nibble_digitByte (by omega), nibble_digitByte (by omega)]
    exact congrArg some (halves byte)

theorem mapM_byteOf_eq_some_iff {digits : List (UInt8 × UInt8)} {bytes : List UInt8} :
    digits.mapM byteOf = some bytes ↔
      digits = bytes.map fun byte => (digitByte (byte.toNat / 16), digitByte (byte.toNat % 16)) := by
  induction digits generalizing bytes with
  | nil => cases bytes <;> simp
  | cons first rest ih =>
    rw [List.mapM_cons]
    constructor
    · intro read
      obtain ⟨byte, here, read⟩ := Option.bind_eq_some_iff.mp read
      obtain ⟨others, there, same⟩ := Option.bind_eq_some_iff.mp read
      rw [← Option.some.inj same, List.map_cons, ← byteOf_eq_some_iff.mp here, ← ih.mp there]
    · intro written
      cases bytes with
      | nil => cases written
      | cons byte others =>
        obtain ⟨here, there⟩ := List.cons.inj written
        rw [byteOf_eq_some_iff.mpr here, ih.mpr there]
        rfl

/-- A list of even length is its pairs one after the other. -/
theorem flatMap_pairs {α : Type} (items : List α) (even : items.length % 2 = 0) :
    (pairs items).flatMap (fun pair => [pair.1, pair.2]) = items := by
  fun_induction pairs items with
  | case1 first second rest ih =>
    rw [List.length_cons, List.length_cons] at even
    rw [List.flatMap_cons, ih (by omega)]
    rfl
  | case2 items single =>
    match items, single, even with
    | [], _, _ => rfl
    | first :: second :: rest, single, _ => exact (single first second rest rfl).elim

/-- A text is decoded exactly if it is the encoding of that many bytes. -/
theorem decode_eq_some_iff {count : ℕ} {bytes : List UInt8} :
    decode count text = some bytes ↔ bytes.length = count ∧ encode bytes = text := by
  rw [decode, Option.ite_none_right_eq_some, mapM_byteOf_eq_some_iff]
  constructor
  · rintro ⟨sized, digits⟩
    have same : bytesOf (encode bytes) = bytesOf text := by
      rw [← flatMap_pairs (bytesOf text) (by omega), digits, List.flatMap_map, bytesOf_encode]
    refine ⟨?_, bytesOf_injective same⟩
    have lengths := congrArg List.length same
    rw [bytesOf_encode_length] at lengths
    omega
  · rintro ⟨length, rfl⟩
    exact ⟨by rw [bytesOf_encode_length, length], pairs_encode bytes⟩

end Hex
