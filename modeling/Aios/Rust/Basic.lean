import Mathlib.Data.Int.Notation
import Mathlib.Data.List.Basic
import Mathlib.Data.Subtype
import Mathlib.Order.Lattice

/-! # The standard-library surface the crates share

Strings are read as character lists where the Rust code slices or trims them, so that every
definition evaluates. Instants are nanoseconds since the epoch; a clock reading is always an
argument of the function that would call `Utc::now`.
-/

namespace Aios.Rust

section

variable {c : Char} (value : ℕ) (text : String)

/-- `chrono::DateTime<Utc>`, in nanoseconds since the epoch. -/
abbrev DateTime := ℤ

/-- `chrono::Duration::seconds`. -/
def seconds (count : ℕ) : ℤ := (count : ℤ) * 1000000000

/-- `u32::MAX`, where `saturating_add` stops. -/
def U32_MAX : ℕ := 4294967295

/-- `as u32` on an unsigned integer, which keeps the low 32 bits. -/
def asU32 : ℕ := value % (U32_MAX + 1)

/-! ## Text -/

/-- `str::starts_with`. -/
def startsWith (start : String) : Bool := start.toList.isPrefixOf text.toList

/-- `str::ends_with` on one character. -/
def endsWithChar (c : Char) : Bool := text.toList.getLast? == some c

/-- `str::trim_end_matches` on one character. -/
def trimEndMatches (c : Char) : String :=
  String.ofList (text.toList.reverse.dropWhile (· == c)).reverse

/-- `char::is_whitespace`: the Unicode `White_Space` property. -/
def isWhitespace (c : Char) : Bool :=
  (0x9 ≤ c.val && c.val ≤ 0xD) || c.val == 0x20 || c.val == 0x85 || c.val == 0xA0 || c.val == 0x1680 ||
    (0x2000 ≤ c.val && c.val ≤ 0x200A) || c.val == 0x2028 || c.val == 0x2029 || c.val == 0x202F ||
    c.val == 0x205F || c.val == 0x3000

/-- `str::trim`. -/
def trim : String :=
  String.ofList ((text.toList.dropWhile isWhitespace).reverse.dropWhile isWhitespace).reverse

/-- `text.trim().is_empty()`. -/
def isBlank : Bool := trim text == ""

/-! ## Letters and digits -/

theorem isAlpha_iff : c.isAlpha = true ↔
    65 ≤ c.val.toNat ∧ c.val.toNat ≤ 90 ∨ 97 ≤ c.val.toNat ∧ c.val.toNat ≤ 122 := by
  change (decide (c.val ≥ 65 ∧ c.val ≤ 90) || decide (c.val ≥ 97) && decide (c.val ≤ 122)) = true ↔ _
  simp [UInt32.le_iff_toNat_le]

theorem isWhitespace_of_isAlphanum (word : c.isAlphanum = true) : isWhitespace c = false := by
  simp only [Char.isAlphanum, isWhitespace, isAlpha_iff, Char.isDigit, Bool.or_eq_true, Bool.and_eq_true,
    beq_iff_eq, decide_eq_true_eq, ← Bool.not_eq_true, ← UInt32.toNat_inj, UInt32.le_iff_toNat_le,
    ge_iff_le] at *
  simp at *
  omega

theorem isDigit_of_isAlpha (letter : c.isAlpha = true) : c.isDigit = false := by
  simp only [isAlpha_iff, Char.isDigit, Bool.and_eq_true, decide_eq_true_eq, ← Bool.not_eq_true,
    UInt32.le_iff_toNat_le, ge_iff_le] at *
  simp at *
  omega

theorem toList_toString : (toString value).toList = Nat.toDigits 10 value := Nat.toList_repr

theorem toDigits_all : ∀ c ∈ Nat.toDigits 10 value, c.isDigit = true :=
  fun _ member => Nat.isDigit_of_mem_toDigits (by decide) (by decide) member

theorem toList_negative {value : ℕ} (positive : 0 < value) :
    (toString (-(value : ℤ))).toList = ['-'] ++ (toString value).toList := by
  obtain ⟨value, rfl⟩ := Nat.exists_eq_succ_of_ne_zero (Nat.ne_of_gt positive)
  change ("-" ++ toString (value + 1)).toList = _
  rw [String.toList_append]
  rfl

/-! ## JSON values -/

/-- `serde_json::Value`. A number is kept as its literal; an object as its key-value pairs, of which
lookups see the first. -/
inductive Json where
  | null
  | bool (value : Bool)
  | number (literal : String)
  | string (value : String)
  | array (items : List Json)
  | object (fields : List (String × Json))

end

namespace Json

/-- `Value::get` with a string index: `None` off objects. -/
def get (value : Json) (key : String) : Option Json :=
  match value with
  | object fields => fields.lookup key
  | _ => none

/-- `Value::as_bool`. -/
def asBool : Json → Option Bool
  | bool value => some value
  | _ => none

/-- `Value::as_str`. -/
def asStr : Json → Option String
  | string value => some value
  | _ => none

theorem sizeOf_lt_of_mem {key : String} {value : Json} {fields : List (String × Json)}
    (inside : (key, value) ∈ fields) : sizeOf value < sizeOf fields := by
  have smaller := List.sizeOf_lt_of_mem inside
  rw [Prod.mk.sizeOf_spec] at smaller
  omega

/-- The induction over the tree of a value. -/
theorem forall_tree {motive : Json → Prop} (null : motive .null) (bool : ∀ value, motive (.bool value))
    (number : ∀ literal, motive (.number literal)) (string : ∀ value, motive (.string value))
    (array : ∀ items, (∀ item ∈ items, motive item) → motive (.array items))
    (object : ∀ fields, (∀ key value, (key, value) ∈ fields → motive value) → motive (.object fields)) :
    ∀ value, motive value
  | .null => null
  | .bool value => bool value
  | .number literal => number literal
  | .string value => string value
  | .array items => array items fun item _ => forall_tree null bool number string array object item
  | .object fields => object fields fun _ value _ => forall_tree null bool number string array object value
termination_by value => sizeOf value
decreasing_by
  · rw [Json.array.sizeOf_spec]
    exact Nat.lt_add_left 1 (List.sizeOf_lt_of_mem ‹_›)
  · rw [Json.object.sizeOf_spec]
    exact Nat.lt_add_left 1 (sizeOf_lt_of_mem ‹_›)

end Json

/-! ## The range of `chrono::DateTime<Utc>` -/

/-- `DateTime::<Utc>::MIN_UTC`, the first nanosecond of the year -262143. -/
def MIN_UTC : DateTime := -8334601228800000000000

/-- `DateTime::<Utc>::MAX_UTC`, the last nanosecond of the year 262142. -/
def MAX_UTC : DateTime := 8210266876799999999999

/-- The instants a `DateTime<Utc>` can hold. -/
abbrev UtcTime := { time : DateTime // MIN_UTC ≤ time ∧ time ≤ MAX_UTC }

/-- `DateTime::checked_sub_signed`: `None` out of range. -/
def checkedSubSigned (time : UtcTime) (duration : ℤ) : Option UtcTime :=
  if range : MIN_UTC ≤ time.val - duration ∧ time.val - duration ≤ MAX_UTC then
    some ⟨time.val - duration, range⟩
  else
    none

/-- `now.checked_sub_signed(duration).unwrap_or(DateTime::<Utc>::MIN_UTC)` -/
def subSignedOrMin (now : UtcTime) (duration : ℤ) : UtcTime :=
  (checkedSubSigned now duration).getD ⟨MIN_UTC, by decide⟩

/-- Unless the difference lies past the last instant, nothing is earlier than it but what is earlier than
the instant it falls back to. -/
theorem subSignedOrMin_le_iff {now time : UtcTime} {duration : ℤ} (fits : now.val - duration ≤ MAX_UTC) :
    (subSignedOrMin now duration).val ≤ time.val ↔ now.val - duration ≤ time.val := by
  rw [subSignedOrMin, checkedSubSigned]
  split
  · exact Iff.rfl
  · next outside =>
    have below : now.val - duration < MIN_UTC := by
      by_contra above
      exact outside ⟨not_lt.mp above, fits⟩
    exact iff_of_true time.property.1 (below.le.trans time.property.1)

end Aios.Rust
