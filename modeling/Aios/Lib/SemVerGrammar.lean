import Aios.Lib.Delimited
import Mathlib.Tactic.IntervalCases

/-! # The grammar of semantic versions

The grammar of version 2.0 on lists of characters, with one definition for each of its symbols, and the shape that its
identifiers have: what characters are in them and what they may not begin with. A numeric identifier is the decimal
form of its value.
-/

namespace SemVerGrammar

/-! ## Characters and identifiers -/

/-- A letter or a hyphen. -/
def NonDigit (c : Char) : Prop := c.isAlpha = true ∨ c = '-'

def IdentifierCharacter (c : Char) : Prop := c.isDigit = true ∨ NonDigit c

/-- Zero, or digits that do not begin with it. -/
inductive NumericIdentifier : List Char → Prop
  | zero : NumericIdentifier ['0']
  | positive {first : Char} {digits : List Char} (positive : first.isDigit = true ∧ first ≠ '0')
      (rest : ∀ c ∈ digits, c.isDigit = true) : NumericIdentifier (first :: digits)

/-- Identifier characters around one that is not a digit. -/
inductive AlphanumericIdentifier : List Char → Prop
  | around {before after : List Char} {c : Char} (left : ∀ c ∈ before, IdentifierCharacter c) (nonDigit : NonDigit c)
      (right : ∀ c ∈ after, IdentifierCharacter c) : AlphanumericIdentifier (before ++ c :: after)

def Digits (id : List Char) : Prop := id ≠ [] ∧ ∀ c ∈ id, c.isDigit = true

def PreReleaseIdentifier (id : List Char) : Prop := AlphanumericIdentifier id ∨ NumericIdentifier id

def BuildIdentifier (id : List Char) : Prop := AlphanumericIdentifier id ∨ Digits id

/-! ## Versions -/

/-- The parts of a text. -/
structure Version where
  major : List Char
  minor : List Char
  patch : List Char
  preRelease : Option (List Char)
  build : Option (List Char)

/-- A part behind its mark, where there is one. -/
def marked (mark : Char) : Option (List Char) → List Char
  | none => []
  | some text => mark :: text

namespace Version

def core (version : Version) : List Char := version.major ++ '.' :: (version.minor ++ '.' :: version.patch)

def text (version : Version) : List Char :=
  version.core ++ marked '-' version.preRelease ++ marked '+' version.build

structure Valid (version : Version) : Prop where
  major : NumericIdentifier version.major
  minor : NumericIdentifier version.minor
  patch : NumericIdentifier version.patch
  preRelease : ∀ text ∈ version.preRelease, Delimited.Separated '.' PreReleaseIdentifier text
  build : ∀ text ∈ version.build, Delimited.Separated '.' BuildIdentifier text

end Version

variable {id : List Char} {c : Char}

/-! ## The shape of identifiers -/

/-- More than one character, of which the first is a zero. -/
def LeadingZero (id : List Char) : Prop := 1 < id.length ∧ id.head? = some '0'

theorem numericIdentifier_iff : NumericIdentifier id ↔ Digits id ∧ ¬ LeadingZero id := by
  constructor
  · intro numeric
    cases numeric with
    | zero =>
      refine ⟨⟨List.cons_ne_nil _ _, List.forall_mem_singleton.mpr rfl⟩, fun leading => ?_⟩
      exact absurd leading.1 (by decide)
    | positive first rest =>
      refine ⟨⟨List.cons_ne_nil _ _, List.forall_mem_cons.mpr ⟨first.1, rest⟩⟩, fun leading => ?_⟩
      exact first.2 (Option.some.inj leading.2)
  · rintro ⟨⟨nonempty, digits⟩, plain⟩
    obtain ⟨first, rest, rfl⟩ := List.exists_cons_of_ne_nil nonempty
    obtain ⟨digit, others⟩ := List.forall_mem_cons.mp digits
    by_cases zero : first = '0'
    · subst zero
      cases rest with
      | nil => exact .zero
      | cons second rest => exact absurd ⟨by simp, rfl⟩ plain
    · exact .positive ⟨digit, zero⟩ others

theorem alphanumericIdentifier_iff :
    AlphanumericIdentifier id ↔ (∀ c ∈ id, IdentifierCharacter c) ∧ ∃ c ∈ id, NonDigit c := by
  constructor
  · rintro ⟨left, nonDigit, right⟩
    refine ⟨?_, _, List.mem_append_right _ List.mem_cons_self, nonDigit⟩
    rw [List.forall_mem_append, List.forall_mem_cons]
    exact ⟨left, .inr nonDigit, right⟩
  · rintro ⟨characters, c, member, nonDigit⟩
    obtain ⟨before, after, rfl⟩ := List.append_of_mem member
    rw [List.forall_mem_append, List.forall_mem_cons] at characters
    exact .around characters.1 nonDigit characters.2.2

theorem digits_or_exists_nonDigit (characters : ∀ c ∈ id, IdentifierCharacter c) :
    (∀ c ∈ id, c.isDigit = true) ∨ ∃ c ∈ id, NonDigit c := by
  by_contra neither
  rw [not_or] at neither
  refine neither.1 fun c member => ?_
  obtain digit | nonDigit := characters c member
  · exact digit
  · exact absurd ⟨c, member, nonDigit⟩ neither.2

theorem not_isDigit_of_nonDigit (nonDigit : NonDigit c) : c.isDigit = false := by
  obtain letter | rfl := nonDigit
  · rw [← Bool.not_eq_true]
    intro digit
    rw [Char.isDigit_iff_toNat] at digit
    change (decide (c.val ≥ 65 ∧ c.val ≤ 90) || decide (c.val ≥ 97) && decide (c.val ≤ 122)) = true at letter
    simp only [Bool.or_eq_true, Bool.and_eq_true, decide_eq_true_eq, ge_iff_le, UInt32.le_iff_toNat_le] at letter
    change (65 ≤ c.toNat ∧ c.toNat ≤ 90) ∨ (97 ≤ c.toNat ∧ c.toNat ≤ 122) at letter
    change 48 ≤ c.toNat ∧ c.toNat ≤ 57 at digit
    omega
  · decide

theorem buildIdentifier_iff : BuildIdentifier id ↔ id ≠ [] ∧ ∀ c ∈ id, IdentifierCharacter c := by
  unfold BuildIdentifier
  rw [alphanumericIdentifier_iff]
  constructor
  · rintro (⟨characters, c, member, -⟩ | ⟨nonempty, digits⟩)
    · exact ⟨List.ne_nil_of_mem member, characters⟩
    · exact ⟨nonempty, fun c member => .inl (digits c member)⟩
  · rintro ⟨nonempty, characters⟩
    obtain digits | nonDigit := digits_or_exists_nonDigit characters
    · exact .inr ⟨nonempty, digits⟩
    · exact .inl ⟨characters, nonDigit⟩

theorem preReleaseIdentifier_iff : PreReleaseIdentifier id ↔ BuildIdentifier id ∧ ¬ (Digits id ∧ LeadingZero id) := by
  unfold PreReleaseIdentifier BuildIdentifier
  rw [numericIdentifier_iff, alphanumericIdentifier_iff]
  constructor
  · rintro (⟨characters, c, member, nonDigit⟩ | ⟨digits, plain⟩)
    · refine ⟨.inl ⟨characters, c, member, nonDigit⟩, fun ⟨digits, _⟩ => ?_⟩
      have digit := digits.2 c member
      rw [not_isDigit_of_nonDigit nonDigit] at digit
      cases digit
    · exact ⟨.inr digits, fun ⟨_, leading⟩ => plain leading⟩
  · rintro ⟨alphanumeric | digits, plain⟩
    · exact .inl alphanumeric
    · exact .inr ⟨digits, fun leading => plain ⟨digits, leading⟩⟩

/-! ## Values -/

theorem digitChar_of_isDigit (digit : c.isDigit = true) :
    c.toNat - '0'.toNat < 10 ∧ (c.toNat - '0'.toNat).digitChar = c := by
  rw [Char.isDigit_iff_toNat] at digit
  obtain ⟨low, high⟩ : 48 ≤ c.toNat ∧ c.toNat ≤ 57 := digit
  have same : c = Char.ofNat c.toNat := (Char.ofNat_toNat c).symm
  generalize c.toNat = code at low high same
  subst same
  interval_cases code <;> decide

/-- A numeric identifier is how its value is written. -/
theorem toDigits_of_numericIdentifier (numeric : NumericIdentifier id) :
    Nat.toDigits 10 (Nat.ofDigitChars 10 id 0) = id := by
  cases numeric with
  | zero => decide
  | @positive first digits positive rest =>
    induction digits using List.reverseRecOn with
    | nil =>
      obtain ⟨small, written⟩ := digitChar_of_isDigit positive.1
      have value : Nat.ofDigitChars 10 [first] 0 = first.toNat - '0'.toNat := by simp [Nat.ofDigitChars]
      rw [value, Nat.toDigits_of_lt_base small, written]
    | append_singleton digits last ih =>
      obtain ⟨left, right⟩ := List.forall_mem_append.mp rest
      obtain ⟨small, written⟩ := digitChar_of_isDigit (right last (List.mem_singleton_self last))
      have before := ih left
      have above : 0 < Nat.ofDigitChars 10 (first :: digits) 0 := by
        rw [Nat.pos_iff_ne_zero]
        intro zero
        rw [zero, Nat.toDigits_zero] at before
        exact positive.2 (List.cons.inj before).1.symm
      have value : Nat.ofDigitChars 10 (first :: (digits ++ [last])) 0 =
          10 * Nat.ofDigitChars 10 (first :: digits) 0 + (last.toNat - '0'.toNat) := by
        rw [← List.cons_append, Nat.ofDigitChars_append]
        rfl
      rw [value, ← Nat.toDigits_append_toDigits (by decide) above small, before, Nat.toDigits_of_lt_base small, written]
      rfl

end SemVerGrammar
