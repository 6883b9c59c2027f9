import Aios.Lib.Lexer
import Aios.Rust.Basic

/-! # The lexical level of the hand-written parsers

Identifiers, places in a source, excerpts and integer literals, which the parsers of the crates read and
report alike.
-/

namespace Aios.Rust

open Scanner

/-! ## Identifiers -/

/-- `is_ident_start`. -/
def isIdentStart (c : Char) : Bool := c.isAlpha || c == '_'

/-- `is_ident_continue`. -/
def isIdentContinue (c : Char) : Bool := c.isAlphanum || c == '_'

/-- The text is one identifier. -/
abbrev isIdent : List Char → Bool := isWord isIdentStart isIdentContinue

theorem isIdentContinue_of_start {c : Char} (starts : isIdentStart c = true) : isIdentContinue c = true := by
  rcases Bool.or_eq_true_iff.mp starts with letter | underscore
  · simp [isIdentContinue, Char.isAlphanum, letter]
  · simp [isIdentContinue, underscore]

theorem isWhitespace_of_isIdentContinue {c : Char} (within : isIdentContinue c = true) : isWhitespace c = false := by
  rcases Bool.or_eq_true_iff.mp within with word | underscore
  · exact isWhitespace_of_isAlphanum word
  · rw [eq_of_beq underscore]
    rfl

theorem isDigit_of_isIdentStart {c : Char} (starts : isIdentStart c = true) : c.isDigit = false := by
  rcases Bool.or_eq_true_iff.mp starts with letter | underscore
  · exact isDigit_of_isAlpha letter
  · rw [eq_of_beq underscore]
    rfl

theorem isWhitespace_ne {c d : Char} (solid : isWhitespace d = false) (blank : isWhitespace c = true) :
    (c == d) = false := by
  rw [beq_eq_false_iff_ne]
  rintro rfl
  rw [solid] at blank
  cases blank

section Identifiers

variable {name : List Char}

theorem solid_of_isIdent (ident : isIdent name = true) : Solid isWhitespace name :=
  solid_of_isWord (fun _ starts => isWhitespace_of_isIdentContinue (isIdentContinue_of_start starts)) ident

theorem all_of_isIdent (ident : isIdent name = true) : ∀ c ∈ name, isIdentContinue c = true :=
  all_of_isWord (fun _ => isIdentContinue_of_start) ident

/-- A token that starts with something else starts no identifier. -/
theorem head_ne_of_isIdent {c : Char} (ident : isIdent name = true) (other : isIdentStart c = false)
    (rest : List Char) : (name ++ rest).head? ≠ some c := by
  obtain ⟨first, tail, rfl, starts, -⟩ := isWord_cons ident
  intro same
  obtain rfl : first = c := Option.some.inj same
  rw [other] at starts
  cases starts

end Identifiers

/-- A word stands here and does not run on. -/
def wordAt (word : String) (rest : List Char) : Bool :=
  word.toList.isPrefixOf rest && !(rest.drop word.length).head?.any isIdentContinue

theorem isPrefixOf_singleton (c : Char) (rest : List Char) :
    (String.singleton c).toList.isPrefixOf rest = (rest.head? == some c) := by
  rw [String.toList_singleton, Bool.eq_iff_iff, List.isPrefixOf_iff_prefix, beq_iff_eq]
  cases rest with
  | nil => exact ⟨fun taken => absurd taken.length_le (Nat.not_succ_le_zero 0), nofun⟩
  | cons d rest =>
    rw [List.cons_prefix_cons, List.head?_cons, Option.some_inj]
    exact ⟨fun same => same.1.symm, fun same => ⟨same.symm, List.nil_prefix⟩⟩

/-- A character is taken as the sequence of it. -/
theorem tryTake_singleton {ε : Type} (c : Char) :
    (tryTake isWhitespace ((String.singleton c).toList.isPrefixOf ·) (String.singleton c).length :
      EStateM ε (List Char) Bool) = tryTake isWhitespace (·.head? == some c) 1 := by
  rw [String.length_singleton]
  simp only [isPrefixOf_singleton]

/-! ## Loops

The rounds of the loops, each bounded by a number of rounds.
-/

section Loops

variable {ε α : Type}

/-- The loop of `parse_field_path`. -/
def SegmentRounds (identifier : EStateM ε (List Char) String) (scanner : ℕ → String → EStateM ε (List Char) String) :
    Prop :=
  ∀ fuel subpath, scanner (fuel + 1) subpath = do
    let saved ← get
    skip isWhitespace
    let rest ← get
    if rest.head? = some '.' ∧ rest.tail.head?.any isIdentStart then
      set rest.tail
      let segment ← identifier
      scanner fuel (subpath ++ "." ++ segment)
    else
      set saved
      return subpath

/-- The loop of `parse_value_list`. -/
def ElementRounds (element : EStateM ε (List Char) α) (unclosed : EStateM ε (List Char) (List α))
    (scanner : ℕ → List α → EStateM ε (List Char) (List α)) : Prop :=
  ∀ fuel values, scanner (fuel + 1) values = do
    let value ← element
    skip isWhitespace
    if ← tryTake isWhitespace (·.head? == some ',') 1 then
      scanner fuel (values ++ [value])
    else if ← tryTake isWhitespace (·.head? == some ']') 1 then
      return values ++ [value]
    else
      unclosed

/-- The loop over the predicates behind the first one. -/
def ConjunctRounds (reject : EStateM ε (List Char) Unit) (joined : EStateM ε (List Char) Bool)
    (predicate : EStateM ε (List Char) α) (unjoined : EStateM ε (List Char) (List α))
    (scanner : ℕ → List α → EStateM ε (List Char) (List α)) : Prop :=
  ∀ fuel predicates, scanner (fuel + 1) predicates = do
    if ← (do skip isWhitespace; let rest ← get; return rest.isEmpty) then
      return predicates
    else
      reject
      if ← joined then
        let next ← predicate
        scanner fuel (predicates ++ [next])
      else
        unjoined

end Loops

variable {rest : List Char} {negative : Bool} {ε α : Type} {magnitude : ℕ} (source : List Char)
  (invalid : ℕ → ℕ → String → ε) (wrap : Int64 → α)

/-! ## Places -/

/-- `position_for`: the line and the column of the place where `rest` is left of the source. -/
def lineColumn (rest : List Char) : ℕ × ℕ :=
  (source.take (source.length - rest.length)).foldl
    (fun position c => if c = '\n' then (position.1 + 1, 1) else (position.1, position.2 + 1)) (1, 1)

/-- `str::trim_end`. -/
def trimEnd (text : List Char) : List Char := (text.reverse.dropWhile isWhitespace).reverse

/-! ## Integers -/

/-- `str::parse::<i64>` on digits with a sign. -/
def parseI64 (negative : Bool) (digits : List Char) : Option Int64 :=
  let magnitude : ℤ := Nat.ofDigitChars 10 digits 0
  let value := if negative then -magnitude else magnitude
  if Int64.minValue.toInt ≤ value ∧ value ≤ Int64.maxValue.toInt then some (Int64.ofInt value) else none

/-- Take a minus sign, if there is one. -/
def takeSign : EStateM ε (List Char) (List Char) := do
  let rest ← get
  if rest.head? = some '-' then
    set rest.tail
    return ['-']
  else
    return []

/-- `InvalidInteger` for a literal. -/
def failInteger (place literal : List Char) : EStateM ε (List Char) α :=
  throw (invalid (lineColumn source place).1 (lineColumn source place).2 (String.ofList literal))

/-- An integer literal from behind its sign on. -/
def scanDigits (place sign : List Char) : EStateM ε (List Char) α := do
  let digits ← span Char.isDigit
  if digits.isEmpty then
    failInteger source invalid place sign
  else
    let rest ← get
    if rest.head? = some '.' ∧ rest.tail.head?.any Char.isDigit then
      set rest.tail
      let fraction ← span Char.isDigit
      failInteger source invalid place (sign ++ digits ++ '.' :: fraction)
    else
      match parseI64 (!sign.isEmpty) digits with
      | some value => return wrap value
      | none => failInteger source invalid place (sign ++ digits)

/-- An integer literal with its sign. -/
def scanInteger :
    EStateM ε (List Char) α := do
  skip isWhitespace
  let place ← get
  let sign ← takeSign
  scanDigits source invalid wrap place sign

/-- A sign and the digits of a magnitude. -/
theorem exists_digits (value : ℤ) :
    ∃ (negative : Bool) (magnitude : ℕ),
      (toString value).toList = (if negative then ['-'] else []) ++ Nat.toDigits 10 magnitude ∧
        value = if negative then -(magnitude : ℤ) else magnitude := by
  by_cases below : value < 0
  · obtain ⟨magnitude, rfl⟩ := Int.exists_eq_neg_ofNat (Int.le_of_lt below)
    have positive : 0 < magnitude := by omega
    refine ⟨true, magnitude, ?_, rfl⟩
    rw [toList_negative positive, toList_toString]
    rfl
  · obtain ⟨magnitude, rfl⟩ := Int.eq_ofNat_of_zero_le (Int.not_lt.mp below)
    exact ⟨false, magnitude, toList_toString magnitude, rfl⟩

theorem parseI64_toDigits {value : Int64} (valued : value.toInt = if negative then -(magnitude : ℤ) else magnitude) :
    parseI64 negative (Nat.toDigits 10 magnitude) = some value := by
  have range := And.intro value.minValue_le_toInt value.toInt_le
  rw [parseI64, Nat.ofDigitChars_ten_toDigits]
  simp only [← valued, range, and_self, if_true, Int64.ofInt_toInt]

/-- The first digit of a magnitude. -/
theorem toDigits_cons (magnitude : ℕ) :
    ∃ first tail, Nat.toDigits 10 magnitude = first :: tail ∧ first.isDigit = true := by
  obtain ⟨first, tail, spelled⟩ := List.exists_cons_of_ne_nil (@Nat.toDigits_ne_nil magnitude 10)
  exact ⟨first, tail, spelled, toDigits_all magnitude first (spelled ▸ List.mem_cons_self)⟩

theorem reads_takeSign :
    Reads (takeSign : EStateM ε (List Char) (List Char)) (if negative then ['-'] else [])
      (if negative then ['-'] else []) fun rest => ∃ after, rest = Nat.toDigits 10 magnitude ++ after := by
  rintro _ ⟨after, rfl⟩
  cases negative with
  | true => rfl
  | false =>
    obtain ⟨first, tail, spelled, digit⟩ := toDigits_cons magnitude
    have unsigned : (Nat.toDigits 10 magnitude ++ after).head? ≠ some '-' := by
      rw [spelled, List.cons_append, List.head?_cons]
      rintro same
      rw [Option.some_inj.mp same] at digit
      cases digit
    change takeSign (Nat.toDigits 10 magnitude ++ after) = _
    rw [takeSign, Stateful.get_bind_apply, if_neg unsigned]
    rfl

/-- After a number, no digit and no dot. -/
def NumberEnds : List Char → Prop := Stops fun c => c.isDigit || c == '.'

theorem NumberEnds.digits (ends : NumberEnds rest) : Stops Char.isDigit rest := by
  cases rest with
  | nil => rfl
  | cons c rest => exact (Bool.or_eq_false_iff.mp ends).1

theorem NumberEnds.point (ends : NumberEnds rest) : rest.head? ≠ some '.' := by
  rintro point
  rw [NumberEnds, Stops, point] at ends
  cases ends

theorem head_toString (value : Int64) :
    ∃ first tail, (toString value.toInt).toList = first :: tail ∧ (first = '-' ∨ first.isDigit = true) := by
  obtain ⟨negative, magnitude, spelled, -⟩ := exists_digits value.toInt
  obtain ⟨first, tail, shape, digit⟩ := toDigits_cons magnitude
  rw [spelled, shape]
  cases negative with
  | true => exact ⟨_, _, rfl, .inl rfl⟩
  | false => exact ⟨_, _, rfl, .inr digit⟩

theorem isWhitespace_of_number {c : Char} (number : c = '-' ∨ c.isDigit = true) : isWhitespace c = false := by
  rcases number with rfl | digit
  · rfl
  · exact isWhitespace_of_isAlphanum (Bool.or_eq_true_iff.mpr (.inr digit))

theorem solid_toString (value : Int64) : Solid isWhitespace (toString value.toInt).toList := by
  obtain ⟨first, tail, spelled, number⟩ := head_toString value
  rw [spelled]
  exact solid_cons.mpr (isWhitespace_of_number number)

end Aios.Rust
