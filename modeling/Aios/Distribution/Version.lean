import Aios.Distribution.Vocabulary
import Aios.Lib.Delimited
import Aios.Lib.Lexicographic
import Mathlib.Data.List.TakeWhile

/-! # Versions

The embedding of `version.rs`: a strict parser of version strings, and the ordering of versions. The
precedence that the ordering is meant to compute is a linear order on keys: three numbers, and above
all prereleases the absent one; prereleases are compared identifier by identifier, numbers below words,
numbers by value. The ordering agrees with it wherever every numeric identifier fits in 64 bits.

Strings are compared character by character, which is the byte order of their UTF-8 encodings.
-/

namespace Aios.Distribution

section

variable {mark : Char} {version : SemVer} {text before : List Char}

structure SemVer where
  major : ℕ
  minor : ℕ
  patch : ℕ
  prerelease : Option String
  build : Option String
deriving DecidableEq, Repr

/-- `char::is_ascii_digit`. -/
def isAsciiDigit (c : Char) : Bool := c.isDigit

/-- What may stand in a prerelease or in build metadata. -/
def isSuffixChar (c : Char) : Bool := c.isAlpha || c.isDigit || c == '-' || c == '.'

/-- `str::split_once`. -/
def splitOnce (mark : Char) (text : List Char) : Option (List Char × List Char) :=
  match text.dropWhile (· != mark) with
  | [] => none
  | _ :: after => some (text.takeWhile (· != mark), after)

/-- The value of a string of digits. -/
def digitsValue (digits : List Char) : ℕ := digits.foldl (fun value c => 10 * value + (c.toNat - '0'.toNat)) 0

/-- `str::parse::<u64>` on a string of digits. -/
def parseU64 (digits : List Char) : Option ℕ :=
  if digits.isEmpty then none
  else if digitsValue digits < 2 ^ 64 then some (digitsValue digits) else none

/-! ## Parsing -/

/-- A suffix behind its mark: build metadata behind `+`, and the prerelease behind `-`. -/
def splitSuffix (mark : Char) (name : String) (text : List Char) :
    Except DistributionError (List Char × Option String) :=
  match splitOnce mark text with
  | some (before, suffix) =>
    if suffix.isEmpty then .error (.manifestForged s!"empty {name} after '{mark}'")
    else if suffix.all isSuffixChar then .ok (before, some (String.ofList suffix))
    else .error (.manifestForged s!"invalid character in {name}: {String.ofList suffix}")
  | none => .ok (text, none)

def splitBuild : List Char → Except DistributionError (List Char × Option String) :=
  splitSuffix '+' "build metadata"

def splitPrerelease : List Char → Except DistributionError (List Char × Option String) :=
  splitSuffix '-' "prerelease"

def parseNonNegative (s : List Char) (field : String) (full : List Char) : Except DistributionError ℕ :=
  let text := String.ofList s
  let whole := String.ofList full
  if s.isEmpty then .error (.manifestForged s!"empty {field} segment in version: {whole}")
  else if 1 < s.length && s.head? == some '0' then
    .error (.manifestForged s!"leading zero in {field} segment: {text} (full: {whole})")
  else if !s.all isAsciiDigit then
    .error (.manifestForged s!"non-digit in {field} segment: {text} (full: {whole})")
  else match parseU64 s with
    | some value => .ok value
    | none => .error (.manifestForged s!"{field} segment overflow: {text}")

/-- The three numbers before the suffixes. -/
def parseCore (core : List Char) : Except DistributionError (ℕ × ℕ × ℕ) :=
  match core.splitOn '.' with
  | [first, second, third] => do
    let major ← parseNonNegative first "major" core
    let minor ← parseNonNegative second "minor" core
    let patch ← parseNonNegative third "patch" core
    .ok (major, minor, patch)
  | parts => .error (.manifestForged
      s!"expected MAJOR.MINOR.PATCH, got {parts.length} dot-separated parts: {String.ofList core}")

def parse (s : String) : Except DistributionError SemVer :=
  if s.toList.isEmpty then .error (.manifestForged "version string is empty")
  else do
    let (beforeBuild, build) ← splitBuild s.toList
    let (core, prerelease) ← splitPrerelease beforeBuild
    let (major, minor, patch) ← parseCore core
    .ok { major, minor, patch, prerelease, build }

/-! ## Pieces of a text -/

theorem mem_splitOn_of_mem {c : Char} {text : List Char} (inside : c ∈ text) :
    c = mark ∨ ∃ piece ∈ text.splitOn mark, c ∈ piece := by
  induction text with
  | nil => exact absurd inside List.not_mem_nil
  | cons head rest ih =>
    rw [List.splitOn_cons_eq_if_modifyHead]
    split_ifs with isMark
    · obtain rfl | inside := List.mem_cons.mp inside
      · exact .inl (beq_iff_eq.mp isMark)
      · obtain same | ⟨piece, member, found⟩ := ih inside
        · exact .inl same
        · exact .inr ⟨piece, List.mem_cons_of_mem _ member, found⟩
    · cases pieces : rest.splitOn mark with
      | nil => exact absurd pieces (List.splitOn_ne_nil mark rest)
      | cons first others =>
        obtain rfl | inside := List.mem_cons.mp inside
        · exact .inr ⟨c :: first, List.mem_cons_self, List.mem_cons_self⟩
        · obtain same | ⟨piece, member, found⟩ := ih inside
          · exact .inl same
          · rw [pieces] at member
            obtain rfl | member := List.mem_cons.mp member
            · exact .inr ⟨head :: piece, List.mem_cons_self, List.mem_cons_of_mem _ found⟩
            · exact .inr ⟨piece, List.mem_cons_of_mem _ member, found⟩

theorem splitOnce_append (free : mark ∉ before) (after : List Char) :
    splitOnce mark (before ++ mark :: after) = some (before, after) := by
  have passes : ∀ c ∈ before, (c != mark) = true := fun c member =>
    bne_iff_ne.mpr fun same => free (same ▸ member)
  unfold splitOnce
  rw [List.dropWhile_append_of_pos passes, List.takeWhile_append_of_pos passes]
  simp

theorem splitOnce_of_free (free : mark ∉ text) : splitOnce mark text = none := by
  have passes : ∀ c ∈ text, (c != mark) = true := fun c member =>
    bne_iff_ne.mpr fun same => free (same ▸ member)
  unfold splitOnce
  rw [List.dropWhile_eq_nil_iff.mpr passes]

/-- What stands before a suffix is free of its mark, and the suffix has only its characters. -/
theorem splitSuffix_eq_ok {name : String} {suffix : Option String}
    (split : splitSuffix mark name text = .ok (before, suffix)) :
    mark ∉ before ∧ (∀ c ∈ before, c ∈ text) ∧ ∀ s, suffix = some s → s.toList.all isSuffixChar = true := by
  unfold splitSuffix splitOnce at split
  have free : mark ∉ text.takeWhile (· != mark) := by
    intro member
    have differs := List.mem_takeWhile_imp member
    exact bne_iff_ne.mp differs rfl
  cases rest : text.dropWhile (· != mark) with
  | nil =>
    rw [rest] at split
    cases split
    have whole : text.takeWhile (· != mark) = text := by
      rw [List.takeWhile_eq_self_iff]
      exact List.dropWhile_eq_nil_iff.mp rest
    exact ⟨whole ▸ free, fun _ member => member, fun _ found => by cases found⟩
  | cons head after =>
    rw [rest] at split
    dsimp only at split
    split_ifs at split with empty valid
    cases split
    refine ⟨free, fun c member => List.takeWhile_subset _ member, ?_⟩
    rintro s ⟨rfl⟩
    rw [String.toList_ofList]
    exact valid

theorem isSuffixChar_plus : isSuffixChar '+' = false := by decide

/-- The stages of a successful parse. -/
theorem parse_eq_ok {text : String} (parsed : parse text = .ok version) :
    ∃ beforeBuild core, splitBuild text.toList = .ok (beforeBuild, version.build) ∧
      splitPrerelease beforeBuild = .ok (core, version.prerelease) ∧
      parseCore core = .ok (version.major, version.minor, version.patch) := by
  unfold parse at parsed
  split_ifs at parsed
  cases builds : splitBuild text.toList with
  | error failure =>
    rw [builds] at parsed
    cases parsed
  | ok build =>
    obtain ⟨beforeBuild, build⟩ := build
    rw [builds] at parsed
    change (splitPrerelease beforeBuild >>= _) = _ at parsed
    cases prereleases : splitPrerelease beforeBuild with
    | error failure =>
      rw [prereleases] at parsed
      cases parsed
    | ok prerelease =>
      obtain ⟨core, prerelease⟩ := prerelease
      rw [prereleases] at parsed
      change (parseCore core >>= _) = _ at parsed
      cases numbers : parseCore core with
      | error failure =>
        rw [numbers] at parsed
        cases parsed
      | ok number =>
        rw [numbers] at parsed
        cases parsed
        exact ⟨beforeBuild, core, rfl, prereleases, numbers⟩

theorem prerelease_valid {text : String} (parsed : parse text = .ok version) :
    ∀ prerelease, version.prerelease = some prerelease → prerelease.toList.all isSuffixChar = true := by
  obtain ⟨beforeBuild, core, -, prereleases, -⟩ := parse_eq_ok parsed
  exact (splitSuffix_eq_ok prereleases).2.2

/-- A parsed version can be parsed with any other prerelease in the place of its suffixes. -/
theorem parse_withPrerelease {text : String} (parsed : parse text = .ok version) {prerelease : List Char}
    (nonempty : prerelease ≠ []) (valid : prerelease.all isSuffixChar = true) :
    ∃ text', parse text' =
      .ok { version with prerelease := some (String.ofList prerelease), build := none } := by
  obtain ⟨beforeBuild, core, builds, prereleases, numbers⟩ := parse_eq_ok parsed
  obtain ⟨noDash, fromBuild, -⟩ := splitSuffix_eq_ok prereleases
  obtain ⟨noPlus, -, -⟩ := splitSuffix_eq_ok builds
  have plain : '+' ∉ core ++ '-' :: prerelease := by
    rw [List.mem_append, List.mem_cons]
    rintro (member | marks | member)
    · exact noPlus (fromBuild _ member)
    · exact absurd marks (by decide)
    · have allowed := List.all_eq_true.mp valid _ member
      rw [isSuffixChar_plus] at allowed
      cases allowed
  have builds : splitBuild (core ++ '-' :: prerelease) = .ok (core ++ '-' :: prerelease, none) := by
    unfold splitBuild splitSuffix
    rw [splitOnce_of_free plain]
  have prereleases : splitPrerelease (core ++ '-' :: prerelease) = .ok (core, some (String.ofList prerelease)) := by
    unfold splitPrerelease splitSuffix
    rw [splitOnce_append noDash]
    dsimp only
    rw [if_neg (by simpa using nonempty), if_pos valid]
  refine ⟨String.ofList (core ++ '-' :: prerelease), ?_⟩
  unfold parse
  rw [String.toList_ofList, if_neg (by simp), builds]
  change (splitPrerelease (core ++ '-' :: prerelease) >>= _) = _
  rw [prereleases]
  change (parseCore core >>= _) = _
  rw [numbers]
  rfl

end

namespace SemVer

/-- `Display`. -/
def display (self : SemVer) : String :=
  s!"{self.major}.{self.minor}.{self.patch}" ++
    (match self.prerelease with | some pr => s!"-{pr}" | none => "") ++
    (match self.build with | some bld => s!"+{bld}" | none => "")

/-- `PartialEq`: build metadata is left out. -/
def eq (self other : SemVer) : Bool :=
  self.major == other.major && self.minor == other.minor && self.patch == other.patch &&
    self.prerelease == other.prerelease

end SemVer

/-! ## The ordering -/

/-- `str::cmp`. -/
def compareStr : List Char → List Char → Ordering :=
  Lexicographic.compareList fun a b => compare a.toNat b.toNat

def comparePrereleaseId (a b : List Char) : Ordering :=
  match a.all isAsciiDigit, b.all isAsciiDigit with
  | true, true => compare ((parseU64 a).getD 0) ((parseU64 b).getD 0)
  | true, false => .lt
  | false, true => .gt
  | false, false => compareStr a b

def comparePrerelease (a b : String) : Ordering :=
  Lexicographic.compareList comparePrereleaseId (a.toList.splitOn '.') (b.toList.splitOn '.')

namespace SemVer

/-- `Ord::cmp`. -/
def cmp (self other : SemVer) : Ordering :=
  let ordering := (compare self.major other.major).then
    ((compare self.minor other.minor).then (compare self.patch other.patch))
  if ordering ≠ .eq then ordering
  else Lexicographic.compareTop comparePrerelease self.prerelease other.prerelease

/-- `<`. -/
def lt (self other : SemVer) : Bool := self.cmp other == .lt

end SemVer

/-! ## The precedence -/

/-- An identifier of digits is a number, any other a word, and numbers come first. -/
def identifierKey (id : List Char) : ℕ ⊕ₗ List ℕ :=
  if id.all isAsciiDigit then toLex (.inl (digitsValue id)) else toLex (.inr (id.map Char.toNat))

def prereleaseKey (prerelease : String) : List (ℕ ⊕ₗ List ℕ) := (prerelease.toList.splitOn '.').map identifierKey

namespace SemVer

/-- The place of a version in the order of precedence. -/
def precedence (self : SemVer) : ℕ ×ₗ ℕ ×ₗ ℕ ×ₗ WithTop (List (ℕ ⊕ₗ List ℕ)) :=
  toLex (self.major, toLex (self.minor, toLex (self.patch, Lexicographic.topKey prereleaseKey self.prerelease)))

/-- The dot-separated identifiers of the prerelease. -/
def identifiers (self : SemVer) : List (List Char) :=
  match self.prerelease with
  | some prerelease => prerelease.toList.splitOn '.'
  | none => []

/-- Every identifier of digits has a value below `2 ^ 64`. -/
def Fits (self : SemVer) : Prop := ∀ id ∈ self.identifiers, id.all isAsciiDigit = true → digitsValue id < 2 ^ 64

instance (self : SemVer) : Decidable self.Fits :=
  inferInstanceAs (Decidable (∀ id ∈ self.identifiers, id.all isAsciiDigit = true → digitsValue id < 2 ^ 64))

end SemVer

variable {digits : List Char} {text : String} {a version b : SemVer}

theorem parseU64_getD (small : digitsValue digits < 2 ^ 64) : (parseU64 digits).getD 0 = digitsValue digits := by
  unfold parseU64
  cases digits with
  | nil => rfl
  | cons c rest => rw [if_neg (by simp), if_pos small, Option.getD_some]

theorem parseU64_of_le (large : 2 ^ 64 ≤ digitsValue digits) : parseU64 digits = none := by
  unfold parseU64
  rw [if_neg (not_lt.mpr large), ite_self]

theorem compareStr_compares (a b : List Char) : (compareStr a b).Compares (a.map Char.toNat) (b.map Char.toNat) := by
  apply Lexicographic.compareList_compares
  intro c _ d _
  exact Lexicographic.compares_compare_nat c.toNat d.toNat

theorem comparePrereleaseId_compares {a b : List Char} (smallA : a.all isAsciiDigit = true → digitsValue a < 2 ^ 64)
    (smallB : b.all isAsciiDigit = true → digitsValue b < 2 ^ 64) :
    (comparePrereleaseId a b).Compares (identifierKey a) (identifierKey b) := by
  unfold comparePrereleaseId identifierKey
  cases digitsA : a.all isAsciiDigit with
  | true =>
    cases digitsB : b.all isAsciiDigit with
    | true =>
      rw [if_pos rfl, if_pos rfl, parseU64_getD (smallA digitsA), parseU64_getD (smallB digitsB)]
      have values := Lexicographic.compares_compare_nat (digitsValue a) (digitsValue b)
      change (compare (digitsValue a) (digitsValue b)).Compares _ _
      cases order : compare (digitsValue a) (digitsValue b) with
      | lt =>
        rw [order] at values
        exact Sum.Lex.inl_lt_inl_iff.mpr values
      | eq =>
        rw [order] at values
        exact congrArg (fun value => toLex (Sum.inl value)) values
      | gt =>
        rw [order] at values
        exact Sum.Lex.inl_lt_inl_iff.mpr values
    | false => exact Sum.Lex.inl_lt_inr _ _
  | false =>
    cases digitsB : b.all isAsciiDigit with
    | true => exact Sum.Lex.inl_lt_inr _ _
    | false =>
      have words := compareStr_compares a b
      rw [if_neg Bool.false_ne_true, if_neg Bool.false_ne_true]
      change (compareStr a b).Compares _ _
      cases order : compareStr a b with
      | lt =>
        rw [order] at words
        exact Sum.Lex.inr_lt_inr_iff.mpr words
      | eq =>
        rw [order] at words
        exact congrArg (fun word => toLex (Sum.inr word)) words
      | gt =>
        rw [order] at words
        exact Sum.Lex.inr_lt_inr_iff.mpr words

theorem comparePrereleaseId_self (id : List Char) : comparePrereleaseId id id = .eq := by
  unfold comparePrereleaseId
  cases id.all isAsciiDigit with
  | true => exact Nat.compare_eq_eq.mpr rfl
  | false => exact (compareStr_compares id id).eq_eq.mpr rfl

/-- Where numeric identifiers fit in 64 bits, the ordering is the one of precedence. -/
theorem SemVer.cmp_compares (fitsA : a.Fits) (fitsB : b.Fits) : (a.cmp b).Compares a.precedence b.precedence := by
  have prereleases : (Lexicographic.compareTop comparePrerelease a.prerelease b.prerelease).Compares
      (Lexicographic.topKey prereleaseKey a.prerelease) (Lexicographic.topKey prereleaseKey b.prerelease) := by
    apply Lexicographic.compareTop_compares
    intro x foundA y foundB
    apply Lexicographic.compareList_compares
    intro idA memberA idB memberB
    apply comparePrereleaseId_compares
    · apply fitsA idA
      rw [SemVer.identifiers, Option.mem_def.mp foundA]
      exact memberA
    · apply fitsB idB
      rw [SemVer.identifiers, Option.mem_def.mp foundB]
      exact memberB
  have whole := Lexicographic.then_compares (Lexicographic.compares_compare_nat a.major b.major)
    (Lexicographic.then_compares (Lexicographic.compares_compare_nat a.minor b.minor)
      (Lexicographic.then_compares (Lexicographic.compares_compare_nat a.patch b.patch) prereleases))
  have nested : a.cmp b = (compare a.major b.major).then ((compare a.minor b.minor).then
      ((compare a.patch b.patch).then
        (Lexicographic.compareTop comparePrerelease a.prerelease b.prerelease))) := by
    unfold SemVer.cmp
    cases compare a.major b.major <;> cases compare a.minor b.minor <;> cases compare a.patch b.patch <;> rfl
  rw [nested]
  exact whole

/-- `==` is finer than equal precedence. -/
theorem SemVer.precedence_eq_of_eq (same : a.eq b = true) : a.precedence = b.precedence := by
  simp only [SemVer.eq, Bool.and_eq_true, beq_iff_eq] at same
  obtain ⟨⟨⟨major, minor⟩, patch⟩, prerelease⟩ := same
  unfold SemVer.precedence
  rw [major, minor, patch, prerelease]

/-! ## Versions with an identifier past 64 bits -/

/-- The first identifier that does not fit. -/
theorem SemVer.exists_overflow (overflows : ¬ version.Fits) :
    ∃ start id rest, version.identifiers = start ++ id :: rest ∧
      (∀ other ∈ start, other.all isAsciiDigit = true → digitsValue other < 2 ^ 64) ∧
      id.all isAsciiDigit = true ∧ 2 ^ 64 ≤ digitsValue id := by
  cases first : version.identifiers.find? fun id => id.all isAsciiDigit && decide (2 ^ 64 ≤ digitsValue id) with
  | none =>
    refine absurd (fun id member digits => ?_) overflows
    have small := List.find?_eq_none.mp first id member
    rw [digits, Bool.true_and, decide_eq_true_eq] at small
    exact not_le.mp small
  | some id =>
    obtain ⟨large, start, rest, split, before⟩ := List.find?_eq_some_iff_append.mp first
    rw [Bool.and_eq_true, decide_eq_true_eq] at large
    refine ⟨start, id, rest, split, ?_, large.1, large.2⟩
    intro other member digits
    have small := before other member
    rw [digits, Bool.true_and, Bool.not_eq_true', decide_eq_false_iff_not] at small
    exact not_le.mp small

/-- A parsed version can be cut behind some of its identifiers and continued with 1. -/
theorem exists_continued (parsed : parse text = .ok version) {start rest : List (List Char)} {id : List Char}
    (split : version.identifiers = start ++ id :: rest) :
    ∃ text' prerelease, parse text' = .ok { version with prerelease := some prerelease, build := none } ∧
      prerelease.toList.splitOn '.' = start ++ [['1']] := by
  have pieces : ∀ piece ∈ start ++ [['1']], '.' ∉ piece ∧ ∀ c ∈ piece, isSuffixChar c = true := by
    intro piece member
    obtain member | member := List.mem_append.mp member
    · have member : piece ∈ version.identifiers := split ▸ List.mem_append_left _ member
      unfold SemVer.identifiers at member
      cases found : version.prerelease with
      | none =>
        rw [found] at member
        exact absurd member List.not_mem_nil
      | some prerelease =>
        rw [found] at member
        obtain ⟨free, inside⟩ := Delimited.mem_splitOn member
        have valid := List.all_eq_true.mp (prerelease_valid parsed prerelease found)
        exact ⟨free, fun c here => valid c (inside c here)⟩
    · obtain rfl := List.mem_singleton.mp member
      refine ⟨by decide, ?_⟩
      intro c inside
      obtain rfl := List.mem_singleton.mp inside
      decide
  have back : (['.'].intercalate (start ++ [['1']])).splitOn '.' = start ++ [['1']] :=
    List.splitOn_intercalate '.' (fun piece member => (pieces piece member).1) (by simp)
  have valid : (['.'].intercalate (start ++ [['1']])).all isSuffixChar = true := by
    rw [List.all_eq_true]
    intro c inside
    obtain rfl | ⟨piece, member, found⟩ := @mem_splitOn_of_mem '.' c _ inside
    · decide
    · exact (pieces piece (back ▸ member)).2 c found
  have nonempty : ['.'].intercalate (start ++ [['1']]) ≠ [] := by
    intro empty
    rw [empty, List.splitOn_nil] at back
    have last := congrArg List.getLast? back
    rw [List.getLast?_append, List.getLast?_singleton, List.getLast?_singleton] at last
    cases last
  obtain ⟨text', parsed'⟩ := parse_withPrerelease parsed nonempty valid
  refine ⟨text', _, parsed', ?_⟩
  rw [String.toList_ofList]
  exact back

/-- A parsed version that does not fit is judged older than a parsed version of lower precedence. -/
theorem exists_misjudged (parsed : parse text = .ok version) (overflows : ¬ version.Fits) :
    ∃ text' older, parse text' = .ok older ∧ older.Fits ∧ version.lt older = true ∧
      older.precedence < version.precedence := by
  obtain ⟨start, id, rest, split, fits, digits, large⟩ := SemVer.exists_overflow overflows
  obtain ⟨text', continued, parsed', pieces⟩ := exists_continued parsed split
  refine ⟨text', _, parsed', ?_, ?_⟩
  · intro other member
    change other ∈ continued.toList.splitOn '.' at member
    rw [pieces] at member
    obtain member | member := List.mem_append.mp member
    · exact fits other member
    · obtain rfl := List.mem_singleton.mp member
      exact fun _ => by decide
  · cases found : version.prerelease with
    | none =>
      rw [SemVer.identifiers, found] at split
      exact absurd split.symm (List.append_ne_nil_of_right_ne_nil _ (List.cons_ne_nil _ _))
    | some prerelease =>
      have own : prerelease.toList.splitOn '.' = start ++ id :: rest := by
        rw [← split, SemVer.identifiers, found]
      constructor
      · have first : comparePrereleaseId id ['1'] = .lt := by
          unfold comparePrereleaseId
          rw [digits, parseU64_of_le large]
          rfl
        have judged : comparePrerelease prerelease continued = .lt := by
          unfold comparePrerelease
          rw [own, pieces, Lexicographic.compareList_append fun other _ => comparePrereleaseId_self other]
          change (comparePrereleaseId id ['1']).then _ = .lt
          rw [first]
          rfl
        unfold SemVer.lt SemVer.cmp
        rw [found]
        change ((if ((compare version.major version.major).then ((compare version.minor version.minor).then
          (compare version.patch version.patch))) ≠ .eq then _ else comparePrerelease prerelease continued) ==
            .lt) = true
        rw [Nat.compare_eq_eq.mpr rfl, Nat.compare_eq_eq.mpr rfl, Nat.compare_eq_eq.mpr rfl, if_neg (by decide), judged]
        rfl
      · have keys : prereleaseKey continued < prereleaseKey prerelease := by
          unfold prereleaseKey
          rw [own, pieces, List.map_append, List.map_append]
          apply List.Lex.append_left
          apply List.Lex.rel
          unfold identifierKey
          rw [if_pos digits, if_pos (by decide)]
          have one : digitsValue ['1'] = 1 := by decide
          rw [one]
          exact Sum.Lex.inl_lt_inl_iff.mpr (lt_of_lt_of_le (by decide) large)
        unfold SemVer.precedence
        rw [found]
        apply Prod.Lex.toLex_lt_toLex.mpr
        refine .inr ⟨rfl, ?_⟩
        apply Prod.Lex.toLex_lt_toLex.mpr
        refine .inr ⟨rfl, ?_⟩
        apply Prod.Lex.toLex_lt_toLex.mpr
        exact .inr ⟨rfl, WithTop.coe_lt_coe.mpr keys⟩

end Aios.Distribution
