import Aios.Distribution.Manifest
import Aios.Lib.Fallible
import Aios.Lib.SemVerGrammar

/-! # The two version checkers

`parse` and `validate_semver` cut a version at the same marks and read the same three numbers. They differ in the
suffixes, where one does not look at single identifiers, and in the numbers, where the other has no width. Neither
refuses a numeric identifier with a leading zero in a prerelease.
-/

namespace Aios.Distribution

open SemVerGrammar

/-! ## Cuts -/

/-- What stands before the first mark, and what stands behind it. -/
def cutAt (mark : Char) (text : List Char) : List Char × Option (List Char) :=
  match splitOnce mark text with
  | some (before, after) => (before, some after)
  | none => (text, none)

theorem cutAt_append {mark : Char} {before : List Char} (free : mark ∉ before) (suffix : Option (List Char)) :
    cutAt mark (before ++ marked mark suffix) = (before, suffix) := by
  unfold cutAt
  cases suffix with
  | none =>
    rw [marked, List.append_nil, splitOnce_of_free free]
  | some after => rw [marked, splitOnce_append free]

theorem cutAt_spec (mark : Char) (text : List Char) :
    mark ∉ (cutAt mark text).1 ∧ (cutAt mark text).1 ++ marked mark (cutAt mark text).2 = text := by
  by_cases inside : mark ∈ text
  · obtain ⟨before, after, rfl, free⟩ := List.eq_append_cons_of_mem inside
    have cut : cutAt mark (before ++ mark :: after) = (before, some after) := cutAt_append free (some after)
    rw [cut]
    exact ⟨free, rfl⟩
  · have whole := cutAt_append inside none
    rw [marked, List.append_nil] at whole
    rw [whole, marked, List.append_nil]
    exact ⟨inside, rfl⟩

theorem eq_of_splitOn {core first second third : List Char} (cut : core.splitOn '.' = [first, second, third]) :
    core = first ++ '.' :: (second ++ '.' :: third) := by
  have joined : ['.'].intercalate (core.splitOn '.') = core := List.intercalate_splitOn '.'
  rw [cut] at joined
  simpa using joined.symm

/-- What a version is cut into. -/
structure Pieces where
  core : List Char
  preRelease : Option (List Char)
  build : Option (List Char)

def pieces (s : String) : Pieces where
  core := (cutAt '-' (cutAt '+' s.toList).1).1
  preRelease := (cutAt '-' (cutAt '+' s.toList).1).2
  build := (cutAt '+' s.toList).2

theorem pieces_spec (s : String) :
    (pieces s).core ++ marked '-' (pieces s).preRelease ++ marked '+' (pieces s).build = s.toList := by
  unfold pieces
  dsimp only
  rw [(cutAt_spec '-' (cutAt '+' s.toList).1).2, (cutAt_spec '+' s.toList).2]

/-! ## What each checker asks -/

/-- A suffix of its characters. -/
def SuffixText (text : List Char) : Prop := text ≠ [] ∧ ∀ c ∈ text, isSuffixChar c = true

namespace Pieces

variable (self : Pieces)

/-- Three numeric identifiers. -/
def Numbers : Prop :=
  (self.core.splitOn '.').length = 3 ∧ ∀ number ∈ self.core.splitOn '.', NumericIdentifier number

/-- The numbers fit in 64 bits. -/
def Small : Prop := ∀ number ∈ self.core.splitOn '.', digitsValue number < 2 ^ 64

/-- Three numbers, and suffixes of their characters. -/
structure Shaped (pieces : Pieces) : Prop where
  numbers : pieces.Numbers
  preRelease : ∀ text ∈ pieces.preRelease, SuffixText text
  build : ∀ text ∈ pieces.build, SuffixText text

/-- Two dots of a suffix stand side by side, or one at an end of it. -/
def EmptyIdentifier : Prop :=
  (∃ text ∈ self.preRelease, [] ∈ text.splitOn '.') ∨ ∃ text ∈ self.build, [] ∈ text.splitOn '.'

/-- A numeric identifier of the prerelease has a leading zero. -/
def PaddedIdentifier : Prop :=
  ∃ text ∈ self.preRelease, ∃ id ∈ text.splitOn '.', Digits id ∧ LeadingZero id

end Pieces

variable {version : Version} {before id s core text : List Char} {mark c : Char} {value : ℕ}

/-! ## The parser -/

theorem isSuffixChar_iff : isSuffixChar c = true ↔ IdentifierCharacter c ∨ c = '.' := by
  unfold isSuffixChar IdentifierCharacter NonDigit
  simp only [Bool.or_eq_true, beq_iff_eq]
  tauto

/-- A suffix is split off exactly if it is one of suffix characters. -/
theorem splitSuffix_eq_ok_iff {name : String} {suffix : Option String} :
    splitSuffix mark name text = .ok (before, suffix) ↔
      (∀ after ∈ (cutAt mark text).2, SuffixText after) ∧ (cutAt mark text).1 = before ∧
        (cutAt mark text).2.map String.ofList = suffix := by
  unfold splitSuffix cutAt
  cases splitOnce mark text with
  | none =>
    constructor
    · intro split
      cases split
      exact ⟨nofun, rfl, rfl⟩
    · rintro ⟨-, rfl, rfl⟩
      rfl
  | some cut =>
    obtain ⟨before', after⟩ := cut
    dsimp only
    have valid : (∀ after' ∈ some after, SuffixText after') ↔
        after.isEmpty = false ∧ after.all isSuffixChar = true := by
      simp [SuffixText]
    rw [valid]
    split_ifs with empty characters
    · simp [empty]
    · simp [empty, characters]
    · simp [characters]

theorem leadingZero_iff : LeadingZero s ↔ (decide (1 < s.length) && s.head? == some '0') = true := by
  unfold LeadingZero
  rw [Bool.and_eq_true, decide_eq_true_eq, beq_iff_eq]

theorem digits_iff : Digits s ↔ s.isEmpty = false ∧ s.all isAsciiDigit = true := by
  unfold Digits
  rw [List.isEmpty_eq_false_iff, List.all_eq_true]
  rfl

theorem parseU64_eq_some_iff (nonempty : s.isEmpty = false) :
    parseU64 s = some value ↔ digitsValue s < 2 ^ 64 ∧ digitsValue s = value := by
  unfold parseU64
  rw [nonempty, if_neg Bool.false_ne_true, Option.ite_none_right_eq_some, Option.some.injEq]

theorem parseNonNegative_eq_ok_iff {full : List Char} {field : String} :
    parseNonNegative s field full = .ok value ↔
      NumericIdentifier s ∧ digitsValue s < 2 ^ 64 ∧ digitsValue s = value := by
  rw [numericIdentifier_iff, digits_iff, leadingZero_iff]
  unfold parseNonNegative
  dsimp only
  split_ifs with empty leading nonDigit
  · simp [empty]
  · simp [leading]
  · simp only [Bool.not_eq_true'] at nonDigit
    simp [nonDigit]
  · have nonempty : s.isEmpty = false := Bool.eq_false_iff.mpr empty
    have digits : s.all isAsciiDigit = true := by simpa using nonDigit
    rw [← parseU64_eq_some_iff nonempty]
    cases parseU64 s with
    | none => simp
    | some parsed => simp [nonempty, digits, leading]

/-- Three numbers are parsed off the core, one of each piece. -/
theorem parseCore_eq_ok_iff {numbers : ℕ × ℕ × ℕ} :
    parseCore core = .ok numbers ↔ ∃ first second third, core.splitOn '.' = [first, second, third] ∧
      (∀ number ∈ [first, second, third], NumericIdentifier number ∧ digitsValue number < 2 ^ 64) ∧
      numbers = (digitsValue first, digitsValue second, digitsValue third) := by
  unfold parseCore
  split
  · next first second third cut =>
    simp only [Fallible.bind_eq_ok_iff, parseNonNegative_eq_ok_iff, Except.ok.injEq]
    constructor
    · rintro ⟨major, ⟨numeric, small, rfl⟩, minor, ⟨numeric', small', rfl⟩, patch, ⟨numeric'', small'', rfl⟩, rfl⟩
      refine ⟨first, second, third, cut, ?_, rfl⟩
      rw [List.forall_mem_cons, List.forall_mem_cons, List.forall_mem_singleton]
      exact ⟨⟨numeric, small⟩, ⟨numeric', small'⟩, numeric'', small''⟩
    · rintro ⟨first', second', third', cut', each, rfl⟩
      obtain ⟨rfl, rfl, rfl⟩ : first' = first ∧ second' = second ∧ third' = third := by simpa [cut] using cut'.symm
      rw [List.forall_mem_cons, List.forall_mem_cons, List.forall_mem_singleton] at each
      obtain ⟨⟨numeric, small⟩, ⟨numeric', small'⟩, numeric'', small''⟩ := each
      exact ⟨_, ⟨numeric, small, rfl⟩, _, ⟨numeric', small', rfl⟩, _, ⟨numeric'', small'', rfl⟩, rfl⟩
  · next others =>
    constructor
    · intro parsed
      cases parsed
    · rintro ⟨first, second, third, cut, -, -⟩
      exact absurd cut (others first second third)

/-- The parser reads three numbers that fit, and the suffixes of their characters. -/
theorem parse_eq_ok_iff {s : String} {version : SemVer} :
    parse s = .ok version ↔ ∃ first second third, (pieces s).core.splitOn '.' = [first, second, third] ∧
      (∀ number ∈ [first, second, third], NumericIdentifier number ∧ digitsValue number < 2 ^ 64) ∧
      (∀ text ∈ (pieces s).preRelease, SuffixText text) ∧ (∀ text ∈ (pieces s).build, SuffixText text) ∧
      version = ⟨digitsValue first, digitsValue second, digitsValue third,
        (pieces s).preRelease.map String.ofList, (pieces s).build.map String.ofList⟩ := by
  constructor
  · intro parsed
    obtain ⟨beforeBuild, core, build, preRelease, numbers⟩ := parse_eq_ok parsed
    obtain ⟨buildText, rfl, built⟩ := splitSuffix_eq_ok_iff.mp build
    obtain ⟨preReleaseText, rfl, released⟩ := splitSuffix_eq_ok_iff.mp preRelease
    obtain ⟨first, second, third, cut, each, same⟩ := parseCore_eq_ok_iff.mp numbers
    obtain ⟨major, minor, patch⟩ : version.major = digitsValue first ∧ version.minor = digitsValue second ∧
        version.patch = digitsValue third := by simpa using same
    refine ⟨first, second, third, cut, each, preReleaseText, buildText, ?_⟩
    rw [← major, ← minor, ← patch]
    exact congrArg₂ (SemVer.mk _ _ _) released.symm built.symm
  · rintro ⟨first, second, third, cut, each, preReleaseText, buildText, rfl⟩
    have nonempty : s.toList.isEmpty = false := by
      rw [Bool.eq_false_iff]
      intro empty
      have nothing : (pieces s).core = [] := by
        unfold pieces
        rw [List.isEmpty_iff.mp empty]
        rfl
      rw [nothing] at cut
      cases cut
    unfold parse
    rw [nonempty, if_neg Bool.false_ne_true]
    apply Fallible.bind_eq_ok_iff.mpr
    refine ⟨(_, _), splitSuffix_eq_ok_iff.mpr ⟨buildText, rfl, rfl⟩, ?_⟩
    apply Fallible.bind_eq_ok_iff.mpr
    refine ⟨(_, _), splitSuffix_eq_ok_iff.mpr ⟨preReleaseText, rfl, rfl⟩, ?_⟩
    apply Fallible.bind_eq_ok_iff.mpr
    exact ⟨_, parseCore_eq_ok_iff.mpr ⟨first, second, third, cut, each, rfl⟩, rfl⟩

/-- The parser accepts what is shaped as a version, with numbers that fit. -/
theorem parse_accepts_iff (s : String) : (∃ version, parse s = .ok version) ↔ (pieces s).Shaped ∧ (pieces s).Small := by
  constructor
  · rintro ⟨version, parsed⟩
    obtain ⟨first, second, third, cut, each, preRelease, build, -⟩ := parse_eq_ok_iff.mp parsed
    rw [← cut] at each
    refine ⟨⟨⟨?_, fun number member => (each number member).1⟩, preRelease, build⟩,
      fun number member => (each number member).2⟩
    rw [cut]
    rfl
  · rintro ⟨⟨⟨three, numeric⟩, preRelease, build⟩, small⟩
    obtain ⟨first, second, third, cut⟩ := List.length_eq_three.mp three
    refine ⟨_, parse_eq_ok_iff.mpr ⟨first, second, third, cut, ?_, preRelease, build, rfl⟩⟩
    rw [← cut]
    exact fun number member => ⟨numeric number member, small number member⟩

/-! ## The manifest pipeline -/

/-- Words of identifier characters between the dots. -/
def IdentifierText (text : List Char) : Prop := ∀ id ∈ text.splitOn '.', BuildIdentifier id

theorem isValidSemverIdentSegment_iff : isValidSemverIdentSegment text = true ↔ IdentifierText text := by
  unfold isValidSemverIdentSegment IdentifierText
  rw [List.all_eq_true]
  refine forall₂_congr fun id _ => ?_
  rw [buildIdentifier_iff, Bool.and_eq_true, Bool.not_eq_true', List.isEmpty_eq_false_iff, List.all_eq_true]
  refine and_congr_right fun _ => forall₂_congr fun c _ => ?_
  unfold IdentifierCharacter NonDigit
  simp only [Bool.or_eq_true, beq_iff_eq]
  tauto

/-- The texts of identifiers are the suffix texts without an empty identifier. -/
theorem identifierText_iff : IdentifierText text ↔ SuffixText text ∧ [] ∉ text.splitOn '.' := by
  constructor
  · intro identifiers
    refine ⟨⟨?_, fun c inside => ?_⟩, fun member => ?_⟩
    · rintro rfl
      exact (buildIdentifier_iff.mp (identifiers [] List.mem_cons_self)).1 rfl
    · obtain dot | ⟨id, member, inside⟩ := @mem_splitOn_of_mem '.' c text inside
      · exact isSuffixChar_iff.mpr (.inr dot)
      · exact isSuffixChar_iff.mpr (.inl ((buildIdentifier_iff.mp (identifiers id member)).2 c inside))
    · exact (buildIdentifier_iff.mp (identifiers [] member)).1 rfl
  · rintro ⟨⟨-, characters⟩, filled⟩ id member
    obtain ⟨free, inside⟩ := Delimited.mem_splitOn member
    refine buildIdentifier_iff.mpr ⟨fun empty => filled (empty ▸ member), fun c found => ?_⟩
    obtain identifier | rfl := isSuffixChar_iff.mp (characters c (inside c found))
    · exact identifier
    · exact absurd found free

theorem withoutIdentifiers_eq_ok_iff :
    withoutIdentifiers mark s = .ok before ↔
      (∀ text ∈ (cutAt mark s).2, IdentifierText text) ∧ (cutAt mark s).1 = before := by
  unfold withoutIdentifiers cutAt
  cases splitOnce mark s with
  | none =>
    constructor
    · intro kept
      cases kept
      exact ⟨nofun, rfl⟩
    · rintro ⟨-, rfl⟩
      rfl
  | some cut =>
    obtain ⟨before', identifiers⟩ := cut
    have valid : (∀ text ∈ some identifiers, IdentifierText text) ↔ isValidSemverIdentSegment identifiers = true := by
      rw [isValidSemverIdentSegment_iff]
      exact ⟨fun each => each identifiers rfl, fun holds text found => Option.some.inj found ▸ holds⟩
    dsimp only
    rw [valid]
    split_ifs with holds
    · simp [holds]
    · simp [holds]

theorem numericIdentifier_free (numeric : NumericIdentifier id) : '.' ∉ id := fun member =>
  absurd ((numericIdentifier_iff.mp numeric).1.2 '.' member) (by decide)

theorem splitThree_of_splitOn {first second third : List Char} (cut : core.splitOn '.' = [first, second, third]) :
    splitThree core = (first, second, third) := by
  have free : ∀ piece ∈ [first, second, third], '.' ∉ piece := by
    rw [← cut]
    exact fun piece member => (Delimited.mem_splitOn member).1
  rw [List.forall_mem_cons, List.forall_mem_cons] at free
  unfold splitThree
  rw [eq_of_splitOn cut, splitOnce_append free.1]
  dsimp only
  rw [splitOnce_append free.2.1]

/-- The three parts are numeric identifiers exactly if there are three pieces that are. -/
theorem splitThree_numeric_iff (core : List Char) :
    NumericIdentifier (splitThree core).1 ∧ NumericIdentifier (splitThree core).2.1 ∧
        NumericIdentifier (splitThree core).2.2 ↔
      (core.splitOn '.').length = 3 ∧ ∀ number ∈ core.splitOn '.', NumericIdentifier number := by
  have absent : ¬ NumericIdentifier [] := fun numeric => (numericIdentifier_iff.mp numeric).1.1 rfl
  constructor
  · rintro ⟨major, minor, patch⟩
    unfold splitThree at major minor patch
    obtain ⟨free, whole⟩ := cutAt_spec '.' core
    unfold cutAt at free whole
    cases first : splitOnce '.' core with
    | none =>
      rw [first] at minor
      exact absurd minor absent
    | some cut =>
      obtain ⟨a, rest⟩ := cut
      rw [first] at major minor patch free whole
      obtain ⟨free', whole'⟩ := cutAt_spec '.' rest
      unfold cutAt at free' whole'
      cases second : splitOnce '.' rest with
      | none =>
        simp only [second] at patch
        exact absurd patch absent
      | some cut =>
        obtain ⟨b, c⟩ := cut
        simp only [second] at major minor patch free' whole'
        have pieces : core.splitOn '.' = [a, b, c] := by
          rw [← whole, marked, List.splitOn_append_cons_self_of_not_mem free, ← whole', marked,
            List.splitOn_append_cons_self_of_not_mem free', List.splitOn_eq_singleton (numericIdentifier_free patch)]
        rw [pieces, List.forall_mem_cons, List.forall_mem_cons, List.forall_mem_singleton]
        exact ⟨rfl, major, minor, patch⟩
  · rintro ⟨three, numeric⟩
    obtain ⟨a, b, c, cut⟩ := List.length_eq_three.mp three
    rw [cut, List.forall_mem_cons, List.forall_mem_cons, List.forall_mem_singleton] at numeric
    rw [splitThree_of_splitOn cut]
    exact numeric

theorem isNonNegativeInteger_iff : isNonNegativeInteger s = true ↔ Digits s := by
  rw [digits_iff]
  unfold isNonNegativeInteger
  rw [Bool.and_eq_true, Bool.not_eq_true']

theorem numericIdentifier_iff_checked :
    NumericIdentifier s ↔ isNonNegativeInteger s = true ∧ hasLeadingZero s = false := by
  rw [numericIdentifier_iff, isNonNegativeInteger_iff, leadingZero_iff, Bool.not_eq_true]
  rfl

theorem validateSemver_eq_ok_iff (s : String) :
    validateSemver s = .ok () ↔ (pieces s).Numbers ∧ (∀ text ∈ (pieces s).preRelease, IdentifierText text) ∧
      ∀ text ∈ (pieces s).build, IdentifierText text := by
  have numbers := splitThree_numeric_iff (pieces s).core
  obtain ⟨major, minor, patch, parts⟩ : ∃ major minor patch, splitThree (pieces s).core = (major, minor, patch) :=
    ⟨_, _, _, rfl⟩
  have checked : (pieces s).Numbers ↔
      ¬ (!(isNonNegativeInteger major && isNonNegativeInteger minor && isNonNegativeInteger patch)) = true ∧
        ¬ (hasLeadingZero major || hasLeadingZero minor || hasLeadingZero patch) = true := by
    rw [parts] at numbers
    unfold Pieces.Numbers
    rw [← numbers]
    simp only [numericIdentifier_iff_checked, Bool.not_eq_true', Bool.not_eq_false, Bool.and_eq_true, Bool.or_eq_true,
      Bool.not_eq_true, not_or]
    tauto
  unfold validateSemver
  simp only [Fallible.bind_eq_ok_iff, withoutIdentifiers_eq_ok_iff]
  rw [checked]
  constructor
  · rintro ⟨core, ⟨build, rfl⟩, numeric, ⟨preRelease, rfl⟩, accepted⟩
    unfold pieces at parts
    rw [parts] at accepted
    obtain ⟨integers, accepted⟩ := Fallible.check_eq_ok_iff.mp accepted
    exact ⟨⟨integers, (Fallible.guard_eq_ok_iff.mp accepted).1⟩, preRelease, build⟩
  · rintro ⟨⟨integers, plain⟩, preRelease, build⟩
    refine ⟨_, ⟨build, rfl⟩, _, ⟨preRelease, rfl⟩, ?_⟩
    unfold pieces at parts
    rw [parts]
    exact Fallible.check_eq_ok_iff.mpr ⟨integers, Fallible.guard_eq_ok_iff.mpr ⟨plain, rfl⟩⟩

/-- The manifest pipeline accepts what is shaped as a version and has no empty identifier. -/
theorem validateSemver_accepts_iff (s : String) :
    validateSemver s = .ok () ↔ (pieces s).Shaped ∧ ¬ (pieces s).EmptyIdentifier := by
  rw [validateSemver_eq_ok_iff]
  unfold Pieces.EmptyIdentifier
  constructor
  · rintro ⟨numbers, preRelease, build⟩
    refine ⟨⟨numbers, ?_, ?_⟩, ?_⟩
    · exact fun text found => (identifierText_iff.mp (preRelease text found)).1
    · exact fun text found => (identifierText_iff.mp (build text found)).1
    · rintro (⟨text, found, empty⟩ | ⟨text, found, empty⟩)
      · exact (identifierText_iff.mp (preRelease text found)).2 empty
      · exact (identifierText_iff.mp (build text found)).2 empty
  · rintro ⟨⟨numbers, preRelease, build⟩, filled⟩
    rw [not_or] at filled
    refine ⟨numbers, fun text found => ?_, fun text found => ?_⟩
    · exact identifierText_iff.mpr ⟨preRelease text found, fun empty => filled.1 ⟨text, found, empty⟩⟩
    · exact identifierText_iff.mpr ⟨build text found, fun empty => filled.2 ⟨text, found, empty⟩⟩

/-! ## The standard -/

/-- The text is one of the grammar, with numbers that fit in 64 bits. -/
def IsStandard (s : String) : Prop :=
  ∃ version : Version, version.Valid ∧ version.text = s.toList ∧
    ∀ number ∈ [version.major, version.minor, version.patch], digitsValue number < 2 ^ 64

theorem buildIdentifier_free (id : List Char) (identifier : BuildIdentifier id) : '.' ∉ id := by
  intro member
  obtain digit | letter | hyphen := (buildIdentifier_iff.mp identifier).2 '.' member
  · exact absurd digit (by decide)
  · exact absurd letter (by decide)
  · exact absurd hyphen (by decide)

theorem separated_build_iff : Delimited.Separated '.' BuildIdentifier text ↔ IdentifierText text :=
  Delimited.separated_iff buildIdentifier_free

theorem separated_preRelease_iff : Delimited.Separated '.' PreReleaseIdentifier text ↔
    IdentifierText text ∧ ∀ id ∈ text.splitOn '.', ¬ (Digits id ∧ LeadingZero id) := by
  have free (id : List Char) (identifier : PreReleaseIdentifier id) : '.' ∉ id :=
    buildIdentifier_free id (preReleaseIdentifier_iff.mp identifier).1
  rw [Delimited.separated_iff free]
  unfold IdentifierText
  rw [← forall₂_and]
  exact forall₂_congr fun id _ => preReleaseIdentifier_iff

theorem pieces_eq {s : String} {preRelease build : Option (List Char)}
    (text : core ++ marked '-' preRelease ++ marked '+' build = s.toList) (noHyphen : '-' ∉ core)
    (noPlus : '+' ∉ core ++ marked '-' preRelease) : pieces s = ⟨core, preRelease, build⟩ := by
  unfold pieces
  rw [← text, cutAt_append noPlus, cutAt_append noHyphen]

theorem not_mem_of_numericIdentifier (numeric : NumericIdentifier id) (nonDigit : c.isDigit = false) : c ∉ id := by
  intro member
  have digit := (numericIdentifier_iff.mp numeric).1.2 c member
  rw [nonDigit] at digit
  cases digit

theorem not_mem_core (valid : version.Valid) (nonDigit : c.isDigit = false) (noDot : c ≠ '.') : c ∉ version.core := by
  unfold Version.core
  simp only [List.mem_append, List.mem_cons, not_or]
  exact ⟨not_mem_of_numericIdentifier valid.major nonDigit, noDot,
    not_mem_of_numericIdentifier valid.minor nonDigit, noDot, not_mem_of_numericIdentifier valid.patch nonDigit⟩

theorem splitOn_core (valid : version.Valid) :
    version.core.splitOn '.' = [version.major, version.minor, version.patch] := by
  unfold Version.core
  rw [List.splitOn_append_cons_self_of_not_mem (numericIdentifier_free valid.major),
    List.splitOn_append_cons_self_of_not_mem (numericIdentifier_free valid.minor),
    List.splitOn_eq_singleton (numericIdentifier_free valid.patch)]

/-- The marks of a valid version are where it is cut. -/
theorem pieces_of_valid {s : String} (valid : version.Valid) (text : version.text = s.toList) :
    pieces s = ⟨version.core, version.preRelease, version.build⟩ := by
  apply pieces_eq text (not_mem_core valid (by decide) (by decide))
  rw [List.mem_append, not_or]
  refine ⟨not_mem_core valid (by decide) (by decide), ?_⟩
  cases found : version.preRelease with
  | none => exact List.not_mem_nil
  | some preRelease =>
    have identifiers := (separated_preRelease_iff.mp (valid.preRelease preRelease found)).1
    rw [marked, List.mem_cons, not_or]
    refine ⟨by decide, fun member => ?_⟩
    have suffix := (identifierText_iff.mp identifiers).1.2 '+' member
    rw [isSuffixChar_plus] at suffix
    cases suffix

theorem isStandard_iff (s : String) :
    IsStandard s ↔ (pieces s).Shaped ∧ (pieces s).Small ∧ ¬ (pieces s).EmptyIdentifier ∧
      ¬ (pieces s).PaddedIdentifier := by
  have checked := (validateSemver_eq_ok_iff s).symm.trans (validateSemver_accepts_iff s)
  have same : (pieces s).Shaped ∧ (pieces s).Small ∧ ¬ (pieces s).EmptyIdentifier ∧ ¬ (pieces s).PaddedIdentifier ↔
      ((pieces s).Numbers ∧ (∀ text ∈ (pieces s).preRelease, IdentifierText text) ∧
        ∀ text ∈ (pieces s).build, IdentifierText text) ∧ (pieces s).Small ∧ ¬ (pieces s).PaddedIdentifier := by
    rw [checked]
    tauto
  rw [same]
  constructor
  · rintro ⟨version, valid, text, small⟩
    rw [pieces_of_valid valid text]
    have cut := splitOn_core valid
    refine ⟨⟨⟨?_, ?_⟩, ?_, ?_⟩, ?_, ?_⟩
    · rw [cut]
      rfl
    · rw [cut, List.forall_mem_cons, List.forall_mem_cons, List.forall_mem_singleton]
      exact ⟨valid.major, valid.minor, valid.patch⟩
    · exact fun text found => (separated_preRelease_iff.mp (valid.preRelease text found)).1
    · exact fun text found => separated_build_iff.mp (valid.build text found)
    · unfold Pieces.Small
      rw [cut]
      exact small
    · rintro ⟨text, found, id, member, padded⟩
      exact (separated_preRelease_iff.mp (valid.preRelease text found)).2 id member padded
  · rintro ⟨⟨⟨three, numeric⟩, preRelease, build⟩, small, unpadded⟩
    obtain ⟨major, minor, patch, cut⟩ := List.length_eq_three.mp three
    have core := eq_of_splitOn cut
    unfold Pieces.Small at small
    rw [cut] at small
    rw [cut, List.forall_mem_cons, List.forall_mem_cons, List.forall_mem_singleton] at numeric
    refine ⟨⟨major, minor, patch, (pieces s).preRelease, (pieces s).build⟩, ?_, ?_, small⟩
    · refine ⟨numeric.1, numeric.2.1, numeric.2.2, fun text found => ?_, fun text found => ?_⟩
      · refine separated_preRelease_iff.mpr ⟨preRelease text found, fun id member padded => ?_⟩
        exact unpadded ⟨text, found, id, member, padded⟩
      · exact separated_build_iff.mpr (build text found)
    · rw [← pieces_spec s, core]
      rfl

/-! ## Display -/

theorem toList_display (version : SemVer) : version.display.toList =
    (Nat.toDigits 10 version.major ++ '.' :: (Nat.toDigits 10 version.minor ++ '.' :: Nat.toDigits 10 version.patch)) ++
      marked '-' (version.prerelease.map String.toList) ++ marked '+' (version.build.map String.toList) := by
  have itself (text : String) : toString text = text := rfl
  unfold SemVer.display
  simp only [String.toList_append, Nat.toString_eq_ofList_toDigits, String.toList_ofList, itself]
  cases version.prerelease <;> cases version.build <;> simp [marked]

/-- A parsed version is displayed as the text it was parsed from. -/
theorem display_of_parse {s : String} {version : SemVer} (parsed : parse s = .ok version) : version.display = s := by
  obtain ⟨first, second, third, cut, each, -, -, rfl⟩ := parse_eq_ok_iff.mp parsed
  rw [List.forall_mem_cons, List.forall_mem_cons, List.forall_mem_singleton] at each
  have back (suffix : Option (List Char)) : (suffix.map String.ofList).map String.toList = suffix := by
    cases suffix <;> simp
  have written (id : List Char) (numeric : NumericIdentifier id) : Nat.toDigits 10 (digitsValue id) = id :=
    toDigits_of_numericIdentifier numeric
  have whole := pieces_spec s
  rw [eq_of_splitOn cut] at whole
  rw [← String.toList_inj, toList_display, back, back, written first each.1.1, written second each.2.1.1,
    written third each.2.2.1]
  exact whole

/-- Both checkers accept exactly the standard versions, and a parsed version is displayed as its text. -/
structure CheckersAgree (s : String) : Prop where
  checkers : (∃ version, parse s = .ok version) ↔ validateSemver s = .ok ()
  standard : validateSemver s = .ok () ↔ IsStandard s
  display : ∀ version, parse s = .ok version → version.display = s

/-- The checkers agree with the standard on what is not shaped as a version, on what has no empty or padded
identifier and numbers that fit, and on what has both an empty identifier and a number that does not fit. -/
theorem checkersAgree_iff (s : String) :
    CheckersAgree s ↔ ¬ (pieces s).Shaped ∨
      ((pieces s).Small ∧ ¬ (pieces s).EmptyIdentifier ∧ ¬ (pieces s).PaddedIdentifier) ∨
        ¬ (pieces s).Small ∧ (pieces s).EmptyIdentifier := by
  have agree : CheckersAgree s ↔ ((∃ version, parse s = .ok version) ↔ validateSemver s = .ok ()) ∧
      (validateSemver s = .ok () ↔ IsStandard s) :=
    ⟨fun both => ⟨both.checkers, both.standard⟩, fun both => ⟨both.1, both.2, fun _ => display_of_parse⟩⟩
  rw [agree, parse_accepts_iff, validateSemver_accepts_iff, isStandard_iff]
  by_cases shaped : (pieces s).Shaped
  · by_cases small : (pieces s).Small <;> by_cases empty : (pieces s).EmptyIdentifier <;>
      simp [shaped, small, empty]
  · simp [shaped]

/-- The parser accepts an empty identifier, and the manifest pipeline does not. -/
theorem not_checkersAgree_emptyIdentifier : ¬ CheckersAgree "1.0.0-a..b" := by
  intro agree
  have accepted := agree.checkers.mp ⟨⟨1, 0, 0, some "a..b", none⟩, by decide +kernel⟩
  exact absurd accepted (by decide +kernel)

end Aios.Distribution
