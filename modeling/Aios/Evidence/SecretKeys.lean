import Aios.Evidence.Redaction
import Mathlib.Data.List.Infix

/-! # Which keys the scan takes for secrets

A key is matched against the patterns after its words have been set apart: `-`, ` ` and `.` become an underscore, and
another one is put between a lowercase letter and an uppercase letter behind it. So the scan finds a pattern in a key
exactly if the key spells it, with such a boundary in place of an underscore and nowhere else.
-/

namespace Aios.Evidence

open Aios.Rust

/-- `char::to_lowercase` gives one character, or the two it has for `İ`. -/
def Codec.LowersChars (codec : Codec) : Prop :=
  ∀ c, (∃ lower, codec.toLowercase c = [lower]) ∨ codec.toLowercase c = ['i', '\u0307']

/-- What `normalize_key` writes an underscore for. -/
def wordMarks : List Char := ['-', ' ', '.']

/-- A text begins with a spelling of the pattern: its letters in either case, and for an underscore a mark between
words or the step from a lowercase letter to an uppercase one, which stands nowhere else. The flag is set behind a
lowercase letter. -/
inductive Spells (codec : Codec) : Bool → List Char → List Char → Prop
  | done (behindLower : Bool) (text : List Char) : Spells codec behindLower [] text
  | mark (behindLower : Bool) {c : Char} {pattern text : List Char} (listed : c ∈ wordMarks)
    (rest : Spells codec false pattern text) : Spells codec behindLower ('_' :: pattern) (c :: text)
  | boundary {c : Char} {pattern text : List Char} (upper : c.isUpper = true)
    (rest : Spells codec false pattern (c :: text)) : Spells codec true ('_' :: pattern) (c :: text)
  | letter {behindLower : Bool} {c lower : Char} {pattern text : List Char} (unlisted : c ∉ wordMarks)
    (inside : ¬(behindLower = true ∧ c.isUpper = true)) (lowers : codec.toLowercase c = [lower])
    (rest : Spells codec c.isLower pattern text) : Spells codec behindLower (lower :: pattern) (c :: text)

/-- A pattern is spelled somewhere in the key. -/
def SpellsSecret (codec : Codec) (key : String) : Prop :=
  ∃ pattern ∈ SECRET_KEY_PATTERNS, ∃ text, text <:+ key.toList ∧ Spells codec false pattern.toList text

/-- The key contains one of the patterns, ignoring ASCII case. -/
def NamesSecret (key : String) : Prop :=
  ∃ pattern ∈ SECRET_KEY_PATTERNS, ∃ part, part <:+: key.toList ∧ part.map Char.toLower = pattern.toList

/-! ## Spelling and normalization -/

variable {codec : Codec} {behindLower : Bool} {c : Char} {pattern text : List Char}

section

variable {first : Char} {rest : List Char}

theorem mem_wordMarks_iff : c ∈ wordMarks ↔ c = '-' ∨ c = ' ' ∨ c = '.' := by
  simp only [wordMarks, List.mem_cons, List.not_mem_nil, or_false]

theorem isUpper_of_mem_wordMarks (listed : c ∈ wordMarks) : c.isUpper = false := by
  rcases mem_wordMarks_iff.mp listed with rfl | rfl | rfl <;> decide

theorem normalizeChars_mark (listed : c ∈ wordMarks) :
    normalizeChars codec behindLower (c :: text) = '_' :: normalizeChars codec false text :=
  if_pos (mem_wordMarks_iff.mp listed)

theorem isLower_of_isUpper (upper : c.isUpper = true) : c.isLower = false := by
  have upTo : c.val ≤ 'Z'.val := (of_decide_eq_true upper).2
  have apart : ¬ 'a'.val ≤ 'Z'.val := by decide
  refine Bool.eq_false_iff.mpr fun lower => ?_
  have below := of_decide_eq_true (Bool.and_eq_true_iff.mp lower).1
  exact apart (UInt32.le_trans below upTo)

theorem normalizeChars_letter (unlisted : c ∉ wordMarks) (inside : ¬(behindLower = true ∧ c.isUpper = true)) :
    normalizeChars codec behindLower (c :: text) = codec.toLowercase c ++ normalizeChars codec c.isLower text := by
  rw [normalizeChars, if_neg (mt mem_wordMarks_iff.mpr unlisted)]
  split_ifs with upper behind
  · exact absurd ⟨behind, upper⟩ inside
  · rw [isLower_of_isUpper upper, List.nil_append]
  · rfl

theorem normalizeChars_boundary (upper : c.isUpper = true) :
    normalizeChars codec true (c :: text) = '_' :: normalizeChars codec false (c :: text) := by
  have unlisted : ¬(c = '-' ∨ c = ' ' ∨ c = '.') := by
    intro listed
    have lower := isUpper_of_mem_wordMarks (mem_wordMarks_iff.mpr listed)
    rw [upper] at lower
    cases lower
  rw [normalizeChars, normalizeChars, if_neg unlisted, if_neg unlisted, if_pos upper, if_pos upper]
  rfl

/-- No part of the pattern is left half way through the letters of `İ`. -/
def Writable (pattern : List Char) : Prop := pattern.getLast? ≠ some 'i' ∧ '\u0307' ∉ pattern

theorem Writable.tail (writable : Writable (first :: pattern)) : Writable pattern := by
  refine ⟨fun last => writable.1 ?_, fun inside => writable.2 (List.mem_cons_of_mem _ inside)⟩
  rw [List.getLast?_cons, last]
  rfl

/-- A pattern goes through the letters of one character or through none. -/
theorem prefix_letters_iff (lowers : codec.LowersChars) (writable : Writable (first :: pattern)) :
    first :: pattern <+: codec.toLowercase c ++ rest ↔ codec.toLowercase c = [first] ∧ pattern <+: rest := by
  obtain ⟨lower, single⟩ | double := lowers c
  · rw [single, List.singleton_append, List.cons_prefix_cons, List.singleton_inj, eq_comm]
  · rw [double]
    refine iff_of_false ?_ fun spelled => nomatch spelled.1
    intro starts
    rw [List.cons_append, List.cons_prefix_cons] at starts
    obtain ⟨rfl, starts⟩ := starts
    cases pattern with
    | nil => exact writable.1 rfl
    | cons second pattern =>
      rw [List.cons_append, List.cons_prefix_cons] at starts
      exact writable.2 (List.mem_cons_of_mem _ (starts.1 ▸ List.mem_cons_self))

theorem prefix_normalizeChars_letter_iff (lowers : codec.LowersChars) (unlisted : c ∉ wordMarks)
    (inside : ¬(behindLower = true ∧ c.isUpper = true)) (writable : Writable (first :: pattern))
    (rest : pattern <+: normalizeChars codec c.isLower text ↔ Spells codec c.isLower pattern text) :
    first :: pattern <+: normalizeChars codec behindLower (c :: text) ↔
      Spells codec behindLower (first :: pattern) (c :: text) := by
  rw [normalizeChars_letter unlisted inside, prefix_letters_iff lowers writable, rest]
  constructor
  · rintro ⟨lower, spelled⟩
    exact .letter unlisted inside lower spelled
  · intro spelled
    cases spelled with
    | mark _ listed _ => exact absurd listed unlisted
    | boundary upper _ => exact absurd ⟨rfl, upper⟩ inside
    | letter _ _ lower spelled => exact ⟨lower, spelled⟩

/-- The normalized text begins with the pattern exactly if the text begins with a spelling of it. -/
theorem prefix_normalizeChars_iff (lowers : codec.LowersChars) (writable : Writable pattern) :
    pattern <+: normalizeChars codec behindLower text ↔ Spells codec behindLower pattern text := by
  induction text generalizing behindLower pattern with
  | nil =>
    rw [normalizeChars, List.prefix_nil]
    constructor
    · rintro rfl
      exact .done behindLower []
    · intro spelled
      cases spelled
      rfl
  | cons c text ih =>
    cases pattern with
    | nil => exact iff_of_true List.nil_prefix (.done behindLower (c :: text))
    | cons first pattern =>
      by_cases listed : c ∈ wordMarks
      · rw [normalizeChars_mark listed, List.cons_prefix_cons, ih writable.tail]
        constructor
        · rintro ⟨rfl, spelled⟩
          exact .mark behindLower listed spelled
        · intro spelled
          cases spelled with
          | mark _ _ spelled => exact ⟨rfl, spelled⟩
          | boundary upper _ => exact absurd (isUpper_of_mem_wordMarks listed) (by rw [upper]; decide)
          | letter unlisted _ _ _ => exact absurd listed unlisted
      · by_cases inside : behindLower = true ∧ c.isUpper = true
        · obtain ⟨rfl, upper⟩ := inside
          -- behind the underscore of the boundary the same character is read again
          have again : pattern <+: normalizeChars codec false (c :: text) ↔ Spells codec false pattern (c :: text) := by
            cases pattern with
            | nil => exact iff_of_true List.nil_prefix (.done false (c :: text))
            | cons second pattern =>
              exact prefix_normalizeChars_letter_iff lowers listed (by simp) writable.tail (ih writable.tail.tail)
          rw [normalizeChars_boundary upper, List.cons_prefix_cons, again]
          constructor
          · rintro ⟨rfl, spelled⟩
            exact .boundary upper spelled
          · intro spelled
            cases spelled with
            | mark _ marked _ => exact absurd marked listed
            | boundary _ spelled => exact ⟨rfl, spelled⟩
            | letter _ inside _ _ => exact absurd ⟨rfl, upper⟩ inside
        · exact prefix_normalizeChars_letter_iff lowers listed inside writable (ih writable.tail)

/-- A later part of the text, read by itself, ends the normalized text. -/
theorem normalizeChars_suffix (ends : rest <:+ text) :
    normalizeChars codec false rest <:+ normalizeChars codec behindLower text := by
  have again (behindLower : Bool) (text : List Char) :
      normalizeChars codec false text <:+ normalizeChars codec behindLower text := by
    cases text with
    | nil => exact List.suffix_refl _
    | cons c text =>
      by_cases inside : behindLower = true ∧ c.isUpper = true
      · obtain ⟨rfl, upper⟩ := inside
        rw [@normalizeChars_boundary codec c text upper]
        exact List.suffix_cons _ _
      · by_cases listed : c ∈ wordMarks
        · rw [normalizeChars_mark listed, normalizeChars_mark listed]
        · rw [normalizeChars_letter listed inside, normalizeChars_letter listed (by simp)]
  induction text generalizing behindLower with
  | nil =>
    rw [List.suffix_nil.mp ends]
    exact List.nil_suffix
  | cons c text ih =>
    rw [List.suffix_cons_iff] at ends
    obtain rfl | ends := ends
    · exact again behindLower (c :: text)
    · refine List.IsSuffix.trans ?_ (again behindLower (c :: text))
      by_cases listed : c ∈ wordMarks
      · rw [normalizeChars_mark listed]
        exact (ih ends).trans (List.suffix_cons _ _)
      · rw [normalizeChars_letter listed (by simp)]
        exact (ih ends).trans (List.suffix_append _ _)

/-- The first letter of the pattern stands for itself. -/
def BeginsPlain : List Char → Prop
  | [] => False
  | first :: _ => first ≠ '_' ∧ first ≠ '\u0307'

theorem BeginsPlain.not_prefix (begins : BeginsPlain pattern) (other : c = '_' ∨ c = '\u0307') :
    ¬pattern <+: c :: rest := by
  cases pattern with
  | nil => exact begins.elim
  | cons first pattern =>
    intro starts
    obtain ⟨rfl, -⟩ := List.cons_prefix_cons.mp starts
    exact other.elim begins.1 begins.2

/-- A plain pattern stands in the normalized text exactly if it is spelled somewhere in the text. -/
theorem infix_normalizeChars_iff (lowers : codec.LowersChars) (writable : Writable pattern)
    (begins : BeginsPlain pattern) :
    pattern <:+: normalizeChars codec behindLower text ↔
      ∃ rest, rest <:+ text ∧ Spells codec false pattern rest := by
  constructor
  · induction text generalizing behindLower with
    | nil =>
      intro stands
      rw [List.infix_nil.mp stands] at begins
      exact begins.elim
    | cons c text ih =>
      have later (found : ∃ rest, rest <:+ text ∧ Spells codec false pattern rest) :
          ∃ rest, rest <:+ c :: text ∧ Spells codec false pattern rest := by
        obtain ⟨rest, ends, spelled⟩ := found
        exact ⟨rest, ends.trans (List.suffix_cons _ _), spelled⟩
      have plain (stands : pattern <:+: normalizeChars codec false (c :: text)) :
          ∃ rest, rest <:+ c :: text ∧ Spells codec false pattern rest := by
        by_cases listed : c ∈ wordMarks
        · rw [normalizeChars_mark listed, List.infix_cons_iff] at stands
          exact later (ih (stands.resolve_left (begins.not_prefix (.inl rfl))))
        · have whole (here : pattern <+: normalizeChars codec false (c :: text)) :
              ∃ rest, rest <:+ c :: text ∧ Spells codec false pattern rest :=
            ⟨c :: text, List.suffix_refl _, (prefix_normalizeChars_iff lowers writable).mp here⟩
          rw [normalizeChars_letter listed (by simp)] at stands whole
          obtain ⟨lower, single⟩ | double := lowers c
          · rw [single, List.singleton_append] at stands whole
            rw [List.infix_cons_iff] at stands
            exact stands.elim whole fun inner => later (ih inner)
          · rw [double, List.cons_append, List.singleton_append] at stands whole
            rw [List.infix_cons_iff, List.infix_cons_iff] at stands
            exact stands.elim whole fun inner => later (ih (inner.resolve_left (begins.not_prefix (.inr rfl))))
      intro stands
      by_cases inside : behindLower = true ∧ c.isUpper = true
      · obtain ⟨rfl, upper⟩ := inside
        rw [normalizeChars_boundary upper, List.infix_cons_iff] at stands
        exact plain (stands.resolve_left (begins.not_prefix (.inl rfl)))
      · by_cases listed : c ∈ wordMarks
        · rw [normalizeChars_mark listed] at stands
          exact plain (by rwa [normalizeChars_mark listed])
        · rw [normalizeChars_letter listed inside] at stands
          exact plain (by rwa [normalizeChars_letter listed (by simp)])
  · rintro ⟨rest, ends, spelled⟩
    exact ((prefix_normalizeChars_iff lowers writable).mpr spelled).isInfix.trans
      (normalizeChars_suffix ends).isInfix

instance (pattern : List Char) : Decidable (Writable pattern) :=
  inferInstanceAs (Decidable (pattern.getLast? ≠ some 'i' ∧ '\u0307' ∉ pattern))

instance : DecidablePred BeginsPlain
  | [] => isFalse id
  | first :: _ => inferInstanceAs (Decidable (first ≠ '_' ∧ first ≠ '\u0307'))

theorem secretPatterns_plain :
    ∀ pattern ∈ SECRET_KEY_PATTERNS, Writable pattern.toList ∧ BeginsPlain pattern.toList := by
  have each : SECRET_KEY_PATTERNS.all (fun pattern =>
      decide (Writable pattern.toList ∧ BeginsPlain pattern.toList)) = true := by decide +kernel
  exact fun pattern listed => of_decide_eq_true (List.all_eq_true.mp each pattern listed)

/-- The scan matches the keys that spell a pattern. -/
theorem matchesKey_iff_spellsSecret (lowers : codec.LowersChars) (key : String) :
    matchesKey codec SECRET_KEY_PATTERNS key = true ↔ SpellsSecret codec key := by
  have stands (pattern : String) : (normalizeKey codec key).toList.tails.any pattern.toList.isPrefixOf = true ↔
      pattern.toList <:+: normalizeChars codec false key.toList := by
    rw [normalizeKey, String.toList_ofList, List.any_eq_true, List.infix_iff_prefix_suffix]
    simp only [List.mem_tails, List.isPrefixOf_iff_prefix, and_comm]
  rw [matchesKey, List.any_eq_true, SpellsSecret]
  refine exists_congr fun pattern => and_congr_right fun listed => ?_
  obtain ⟨writable, begins⟩ := secretPatterns_plain pattern listed
  rw [stands, infix_normalizeChars_iff lowers writable begins]

/-! ## The entries of a payload -/

end

mutual

/-- The result is the payload with the entries of secret names replaced at every depth, and maybe others. -/
inductive SecretsReplaced : Json → Json → Prop
  | null : SecretsReplaced .null .null
  | bool (value : Bool) : SecretsReplaced (.bool value) (.bool value)
  | number (literal : String) : SecretsReplaced (.number literal) (.number literal)
  | string (value : String) : SecretsReplaced (.string value) (.string value)
  | array {items items' : List Json} (each : List.Forall₂ SecretsReplaced items items') :
    SecretsReplaced (.array items) (.array items')
  | object {fields fields' : List (String × Json)} (each : List.Forall₂ SecretReplaced fields fields') :
    SecretsReplaced (.object fields) (.object fields')

inductive SecretReplaced : String × Json → String × Json → Prop
  | replaced (key : String) (value : Json) : SecretReplaced (key, value) (key, .string REDACTED_SENTINEL)
  | kept {key : String} (plain : ¬NamesSecret key) {value value' : Json} (below : SecretsReplaced value value') :
    SecretReplaced (key, value) (key, value')

end

variable {items : List Json} {fields : List (String × Json)} {field : String × Json} {P : String × Json → Prop}

theorem SecretReplaced.eq_sentinel {field' : String × Json} (treated : SecretReplaced field field')
    (names : NamesSecret field.1) : field'.2 = .string REDACTED_SENTINEL := by
  cases treated with
  | replaced key value => rfl
  | kept plain _ => exact absurd names plain

theorem secretsReplaced_array_iff {items' : List Json} :
    SecretsReplaced (.array items) (.array items') ↔ List.Forall₂ SecretsReplaced items items' := by
  refine ⟨fun replaced => ?_, .array⟩
  cases replaced with
  | array each => exact each

theorem secretsReplaced_object_iff {fields' : List (String × Json)} :
    SecretsReplaced (.object fields) (.object fields') ↔ List.Forall₂ SecretReplaced fields fields' := by
  refine ⟨fun replaced => ?_, .object⟩
  cases replaced with
  | object each => exact each

/-- The object entries of a value at every depth, but for those below a key that spells a pattern. -/
inductive Exposed (codec : Codec) : Json → String × Json → Prop
  | here {fields : List (String × Json)} {field : String × Json} (inside : field ∈ fields) :
    Exposed codec (.object fields) field
  | inField {fields : List (String × Json)} {field entry : String × Json} (inside : field ∈ fields)
    (shown : ¬SpellsSecret codec field.1) (below : Exposed codec field.2 entry) : Exposed codec (.object fields) entry
  | inItem {items : List Json} {item : Json} {entry : String × Json} (inside : item ∈ items)
    (below : Exposed codec item entry) : Exposed codec (.array items) entry

/-- An entry is replaced if its key names a secret. -/
def EntryHandled (codec : Codec) (entry : String × Json) : Prop :=
  NamesSecret entry.1 → SpellsSecret codec entry.1 ∨ entry.2 = .string REDACTED_SENTINEL

theorem forall_exposed_array_iff :
    (∀ entry, Exposed codec (.array items) entry → P entry) ↔
      ∀ item ∈ items, ∀ entry, Exposed codec item entry → P entry := by
  constructor
  · intro holds item inside entry below
    exact holds entry (.inItem inside below)
  · intro holds entry exposed
    cases exposed with
    | inItem inside below => exact holds _ inside entry below

theorem forall_exposed_object_iff :
    (∀ entry, Exposed codec (.object fields) entry → P entry) ↔
      ∀ field ∈ fields, P field ∧ (¬SpellsSecret codec field.1 → ∀ entry, Exposed codec field.2 entry → P entry) := by
  constructor
  · intro holds field inside
    exact ⟨holds field (.here inside), fun shown entry below => holds entry (.inField inside shown below)⟩
  · intro holds entry exposed
    cases exposed with
    | here inside => exact (holds entry inside).1
    | inField inside shown below => exact (holds _ inside).2 shown entry below

theorem eq_string_of_redactKeys {patterns : List String} {payload : Json} {value : String}
    (scanned : redactKeys codec patterns payload = .string value) : payload = .string value := by
  cases payload with
  | array items => exact absurd ((redactKeys_array items).symm.trans scanned) nofun
  | object fields => exact absurd ((redactKeys_object fields).symm.trans scanned) nofun
  | _ => exact scanned

theorem redactField_of_spelled (lowers : codec.LowersChars) (spelled : SpellsSecret codec field.1) :
    redactField codec SECRET_KEY_PATTERNS field = (field.1, .string REDACTED_SENTINEL) := by
  rw [redactField, if_pos ((matchesKey_iff_spellsSecret lowers field.1).mpr spelled)]

theorem redactField_of_not_spelled (lowers : codec.LowersChars) (shown : ¬SpellsSecret codec field.1) :
    redactField codec SECRET_KEY_PATTERNS field = (field.1, redactKeys codec SECRET_KEY_PATTERNS field.2) := by
  rw [redactField, if_neg (mt (matchesKey_iff_spellsSecret lowers field.1).mp shown)]

/-- A field is treated as it should be exactly if its own entry is and, where the scan goes on, those below it are. -/
theorem secretReplaced_iff (lowers : codec.LowersChars) {field : String × Json}
    (below : SecretsReplaced field.2 (redactKeys codec SECRET_KEY_PATTERNS field.2) ↔
      ∀ entry, Exposed codec field.2 entry → EntryHandled codec entry) :
    SecretReplaced field (redactField codec SECRET_KEY_PATTERNS field) ↔ EntryHandled codec field ∧
      (¬SpellsSecret codec field.1 → ∀ entry, Exposed codec field.2 entry → EntryHandled codec entry) := by
  by_cases spelled : SpellsSecret codec field.1
  · rw [redactField_of_spelled lowers spelled]
    exact iff_of_true (.replaced field.1 field.2) ⟨fun _ => .inl spelled, fun shown => absurd spelled shown⟩
  · rw [redactField_of_not_spelled lowers spelled, ← below]
    obtain ⟨key, value⟩ := field
    dsimp only at spelled ⊢
    constructor
    · generalize scanned : redactKeys codec SECRET_KEY_PATTERNS value = result
      intro treated
      cases treated with
      | replaced _ _ =>
        obtain rfl := eq_string_of_redactKeys scanned
        exact ⟨fun _ => .inr rfl, fun _ => .string REDACTED_SENTINEL⟩
      | kept plain inner => exact ⟨fun names => absurd names plain, fun _ => inner⟩
    · rintro ⟨handled, inner⟩
      by_cases names : NamesSecret key
      · obtain rfl : value = .string REDACTED_SENTINEL := (handled names).resolve_left spelled
        exact .replaced key (.string REDACTED_SENTINEL)
      · exact .kept names (inner spelled)

/-- The scan replaces the value of every entry whose key names a secret, at every depth, exactly if each of these keys
that it comes to spells a pattern, or has the sentinel as its value already. -/
theorem secretsReplaced_iff (codec : Codec) (lowers : codec.LowersChars) (payload : Json) :
    SecretsReplaced payload (redactKeys codec SECRET_KEY_PATTERNS payload) ↔
      ∀ entry, Exposed codec payload entry → EntryHandled codec entry := by
  induction payload using Json.forall_tree with
  | null => exact iff_of_true .null nofun
  | bool value => exact iff_of_true (.bool value) nofun
  | number literal => exact iff_of_true (.number literal) nofun
  | string value => exact iff_of_true (.string value) nofun
  | array items ih =>
    rw [redactKeys_array, secretsReplaced_array_iff, List.forall₂_map_right_iff, List.forall₂_same,
      forall_exposed_array_iff]
    exact forall₂_congr ih
  | object fields ih =>
    rw [redactKeys_object, secretsReplaced_object_iff, List.forall₂_map_right_iff, List.forall₂_same,
      forall_exposed_object_iff]
    exact forall₂_congr fun field inside => secretReplaced_iff lowers (ih field.1 field.2 inside)

/-! ## A name in mixed case -/

theorem blankCodec_lowersChars : blankCodec.LowersChars := fun c => .inl ⟨c.toLower, rfl⟩

/-- An object with one entry. -/
def entryPayload (key : String) : Json := .object [(key, .string "hunter2")]

theorem entryPayload_replaced_iff :
    SecretsReplaced (entryPayload "db-password")
        (redactKeys blankCodec SECRET_KEY_PATTERNS (entryPayload "db-password")) ↔
      ∀ entry, Exposed blankCodec (entryPayload "db-password") entry → EntryHandled blankCodec entry :=
  secretsReplaced_iff blankCodec blankCodec_lowersChars (entryPayload "db-password")

/-- The boundary that the scan sees in the key falls into the pattern. -/
theorem passWord_kept :
    ¬∀ (codec : Codec), codec.LowersChars → ∀ payload,
      SecretsReplaced payload (redactKeys codec SECRET_KEY_PATTERNS payload) := by
  intro replaces
  have kept : redactKeys blankCodec SECRET_KEY_PATTERNS (entryPayload "passWord") = entryPayload "passWord" := by
    have unmatched : ¬matchesKey blankCodec SECRET_KEY_PATTERNS "passWord" = true := by decide +kernel
    rw [entryPayload, redactKeys_object, List.map_singleton, redactField, if_neg unmatched]
    rfl
  have names : NamesSecret "passWord" :=
    ⟨"password", List.mem_cons_self, "passWord".toList, List.infix_refl _, by decide +kernel⟩
  have replaced := replaces blankCodec blankCodec_lowersChars (entryPayload "passWord")
  rw [kept, entryPayload, secretsReplaced_object_iff] at replaced
  cases replaced with
  | cons treated _ => exact absurd (Json.string.inj (treated.eq_sentinel names)) (by decide +kernel)

end Aios.Evidence
