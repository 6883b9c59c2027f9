import Aios.Policy.ConditionsParser
import Aios.Rust.Tokens

/-! # Reading the tokens of conditions

What the parser makes of one word, one path, one string and one number, given what follows it.
-/

namespace Aios.Policy.Conditions

open Aios.Rust Scanner Delimited

/-! ## Words -/

def isIdent : List Char → Bool
  | [] => false
  | first :: tail => isIdentStart first && tail.all isIdentContinue

section Words

variable {source : List Char}

theorem isIdent_eq (name : List Char) : isIdent name = Rust.isIdent name := by cases name <;> rfl

/-- The word is there and does not run on, if it starts with a letter. -/
theorem tryConsume_eq {word : String} (starts : word.toList.head?.any Char.isAlpha = true) :
    tryConsume word = tryTake isWhitespace (wordAt word) word.length := by
  have found : (fun rest => word.toList.isPrefixOf rest && !runsOn word rest) = wordAt word := by
    funext rest
    rw [runsOn, starts, Bool.true_and]
    rfl
  rw [← found]
  rfl

/-- A character is taken as the sequence of it. -/
theorem tryConsumeChar_eq (c : Char) : tryConsumeChar c = tryTake isWhitespace (·.head? == some c) 1 :=
  tryTake_singleton c

theorem elementRounds :
    ElementRounds (parseValue source) (unexpectedToken source "`,` or `]`") (parseMoreValues source) := by
  intro fuel values
  rw [parseMoreValues, tryConsumeChar_eq, tryConsumeChar_eq]
  rfl

theorem parseIdentifier_eq :
    parseIdentifier source =
      String.ofList <$> takeWord isWhitespace isIdentStart isIdentContinue (unexpectedToken source "identifier") := by
  have read (left : List Char) :
      (if left.head?.any isIdentStart = true then
        (do set (left.dropWhile isIdentContinue); return String.ofList (left.takeWhile isIdentContinue))
      else unexpectedToken source "identifier" : Parser String) left =
      (String.ofList <$> if left.head?.any isIdentStart = true then span isIdentContinue
        else unexpectedToken source "identifier" : Parser String) left := by
    split_ifs
    · rfl
    · rfl
  funext input
  exact read (input.dropWhile isWhitespace)

theorem readsIdentifiers_parseIdentifier : ReadsIdentifiers (parseIdentifier source) :=
  parseIdentifier_eq ▸ readsIdentifiers_takeWord

theorem skips_parseIdentifier : Skips isWhitespace (parseIdentifier source) := Skips.of_modify.bind

end Words

/-! ## Paths -/

/-- Identifiers with dots between them. -/
def isDotted (subpath : String) : Bool := (subpath.toList.splitOn '.').all isIdent

/-- An adapter declares dotted identifiers that are no typed fields. -/
def ClosedField.wellNamed : ClosedField → Bool
  | .targetAdapterDeclared subpath =>
    isDotted subpath && !((typedFields .target).map Prod.fst).contains subpath
  | _ => true

section Fields

variable {source place : List Char}

variable {field : ClosedField} (owner : Namespace)

theorem exists_typed (field : ClosedField) :
    (∃ subpath, (subpath, field) ∈ ClosedField.typedFields field.owningNamespace) ∨
      ∃ subpath, field = .targetAdapterDeclared subpath := by
  cases field <;> simp [ClosedField.typedFields, ClosedField.owningNamespace]

def entryNamed (owner : Namespace) (entry : String × ClosedField) : Bool :=
  entry.2.asDotted == owner.asStr ++ "." ++ entry.1 && isDotted entry.1 &&
    (ClosedField.typedFields owner).lookup entry.1 == some entry.2

theorem typedFields_named : (ClosedField.typedFields owner).all (entryNamed owner) = true := by
  cases owner <;> decide +kernel

/-- The dotted form of a field is a namespace and a dotted subpath which resolve to it. -/
theorem resolve_asDotted (named : field.wellNamed = true) :
    ∃ subpath, field.asDotted = field.owningNamespace.asStr ++ "." ++ subpath ∧ isDotted subpath = true ∧
      ClosedField.resolve field.owningNamespace subpath = some field := by
  rcases exists_typed field with ⟨subpath, listed⟩ | ⟨subpath, rfl⟩
  · have entry := List.all_eq_true.mp (typedFields_named field.owningNamespace) _ listed
    rw [entryNamed, Bool.and_eq_true, Bool.and_eq_true, beq_iff_eq, beq_iff_eq] at entry
    obtain ⟨⟨dotted, segments⟩, found⟩ := entry
    refine ⟨subpath, dotted, segments, ?_⟩
    rw [ClosedField.resolve, found]
  · rw [ClosedField.wellNamed, Bool.and_eq_true, Bool.not_eq_true'] at named
    obtain ⟨segments, other⟩ := named
    refine ⟨subpath, rfl, segments, ?_⟩
    have absent : (ClosedField.typedFields .target).lookup subpath = none := by
      refine List.lookup_eq_none_iff.mpr fun entry member => ?_
      rw [bne_iff_ne]
      rintro rfl
      have listed := List.mem_map_of_mem (f := Prod.fst) member
      rw [← Bool.not_eq_true, List.contains_iff_mem] at other
      exact other listed
    rw [ClosedField.owningNamespace, ClosedField.resolve, absent]
    rfl

theorem fromToken_asStr : Namespace.fromToken owner.asStr = some owner := by
  cases owner <;> rfl

theorem isIdent_asStr : Rust.isIdent owner.asStr.toList = true := by
  cases owner <;> rfl

/-- A dotted subpath is an identifier and more of them behind dots. -/
theorem exists_segments {subpath : String} (dotted : isDotted subpath = true) :
    ∃ first segments, subpath.toList = first ++ led '.' segments ∧ Rust.isIdent first = true ∧
      ∀ segment ∈ segments, Rust.isIdent segment = true := by
  rw [isDotted, List.all_eq_true] at dotted
  simp only [isIdent_eq] at dotted
  obtain ⟨first, segments, pieces⟩ := List.exists_cons_of_ne_nil (List.splitOn_ne_nil '.' subpath.toList)
  have text := @led_splitOn _ '.' _ subpath.toList
  rw [pieces, led_cons] at text
  rw [pieces] at dotted
  exact ⟨first, segments, (List.cons.inj text).2.symm, List.forall_mem_cons.mp dotted⟩

theorem reads_parseFieldPath (named : field.wellNamed = true) :
    Reads (parseFieldPath source place) field.asDotted.toList field PathEnds := by
  obtain ⟨subpath, spelled, dotted, resolved⟩ := resolve_asDotted named
  obtain ⟨first, segments, written, ident, idents⟩ := exists_segments dotted
  have shape : field.asDotted.toList =
      field.owningNamespace.asStr.toList ++ (['.'] ++ (first ++ led '.' segments)) := by
    rw [spelled, String.toList_append, String.toList_append, written]
    simp
  rw [shape, parseFieldPath]
  refine (readsIdentifiers_parseIdentifier (isIdent_asStr _)).bind ?_ fun _ _ => rfl
  rw [String.ofList_toList, fromToken_asStr]
  refine Reads.after_peek (peeks_skip (solid_cons.mpr rfl)) ?_
  rw [tryConsumeChar_eq]
  refine Reads.bind_free (fun _ => reads_char rfl) ?_
  refine reads_subpath readsIdentifiers_parseIdentifier (fun _ _ => rfl) ident idents ?_
  rw [← written, String.ofList_toList, resolved]

end Fields

/-! ## Literals -/

/-- A backslash before each quote and each backslash. -/
def escape (text : List Char) : List Char := text.flatMap fun c => if c = '"' ∨ c = '\\' then ['\\', c] else [c]

def quoted (text : String) : List Char := '"' :: (escape text.toList ++ ['"'])

/-- A string as it is escaped. -/
def reread (text : String) : String := String.ofList (escape text.toList)

theorem scanString_escaped {escaped : Char} {rest text after : List Char}
    (scanned : scanString rest = some (text, after)) :
    scanString ('\\' :: escaped :: rest) = some ('\\' :: escaped :: text, after) := by
  rw [scanString, scanned]
  rfl

theorem scanString_plain {c : Char} (quote : c ≠ '"') (backslash : c ≠ '\\') {rest text after : List Char}
    (scanned : scanString rest = some (text, after)) : scanString (c :: rest) = some (c :: text, after) := by
  rw [scanString, scanned]
  · rfl
  · exact quote
  · exact fun same _ => backslash same
  · exact fun _ _ same _ => backslash same

/-- A string literal is cut at its closing quote, with the escapes in it as they are written. -/
theorem scanString_escape (text rest : List Char) :
    scanString (escape text ++ '"' :: rest) = some (escape text, rest) := by
  induction text with
  | nil => rw [escape, List.flatMap_nil, List.nil_append, scanString]
  | cons c text ih =>
    have later : escape (c :: text) = (if c = '"' ∨ c = '\\' then ['\\', c] else [c]) ++ escape text :=
      List.flatMap_cons
    rw [later, List.append_assoc]
    by_cases special : c = '"' ∨ c = '\\'
    · rw [if_pos special]
      exact scanString_escaped ih
    · rw [if_neg special]
      rw [not_or] at special
      exact scanString_plain special.1 special.2 ih

end Aios.Policy.Conditions
