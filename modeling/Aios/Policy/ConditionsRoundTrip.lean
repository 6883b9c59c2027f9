import Aios.Policy.ConditionsTokens

/-! # Reading conditions back

Every text that renders a condition, with whitespace where it likes between the tokens, is parsed to the
condition, but for what string literals hold: the escapes in them are kept as they are written.
-/

namespace Aios.Policy.Conditions

open Aios.Rust Scanner

/-! ## Renderings -/

def Value.token : Value → List Char
  | .string text => quoted text
  | .identifier name => name.toList
  | .int value => (toString value.toInt).toList
  | .bool value => (toString value).toList
  | .timestamp text => text.toList

/-- A closed list of values. -/
def listTokens : List Value → List (List Char)
  | [] => [['['], [']']]
  | first :: rest => ['['] :: first.token :: (rest.flatMap fun value => [[','], value.token]) ++ [[']']]

def Predicate.tokens : Predicate → List (List Char)
  | .compare field op rhs => [field.asDotted.toList, op.asStr.toList, rhs.token]
  | .inValues field values => field.asDotted.toList :: "in".toList :: listTokens values
  | .contains field needle => [field.asDotted.toList, "contains".toList, quoted needle]
  | .existsField field => [field.asDotted.toList, "exists".toList]

def predicateTokens : List Predicate → List (List Char)
  | [] => []
  | first :: rest => first.tokens ++ rest.flatMap fun predicate => "and".toList :: predicate.tokens

/-- A word does not run on into what follows it. -/
def Apart (token rest : List Char) : Prop := token.head?.any isIdentStart = true → Stops isIdentContinue rest

instance (token rest : List Char) : Decidable (Apart token rest) :=
  inferInstanceAs (Decidable (_ = true → _ = false))

/-- The text renders the condition, with any whitespace between the tokens that keeps words apart. -/
def Condition.Renders (condition : Condition) (text : String) : Prop :=
  LaidOut isWhitespace Apart (predicateTokens condition.predicates) text.toList

/-! ## What is read back -/

def Predicate.field : Predicate → ClosedField
  | .compare field _ _ | .inValues field _ | .contains field _ | .existsField field => field

def Predicate.values : Predicate → List Value
  | .compare _ _ rhs => [rhs]
  | .inValues _ values => values
  | .contains _ _ | .existsField _ => []

def Value.isTimestamp : Value → Bool
  | .timestamp _ => true
  | _ => false

/-- At least one predicate, no timestamps, and fields with their own names. -/
structure Condition.Renderable (condition : Condition) : Prop where
  nonempty : condition.predicates ≠ []
  untimed : ∀ predicate ∈ condition.predicates, ∀ value ∈ predicate.values, value.isTimestamp = false
  named : ∀ predicate ∈ condition.predicates, predicate.field.wellNamed = true

/-- An identifier literal is an identifier, and not the name of a truth value. -/
def Value.wellNamed : Value → Bool
  | .identifier name => isIdent name.toList && name != "true" && name != "false"
  | _ => true

def Value.isLiteral (value : Value) : Bool := !value.isTimestamp && value.wellNamed

/-- A list of values is not empty. -/
def Predicate.isListed : Predicate → Bool
  | .inValues _ values => !values.isEmpty
  | _ => true

def Value.strings : Value → List String
  | .string text => [text]
  | _ => []

/-- The string literals of a predicate, with the needle. -/
def Predicate.strings : Predicate → List String
  | .compare _ _ rhs => rhs.strings
  | .inValues _ values => values.flatMap Value.strings
  | .contains _ needle => [needle]
  | .existsField _ => []

def Value.reread : Value → Value
  | .string text => .string (Conditions.reread text)
  | value => value

/-- The predicate that is parsed from the rendered one. -/
def Predicate.reread : Predicate → Predicate
  | .compare field op rhs => .compare field op rhs.reread
  | .inValues field values => .inValues field (values.map Value.reread)
  | .contains field needle => .contains field (Conditions.reread needle)
  | .existsField field => .existsField field

/-! ## Tokens -/

section Tokens

variable {source place : List Char} {tokens : List (List Char)}

variable {word : String} {field : ClosedField} {value : Value} {c : Char} {name tail : List Char} (op : CompareOp)

theorem over_tryConsumeChar (solid : isWhitespace c = false) : Over (tryConsumeChar c) ([c] :: tokens) true tokens :=
  tryConsumeChar_eq c ▸ over_char solid

theorem over_tryConsumeChar_other {d : Char} (solid : isWhitespace d = false) (other : d ≠ c) :
    Over (tryConsumeChar c) ((d :: tail) :: tokens) false ((d :: tail) :: tokens) :=
  tryConsumeChar_eq c ▸ over_otherChar solid other

theorem over_tryConsume (starts : word.toList.head?.any Char.isAlpha = true) (ident : Rust.isIdent word.toList = true) :
    Over (tryConsume word) (word.toList :: tokens) true tokens :=
  tryConsume_eq starts ▸ over_word ident

theorem over_tryConsume_other (starts : word.toList.head?.any Char.isAlpha = true)
    (ident : Rust.isIdent word.toList = true) (named : Rust.isIdent name = true) (other : word.toList ≠ name) :
    Over (tryConsume word) (name :: tokens) false (name :: tokens) :=
  tryConsume_eq starts ▸ over_otherWord ident named other

theorem over_rejectDisallowedConjunctions (named : Rust.isIdent name = true) (notOr : "or".toList ≠ name)
    (notNot : "not".toList ≠ name)
    (apart : ∀ rest, Rust.Apart (name ++ tail) rest → Stops isIdentContinue (tail ++ rest)) :
    Over (rejectDisallowedConjunctions source) ((name ++ tail) :: tokens) () ((name ++ tail) :: tokens) :=
  over_reject named notOr notNot (peeks_parenthesis (ungrouped_of_isIdent named)) apart

/-! ### Paths and operators -/

/-- A path is an identifier and more behind a dot. -/
theorem asDotted_toList (named : field.wellNamed = true) :
    ∃ tail, field.asDotted.toList = field.owningNamespace.asStr.toList ++ '.' :: tail := by
  obtain ⟨subpath, spelled, -, -⟩ := resolve_asDotted named
  refine ⟨subpath.toList, ?_⟩
  rw [spelled, String.toList_append, String.toList_append]
  simp

theorem solid_asDotted (named : field.wellNamed = true) : Solid isWhitespace field.asDotted.toList := by
  obtain ⟨tail, spelled⟩ := asDotted_toList named
  rw [spelled]
  exact (solid_of_isIdent (isIdent_asStr _)).append

theorem over_reject_path (named : field.wellNamed = true) :
    Over (rejectDisallowedConjunctions source) (field.asDotted.toList :: tokens) ()
      (field.asDotted.toList :: tokens) := by
  obtain ⟨tail, spelled⟩ := asDotted_toList named
  rw [spelled]
  refine over_rejectDisallowedConjunctions (isIdent_asStr _) ?_ ?_ fun _ _ => rfl
  · cases field.owningNamespace <;> decide
  · cases field.owningNamespace <;> decide

theorem over_parseFieldPath (named : field.wellNamed = true) (next : StartsOutside (· == '.') tokens) :
    Over (parseFieldPath source place) (field.asDotted.toList :: tokens) field tokens := by
  refine over_path Skips.of_modify.bind.bind (solid_asDotted named) ?_ (reads_parseFieldPath named) next
  obtain ⟨tail, spelled⟩ := asDotted_toList named
  rw [spelled]
  cases field.owningNamespace <;> rfl

theorem solid_asStr : Solid isWhitespace op.asStr.toList := by
  cases op <;> exact solid_cons.mpr rfl

theorem tryParseCompareOp_eq :
    tryParseCompareOp = takeFirst [("!=", .neq), ("<=", .lte), (">=", .gte), (.singleton '=', .eq),
      (.singleton '<', .lt), (.singleton '>', .gt)] := rfl

theorem over_tryParseCompareOp (next : StartsOutside (· == '=') tokens) :
    Over tryParseCompareOp (op.asStr.toList :: tokens) (some op) tokens := by
  rw [tryParseCompareOp_eq]
  exact over_takeFirst (solid_asStr op) (by cases op <;> rfl) next

theorem over_noOp (named : Rust.isIdent name = true) :
    Over tryParseCompareOp (name :: tokens) none (name :: tokens) := by
  rw [tryParseCompareOp_eq]
  exact over_takeFirst_none named rfl

/-! ### Values -/

theorem over_parseStringLiteral {text : String} :
    Over (parseStringLiteral source) (quoted text :: tokens) (reread text) tokens := by
  rw [parseStringLiteral, tryConsumeChar_eq]
  exact over_quoted (scanString_escape text.toList)

theorem over_parseNumberLiteral {value : Int64} (next : AfterValue tokens) :
    Over (parseNumberLiteral source) ((toString value.toInt).toList :: tokens) (.int value) tokens :=
  @over_integer _ _ tokens source ConditionParseError.invalidInteger Value.int value next

theorem over_parseValue_word {name : String} (ident : Rust.isIdent name.toList = true) :
    Over (parseValue source) (name.toList :: tokens) (wordValue name) tokens := by
  have named : Over (parseIdentifier source) (name.toList :: tokens) name tokens := by
    have reads := @readsIdentifiers_parseIdentifier source name.toList ident
    rw [String.ofList_toList] at reads
    exact .of_reads skips_parseIdentifier (solid_of_isIdent ident) reads fun _ fits _ => fits.stops ident
  refine Passes.of_skip_get (solid_of_isIdent ident) fun rest => ?_
  obtain ⟨unquoted, numberless, opened⟩ := starts_word ident rest
  rw [if_neg unquoted, if_neg numberless]
  change Over (if (name.toList ++ rest).head?.any Rust.isIdentStart = true then _ else _ : Parser Value) _ _ _
  rw [if_pos opened]
  exact named.bind .of_pure

/-- The name of an identifier literal. -/
theorem isIdent_of_literal {name : String} (literal : (Value.identifier name).isLiteral = true) :
    Rust.isIdent name.toList = true ∧ wordValue name = .identifier name := by
  have named := (Bool.and_eq_true_iff.mp literal).2
  rw [Value.wellNamed, Bool.and_eq_true, Bool.and_eq_true, bne_iff_ne, bne_iff_ne, isIdent_eq] at named
  obtain ⟨⟨ident, notTrue⟩, notFalse⟩ := named
  refine ⟨ident, ?_⟩
  rw [wordValue]
  · exact notTrue
  · exact notFalse

theorem over_parseValue (literal : value.isLiteral = true) (next : AfterValue tokens) :
    Over (parseValue source) (value.token :: tokens) value.reread tokens := by
  cases value with
  | string text =>
    refine Passes.of_skip_get (solid_cons.mpr rfl) fun rest => ?_
    have opened : ((Value.string text).token ++ rest).head? = some '"' := rfl
    rw [if_pos opened]
    exact over_parseStringLiteral.bind .of_pure
  | identifier name =>
    obtain ⟨ident, word⟩ := isIdent_of_literal literal
    have passes := @over_parseValue_word source tokens name ident
    rwa [word] at passes
  | int value =>
    refine Passes.of_skip_get (solid_toString value) fun rest => ?_
    obtain ⟨unquoted, opened⟩ := starts_number value rest
    rw [Value.token, if_neg unquoted, if_pos opened]
    exact over_parseNumberLiteral next
  | bool value =>
    cases value with
    | true => exact @over_parseValue_word source tokens "true" rfl
    | false => exact @over_parseValue_word source tokens "false" rfl
  | timestamp text => cases literal

/-- How the token of a literal can start. -/
def startsValue (c : Char) : Bool := c == '"' || c == '-' || isIdentContinue c

theorem isWhitespace_of_startsValue (starts : startsValue c = true) : isWhitespace c = false := by
  rw [startsValue, Bool.or_eq_true, Bool.or_eq_true, beq_iff_eq, beq_iff_eq] at starts
  rcases starts with (rfl | rfl) | within
  · rfl
  · rfl
  · exact isWhitespace_of_isIdentContinue within

theorem exists_startsValue (literal : value.isLiteral = true) :
    ∃ first tail, value.token = first :: tail ∧ startsValue first = true := by
  have word {name : String} (ident : Rust.isIdent name.toList = true) :
      ∃ first tail, name.toList = first :: tail ∧ startsValue first = true := by
    obtain ⟨first, tail, spelled, starts, -⟩ := isWord_cons ident
    exact ⟨first, tail, spelled, Bool.or_eq_true_iff.mpr (.inr (isIdentContinue_of_start starts))⟩
  cases value with
  | string text => exact ⟨_, _, rfl, rfl⟩
  | identifier name => exact word (isIdent_of_literal literal).1
  | int value =>
    obtain ⟨first, tail, spelled, number⟩ := head_toString value
    refine ⟨first, tail, spelled, ?_⟩
    rcases number with rfl | digit
    · rfl
    · simp [startsValue, isIdentContinue, Char.isAlphanum, digit]
  | bool value =>
    cases value with
    | true => exact @word "true" rfl
    | false => exact @word "false" rfl
  | timestamp text => cases literal

theorem solid_token (literal : value.isLiteral = true) : Solid isWhitespace value.token := by
  obtain ⟨first, tail, spelled, starts⟩ := exists_startsValue literal
  rw [spelled]
  exact solid_cons.mpr (isWhitespace_of_startsValue starts)

/-- A value comes first, of which nothing else starts with the same character. -/
theorem startsOutside_token (literal : value.isLiteral = true) (other : startsValue c = false) :
    StartsOutside (· == c) (value.token :: tokens) := by
  obtain ⟨first, tail, spelled, starts⟩ := exists_startsValue literal
  refine startsOutside_cons (solid_token literal) ?_
  rw [spelled, stops_cons, beq_eq_false_iff_ne]
  rintro rfl
  rw [other] at starts
  cases starts

theorem over_parseValueList {values : List Value} (listed : values ≠ [])
    (literals : ∀ value ∈ values, value.isLiteral = true) :
    Over (parseValueList source) (listTokens values ++ tokens) (values.map Value.reread) tokens := by
  obtain ⟨first, rest, rfl⟩ := List.exists_cons_of_ne_nil listed
  have literal := (List.forall_mem_cons.mp literals).1
  have shape : listTokens (first :: rest) ++ tokens =
      ['['] :: first.token :: (commaTokens Value.token rest ++ [']'] :: tokens) := by
    simp [listTokens, commaTokens]
  have opened : Over (tryConsumeChar ']') (first.token :: (commaTokens Value.token rest ++ [']'] :: tokens)) false
      (first.token :: (commaTokens Value.token rest ++ [']'] :: tokens)) := by
    obtain ⟨head, tail, spelled, starts⟩ := exists_startsValue literal
    rw [spelled]
    refine over_tryConsumeChar_other (isWhitespace_of_startsValue starts) ?_
    rintro rfl
    cases starts
  have elements : Over (do let text ← get; parseMoreValues source (text.length + 1) [])
      (first.token :: (commaTokens Value.token rest ++ [']'] :: tokens)) ((first :: rest).map Value.reread) tokens :=
    over_elements elementRounds fun value member _ => over_parseValue (literals value member)
  rw [shape, parseValueList]
  refine (over_skip (solid_cons.mpr rfl)).bind ((over_tryConsumeChar rfl).bind ?_)
  exact (over_skip (solid_token literal)).bind (opened.bind elements)

/-! ### Predicates -/

theorem startsOutside_word (named : Rust.isIdent name = true) : StartsOutside (· == '.') (name :: tokens) := by
  refine startsOutside_cons (solid_of_isIdent named) ?_
  obtain ⟨first, tail, rfl, starts, -⟩ := isWord_cons named
  rw [stops_cons, beq_eq_false_iff_ne]
  rintro rfl
  cases starts

theorem startsOutside_op : StartsOutside (· == '.') (op.asStr.toList :: tokens) := by
  refine startsOutside_cons (solid_asStr op) ?_
  cases op <;> rfl

/-- A path, and the operator behind it. -/
theorem over_parsePredicate_of {result : Predicate} {token : List Char} {after : List (List Char)}
    (named : field.wellNamed = true) (next : StartsOutside (· == '.') (token :: tokens))
    (rest : Over (parseOperator source field) (token :: tokens) result after) :
    Over (parsePredicate source) (field.asDotted.toList :: token :: tokens) result after := by
  have solid := (next token rfl).1
  refine (over_skip (solid_asDotted named)).bind ((over_reject_path named).bind ?_)
  refine Passes.of_get fun place _ => ?_
  exact (over_parseFieldPath named next).bind ((over_skip solid).bind rest)

theorem over_parsePredicate {predicate : Predicate} (named : predicate.field.wellNamed = true)
    (literals : ∀ value ∈ predicate.values, value.isLiteral = true) (listed : predicate.isListed = true)
    (continues : Continues tokens) :
    Over (parsePredicate source) (predicate.tokens ++ tokens) predicate.reread tokens := by
  have notWord {word name : String} {more : List (List Char)}
      (starts : word.toList.head?.any Char.isAlpha = true) (ident : Rust.isIdent word.toList = true)
      (other : Rust.isIdent name.toList = true) (apart : word.toList ≠ name.toList) :
      Over (tryConsume word) (name.toList :: more) false (name.toList :: more) :=
    over_tryConsume_other starts ident other apart
  cases predicate with
  | compare field op rhs =>
    have literal := literals rhs List.mem_cons_self
    have follows : AfterValue tokens := continues.startsOutside rfl
    refine over_parsePredicate_of named (startsOutside_op op) ?_
    refine (over_tryParseCompareOp op (startsOutside_token literal rfl)).bind ?_
    exact (over_parseValue literal follows).bind .of_pure
  | inValues field values =>
    have some_values : values ≠ [] := by
      rintro rfl
      cases listed
    refine over_parsePredicate_of named (startsOutside_word rfl) ?_
    refine (over_noOp rfl).bind ((over_tryConsume rfl rfl).bind ?_)
    exact (over_parseValueList some_values literals).bind .of_pure
  | contains field needle =>
    refine over_parsePredicate_of named (startsOutside_word rfl) ?_
    refine (over_noOp rfl).bind ((notWord rfl rfl rfl (by decide)).bind ((over_tryConsume rfl rfl).bind ?_))
    exact over_parseStringLiteral.bind .of_pure
  | existsField field =>
    refine over_parsePredicate_of named (startsOutside_word rfl) ?_
    refine (over_noOp rfl).bind ((notWord rfl rfl rfl (by decide)).bind ?_)
    refine (notWord rfl rfl rfl (by decide)).bind ((over_tryConsume rfl rfl).bind ?_)
    exact .of_pure

/-- What a predicate must be to be read back up to its strings. -/
structure Predicate.Readable (predicate : Predicate) : Prop where
  named : predicate.field.wellNamed = true
  literals : ∀ value ∈ predicate.values, value.isLiteral = true
  listed : predicate.isListed = true

theorem over_parseSource {first : Predicate} {rest : List Predicate}
    (readable : ∀ predicate ∈ first :: rest, predicate.Readable) :
    Over (parseSource source) (predicateTokens (first :: rest)) ⟨(first :: rest).map Predicate.reread⟩ [] := by
  obtain ⟨here, later⟩ := List.forall_mem_cons.mp readable
  have others : Over (do let text ← get; parseMorePredicates source (text.length + 1) [first.reread])
      (conjunctTokens Predicate.tokens rest) ([first.reread] ++ rest.map Predicate.reread) [] := by
    refine over_conjuncts (fun _ _ => rfl) (fun _ => ?_) (fun _ => over_tryConsume rfl rfl)
      fun predicate member _ => ?_
    · exact @over_rejectDisallowedConjunctions source _ "and".toList [] rfl (by decide) (by decide) fun _ fits =>
        fits rfl
    · obtain ⟨named, literals, listed⟩ := later predicate member
      exact over_parsePredicate named literals listed
  have condition : Over (parseCondition source) (predicateTokens (first :: rest))
      ⟨(first :: rest).map Predicate.reread⟩ [] :=
    (over_parsePredicate here.named here.literals here.listed (continues_conjunctTokens _ rest)).bind
      (others.bind .of_pure)
  have ended : Over (expectEof source) [] () [] := over_atEof_nil.bind .of_pure
  exact condition.bind (ended.bind .of_pure)

end Tokens

/-! ## Conditions -/

section Conditions

variable {condition : Condition} {text : String}

/-- Every rendering is parsed, to the condition with its strings as they are escaped. -/
theorem parse_of_renders (renderable : condition.Renderable)
    (listed : ∀ predicate ∈ condition.predicates, predicate.isListed = true)
    (identifiers : ∀ predicate ∈ condition.predicates, ∀ value ∈ predicate.values, value.wellNamed = true)
    (renders : condition.Renders text) : parse text = .ok ⟨condition.predicates.map Predicate.reread⟩ := by
  obtain ⟨first, rest, shape⟩ := List.exists_cons_of_ne_nil renderable.nonempty
  have readable : ∀ predicate ∈ first :: rest, predicate.Readable := by
    rw [← shape]
    intro predicate among
    refine ⟨renderable.named predicate among, fun value member => ?_, listed predicate among⟩
    rw [Value.isLiteral, renderable.untimed predicate among value member]
    exact identifiers predicate among value member
  have rendered : LaidOut isWhitespace Apart (predicateTokens (first :: rest)) text.toList := by
    rw [← shape]
    exact renders
  obtain ⟨left, ran, -⟩ := over_parseSource readable text.toList rendered
  rw [parse, ran, shape]
  rfl

/-- Nothing in the text needs an escape. -/
def isPlain (text : String) : Bool := text.toList.all fun c => c != '"' && c != '\\'

theorem escape_cons (c : Char) (text : List Char) :
    escape (c :: text) = (if c = '"' ∨ c = '\\' then ['\\', c] else [c]) ++ escape text := List.flatMap_cons

theorem length_le_escape (text : List Char) : text.length ≤ (escape text).length := by
  induction text with
  | nil => exact Nat.zero_le _
  | cons c text ih =>
    rw [escape_cons, List.length_cons, List.length_append]
    split
    · rw [List.length_cons, List.length_singleton]
      omega
    · rw [List.length_singleton]
      omega

theorem escape_eq_iff (text : List Char) : escape text = text ↔ ∀ c ∈ text, ¬(c = '"' ∨ c = '\\') := by
  induction text with
  | nil => exact ⟨fun _ => nofun, fun _ => rfl⟩
  | cons c text ih =>
    rw [escape_cons, List.forall_mem_cons, ← ih]
    by_cases special : c = '"' ∨ c = '\\'
    · rw [if_pos special]
      refine ⟨fun same => ?_, fun plain => absurd special plain.1⟩
      have longer := congrArg List.length same
      have kept := length_le_escape text
      simp only [List.length_append, List.length_cons, List.length_nil] at longer
      omega
    · rw [if_neg special, List.singleton_append, List.cons_inj_right]
      exact ⟨fun same => ⟨special, same⟩, fun plain => plain.2⟩

theorem reread_eq_iff (text : String) : reread text = text ↔ isPlain text = true := by
  have chars : reread text = text ↔ escape text.toList = text.toList := by
    rw [reread, ← String.toList_inj, String.toList_ofList]
  rw [chars, escape_eq_iff, isPlain, List.all_eq_true]
  refine forall₂_congr fun c _ => ?_
  rw [Bool.and_eq_true, bne_iff_ne, bne_iff_ne, not_or]

theorem Value.reread_eq_iff (value : Value) : value.reread = value ↔ ∀ text ∈ value.strings, isPlain text = true := by
  cases value with
  | string text =>
    rw [Value.reread, Value.string.injEq, Conditions.reread_eq_iff, Value.strings, List.forall_mem_singleton]
  | identifier | int | bool | timestamp => exact ⟨fun _ => nofun, fun _ => rfl⟩

theorem Predicate.reread_eq_iff (predicate : Predicate) :
    predicate.reread = predicate ↔ ∀ text ∈ predicate.strings, isPlain text = true := by
  cases predicate with
  | compare field op rhs =>
    rw [Predicate.strings, ← Value.reread_eq_iff]
    exact ⟨fun same => (Predicate.compare.inj same).2.2, congrArg (Predicate.compare field op)⟩
  | inValues field values =>
    have same : (Predicate.inValues field values).reread = .inValues field values ↔
        values.map Value.reread = values.map id := by
      rw [List.map_id]
      exact ⟨fun same => (Predicate.inValues.inj same).2, congrArg (Predicate.inValues field)⟩
    rw [same, List.map_inj_left, Predicate.strings, List.forall_mem_flatMap]
    exact forall₂_congr fun value _ => value.reread_eq_iff
  | contains field needle =>
    rw [Predicate.strings, List.forall_mem_singleton, ← Conditions.reread_eq_iff]
    exact ⟨fun same => (Predicate.contains.inj same).2, congrArg (Predicate.contains field)⟩
  | existsField field => exact ⟨fun _ => nofun, fun _ => rfl⟩

/-- A rendering is parsed back exactly if no string in the condition needs an escape. -/
theorem parse_eq_ok_iff (renderable : condition.Renderable)
    (listed : ∀ predicate ∈ condition.predicates, predicate.isListed = true)
    (identifiers : ∀ predicate ∈ condition.predicates, ∀ value ∈ predicate.values, value.wellNamed = true)
    (renders : condition.Renders text) :
    parse text = .ok condition ↔
      ∀ predicate ∈ condition.predicates, ∀ text ∈ predicate.strings, isPlain text = true := by
  have same : condition.predicates.map Predicate.reread = condition.predicates.map id ↔
      ∀ predicate ∈ condition.predicates, ∀ text ∈ predicate.strings, isPlain text = true := by
    rw [List.map_inj_left]
    exact forall₂_congr fun predicate _ => predicate.reread_eq_iff
  rw [parse_of_renders renderable listed identifiers renders, ← same, List.map_id]
  exact ⟨fun read => congrArg Condition.predicates (Except.ok.inj read),
    fun kept => congrArg Except.ok (congrArg Condition.mk kept)⟩

theorem parse_of_renders_plain (renderable : condition.Renderable)
    (listed : ∀ predicate ∈ condition.predicates, predicate.isListed = true)
    (identifiers : ∀ predicate ∈ condition.predicates, ∀ value ∈ predicate.values, value.wellNamed = true)
    (plain : ∀ predicate ∈ condition.predicates, ∀ text ∈ predicate.strings, isPlain text = true)
    (renders : condition.Renders text) : parse text = .ok condition :=
  (parse_eq_ok_iff renderable listed identifiers renders).mpr plain

end Conditions

/-! ## Some conditions -/

def onCall : Condition :=
  ⟨[.inValues .targetDeviceClass [.identifier "USB", .int (-12), .bool true],
    .existsField (.targetAdapterDeclared "service.unit"), .contains .subjectGroups "on call",
    .compare .timeHourUtc .lte (.int 17)]⟩

theorem onCall_readBack :
    parse ("target.device_class in[USB , -12,true]and target.service.unit exists\n and subject.groups" ++
      " contains \"on call\"and time.hour_utc<=17 ") = .ok onCall :=
  parse_of_renders_plain ⟨nofun, by decide +kernel, by decide +kernel⟩ (by decide +kernel) (by decide +kernel)
    (by decide +kernel) (laidOut_of_isLaidOut (by decide +kernel))

/-- An empty list of values, and identifier literals that are not read as identifiers. -/
theorem literals_not_readBack :
    (Condition.Renderable ⟨[.inValues .subjectGroups []]⟩ ∧
      Condition.Renders ⟨[.inValues .subjectGroups []]⟩ "subject.groups in []" ∧
      parse "subject.groups in []" = .error (.emptyValueList 1 21)) ∧
    (Condition.Renderable ⟨[.compare .subjectIsAi .eq (.identifier "true")]⟩ ∧
      Condition.Renders ⟨[.compare .subjectIsAi .eq (.identifier "true")]⟩ "subject.is_ai = true" ∧
      parse "subject.is_ai = true" = .ok ⟨[.compare .subjectIsAi .eq (.bool true)]⟩) ∧
    (Condition.Renderable ⟨[.compare .subjectSessionClass .eq (.identifier "a b")]⟩ ∧
      Condition.Renders ⟨[.compare .subjectSessionClass .eq (.identifier "a b")]⟩ "subject.session_class = a b" ∧
      parse "subject.session_class = a b" =
        .error (.unexpectedToken 1 27 "`and` or end of input" "b")) := by
  refine ⟨⟨⟨nofun, ?_, ?_⟩, laidOut_of_isLaidOut ?_, ?_⟩, ⟨⟨nofun, ?_, ?_⟩, laidOut_of_isLaidOut ?_, ?_⟩,
    ⟨nofun, ?_, ?_⟩, laidOut_of_isLaidOut ?_, ?_⟩
  all_goals decide +kernel

end Aios.Policy.Conditions
