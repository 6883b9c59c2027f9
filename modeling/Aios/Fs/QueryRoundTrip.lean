import Aios.Fs.QueryParser
import Aios.Rust.Tokens

/-! # Reading filesystem queries back

Every text that renders a query, with whitespace where it likes between the tokens, is parsed to that
query, if the query is one the parser can return: its fields stand under their own namespaces, each operator
has a right-hand side of its kind, and a list is a range exactly if it is two timestamps.
-/

namespace Aios.Fs.QueryParser

open Aios.Rust Scanner Delimited

/-! ## Renderings -/

/-- A backslash before each quote and each backslash. -/
def escape (text : List Char) : List Char := text.flatMap fun c => if c = '"' ∨ c = '\\' then ['\\', c] else [c]

def quoted (text : String) : List Char := '"' :: (escape text.toList ++ ['"'])

/-- A closed list of strings. -/
def listTokens : List String → List (List Char)
  | [] => [['['], [']']]
  | first :: rest => ['['] :: quoted first :: (commaTokens quoted rest ++ [[']']])

/-- A string is quoted, and a range is the list of its two ends. -/
def valueTokens : QueryValue → List (List Char)
  | .string text => [quoted text]
  | .int value => [(toString value.toInt).toList]
  | .bool value => [(toString value).toList]
  | .stringList values => listTokens values
  | .timeRange start finish => listTokens [start, finish]

def predicateTokens (predicate : QueryPredicate) : List (List Char) :=
  predicate.field.asDotted.toList :: predicate.op.asStr.toList :: valueTokens predicate.rhs

def queryTokens : Query → List (List Char)
  | .and [] => []
  | .and (first :: rest) => predicateTokens first ++ conjunctTokens predicateTokens rest

/-- The canonical text: the tokens with single spaces between them. -/
def render (query : Query) : String := String.ofList ([' '].intercalate (queryTokens query))

/-- The text renders the query, with any whitespace between the tokens that keeps words apart. -/
def Renders (query : Query) (text : String) : Prop := LaidOut isWhitespace Apart (queryTokens query) text.toList

theorem renders_render (query : Query) : Renders query (render query) := by
  rw [Renders, render, String.toList_ofList]
  exact .of_intercalate (List.forall_mem_singleton.mpr rfl) (fun _ _ => rfl) (fun _ _ _ => rfl) _

/-! ## What the parser returns -/

/-- The right-hand sides an operator is parsed with. -/
inductive Fits (parseRfc3339 : String → Option DateTime) : QueryOperator → QueryValue → Prop
  | string {op : QueryOperator} (text : String) (scalar : op ≠ .in) : Fits parseRfc3339 op (.string text)
  | int {op : QueryOperator} (value : Int64) (compares : op ∉ [.in, .contains, .matches]) :
    Fits parseRfc3339 op (.int value)
  | bool {op : QueryOperator} (value : Bool) (compares : op ∉ [.in, .contains, .matches]) :
    Fits parseRfc3339 op (.bool value)
  | list {values : List String} (nonempty : values ≠ []) : Fits parseRfc3339 .in (listValue parseRfc3339 values)

/-- A predicate the parser can return. -/
structure Parsed (parseRfc3339 : String → Option DateTime) (predicate : QueryPredicate) : Prop where
  owned : predicate.owner = predicate.field.owner
  fits : Fits parseRfc3339 predicate.op predicate.rhs

section Returned

variable {source input place : List Char} {parseRfc3339 : String → Option DateTime} {α β : Type}

variable {scanner : Parser α} {fuel : ℕ}

/-- Whatever the scanner returns has the property. -/
abbrev Gives (scanner : Parser α) (Post : α → Prop) : Prop :=
  ∀ input, Ends scanner input (fun value _ => Post value) fun _ => True

theorem owner_of_resolve {owner : QueryNamespace} {subpath : String} {field : QueryField}
    (resolved : QueryField.resolve owner subpath = some field) : owner = field.owner := by
  unfold QueryField.resolve at resolved
  split at resolved <;> cases resolved <;> rfl

theorem gives_any : Gives scanner fun _ => True := by
  intro input
  rw [Ends]
  cases scanner input <;> trivial

theorem Gives.bind {next : α → Parser β} {Mid : α → Prop} {Post : β → Prop} (first : Gives scanner Mid)
    (rest : ∀ value, Mid value → Gives (next value) Post) :
    Gives (scanner >>= next) Post := fun input => Ends.bind (first input) fun value left holds => rest value holds left

theorem gives_parseFieldPath : Gives (parseFieldPath source place) fun path => path.1 = path.2.owner := by
  refine gives_any.bind fun token _ => ?_
  cases QueryNamespace.fromToken token with
  | none => exact fun _ => Ends.of_throw trivial
  | some owner =>
    refine gives_any.bind fun dot _ => ?_
    cases dot with
    | false => exact fun _ => Ends.of_get (Ends.of_throw trivial)
    | true =>
      refine gives_any.bind fun first _ => gives_any.bind fun rest _ => gives_any.bind fun subpath _ => ?_
      cases resolved : QueryField.resolve owner subpath with
      | none => exact fun _ => Ends.of_throw trivial
      | some field => exact fun _ => Ends.of_pure (owner_of_resolve resolved)

theorem gives_tryParseCompareOperator :
    Gives tryParseCompareOperator fun op => ∀ op' ∈ op, op' ∉ [.in, .contains, .matches] := by
  have found {op : QueryOperator} (compares : op ∉ [.in, .contains, .matches]) :
      Gives (pure (some op)) fun op => ∀ op' ∈ op, op' ∉ [.in, .contains, .matches] :=
    fun _ => Ends.of_pure fun _ same => Option.some.inj same ▸ compares
  have option {op : QueryOperator} {scanner : Parser Bool} {next : Parser (Option QueryOperator)}
      (compares : op ∉ [.in, .contains, .matches])
      (rest : Gives next fun op => ∀ op' ∈ op, op' ∉ [.in, .contains, .matches]) :
      Gives (scanner >>= fun taken => if taken = true then pure (some op) else next)
        fun op => ∀ op' ∈ op, op' ∉ [.in, .contains, .matches] := by
    refine gives_any.bind fun taken _ => ?_
    split_ifs
    · exact found compares
    · exact rest
  refine option (by decide) (option (by decide) (option (by decide) (option (by decide) ?_)))
  exact option (by decide) (option (by decide) fun _ => Ends.of_pure nofun)

theorem gives_parseValue {op : QueryOperator} (compares : op ∉ [.in, .contains, .matches]) :
    Gives (parseValue source) (Fits parseRfc3339 op) := by
  have scalar : op ≠ .in := fun same => compares (same ▸ List.mem_cons_self)
  have word (ident : String) : Fits parseRfc3339 op (wordValue ident) := by
    unfold wordValue
    split
    · exact .bool true compares
    · exact .bool false compares
    · exact .string ident scalar
  refine gives_any.bind fun _ _ => gives_any.bind fun _ _ => gives_any.bind fun rest _ => ?_
  split_ifs
  · exact gives_any.bind fun text _ _ => Ends.of_pure (.string text scalar)
  · exact gives_any.bind fun value _ _ => Ends.of_pure (.int value compares)
  · exact gives_any.bind fun ident _ _ => Ends.of_pure (word ident)
  · intro input
    refine Ends.of_get ?_
    split_ifs
    · exact Ends.of_throw trivial
    · exact Ends.of_get (Ends.of_throw trivial)

theorem gives_parseMoreValues {values : List String} : Gives (parseMoreValues source fuel values) (· ≠ []) := by
  induction fuel generalizing values with
  | zero => exact fun _ => Ends.of_throw trivial
  | succ fuel ih =>
    rw [parseMoreValues]
    refine gives_any.bind fun value _ => gives_any.bind fun _ _ => gives_any.bind fun comma _ => ?_
    split_ifs
    · exact ih
    · refine gives_any.bind fun closed _ => ?_
      split_ifs
      · exact fun _ => Ends.of_pure (List.append_ne_nil_of_right_ne_nil _ (List.cons_ne_nil _ _))
      · exact fun _ => Ends.of_get (Ends.of_throw trivial)

theorem gives_parseValueList : Gives (parseValueList parseRfc3339 source) (Fits parseRfc3339 .in) := by
  refine gives_any.bind fun opened _ => ?_
  split_ifs
  · refine gives_any.bind fun _ _ => gives_any.bind fun closed _ => ?_
    split_ifs
    · exact fun _ => Ends.of_get (Ends.of_throw trivial)
    · refine gives_any.bind fun rest _ => ?_
      exact gives_parseMoreValues.bind fun values nonempty _ => Ends.of_pure (.list nonempty)
  · exact fun _ => Ends.of_get (Ends.of_throw trivial)

theorem gives_parseOperator :
    Gives (parseOperator parseRfc3339 source) fun parsed => Fits parseRfc3339 parsed.1 parsed.2 := by
  refine gives_tryParseCompareOperator.bind fun op compares => ?_
  cases op with
  | some op => exact (gives_parseValue (compares op rfl)).bind fun rhs fits _ => Ends.of_pure fits
  | none =>
    refine gives_any.bind fun listed _ => ?_
    split_ifs
    · exact gives_parseValueList.bind fun rhs fits _ => Ends.of_pure fits
    refine gives_any.bind fun contained _ => ?_
    split_ifs
    · exact gives_any.bind fun text _ _ => Ends.of_pure (.string text nofun)
    refine gives_any.bind fun matched _ => ?_
    split_ifs
    · exact gives_any.bind fun text _ _ => Ends.of_pure (.string text nofun)
    · exact fun _ => Ends.of_get (Ends.of_throw trivial)

theorem gives_parsePredicate : Gives (parsePredicate parseRfc3339 source) (Parsed parseRfc3339) := by
  refine gives_any.bind fun _ _ => gives_any.bind fun _ _ => gives_any.bind fun place _ => ?_
  refine gives_parseFieldPath.bind fun path owned => gives_any.bind fun _ _ => ?_
  exact gives_parseOperator.bind fun parsed fits _ => Ends.of_pure ⟨owned, fits⟩

theorem gives_parseMorePredicates {before : List QueryPredicate} (some_before : before ≠ [])
    (parsed : ∀ predicate ∈ before, Parsed parseRfc3339 predicate) :
    Gives (parseMorePredicates parseRfc3339 source fuel before)
      fun predicates => predicates ≠ [] ∧ ∀ predicate ∈ predicates, Parsed parseRfc3339 predicate := by
  induction fuel generalizing before with
  | zero => exact fun _ => Ends.of_throw trivial
  | succ fuel ih =>
    rw [parseMorePredicates]
    refine gives_any.bind fun atEnd _ => ?_
    split_ifs
    · exact fun _ => Ends.of_pure ⟨some_before, parsed⟩
    · refine gives_any.bind fun _ _ => gives_any.bind fun joined _ => ?_
      split_ifs
      · refine gives_parsePredicate.bind fun next holds => ?_
        refine ih (List.append_ne_nil_of_left_ne_nil some_before _) ?_
        exact List.forall_mem_append.mpr ⟨parsed, List.forall_mem_singleton.mpr holds⟩
      · exact fun _ => Ends.of_get (Ends.of_throw trivial)

/-- A query that is returned has predicates, each of which the parser can return. -/
theorem parsed_of_parse {source : String} {query : Query} (ran : parse parseRfc3339 source = .ok query) :
    ∃ first rest, query = .and (first :: rest) ∧ ∀ predicate ∈ first :: rest, Parsed parseRfc3339 predicate := by
  have gives : Gives (parseSource parseRfc3339 source.toList) fun query =>
      ∃ first rest, query = .and (first :: rest) ∧ ∀ predicate ∈ first :: rest, Parsed parseRfc3339 predicate := by
    refine Gives.bind (gives_parsePredicate.bind fun first holds => gives_any.bind fun rest _ => ?_)
      fun query parsed => gives_any.bind fun _ _ _ => Ends.of_pure parsed
    refine (gives_parseMorePredicates (List.cons_ne_nil first []) (List.forall_mem_singleton.mpr holds)).bind ?_
    rintro predicates ⟨nonempty, each⟩ left
    obtain ⟨first, rest, rfl⟩ := List.exists_cons_of_ne_nil nonempty
    exact Ends.of_pure ⟨first, rest, rfl, each⟩
  rw [parse] at ran
  cases reached : parseSource parseRfc3339 source.toList source.toList with
  | error failure left =>
    rw [reached] at ran
    cases ran
  | ok value left =>
    rw [reached] at ran
    obtain rfl : value = query := Except.ok.inj ran
    exact (gives source.toList).ok reached

end Returned

/-! ## Tokens -/

section Tokens

variable {source place : List Char} {parseRfc3339 : String → Option DateTime} {α : Type} {tokens : List (List Char)}

variable {op : QueryOperator} {word text : String} {values : List String} {name token : List Char} {rhs : QueryValue}
  (field : QueryField) (owner : QueryNamespace)

theorem over_keyword (ident : isIdent word.toList = true) :
    Over (tryConsumeKeyword word) (word.toList :: tokens) true tokens := over_word ident

theorem over_otherKeyword (ident : isIdent word.toList = true) (named : isIdent name = true)
    (other : word.toList ≠ name) :
    Over (tryConsumeKeyword word) (name :: tokens) false (name :: tokens) := over_otherWord ident named other

theorem peeks_rejectParentheses {token : List Char} {Follow : List Char → Prop} (solid : Solid isWhitespace token)
    (other : Ungrouped token) : Peeks (rejectParentheses source) token () Follow :=
  (peeks_skip solid).bind (peeks_parenthesis other)

theorem over_rejectDisallowedTokens {tail : List Char} (named : isIdent name = true) (notOr : "or".toList ≠ name)
    (notNot : "not".toList ≠ name) (apart : ∀ rest, Apart (name ++ tail) rest → Stops isIdentContinue (tail ++ rest)) :
    Over (rejectDisallowedTokens source) ((name ++ tail) :: tokens) () ((name ++ tail) :: tokens) :=
  over_reject named notOr notNot (peeks_rejectParentheses (solid_of_isIdent named) (ungrouped_of_isIdent named)) apart

/-! ### Paths -/

theorem reads_parseIdentifier : ReadsIdentifiers (parseIdentifier source) := readsIdentifiers_takeWord

/-- The identifiers of the subpath of a field. -/
def segments : QueryField → List Char × List (List Char)
  | .objectKind => ("kind".toList, [])
  | .objectPrivacyClass => ("privacy_class".toList, [])
  | .objectLifecycleState => ("lifecycle_state".toList, [])
  | .objectMetadataName => ("metadata".toList, ["name".toList])
  | .objectPolicyTags => ("policy_tags".toList, [])
  | .versionState => ("state".toList, [])
  | .versionCreatedAt => ("created_at".toList, [])
  | .versionCreatedBy => ("created_by".toList, [])
  | .pointerKind => ("kind".toList, [])
  | .namespaceClass => ("class".toList, [])

/-- The dotted form of a field is its namespace and the identifiers of its subpath, which resolve to it. -/
theorem segments_spec :
    field.asDotted.toList =
        field.owner.asStr.toList ++ '.' :: ((segments field).1 ++ led '.' (segments field).2) ∧
      (isIdent (segments field).1 = true ∧ ∀ segment ∈ (segments field).2, isIdent segment = true) ∧
      QueryField.resolve field.owner (String.ofList ((segments field).1 ++ led '.' (segments field).2)) =
        some field := by
  cases field with
  | objectMetadataName => exact ⟨rfl, ⟨rfl, List.forall_mem_singleton.mpr rfl⟩, rfl⟩
  | _ => exact ⟨rfl, ⟨rfl, nofun⟩, rfl⟩

theorem fromToken_asStr : QueryNamespace.fromToken owner.asStr = some owner := by
  cases owner <;> rfl

theorem isIdent_asStr : isIdent owner.asStr.toList = true := by
  cases owner <;> rfl

theorem solid_asDotted : Solid isWhitespace field.asDotted.toList := by
  rw [(segments_spec field).1]
  exact (solid_of_isIdent (isIdent_asStr _)).append

theorem over_reject_path :
    Over (rejectDisallowedTokens source) (field.asDotted.toList :: tokens) () (field.asDotted.toList :: tokens) := by
  rw [(segments_spec field).1]
  refine over_rejectDisallowedTokens (isIdent_asStr _) ?_ ?_ fun _ _ => rfl
  · cases field.owner <;> decide
  · cases field.owner <;> decide

theorem reads_parseFieldPath :
    Reads (parseFieldPath source place) field.asDotted.toList (field.owner, field) PathEnds := by
  obtain ⟨spelled, ⟨ident, idents⟩, resolved⟩ := segments_spec field
  have shape : field.asDotted.toList =
      field.owner.asStr.toList ++ (['.'] ++ ((segments field).1 ++ led '.' (segments field).2)) := spelled
  rw [shape, parseFieldPath]
  refine (reads_parseIdentifier (isIdent_asStr _)).bind ?_ fun _ _ => rfl
  rw [String.ofList_toList, fromToken_asStr]
  refine Reads.bind_free (fun _ => reads_char rfl) ?_
  refine reads_subpath reads_parseIdentifier (fun _ _ => rfl) ident idents ?_
  rw [resolved]

theorem over_parseFieldPath (next : StartsOutside (· == '.') tokens) :
    Over (parseFieldPath source place) (field.asDotted.toList :: tokens) (field.owner, field) tokens :=
  over_path skips_map_takeWord.bind (solid_asDotted field) (by cases field <;> rfl) (reads_parseFieldPath field) next

/-! ### Operators -/

theorem solid_asStr (op : QueryOperator) : Solid isWhitespace op.asStr.toList := by
  cases op <;> exact solid_cons.mpr rfl

theorem tryParseCompareOperator_eq :
    tryParseCompareOperator = takeFirst [("!=", .neq), ("<=", .lte), (">=", .gte), (.singleton '=', .eq),
      (.singleton '<', .lt), (.singleton '>', .gt)] := by
  simp only [takeFirst, tryTake_singleton]
  rfl

theorem over_tryParseCompareOperator (compares : op ∉ [.in, .contains, .matches])
    (next : StartsOutside (· == '=') tokens) :
    Over tryParseCompareOperator (op.asStr.toList :: tokens) (some op) tokens := by
  rw [tryParseCompareOperator_eq]
  refine over_takeFirst (solid_asStr op) ?_ next
  cases op with
  | «in» | contains | «matches» => exact absurd compares (by decide)
  | _ => rfl

theorem over_noOperator (named : isIdent name = true) :
    Over tryParseCompareOperator (name :: tokens) none (name :: tokens) := by
  rw [tryParseCompareOperator_eq]
  exact over_takeFirst_none named rfl

/-! ### Literals -/

/-- A string literal is cut at its closing quote, and its escapes are undone. -/
theorem scanString_escape (text rest : List Char) : scanString (escape text ++ '"' :: rest) = some (text, rest) := by
  induction text with
  | nil => rw [escape, List.flatMap_nil, List.nil_append, scanString]
  | cons c text ih =>
    have later : escape (c :: text) = (if c = '"' ∨ c = '\\' then ['\\', c] else [c]) ++ escape text :=
      List.flatMap_cons
    rw [later, List.append_assoc]
    by_cases special : c = '"' ∨ c = '\\'
    · rw [if_pos special, List.cons_append, List.singleton_append, scanString, ih]
      rw [Option.map_some, unescaped, if_pos special]
      rfl
    · rw [if_neg special, List.singleton_append]
      rw [not_or] at special
      rw [scanString, ih]
      · rfl
      · exact special.1
      · exact fun same _ => special.2 same
      · exact fun _ _ same _ => special.2 same

theorem over_parseStringLiteral : Over (parseStringLiteral source) (quoted text :: tokens) text tokens := by
  have passes := @over_quoted _ text.toList tokens scanString (fun place => errorAt source place .unterminatedString)
    (unexpectedToken source "`\"`-quoted string literal") (escape text.toList) (scanString_escape text.toList)
  rwa [String.ofList_toList] at passes

/-! ### Values -/

/-- Looking at the first token behind the whitespace, which is no parenthesis. -/
theorem over_ungrouped {next : List Char → Parser α} {value : α} {after : List (List Char)}
    (solid : Solid isWhitespace token) (other : Ungrouped token)
    (rest : ∀ rest, Over (next (token ++ rest)) (token :: tokens) value after) :
    Over (do skipWhitespace; rejectParentheses source; let rest ← get; next rest) (token :: tokens) value after := by
  intro text laid
  obtain ⟨left, found, fits, others⟩ := laid.dropWhile solid
  have ungrouped : rejectParentheses source (token ++ left) = .ok () (token ++ left) :=
    @peeks_rejectParentheses source token (fun _ => True) solid other left trivial
  have skipped : skipWhitespace text = .ok () (token ++ left) := congrArg (EStateM.Result.ok ()) found
  rw [Stateful.bind_of_ok skipped, Stateful.bind_of_ok ungrouped]
  exact rest left (token ++ left) (.here fits others)

theorem over_parseValue_word {name : String} (ident : isIdent name.toList = true) :
    Over (parseValue source) (name.toList :: tokens) (wordValue name) tokens := by
  have named : Over (parseIdentifier source) (name.toList :: tokens) name tokens := by
    have reads := @reads_parseIdentifier source name.toList ident
    rw [String.ofList_toList] at reads
    exact .of_reads skips_map_takeWord (solid_of_isIdent ident) reads fun _ fits _ => fits.stops ident
  refine over_ungrouped (solid_of_isIdent ident) (ungrouped_of_isIdent ident) fun rest => ?_
  obtain ⟨unquoted, numberless, opened⟩ := starts_word ident rest
  rw [if_neg unquoted, if_neg numberless, if_pos opened]
  exact named.bind .of_pure

theorem over_parseValue_string : Over (parseValue source) (quoted text :: tokens) (.string text) tokens := by
  refine over_ungrouped (solid_cons.mpr rfl) (ungrouped_cons (by decide) (by decide)) fun rest => ?_
  have opened : (quoted text ++ rest).head? = some '"' := rfl
  rw [if_pos opened]
  exact over_parseStringLiteral.bind .of_pure

theorem over_parseValue_int {value : Int64} (next : AfterValue tokens) :
    Over (parseValue source) ((toString value.toInt).toList :: tokens) (.int value) tokens := by
  obtain ⟨first, tail, spelled, number⟩ := head_toString value
  have other {c : Char} (sign : c ≠ '-') (digit : c.isDigit = false) : first ≠ c := by
    rintro rfl
    rcases number with same | impossible
    · exact sign same
    · rw [digit] at impossible
      cases impossible
  have ungrouped : Ungrouped (toString value.toInt).toList := by
    rw [spelled]
    exact ungrouped_cons (other (by decide) rfl) (other (by decide) rfl)
  refine over_ungrouped (solid_toString value) ungrouped fun rest => ?_
  obtain ⟨unquoted, opened⟩ := starts_number value rest
  have literal : Over (parseIntegerLiteral source) ((toString value.toInt).toList :: tokens) value tokens :=
    over_integer next
  rw [if_neg unquoted, if_pos opened]
  exact literal.bind .of_pure

theorem over_parseListStringValue : Over (parseListStringValue source) (quoted text :: tokens) text tokens := by
  refine over_ungrouped (solid_cons.mpr rfl) (ungrouped_cons (by decide) (by decide)) fun rest => ?_
  have opened : (quoted text ++ rest).head? = some '"' := rfl
  rw [if_pos opened]
  exact over_parseStringLiteral

theorem over_parseValueList (listed : values ≠ []) :
    Over (parseValueList parseRfc3339 source) (listTokens values ++ tokens) (listValue parseRfc3339 values) tokens := by
  obtain ⟨first, rest, rfl⟩ := List.exists_cons_of_ne_nil listed
  have shape : listTokens (first :: rest) ++ tokens =
      ['['] :: quoted first :: (commaTokens quoted rest ++ [']'] :: tokens) := by
    simp [listTokens]
  have elements : Over (do let text ← get; parseMoreValues source (text.length + 1) [])
      (quoted first :: (commaTokens quoted rest ++ [']'] :: tokens)) ((first :: rest).map id) tokens :=
    over_elements (fun _ _ => rfl) fun _ _ _ _ => over_parseListStringValue
  rw [List.map_id] at elements
  rw [shape]
  refine (over_char rfl).bind ((over_skip (solid_cons.mpr rfl)).bind ?_)
  exact (over_otherChar rfl (by decide)).bind (elements.bind .of_pure)

theorem listValue_tokens : valueTokens (listValue parseRfc3339 values) = listTokens values := by
  unfold listValue
  split
  · split_ifs <;> rfl
  · rfl

/-! ### Predicates -/

theorem over_parseOperator_compare {op : QueryOperator} {rhs : QueryValue} {token : List Char}
    (compares : op ∉ [.in, .contains, .matches]) (next : StartsOutside (· == '=') (token :: tokens))
    (value : Over (parseValue source) (token :: tokens) rhs tokens) :
    Over (parseOperator parseRfc3339 source) (op.asStr.toList :: token :: tokens) (op, rhs) tokens :=
  (over_tryParseCompareOperator compares next).bind (value.bind .of_pure)

theorem over_parseOperator (fits : Fits parseRfc3339 op rhs) (continues : Continues tokens) :
    Over (parseOperator parseRfc3339 source) (op.asStr.toList :: (valueTokens rhs ++ tokens)) (op, rhs) tokens := by
  have quote {text : String} : StartsOutside (· == '=') (quoted text :: tokens) :=
    startsOutside_cons (solid_cons.mpr rfl) rfl
  cases fits with
  | string text scalar =>
    cases op with
    | «in» => exact absurd rfl scalar
    | contains =>
      refine (over_noOperator rfl).bind ((over_otherKeyword rfl rfl (by decide)).bind ?_)
      exact (over_keyword rfl).bind (over_parseStringLiteral.bind .of_pure)
    | «matches» =>
      refine (over_noOperator rfl).bind ((over_otherKeyword rfl rfl (by decide)).bind ?_)
      refine (over_otherKeyword rfl rfl (by decide)).bind ((over_keyword rfl).bind ?_)
      exact over_parseStringLiteral.bind .of_pure
    | _ => exact over_parseOperator_compare (by decide) quote over_parseValue_string
  | int value compares =>
    obtain ⟨first, tail, spelled, number⟩ := head_toString value
    have outside : Stops (· == '=') (toString value.toInt).toList := by
      rw [spelled, stops_cons, beq_eq_false_iff_ne]
      rintro rfl
      rcases number with impossible | impossible <;> cases impossible
    exact over_parseOperator_compare compares (startsOutside_cons (solid_toString value) outside)
      (over_parseValue_int (continues.startsOutside rfl))
  | bool value compares =>
    cases value with
    | true =>
      exact over_parseOperator_compare compares (startsOutside_cons (solid_cons.mpr rfl) rfl)
        (@over_parseValue_word source tokens "true" rfl)
    | false =>
      exact over_parseOperator_compare compares (startsOutside_cons (solid_cons.mpr rfl) rfl)
        (@over_parseValue_word source tokens "false" rfl)
  | @list values nonempty =>
    rw [listValue_tokens]
    refine (over_noOperator rfl).bind ((over_keyword rfl).bind ?_)
    exact (over_parseValueList nonempty).bind .of_pure

theorem startsOutside_operator (op : QueryOperator) : StartsOutside (· == '.') (op.asStr.toList :: tokens) := by
  refine startsOutside_cons (solid_asStr op) ?_
  cases op <;> rfl

theorem over_parsePredicate {predicate : QueryPredicate} (parsed : Parsed parseRfc3339 predicate)
    (continues : Continues tokens) :
    Over (parsePredicate parseRfc3339 source) (predicateTokens predicate ++ tokens) predicate tokens := by
  obtain ⟨owner, field, op, rhs⟩ := predicate
  obtain ⟨owned, fits⟩ := parsed
  obtain rfl : owner = field.owner := owned
  refine (over_skip (solid_asDotted field)).bind ((over_reject_path field).bind (Passes.of_get fun place _ => ?_))
  refine (over_parseFieldPath field (startsOutside_operator op)).bind ((over_skip (solid_asStr op)).bind ?_)
  exact (over_parseOperator fits continues).bind .of_pure

theorem over_parseSource {first : QueryPredicate} {rest : List QueryPredicate}
    (parsed : ∀ predicate ∈ first :: rest, Parsed parseRfc3339 predicate) :
    Over (parseSource parseRfc3339 source) (queryTokens (.and (first :: rest))) (.and (first :: rest)) [] := by
  obtain ⟨here, later⟩ := List.forall_mem_cons.mp parsed
  have others : Over (do let text ← get; parseMorePredicates parseRfc3339 source (text.length + 1) [first])
      (conjunctTokens predicateTokens rest) ([first] ++ rest.map id) [] := by
    refine over_conjuncts (fun _ _ => rfl) (fun _ => ?_) (fun _ => over_keyword rfl)
      fun predicate member _ => over_parsePredicate (later predicate member)
    exact @over_rejectDisallowedTokens source _ "and".toList [] rfl (by decide) (by decide) fun _ fits => fits rfl
  rw [List.map_id] at others
  have query : Over (parseQuery parseRfc3339 source) (queryTokens (.and (first :: rest))) (.and (first :: rest)) [] :=
    (over_parsePredicate here (continues_conjunctTokens _ rest)).bind (others.bind .of_pure)
  have ended : Over (expectEof source) [] () [] := over_atEof_nil.bind .of_pure
  exact query.bind (ended.bind .of_pure)

end Tokens

/-! ## Queries -/

section Queries

variable {parseRfc3339 : String → Option DateTime} {source text : String} {query : Query}

/-- Every rendering of a query the parser returned is parsed to it again. -/
theorem parse_of_renders (parsed : parse parseRfc3339 source = .ok query) (renders : Renders query text) :
    parse parseRfc3339 text = .ok query := by
  obtain ⟨first, rest, rfl, each⟩ := parsed_of_parse parsed
  obtain ⟨left, ran, -⟩ := over_parseSource each text.toList renders
  rw [parse, ran]
  rfl

/-- What is parsed is parsed again from its canonical text. -/
theorem parse_render_of_parse (parsed : parse parseRfc3339 source = .ok query) :
    parse parseRfc3339 (render query) = .ok query :=
  parse_of_renders parsed (renders_render query)

/-- The two ends of an hour. -/
def theHour (text : String) : Option DateTime :=
  if text = "2026-01-01T00:00:00Z" then some 1767225600000000000
  else if text = "2026-01-01T01:00:00Z" then some 1767229200000000000
  else none

/-- Escapes, a bare word, a range and a list. -/
def recentApps : Query :=
  .and
    [⟨.object, .objectMetadataName, .contains, .string "a \"b\\ \\n"⟩,
      ⟨.version, .versionState, .neq, .string "retired"⟩,
      ⟨.version, .versionCreatedAt, .in, .timeRange "2026-01-01T00:00:00Z" "2026-01-01T01:00:00Z"⟩,
      ⟨.object, .objectKind, .in, .stringList ["app"]⟩]

theorem parse_render_recentApps : parse theHour (render recentApps) = .ok recentApps := by
  have parsed : parse theHour
      ("object . metadata.name contains\"a \\\"b\\\\ \\n\"and version.state!=retired\n" ++
        "and version.created_at in[\"2026-01-01T00:00:00Z\",\"2026-01-01T01:00:00Z\"]and object.kind in [app]") =
      .ok recentApps := by
    decide +kernel
  exact parse_render_of_parse parsed

end Queries

end Aios.Fs.QueryParser
