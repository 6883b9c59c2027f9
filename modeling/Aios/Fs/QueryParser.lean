import Aios.Fs.Query
import Aios.Rust.Lexing

/-! # The parser of filesystem queries

The recursive-descent parser. Its state is what is left of the source; a position in an error is the line
and the column of what has been read. The loops are bounded by the length of the rest. Which texts are RFC 3339
timestamps is left open.
-/

namespace Aios.Fs.QueryParser

open Aios.Rust Scanner

section

variable {α : Type} (source place : List Char) (token : String)

/-- Each error with the line and the column where it was raised. -/
inductive QueryParseError where
  | unexpectedEof (line column : ℕ) (expected : String)
  | unexpectedToken (line column : ℕ) (expected found : String)
  | unknownNamespace (line column : ℕ) (owner : String)
  | unknownField (line column : ℕ) (field : String)
  | unknownOperator (line column : ℕ) (operator : String)
  | disallowedToken (line column : ℕ) (token : String)
  | unterminatedString (line column : ℕ)
  | invalidInteger (line column : ℕ) (literal : String)
  | emptyValueList (line column : ℕ)
  /-- Not an error of the parser: a loop ran longer than its bound. -/
  | outOfFuel
  deriving DecidableEq, Repr

abbrev Parser := EStateM QueryParseError (List Char)

/-! ## Errors -/

def shortSnippet (rest : List Char) : String :=
  let line := (trimEnd rest).takeWhile (· != '\n')
  if line.isEmpty then "<end of input>"
  else if 32 < line.length then String.ofList (line.take 32) ++ "..."
  else String.ofList line

/-- Fail with the error for the place where `place` was left. -/
def errorAt (error : ℕ → ℕ → QueryParseError) : Parser α :=
  let (line, column) := lineColumn source place
  throw (error line column)

/-- `UnexpectedToken` at the cursor. -/
def unexpectedToken (expected : String) : Parser α := do
  let rest ← get
  errorAt source rest fun line column => .unexpectedToken line column expected (shortSnippet rest)

/-- `UnexpectedToken` at the cursor, or `UnexpectedEof` behind the last character. -/
def unexpected (expected : String) : Parser α := do
  let rest ← get
  if rest.isEmpty then
    errorAt source rest fun line column => .unexpectedEof line column expected
  else
    unexpectedToken source expected

/-! ## Tokens -/

def skipWhitespace : Parser Unit := skip isWhitespace

def atEof : Parser Bool := do
  skipWhitespace
  let rest ← get
  return rest.isEmpty

def tryConsumeCharSeq (seq : String) : Parser Bool := tryTake isWhitespace (seq.toList.isPrefixOf ·) seq.length

def tryConsumeChar (c : Char) : Parser Bool := tryTake isWhitespace (·.head? == some c) 1

/-- The word stands here and does not run on. -/
def keywordHere (rest : List Char) : Bool :=
  token.toList.isPrefixOf rest && !(rest.drop token.length).head?.any isIdentContinue

def tryConsumeKeyword : Parser Bool := tryTake isWhitespace (keywordHere token) token.length

def expectEof : Parser Unit := do
  if ← atEof then
    return ()
  else
    unexpectedToken source "end of input"

def rejectParentheses : Parser Unit := do
  skipWhitespace
  let rest ← get
  if rest.head? = some '(' ∨ rest.head? = some ')' then
    errorAt source rest fun line column => .disallowedToken line column (String.ofList (rest.take 1))
  else
    return ()

/-- One turn of the loop of `reject_disallowed_tokens`. -/
def rejectWord : Parser Unit := do
  let rest ← get
  if keywordHere token rest then
    errorAt source rest fun line column => .disallowedToken line column token
  else
    return ()

def rejectDisallowedTokens : Parser Unit := do
  skipWhitespace
  rejectWord source "or"
  rejectWord source "not"
  rejectParentheses source

def parseIdentifier : Parser String :=
  String.ofList <$> takeWord isWhitespace isIdentStart isIdentContinue (unexpected source "identifier")

/-! ## Fields -/

/-- The loop of `parse_field_path`, after the first identifier of the subpath. -/
def parseSegments (source : List Char) : ℕ → String → Parser String
  | 0, _ => throw .outOfFuel
  | fuel + 1, subpath => do
    let saved ← get
    skipWhitespace
    let rest ← get
    if rest.head? = some '.' ∧ rest.tail.head?.any isIdentStart then
      set rest.tail
      let segment ← parseIdentifier source
      parseSegments source fuel (subpath ++ "." ++ segment)
    else
      set saved
      return subpath

def parseFieldPath : Parser (QueryNamespace × QueryField) := do
  let token ← parseIdentifier source
  match QueryNamespace.fromToken token with
  | none => errorAt source place fun line column => .unknownNamespace line column token
  | some owner =>
    if ← tryConsumeChar '.' then
      let first ← parseIdentifier source
      let rest ← get
      let subpath ← parseSegments source (rest.length + 1) first
      match QueryField.resolve owner subpath with
      | some field => return (owner, field)
      | none =>
        errorAt source place fun line column =>
          .unknownField line column (owner.asStr ++ "." ++ subpath)
    else
      unexpectedToken source "`.` after namespace"

def tryParseCompareOperator : Parser (Option QueryOperator) := do
  if ← tryConsumeCharSeq "!=" then return some .neq
  else if ← tryConsumeCharSeq "<=" then return some .lte
  else if ← tryConsumeCharSeq ">=" then return some .gte
  else if ← tryConsumeChar '=' then return some .eq
  else if ← tryConsumeChar '<' then return some .lt
  else if ← tryConsumeChar '>' then return some .gt
  else return none

/-! ## Literals -/

/-- What a backslash and the character behind it stand for. -/
def unescaped (escaped : Char) : List Char :=
  if escaped = '"' ∨ escaped = '\\' then [escaped] else ['\\', escaped]

/-- The text of a string literal up to its closing quote, and what follows the quote. -/
def scanString : List Char → Option (List Char × List Char)
  | [] => none
  | '"' :: rest => some ([], rest)
  | '\\' :: [] => none
  | '\\' :: escaped :: rest => (scanString rest).map fun (text, rest) => (unescaped escaped ++ text, rest)
  | c :: rest => (scanString rest).map fun (text, rest) => (c :: text, rest)

def parseStringLiteral : Parser String := do
  skipWhitespace
  let place ← get
  if ← tryConsumeChar '"' then
    let body ← get
    match scanString body with
    | some (text, rest) =>
      set rest
      return String.ofList text
    | none => errorAt source place .unterminatedString
  else
    unexpectedToken source "`\"`-quoted string literal"

def invalidInteger (literal : List Char) : Parser α :=
  errorAt source place fun line column => .invalidInteger line column (String.ofList literal)

def parseIntegerLiteral : Parser Int64 := do
  skipWhitespace
  let place ← get
  let sign ← takeSign
  let digits ← span Char.isDigit
  if digits.isEmpty then
    invalidInteger source place sign
  else
    let rest ← get
    if rest.head? = some '.' ∧ rest.tail.head?.any Char.isDigit then
      set rest.tail
      let fraction ← span Char.isDigit
      invalidInteger source place (sign ++ digits ++ '.' :: fraction)
    else
      match parseI64 (!sign.isEmpty) digits with
      | some value => return value
      | none => invalidInteger source place (sign ++ digits)

/-- The value a bare word stands for. -/
def wordValue (ident : String) : QueryValue :=
  match ident with
  | "true" => .bool true
  | "false" => .bool false
  | _ => .string ident

def parseValue : Parser QueryValue := do
  skipWhitespace
  rejectParentheses source
  let rest ← get
  if rest.head? = some '"' then
    let text ← parseStringLiteral source
    return .string text
  else if rest.head? = some '-' ∨ rest.head?.any Char.isDigit then
    let value ← parseIntegerLiteral source
    return .int value
  else if rest.head?.any isIdentStart then
    let ident ← parseIdentifier source
    return wordValue ident
  else
    unexpected source "value literal"

def parseListStringValue : Parser String := do
  skipWhitespace
  rejectParentheses source
  let rest ← get
  if rest.head? = some '"' then
    parseStringLiteral source
  else if rest.head?.any isIdentStart then
    parseIdentifier source
  else
    unexpected source "string or identifier list value"

/-- The loop of `parse_value_list`. -/
def parseMoreValues (source : List Char) : ℕ → List String → Parser (List String)
  | 0, _ => throw .outOfFuel
  | fuel + 1, values => do
    let value ← parseListStringValue source
    skipWhitespace
    if ← tryConsumeChar ',' then
      parseMoreValues source fuel (values ++ [value])
    else if ← tryConsumeChar ']' then
      return values ++ [value]
    else
      unexpectedToken source "`,` or `]`"

end

section Dates

variable (parseRfc3339 : String → Option DateTime)

variable (source : List Char)

def isRfc3339 (value : String) : Bool := (parseRfc3339 value).isSome

/-- Two timestamps are a range. -/
def listValue (values : List String) : QueryValue :=
  match values with
  | [start, finish] =>
    if isRfc3339 parseRfc3339 start && isRfc3339 parseRfc3339 finish then .timeRange start finish
    else .stringList values
  | _ => .stringList values

def parseValueList : Parser QueryValue := do
  if ← tryConsumeChar '[' then
    skipWhitespace
    if ← tryConsumeChar ']' then
      let rest ← get
      errorAt source rest .emptyValueList
    else
      let rest ← get
      let values ← parseMoreValues source (rest.length + 1) []
      return listValue parseRfc3339 values
  else
    unexpectedToken source "`[` to open value list"

/-! ## Predicates -/

/-- The operator and the right-hand side of `parse_predicate`. -/
def parseOperator : Parser (QueryOperator × QueryValue) := do
  match ← tryParseCompareOperator with
  | some op =>
    let rhs ← parseValue source
    return (op, rhs)
  | none =>
    if ← tryConsumeKeyword "in" then
      let rhs ← parseValueList parseRfc3339 source
      return (.in, rhs)
    else if ← tryConsumeKeyword "contains" then
      let text ← parseStringLiteral source
      return (.contains, .string text)
    else if ← tryConsumeKeyword "matches" then
      let text ← parseStringLiteral source
      return (.matches, .string text)
    else
      let rest ← get
      errorAt source rest fun line column => .unknownOperator line column (shortSnippet rest)

def parsePredicate : Parser QueryPredicate := do
  skipWhitespace
  rejectDisallowedTokens source
  let fieldStart ← get
  let (owner, field) ← parseFieldPath source fieldStart
  skipWhitespace
  let (op, rhs) ← parseOperator parseRfc3339 source
  return { owner, field, op, rhs }

/-- The loop of `parse_query`. -/
def parseMorePredicates (source : List Char) : ℕ → List QueryPredicate → Parser (List QueryPredicate)
  | 0, _ => throw .outOfFuel
  | fuel + 1, predicates => do
    if ← atEof then
      return predicates
    else
      rejectDisallowedTokens source
      if ← tryConsumeKeyword "and" then
        let next ← parsePredicate parseRfc3339 source
        parseMorePredicates source fuel (predicates ++ [next])
      else
        unexpectedToken source "`and` or end of input"

def parseQuery : Parser Query := do
  let first ← parsePredicate parseRfc3339 source
  let rest ← get
  let predicates ← parseMorePredicates parseRfc3339 source (rest.length + 1) [first]
  return .and predicates

def parseSource : Parser Query := do
  let query ← parseQuery parseRfc3339 source
  expectEof source
  return query

def parse (source : String) : Except QueryParseError Query :=
  Stateful.outcome id (parseSource parseRfc3339 source.toList source.toList)

end Dates

end Aios.Fs.QueryParser
