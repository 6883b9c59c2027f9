import Aios.Lib.Scanner
import Aios.Policy.Conditions
import Aios.Rust.Basic

/-! # The parser of policy conditions

The recursive-descent parser. Its state is what is left of the source; a position in an error is the
line and the column of what has been read. The loops are bounded by the length of the rest.
-/

namespace Aios.Policy.Conditions

open Aios.Rust Scanner

variable {α : Type} (source : List Char)

/-- Each error with the line and the column where it was raised. -/
inductive ConditionParseError where
  | unexpectedToken (line column : ℕ) (expected found : String)
  | unknownNamespace (line column : ℕ) (owner : String)
  | unknownField (line column : ℕ) (field : String)
  | unknownOperator (line column : ℕ) (operator : String)
  | disallowedToken (line column : ℕ) (token : String)
  | unterminatedString (line column : ℕ)
  | invalidInteger (line column : ℕ) (literal : String)
  | emptyValueList (line column : ℕ)
  /-- Not an error of the parser: a loop ran longer than its bound. -/
  | outOfFuel
  deriving DecidableEq, Repr

abbrev Parser := EStateM ConditionParseError (List Char)

def isIdentStart (c : Char) : Bool := c.isAlpha || c == '_'

def isIdentContinue (c : Char) : Bool := c.isAlphanum || c == '_'

/-! ## Errors -/

/-- The line and the column of the place where `rest` is left of the source. -/
def positionFor (rest : List Char) : ℕ × ℕ :=
  (source.take (source.length - rest.length)).foldl
    (fun position c => if c = '\n' then (position.1 + 1, 1) else (position.1, position.2 + 1)) (1, 1)

/-- `str::trim_end`. -/
def trimEnd (text : List Char) : List Char := (text.reverse.dropWhile isWhitespace).reverse

def shortSnippet (rest : List Char) : String :=
  let line := (trimEnd rest).takeWhile (· != '\n')
  if 32 < line.length then String.ofList (line.take 32) ++ "…"
  else if line.isEmpty then "<end of input>"
  else String.ofList line

/-- Fail with the error for the place where `place` was left. -/
def errorAt (place : List Char) (error : ℕ → ℕ → ConditionParseError) : Parser α :=
  let (line, column) := positionFor source place
  throw (error line column)

/-- `UnexpectedToken` at the cursor. -/
def unexpectedToken (expected : String) : Parser α := do
  let rest ← get
  errorAt source rest fun line column => .unexpectedToken line column expected (shortSnippet rest)

/-! ## Tokens -/

def skipWhitespace : Parser Unit := modify (·.dropWhile isWhitespace)

def atEof : Parser Bool := do
  skipWhitespace
  let rest ← get
  return rest.isEmpty

/-- The token is alphabetic and what follows it would continue an identifier. -/
def runsOn (token : String) (rest : List Char) : Bool :=
  token.toList.head?.any Char.isAlpha && (rest.drop token.length).head?.any isIdentContinue

def tryConsume (token : String) : Parser Bool := do
  skipWhitespace
  let rest ← get
  if token.toList.isPrefixOf rest && !runsOn token rest then
    set (rest.drop token.length)
    return true
  else
    return false

def tryConsumeCharSeq (seq : String) : Parser Bool := do
  skipWhitespace
  let rest ← get
  if seq.toList.isPrefixOf rest then
    set (rest.drop seq.length)
    return true
  else
    return false

def tryConsumeChar (c : Char) : Parser Bool := tryConsumeCharSeq (String.singleton c)

def expectEof : Parser Unit := do
  if ← atEof then
    return ()
  else
    unexpectedToken source "end of input"

/-- One turn of the loop of `reject_disallowed_conjunctions`. -/
def rejectWord (forbidden : String) : Parser Unit := do
  let rest ← get
  if forbidden.toList.isPrefixOf rest && !(rest.drop forbidden.length).head?.any isIdentContinue then
    errorAt source rest fun line column => .disallowedToken line column forbidden
  else
    return ()

def rejectDisallowedConjunctions : Parser Unit := do
  skipWhitespace
  rejectWord source "or"
  rejectWord source "not"
  let rest ← get
  if rest.head? = some '(' ∨ rest.head? = some ')' then
    errorAt source rest fun line column => .disallowedToken line column (String.ofList (rest.take 1))
  else
    return ()

def parseIdentifier : Parser String := do
  skipWhitespace
  let rest ← get
  if rest.head?.any isIdentStart then
    set (rest.dropWhile isIdentContinue)
    return String.ofList (rest.takeWhile isIdentContinue)
  else
    unexpectedToken source "identifier"

/-! ## Fields -/

/-- The loop of `parse_field_path`, after the first identifier of the subpath. -/
def parseSegments (source : List Char) : ℕ → String → Parser String
  | 0, _ => throw .outOfFuel
  | fuel + 1, subpath => do
    let saved ← get
    skipWhitespace
    let rest ← get
    if rest.head? = some '.' ∧ rest.tail.head?.any isIdentStart then
      set rest.tail
      let segment ← parseIdentifier source
      parseSegments source fuel (subpath ++ "." ++ segment)
    else
      set saved
      return subpath

def parseFieldPath (place : List Char) : Parser ClosedField := do
  let token ← parseIdentifier source
  match Namespace.fromToken token with
  | none => errorAt source place fun line column => .unknownNamespace line column token
  | some owner =>
    skipWhitespace
    if ← tryConsumeChar '.' then
      let first ← parseIdentifier source
      let rest ← get
      let subpath ← parseSegments source (rest.length + 1) first
      match ClosedField.resolve owner subpath with
      | some field => return field
      | none =>
        errorAt source place fun line column =>
          .unknownField line column (owner.asStr ++ "." ++ subpath)
    else
      unexpectedToken source "`.` after namespace"

def tryParseCompareOp : Parser (Option CompareOp) := do
  if ← tryConsumeCharSeq "!=" then return some .neq
  else if ← tryConsumeCharSeq "<=" then return some .lte
  else if ← tryConsumeCharSeq ">=" then return some .gte
  else if ← tryConsumeChar '=' then return some .eq
  else if ← tryConsumeChar '<' then return some .lt
  else if ← tryConsumeChar '>' then return some .gt
  else return none

/-! ## Literals -/

/-- The text of a string literal up to its closing quote, as it is written, and what follows the quote. -/
def scanString : List Char → Option (List Char × List Char)
  | [] => none
  | '"' :: rest => some ([], rest)
  | '\\' :: [] => none
  | '\\' :: escaped :: rest => (scanString rest).map fun (text, rest) => ('\\' :: escaped :: text, rest)
  | c :: rest => (scanString rest).map fun (text, rest) => (c :: text, rest)

def parseStringLiteral : Parser String := do
  skipWhitespace
  let place ← get
  if ← tryConsumeChar '"' then
    let body ← get
    match scanString body with
    | some (text, rest) =>
      set rest
      return String.ofList text
    | none => errorAt source place .unterminatedString
  else
    unexpectedToken source "`\"`-quoted string literal"

/-- `str::parse::<i64>` on digits with a sign. -/
def parseI64 (negative : Bool) (digits : List Char) : Option Int64 :=
  let magnitude : ℤ := Nat.ofDigitChars 10 digits 0
  let value := if negative then -magnitude else magnitude
  if Int64.minValue.toInt ≤ value ∧ value ≤ Int64.maxValue.toInt then some (Int64.ofInt value) else none

def takeSign : Parser (List Char) := do
  let rest ← get
  if rest.head? = some '-' then
    set rest.tail
    return ['-']
  else
    return []

def takeDigits : Parser (List Char) := do
  let rest ← get
  set (rest.dropWhile Char.isDigit)
  return rest.takeWhile Char.isDigit

def invalidInteger (place literal : List Char) : Parser α :=
  errorAt source place fun line column => .invalidInteger line column (String.ofList literal)

def parseNumberLiteral : Parser Value := do
  skipWhitespace
  let place ← get
  let sign ← takeSign
  let digits ← takeDigits
  if digits.isEmpty then
    invalidInteger source place sign
  else
    let rest ← get
    if rest.head? = some '.' ∧ rest.tail.head?.any Char.isDigit then
      set rest.tail
      let fraction ← takeDigits
      invalidInteger source place (sign ++ digits ++ '.' :: fraction)
    else
      match parseI64 (!sign.isEmpty) digits with
      | some value => return .int value
      | none => invalidInteger source place (sign ++ digits)

/-- The value a bare word stands for. -/
def wordValue (ident : String) : Value :=
  match ident with
  | "true" => .bool true
  | "false" => .bool false
  | _ => .identifier ident

def parseValue : Parser Value := do
  skipWhitespace
  let rest ← get
  if rest.head? = some '"' then
    let text ← parseStringLiteral source
    return .string text
  else if rest.head? = some '-' ∨ rest.head?.any Char.isDigit then
    parseNumberLiteral source
  else if rest.head?.any isIdentStart then
    let ident ← parseIdentifier source
    return wordValue ident
  else
    unexpectedToken source "value literal (string, number, bool, identifier, or timestamp)"

/-- The loop of `parse_value_list`. -/
def parseMoreValues (source : List Char) : ℕ → List Value → Parser (List Value)
  | 0, _ => throw .outOfFuel
  | fuel + 1, values => do
    let value ← parseValue source
    skipWhitespace
    if ← tryConsumeChar ',' then
      parseMoreValues source fuel (values ++ [value])
    else if ← tryConsumeChar ']' then
      return values ++ [value]
    else
      unexpectedToken source "`,` or `]`"

def parseValueList : Parser (List Value) := do
  skipWhitespace
  if ← tryConsumeChar '[' then
    skipWhitespace
    if ← tryConsumeChar ']' then
      let rest ← get
      errorAt source rest .emptyValueList
    else
      let rest ← get
      parseMoreValues source (rest.length + 1) []
  else
    unexpectedToken source "`[` to open value list"

/-! ## Predicates -/

/-- What is next is `and` or the end, with the cursor left where it was. -/
def atAltBoundary : Parser Bool := do
  let saved ← get
  let atEnd ← atEof
  let rest ← get
  set saved
  return atEnd || "and".toList.isPrefixOf rest

def unknownOperator : Parser α := do
  let rest ← get
  errorAt source rest fun line column => .unknownOperator line column (shortSnippet rest)

/-- The operator dispatch of `parse_predicate`. -/
def parseOperator (field : ClosedField) : Parser Predicate := do
  match ← tryParseCompareOp with
  | some op =>
    let rhs ← parseValue source
    return .compare field op rhs
  | none =>
    if ← tryConsume "in" then
      let values ← parseValueList source
      return .inValues field values
    else if ← tryConsume "contains" then
      let needle ← parseStringLiteral source
      return .contains field needle
    else if ← tryConsume "exists" then
      return .existsField field
    else if field = .timeRecoveryMode then
      -- the bare boolean predicate
      if ← atAltBoundary then
        return .compare field .eq (.bool true)
      else
        unknownOperator source
    else
      unknownOperator source

def parsePredicate : Parser Predicate := do
  skipWhitespace
  rejectDisallowedConjunctions source
  let fieldStart ← get
  let field ← parseFieldPath source fieldStart
  skipWhitespace
  parseOperator source field

/-- The loop of `parse_condition`. -/
def parseMorePredicates (source : List Char) : ℕ → List Predicate → Parser (List Predicate)
  | 0, _ => throw .outOfFuel
  | fuel + 1, predicates => do
    if ← atEof then
      return predicates
    else
      rejectDisallowedConjunctions source
      if ← tryConsume "and" then
        let next ← parsePredicate source
        parseMorePredicates source fuel (predicates ++ [next])
      else
        unexpectedToken source "`and` or end of input"

def parseCondition : Parser Condition := do
  let first ← parsePredicate source
  let rest ← get
  let predicates ← parseMorePredicates source (rest.length + 1) [first]
  return .conjunction predicates

def parseSource : Parser Condition := do
  let condition ← parseCondition source
  expectEof source
  return condition

def parse (source : String) : Except ConditionParseError Condition :=
  Stateful.outcome id (parseSource source.toList source.toList)

end Aios.Policy.Conditions
