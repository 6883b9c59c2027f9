import Aios.Verification.Grammar
import Aios.Lib.Stateful

/-! # The parser of verification expressions

The recursive-descent parser. Its state is what is left of the source; a position in an error is the
line and the column of what has been read.
-/

namespace Aios.Verification

open Aios.Rust

variable {α : Type} (source : List Char)

inductive VerificationError where
  | intentParseFailed (message : String)
  /-- Not an error of the parser: a loop ran longer than its bound. -/
  | outOfFuel
  deriving DecidableEq, Repr

abbrev Parser := EStateM VerificationError (List Char)

def MAX_COMPOSITION_DEPTH : ℕ := 8

/-- `u64::MAX`. -/
def MAX_U64 : ℕ := 18446744073709551615

/-- `i64::MAX`. -/
def MAX_I64 : ℕ := 9223372036854775807

def isIdentStart (c : Char) : Bool := c == '_' || c.isAlpha

def isIdentContinue (c : Char) : Bool := c == '_' || c.isAlpha || c.isDigit

/-! ## Errors -/

/-- The line and the column after a text. -/
def positionFor (before : List Char) : ℕ × ℕ :=
  before.foldl (fun position c => if c = '\n' then (position.1 + 1, 1) else (position.1, position.2 + 1)) (1, 1)

def parseError (rest : List Char) (message : String) : VerificationError :=
  let (line, column) := positionFor (source.take (source.length - rest.length))
  .intentParseFailed s!"{message} at line {line}, column {column}"

/-- Fail at the place where `rest` was left. -/
def errorAt (rest : List Char) (message : String) : Parser α :=
  throw (parseError source rest message)

def errorHere (message : String) : Parser α := do
  let rest ← get
  errorAt source rest message

/-! ## Tokens -/

def skipWhitespace : Parser Unit := modify (·.dropWhile isWhitespace)

def tryConsumeRaw (token : String) : Parser Bool := do
  let rest ← get
  if token.toList.isPrefixOf rest then
    set (rest.drop token.length)
    return true
  else
    return false

def tryConsumeChar (expected : Char) : Parser Bool := do
  skipWhitespace
  tryConsumeRaw (String.singleton expected)

def nextKeywordIs (keyword : String) : Parser Bool := do
  skipWhitespace
  let rest ← get
  return keyword.toList.isPrefixOf rest && !(rest.drop keyword.length).head?.any isIdentContinue

def consumeKeyword (keyword : String) : Parser Unit := do
  skipWhitespace
  if ← nextKeywordIs keyword then
    modify (·.drop keyword.length)
  else
    errorHere source s!"expected `{keyword}`"

def expectChar (expected : Char) (message : String) : Parser Unit := do
  skipWhitespace
  if ← tryConsumeChar expected then
    return ()
  else
    let rest ← get
    if rest.isEmpty then
      errorHere source s!"unexpected end of input: {message}"
    else
      errorHere source message

def parseIdentifier : Parser String := do
  skipWhitespace
  let rest ← get
  match rest with
  | [] => errorHere source "unexpected end of input: expected identifier"
  | first :: tail =>
    if isIdentStart first then
      set (tail.dropWhile isIdentContinue)
      return String.ofList (first :: tail.takeWhile isIdentContinue)
    else
      errorHere source "expected identifier"

/-! ## Literals -/

def parseU64Digits (label : String) : Parser ℕ := do
  skipWhitespace
  let start ← get
  let digits := start.takeWhile Char.isDigit
  set (start.dropWhile Char.isDigit)
  if digits.isEmpty then
    errorAt source start s!"expected {label}"
  else if Nat.ofDigitChars 10 digits 0 ≤ MAX_U64 then
    return Nat.ofDigitChars 10 digits 0
  else
    errorAt source start s!"invalid {label}"

def parseDuration : Parser VerificationDuration := do
  skipWhitespace
  let start ← get
  let value ← parseU64Digits source "duration"
  if ← tryConsumeRaw "ms" then
    return ⟨value, .milliseconds⟩
  else if ← tryConsumeRaw "s" then
    return ⟨value, .seconds⟩
  else if ← tryConsumeRaw "m" then
    return ⟨value, .minutes⟩
  else if ← tryConsumeRaw "h" then
    return ⟨value, .hours⟩
  else
    errorAt source start "invalid duration: expected unit `ms`, `s`, `m`, or `h`"

/-- What an escape stands for; an unknown one is kept as it is written. -/
def unescape (escaped : Char) : List Char :=
  if escaped = '"' then ['"']
  else if escaped = '\'' then ['\'']
  else if escaped = '\\' then ['\\']
  else if escaped = 'n' then ['\n']
  else if escaped = 'r' then ['\r']
  else if escaped = 't' then ['\t']
  else ['\\', escaped]

/-- The text of a string literal up to its closing quote, and what follows. -/
def scanString (quote : Char) : List Char → Option (List Char × List Char)
  | [] => none
  | c :: rest =>
    if c = quote then some ([], rest)
    else if c = '\n' then none
    else if c = '\\' then
      match rest with
      | [] => none
      | escaped :: rest => (scanString quote rest).map fun (output, rest) => (unescape escaped ++ output, rest)
    else (scanString quote rest).map fun (output, rest) => (c :: output, rest)

def parseStringLiteral : Parser String := do
  skipWhitespace
  let start ← get
  match start with
  | [] => errorHere source "expected string literal"
  | quote :: body =>
    if quote = '"' ∨ quote = '\'' then
      match scanString quote body with
      | some (output, rest) =>
        set rest
        return String.ofList output
      | none => errorAt source start "unterminated string literal"
    else
      errorHere source "expected string literal"

def parseIntegerLiteral : Parser Json := do
  skipWhitespace
  let start ← get
  let negative ← tryConsumeChar '-'
  let value ← parseU64Digits source "integer literal"
  let rest ← get
  if rest.head?.any isIdentStart then
    let suffix ← parseIdentifier source
    errorAt source start s!"invalid integer literal `{value}{suffix}`"
  else if negative then
    if value ≤ MAX_I64 then
      return .number (toString (-(value : ℤ)))
    else
      errorAt source start s!"invalid integer literal `-{value}`"
  else
    return .number (toString value)

/-- The value a bare word stands for. -/
def wordValue (ident : String) : Json :=
  match ident with
  | "true" => .bool true
  | "false" => .bool false
  | "null" => .null
  | _ => .string ident

def parseValue : Parser Json := do
  skipWhitespace
  let rest ← get
  match rest with
  | [] => errorHere source "unexpected end of input: expected value"
  | found :: _ =>
    if found = '"' ∨ found = '\'' then
      let text ← parseStringLiteral source
      return .string text
    else if found = '-' ∨ found.isDigit then
      parseIntegerLiteral source
    else if isIdentStart found then
      let ident ← parseIdentifier source
      return wordValue ident
    else
      errorHere source s!"unexpected token `{found}`: expected value"

/-! ## Primitive calls -/

/-- `serde_json::from_value` on the upper-case name with underscores for dots. -/
def primitiveOfName (token : String) : Option VerificationPrimitive :=
  let wire := String.ofList ((token.toList.map fun c => if c = '.' then '_' else c).map Char.toUpper)
  VerificationPrimitive.variants.find? (·.asWireStr == wire)

def requiredArgs : VerificationPrimitive → List String
  | .serviceActive | .serviceInactive => ["service"]
  | .packageInstalled => ["package"]
  | .portOpen | .portClosed => ["host", "port", "protocol"]
  | .httpOk => ["url"]
  | .fileExists => ["object_or_path"]
  | .fileHash => ["object_or_path", "expected_hash_hex"]
  | .repoExists => ["path_or_object"]
  | .aiosfsPointer => ["object_id", "pointer_kind", "expected_version_id"]
  | .policyDecision => ["policy_decision_id", "expected_decision"]
  | .evidenceExists => ["receipt_id"]
  | .networkSubjectOutboundClass | .networkExternalModelCallBrokeredOnly => ["subject_id"]
  | .networkActiveExposureClass => ["surface_id", "expected_class"]
  | .dnsResolverBackend => ["host_id", "expected_backend", "expected_transport"]
  | .vpnTunnelActive => ["tunnel_id", "expected_kind"]
  | .mdnsPosture => ["host_id", "expected_posture"]
  | .aiosfsPathInNamespace => ["path", "expected_scope"]
  | .surfaceInZone => ["surface_id", "expected_zone"]
  | .treeContainsKind => ["tree_id", "kind", "must_contain"]
  | .treeMaxDepth => ["tree_id", "max_depth"]
  | .themeSatisfiesInvariants | .themeConstitutionalIconsIntact => ["theme_id"]
  | .gpuBindingClass => ["binding_id", "expected_class"]
  | .webRendererBoundTo => ["host", "port"]
  | .webChromeZIndexAtLeast => ["minimum_z_index"]
  | .aiosfsPathOwnerResolved => ["path", "expected_owner_subject_id", "namespace_catalog_id"]
  | .aiosfsPathRecoveryTreatmentSet => ["path", "expected_treatment", "namespace_catalog_id"]
  | .namespaceCatalogVersion => ["expected_catalog_id", "require_exact_match"]
  | .statusIndicatorVisible => ["indicator", "require_chrome_zone"]
  | .subjectSessionFlagState => ["subject_canonical_id", "session_id", "flag", "expected_state"]
  | .filesystemRootIntact => ["root"]
  | .specConsumesTable => ["spec_id"]
  | .approvalBindingState => ["approval_id"]
  | .secretPatternMatch => ["record_id", "pattern_catalog_id"]

def canonicalArgName (kind : VerificationPrimitive) (raw : String) : String :=
  match kind, raw with
  | .serviceActive, "name" | .serviceInactive, "name" => "service"
  | .fileExists, "path" | .fileHash, "path" => "object_or_path"
  | .fileHash, "expected_hash" => "expected_hash_hex"
  | .repoExists, "path" => "path_or_object"
  | _, _ => raw

/-- The loop of `parse_primitive_name`, after the first identifier. -/
def parseDottedName (source : List Char) : ℕ → String → Parser String
  | 0, _ => throw .outOfFuel
  | fuel + 1, name => do
    let saved ← get
    if ← tryConsumeChar '.' then
      let rest ← get
      if rest.head?.any isIdentStart then
        let segment ← parseIdentifier source
        parseDottedName source fuel (name ++ "." ++ segment)
      else
        set saved
        return name
    else
      return name

def parsePrimitiveName : Parser String := do
  let start ← get
  let first ← parseIdentifier source
  let rest ← get
  let name ← parseDottedName source (rest.length + 1) first
  if name.isEmpty then
    errorAt source start "expected primitive name"
  else
    return name

/-- The loop of `parse_args`. -/
def parseMoreArgs (source : List Char) (kind : VerificationPrimitive) :
    ℕ → List (String × Json) → Parser (List (String × Json))
  | 0, _ => throw .outOfFuel
  | fuel + 1, args => do
    let rawKey ← parseIdentifier source
    let key := canonicalArgName kind rawKey
    expectChar source '=' "expected `=` after arg name"
    let value ← parseValue source
    if args.any (·.1 == key) then
      errorHere source s!"duplicate arg `{key}`"
    else
      skipWhitespace
      let rest ← get
      if rest.head? = some ')' then
        return insertField args key value
      else
        expectChar source ',' "expected `,` or `)` after arg value"
        parseMoreArgs source kind fuel (insertField args key value)

def parseArgs (kind : VerificationPrimitive) : Parser (List (String × Json)) := do
  skipWhitespace
  let rest ← get
  if rest.head? = some ')' then
    return []
  else
    parseMoreArgs source kind (rest.length + 1) []

def validateRequiredArgs (kind : VerificationPrimitive) (args : List (String × Json)) (source start : List Char)
    (primitiveName : String) : Parser Unit :=
  match (requiredArgs kind).find? fun required => !args.any (·.1 == required) with
  | some required =>
    errorAt source start s!"missing required arg `{required}` for primitive `{primitiveName}`"
  | none => return ()

def parsePrimitiveCall : Parser VerificationGrammar := do
  let start ← get
  let primitiveName ← parsePrimitiveName source
  match primitiveOfName primitiveName with
  | none =>
    errorAt source start s!"unknown verification primitive `{primitiveName}` (closed S2.4 vocabulary)"
  | some kind =>
    expectChar source '(' "expected `(` after primitive name"
    let args ← parseArgs source kind
    expectChar source ')' "expected `)` after primitive args"
    validateRequiredArgs kind args source start primitiveName
    return .primitive ⟨kind, .object args⟩

/-! ## Compositions -/

/-- The loop of `parse_terms_composition`, `term` parsing one term. -/
def parseTerms (source : List Char) (term : Parser VerificationGrammar) :
    ℕ → List VerificationGrammar → Parser (List VerificationGrammar)
  | 0, _ => throw .outOfFuel
  | fuel + 1, terms => do
    let parsed ← term
    skipWhitespace
    if ← tryConsumeChar ']' then
      return terms ++ [parsed]
    else
      expectChar source ',' "expected `,` or `]` in composition"
      skipWhitespace
      let rest ← get
      if rest.head? = some ']' then
        errorHere source "unexpected `]`: expected expression after `,`"
      else
        parseTerms source term fuel (terms ++ [parsed])

def parseTermsComposition (combinator : String) (term : Parser VerificationGrammar) :
    Parser (List VerificationGrammar) := do
  let start ← get
  consumeKeyword source combinator
  expectChar source '[' "expected `[` after composition keyword"
  skipWhitespace
  if ← tryConsumeChar ']' then
    errorAt source start s!"{combinator} requires at least 2 terms"
  else
    let rest ← get
    let terms ← parseTerms source term (rest.length + 1) []
    if terms.length < 2 then
      errorAt source start s!"{combinator} requires at least 2 terms"
    else
      return terms

def parseNot (term : Parser VerificationGrammar) : Parser VerificationGrammar := do
  consumeKeyword source "not"
  expectChar source '(' "expected `(` after `not`"
  let parsed ← term
  expectChar source ')' "expected `)` after `not` term"
  return .not parsed

def parseEventually (term : Parser VerificationGrammar) : Parser VerificationGrammar := do
  consumeKeyword source "eventually"
  expectChar source '(' "expected `(` after `eventually`"
  let parsed ← term
  expectChar source ',' "expected `, max_duration=...` in `eventually`"
  consumeKeyword source "max_duration"
  expectChar source '=' "expected `=` after `max_duration`"
  let maxDuration ← parseDuration source
  expectChar source ',' "expected `, interval=...` in `eventually`"
  consumeKeyword source "interval"
  expectChar source '=' "expected `=` after `interval`"
  let interval ← parseDuration source
  expectChar source ')' "expected `)` after `eventually`"
  return .eventually parsed maxDuration interval

def rejectInfixWord (token : String) : Parser Unit := do
  if ← nextKeywordIs token then
    errorHere source
      s!"disallowed grammar token `{token}`: S2.4 uses `all[...]` / `any[...]`, not infix operators"
  else
    return ()

def rejectInfixWords : Parser Unit := do
  skipWhitespace
  rejectInfixWord source "and"
  rejectInfixWord source "or"

def rejectGrouping : Parser Unit := do
  skipWhitespace
  let rest ← get
  if rest.head? = some '(' then
    errorHere source "disallowed grammar token `(`: parenthesized grouping is not in S2.4 grammar"
  else
    return ()

/-- `parse_expression`, by the number of levels left down to the depth limit. -/
def parseExpression (source : List Char) : ℕ → Parser VerificationGrammar
  | 0 => errorHere source "composition depth exceeds S2.4 limit of 8"
  | levels + 1 => do
    skipWhitespace
    let rest ← get
    if rest.isEmpty then
      errorHere source "unexpected end of input: expected expression"
    else
      rejectInfixWords source
      rejectGrouping source
      if ← nextKeywordIs "all" then
        let terms ← parseTermsComposition source "all" (parseExpression source levels)
        return .all terms
      else if ← nextKeywordIs "any" then
        let terms ← parseTermsComposition source "any" (parseExpression source levels)
        return .any terms
      else if ← nextKeywordIs "not" then
        parseNot source (parseExpression source levels)
      else if ← nextKeywordIs "eventually" then
        parseEventually source (parseExpression source levels)
      else
        parsePrimitiveCall source

def shortSnippet (rest : List Char) : String := String.ofList (rest.take 24)

def expectEof : Parser Unit := do
  skipWhitespace
  let rest ← get
  if rest.isEmpty then
    return ()
  else
    rejectInfixWords source
    let rest ← get
    errorHere source s!"unexpected token `{shortSnippet rest}`: expected end of input"

def parseSource : Parser VerificationGrammar := do
  let expression ← parseExpression source MAX_COMPOSITION_DEPTH
  expectEof source
  return expression

def parse (source : String) : Except VerificationError VerificationGrammar :=
  Stateful.outcome id (parseSource source.toList source.toList)

end Aios.Verification
