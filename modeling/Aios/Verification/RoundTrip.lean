import Aios.Lib.Distinct
import Aios.Lib.Hex
import Aios.Verification.WellFormed

/-! # Parsing what was rendered

The parser reads a rendered expression back, except that `serde_json` writes most control characters
as escapes the parser does not know and keeps as they are written.
-/

namespace Aios.Verification

open Aios.Rust Scanner

/-! ## What is read back -/

/-- The characters whose escape the parser does not undo. -/
def lostEscape (c : Char) : Bool := c.toNat < 0x20 && c != '\n' && c != '\r' && c != '\t'

def rereadChar (c : Char) : List Char := if lostEscape c then escapeJsonChar c else [c]

def rereadString (text : String) : String := String.ofList (text.toList.flatMap rereadChar)

def rereadValue : Json → Json
  | .string value => .string (rereadString value)
  | value => value

def rereadArgs (args : List (String × Json)) : List (String × Json) :=
  args.map fun arg => (arg.1, rereadValue arg.2)

mutual

/-- The expression the parser makes of the rendered one. -/
def VerificationGrammar.reread : VerificationGrammar → VerificationGrammar
  | .primitive ⟨kind, .object args⟩ => .primitive ⟨kind, .object (rereadArgs args)⟩
  | .primitive invocation => .primitive invocation
  | .all terms => .all (rereadTerms terms)
  | .any terms => .any (rereadTerms terms)
  | .not term => .not term.reread
  | .eventually term maxDuration interval => .eventually term.reread maxDuration interval

def rereadTerms : List VerificationGrammar → List VerificationGrammar
  | [] => []
  | term :: rest => term.reread :: rereadTerms rest

end

/-- The text of a string value. -/
def valueStrings : Json → List String
  | .string value => [value]
  | _ => []

mutual

/-- The string arguments of the calls in an expression. -/
def VerificationGrammar.stringArgs : VerificationGrammar → List String
  | .primitive ⟨_, .object args⟩ => args.flatMap fun arg => valueStrings arg.2
  | .primitive _ => []
  | .all terms => termsStringArgs terms
  | .any terms => termsStringArgs terms
  | .not term => term.stringArgs
  | .eventually term _ _ => term.stringArgs

def termsStringArgs : List VerificationGrammar → List String
  | [] => []
  | term :: rest => term.stringArgs ++ termsStringArgs rest

end

/-- No character of the text is lost. -/
def KeptText (text : String) : Prop := ∀ c ∈ text.toList, lostEscape c = false

instance (text : String) : Decidable (KeptText text) := List.decidableBAll _ _

/-! ## Tokens -/

section Tokens

variable {source : List Char} {β : Type} {Follow : List Char → Prop}

variable {c : Char} {token keyword : String} {name text : List Char}

theorem peeks_skipWhitespace (solid : isWhitespace c = false) : Peeks skipWhitespace (c :: text) () Follow := by
  intro rest _
  change EStateM.Result.ok () ((c :: (text ++ rest)).dropWhile isWhitespace) = _
  rw [List.dropWhile_cons_of_neg (by simp [solid])]
  rfl

theorem reads_skipWhitespace : Reads skipWhitespace [' '] () (Stops isWhitespace) := by
  intro rest stops
  have spaces : ∀ c ∈ [' '], isWhitespace c = true := by simp [isWhitespace]
  change EStateM.Result.ok () (([' '] ++ rest).dropWhile isWhitespace) = _
  rw [dropWhile_of_stops spaces stops]

theorem reads_tryConsumeRaw : Reads (tryConsumeRaw token) token.toList true Follow := by
  intro rest _
  have here : token.toList.isPrefixOf (token.toList ++ rest) = true :=
    List.isPrefixOf_iff_prefix.mpr (List.prefix_append ..)
  rw [tryConsumeRaw, Stateful.get_bind_apply, if_pos here, ← String.length_toList, List.drop_left]
  rfl

theorem peeks_tryConsumeRaw (absent : ∀ rest, Follow rest → token.toList.isPrefixOf (text ++ rest) = false) :
    Peeks (tryConsumeRaw token) text false Follow := by
  intro rest fits
  rw [tryConsumeRaw, Stateful.get_bind_apply, absent rest fits]
  rfl

theorem reads_tryConsumeChar (solid : isWhitespace c = false) : Reads (tryConsumeChar c) [c] true Follow := by
  have raw : Reads (tryConsumeRaw (String.singleton c)) [c] true Follow := by
    simpa using @reads_tryConsumeRaw Follow (String.singleton c)
  exact Reads.after_peek (peeks_skipWhitespace solid) raw

theorem peeks_tryConsumeChar {d : Char} {text : List Char} (solid : isWhitespace d = false) (other : c ≠ d) :
    Peeks (tryConsumeChar c) (d :: text) false Follow := by
  refine (peeks_skipWhitespace solid).bind (peeks_tryConsumeRaw fun rest _ => ?_)
  simp [List.isPrefixOf, other]

theorem reads_expectChar {message : String} (solid : isWhitespace c = false) :
    Reads (expectChar source c message) [c] () Follow := by
  rw [expectChar]
  refine Reads.after_peek (peeks_skipWhitespace solid) ?_
  intro rest fits
  rw [Stateful.bind_apply, reads_tryConsumeChar solid rest fits]
  rfl

/-- After an identifier comes nothing that would continue it. -/
abbrev Delimited : List Char → Prop := Stops isIdentContinue

theorem isIdentContinue_of_start (starts : isIdentStart c = true) : isIdentContinue c = true := by
  rcases Bool.or_eq_true_iff.mp starts with underscore | letter
  · simp [isIdentContinue, underscore]
  · simp [isIdentContinue, letter]

theorem solid_of_isIdentContinue (within : isIdentContinue c = true) : isWhitespace c = false := by
  rcases Bool.or_eq_true_iff.mp within with letter | digit
  · rcases Bool.or_eq_true_iff.mp letter with underscore | letter
    · rw [eq_of_beq underscore]
      rfl
    · exact isWhitespace_of_isAlphanum (Bool.or_eq_true_iff.mpr (.inl letter))
  · exact isWhitespace_of_isAlphanum (Bool.or_eq_true_iff.mpr (.inr digit))

theorem isIdent_cons (ident : isIdent name = true) :
    ∃ first tail, name = first :: tail ∧ isIdentStart first = true ∧ ∀ c ∈ tail, isIdentContinue c = true := by
  cases name with
  | nil => cases ident
  | cons first tail =>
    rw [isIdent, Bool.and_eq_true, List.all_eq_true] at ident
    exact ⟨first, tail, rfl, ident.1, ident.2⟩

theorem all_of_isIdent (ident : isIdent name = true) : ∀ c ∈ name, isIdentContinue c = true := by
  obtain ⟨first, tail, rfl, starts, continues⟩ := isIdent_cons ident
  intro c member
  rcases List.mem_cons.mp member with rfl | later
  · exact isIdentContinue_of_start starts
  · exact continues c later

theorem peeks_skipWhitespace_ident (ident : isIdent name = true) : Peeks skipWhitespace name () Follow := by
  obtain ⟨first, tail, rfl, starts, -⟩ := isIdent_cons ident
  exact peeks_skipWhitespace (solid_of_isIdentContinue (isIdentContinue_of_start starts))

theorem peeks_nextKeywordIs (word : isIdent keyword.toList = true) (ident : isIdent name = true) :
    Peeks (nextKeywordIs keyword) name (keyword.toList == name) Delimited := by
  refine (peeks_skipWhitespace_ident ident).bind ?_
  intro rest delimited
  rw [← keyword_iff (all_of_isIdent word) (all_of_isIdent ident) delimited, String.length_toList]
  rfl

theorem reads_consumeKeyword (word : isIdent keyword.toList = true) :
    Reads (consumeKeyword source keyword) keyword.toList () Delimited := by
  rw [consumeKeyword]
  refine Reads.after_peek (peeks_skipWhitespace_ident word) ?_
  refine Reads.after_peek (peeks_nextKeywordIs word word) ?_
  intro rest _
  rw [beq_self_eq_true, if_pos rfl, ← String.length_toList]
  change EStateM.Result.ok () ((keyword.toList ++ rest).drop keyword.toList.length) = _
  rw [List.drop_left]

theorem reads_parseIdentifier {name : String} (ident : isIdent name.toList = true) :
    Reads (parseIdentifier source) name.toList name Delimited := by
  rw [parseIdentifier]
  refine Reads.after_peek (peeks_skipWhitespace_ident ident) ?_
  intro rest delimited
  obtain ⟨first, tail, spelled, starts, continues⟩ := isIdent_cons ident
  have same : String.ofList (first :: tail) = name := by rw [← spelled, String.ofList_toList]
  rw [spelled, Stateful.get_bind_apply]
  simp only [List.cons_append, starts, if_true, takeWhile_of_stops continues delimited,
    dropWhile_of_stops continues delimited, same]
  rfl

end Tokens

/-! ## Literals -/

section Literals

variable {source : List Char}

variable {c : Char} {value : ℕ} {rest output after : List Char}

theorem isIdentContinue_of_isDigit (digit : c.isDigit = true) : isIdentContinue c = true := by
  simp [isIdentContinue, digit]

theorem stops_isDigit_of_delimited (delimited : Delimited rest) : Stops Char.isDigit rest := by
  cases rest with
  | nil => rfl
  | cons c rest =>
    rw [stops_cons, ← Bool.not_eq_true]
    intro digit
    rw [Delimited, stops_cons, isIdentContinue_of_isDigit digit] at delimited
    cases delimited

theorem peeks_skipWhitespace_digits {text : List Char} {Follow : List Char → Prop} :
    Peeks skipWhitespace ((toString value).toList ++ text) () Follow := by
  have digits := toDigits_all value
  obtain ⟨first, tail, spelled⟩ := List.exists_cons_of_ne_nil (@Nat.toDigits_ne_nil value 10)
  rw [spelled] at digits
  rw [toList_toString, spelled]
  exact peeks_skipWhitespace
    (solid_of_isIdentContinue (isIdentContinue_of_isDigit (digits first List.mem_cons_self)))

theorem reads_parseU64Digits {label : String} (bound : value ≤ MAX_U64) :
    Reads (parseU64Digits source label) (toString value).toList value (Stops Char.isDigit) := by
  rw [parseU64Digits, ← List.append_nil (toString value).toList]
  refine Reads.after_peek peeks_skipWhitespace_digits ?_
  rw [List.append_nil, toList_toString]
  intro rest stops
  have digits := toDigits_all value
  rw [Stateful.get_bind_apply]
  simp only [takeWhile_of_stops digits stops, dropWhile_of_stops digits stops, Nat.ofDigitChars_ten_toDigits,
    List.isEmpty_iff, Nat.toDigits_ne_nil, if_false, bound, if_true]
  rfl

theorem reads_parseDuration {duration : VerificationDuration} (bound : duration.value ≤ MAX_U64) :
    Reads (parseDuration source) duration.display duration Delimited := by
  obtain ⟨value, unit⟩ := duration
  rw [parseDuration, VerificationDuration.display]
  refine Reads.after_peek peeks_skipWhitespace_digits (Reads.of_get fun start => ?_)
  refine (reads_parseU64Digits bound).bind ?_ fun rest delimited => by cases unit <;> rfl
  have skip {token : String} {text : List Char} {next : Bool → Parser VerificationDuration}
      {read : VerificationDuration}
      (absent : ∀ rest, Delimited rest → token.toList.isPrefixOf (text ++ rest) = false)
      (rest : Reads (next false) text read Delimited) :
      Reads (tryConsumeRaw token >>= next) text read Delimited :=
    Reads.after_peek (peeks_tryConsumeRaw absent) rest
  cases unit with
  | milliseconds => exact reads_tryConsumeRaw.last rfl
  | seconds =>
    refine skip (fun rest _ => rfl) ?_
    exact reads_tryConsumeRaw.last rfl
  | minutes =>
    refine skip (fun rest delimited => ?_) (skip (fun rest _ => rfl) ?_)
    · cases rest with
      | nil => rfl
      | cons c rest =>
        have apart : 's' ≠ c := by
          rintro rfl
          cases delimited
        change ('m' == 'm' && ('s' == c && _)) = false
        rw [beq_false_of_ne apart]
        rfl
    · exact reads_tryConsumeRaw.last rfl
  | hours =>
    refine skip (fun rest _ => rfl) (skip (fun rest _ => rfl) (skip (fun rest _ => rfl) ?_))
    exact reads_tryConsumeRaw.last rfl

/-- A character a string literal keeps as it is. -/
def plainChar (c : Char) : Bool := c != '"' && c != '\n' && c != '\\'

theorem scanString_close : scanString '"' ('"' :: rest) = some ([], rest) := by
  rw [scanString.eq_def]
  simp

theorem scanString_plain (plain : plainChar c = true) {rest output after : List Char}
    (scanned : scanString '"' rest = some (output, after)) :
    scanString '"' (c :: rest) = some (c :: output, after) := by
  simp only [plainChar, Bool.and_eq_true, bne_iff_ne] at plain
  rw [scanString.eq_def]
  simp [plain, scanned]

theorem scanString_escaped {escaped : Char} (scanned : scanString '"' rest = some (output, after)) :
    scanString '"' ('\\' :: escaped :: rest) = some (unescape escaped ++ output, after) := by
  rw [scanString.eq_def]
  simp [scanned]

theorem plainChar_digitChar {digit : ℕ} (small : digit < 16) : plainChar (Nat.digitChar digit) = true := by
  have all : ∀ digit : Fin 16, plainChar (Nat.digitChar digit) = true := by decide
  exact all ⟨digit, small⟩

theorem scanString_escapeJsonChar (scanned : scanString '"' rest = some (output, after)) :
    scanString '"' (escapeJsonChar c ++ rest) = some (rereadChar c ++ output, after) := by
  have letter (letter : Char) (escape : escapeJsonChar c = ['\\', letter]) (read : unescape letter = rereadChar c) :
      scanString '"' (escapeJsonChar c ++ rest) = some (rereadChar c ++ output, after) := by
    rw [escape, ← read]
    exact scanString_escaped scanned
  by_cases known : c = '"' ∨ c = '\\' ∨ c = '\n' ∨ c = '\r' ∨ c = '\t'
  · rcases known with rfl | rfl | rfl | rfl | rfl
    · exact letter '"' rfl rfl
    · exact letter '\\' rfl rfl
    · exact letter 'n' rfl rfl
    · exact letter 'r' rfl rfl
    · exact letter 't' rfl rfl
  · push Not at known
    obtain ⟨quote, backslash, newline, carriage, tab⟩ := known
    by_cases control : c.toNat < 0x20
    · have lost : lostEscape c = true := by simp [lostEscape, control, newline, carriage, tab]
      by_cases backspace : c.toNat = 0x8
      · exact letter 'b' (by simp [escapeJsonChar, *]) (by simp [rereadChar, escapeJsonChar, unescape, *])
      · by_cases feed : c.toNat = 0xC
        · exact letter 'f' (by simp [escapeJsonChar, *]) (by simp [rereadChar, escapeJsonChar, unescape, *])
        · have escape : escapeJsonChar c =
              ['\\', 'u', '0', '0', Nat.digitChar (c.toNat / 16), Nat.digitChar (c.toNat % 16)] := by
            simp [escapeJsonChar, *]
          have low := scanString_plain (plainChar_digitChar (Nat.mod_lt c.toNat (by decide))) scanned
          have small : c.toNat / 16 < 16 := by omega
          have high := scanString_plain (plainChar_digitChar small) low
          have zero := @scanString_plain '0' rfl _ _ _ high
          have zeros := @scanString_plain '0' rfl _ _ _ zero
          rw [rereadChar, if_pos lost, escape]
          exact scanString_escaped zeros
    · have lost : lostEscape c = false := by simp [lostEscape, control]
      have same : escapeJsonChar c = [c] := by
        have apart : c.toNat ≠ 0x8 ∧ c.toNat ≠ 0xC := by omega
        simp [escapeJsonChar, *]
      rw [rereadChar, lost, if_neg Bool.false_ne_true, same]
      exact scanString_plain (by simp [plainChar, *]) scanned

theorem reads_parseStringLiteral {text : String} {Follow : List Char → Prop} :
    Reads (parseStringLiteral source) (jsonString text) (rereadString text) Follow := by
  rw [parseStringLiteral, jsonString]
  refine Reads.after_peek (peeks_skipWhitespace rfl) ?_
  intro rest _
  have scanned (chars : List Char) :
      scanString '"' (chars.flatMap escapeJsonChar ++ '"' :: rest) = some (chars.flatMap rereadChar, rest) := by
    induction chars with
    | nil => exact scanString_close
    | cons c chars ih =>
      rw [List.flatMap_cons, List.flatMap_cons, List.append_assoc]
      exact scanString_escapeJsonChar ih
  rw [Stateful.get_bind_apply]
  simp only [List.append_assoc, List.cons_append, List.nil_append, scanned text.toList, true_or, if_true]
  rfl

theorem not_starts_of_delimited (delimited : Delimited rest) : rest.head?.any isIdentStart = false := by
  cases rest with
  | nil => rfl
  | cons c rest =>
    rw [Delimited, stops_cons] at delimited
    rw [List.head?_cons, Option.any_some, ← Bool.not_eq_true]
    intro starts
    rw [isIdentContinue_of_start starts] at delimited
    cases delimited

theorem reads_natural (bound : value ≤ MAX_U64) :
    Reads (parseIntegerLiteral source) (toString value).toList (.number (toString value)) Delimited := by
  obtain ⟨first, tail, spelled⟩ := List.exists_cons_of_ne_nil (@Nat.toDigits_ne_nil value 10)
  have digit : first.isDigit = true := toDigits_all value first (spelled ▸ List.mem_cons_self)
  have solid := solid_of_isIdentContinue (isIdentContinue_of_isDigit digit)
  have unsigned : Peeks (tryConsumeChar '-') (toString value).toList false Delimited := by
    rw [toList_toString, spelled]
    refine peeks_tryConsumeChar solid ?_
    rintro rfl
    cases digit
  have skips : Peeks skipWhitespace (toString value).toList () Delimited := by
    rw [toList_toString, spelled]
    exact peeks_skipWhitespace solid
  rw [parseIntegerLiteral]
  refine Reads.after_peek skips (Reads.of_get fun start => Reads.after_peek unsigned ?_)
  intro rest delimited
  rw [Stateful.bind_apply, reads_parseU64Digits bound rest (stops_isDigit_of_delimited delimited)]
  simp only [Stateful.get_bind_apply, not_starts_of_delimited delimited, Bool.false_eq_true, if_false]
  rfl

theorem reads_negative (positive : 0 < value) (bound : value ≤ MAX_I64) :
    Reads (parseIntegerLiteral source) (toString (-(value : ℤ))).toList (.number (toString (-(value : ℤ))))
      Delimited := by
  have small : value ≤ MAX_U64 := bound.trans (by decide)
  rw [toList_negative positive, parseIntegerLiteral]
  refine Reads.after_peek (peeks_skipWhitespace rfl) (Reads.of_get fun start => ?_)
  have signed : Reads (tryConsumeChar '-') ['-'] true fun _ => True := reads_tryConsumeChar rfl
  refine signed.bind ?_ fun _ _ => trivial
  intro rest delimited
  rw [Stateful.bind_apply, reads_parseU64Digits small rest (stops_isDigit_of_delimited delimited)]
  simp only [Stateful.get_bind_apply, not_starts_of_delimited delimited, Bool.false_eq_true, if_false, if_true, bound]
  rfl

theorem not_isDigit_of_start (starts : isIdentStart c = true) : c.isDigit = false := by
  rcases Bool.or_eq_true_iff.mp starts with underscore | letter
  · rw [eq_of_beq underscore]
    rfl
  · exact isDigit_of_isAlpha letter

theorem reads_word {word : String} (ident : isIdent word.toList = true) :
    Reads (parseValue source) word.toList (wordValue word) Delimited := by
  have reads := @reads_parseIdentifier source word ident
  obtain ⟨first, tail, spelled, starts, -⟩ := isIdent_cons ident
  rw [parseValue]
  refine Reads.after_peek (peeks_skipWhitespace_ident ident) ?_
  have quoted : ¬ (first = '"' ∨ first = '\'') := by
    rintro (rfl | rfl)
    · cases starts
    · cases starts
  have numeric : ¬ (first = '-' ∨ first.isDigit = true) := by
    rw [not_isDigit_of_start starts]
    rintro (rfl | impossible)
    · cases starts
    · cases impossible
  intro rest delimited
  have ran := reads rest delimited
  rw [spelled] at ran ⊢
  rw [Stateful.get_bind_apply]
  simp only [List.cons_append, quoted, numeric, starts, if_false, if_true]
  rw [List.cons_append] at ran
  rw [Stateful.bind_apply, ran]
  rfl

theorem reads_parseValue {value : Json} (scalar : Scalar value) :
    Reads (parseValue source) (jsonText value) (rereadValue value) Delimited := by
  have integer {text : List Char} {value : Json} {first : Char} {tail : List Char} (spelled : text = first :: tail)
      (numeric : first = '-' ∨ first.isDigit = true) (reads : Reads (parseIntegerLiteral source) text value Delimited) :
      Reads (parseValue source) text value Delimited := by
    have solid : isWhitespace first = false := by
      rcases numeric with rfl | digit
      · rfl
      · exact solid_of_isIdentContinue (isIdentContinue_of_isDigit digit)
    have quoted : ¬ (first = '"' ∨ first = '\'') := by
      rintro (rfl | rfl)
      · rcases numeric with equal | digit <;> contradiction
      · rcases numeric with equal | digit <;> contradiction
    rw [spelled] at reads ⊢
    rw [parseValue]
    refine Reads.after_peek (peeks_skipWhitespace solid) ?_
    intro rest delimited
    rw [Stateful.get_bind_apply]
    simp only [List.cons_append, quoted, numeric, if_false, if_true]
    exact reads rest delimited
  cases scalar with
  | null => exact @reads_word source "null" (by decide)
  | bool value =>
    cases value with
    | true => exact @reads_word source "true" (by decide)
    | false => exact @reads_word source "false" (by decide)
  | string text =>
    rw [parseValue]
    have reads := @reads_parseStringLiteral source text Delimited
    rw [jsonText, jsonString] at *
    refine Reads.after_peek (peeks_skipWhitespace rfl) ?_
    intro rest delimited
    rw [Stateful.get_bind_apply]
    exact (Stateful.bind_apply ..).trans (by rw [reads rest delimited]; rfl)
  | @natural value bound =>
    obtain ⟨first, tail, spelled⟩ := List.exists_cons_of_ne_nil (@Nat.toDigits_ne_nil value 10)
    have digit : first.isDigit = true := toDigits_all value first (spelled ▸ List.mem_cons_self)
    exact integer ((toList_toString value).trans spelled) (.inr digit) (reads_natural bound)
  | @negative value bound =>
    rcases Nat.eq_zero_or_pos value with rfl | positive
    · exact integer rfl (.inr rfl) (@reads_natural source 0 (Nat.zero_le _))
    · exact integer (toList_negative positive) (.inl rfl) (reads_negative positive bound)

end Literals

section

variable (kind : VerificationPrimitive)

/-! ## Names of primitives -/

theorem mem_variants : kind ∈ VerificationPrimitive.variants := by
  cases kind <;> decide

/-- Wire names are in capital letters and underscores. -/
theorem wire_bytes {kind : VerificationPrimitive} {byte : UInt8} (member : byte ∈ Hex.bytesOf kind.asWireStr) :
    (65 ≤ byte.toNat ∧ byte.toNat ≤ 90) ∨ byte.toNat = 95 := by
  have all : ∀ kind ∈ VerificationPrimitive.variants,
      (Hex.bytesOf kind.asWireStr).all (fun byte => (65 ≤ byte.toNat ∧ byte.toNat ≤ 90) ∨ byte.toNat = 95) = true := by
    decide +kernel
  exact of_decide_eq_true (List.all_eq_true.mp (all kind (mem_variants kind)) byte member)

theorem primitiveDisplayName_eq :
    primitiveDisplayName kind = (Hex.bytesOf kind.asWireStr).map fun byte => (Char.ofNat byte.toNat).toLower := by
  have ascii : ∀ byte ∈ Hex.bytesOf kind.asWireStr, byte.toNat < 128 := by
    intro byte member
    have wire := wire_bytes member
    omega
  rw [primitiveDisplayName, Hex.toList_of_ascii ascii, List.map_map]
  rfl

theorem isIdent_primitiveDisplayName : isIdent (primitiveDisplayName kind) = true := by
  have starts : ∀ code < 128, (65 ≤ code ∧ code ≤ 90) ∨ code = 95 → isIdentStart (Char.ofNat code).toLower = true := by
    decide +kernel
  have each (byte : UInt8) (member : byte ∈ Hex.bytesOf kind.asWireStr) :
      isIdentStart (Char.ofNat byte.toNat).toLower = true := by
    have wire := wire_bytes member
    exact starts byte.toNat (by omega) wire
  rw [primitiveDisplayName_eq]
  cases written : Hex.bytesOf kind.asWireStr with
  | nil => cases kind <;> cases written
  | cons first rest =>
    rw [written] at each
    refine Bool.and_eq_true_iff.mpr ⟨each first List.mem_cons_self, List.all_eq_true.mpr fun c member => ?_⟩
    obtain ⟨byte, inside, rfl⟩ := List.mem_map.mp member
    exact isIdentContinue_of_start (each byte (List.mem_cons_of_mem _ inside))

theorem asWireStr_injective : Function.Injective VerificationPrimitive.asWireStr :=
  Distinct.injective_of_check mem_variants
    (fun name => (Hex.bytesOf name).foldl (fun code byte => code * 263 + byte.toNat) 0 % 10451) (by decide +kernel)

/-- The name in the wire's case is the wire name. -/
theorem upper_primitiveDisplayName :
    String.ofList (((primitiveDisplayName kind).map fun c => if c = '.' then '_' else c).map Char.toUpper) =
      kind.asWireStr := by
  have back : ∀ code < 128, (65 ≤ code ∧ code ≤ 90) ∨ code = 95 →
      String.utf8EncodeChar (if (Char.ofNat code).toLower = '.' then '_' else (Char.ofNat code).toLower).toUpper =
        [UInt8.ofNat code] := by
    decide +kernel
  have each (byte : UInt8) (member : byte ∈ Hex.bytesOf kind.asWireStr) :
      String.utf8EncodeChar (if (Char.ofNat byte.toNat).toLower = '.' then '_'
        else (Char.ofNat byte.toNat).toLower).toUpper = [byte] := by
    have wire := wire_bytes member
    rw [back byte.toNat (by omega) wire, UInt8.ofNat_toNat]
  apply Hex.bytesOf_injective
  rw [Hex.bytesOf_ofList, primitiveDisplayName_eq, List.map_map, List.map_map, List.flatMap_map]
  exact (List.flatMap_congr each).trans (List.flatMap_singleton' _)

theorem primitiveOfName_display : primitiveOfName (String.ofList (primitiveDisplayName kind)) = some kind := by
  rw [primitiveOfName, String.toList_ofList, upper_primitiveDisplayName]
  exact Distinct.find?_of_injective asWireStr_injective (mem_variants kind)

/-! ## Calls -/

end

section Calls

variable {source : List Char} {kind : VerificationPrimitive}

variable {fuel : ℕ} {args read : List (String × Json)} {key : String} {rest : List Char} {value : Json}

theorem delimited_of_head {c : Char} (outside : isIdentContinue c = false) (head : rest.head? = some c) :
    Delimited rest := by
  rw [Delimited, Stops, head]
  exact outside

theorem parseDottedName_undotted {name : String} :
    parseDottedName source (fuel + 1) name ('(' :: rest) = .ok name ('(' :: rest) := by
  have undotted : (tryConsumeChar '.') ('(' :: rest) = .ok false ('(' :: rest) :=
    @peeks_tryConsumeChar (fun _ => True) '.' '(' [] rfl (by decide) rest trivial
  rw [parseDottedName, Stateful.get_bind_apply, Stateful.bind_apply, undotted]
  rfl

theorem reads_parsePrimitiveName :
    Reads (parsePrimitiveName source) (primitiveDisplayName kind) (String.ofList (primitiveDisplayName kind))
      fun rest => rest.head? = some '(' := by
  have ident := isIdent_primitiveDisplayName kind
  have first : Reads (parseIdentifier source) (primitiveDisplayName kind)
      (String.ofList (primitiveDisplayName kind)) Delimited := by
    have reads := @reads_parseIdentifier source (String.ofList (primitiveDisplayName kind))
    rw [String.toList_ofList] at reads
    exact reads ident
  have named : (String.ofList (primitiveDisplayName kind)).isEmpty = false := by
    rw [primitiveDisplayName_eq]
    cases kind <;> rfl
  rw [parsePrimitiveName]
  refine Reads.of_get fun start => ?_
  intro rest opened
  cases rest with
  | nil => cases opened
  | cons c rest =>
    obtain rfl : c = '(' := Option.some_inj.mp opened
    rw [Stateful.bind_apply, first _ (delimited_of_head rfl opened)]
    simp only
    rw [Stateful.get_bind_apply, Stateful.bind_apply, parseDottedName_undotted]
    simp only [named]
    rfl

theorem parseIdentifier_space (source input : List Char) :
    parseIdentifier source (' ' :: input) = parseIdentifier source input := rfl

theorem parseMoreArgs_space (input : List Char) :
    parseMoreArgs source kind (fuel + 1) read (' ' :: input) = parseMoreArgs source kind (fuel + 1) read input := by
  rw [parseMoreArgs, Stateful.bind_apply, Stateful.bind_apply, parseIdentifier_space]

/-- A field with a key above all others goes to the end. -/
theorem insertField_append {fields : List (String × Json)} (above : ∀ field ∈ fields, field.1 < key) :
    insertField fields key value = fields ++ [(key, value)] := by
  have below : fields.filter (fun field => field.1 < key) = fields :=
    List.filter_eq_self.mpr fun field member => by simpa using above field member
  have none : fields.filter (fun field => key < field.1) = [] :=
    List.filter_eq_nil_iff.mpr fun field member less =>
      lt_asymm (above field member) (of_decide_eq_true less)
  rw [insertField, below, none]

theorem ArgsFit.tail {arg : String × Json} {args : List (String × Json)} (fit : ArgsFit kind (arg :: args)) :
    ArgsFit kind args where
  sorted := (List.pairwise_cons.mp fit.sorted).2
  names other member := fit.names other (List.mem_cons_of_mem _ member)
  canonical other member := fit.canonical other (List.mem_cons_of_mem _ member)
  scalars other member := fit.scalars other (List.mem_cons_of_mem _ member)

theorem displayMoreArgs_cons (arg : String × Json) (rest : List (String × Json)) :
    displayMoreArgs (arg :: rest) = [','] ++ ' ' :: displayArgs (arg :: rest) := by
  simp [displayMoreArgs, displayArgs]

theorem reads_parseMoreArgs {fuel : ℕ} {read : List (String × Json)} {key : String} {value : Json}
    {rest : List (String × Json)} (fit : ArgsFit kind ((key, value) :: rest))
    (above : ∀ field ∈ read, ∀ arg ∈ (key, value) :: rest, field.1 < arg.1) (enough : rest.length < fuel) :
    Reads (parseMoreArgs source kind fuel read) (displayArgs ((key, value) :: rest))
      (read ++ rereadArgs ((key, value) :: rest)) fun rest => rest.head? = some ')' := by
  obtain ⟨fuel, rfl⟩ := Nat.exists_eq_succ_of_ne_zero (Nat.ne_zero_of_lt enough)
  have named := fit.names (key, value) List.mem_cons_self
  have canonical := fit.canonical (key, value) List.mem_cons_self
  have valued := @reads_parseValue source _ (fit.scalars (key, value) List.mem_cons_self)
  have fresh : read.any (fun field => field.1 == key) = false := by
    refine List.any_eq_false.mpr fun field member same => ?_
    exact (above field member _ List.mem_cons_self).ne (eq_of_beq same)
  have inserted : insertField read key (rereadValue value) = read ++ [(key, rereadValue value)] :=
    insertField_append fun field member => above field member _ List.mem_cons_self
  have shape : displayArgs ((key, value) :: rest) =
      key.toList ++ (['='] ++ (jsonText value ++ displayMoreArgs rest)) := by
    simp [displayArgs]
  rw [shape, parseMoreArgs]
  refine (reads_parseIdentifier named).bind ?_ fun _ _ => rfl
  refine Reads.bind_free (fun _ => reads_expectChar rfl) ?_
  refine valued.bind ?_ fun after closed => ?_
  · simp only [canonical, fresh, Bool.false_eq_true, if_false, inserted]
    cases rest with
    | nil =>
      intro after closed
      cases after with
      | nil => cases closed
      | cons c after =>
        obtain rfl : c = ')' := Option.some_inj.mp closed
        rfl
    | cons next rest =>
      have later := (List.pairwise_cons.mp fit.sorted).1
      have above' : ∀ field ∈ read ++ [(key, rereadValue value)], ∀ arg ∈ next :: rest, field.1 < arg.1 := by
        intro field member arg among
        rcases List.mem_append.mp member with before | here
        · exact above field before arg (List.mem_cons_of_mem _ among)
        · rw [List.mem_singleton.mp here]
          exact later arg among
      rw [List.length_cons] at enough
      obtain ⟨fuel, rfl⟩ := Nat.exists_eq_succ_of_ne_zero (show fuel ≠ 0 by omega)
      have more := @reads_parseMoreArgs (fuel + 1)
        (read ++ [(key, rereadValue value)]) next.1 next.2 rest fit.tail above'
        (by omega)
      rw [displayMoreArgs_cons]
      refine Reads.after_peek (peeks_skipWhitespace rfl) ?_
      intro after closed
      have open' : (([','] ++ ' ' :: displayArgs (next :: rest)) ++ after).head? ≠ some ')' := by simp
      have value_eq : read ++ rereadArgs ((key, value) :: next :: rest) =
          read ++ [(key, rereadValue value)] ++ rereadArgs (next :: rest) := by simp [rereadArgs]
      rw [Stateful.get_bind_apply, if_neg open', value_eq]
      exact Reads.bind_free (fun _ => reads_expectChar rfl) (more.skip parseMoreArgs_space) after closed
  · cases rest with
    | nil => exact delimited_of_head rfl closed
    | cons next rest => rfl
termination_by rest.length

theorem length_displayMoreArgs (args : List (String × Json)) : args.length ≤ (displayMoreArgs args).length := by
  induction args with
  | nil => simp
  | cons arg args ih =>
    rw [displayMoreArgs_cons, List.length_append, List.length_cons, List.length_singleton, List.length_cons]
    simp only [displayArgs, List.length_append]
    omega

theorem reads_parseArgs (fit : ArgsFit kind args) :
    Reads (parseArgs source kind) (displayArgs args) (rereadArgs args) fun rest => rest.head? = some ')' := by
  cases args with
  | nil =>
    intro rest closed
    cases rest with
    | nil => cases closed
    | cons c rest =>
      obtain rfl : c = ')' := Option.some_inj.mp closed
      rfl
  | cons arg args =>
    obtain ⟨first, tail, spelled, starts, -⟩ := isIdent_cons (fit.names arg List.mem_cons_self)
    have within := isIdentContinue_of_start starts
    have shape : displayArgs (arg :: args) =
        first :: (tail ++ '=' :: jsonText arg.2 ++ displayMoreArgs args) := by
      simp [displayArgs, spelled]
    have skips : Peeks skipWhitespace (displayArgs (arg :: args)) () fun rest => rest.head? = some ')' := by
      rw [shape]
      exact peeks_skipWhitespace (solid_of_isIdentContinue within)
    rw [parseArgs]
    refine Reads.after_peek skips ?_
    intro rest closed
    have unclosed : (displayArgs (arg :: args) ++ rest).head? ≠ some ')' := by
      rw [shape, List.cons_append, List.head?_cons]
      intro same
      rw [Option.some_inj.mp same] at within
      cases within
    have enough : args.length < (displayArgs (arg :: args) ++ rest).length + 1 := by
      have := length_displayMoreArgs args
      rw [shape, List.length_append, List.length_cons, List.length_append]
      omega
    rw [Stateful.get_bind_apply, if_neg unclosed]
    exact reads_parseMoreArgs fit (by simp) enough rest closed

theorem reads_parsePrimitiveCall {Follow : List Char → Prop} (fit : ArgsFit kind args)
    (required : ∀ name ∈ requiredArgs kind, ∃ arg ∈ args, arg.1 = name) :
    Reads (parsePrimitiveCall source) (PrimitiveInvocation.display ⟨kind, .object args⟩)
      (.primitive ⟨kind, .object (rereadArgs args)⟩) Follow := by
  have shape : PrimitiveInvocation.display ⟨kind, .object args⟩ =
      primitiveDisplayName kind ++ (['('] ++ (displayArgs args ++ ([')'] ++ []))) := by
    simp [PrimitiveInvocation.display]
  have present : (requiredArgs kind).find? (fun name => !(rereadArgs args).any (·.1 == name)) = none := by
    refine List.find?_eq_none.mpr fun name member => ?_
    obtain ⟨arg, among, rfl⟩ := required name member
    simpa [rereadArgs] using ⟨arg.2, among⟩
  rw [shape, parsePrimitiveCall]
  refine Reads.of_get fun start => reads_parsePrimitiveName.bind ?_ fun _ _ => rfl
  rw [primitiveOfName_display]
  refine Reads.bind_free (fun _ => reads_expectChar rfl) ?_
  refine (reads_parseArgs fit).bind ?_ fun _ _ => rfl
  refine Reads.bind_free (fun _ => reads_expectChar rfl) ?_
  rw [validateRequiredArgs, present]
  exact Reads.of_pure

end Calls

/-! ## Compositions -/

section Compositions

variable {source : List Char} {levels : ℕ}

variable {name : List Char} {Follow : List Char → Prop} (terms : List VerificationGrammar) (term : VerificationGrammar)

theorem peeks_rejectInfixWord {token : String} (word : isIdent token.toList = true) (ident : isIdent name = true)
    (other : (token.toList == name) = false) : Peeks (rejectInfixWord source token) name () Delimited := by
  refine (peeks_nextKeywordIs word ident).bind ?_
  rw [other]
  exact Peeks.of_pure

/-- A text that starts with an identifier goes to the parser the identifier names. -/
theorem reads_dispatch {name after : List Char} {value : VerificationGrammar} {Follow : List Char → Prop}
    (ident : isIdent name = true) (noAnd : ("and".toList == name) = false) (noOr : ("or".toList == name) = false)
    (delimited : ∀ rest, Follow rest → Delimited (after ++ rest))
    (reads : Reads
      (if "all".toList == name then
        (do
          let terms ← parseTermsComposition source "all" (parseExpression source levels)
          return .all terms)
      else if "any".toList == name then
        (do
          let terms ← parseTermsComposition source "any" (parseExpression source levels)
          return .any terms)
      else if "not".toList == name then parseNot source (parseExpression source levels)
      else if "eventually".toList == name then parseEventually source (parseExpression source levels)
      else parsePrimitiveCall source) (name ++ after) value Follow) :
    Reads (parseExpression source (levels + 1)) (name ++ after) value Follow := by
  have skips : Peeks skipWhitespace (name ++ after) () Follow :=
    (@peeks_skipWhitespace_ident (fun _ => True) name ident).extend fun _ _ => trivial
  have infixes : Peeks (rejectInfixWords source) (name ++ after) () Follow := by
    refine skips.bind (((peeks_rejectInfixWord rfl ident noAnd).bind ?_).extend delimited)
    exact peeks_rejectInfixWord rfl ident noOr
  obtain ⟨first, tail, spelled, starts, -⟩ := isIdent_cons ident
  have grouping : Peeks (rejectGrouping source) (name ++ after) () Follow := by
    refine skips.bind ?_
    intro rest _
    have ungrouped : (name ++ after ++ rest).head? ≠ some '(' := by
      rw [spelled]
      intro same
      rw [Option.some_inj.mp same] at starts
      cases starts
    rw [Stateful.get_bind_apply, if_neg ungrouped]
    rfl
  have keyword {word : String} (known : isIdent word.toList = true) :
      Peeks (nextKeywordIs word) (name ++ after) (word.toList == name) Follow :=
    (peeks_nextKeywordIs known ident).extend delimited
  rw [parseExpression]
  refine Reads.after_peek skips ?_
  intro rest fits
  have nonempty : ¬ (name ++ after ++ rest).isEmpty = true := by simp [spelled]
  rw [Stateful.get_bind_apply, if_neg nonempty]
  refine Reads.after_peek infixes (Reads.after_peek grouping (Reads.after_peek (keyword rfl) ?_)) rest fits
  split_ifs at reads ⊢ with isAll isAny isNot isEventually
  · exact reads
  · exact Reads.after_peek (keyword rfl) (by rwa [if_pos isAny])
  · refine Reads.after_peek (keyword rfl) ?_
    rw [if_neg isAny]
    exact Reads.after_peek (keyword rfl) (by rwa [if_pos isNot])
  · refine Reads.after_peek (keyword rfl) ?_
    rw [if_neg isAny]
    refine Reads.after_peek (keyword rfl) ?_
    rw [if_neg isNot]
    exact Reads.after_peek (keyword rfl) (by rwa [if_pos isEventually])
  · refine Reads.after_peek (keyword rfl) ?_
    rw [if_neg isAny]
    refine Reads.after_peek (keyword rfl) ?_
    rw [if_neg isNot]
    exact Reads.after_peek (keyword rfl) (by rwa [if_neg isEventually])

theorem separator_eq : separator = [',', ' '] := rfl

theorem display_all :
    (VerificationGrammar.all terms).display = "all".toList ++ (['['] ++ (displayTerms terms ++ [']'])) := by
  rw [VerificationGrammar.display, writeTerms]
  simp

theorem display_any :
    (VerificationGrammar.any terms).display = "any".toList ++ (['['] ++ (displayTerms terms ++ [']'])) := by
  rw [VerificationGrammar.display, writeTerms]
  simp

theorem display_not :
    (VerificationGrammar.not term).display = "not".toList ++ (['('] ++ (term.display ++ ([')'] ++ []))) := by
  rw [VerificationGrammar.display, displayNot]
  simp

theorem display_eventually (maxDuration interval : VerificationDuration) :
    (VerificationGrammar.eventually term maxDuration interval).display =
      "eventually".toList ++ (['('] ++ (term.display ++ ([','] ++ (' ' :: "max_duration".toList ++ (['='] ++
        (maxDuration.display ++ ([','] ++ (' ' :: "interval".toList ++ (['='] ++
          (interval.display ++ ([')'] ++ []))))))))))) := by
  rw [VerificationGrammar.display]
  unfold displayEventually displayDuration
  simp only [separator_eq, List.append_assoc, List.cons_append, List.nil_append]

/-- No primitive is called like a keyword. -/
theorem display_ne_keyword (kind : VerificationPrimitive) :
    ∀ word ∈ ["and", "or", "all", "any", "not", "eventually"],
      (word.toList == primitiveDisplayName kind) = false := by
  have all : ∀ kind ∈ VerificationPrimitive.variants, ∀ word ∈ ["and", "or", "all", "any", "not", "eventually"],
      (word.toList == (Hex.bytesOf kind.asWireStr).map fun byte => (Char.ofNat byte.toNat).toLower) = false := by
    decide +kernel
  rw [primitiveDisplayName_eq]
  exact all kind (mem_variants kind)

/-- Every rendered expression starts with an identifier. -/
theorem display_starts (grammar : VerificationGrammar) :
    ∃ first tail, grammar.display = first :: tail ∧ isIdentStart first = true := by
  cases grammar with
  | primitive invocation =>
    obtain ⟨first, tail, spelled, starts, -⟩ := isIdent_cons (isIdent_primitiveDisplayName invocation.kind)
    rw [VerificationGrammar.display, PrimitiveInvocation.display, spelled]
    exact ⟨first, _, rfl, starts⟩
  | all terms =>
    rw [display_all]
    exact ⟨'a', _, rfl, rfl⟩
  | any terms =>
    rw [display_any]
    exact ⟨'a', _, rfl, rfl⟩
  | not term =>
    rw [display_not]
    exact ⟨'n', _, rfl, rfl⟩
  | eventually term maxDuration interval =>
    rw [display_eventually]
    exact ⟨'e', _, rfl, rfl⟩

theorem displayMoreTerms_cons (rest : List VerificationGrammar) :
    displayMoreTerms (term :: rest) = [','] ++ ([' '] ++ displayTerms (term :: rest)) := by
  simp [displayMoreTerms, displayTerms, separator]

theorem length_displayMoreTerms : terms.length ≤ (displayMoreTerms terms).length := by
  induction terms with
  | nil => simp
  | cons term terms ih =>
    rw [displayMoreTerms_cons]
    simp only [displayTerms, List.length_append, List.length_cons, List.length_nil]
    omega

theorem length_rereadTerms : (rereadTerms terms).length = terms.length := by
  induction terms with
  | nil => rfl
  | cons term terms ih => rw [rereadTerms, List.length_cons, ih, List.length_cons]

theorem reads_parseTerms {term : Parser VerificationGrammar} {fuel : ℕ} {read : List VerificationGrammar}
    {first : VerificationGrammar} {rest : List VerificationGrammar} {Follow : List Char → Prop}
    (each : ∀ parsed ∈ first :: rest, ∀ Follow, Reads term parsed.display parsed.reread Follow)
    (enough : rest.length < fuel) :
    Reads (parseTerms source term fuel read) (displayTerms (first :: rest) ++ [']'])
      (read ++ rereadTerms (first :: rest)) Follow := by
  obtain ⟨fuel, rfl⟩ := Nat.exists_eq_succ_of_ne_zero (Nat.ne_zero_of_lt enough)
  rw [displayTerms, List.append_assoc, parseTerms]
  refine Reads.bind_free (each first List.mem_cons_self) ?_
  cases rest with
  | nil =>
    rw [displayMoreTerms, List.nil_append]
    refine Reads.after_peek (peeks_skipWhitespace rfl) ?_
    exact (reads_tryConsumeChar rfl).last rfl
  | cons next rest =>
    have later : ∀ parsed ∈ next :: rest, ∀ Follow, Reads term parsed.display parsed.reread Follow :=
      fun parsed member => each parsed (List.mem_cons_of_mem _ member)
    rw [List.length_cons] at enough
    have more := @reads_parseTerms term fuel (read ++ [first.reread]) next rest Follow later (by omega)
    have value_eq : read ++ rereadTerms (first :: next :: rest) =
        read ++ [first.reread] ++ rereadTerms (next :: rest) := by simp [rereadTerms]
    rw [displayMoreTerms_cons, value_eq, List.append_assoc, List.append_assoc]
    refine Reads.after_peek (peeks_skipWhitespace rfl) ?_
    refine Reads.after_peek (peeks_tryConsumeChar rfl (by decide)) ?_
    refine Reads.bind_free (fun _ => reads_expectChar rfl) ?_
    obtain ⟨letter, tail, spelled, starts⟩ := display_starts next
    have shape : displayTerms (next :: rest) ++ [']'] = letter :: (tail ++ displayMoreTerms rest ++ [']']) := by
      simp [displayTerms, spelled]
    have within := isIdentContinue_of_start starts
    rw [shape] at more ⊢
    refine reads_skipWhitespace.bind ?_ fun _ _ => stops_cons.mpr (solid_of_isIdentContinue within)
    intro after fits
    have unclosed : (letter :: (tail ++ displayMoreTerms rest ++ [']']) ++ after).head? ≠ some ']' := by
      rw [List.cons_append, List.head?_cons]
      intro same
      rw [Option.some_inj.mp same] at within
      cases within
    rw [Stateful.get_bind_apply, if_neg unclosed]
    exact more after fits
termination_by rest.length

theorem reads_parseTermsComposition {term : Parser VerificationGrammar} {combinator : String}
    {terms : List VerificationGrammar} (word : isIdent combinator.toList = true) (two : 2 ≤ terms.length)
    (each : ∀ parsed ∈ terms, ∀ Follow, Reads term parsed.display parsed.reread Follow) :
    Reads (parseTermsComposition source combinator term)
      (combinator.toList ++ (['['] ++ (displayTerms terms ++ [']']))) (rereadTerms terms) Follow := by
  obtain ⟨first, rest, rfl⟩ := List.exists_cons_of_length_pos (Nat.lt_of_lt_of_le Nat.zero_lt_two two)
  obtain ⟨letter, tail, spelled, starts⟩ := display_starts first
  have shape : displayTerms (first :: rest) ++ [']'] = letter :: (tail ++ displayMoreTerms rest ++ [']']) := by
    simp [displayTerms, spelled]
  have within := isIdentContinue_of_start starts
  have solid := solid_of_isIdentContinue within
  have unclosed : ']' ≠ letter := by
    rintro rfl
    cases starts
  rw [parseTermsComposition]
  refine Reads.of_get fun start => (reads_consumeKeyword word).bind ?_ fun _ _ => rfl
  refine Reads.bind_free (fun _ => reads_expectChar rfl) ?_
  have skips : Peeks skipWhitespace (displayTerms (first :: rest) ++ [']']) () Follow := by
    rw [shape]
    exact peeks_skipWhitespace solid
  have nonempty : Peeks (tryConsumeChar ']') (displayTerms (first :: rest) ++ [']']) false Follow := by
    rw [shape]
    exact peeks_tryConsumeChar solid unclosed
  refine Reads.after_peek skips (Reads.after_peek nonempty ?_)
  intro after fits
  have enough : rest.length < (displayTerms (first :: rest) ++ [']'] ++ after).length + 1 := by
    have := length_displayMoreTerms rest
    rw [shape, List.length_append, List.length_cons, List.length_append, List.length_append]
    omega
  have reads := @reads_parseTerms source term _ [] first rest Follow each enough after fits
  have count : ¬ (rereadTerms (first :: rest)).length < 2 := by
    rw [length_rereadTerms]
    omega
  simp only [Bool.false_eq_true, if_false]
  rw [Stateful.get_bind_apply, Stateful.bind_apply, reads]
  simp only [List.nil_append, count, if_false]
  rfl

/-- The parser reads a rendered expression, up to its lost escapes. -/
theorem reads_parseExpression {grammar : VerificationGrammar} (well : WellFormed levels grammar)
    (Follow : List Char → Prop) : Reads (parseExpression source levels) grammar.display grammar.reread Follow := by
  induction levels generalizing grammar Follow with
  | zero => cases well
  | succ levels ih =>
    cases well with
    | @primitive _ kind args fit required =>
      have reserved := display_ne_keyword kind
      have call := @reads_parsePrimitiveCall source kind args Follow fit required
      rw [VerificationGrammar.display, VerificationGrammar.reread]
      rw [PrimitiveInvocation.display, List.append_assoc] at call ⊢
      refine reads_dispatch (isIdent_primitiveDisplayName kind) (reserved _ (by decide)) (reserved _ (by decide))
        (fun _ _ => rfl) ?_
      simp only [reserved "all" (by decide), reserved "any" (by decide), reserved "not" (by decide),
        reserved "eventually" (by decide), Bool.false_eq_true, if_false]
      exact call
    | @all _ terms two each =>
      rw [display_all, VerificationGrammar.reread]
      refine reads_dispatch rfl rfl rfl (fun _ _ => rfl) ?_
      rw [if_pos (beq_self_eq_true _)]
      exact (reads_parseTermsComposition rfl two fun term member Follow => ih (each term member) Follow).last rfl
    | @any _ terms two each =>
      rw [display_any, VerificationGrammar.reread]
      refine reads_dispatch rfl rfl rfl (fun _ _ => rfl) ?_
      rw [if_neg (by decide), if_pos (beq_self_eq_true _)]
      exact (reads_parseTermsComposition rfl two fun term member Follow => ih (each term member) Follow).last rfl
    | @not _ term below =>
      rw [display_not, VerificationGrammar.reread]
      refine reads_dispatch rfl rfl rfl (fun _ _ => rfl) ?_
      rw [if_neg (by decide), if_neg (by decide), if_pos (beq_self_eq_true _), parseNot]
      refine (reads_consumeKeyword rfl).bind ?_ fun _ _ => rfl
      refine Reads.bind_free (fun _ => reads_expectChar rfl) ?_
      refine Reads.bind_free (ih below) ?_
      exact Reads.bind_free (fun _ => reads_expectChar rfl) Reads.of_pure
    | @eventually _ term maxDuration interval below maximum between =>
      rw [display_eventually, VerificationGrammar.reread]
      refine reads_dispatch rfl rfl rfl (fun _ _ => rfl) ?_
      rw [if_neg (by decide), if_neg (by decide), if_neg (by decide), if_pos (beq_self_eq_true _), parseEventually]
      refine (reads_consumeKeyword rfl).bind ?_ fun _ _ => rfl
      refine Reads.bind_free (fun _ => reads_expectChar rfl) ?_
      refine Reads.bind_free (ih below) ?_
      refine Reads.bind_free (fun _ => reads_expectChar rfl) ?_
      refine ((reads_consumeKeyword rfl).skip (fun _ => rfl)).bind ?_ fun _ _ => rfl
      refine Reads.bind_free (fun _ => reads_expectChar rfl) ?_
      refine (reads_parseDuration maximum).bind ?_ fun _ _ => rfl
      refine Reads.bind_free (fun _ => reads_expectChar rfl) ?_
      refine ((reads_consumeKeyword rfl).skip (fun _ => rfl)).bind ?_ fun _ _ => rfl
      refine Reads.bind_free (fun _ => reads_expectChar rfl) ?_
      refine (reads_parseDuration between).bind ?_ fun _ _ => rfl
      exact Reads.bind_free (fun _ => reads_expectChar rfl) Reads.of_pure

end Compositions

variable {source : String} {grammar : VerificationGrammar}

theorem parse_toString (well : WellFormed MAX_COMPOSITION_DEPTH grammar) :
    parse grammar.toString = .ok grammar.reread := by
  have reads := @reads_parseExpression grammar.display _ grammar well (fun _ => True) [] trivial
  rw [List.append_nil] at reads
  rw [parse, VerificationGrammar.toString, String.toList_ofList, parseSource, Stateful.bind_apply, reads]
  rfl

/-! ## When nothing is lost -/

theorem length_rereadChar (c : Char) : 1 + (if lostEscape c then 1 else 0) ≤ (rereadChar c).length := by
  rw [rereadChar]
  split_ifs with lost
  · have low : c.toNat < 0x20 := by simp_all [lostEscape]
    rw [escapeJsonChar]
    split_ifs <;> simp
  · simp

theorem length_flatMap_rereadChar (chars : List Char) :
    chars.length + chars.countP lostEscape ≤ (chars.flatMap rereadChar).length := by
  induction chars with
  | nil => simp
  | cons c chars ih =>
    have := length_rereadChar c
    rw [List.flatMap_cons, List.length_append, List.length_cons, List.countP_cons]
    omega

theorem rereadString_eq_iff (text : String) : rereadString text = text ↔ KeptText text := by
  rw [rereadString, ← String.toList_inj, String.toList_ofList]
  constructor
  · intro same
    have longer := length_flatMap_rereadChar text.toList
    rw [same] at longer
    have none : text.toList.countP lostEscape = 0 := by omega
    intro c member
    simpa using List.countP_eq_zero.mp none c member
  · intro kept
    have each : ∀ c ∈ text.toList, rereadChar c = [c] := fun c member => by
      rw [rereadChar, kept c member, if_neg Bool.false_ne_true]
    rw [List.flatMap_congr each, List.flatMap_singleton']

theorem rereadValue_eq_iff (value : Json) : rereadValue value = value ↔ ∀ text ∈ valueStrings value, KeptText text := by
  cases value with
  | string text => simp [rereadValue, valueStrings, rereadString_eq_iff]
  | _ => simp [rereadValue, valueStrings]

theorem rereadArgs_eq_iff (args : List (String × Json)) :
    rereadArgs args = args ↔ ∀ arg ∈ args, ∀ text ∈ valueStrings arg.2, KeptText text := by
  induction args with
  | nil => simp [rereadArgs]
  | cons arg args ih =>
    have head : (arg.1, rereadValue arg.2) = arg ↔ rereadValue arg.2 = arg.2 := by
      rw [Prod.ext_iff]
      simp
    rw [rereadArgs, List.map_cons, List.cons_eq_cons, head, rereadValue_eq_iff, List.forall_mem_cons, ← ih]
    rfl

theorem rereadTerms_eq_iff (terms : List VerificationGrammar) :
    rereadTerms terms = terms ↔ ∀ term ∈ terms, term.reread = term := by
  induction terms with
  | nil => simp [rereadTerms]
  | cons term terms ih => rw [rereadTerms, List.cons_eq_cons, ih, List.forall_mem_cons]

theorem mem_termsStringArgs {terms : List VerificationGrammar} {text : String} :
    text ∈ termsStringArgs terms ↔ ∃ term ∈ terms, text ∈ term.stringArgs := by
  induction terms with
  | nil => simp [termsStringArgs]
  | cons term terms ih => simp [termsStringArgs, ih]

theorem reread_eq_iff (grammar : VerificationGrammar) :
    grammar.reread = grammar ↔ ∀ text ∈ grammar.stringArgs, KeptText text := by
  have composed {terms : List VerificationGrammar}
      (each : ∀ term ∈ terms, term.reread = term ↔ ∀ text ∈ term.stringArgs, KeptText text) :
      rereadTerms terms = terms ↔ ∀ text ∈ termsStringArgs terms, KeptText text := by
    rw [rereadTerms_eq_iff]
    simp only [mem_termsStringArgs]
    constructor
    · rintro same text ⟨term, member, listed⟩
      exact (each term member).mp (same term member) text listed
    · intro kept term member
      exact (each term member).mpr fun text listed => kept text ⟨term, member, listed⟩
  induction grammar with
  | primitive invocation =>
    obtain ⟨kind, args⟩ := invocation
    cases args with
    | object args =>
      rw [VerificationGrammar.stringArgs, List.forall_mem_flatMap, ← rereadArgs_eq_iff]
      simp [VerificationGrammar.reread]
    | _ => simp [VerificationGrammar.reread, VerificationGrammar.stringArgs]
  | all terms ih =>
    refine Iff.trans ?_ (composed ih)
    simp [VerificationGrammar.reread]
  | any terms ih =>
    refine Iff.trans ?_ (composed ih)
    simp [VerificationGrammar.reread]
  | not term ih =>
    refine Iff.trans ?_ ih
    simp [VerificationGrammar.reread]
  | eventually term maxDuration interval ih =>
    refine Iff.trans ?_ ih
    simp [VerificationGrammar.reread]

theorem parse_eq_ok_of_toOption (read : (parse source).toOption = some grammar) : parse source = .ok grammar := by
  cases ran : parse source with
  | ok parsed =>
    rw [ran] at read
    exact congrArg Except.ok (Option.some_inj.mp read)
  | error failure =>
    rw [ran] at read
    cases read

/-- The expression parsed from a source is the one parsed from its rendering, exactly if no string
argument holds a control character other than a tab or a line break. -/
theorem roundTrip_iff (parsed : parse source = .ok grammar) :
    parse grammar.toString = .ok grammar ↔ ∀ text ∈ grammar.stringArgs, KeptText text := by
  rw [parse_toString (wellFormed_of_parse parsed), ← reread_eq_iff]
  exact ⟨fun same => Except.ok.inj same, fun same => congrArg Except.ok same⟩

theorem roundTrip_iff_tab :
    ∃ grammar, parse "file_exists(path='a\tb')" = .ok grammar ∧ parse grammar.toString = .ok grammar := by
  have ran : (parse "file_exists(path='a\tb')").toOption.map VerificationGrammar.stringArgs = some ["a\tb"] := by
    decide +kernel
  obtain ⟨grammar, read, args⟩ := Option.map_eq_some_iff.mp ran
  have parsed := parse_eq_ok_of_toOption read
  refine ⟨grammar, parsed, (roundTrip_iff parsed).mpr ?_⟩
  rw [args]
  exact List.forall_mem_singleton.mpr (by decide)

/-- A path that holds U+0001 is rendered as `\u0001`, and the unknown escape is read back as it stands. -/
theorem not_roundTrip_controlPath :
    ∃ grammar, parse "file_exists(path=\"\x01\")" = .ok grammar ∧ grammar.stringArgs = ["\x01"] ∧
      grammar.toString = "file_exists(object_or_path=\"\\u0001\")" ∧ parse grammar.toString ≠ .ok grammar := by
  have ran : (parse "file_exists(path=\"\x01\")").toOption.map
      (fun grammar => (grammar.stringArgs, grammar.toString)) =
        some (["\x01"], "file_exists(object_or_path=\"\\u0001\")") := by decide +kernel
  obtain ⟨grammar, read, rendered⟩ := Option.map_eq_some_iff.mp ran
  obtain ⟨args, text⟩ := Prod.mk.inj rendered
  refine ⟨grammar, parse_eq_ok_of_toOption read, args, text, fun same => ?_⟩
  have again : (parse grammar.toString).toOption.map VerificationGrammar.stringArgs = some ["\\u0001"] := by
    rw [text]
    decide +kernel
  rw [same, Except.toOption, Option.map_some, args] at again
  exact absurd again (by decide)

end Aios.Verification
