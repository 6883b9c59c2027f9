import Aios.Lib.Scanner
import Aios.Lib.Table
import Aios.Verification.Parser
import Mathlib.Data.List.TakeWhile

/-! # What the parser accepts

Every expression the parser returns is well formed: within the depth limit, compositions of at least
two terms, and calls with the required arguments, under canonical names in order, with scalar values.
Along the way no loop runs out of its bound, so the bound is not part of what the parser does.
-/

namespace Aios.Verification

open Aios.Rust Scanner

/-- An identifier of the grammar. -/
def isIdent (name : List Char) : Bool :=
  match name with
  | [] => false
  | first :: tail => isIdentStart first && tail.all isIdentContinue

/-- The argument values the grammar can write. -/
inductive Scalar : Json → Prop
  | null : Scalar .null
  | bool (value) : Scalar (.bool value)
  | string (value) : Scalar (.string value)
  | natural {value : ℕ} (bound : value ≤ MAX_U64) : Scalar (.number (toString value))
  | negative {value : ℕ} (bound : value ≤ MAX_I64) : Scalar (.number (toString (-(value : ℤ))))

structure ArgsFit (kind : VerificationPrimitive) (args : List (String × Json)) : Prop where
  sorted : args.Pairwise fun first second => first.1 < second.1
  names : ∀ arg ∈ args, isIdent arg.1.toList = true
  canonical : ∀ arg ∈ args, canonicalArgName kind arg.1 = arg.1
  scalars : ∀ arg ∈ args, Scalar arg.2

/-- Well formed within a number of levels. -/
inductive WellFormed : ℕ → VerificationGrammar → Prop
  | primitive {levels kind args} (fit : ArgsFit kind args)
      (required : ∀ name ∈ requiredArgs kind, ∃ arg ∈ args, arg.1 = name) :
      WellFormed (levels + 1) (.primitive ⟨kind, .object args⟩)
  | all {levels terms} (two : 2 ≤ terms.length) (each : ∀ term ∈ terms, WellFormed levels term) :
      WellFormed (levels + 1) (.all terms)
  | any {levels terms} (two : 2 ≤ terms.length) (each : ∀ term ∈ terms, WellFormed levels term) :
      WellFormed (levels + 1) (.any terms)
  | not {levels term} (below : WellFormed levels term) : WellFormed (levels + 1) (.not term)
  | eventually {levels term maxDuration interval} (below : WellFormed levels term)
      (maximum : maxDuration.value ≤ MAX_U64) (between : interval.value ≤ MAX_U64) :
      WellFormed (levels + 1) (.eventually term maxDuration interval)

/-! ## Tokens -/

/-- An error of the parser itself. -/
def OfSource (failure : VerificationError) : Prop := failure ≠ .outOfFuel

section Tokens

variable {source input : List Char} {α : Type}

variable {expected : Char} {keyword message : String} {rest : List Char} {Post : α → List Char → Prop}

theorem ends_errorAt : Ends (errorAt source rest message) input Post OfSource := Ends.of_throw nofun

theorem ends_errorHere : Ends (errorHere source message) input Post OfSource := Ends.of_get ends_errorAt

theorem ends_skipWhitespace :
    Ends skipWhitespace input (fun _ rest => rest.length ≤ input.length) OfSource :=
  Ends.of_modify (List.dropWhile_sublist _).length_le

theorem ends_tryConsumeRaw {token : String} :
    Ends (tryConsumeRaw token) input (fun taken rest => rest.length ≤ input.length ∧
      (taken = true → rest.length + token.length ≤ input.length)) OfSource := by
  rw [tryConsumeRaw]
  refine Ends.of_get ?_
  split_ifs with here
  · have fits := (List.isPrefixOf_iff_prefix.mp here).length_le
    rw [String.length_toList] at fits
    refine Ends.after_set ?_
    refine Ends.of_pure ⟨?_, fun _ => ?_⟩
    · rw [List.length_drop]
      omega
    · rw [List.length_drop]
      omega
  · exact Ends.of_pure ⟨le_rfl, nofun⟩

theorem ends_tryConsumeChar :
    Ends (tryConsumeChar expected) input
      (fun taken rest => rest.length ≤ input.length ∧ (taken = true → rest.length < input.length)) OfSource := by
  rw [tryConsumeChar]
  refine ends_skipWhitespace.bind fun _ left shorter => ?_
  refine ends_tryConsumeRaw.mono fun taken rest leaves => ⟨by omega, fun here => ?_⟩
  have fits := leaves.2 here
  rw [String.length_singleton] at fits
  omega

theorem ends_nextKeywordIs :
    Ends (nextKeywordIs keyword) input (fun _ rest => rest.length ≤ input.length) OfSource := by
  rw [nextKeywordIs]
  exact ends_skipWhitespace.bind fun _ left shorter => Ends.of_get (Ends.of_pure shorter)

theorem ends_consumeKeyword :
    Ends (consumeKeyword source keyword) input (fun _ rest => rest.length ≤ input.length) OfSource := by
  rw [consumeKeyword]
  refine ends_skipWhitespace.bind fun _ left shorter => ?_
  refine ends_nextKeywordIs.bind fun here left shorter' => ?_
  split_ifs
  · refine Ends.of_modify ?_
    rw [List.length_drop]
    omega
  · exact ends_errorHere

theorem ends_expectChar :
    Ends (expectChar source expected message) input (fun _ rest => rest.length < input.length) OfSource := by
  rw [expectChar]
  refine ends_skipWhitespace.bind fun _ left shorter => ?_
  refine ends_tryConsumeChar.bind fun taken left consumed => ?_
  split_ifs with here
  · have := consumed.2 here
    exact Ends.of_pure (by omega)
  · refine Ends.of_get ?_
    split_ifs
    · exact ends_errorHere
    · exact ends_errorHere

theorem ends_parseIdentifier :
    Ends (parseIdentifier source) input
      (fun name rest => rest.length < input.length ∧ isIdent name.toList = true) OfSource := by
  rw [parseIdentifier]
  refine ends_skipWhitespace.bind fun _ left shorter => Ends.of_get ?_
  cases left with
  | nil => exact ends_errorHere
  | cons first tail =>
    simp only
    split_ifs with starts
    · refine Ends.after_set ?_
      refine Ends.of_pure ⟨?_, ?_⟩
      · have dropped : (tail.dropWhile isIdentContinue).length ≤ tail.length :=
          (List.dropWhile_sublist _).length_le
        simp only [List.length_cons] at shorter
        omega
      · rw [String.toList_ofList, isIdent, starts, Bool.true_and, List.all_eq_true]
        exact fun c member => List.mem_takeWhile_imp member
    · exact ends_errorHere

theorem ends_parseU64Digits {label : String} :
    Ends (parseU64Digits source label) input (fun value rest => rest.length ≤ input.length ∧ value ≤ MAX_U64)
      OfSource := by
  rw [parseU64Digits]
  refine ends_skipWhitespace.bind fun _ left shorter => Ends.of_get ?_
  refine Ends.after_set ?_
  split_ifs with _ bound
  · exact ends_errorAt
  · exact Ends.of_pure ⟨(List.dropWhile_sublist _).length_le.trans shorter, bound⟩
  · exact ends_errorAt

theorem ends_parseDuration :
    Ends (parseDuration source) input (fun duration rest => rest.length ≤ input.length ∧ duration.value ≤ MAX_U64)
      OfSource := by
  rw [parseDuration]
  refine ends_skipWhitespace.bind fun _ left shorter => Ends.of_get ?_
  refine ends_parseU64Digits.bind fun value rest digits => ?_
  refine ends_tryConsumeRaw.bind fun taken rest consumed => ?_
  split_ifs
  · exact Ends.of_pure ⟨by omega, digits.2⟩
  · refine ends_tryConsumeRaw.bind fun taken rest consumed => ?_
    split_ifs
    · exact Ends.of_pure ⟨by omega, digits.2⟩
    · refine ends_tryConsumeRaw.bind fun taken rest consumed => ?_
      split_ifs
      · exact Ends.of_pure ⟨by omega, digits.2⟩
      · refine ends_tryConsumeRaw.bind fun taken rest consumed => ?_
        split_ifs
        · exact Ends.of_pure ⟨by omega, digits.2⟩
        · exact ends_errorAt

theorem length_scanString {quote : Char} {body output : List Char}
    (scanned : scanString quote body = some (output, rest)) : rest.length ≤ body.length := by
  fun_induction scanString quote body generalizing output with
  | case1 => cases scanned
  | case2 tail =>
    cases scanned
    simp
  | case3 => cases scanned
  | case4 => cases scanned
  | case5 c rest escaped tail ih =>
    obtain ⟨found, there, same⟩ := Option.map_eq_some_iff.mp scanned
    cases same
    have := ih there
    simp only [List.length_cons]
    omega
  | case6 c tail _ _ _ ih =>
    obtain ⟨found, there, same⟩ := Option.map_eq_some_iff.mp scanned
    cases same
    have := ih there
    simp only [List.length_cons]
    omega

theorem ends_parseStringLiteral :
    Ends (parseStringLiteral source) input (fun _ rest => rest.length ≤ input.length) OfSource := by
  rw [parseStringLiteral]
  refine ends_skipWhitespace.bind fun _ left shorter => Ends.of_get ?_
  cases left with
  | nil => exact ends_errorHere
  | cons quote body =>
    simp only
    split_ifs
    · cases scanned : scanString quote body with
      | none => exact ends_errorAt
      | some found =>
        refine Ends.after_set ?_
        have := length_scanString scanned
        simp only [List.length_cons] at shorter
        exact Ends.of_pure (by omega)
    · exact ends_errorHere

theorem ends_parseIntegerLiteral :
    Ends (parseIntegerLiteral source) input (fun value rest => rest.length ≤ input.length ∧ Scalar value)
      OfSource := by
  rw [parseIntegerLiteral]
  refine ends_skipWhitespace.bind fun _ left shorter => Ends.of_get ?_
  refine ends_tryConsumeChar.bind fun negative rest consumed => ?_
  refine ends_parseU64Digits.bind fun value rest digits => Ends.of_get ?_
  split_ifs with _ _ bound
  · exact ends_parseIdentifier.bind fun suffix rest _ => ends_errorAt
  · exact Ends.of_pure ⟨by omega, .negative bound⟩
  · exact ends_errorAt
  · exact Ends.of_pure ⟨by omega, .natural digits.2⟩

theorem scalar_wordValue (ident : String) : Scalar (wordValue ident) := by
  fun_cases wordValue ident with
  | case1 => exact .bool true
  | case2 => exact .bool false
  | case3 => exact .null
  | case4 => exact .string ident

theorem ends_parseValue :
    Ends (parseValue source) input (fun value rest => rest.length ≤ input.length ∧ Scalar value) OfSource := by
  rw [parseValue]
  refine ends_skipWhitespace.bind fun _ left shorter => Ends.of_get ?_
  cases left with
  | nil => exact ends_errorHere
  | cons found tail =>
    simp only
    split_ifs
    · refine ends_parseStringLiteral.bind fun text rest shorter' => Ends.of_pure ⟨by omega, .string text⟩
    · exact ends_parseIntegerLiteral.mono fun value rest scalar => ⟨by omega, scalar.2⟩
    · refine ends_parseIdentifier.bind fun ident rest named => Ends.of_pure ⟨by omega, ?_⟩
      exact scalar_wordValue ident
    · exact ends_errorHere

end Tokens

/-! ## Calls -/

section Calls

variable {source input : List Char} {kind : VerificationPrimitive}

variable {fuel : ℕ} {args : List (String × Json)} {name : String}

theorem ends_parseDottedName (enough : input.length < fuel) :
    Ends (parseDottedName source fuel name) input (fun _ rest => rest.length ≤ input.length) OfSource := by
  induction fuel generalizing input name with
  | zero => cases enough
  | succ fuel ih =>
    rw [parseDottedName]
    refine Ends.of_get (ends_tryConsumeChar.bind fun taken rest consumed => ?_)
    split_ifs with dotted
    · refine Ends.of_get ?_
      split_ifs
      · refine ends_parseIdentifier.bind fun segment left named => ?_
        exact (ih (by omega)).mono fun _ final shorter => by omega
      · refine Ends.after_set ?_
        exact Ends.of_pure le_rfl
    · exact Ends.of_pure consumed.1

theorem ends_parsePrimitiveName :
    Ends (parsePrimitiveName source) input (fun _ rest => rest.length < input.length) OfSource := by
  rw [parsePrimitiveName]
  refine Ends.of_get (ends_parseIdentifier.bind fun first rest named => Ends.of_get ?_)
  refine (ends_parseDottedName (Nat.lt_succ_self _)).bind fun name left shorter => ?_
  split_ifs
  · exact ends_errorAt
  · exact Ends.of_pure (by omega)

theorem canonicalArgName_idem (kind : VerificationPrimitive) (raw : String) :
    canonicalArgName kind (canonicalArgName kind raw) = canonicalArgName kind raw := by
  fun_cases canonicalArgName kind raw with
  | case7 => simp_all [canonicalArgName]
  | _ => rfl

theorem isIdent_canonicalArgName {raw : String} (ident : isIdent raw.toList = true) :
    isIdent (canonicalArgName kind raw).toList = true := by
  fun_cases canonicalArgName kind raw with
  | case7 => exact ident
  | _ => decide

theorem ArgsFit.insertField (fit : ArgsFit kind args) {value : Json} (ident : isIdent name.toList = true)
    (canonical : canonicalArgName kind name = name) (scalar : Scalar value) :
    ArgsFit kind (Verification.insertField args name value) := by
  have cases_mem {arg : String × Json} (member : arg ∈ Verification.insertField args name value) :
      arg ∈ args ∨ arg = (name, value) := by
    rcases List.mem_append.mp member with below | here
    · exact .inl (List.mem_of_mem_filter below)
    · rcases List.mem_cons.mp here with same | above
      · exact .inr same
      · exact .inl (List.mem_of_mem_filter above)
  refine ⟨(SortedTable.insert ⟨args, fit.sorted⟩ name value).sorted, fun arg member => ?_, fun arg member => ?_,
    fun arg member => ?_⟩
  · rcases cases_mem member with before | rfl
    · exact fit.names arg before
    · exact ident
  · rcases cases_mem member with before | rfl
    · exact fit.canonical arg before
    · exact canonical
  · rcases cases_mem member with before | rfl
    · exact fit.scalars arg before
    · exact scalar

theorem ends_parseMoreArgs (enough : input.length < fuel) (fit : ArgsFit kind args) :
    Ends (parseMoreArgs source kind fuel args) input
      (fun args rest => rest.length ≤ input.length ∧ ArgsFit kind args) OfSource := by
  induction fuel generalizing input args with
  | zero => cases enough
  | succ fuel ih =>
    rw [parseMoreArgs]
    refine ends_parseIdentifier.bind fun rawKey rest named => ?_
    refine ends_expectChar.bind fun _ rest shorter => ?_
    refine ends_parseValue.bind fun value rest valued => ?_
    have inserted := fit.insertField (isIdent_canonicalArgName named.2) (canonicalArgName_idem kind rawKey) valued.2
    split_ifs
    · exact ends_errorHere
    · refine ends_skipWhitespace.bind fun _ rest shorter' => Ends.of_get ?_
      split_ifs
      · exact Ends.of_pure ⟨by omega, inserted⟩
      · refine ends_expectChar.bind fun _ rest shorter'' => ?_
        exact (ih (by omega) inserted).mono fun _ final holds => ⟨by omega, holds.2⟩

theorem ends_parseArgs :
    Ends (parseArgs source kind) input (fun args rest => rest.length ≤ input.length ∧ ArgsFit kind args)
      OfSource := by
  have none : ArgsFit kind [] := ⟨.nil, nofun, nofun, nofun⟩
  rw [parseArgs]
  refine ends_skipWhitespace.bind fun _ rest shorter => Ends.of_get ?_
  split_ifs
  · exact Ends.of_pure ⟨shorter, none⟩
  · exact (ends_parseMoreArgs (Nat.lt_succ_self _) none).mono fun args left holds => ⟨by omega, holds.2⟩

theorem ends_validateRequiredArgs {start : List Char} {primitiveName : String} :
    Ends (validateRequiredArgs kind args source start primitiveName) input
      (fun _ rest => rest = input ∧ ∀ name ∈ requiredArgs kind, ∃ arg ∈ args, arg.1 = name) OfSource := by
  rw [validateRequiredArgs]
  split
  · exact ends_errorAt
  · next present =>
    refine Ends.of_pure ⟨rfl, fun name required => ?_⟩
    simpa using List.find?_eq_none.mp present name required

theorem ends_parsePrimitiveCall {levels : ℕ} :
    Ends (parsePrimitiveCall source) input
      (fun grammar rest => rest.length < input.length ∧ WellFormed (levels + 1) grammar) OfSource := by
  rw [parsePrimitiveCall]
  refine Ends.of_get (ends_parsePrimitiveName.bind fun primitiveName rest named => ?_)
  split
  · exact ends_errorAt
  · refine ends_expectChar.bind fun _ rest opened => ?_
    refine ends_parseArgs.bind fun args rest fit => ?_
    refine ends_expectChar.bind fun _ rest closed => ?_
    refine ends_validateRequiredArgs.bind fun _ rest validated => ?_
    obtain ⟨rfl, required⟩ := validated
    exact Ends.of_pure ⟨by omega, .primitive fit.2 required⟩

end Calls

/-! ## Compositions -/

section Compositions

variable {source input : List Char} {term : Parser VerificationGrammar} {levels : ℕ}

theorem ends_parseTerms {fuel : ℕ} {terms : List VerificationGrammar} (enough : input.length < fuel)
    (each : ∀ input, Ends term input
      (fun grammar rest => rest.length < input.length ∧ WellFormed levels grammar) OfSource)
    (fit : ∀ term ∈ terms, WellFormed levels term) :
    Ends (parseTerms source term fuel terms) input
      (fun terms rest => rest.length ≤ input.length ∧ ∀ term ∈ terms, WellFormed levels term) OfSource := by
  induction fuel generalizing input terms with
  | zero => cases enough
  | succ fuel ih =>
    rw [parseTerms]
    refine (each input).bind fun parsed rest well => ?_
    have extended : ∀ term ∈ terms ++ [parsed], WellFormed levels term := by
      intro term member
      rcases List.mem_append.mp member with before | here
      · exact fit term before
      · exact List.mem_singleton.mp here ▸ well.2
    refine ends_skipWhitespace.bind fun _ rest shorter => ?_
    refine ends_tryConsumeChar.bind fun taken rest consumed => ?_
    split_ifs
    · exact Ends.of_pure ⟨by omega, extended⟩
    · refine ends_expectChar.bind fun _ rest shorter' => ?_
      refine ends_skipWhitespace.bind fun _ rest shorter'' => Ends.of_get ?_
      split_ifs
      · exact ends_errorHere
      · exact (ih (by omega) extended).mono fun _ final holds => ⟨by omega, holds.2⟩

theorem ends_parseTermsComposition {combinator : String}
    (each : ∀ input, Ends term input
      (fun grammar rest => rest.length < input.length ∧ WellFormed levels grammar) OfSource) :
    Ends (parseTermsComposition source combinator term) input
      (fun terms rest => rest.length < input.length ∧ 2 ≤ terms.length ∧ ∀ term ∈ terms, WellFormed levels term)
      OfSource := by
  rw [parseTermsComposition]
  refine Ends.of_get (ends_consumeKeyword.bind fun _ rest shorter => ?_)
  refine ends_expectChar.bind fun _ rest opened => ?_
  refine ends_skipWhitespace.bind fun _ rest shorter' => ?_
  refine ends_tryConsumeChar.bind fun taken rest consumed => ?_
  split_ifs
  · exact ends_errorAt
  · refine Ends.of_get ((ends_parseTerms (Nat.lt_succ_self _) each (by simp)).bind fun terms rest parsed => ?_)
    split_ifs with few
    · exact ends_errorAt
    · exact Ends.of_pure ⟨by omega, Nat.not_lt.mp few, parsed.2⟩

theorem ends_parseNot
    (each : ∀ input, Ends term input
      (fun grammar rest => rest.length < input.length ∧ WellFormed levels grammar) OfSource) :
    Ends (parseNot source term) input
      (fun grammar rest => rest.length < input.length ∧ WellFormed (levels + 1) grammar) OfSource := by
  rw [parseNot]
  refine ends_consumeKeyword.bind fun _ rest shorter => ?_
  refine ends_expectChar.bind fun _ rest opened => ?_
  refine (each rest).bind fun parsed rest well => ?_
  refine ends_expectChar.bind fun _ rest closed => ?_
  exact Ends.of_pure ⟨by omega, .not well.2⟩

theorem ends_parseEventually
    (each : ∀ input, Ends term input
      (fun grammar rest => rest.length < input.length ∧ WellFormed levels grammar) OfSource) :
    Ends (parseEventually source term) input
      (fun grammar rest => rest.length < input.length ∧ WellFormed (levels + 1) grammar) OfSource := by
  rw [parseEventually]
  refine ends_consumeKeyword.bind fun _ rest named => ?_
  refine ends_expectChar.bind fun _ rest opened => ?_
  refine (each rest).bind fun parsed rest well => ?_
  refine ends_expectChar.bind fun _ rest comma => ?_
  refine ends_consumeKeyword.bind fun _ rest maximum => ?_
  refine ends_expectChar.bind fun _ rest equals => ?_
  refine ends_parseDuration.bind fun maxDuration rest lasting => ?_
  refine ends_expectChar.bind fun _ rest comma' => ?_
  refine ends_consumeKeyword.bind fun _ rest between => ?_
  refine ends_expectChar.bind fun _ rest equals' => ?_
  refine ends_parseDuration.bind fun interval rest pausing => ?_
  refine ends_expectChar.bind fun _ rest closed => ?_
  exact Ends.of_pure ⟨by omega, .eventually well.2 lasting.2 pausing.2⟩

theorem ends_rejectInfixWord {token : String} :
    Ends (rejectInfixWord source token) input (fun _ rest => rest.length ≤ input.length) OfSource := by
  rw [rejectInfixWord]
  refine ends_nextKeywordIs.bind fun here rest shorter => ?_
  split_ifs
  · exact ends_errorHere
  · exact Ends.of_pure shorter

theorem ends_rejectInfixWords :
    Ends (rejectInfixWords source) input (fun _ rest => rest.length ≤ input.length) OfSource := by
  rw [rejectInfixWords]
  refine ends_skipWhitespace.bind fun _ rest shorter => ?_
  refine ends_rejectInfixWord.bind fun _ rest shorter' => ?_
  exact ends_rejectInfixWord.mono fun _ left shorter'' => by omega

theorem ends_rejectGrouping :
    Ends (rejectGrouping source) input (fun _ rest => rest.length ≤ input.length) OfSource := by
  rw [rejectGrouping]
  refine ends_skipWhitespace.bind fun _ rest shorter => Ends.of_get ?_
  split_ifs
  · exact ends_errorHere
  · exact Ends.of_pure shorter

/-- Every expression the parser returns is well formed within the levels it was given. -/
theorem ends_parseExpression (levels : ℕ) (input : List Char) :
    Ends (parseExpression source levels) input
      (fun grammar rest => rest.length < input.length ∧ WellFormed levels grammar) OfSource := by
  induction levels generalizing input with
  | zero => exact ends_errorHere
  | succ levels ih =>
    rw [parseExpression]
    refine ends_skipWhitespace.bind fun _ rest skipped => Ends.of_get ?_
    split_ifs
    · exact ends_errorHere
    · refine ends_rejectInfixWords.bind fun _ rest noInfix => ?_
      refine ends_rejectGrouping.bind fun _ rest noGroup => ?_
      refine ends_nextKeywordIs.bind fun isAll rest peeked => ?_
      split_ifs
      · exact (ends_parseTermsComposition ih).bind fun terms rest parsed =>
          Ends.of_pure ⟨by omega, .all parsed.2.1 parsed.2.2⟩
      · refine ends_nextKeywordIs.bind fun isAny rest peeked => ?_
        split_ifs
        · exact (ends_parseTermsComposition ih).bind fun terms rest parsed =>
            Ends.of_pure ⟨by omega, .any parsed.2.1 parsed.2.2⟩
        · refine ends_nextKeywordIs.bind fun isNot rest peeked => ?_
          split_ifs
          · exact (ends_parseNot ih).mono fun grammar left parsed => ⟨by omega, parsed.2⟩
          · refine ends_nextKeywordIs.bind fun isEventually rest peeked => ?_
            split_ifs
            · exact (ends_parseEventually ih).mono fun grammar left parsed => ⟨by omega, parsed.2⟩
            · exact ends_parsePrimitiveCall.mono fun grammar left parsed => ⟨by omega, parsed.2⟩

theorem ends_expectEof : Ends (expectEof source) input (fun _ _ => True) OfSource := by
  rw [expectEof]
  refine ends_skipWhitespace.bind fun _ rest shorter => Ends.of_get ?_
  split_ifs
  · exact Ends.of_pure trivial
  · exact ends_rejectInfixWords.bind fun _ rest noInfix => Ends.of_get ends_errorHere

theorem ends_parseSource :
    Ends (parseSource source) input (fun grammar _ => WellFormed MAX_COMPOSITION_DEPTH grammar) OfSource := by
  rw [parseSource]
  refine (ends_parseExpression MAX_COMPOSITION_DEPTH input).bind fun grammar rest well => ?_
  exact ends_expectEof.bind fun _ rest _ => Ends.of_pure well.2

end Compositions

theorem wellFormed_of_parse {source : String} {grammar : VerificationGrammar} (parsed : parse source = .ok grammar) :
    WellFormed MAX_COMPOSITION_DEPTH grammar := by
  rw [parse] at parsed
  cases ran : parseSource source.toList source.toList with
  | ok value rest =>
    rw [ran] at parsed
    cases parsed
    exact ends_parseSource.ok ran
  | error failure rest =>
    rw [ran] at parsed
    cases parsed

/-- The bounds of the loops are never reached. -/
theorem parse_ne_outOfFuel (source : String) : parse source ≠ .error .outOfFuel := by
  intro failed
  rw [parse] at failed
  cases ran : parseSource source.toList source.toList with
  | ok value rest =>
    rw [ran] at failed
    cases failed
  | error failure rest =>
    rw [ran] at failed
    cases failed
    exact ends_parseSource.error ran rfl

end Aios.Verification
