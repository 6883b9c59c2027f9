import Aios.Lib.Delimited
import Aios.Rust.Lexing

/-! # Texts of tokens for the hand-written parsers

What the scanners that the parsers of the crates share do on a text of tokens with whitespace between them:
marks and words, dotted paths, operators, literals, lists and conjunctions.
-/

namespace Aios.Rust

open Scanner Delimited

/-- A word does not run on into what follows it. -/
def Apart (token rest : List Char) : Prop := token.head?.any isIdentStart = true → Stops isIdentContinue rest

/-- The next token, if there is one, starts outside the class. -/
def StartsOutside (within : Char → Bool) (tokens : List (List Char)) : Prop :=
  ∀ token ∈ tokens.head?, Solid isWhitespace token ∧ Stops within token

variable {ε α β : Type} {token text name : List Char} {tokens : List (List Char)} {Follow : List Char → Prop}

section

variable {c : Char} {word : String} {other : EStateM ε (List Char) (List Char)} {rest tail : List Char}

/-- The scanner takes tokens off every text that starts with them. -/
abbrev Over (scanner : EStateM ε (List Char) α) (before : List (List Char)) (value : α) (after : List (List Char)) :
    Prop :=
  Passes isWhitespace Apart scanner before value after

theorem startsOutside_cons {within : Char → Bool} (solid : Solid isWhitespace token) (stops : Stops within token) :
    StartsOutside within (token :: tokens) :=
  fun _ next => Option.some_inj.mp next ▸ ⟨solid, stops⟩

theorem Apart.stops (ident : isIdent name = true) (fits : Apart name rest) : Stops isIdentContinue rest := by
  obtain ⟨first, tail, rfl, starts, -⟩ := isWord_cons ident
  exact fits starts

/-! ## Marks and words -/

theorem over_skip (solid : Solid isWhitespace token) :
    Over (skip isWhitespace : EStateM ε (List Char) Unit) (token :: tokens) () (token :: tokens) :=
  Passes.of_skip fun _ next => Option.some_inj.mp next ▸ solid

theorem over_atEof (solid : Solid isWhitespace token) :
    Over (do skip isWhitespace; let rest ← get; return rest.isEmpty : EStateM ε (List Char) Bool) (token :: tokens)
      false (token :: tokens) := by
  refine Passes.of_skip_get solid fun rest => ?_
  rw [List.isEmpty_eq_false_iff.mpr solid.append.1]
  exact .of_pure

theorem over_atEof_nil :
    Over (do skip isWhitespace; let rest ← get; return rest.isEmpty : EStateM ε (List Char) Bool) [] true [] :=
  .of_nil Skips.of_modify.bind rfl

theorem reads_char (solid : isWhitespace c = false) :
    Reads (tryTake isWhitespace (·.head? == some c) 1 : EStateM ε (List Char) Bool) [c] true Follow :=
  @reads_tryTake _ _ _ [c] _ _ (solid_cons.mpr solid) fun _ _ => beq_self_eq_true _

theorem over_char (solid : isWhitespace c = false) :
    Over (tryTake isWhitespace (·.head? == some c) 1 : EStateM ε (List Char) Bool) ([c] :: tokens) true tokens :=
  .of_reads_free skips_tryTake (solid_cons.mpr solid) (reads_char solid)

/-- Nothing is taken where a token starts that differs from it. -/
theorem over_untaken {found : List Char → Bool} {length : ℕ} (solid : Solid isWhitespace token)
    (absent : ∀ rest, found (token ++ rest) = false) :
    Over (tryTake isWhitespace found length : EStateM ε (List Char) Bool) (token :: tokens) false (token :: tokens) :=
  .of_peeks_free skips_tryTake solid (peeks_tryTake solid fun rest _ => absent rest)

theorem over_otherChar {d : Char} (solid : isWhitespace d = false) (other : d ≠ c) :
    Over (tryTake isWhitespace (·.head? == some c) 1 : EStateM ε (List Char) Bool) ((d :: tail) :: tokens) false
      ((d :: tail) :: tokens) :=
  over_untaken (solid_cons.mpr solid) fun _ => beq_false_of_ne fun same => other (Option.some.inj same)

/-- Before a delimiter, a word is there exactly if it is the whole identifier. -/
theorem wordAt_iff (ident : isIdent word.toList = true) (named : isIdent name = true)
    (stops : Stops isIdentContinue rest) : wordAt word (name ++ rest) = (word.toList == name) := by
  rw [← keyword_iff (all_of_isIdent ident) (all_of_isIdent named) stops, wordAt, String.length_toList]

theorem over_word (ident : isIdent word.toList = true) :
    Over (tryTake isWhitespace (wordAt word) word.length : EStateM ε (List Char) Bool) (word.toList :: tokens) true
      tokens := by
  rw [← String.length_toList]
  refine .of_reads skips_tryTake (solid_of_isIdent ident) (reads_tryTake (solid_of_isIdent ident) ?_)
    fun _ fits _ => fits.stops ident
  intro rest stops
  rw [wordAt_iff ident ident stops, beq_self_eq_true]

theorem over_otherWord (ident : isIdent word.toList = true) (named : isIdent name = true) (other : word.toList ≠ name) :
    Over (tryTake isWhitespace (wordAt word) word.length : EStateM ε (List Char) Bool) (name :: tokens) false
      (name :: tokens) := by
  refine .of_peeks skips_tryTake (solid_of_isIdent named) (peeks_tryTake (solid_of_isIdent named) ?_)
    fun _ fits _ => fits.stops named
  intro rest stops
  rw [wordAt_iff ident named stops, beq_false_of_ne other]

/-- A token that starts with no parenthesis. -/
def Ungrouped (token : List Char) : Prop :=
  ∀ rest, (token ++ rest).head? ≠ some '(' ∧ (token ++ rest).head? ≠ some ')'

theorem ungrouped_cons {first : Char} (opens : first ≠ '(') (closes : first ≠ ')') : Ungrouped (first :: tail) :=
  fun _ => ⟨fun same => opens (Option.some.inj same), fun same => closes (Option.some.inj same)⟩

theorem ungrouped_of_isIdent (named : isIdent name = true) : Ungrouped name :=
  fun rest => ⟨head_ne_of_isIdent named rfl rest, head_ne_of_isIdent named rfl rest⟩

theorem peeks_parenthesis {failure : List Char → EStateM ε (List Char) Unit} (other : Ungrouped token) :
    Peeks (do let rest ← get; if rest.head? = some '(' ∨ rest.head? = some ')' then failure rest else return ()) token
      () Follow := by
  intro rest _
  rw [Stateful.get_bind_apply, if_neg (not_or.mpr (other rest))]
  rfl

/-- An identifier that is neither `or` nor `not`, with what belongs to its token behind it. -/
theorem over_reject {isOr isNot : List Char → EStateM ε (List Char) Unit} {grouped : EStateM ε (List Char) Unit}
    (named : isIdent name = true) (notOr : "or".toList ≠ name) (notNot : "not".toList ≠ name)
    (ungrouped : Peeks grouped name () (Stops isIdentContinue))
    (apart : ∀ rest, Apart (name ++ tail) rest → Stops isIdentContinue (tail ++ rest)) :
    Over
      (do
        skip isWhitespace
        (do let rest ← get; if wordAt "or" rest then isOr rest else return ())
        (do let rest ← get; if wordAt "not" rest then isNot rest else return ())
        grouped) ((name ++ tail) :: tokens) () ((name ++ tail) :: tokens) := by
  have solid := solid_of_isIdent named
  have word {token : String} {failure : List Char → EStateM ε (List Char) Unit} (ident : isIdent token.toList = true)
      (other : token.toList ≠ name) :
      Peeks (do let rest ← get; if wordAt token rest then failure rest else return ()) name ()
        (Stops isIdentContinue) := by
    intro rest stops
    rw [Stateful.get_bind_apply, wordAt_iff ident named stops, beq_false_of_ne other]
    rfl
  refine .of_peeks Skips.of_modify.bind solid.append (Peeks.extend ?_ apart) fun _ fits _ => fits
  exact (peeks_skip solid).bind ((word rfl notOr).bind ((word rfl notNot).bind ungrouped))

/-! ## Paths -/

/-- The scanner reads identifiers. -/
abbrev ReadsIdentifiers (identifier : EStateM ε (List Char) String) : Prop :=
  ∀ {name : List Char}, isIdent name = true → Reads identifier name (String.ofList name) (Stops isIdentContinue)

theorem readsIdentifiers_takeWord :
    ReadsIdentifiers (String.ofList <$> takeWord isWhitespace isIdentStart isIdentContinue other) := by
  intro name ident
  rw [map_eq_pure_bind]
  exact (reads_takeWord (solid_of_isIdent ident) (fun _ => isIdentContinue_of_start) ident).last rfl

theorem skips_map_takeWord :
    Skips isWhitespace (String.ofList <$> takeWord isWhitespace isIdentStart isIdentContinue other) := by
  rw [map_eq_pure_bind]
  exact skips_takeWord.bind

/-- No identifier goes on here, and no dot comes behind the whitespace. -/
def PathEnds (rest : List Char) : Prop :=
  Stops isIdentContinue rest ∧ Stops (· == '.') (rest.dropWhile isWhitespace)

theorem stops_led {segments : List (List Char)} (stops : Stops isIdentContinue rest) :
    Stops isIdentContinue (led '.' segments ++ rest) := by
  cases segments with
  | nil => exact stops
  | cons => rfl

theorem length_le_led (segments : List (List Char)) : segments.length ≤ (led '.' segments).length := by
  induction segments with
  | nil => exact Nat.zero_le _
  | cons segment segments ih =>
    rw [led_cons, List.length_cons, List.length_cons, List.length_append]
    omega

end

section Paths

variable {identifier : EStateM ε (List Char) String} {scanner : ℕ → String → EStateM ε (List Char) String}
  {segments : List (List Char)} (reads : ReadsIdentifiers identifier) (rounds : SegmentRounds identifier scanner)

include reads rounds

theorem reads_segments {fuel : ℕ} {subpath : String} (idents : ∀ segment ∈ segments, isIdent segment = true)
    (enough : segments.length < fuel) :
    Reads (scanner fuel subpath) (led '.' segments) (String.ofList (subpath.toList ++ led '.' segments)) PathEnds := by
  obtain ⟨fuel, rfl⟩ := Nat.exists_eq_succ_of_ne_zero (Nat.ne_zero_of_lt enough)
  induction segments generalizing fuel subpath with
  | nil =>
    intro rest ends
    have closed : ¬((rest.dropWhile isWhitespace).head? = some '.' ∧
        (rest.dropWhile isWhitespace).tail.head?.any isIdentStart = true) := by
      rintro ⟨dot, -⟩
      have stops := ends.2
      rw [Stops, dot] at stops
      cases stops
    rw [led_nil, List.nil_append, List.append_nil, String.ofList_toList, rounds, Stateful.get_bind_apply]
    change (if _ then _ else _ : EStateM ε (List Char) String) (rest.dropWhile isWhitespace) = _
    rw [if_neg closed]
    rfl
  | cons segment segments ih =>
    obtain ⟨ident, others⟩ := List.forall_mem_cons.mp idents
    rw [List.length_cons] at enough
    obtain ⟨fuel, rfl⟩ := Nat.exists_eq_succ_of_ne_zero (show fuel ≠ 0 by omega)
    have more := @ih (subpath ++ "." ++ String.ofList segment) others fuel (by omega)
    have whole : (subpath ++ "." ++ String.ofList segment).toList ++ led '.' segments =
        subpath.toList ++ led '.' (segment :: segments) := by
      rw [String.toList_append, String.toList_append, String.toList_ofList, led_cons]
      simp
    rw [whole] at more
    intro rest ends
    have opened : (segment ++ (led '.' segments ++ rest)).head?.any isIdentStart = true := by
      obtain ⟨head, tail, rfl, starts, -⟩ := isWord_cons ident
      exact starts
    rw [led_cons, List.cons_append, List.append_assoc, rounds, Stateful.get_bind_apply]
    change (if _ then _ else _ : EStateM ε (List Char) String) ('.' :: (segment ++ (led '.' segments ++ rest))) = _
    rw [if_pos ⟨rfl, opened⟩]
    change (identifier >>= _) (segment ++ (led '.' segments ++ rest)) = _
    rw [Stateful.bind_of_ok (reads ident _ (stops_led ends.1))]
    exact more rest ends

/-- The identifiers behind the first dot of a path. -/
theorem reads_subpath {first : List Char} {next : String → EStateM ε (List Char) α} {value : α}
    (ident : isIdent first = true) (idents : ∀ segment ∈ segments, isIdent segment = true)
    (returns : next (String.ofList (first ++ led '.' segments)) = pure value) :
    Reads
      (do
        let first ← identifier
        let rest ← get
        let subpath ← scanner (rest.length + 1) first
        next subpath) (first ++ led '.' segments) value PathEnds := by
  refine (reads ident).bind ?_ fun rest ends => stops_led ends.1
  intro rest ends
  have enough : segments.length < (led '.' segments ++ rest).length + 1 := by
    have shorter := length_le_led segments
    rw [List.length_append]
    omega
  have more := @reads_segments _ _ _ _ reads rounds _ (String.ofList first) idents enough rest ends
  rw [String.toList_ofList] at more
  rw [Stateful.get_bind_apply, Stateful.bind_of_ok more, returns]
  rfl

end Paths

section

variable {entry : String × α} {table : List (String × α)} {value : α}

/-- A path is taken where no dot comes next. -/
theorem over_path {scanner : EStateM ε (List Char) α} {path : List Char} (skips : Skips isWhitespace scanner)
    (solid : Solid isWhitespace path) (starts : path.head?.any isIdentStart = true)
    (reads : Reads scanner path value PathEnds) (next : StartsOutside (· == '.') tokens) :
    Over scanner (path :: tokens) value tokens :=
  .of_reads skips solid reads fun _ fits others => ⟨fits starts, others.stops_dropWhile next⟩

/-! ## Operators -/

/-- Take the first of the texts that stands here. -/
def takeFirst : List (String × α) → EStateM ε (List Char) (Option α)
  | [] => return none
  | (text, value) :: others => do
    if ← tryTake isWhitespace (text.toList.isPrefixOf ·) text.length then return some value else takeFirst others

/-- The other text is not found where this one is followed by no `=`. -/
def clears (text other : List Char) : Bool :=
  !other.isPrefixOf text && (!text.isPrefixOf other || (other.drop text.length).head? == some '=')

/-- Of the texts in the table this one is taken. -/
def selects [BEq α] : List (String × α) → List Char → α → Bool
  | [], _, _ => false
  | (other, result) :: others, text, value =>
    if other.toList = text then result == value else clears text other.toList && selects others text value

theorem isPrefixOf_of_clears {other rest : List Char} (clear : clears text other = true)
    (stops : Stops (· == '=') rest) : other.isPrefixOf (text ++ rest) = false := by
  rw [clears, Bool.and_eq_true, Bool.not_eq_true', Bool.or_eq_true, Bool.not_eq_true', beq_iff_eq] at clear
  obtain ⟨shorter, longer⟩ := clear
  rw [← Bool.not_eq_true, List.isPrefixOf_iff_prefix] at shorter ⊢
  intro starts
  rcases List.prefix_or_prefix_of_prefix starts (List.prefix_append text rest) with within | ⟨more, rfl⟩
  · exact shorter within
  · obtain ⟨tail, rfl⟩ := (List.prefix_append_right_inj text).mp starts
    rw [← Bool.not_eq_true, List.isPrefixOf_iff_prefix, List.drop_left] at longer
    rcases longer with apart | equals
    · exact apart (List.prefix_append text more)
    · rw [Stops, List.head?_append, equals] at stops
      cases stops

theorem reads_takeFirst [BEq α] [LawfulBEq α] (solid : Solid isWhitespace text)
    (selected : selects table text value = true) :
    Reads (takeFirst table : EStateM ε (List Char) (Option α)) text (some value) (Stops (· == '=')) := by
  induction table with
  | nil => cases selected
  | cons entry others ih =>
    obtain ⟨other, result⟩ := entry
    rw [selects] at selected
    rw [takeFirst, ← String.length_toList]
    split_ifs at selected with here
    · obtain rfl : result = value := eq_of_beq selected
      subst here
      refine (reads_tryTake solid fun rest _ => ?_).last rfl
      exact List.isPrefixOf_iff_prefix.mpr (List.prefix_append _ _)
    · rw [Bool.and_eq_true] at selected
      exact Reads.after_peek (peeks_tryTake solid fun _ => isPrefixOf_of_clears selected.1) (ih selected.2)

theorem skips_takeFirst :
    Skips isWhitespace (takeFirst (entry :: table) : EStateM ε (List Char) (Option α)) := skips_tryTake.bind

theorem over_takeFirst [BEq α] [LawfulBEq α] (solid : Solid isWhitespace text)
    (selected : selects (entry :: table) text value = true) (next : StartsOutside (· == '=') tokens) :
    Over (takeFirst (entry :: table) : EStateM ε (List Char) (Option α)) (text :: tokens) (some value) tokens :=
  .of_reads skips_takeFirst solid (reads_takeFirst solid selected) fun _ _ others =>
    others.stops (fun _ blank => isWhitespace_ne rfl blank) next

/-- No operator starts an identifier. -/
theorem over_takeFirst_none (named : isIdent name = true)
    (strange : (entry :: table).all (fun entry => entry.1.toList.head?.any (!isIdentStart ·)) = true) :
    Over (takeFirst (entry :: table) : EStateM ε (List Char) (Option α)) (name :: tokens) none (name :: tokens) := by
  refine .of_peeks_free skips_takeFirst (solid_of_isIdent named) ?_
  generalize entry :: table = table at strange
  induction table with
  | nil => exact .of_pure
  | cons entry table ih =>
    obtain ⟨first, others⟩ := Bool.and_eq_true_iff.mp strange
    refine Peeks.bind (peeks_tryTake (solid_of_isIdent named) fun rest _ => ?_) (ih others)
    obtain ⟨c, found, other⟩ := (Option.any_eq_true _ _).mp first
    obtain ⟨tail, spelled⟩ := List.head?_eq_some_iff.mp found
    rw [← Bool.not_eq_true, List.isPrefixOf_iff_prefix, spelled]
    rintro ⟨later, same⟩
    exact head_ne_of_isIdent named (by simpa using other) rest (by rw [← same]; rfl)

/-! ## Literals -/

/-- A string literal, by what is scanned of it up to the closing quote. -/
theorem over_quoted {scan : List Char → Option (List Char × List Char)}
    {unterminated : List Char → EStateM ε (List Char) String} {other : EStateM ε (List Char) String} {body : List Char}
    (scanned : ∀ rest, scan (body ++ '"' :: rest) = some (text, rest)) :
    Over
      (do
        skip isWhitespace
        let place ← get
        if ← tryTake isWhitespace (·.head? == some '"') 1 then
          let body ← get
          match scan body with
          | some (text, rest) =>
            set rest
            return String.ofList text
          | none => unterminated place
        else
          other) (('"' :: (body ++ ['"'])) :: tokens) (String.ofList text) tokens := by
  have solid : Solid isWhitespace ('"' :: (body ++ ['"'])) := solid_cons.mpr rfl
  have opened : '"' :: (body ++ ['"']) = ['"'] ++ (body ++ ['"']) := rfl
  refine .of_reads_free Skips.of_modify.bind solid
    (Reads.after_peek (peeks_skip solid) (Reads.of_get fun place => ?_))
  rw [opened]
  refine Reads.bind_free (fun _ => reads_char rfl) ?_
  intro rest _
  rw [if_pos rfl, Stateful.get_bind_apply, List.append_assoc, List.singleton_append, scanned]
  rfl

/-- What comes next would not continue a number. -/
abbrev AfterValue (tokens : List (List Char)) : Prop := StartsOutside (fun c => c.isDigit || c == '.') tokens

end

section Integers

variable {source : List Char} {invalid : ℕ → ℕ → String → ε} {wrap : Int64 → α} {value : Int64}

theorem reads_integer :
    Reads (scanInteger source invalid wrap) (toString value.toInt).toList (wrap value) NumberEnds := by
  obtain ⟨negative, magnitude, spelled, valued⟩ := exists_digits value.toInt
  have some_digits := @Nat.toDigits_ne_nil magnitude 10
  have signed : (if negative then ['-'] else []).isEmpty = !negative := by cases negative <;> rfl
  have digits : Reads (span Char.isDigit : EStateM ε (List Char) (List Char)) (Nat.toDigits 10 magnitude)
      (Nat.toDigits 10 magnitude) (Stops Char.isDigit) := reads_span (toDigits_all magnitude)
  rw [scanInteger]
  refine Reads.after_peek (peeks_skip (solid_toString value)) (Reads.of_get fun place => ?_)
  rw [spelled]
  refine reads_takeSign.bind ?_ fun rest _ => ⟨rest, rfl⟩
  intro rest ends
  have whole : ¬(rest.head? = some '.' ∧ rest.tail.head?.any Char.isDigit = true) := fun fraction =>
    ends.point fraction.1
  rw [scanDigits, Stateful.bind_of_ok (digits rest ends.digits), if_neg (by simp),
    Stateful.get_bind_apply, if_neg whole, signed, Bool.not_not, parseI64_toDigits valued]
  rfl

theorem over_integer (next : AfterValue tokens) :
    Over (scanInteger source invalid wrap) ((toString value.toInt).toList :: tokens) (wrap value) tokens := by
  refine .of_reads Skips.of_modify.bind (solid_toString value) reads_integer fun rest _ others => ?_
  refine others.stops (fun c blank => ?_) next
  rw [isWhitespace_ne rfl blank, Bool.or_false, ← Bool.not_eq_true]
  intro digit
  rw [isWhitespace_of_number (.inr digit)] at blank
  cases blank

end Integers

/-- How a value starts whose token is an identifier. -/
theorem starts_word (ident : isIdent name = true) (rest : List Char) :
    (name ++ rest).head? ≠ some '"' ∧
      ¬((name ++ rest).head? = some '-' ∨ (name ++ rest).head?.any Char.isDigit = true) ∧
      (name ++ rest).head?.any isIdentStart = true := by
  refine ⟨head_ne_of_isIdent ident rfl rest, not_or.mpr ⟨head_ne_of_isIdent ident rfl rest, ?_⟩, ?_⟩
  all_goals obtain ⟨first, tail, rfl, starts, -⟩ := isWord_cons ident
  · rw [List.cons_append, List.head?_cons, Option.any_some, isDigit_of_isIdentStart starts]
    exact Bool.false_ne_true
  · exact starts

/-- How a value starts whose token is a number. -/
theorem starts_number (value : Int64) (rest : List Char) :
    ((toString value.toInt).toList ++ rest).head? ≠ some '"' ∧
      (((toString value.toInt).toList ++ rest).head? = some '-' ∨
        ((toString value.toInt).toList ++ rest).head?.any Char.isDigit = true) := by
  obtain ⟨first, tail, spelled, number⟩ := head_toString value
  rw [spelled, List.cons_append, List.head?_cons, Option.any_some]
  refine ⟨?_, number.imp (congrArg some) id⟩
  rintro same
  rw [Option.some_inj.mp same] at number
  rcases number with impossible | impossible <;> cases impossible

/-! ## Lists and conjunctions -/

/-- The tokens of elements, each behind a comma. -/
def commaTokens (token : β → List Char) (values : List β) : List (List Char) :=
  values.flatMap fun value => [[','], token value]

theorem length_le_commaTokens (token : β → List Char) (values : List β) :
    values.length ≤ (commaTokens token values).countP fun token => !token.isEmpty := by
  induction values with
  | nil => exact Nat.zero_le _
  | cons value values ih =>
    have shape : commaTokens token (value :: values) = [','] :: token value :: commaTokens token values := rfl
    rw [shape, List.countP_cons_of_pos rfl, List.countP_cons, List.length_cons]
    omega

section Elements

variable {element : EStateM ε (List Char) α} {unclosed : EStateM ε (List Char) (List α)}
  {scanner : ℕ → List α → EStateM ε (List Char) (List α)} {token : β → List Char} {read : β → α} {first : β}
  {rest : List β} (rounds : ElementRounds element unclosed scanner)
  (each : ∀ value ∈ first :: rest, ∀ {after}, AfterValue after →
    Over element (token value :: after) (read value) after)

include rounds each

theorem over_moreElements {values : List α} {fuel : ℕ} (enough : rest.length < fuel) :
    Over (scanner fuel values) (token first :: (commaTokens token rest ++ [']'] :: tokens))
      (values ++ (first :: rest).map read) tokens := by
  obtain ⟨fuel, rfl⟩ := Nat.exists_eq_succ_of_ne_zero (Nat.ne_zero_of_lt enough)
  obtain ⟨here, others⟩ := List.forall_mem_cons.mp each
  have mark {c : Char} {more : List (List Char)} (solid : isWhitespace c = false)
      (other : (c.isDigit || c == '.') = false) : AfterValue ([c] :: more) :=
    startsOutside_cons (solid_cons.mpr solid) other
  rw [rounds]
  induction rest generalizing first values fuel with
  | nil =>
    refine (here (mark rfl rfl)).bind ((over_skip (solid_cons.mpr rfl)).bind ?_)
    exact (over_otherChar rfl (by decide)).bind ((over_char rfl).bind .of_pure)
  | cons next rest ih =>
    rw [List.length_cons] at enough
    obtain ⟨fuel, rfl⟩ := Nat.exists_eq_succ_of_ne_zero (show fuel ≠ 0 by omega)
    obtain ⟨follows, later⟩ := List.forall_mem_cons.mp others
    have more := @ih next others (values ++ [read first]) fuel (by omega) follows later
    rw [List.append_assoc, ← rounds] at more
    refine (here (mark rfl rfl)).bind ((over_skip (solid_cons.mpr rfl)).bind ?_)
    exact (over_char rfl).bind more

/-- The elements of a list, and its closing bracket. -/
theorem over_elements :
    Over (do let text ← get; scanner (text.length + 1) []) (token first :: (commaTokens token rest ++ [']'] :: tokens))
      ((first :: rest).map read) tokens := by
  refine Passes.of_get fun text laid => over_moreElements rounds each ?_
  have room := laid.countP_le
  have commas := length_le_commaTokens token rest
  rw [List.countP_cons, List.countP_append] at room
  omega

end Elements

section

variable (tokensOf : β → List (List Char)) (predicates : List β)

/-- Another predicate comes next, or the end. -/
def Continues (tokens : List (List Char)) : Prop := ∀ token ∈ tokens.head?, token = "and".toList

theorem Continues.startsOutside {within : Char → Bool} (continues : Continues tokens) (other : within 'a' = false) :
    StartsOutside within tokens := by
  intro token next
  rw [continues token next]
  exact ⟨solid_cons.mpr rfl, other⟩

/-- The tokens of the predicates behind the first one. -/
def conjunctTokens : List (List Char) :=
  predicates.flatMap fun predicate => "and".toList :: tokensOf predicate

theorem continues_conjunctTokens : Continues (conjunctTokens tokensOf predicates) := by
  cases predicates with
  | nil => exact nofun
  | cons => exact fun token next => (Option.some_inj.mp next).symm

theorem length_le_conjunctTokens :
    predicates.length ≤ (conjunctTokens tokensOf predicates).countP fun token => !token.isEmpty := by
  induction predicates with
  | nil => exact Nat.zero_le _
  | cons predicate predicates ih =>
    have shape : conjunctTokens tokensOf (predicate :: predicates) =
        "and".toList :: (tokensOf predicate ++ conjunctTokens tokensOf predicates) := rfl
    rw [shape, List.countP_cons_of_pos rfl, List.countP_append, List.length_cons]
    omega

end

section Conjuncts

variable {reject : EStateM ε (List Char) Unit} {joined : EStateM ε (List Char) Bool}
  {predicate : EStateM ε (List Char) α} {unjoined : EStateM ε (List Char) (List α)}
  {scanner : ℕ → List α → EStateM ε (List Char) (List α)} {tokensOf : β → List (List Char)} {read : β → α}
  {predicates : List β} (rounds : ConjunctRounds reject joined predicate unjoined scanner)
  (rejects : ∀ after, Over reject ("and".toList :: after) () ("and".toList :: after))
  (joins : ∀ after, Over joined ("and".toList :: after) true after)
  (each : ∀ value ∈ predicates, ∀ {after}, Continues after →
    Over predicate (tokensOf value ++ after) (read value) after)

include rounds rejects joins each

theorem over_moreConjuncts {before : List α} {fuel : ℕ} (enough : predicates.length < fuel) :
    Over (scanner fuel before) (conjunctTokens tokensOf predicates) (before ++ predicates.map read) [] := by
  obtain ⟨fuel, rfl⟩ := Nat.exists_eq_succ_of_ne_zero (Nat.ne_zero_of_lt enough)
  induction predicates generalizing before fuel with
  | nil =>
    rw [rounds, List.map_nil, List.append_nil]
    exact over_atEof_nil.bind .of_pure
  | cons next predicates ih =>
    obtain ⟨here, later⟩ := List.forall_mem_cons.mp each
    rw [List.length_cons] at enough
    obtain ⟨fuel, rfl⟩ := Nat.exists_eq_succ_of_ne_zero (show fuel ≠ 0 by omega)
    have more := @ih later (before ++ [read next]) fuel (by omega)
    have shape : conjunctTokens tokensOf (next :: predicates) =
        "and".toList :: (tokensOf next ++ conjunctTokens tokensOf predicates) := rfl
    rw [List.append_assoc] at more
    rw [shape, rounds]
    refine (over_atEof (solid_cons.mpr rfl)).bind ((rejects _).bind ((joins _).bind ?_))
    exact (here (continues_conjunctTokens tokensOf predicates)).bind more

/-- The predicates behind the first one, up to the end. -/
theorem over_conjuncts {before : List α} :
    Over (do let text ← get; scanner (text.length + 1) before) (conjunctTokens tokensOf predicates)
      (before ++ predicates.map read) [] := by
  refine Passes.of_get fun text laid => over_moreConjuncts rounds rejects joins each ?_
  have room := laid.countP_le
  have words := length_le_conjunctTokens tokensOf predicates
  omega

end Conjuncts

end Aios.Rust
