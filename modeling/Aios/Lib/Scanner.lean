import Aios.Lib.Stateful
import Mathlib.Data.List.Basic
import Mathlib.Data.List.DropRight

/-! # Scanners of lists

A scanner is a computation that may fail, whose state is what is left of the input. `Reads` and `Peeks`
say what it does on a text that is followed by something it stops at, which is what a round trip
through a printer needs; `Ends` says what it establishes from one input.
Each judgement comes with the rules that follow the shape of a scanner.
-/

namespace Scanner

variable {ε τ α β : Type}

section

variable {within : τ → Bool} {text rest : List τ} (scanner : EStateM ε (List τ) α)

/-- The rest is empty or starts with a token outside the class. -/
def Stops (within : τ → Bool) (rest : List τ) : Prop := rest.head?.any within = false

theorem stops_cons {head : τ} {tail : List τ} : Stops within (head :: tail) ↔ within head = false := Iff.rfl

theorem takeWhile_of_stops (all : ∀ token ∈ text, within token = true) (stops : Stops within rest) :
    (text ++ rest).takeWhile within = text := by
  rw [List.takeWhile_append_of_pos all]
  cases rest with
  | nil => simp
  | cons head tail => simp [stops_cons.mp stops]

theorem dropWhile_of_stops (all : ∀ token ∈ text, within token = true) (stops : Stops within rest) :
    (text ++ rest).dropWhile within = rest := by
  rw [List.dropWhile_append_of_pos all]
  cases rest with
  | nil => simp
  | cons head tail => simp [stops_cons.mp stops]

/-- Before a delimiter, a keyword is found exactly if it is the whole identifier. -/
theorem keyword_iff [BEq τ] [LawfulBEq τ] {keyword name : List τ} (word : ∀ c ∈ keyword, within c = true)
    (ident : ∀ c ∈ name, within c = true) (delimited : Stops within rest) :
    (keyword.isPrefixOf (name ++ rest) && !((name ++ rest).drop keyword.length).head?.any within) =
      (keyword == name) := by
  induction keyword generalizing name with
  | nil =>
    cases name with
    | nil =>
      rw [List.nil_append, List.length_nil, List.drop_zero, delimited]
      rfl
    | cons c name => simp [ident c List.mem_cons_self]
  | cons c keyword ih =>
    have inside := word c List.mem_cons_self
    cases name with
    | nil =>
      cases rest with
      | nil => simp
      | cons d rest =>
        have apart : c ≠ d := by
          rintro rfl
          rw [stops_cons.mp delimited] at inside
          cases inside
        simp [List.isPrefixOf, apart]
    | cons d name =>
      have tails := ih (fun c member => word c (List.mem_cons_of_mem _ member))
        fun c member => ident c (List.mem_cons_of_mem _ member)
      rw [List.cons_append, List.isPrefixOf, List.length_cons, List.drop_succ_cons, Bool.and_assoc, tails]
      rfl

/-! ## Reading a text -/

/-- The scanner reads the value off the text and stops behind it, whenever what follows fits. -/
def Reads (text : List τ) (value : α) (Follow : List τ → Prop) : Prop :=
  ∀ rest, Follow rest → scanner (text ++ rest) = .ok value rest

/-- The scanner looks at the text and leaves it. -/
def Peeks (text : List τ) (value : α) (Follow : List τ → Prop) : Prop :=
  ∀ rest, Follow rest → scanner (text ++ rest) = .ok value (text ++ rest)

end

variable {scanner : EStateM ε (List τ) α} {next : α → EStateM ε (List τ) β} {text after : List τ} {value : α}
  {result : β} {Follow Between : List τ → Prop}

namespace Reads

theorem of_pure : Reads (pure value : EStateM ε (List τ) α) [] value Follow := fun _ _ => rfl

theorem bind (first : Reads scanner text value Between) (rest : Reads (next value) after result Follow)
    (follows : ∀ rest, Follow rest → Between (after ++ rest)) :
    Reads (scanner >>= next) (text ++ after) result Follow := by
  intro remaining fits
  rw [List.append_assoc, Stateful.bind_apply, first (after ++ remaining) (follows remaining fits)]
  exact rest remaining fits

/-- A first part that needs nothing of what follows. -/
theorem bind_free (first : ∀ Between : List τ → Prop, Reads scanner text value Between)
    (rest : Reads (next value) after result Follow) : Reads (scanner >>= next) (text ++ after) result Follow :=
  (first fun _ => True).bind rest fun _ _ => trivial

theorem after_peek (first : Peeks scanner text value Follow) (rest : Reads (next value) text result Follow) :
    Reads (scanner >>= next) text result Follow := by
  intro remaining fits
  rw [Stateful.bind_apply, first remaining fits]
  exact rest remaining fits

/-- A last part that only returns. -/
theorem last (first : Reads scanner text value Follow) (returns : next value = pure result) :
    Reads (scanner >>= next) text result Follow := by
  intro remaining fits
  rw [Stateful.bind_apply, first remaining fits]
  exact congrFun returns remaining

/-- Looking at the whole input first makes no difference to a part that reads the same for each. -/
theorem of_get {next : List τ → EStateM ε (List τ) β} (rest : ∀ input, Reads (next input) text result Follow) :
    Reads (get >>= next) text result Follow := fun remaining fits => rest _ remaining fits

/-- A token the scanner passes over may stand before the text. -/
theorem skip {token : τ} (skips : ∀ input, scanner (token :: input) = scanner input)
    (reads : Reads scanner text value Follow) : Reads scanner (token :: text) value Follow :=
  fun rest fits => (skips (text ++ rest)).trans (reads rest fits)

end Reads

theorem Peeks.bind (first : Peeks scanner text value Follow) (rest : Peeks (next value) text result Follow) :
    Peeks (scanner >>= next) text result Follow := by
  intro remaining fits
  rw [Stateful.bind_apply, first remaining fits]
  exact rest remaining fits

/-- A longer text is looked at like the part the scanner looks at. -/
theorem Peeks.extend (peeks : Peeks scanner text value Between)
    (follows : ∀ rest, Follow rest → Between (after ++ rest)) :
    Peeks scanner (text ++ after) value Follow := by
  intro rest fits
  rw [List.append_assoc]
  exact peeks (after ++ rest) (follows rest fits)

theorem Peeks.of_pure : Peeks (pure value : EStateM ε (List τ) α) text value Follow := fun _ _ => rfl

/-! ## From one input -/

/-- From this input the scanner returns in `Post`, a relation of the value and what is left, or fails in
`Fail`. -/
def Ends (scanner : EStateM ε (List τ) α) (input : List τ) (Post : α → List τ → Prop) (Fail : ε → Prop) : Prop :=
  match scanner input with
  | .ok value rest => Post value rest
  | .error failure _ => Fail failure

namespace Ends

variable {input : List τ} {Post : α → List τ → Prop} {Post' : β → List τ → Prop} {Fail : ε → Prop}

theorem of_pure (holds : Post value input) : Ends (pure value : EStateM ε (List τ) α) input Post Fail := holds

theorem of_throw {failure : ε} (holds : Fail failure) :
    Ends (throw failure : EStateM ε (List τ) α) input Post Fail := holds

theorem of_get {next : List τ → EStateM ε (List τ) β} (rest : Ends (next input) input Post' Fail) :
    Ends (get >>= next) input Post' Fail := rest

theorem of_modify {update : List τ → List τ} {Post : PUnit → List τ → Prop} (holds : Post ⟨⟩ (update input)) :
    Ends (modify update : EStateM ε (List τ) PUnit) input Post Fail := holds

theorem after_set {left : List τ} {next : PUnit → EStateM ε (List τ) β} (rest : Ends (next ⟨⟩) left Post' Fail) :
    Ends (set left >>= next) input Post' Fail := rest

theorem bind (first : Ends scanner input Post Fail)
    (rest : ∀ value left, Post value left → Ends (next value) left Post' Fail) :
    Ends (scanner >>= next) input Post' Fail := by
  rw [Ends, Stateful.bind_apply]
  rw [Ends] at first
  cases ran : scanner input with
  | ok value left =>
    rw [ran] at first
    exact rest value left first
  | error failure left =>
    rw [ran] at first
    exact first

theorem mono (ends : Ends scanner input Post Fail) {Weaker : α → List τ → Prop}
    (weaker : ∀ value rest, Post value rest → Weaker value rest) : Ends scanner input Weaker Fail := by
  rw [Ends] at *
  cases ran : scanner input with
  | ok value rest =>
    rw [ran] at ends
    exact weaker value rest ends
  | error failure rest =>
    rw [ran] at ends
    exact ends

theorem ok {rest : List τ} (ends : Ends scanner input Post Fail) (ran : scanner input = .ok value rest) :
    Post value rest := by
  rwa [Ends, ran] at ends

theorem error {failure : ε} {rest : List τ} (ends : Ends scanner input Post Fail)
    (ran : scanner input = .error failure rest) : Fail failure := by
  rwa [Ends, ran] at ends

end Ends

end Scanner

/-! ## Tokens with blanks between them

A text of tokens has blanks before, between and behind them, and each token is apart from what follows it.
`Passes` says that a scanner takes the first tokens off every such text. It holds of a scanner that skips
blanks and then reads one token, and the rules for sequences follow the tokens.
-/

namespace Scanner

variable {ε τ α β : Type} {blank : τ → Bool} {apart : List τ → List τ → Prop}

section

variable {token rest : List τ}

/-- The text is the tokens in their order with blanks around them. -/
inductive LaidOut (blank : τ → Bool) (apart : List τ → List τ → Prop) : List (List τ) → List τ → Prop
  | behind {gap : List τ} (blanks : ∀ item ∈ gap, blank item = true) : LaidOut blank apart [] gap
  | token {gap token rest : List τ} {tokens : List (List τ)} (blanks : ∀ item ∈ gap, blank item = true)
      (fits : apart token rest) (others : LaidOut blank apart tokens rest) :
      LaidOut blank apart (token :: tokens) (gap ++ (token ++ rest))

/-- The token starts with what is no blank. -/
def Solid (blank : τ → Bool) (token : List τ) : Prop := token ≠ [] ∧ Stops blank token

theorem solid_cons {head : τ} {tail : List τ} : Solid blank (head :: tail) ↔ blank head = false :=
  and_iff_right (List.cons_ne_nil _ _)

theorem Solid.stops_append {within : τ → Bool} (solid : Solid blank token) (stops : Stops within token) :
    Stops within (token ++ rest) := by
  cases token with
  | nil => exact absurd rfl solid.1
  | cons head tail => exact stops

theorem Solid.append (solid : Solid blank token) : Solid blank (token ++ rest) :=
  ⟨List.append_ne_nil_of_left_ne_nil solid.1 rest, solid.stops_append solid.2⟩

theorem Solid.dropWhile_append (solid : Solid blank token) : (token ++ rest).dropWhile blank = token ++ rest := by
  cases token with
  | nil => exact absurd rfl solid.1
  | cons head tail =>
    rw [List.cons_append, List.dropWhile_cons_of_neg]
    exact Bool.not_eq_true _ ▸ solid_cons.mp solid

end

namespace LaidOut

variable {tokens : List (List τ)} {token text rest : List τ}

variable {gap : List τ} {within : τ → Bool}

/-- No blanks before the first token. -/
theorem here (fits : apart token rest) (others : LaidOut blank apart tokens rest) :
    LaidOut blank apart (token :: tokens) (token ++ rest) :=
  @LaidOut.token _ _ _ [] _ _ _ nofun fits others

theorem after_gap (blanks : ∀ item ∈ gap, blank item = true) (laid : LaidOut blank apart tokens text) :
    LaidOut blank apart tokens (gap ++ text) := by
  cases laid with
  | behind others => exact .behind (List.forall_mem_append.mpr ⟨blanks, others⟩)
  | token others fits rest =>
    rw [← List.append_assoc]
    exact .token (List.forall_mem_append.mpr ⟨blanks, others⟩) fits rest

/-- The tokens with one gap between each two. -/
theorem of_intercalate (blanks : ∀ item ∈ gap, blank item = true) (ends : ∀ token, apart token [])
    (separates : ∀ token rest, apart token (gap ++ rest)) (tokens : List (List τ)) :
    LaidOut blank apart tokens (gap.intercalate tokens) := by
  induction tokens with
  | nil => exact .behind nofun
  | cons token tokens ih =>
    cases tokens with
    | nil =>
      have last : LaidOut blank apart [token] (token ++ []) := here (ends token) (.behind nofun)
      rw [List.append_nil] at last
      rwa [List.intercalate_singleton]
    | cons next tokens =>
      rw [List.intercalate_cons_cons, List.append_assoc]
      exact here (separates token _) (ih.after_gap blanks)

theorem dropWhile (solid : Solid blank token) (laid : LaidOut blank apart (token :: tokens) text) :
    ∃ rest, text.dropWhile blank = token ++ rest ∧ apart token rest ∧ LaidOut blank apart tokens rest := by
  cases laid with
  | token blanks fits others =>
    refine ⟨_, ?_, fits, others⟩
    rw [List.dropWhile_append_of_pos blanks, solid.dropWhile_append]

theorem dropWhile_nil (laid : LaidOut blank apart [] text) : text.dropWhile blank = [] := by
  cases laid with
  | behind blanks => exact List.dropWhile_eq_nil_iff.mpr blanks

/-- What no blank is and the next token does not start with does not come next. -/
theorem stops (laid : LaidOut blank apart tokens text) (blanks : ∀ item, blank item = true → within item = false)
    (next : ∀ token ∈ tokens.head?, Solid blank token ∧ Stops within token) : Stops within text := by
  have gaps {gap rest : List τ} (all : ∀ item ∈ gap, blank item = true) (after : Stops within rest) :
      Stops within (gap ++ rest) := by
    cases gap with
    | nil => exact after
    | cons item gap => exact blanks item (all item List.mem_cons_self)
  cases laid with
  | behind all =>
    rw [← List.append_nil text]
    exact gaps all rfl
  | token all fits others =>
    obtain ⟨solid, after⟩ := next _ rfl
    exact gaps all (solid.stops_append after)

/-- What the next token does not start with does not come behind the blanks. -/
theorem stops_dropWhile (laid : LaidOut blank apart tokens text)
    (next : ∀ token ∈ tokens.head?, Solid blank token ∧ Stops within token) : Stops within (text.dropWhile blank) := by
  cases tokens with
  | nil =>
    rw [laid.dropWhile_nil]
    rfl
  | cons token tokens =>
    obtain ⟨solid, after⟩ := next token rfl
    obtain ⟨rest, left, -, -⟩ := laid.dropWhile solid
    rw [left]
    exact solid.stops_append after

/-- Each token that is not empty takes room. -/
theorem countP_le (laid : LaidOut blank apart tokens text) :
    tokens.countP (fun token => !token.isEmpty) ≤ text.length := by
  induction laid with
  | behind => exact Nat.zero_le _
  | @token gap token rest tokens blanks fits others ih =>
    rw [List.countP_cons, List.length_append, List.length_append]
    cases token with
    | nil =>
      simp only [List.isEmpty_nil, Bool.not_true, Bool.false_eq_true, if_false]
      omega
    | cons head tail =>
      rw [List.length_cons]
      split <;> omega

end LaidOut

/-- Find the tokens in the text one after the other. -/
def isLaidOut [BEq τ] (blank : τ → Bool) (apart : List τ → List τ → Prop) [DecidableRel apart] :
    List (List τ) → List τ → Bool
  | [], text => text.all blank
  | token :: tokens, text =>
    let here := text.dropWhile blank
    let rest := here.drop token.length
    token.isPrefixOf here && decide (apart token rest) && isLaidOut blank apart tokens rest

theorem laidOut_of_isLaidOut [BEq τ] [LawfulBEq τ] [DecidableRel apart] {tokens : List (List τ)} {text : List τ}
    (found : isLaidOut blank apart tokens text = true) : LaidOut blank apart tokens text := by
  induction tokens generalizing text with
  | nil => exact .behind (List.all_eq_true.mp found)
  | cons token tokens ih =>
    rw [isLaidOut, Bool.and_eq_true, Bool.and_eq_true, decide_eq_true_eq] at found
    obtain ⟨⟨starts, fits⟩, others⟩ := found
    obtain ⟨rest, here⟩ := List.isPrefixOf_iff_prefix.mp starts
    rw [← here, List.drop_left] at fits others
    rw [← List.takeWhile_append_dropWhile (p := blank) (l := text), ← here]
    exact .token (fun item member => List.mem_takeWhile_imp member) fits (ih others)

/-! ### Scanners that skip blanks -/

/-- Blanks before the text make no difference to the scanner. -/
def Skips (blank : τ → Bool) (scanner : EStateM ε (List τ) α) : Prop :=
  ∀ text, scanner text = scanner (text.dropWhile blank)

variable {scanner : EStateM ε (List τ) α} {next : α → EStateM ε (List τ) β}

theorem Skips.of_modify : Skips blank (modify (·.dropWhile blank) : EStateM ε (List τ) PUnit) := by
  intro text
  exact (congrArg (EStateM.Result.ok PUnit.unit) (List.dropWhile_idempotent blank text)).symm

theorem Skips.bind (first : Skips blank scanner) : Skips blank (scanner >>= next) := by
  intro text
  rw [Stateful.bind_apply, Stateful.bind_apply, first text]

/-- The scanner takes tokens off every text that starts with them and leaves the others. -/
def Passes (blank : τ → Bool) (apart : List τ → List τ → Prop) (scanner : EStateM ε (List τ) α)
    (before : List (List τ)) (value : α) (after : List (List τ)) : Prop :=
  ∀ text, LaidOut blank apart before text → ∃ rest, scanner text = .ok value rest ∧ LaidOut blank apart after rest

namespace Passes

variable {token : List τ} {tokens before between after : List (List τ)} {value : α} {result : β}
  {Follow : List τ → Prop}

theorem of_pure : Passes blank apart (pure value : EStateM ε (List τ) α) before value before :=
  fun text laid => ⟨text, rfl, laid⟩

theorem bind (first : Passes blank apart scanner before value between)
    (rest : Passes blank apart (next value) between result after) :
    Passes blank apart (scanner >>= next) before result after := by
  intro text laid
  obtain ⟨left, ran, others⟩ := first text laid
  rw [Stateful.bind_apply, ran]
  exact rest left others

/-- Looking at the whole text first. -/
theorem of_get {next : List τ → EStateM ε (List τ) β}
    (rest : ∀ text, LaidOut blank apart before text → Passes blank apart (next text) before result after) :
    Passes blank apart (get >>= next) before result after := fun text laid => rest text laid text laid

/-- A scanner that reads the first token where it stands. -/
theorem of_reads (skips : Skips blank scanner) (solid : Solid blank token) (reads : Reads scanner token value Follow)
    (follows : ∀ rest, apart token rest → LaidOut blank apart tokens rest → Follow rest) :
    Passes blank apart scanner (token :: tokens) value tokens := by
  intro text laid
  obtain ⟨rest, left, fits, others⟩ := laid.dropWhile solid
  refine ⟨rest, ?_, others⟩
  rw [skips text, left]
  exact reads rest (follows rest fits others)

/-- A scanner that looks at the first token. -/
theorem of_peeks (skips : Skips blank scanner) (solid : Solid blank token) (peeks : Peeks scanner token value Follow)
    (follows : ∀ rest, apart token rest → LaidOut blank apart tokens rest → Follow rest) :
    Passes blank apart scanner (token :: tokens) value (token :: tokens) := by
  intro text laid
  obtain ⟨rest, left, fits, others⟩ := laid.dropWhile solid
  refine ⟨token ++ rest, ?_, .here fits others⟩
  rw [skips text, left]
  exact peeks rest (follows rest fits others)

/-- A scanner that reads the first token whatever follows it. -/
theorem of_reads_free (skips : Skips blank scanner) (solid : Solid blank token)
    (reads : Reads scanner token value fun _ => True) : Passes blank apart scanner (token :: tokens) value tokens :=
  of_reads skips solid reads fun _ _ _ => trivial

/-- A scanner that looks at the first token whatever follows it. -/
theorem of_peeks_free (skips : Skips blank scanner) (solid : Solid blank token)
    (peeks : Peeks scanner token value fun _ => True) :
    Passes blank apart scanner (token :: tokens) value (token :: tokens) :=
  of_peeks skips solid peeks fun _ _ _ => trivial

/-- A scanner behind the last token. -/
theorem of_nil (skips : Skips blank scanner) (ran : scanner [] = .ok value []) :
    Passes blank apart scanner [] value [] := by
  intro text laid
  refine ⟨[], ?_, .behind nofun⟩
  rw [skips text, laid.dropWhile_nil]
  exact ran

/-- Skipping the blanks and looking at the text, which is then at the first token. -/
theorem of_skip_get {next : List τ → EStateM ε (List τ) β} (solid : Solid blank token)
    (rest : ∀ rest, Passes blank apart (next (token ++ rest)) (token :: tokens) result after) :
    Passes blank apart (modify (·.dropWhile blank) >>= fun _ => get >>= next) (token :: tokens) result after := by
  intro text laid
  obtain ⟨left, found, fits, others⟩ := laid.dropWhile solid
  change ∃ rest, next (text.dropWhile blank) (text.dropWhile blank) = _ ∧ _
  rw [found]
  exact rest left (token ++ left) (.here fits others)

theorem of_skip (solid : ∀ token ∈ before.head?, Solid blank token) :
    Passes blank apart (modify (·.dropWhile blank) : EStateM ε (List τ) PUnit) before ⟨⟩ before := by
  cases before with
  | nil => exact of_nil .of_modify rfl
  | cons token tokens =>
    intro text laid
    obtain ⟨rest, left, fits, others⟩ := laid.dropWhile (solid token rfl)
    exact ⟨token ++ rest, congrArg (EStateM.Result.ok PUnit.unit) left, .here fits others⟩

end Passes

end Scanner
