import Aios.Lib.Scanner

/-! # Taking blanks, marks and words off a list

The scanners that a hand-written recursive-descent parser is made of: skip blanks, take a mark if it is
there, take a run of tokens of one class, take a word. Each comes with what it does on a text that it stops
behind.
-/

namespace Scanner

variable {ε τ α : Type} {blank start within : τ → Bool} {text name input : List τ} {Follow : List τ → Prop}

variable {found : List τ → Bool} {other : EStateM ε (List τ) (List τ)} {length : ℕ}

/-! ## Scanners -/

def skip (blank : τ → Bool) : EStateM ε (List τ) Unit := modify (·.dropWhile blank)

/-- Skip blanks and take so many tokens, if they are found there. -/
def tryTake (blank : τ → Bool) (found : List τ → Bool) (length : ℕ) : EStateM ε (List τ) Bool := do
  skip blank
  let rest ← get
  if found rest then
    set (rest.drop length)
    return true
  else
    return false

/-- Take the tokens of a class. -/
def span (within : τ → Bool) : EStateM ε (List τ) (List τ) := do
  let rest ← get
  set (rest.dropWhile within)
  return rest.takeWhile within

/-- Skip blanks and take a word, or go on with `other` where none starts. -/
def takeWord (blank start within : τ → Bool) (other : EStateM ε (List τ) (List τ)) :
    EStateM ε (List τ) (List τ) := do
  skip blank
  let rest ← get
  if rest.head?.any start then span within else other

/-! ## Words -/

/-- A token that starts a word and tokens that continue it. -/
def isWord (start within : τ → Bool) : List τ → Bool
  | [] => false
  | first :: tail => start first && tail.all within

theorem isWord_cons (word : isWord start within name = true) :
    ∃ first tail, name = first :: tail ∧ start first = true ∧ ∀ token ∈ tail, within token = true := by
  cases name with
  | nil => cases word
  | cons first tail =>
    rw [isWord, Bool.and_eq_true, List.all_eq_true] at word
    exact ⟨first, tail, rfl, word.1, word.2⟩

theorem all_of_isWord (continues : ∀ token, start token = true → within token = true)
    (word : isWord start within name = true) : ∀ token ∈ name, within token = true := by
  obtain ⟨first, tail, rfl, starts, inside⟩ := isWord_cons word
  exact List.forall_mem_cons.mpr ⟨continues first starts, inside⟩

theorem solid_of_isWord (solid : ∀ token, start token = true → blank token = false)
    (word : isWord start within name = true) : Solid blank name := by
  obtain ⟨first, tail, rfl, starts, -⟩ := isWord_cons word
  exact solid_cons.mpr (solid first starts)

/-! ## On a text -/

theorem peeks_skip (solid : Solid blank text) : Peeks (skip blank : EStateM ε (List τ) Unit) text () Follow :=
  fun _ _ => congrArg (EStateM.Result.ok ()) solid.dropWhile_append

theorem skips_tryTake : Skips blank (tryTake blank found length : EStateM ε (List τ) Bool) := Skips.of_modify.bind

theorem reads_tryTake (solid : Solid blank text) (there : ∀ rest, Follow rest → found (text ++ rest) = true) :
    Reads (tryTake blank found text.length : EStateM ε (List τ) Bool) text true Follow := by
  rw [tryTake]
  refine Reads.after_peek (peeks_skip solid) ?_
  intro rest fits
  rw [Stateful.get_bind_apply, if_pos (there rest fits), List.drop_left]
  rfl

theorem peeks_tryTake (solid : Solid blank text) (absent : ∀ rest, Follow rest → found (text ++ rest) = false) :
    Peeks (tryTake blank found length : EStateM ε (List τ) Bool) text false Follow := by
  rw [tryTake]
  refine (peeks_skip solid).bind ?_
  intro rest fits
  rw [Stateful.get_bind_apply, absent rest fits]
  rfl

theorem reads_span (all : ∀ token ∈ text, within token = true) :
    Reads (span within : EStateM ε (List τ) (List τ)) text text (Stops within) := by
  intro rest stops
  rw [span, Stateful.get_bind_apply, dropWhile_of_stops all stops, takeWhile_of_stops all stops]
  rfl

theorem skips_takeWord : Skips blank (takeWord blank start within other) := Skips.of_modify.bind

theorem reads_takeWord (solid : Solid blank name) (continues : ∀ token, start token = true → within token = true)
    (word : isWord start within name = true) : Reads (takeWord blank start within other) name name (Stops within) := by
  rw [takeWord]
  refine Reads.after_peek (peeks_skip solid) ?_
  intro rest stops
  have starts : (name ++ rest).head?.any start = true := by
    obtain ⟨first, tail, rfl, starts, -⟩ := isWord_cons word
    exact starts
  rw [Stateful.get_bind_apply, if_pos starts]
  exact reads_span (all_of_isWord continues word) rest stops

end Scanner
