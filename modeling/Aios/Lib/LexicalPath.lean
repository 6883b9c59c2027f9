import Mathlib.Data.List.Basic

/-! # Lexical paths

What a path means when it is read without a file system: a walk of turns, up to the parent or down
to a name, from a place. A place is what the walk comes to, the lexical normal form of a path: names
below the root, or below the working directory or one of its ancestors. The parent of the root is the
root.

The main result, `under_walk_iff`, says when a walk ends below a place: exactly when it comes to that
place at some point and does not climb above it from there on.
-/

namespace LexicalPath

variable {ι : Type*}

inductive Turn (ι : Type*) where
  | up
  | down (name : ι)
deriving DecidableEq

/-- What the names of a place hang from: the root, or the working directory some levels up. -/
inductive Anchor where
  | root
  | above (levels : ℕ)
deriving DecidableEq

def Anchor.parent : Anchor → Anchor
  | root => root
  | above levels => above (levels + 1)

structure Place (ι : Type*) where
  anchor : Anchor
  names : List ι
deriving DecidableEq

/-- The turns never climb above the place they start from, `height` names further up. -/
def staysBelow : ℕ → List (Turn ι) → Bool
  | _, [] => true
  | 0, .up :: _ => false
  | height + 1, .up :: turns => staysBelow height turns
  | height, .down _ :: turns => staysBelow (height + 1) turns

namespace Place

variable {place upper : Place ι} {turns : List (Turn ι)}

/-- A place and everything below it. -/
def Under (place upper : Place ι) : Prop := upper.anchor = place.anchor ∧ upper.names <+: place.names

instance [DecidableEq ι] (place upper : Place ι) : Decidable (place.Under upper) :=
  inferInstanceAs (Decidable (_ ∧ _))

def turn (place : Place ι) : Turn ι → Place ι
  | .up => if place.names = [] then ⟨place.anchor.parent, []⟩ else ⟨place.anchor, place.names.dropLast⟩
  | .down name => ⟨place.anchor, place.names ++ [name]⟩

def walk (place : Place ι) (turns : List (Turn ι)) : Place ι := turns.foldl turn place

@[simp] theorem walk_cons (place : Place ι) (first : Turn ι) (turns : List (Turn ι)) :
    place.walk (first :: turns) = (place.turn first).walk turns := rfl

theorem walk_append (place : Place ι) (turns more : List (Turn ι)) :
    place.walk (turns ++ more) = (place.walk turns).walk more := List.foldl_append

/-- Names alone lead down. -/
theorem walk_map_down (place : Place ι) (names : List ι) :
    place.walk (names.map .down) = ⟨place.anchor, place.names ++ names⟩ := by
  induction names generalizing place with
  | nil => simp [walk]
  | cons name names ih => simp [ih, turn]

theorem Under.refl (place : Place ι) : place.Under place := ⟨rfl, List.prefix_rfl⟩

/-- A place of the same length is the place itself. -/
theorem Under.eq_of_length_le (under : place.Under upper) (short : place.names.length ≤ upper.names.length) :
    place = upper := by
  obtain ⟨anchor, names⟩ := place
  obtain ⟨rfl, start⟩ := under
  have same : upper.names = names := start.eq_of_length (Nat.le_antisymm start.length_le short)
  simp only [← same]

/-- Nothing but an anchor itself is above it. -/
theorem Under.eq_of_names_eq_nil (under : place.Under upper) (bare : place.names = []) : place = upper :=
  under.eq_of_length_le (by simp [bare])

theorem under_turn_down (under : place.Under upper) (name : ι) : (place.turn (.down name)).Under upper :=
  ⟨under.1, under.2.trans (List.prefix_append _ _)⟩

/-- Going up stays below a place as long as there is a name left to take back. -/
theorem under_turn_up (under : place.Under upper) (deep : upper.names.length < place.names.length) :
    (place.turn .up).Under upper := by
  have nonempty : place.names ≠ [] := List.ne_nil_of_length_pos (by omega)
  simp only [turn, if_neg nonempty]
  refine ⟨under.1, List.prefix_of_prefix_length_le under.2 (List.dropLast_prefix _) ?_⟩
  simp only [List.length_dropLast]
  omega

/-- Turns that do not climb above a place end below it. -/
theorem under_walk (under : place.Under upper)
    (stays : staysBelow (place.names.length - upper.names.length) turns = true) : (place.walk turns).Under upper := by
  induction turns generalizing place with
  | nil => exact under
  | cons first turns ih =>
    have long := under.2.length_le
    cases first with
    | down name =>
      refine ih (under_turn_down under name) ?_
      simp only [staysBelow] at stays
      simpa only [turn, List.length_append, List.length_singleton, Nat.sub_add_comm long] using stays
    | up =>
      cases height : place.names.length - upper.names.length with
      | zero => simp [height, staysBelow] at stays
      | succ rest =>
        have nonempty : place.names ≠ [] := List.ne_nil_of_length_pos (by omega)
        refine ih (under_turn_up under (by omega)) ?_
        simp only [height, staysBelow] at stays
        simp only [turn, if_neg nonempty, List.length_dropLast]
        rwa [show place.names.length - 1 - upper.names.length = rest by omega]

/-- A turn that ends strictly below a place starts below it. -/
theorem under_of_turn {first : Turn ι} (under : (place.turn first).Under upper) (strict : place.turn first ≠ upper) :
    place.Under upper := by
  cases first with
  | down name =>
    rcases List.prefix_concat_iff.mp under.2 with whole | start
    · refine absurd (under.eq_of_length_le (Nat.le_of_eq ?_)) strict
      exact congrArg List.length whole.symm
    · exact ⟨under.1, start⟩
  | up =>
    by_cases bare : place.names = []
    · simp only [turn, if_pos bare] at under strict
      exact absurd (under.eq_of_names_eq_nil rfl) strict
    · simp only [turn, if_neg bare] at under
      exact ⟨under.1, under.2.trans (List.dropLast_prefix _)⟩

/-- A walk that ends below a place has come to it and not climbed above it since, or has been below it
from the start. -/
theorem under_walk_cases (under : (place.walk turns).Under upper) :
    (∃ before after, turns = before ++ after ∧ place.walk before = upper ∧ staysBelow 0 after = true) ∨
      (place.Under upper ∧ place ≠ upper ∧
        staysBelow (place.names.length - upper.names.length) turns = true) := by
  induction turns generalizing place with
  | nil =>
    by_cases same : place = upper
    · exact .inl ⟨[], [], rfl, same, rfl⟩
    · exact .inr ⟨under, same, rfl⟩
  | cons first turns ih =>
    rcases ih under with ⟨before, after, rfl, comes, stays⟩ | ⟨below, strict, stays⟩
    · exact .inl ⟨first :: before, after, rfl, comes, stays⟩
    · have start := under_of_turn below strict
      have long := start.2.length_le
      cases first with
      | down name =>
        have climbs : staysBelow (place.names.length - upper.names.length) (.down name :: turns) = true := by
          simp only [turn, List.length_append, List.length_singleton, Nat.sub_add_comm long] at stays
          simpa only [staysBelow] using stays
        by_cases same : place = upper
        · subst same
          exact .inl ⟨[], _, rfl, rfl, by simpa using climbs⟩
        · exact .inr ⟨start, same, climbs⟩
      | up =>
        by_cases bare : place.names = []
        · exact absurd (below.eq_of_names_eq_nil (by simp [turn, bare])) strict
        · have shallower := below.2.length_le
          have positive : 0 < place.names.length := List.length_pos_of_ne_nil bare
          simp only [turn, if_neg bare, List.length_dropLast] at stays shallower
          refine .inr ⟨start, ?_, ?_⟩
          · rintro rfl
            omega
          · rw [show place.names.length - upper.names.length =
              (place.names.length - 1 - upper.names.length) + 1 by omega]
            exact stays

/-- From a place that is not strictly below another, a walk ends below the other exactly when it can be
cut where it comes to it for the last time. -/
theorem under_walk_iff (outside : place.Under upper → place = upper) :
    (place.walk turns).Under upper ↔
      ∃ before after, turns = before ++ after ∧ place.walk before = upper ∧ staysBelow 0 after = true := by
  constructor
  · intro under
    rcases under_walk_cases under with cut | ⟨below, strict, _⟩
    · exact cut
    · exact absurd (outside below) strict
  · rintro ⟨before, after, rfl, comes, stays⟩
    rw [walk_append, comes]
    exact under_walk (.refl upper) (by simpa using stays)

end Place

end LexicalPath
