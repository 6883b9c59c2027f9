import Mathlib.Data.List.Basic
import Mathlib.Order.Lattice

/-! # Meets over a list

The meet of a start and a list of further values, as a fold. What lies below it lies below each of them,
so the fold depends on nothing but which values there are.
-/

namespace Meet

variable {α β : Type*} [SemilatticeInf α]

variable {start : α} {values : List α}

/-- The meet of a start and further values. -/
def ofList (start : α) (values : List α) : α := values.foldl (· ⊓ ·) start

theorem le_ofList_iff {bound : α} : bound ≤ ofList start values ↔ bound ≤ start ∧ ∀ value ∈ values, bound ≤ value := by
  induction values generalizing start with
  | nil => exact ⟨fun below => ⟨below, fun _ missing => absurd missing List.not_mem_nil⟩, And.left⟩
  | cons head rest ih =>
    change bound ≤ ofList (start ⊓ head) rest ↔ _
    rw [ih, le_inf_iff, List.forall_mem_cons, and_assoc]

theorem ofList_le_start (start : α) (values : List α) : ofList start values ≤ start := (le_ofList_iff.mp le_rfl).1

theorem ofList_le_of_mem {value : α} (member : value ∈ values) : ofList start values ≤ value :=
  (le_ofList_iff.mp le_rfl).2 value member

/-- More values, a lower meet. -/
theorem ofList_anti {fewer more : List α} (sub : fewer ⊆ more) : ofList start more ≤ ofList start fewer := by
  apply le_ofList_iff.mpr
  constructor
  · exact ofList_le_start start more
  · intro value member
    exact ofList_le_of_mem (sub member)

theorem ofList_perm {values' : List α} (perm : values.Perm values') : ofList start values = ofList start values' :=
  le_antisymm (ofList_anti perm.symm.subset) (ofList_anti perm.subset)

/-- What every value satisfies and meets keep holds of the meet. -/
theorem ofList_induction {P : α → Prop} (inf : ∀ a b, P a → P b → P (a ⊓ b)) (initial : P start)
    (each : ∀ value ∈ values, P value) : P (ofList start values) := by
  induction values generalizing start with
  | nil => exact initial
  | cons head rest ih =>
    obtain ⟨here, later⟩ := List.forall_mem_cons.mp each
    exact ih (inf start head initial here) later

/-- A fold of an operation that is a meet under `view` is a meet under it. -/
theorem view_foldl {view : β → α} {merge : β → β → β} (hom : ∀ a b, view (merge a b) = view a ⊓ view b)
    (start : β) (values : List β) : view (values.foldl merge start) = ofList (view start) (values.map view) := by
  induction values generalizing start with
  | nil => rfl
  | cons head rest ih =>
    change view (rest.foldl merge (merge start head)) = ofList (view start ⊓ view head) (rest.map view)
    rw [ih, hom]

end Meet
