import Mathlib.Data.List.Nodup

/-! # Lists of distinct numbers, checked in one pass

The numbers seen so far are the bits of a mask, so that a long list is checked without comparing every two of
its entries. A function is injective on a list when the codes of its values are distinct.
-/

namespace Distinct

variable {α β : Type} {items : List α}

/-- No entry is in the mask, and no two entries are equal. -/
def check (mask : ℕ) : List ℕ → Bool
  | [] => true
  | code :: rest => !mask.testBit code && check (mask ||| 1 <<< code) rest

theorem testBit_mark (mask code other : ℕ) :
    (mask ||| 1 <<< code).testBit other = (mask.testBit other || decide (other = code)) := by
  rw [Nat.testBit_or, Nat.one_shiftLeft, Nat.testBit_two_pow]
  simp [eq_comm]

theorem nodup_of_check {codes : List ℕ} {mask : ℕ} (passes : check mask codes = true) :
    codes.Nodup ∧ ∀ code ∈ codes, mask.testBit code = false := by
  induction codes generalizing mask with
  | nil => simp
  | cons code rest ih =>
    rw [check, Bool.and_eq_true, Bool.not_eq_true'] at passes
    obtain ⟨fresh, later⟩ := passes
    obtain ⟨nodup, clear⟩ := ih later
    have apart : ∀ other ∈ rest, mask.testBit other = false ∧ other ≠ code := by
      intro other member
      have unmarked := clear other member
      rw [testBit_mark, Bool.or_eq_false_iff, decide_eq_false_iff_not] at unmarked
      exact unmarked
    refine ⟨List.nodup_cons.mpr ⟨fun member => (apart code member).2 rfl, nodup⟩, ?_⟩
    intro other member
    rcases List.mem_cons.mp member with rfl | member
    · exact fresh
    · exact (apart other member).1

/-- Values whose codes are distinct are distinct. -/
theorem injective_of_check {f : α → β} (all : ∀ item, item ∈ items) (code : β → ℕ)
    (passes : check 0 (items.map fun item => code (f item)) = true) : Function.Injective f := by
  intro first second same
  exact List.inj_on_of_nodup_map (nodup_of_check passes).1 (all first) (all second) (congrArg code same)

/-- A search for the value of an injective function at a member finds the member. -/
theorem find?_of_injective [DecidableEq β] {key : α → β} (injective : Function.Injective key) {item : α}
    (member : item ∈ items) : (items.find? fun other => key other == key item) = some item := by
  cases found : items.find? fun other => key other == key item with
  | none => simpa using List.find?_eq_none.mp found item member
  | some other =>
    obtain ⟨same, -⟩ := List.find?_eq_some_iff_append.mp found
    rw [injective (beq_iff_eq.mp same)]

end Distinct
