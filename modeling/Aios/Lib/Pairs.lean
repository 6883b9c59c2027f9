import Mathlib.Data.List.Nodup

/-! # The pairs of a list

Every entry paired with every later one, as a double loop over two positions `i < j` visits them. Of two
distinct members of a list without repetition exactly one of the two orders is visited.
-/

namespace Pairs

variable {α : Type}

variable {items : List α} {one other : α}

def pairs : List α → List (α × α)
  | [] => []
  | first :: rest => rest.map (first, ·) ++ pairs rest

theorem mem_pairs_cons {first : α} {rest : List α} :
    (one, other) ∈ pairs (first :: rest) ↔ one = first ∧ other ∈ rest ∨ (one, other) ∈ pairs rest := by
  simp [pairs, eq_comm, and_comm]

/-- A relation between all pairs is one that holds pairwise. -/
theorem forall_pairs_iff {r : α → α → Prop} :
    (∀ one other, (one, other) ∈ pairs items → r one other) ↔ items.Pairwise r := by
  induction items with
  | nil => simp [pairs]
  | cons first rest ih =>
    rw [List.pairwise_cons, ← ih]
    constructor
    · intro related
      refine ⟨fun other member => ?_, fun one other later => ?_⟩
      · exact related first other (mem_pairs_cons.mpr (.inl ⟨rfl, member⟩))
      · exact related one other (mem_pairs_cons.mpr (.inr later))
    · rintro ⟨ahead, behind⟩ one other member
      obtain ⟨rfl, later⟩ | later := mem_pairs_cons.mp member
      · exact ahead other later
      · exact behind one other later

theorem mem_of_mem_pairs (member : (one, other) ∈ pairs items) : one ∈ items ∧ other ∈ items := by
  induction items with
  | nil => cases member
  | cons first rest ih =>
    obtain ⟨rfl, later⟩ | later := mem_pairs_cons.mp member
    · exact ⟨List.mem_cons_self, List.mem_cons_of_mem _ later⟩
    · exact (ih later).imp (List.mem_cons_of_mem _) (List.mem_cons_of_mem _)

theorem pairs_asymm (nodup : items.Nodup) (member : (one, other) ∈ pairs items) : (other, one) ∉ pairs items := by
  induction items with
  | nil => cases member
  | cons first rest ih =>
    obtain ⟨fresh, distinct⟩ := List.nodup_cons.mp nodup
    intro swapped
    obtain ⟨rfl, later⟩ | later := mem_pairs_cons.mp member
    · obtain ⟨rfl, -⟩ | later' := mem_pairs_cons.mp swapped
      · exact fresh later
      · exact fresh (mem_of_mem_pairs later').2
    · obtain ⟨rfl, -⟩ | later' := mem_pairs_cons.mp swapped
      · exact fresh (mem_of_mem_pairs later).2
      · exact ih distinct later later'

theorem pairs_total (listed : one ∈ items) (listed' : other ∈ items) (apart : one ≠ other) :
    (one, other) ∈ pairs items ∨ (other, one) ∈ pairs items := by
  induction items with
  | nil => cases listed
  | cons first rest ih =>
    simp only [mem_pairs_cons]
    obtain rfl | later := List.mem_cons.mp listed
    · obtain rfl | later' := List.mem_cons.mp listed'
      · exact absurd rfl apart
      · exact .inl (.inl ⟨rfl, later'⟩)
    · obtain rfl | later' := List.mem_cons.mp listed'
      · exact .inr (.inl ⟨rfl, later⟩)
      · exact (ih later later').imp .inr .inr

end Pairs
