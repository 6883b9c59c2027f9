import Mathlib.Algebra.BigOperators.Group.Finset.Piecewise
import Mathlib.Algebra.Order.BigOperators.Group.Finset
import Mathlib.Algebra.Order.Ring.Int
import Mathlib.Tactic.Linarith
import Mathlib.Tactic.Ring

/-! # Serving by deficit in a fixed order

In every round each party earns its weight, and the party that is served pays a unit. The rounds serve
the first party, in a fixed order, that is owed something; if nobody is, any of them. Where the weights
add up to a unit at most, no party is ever owed more than a unit for each party. What carries this is
the sum of what the parties up to a rank are owed, in which no debt counts for more than a unit: it
never exceeds a unit.
-/

namespace Deficit

variable {ι : Type*} [DecidableEq ι] {parties : Finset ι} {weight owed : ι → ℤ} {unit : ℤ} {rank : ι → ℕ}
  {served party : ι} {limit : ℕ}

/-- What each party is owed after a round. -/
def round (weight : ι → ℤ) (unit : ℤ) (owed : ι → ℤ) (served party : ι) : ℤ :=
  owed party + weight party - if party = served then unit else 0

/-- The party is the first that is owed something, or nobody is. -/
def Due (parties : Finset ι) (rank : ι → ℕ) (owed : ι → ℤ) (served : ι) : Prop :=
  (0 < owed served ∧ ∀ party ∈ parties, rank party < rank served → owed party ≤ 0) ∨
    ∀ party ∈ parties, owed party ≤ 0

/-- What the parties up to a rank are owed, with no debt of more than a unit. -/
def level (parties : Finset ι) (unit : ℤ) (rank : ι → ℕ) (owed : ι → ℤ) (limit : ℕ) : ℤ :=
  ∑ party ∈ parties with rank party ≤ limit, max (owed party) (-unit)

omit [DecidableEq ι] in
theorem level_zero (positive : 0 ≤ unit) : level parties unit rank (fun _ => 0) limit ≤ unit := by
  have none : level parties unit rank (fun _ => 0) limit = 0 := by
    apply Finset.sum_eq_zero
    intro party _
    exact max_eq_left (neg_nonpos.mpr positive)
  omega

/-- A round in which nobody up to the rank is owed anything gives them their weights at most. -/
theorem level_round_settled (positive : 0 ≤ unit) (earns : ∀ party ∈ parties, 0 ≤ weight party)
    (total : ∑ party ∈ parties, weight party ≤ unit)
    (settled : ∀ party ∈ parties, rank party ≤ limit → owed party ≤ 0) :
    level parties unit rank (round weight unit owed served) limit ≤ unit := by
  calc level parties unit rank (round weight unit owed served) limit
      ≤ ∑ party ∈ parties with rank party ≤ limit, weight party := by
        apply Finset.sum_le_sum
        intro party member
        obtain ⟨listed, near⟩ := Finset.mem_filter.mp member
        have nothing := settled party listed near
        have earned := earns party listed
        rw [round]
        split_ifs <;> omega
    _ ≤ ∑ party ∈ parties, weight party :=
        Finset.sum_le_sum_of_subset_of_nonneg (Finset.filter_subset _ _) fun party listed _ => earns party listed
    _ ≤ unit := total

/-- A round that serves a party up to the rank to which something is owed takes a unit from them. -/
theorem level_round_served (earns : ∀ party ∈ parties, 0 ≤ weight party)
    (total : ∑ party ∈ parties, weight party ≤ unit) (member : served ∈ parties) (near : rank served ≤ limit)
    (due : 0 < owed served) :
    level parties unit rank (round weight unit owed served) limit ≤ level parties unit rank owed limit := by
  have inside : served ∈ parties.filter (rank · ≤ limit) := Finset.mem_filter.mpr ⟨member, near⟩
  have paid : ∑ party ∈ parties with rank party ≤ limit, (if party = served then unit else 0) = unit := by
    rw [Finset.sum_ite_eq', if_pos inside]
  have earned : ∑ party ∈ parties with rank party ≤ limit, weight party ≤ unit :=
    (Finset.sum_le_sum_of_subset_of_nonneg (Finset.filter_subset _ _) fun party listed _ => earns party listed).trans
      total
  calc level parties unit rank (round weight unit owed served) limit
      ≤ ∑ party ∈ parties with rank party ≤ limit,
          (max (owed party) (-unit) + weight party - if party = served then unit else 0) := by
        apply Finset.sum_le_sum
        intro party listed
        have some := earns party (Finset.mem_filter.mp listed).1
        rw [round]
        split_ifs with same
        · subst same
          omega
        · omega
    _ = level parties unit rank owed limit + ∑ party ∈ parties with rank party ≤ limit, weight party - unit := by
        rw [Finset.sum_sub_distrib, Finset.sum_add_distrib, paid]
        rfl
    _ ≤ level parties unit rank owed limit := by omega

/-- No level exceeds a unit, round after round. -/
theorem level_round (positive : 0 ≤ unit) (earns : ∀ party ∈ parties, 0 ≤ weight party)
    (total : ∑ party ∈ parties, weight party ≤ unit) (member : served ∈ parties)
    (due : Due parties rank owed served) (bounded : level parties unit rank owed limit ≤ unit) :
    level parties unit rank (round weight unit owed served) limit ≤ unit := by
  obtain ⟨owes, first⟩ | settled := due
  · by_cases near : rank served ≤ limit
    · exact (level_round_served earns total member near owes).trans bounded
    · refine level_round_settled positive earns total fun party listed within => ?_
      exact first party listed (by omega)
  · exact level_round_settled positive earns total fun party listed _ => settled party listed

/-- A party is owed a unit at most for each party up to its rank. -/
theorem owed_le (positive : 0 ≤ unit) (bounded : level parties unit rank owed (rank party) ≤ unit)
    (member : party ∈ parties) : owed party ≤ unit * parties.card := by
  let near := parties.filter (rank · ≤ rank party)
  have inside : party ∈ near := Finset.mem_filter.mpr ⟨member, le_rfl⟩
  have others : (near.erase party).card • (-unit) ≤ ∑ other ∈ near.erase party, max (owed other) (-unit) :=
    Finset.card_nsmul_le_sum _ _ _ fun other _ => le_max_right _ _
  have split : ∑ other ∈ near.erase party, max (owed other) (-unit) + max (owed party) (-unit) =
      level parties unit rank owed (rank party) := Finset.sum_erase_add _ _ inside
  have counted : (near.erase party).card + 1 = near.card := Finset.card_erase_add_one inside
  have fewer : near.card ≤ parties.card := Finset.card_filter_le _ _
  have own : owed party ≤ max (owed party) (-unit) := le_max_left _ _
  rw [nsmul_eq_mul, mul_neg] at others
  have room : ((near.erase party).card : ℤ) + 1 ≤ parties.card := by omega
  calc owed party ≤ unit + (near.erase party).card * unit := by linarith
    _ = unit * ((near.erase party).card + 1) := by ring
    _ ≤ unit * parties.card := mul_le_mul_of_nonneg_left room positive

end Deficit
