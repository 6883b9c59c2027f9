import Mathlib.Data.List.Basic

/-! # Patterns with wildcards

A pattern is a list of items, one of which, the star, stands for any list; every other item stands for itself. A
pattern with one star asks for what is before it at the front of a text and for what is behind it at the back, and for
room between them. The room matters exactly if the two can share a part of the text.
-/

namespace Glob

variable {α : Type*}

section Matching

variable [DecidableEq α]

/-- The text splits along the pattern. -/
def Matches (star : α) : List α → List α → Prop
  | [], text => text = []
  | item :: pattern, text =>
    if item = star then ∃ middle rest, text = middle ++ rest ∧ Matches star pattern rest
    else ∃ rest, text = item :: rest ∧ Matches star pattern rest

variable {star : α} {first second pattern text : List α}

theorem matches_star_cons :
    Matches star (star :: pattern) text ↔ ∃ middle rest, text = middle ++ rest ∧ Matches star pattern rest := by
  rw [Matches, if_pos rfl]

/-- Without a star in front the text starts with what the pattern starts with. -/
theorem matches_append_of_plain (plain : star ∉ first) :
    Matches star (first ++ second) text ↔ ∃ rest, text = first ++ rest ∧ Matches star second rest := by
  induction first generalizing text with
  | nil => simp
  | cons item first ih =>
    obtain ⟨apart, others⟩ := List.ne_and_not_mem_of_not_mem_cons plain
    rw [List.cons_append, Matches, if_neg (Ne.symm apart)]
    constructor
    · rintro ⟨rest, rfl, along⟩
      obtain ⟨last, rfl, behind⟩ := (ih others).mp along
      exact ⟨last, rfl, behind⟩
    · rintro ⟨rest, rfl, along⟩
      exact ⟨first ++ rest, rfl, (ih others).mpr ⟨rest, rfl, along⟩⟩

/-- A pattern without a star matches itself only. -/
theorem matches_of_plain (plain : star ∉ pattern) : Matches star pattern text ↔ text = pattern := by
  have whole := @matches_append_of_plain _ _ star pattern [] text plain
  rw [List.append_nil] at whole
  rw [whole]
  simp [Matches]

/-- A pattern with one star. -/
theorem matches_single (plain : star ∉ first) (plain' : star ∉ second) :
    Matches star (first ++ star :: second) text ↔ ∃ middle, text = first ++ middle ++ second := by
  rw [matches_append_of_plain plain]
  constructor
  · rintro ⟨rest, rfl, along⟩
    obtain ⟨middle, last, rfl, ended⟩ := matches_star_cons.mp along
    rw [(matches_of_plain plain').mp ended]
    exact ⟨middle, (List.append_assoc _ _ _).symm⟩
  · rintro ⟨middle, rfl⟩
    refine ⟨middle ++ second, List.append_assoc _ _ _, matches_star_cons.mpr ⟨middle, second, rfl, ?_⟩⟩
    exact (matches_of_plain plain').mpr rfl

/-- Every star may stand for nothing. -/
theorem matches_erased (star : α) (pattern : List α) : Matches star pattern (pattern.filter (· ≠ star)) := by
  induction pattern with
  | nil => rfl
  | cons item pattern ih =>
    by_cases starred : item = star
    · rw [Matches, if_pos starred, List.filter_cons_of_neg (by simpa using starred)]
      exact ⟨[], _, rfl, ih⟩
    · rw [Matches, if_neg starred, List.filter_cons_of_pos (by simpa using starred)]
      exact ⟨_, rfl, ih⟩

/-- Every star may stand for itself. -/
theorem matches_self (star : α) (pattern : List α) : Matches star pattern pattern := by
  induction pattern with
  | nil => rfl
  | cons item pattern ih =>
    by_cases starred : item = star
    · rw [Matches, if_pos starred]
      exact ⟨[item], _, rfl, ih⟩
    · rw [Matches, if_neg starred]
      exact ⟨_, rfl, ih⟩

end Matching

/-! ## A front and a back that share a part -/

/-- Some part that is not empty ends the one list and starts the other. -/
def Overlap (front back : List α) : Prop := ∃ part, part ≠ [] ∧ part <:+ front ∧ part <+: back

variable {front back text : List α}

/-- A text that starts and ends so, without room for both, shows the shared part. -/
theorem overlap_of_short (starts : front <+: text) (ends : back <:+ text) (short :
      text.length < front.length + back.length) :
    Overlap front back := by
  have front_le := starts.length_le
  have back_le := ends.length_le
  have isFront : front = text.take front.length := List.prefix_iff_eq_take.mp starts
  have isBack : back = text.drop (text.length - back.length) := List.suffix_iff_eq_drop.mp ends
  refine ⟨front.drop (text.length - back.length), ?_, List.drop_suffix _ _, ?_⟩
  · rw [ne_eq, List.drop_eq_nil_iff]
    omega
  · rw [isFront, List.drop_take, ← isBack]
    exact List.take_prefix _ _

/-- With room for both, what is between them is left. -/
theorem exists_middle (starts : front <+: text) (ends : back <:+ text) (room : front.length + back.length ≤
      text.length) :
    ∃ middle, text = front ++ middle ++ back := by
  obtain ⟨rest, rfl⟩ := starts
  have within : back <:+ rest := by
    refine List.suffix_of_suffix_length_le ends (List.suffix_append _ _) ?_
    rw [List.length_append] at room
    omega
  obtain ⟨middle, rfl⟩ := within
  exact ⟨middle, (List.append_assoc _ _ _).symm⟩

theorem exists_middle_iff :
    (∃ middle, text = front ++ middle ++ back) ↔
      front <+: text ∧ back <:+ text ∧ front.length + back.length ≤ text.length := by
  constructor
  · rintro ⟨middle, rfl⟩
    refine ⟨?_, List.suffix_append _ _, ?_⟩
    · rw [List.append_assoc]
      exact List.prefix_append _ _
    · rw [List.length_append, List.length_append]
      omega
  · rintro ⟨starts, ends, room⟩
    exact exists_middle starts ends room

/-- Front and back decide about every text exactly if they share nothing. -/
theorem forall_middle_iff :
    (∀ text, front <+: text → back <:+ text → ∃ middle, text = front ++ middle ++ back) ↔ ¬Overlap front back := by
  constructor
  · rintro decided ⟨part, nonempty, ⟨before, rfl⟩, ⟨behind, rfl⟩⟩
    have starts : before ++ part <+: before ++ part ++ behind := List.prefix_append _ _
    have ends : part ++ behind <:+ before ++ part ++ behind := by
      rw [List.append_assoc]
      exact List.suffix_append _ _
    obtain ⟨middle, same⟩ := decided _ starts ends
    have lengths := congrArg List.length same
    simp only [List.length_append] at lengths
    exact nonempty (List.length_eq_zero_iff.mp (by omega))
  · intro apart text starts ends
    refine exists_middle starts ends ?_
    by_contra short
    exact apart (overlap_of_short starts ends (Nat.lt_of_not_le short))

end Glob
