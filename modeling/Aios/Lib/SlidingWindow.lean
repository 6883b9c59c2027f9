import Mathlib.Data.List.Induction
import Mathlib.Order.Lattice

/-! # Sliding windows

The moments of a history in order, of which a tracker keeps only those that the window ending at the
latest one reaches. `recent last time` says that the window ending at `last` reaches back to `time`; as the
end moves on, a window can only lose what it reached. Pruning at every moment then keeps exactly what the
last window reaches, and counting what is kept finds every window that ever filled up. -/

namespace SlidingWindow

variable {α : Type*} [LinearOrder α] {recent : α → α → Bool} {times : List α} {now : α}

/-- The window only moves forward. -/
def Narrowing (recent : α → α → Bool) : Prop :=
  ∀ ⦃last later time⦄, last ≤ later → recent later time = true → recent last time = true

/-- What the window ending at the latest moment reaches. -/
def current (recent : α → α → Bool) (times : List α) : List α :=
  times.getLast?.elim [] fun last => times.filter (recent last)

/-- The moments within the window that ends at `last`. -/
def inWindow (recent : α → α → Bool) (times : List α) (last : α) : ℕ :=
  times.countP fun time => recent last time && decide (time ≤ last)

/-- Some window that ends at one of the moments held `threshold` of them. -/
def Filled (recent : α → α → Bool) (threshold : ℕ) (times : List α) : Prop :=
  ∃ last ∈ times, threshold ≤ inWindow recent times last

omit [LinearOrder α] in
theorem current_append_singleton : current recent (times ++ [now]) = (times ++ [now]).filter (recent now) := by
  rw [current, List.getLast?_concat]
  rfl

/-- Adding a moment and pruning what is left of the last window prunes the whole history. -/
theorem filter_current_append (narrowing : Narrowing recent) (sorted : ∀ time ∈ times, time ≤ now) :
    (current recent times ++ [now]).filter (recent now) = current recent (times ++ [now]) := by
  rw [current_append_singleton, List.filter_append, List.filter_append]
  congr 1
  induction times using List.reverseRecOn with
  | nil => rfl
  | append_singleton earlier last _ =>
    rw [current_append_singleton, List.filter_filter]
    apply List.filter_congr
    intro time _
    cases reached : recent now time with
    | false => rfl
    | true =>
      have before : last ≤ now := sorted last List.mem_concat_self
      rw [narrowing before reached]
      rfl

theorem not_filled_nil (threshold : ℕ) : ¬ Filled recent threshold [] := by
  rintro ⟨last, listed, -⟩
  cases listed

theorem inWindow_le_append (last : α) : inWindow recent times last ≤ inWindow recent (times ++ [now]) last := by
  rw [inWindow, inWindow, List.countP_append]
  exact Nat.le_add_right _ _

/-- In a history in order, all of the moments lie before the latest. -/
theorem inWindow_latest (sorted : ∀ time ∈ times, time ≤ now) :
    inWindow recent (times ++ [now]) now = (current recent (times ++ [now])).length := by
  rw [current_append_singleton, inWindow, List.countP_eq_length_filter]
  congr 1
  apply List.filter_congr
  intro time listed
  have before : time ≤ now := by
    rcases List.mem_append.mp listed with earlier | latest
    · exact sorted time earlier
    · exact le_of_eq (List.mem_singleton.mp latest)
  rw [decide_eq_true before, Bool.and_true]

/-- One more moment fills a window exactly if one was filled before or the one ending now is. -/
theorem filled_append_singleton {threshold : ℕ} (sorted : ∀ time ∈ times, time ≤ now) :
    Filled recent threshold (times ++ [now]) ↔
      Filled recent threshold times ∨ threshold ≤ (current recent (times ++ [now])).length := by
  rw [← inWindow_latest sorted]
  constructor
  · rintro ⟨last, listed, full⟩
    rcases List.mem_append.mp listed with earlier | latest
    · rcases (sorted last earlier).lt_or_eq with before | same
      · refine .inl ⟨last, earlier, ?_⟩
        rw [inWindow, List.countP_append, List.countP_singleton, decide_eq_false before.not_ge, Bool.and_false] at full
        exact full
      · exact .inr (same ▸ full)
    · exact .inr (List.mem_singleton.mp latest ▸ full)
  · rintro (⟨last, earlier, full⟩ | full)
    · exact ⟨last, List.mem_append_left _ earlier, full.trans (inWindow_le_append last)⟩
    · exact ⟨now, List.mem_concat_self, full⟩

end SlidingWindow
