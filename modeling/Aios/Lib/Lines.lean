import Mathlib.Data.List.Basic

/-! # Lines and what is pasted into them

A text cut into lines at a mark, and the lines that a test does not skip. A text that is pasted into a
skipped line adds no line of its own exactly if whatever it has after a mark begins a skipped line.
-/

namespace Lines

variable {α : Type*} {mark : α}

/-- The text ends with a mark, if it does not end at once. -/
def Closed (mark : α) (text : List α) : Prop := ∀ last ∈ text.getLast?, last = mark

theorem closed_append {text more : List α} (closed : Closed mark text) (closed' : Closed mark more) :
    Closed mark (text ++ more) := by
  intro last found
  rw [List.getLast?_append] at found
  cases ends : more.getLast? with
  | none =>
    rw [ends] at found
    exact closed last found
  | some final =>
    rw [ends] at found
    cases found
    exact closed' last ends

variable [DecidableEq α] {skipped : List α → Bool}

/-- One more element in front of the first line. -/
def consHead (head : α) : List (List α) → List (List α)
  | [] => [[head]]
  | first :: more => (head :: first) :: more

/-- The lines of a text; what stands after the last mark is a line of its own unless it is empty. -/
def lines (mark : α) : List α → List (List α)
  | [] => []
  | head :: rest => if head = mark then [] :: lines mark rest else consHead head (lines mark rest)

theorem lines_mark (rest : List α) : lines mark (mark :: rest) = [] :: lines mark rest := if_pos rfl

theorem lines_cons_of_ne {head : α} (different : head ≠ mark) (rest : List α) :
    lines mark (head :: rest) = consHead head (lines mark rest) := if_neg different

theorem lines_ne_nil {text : List α} (nonempty : text ≠ []) : lines mark text ≠ [] := by
  cases text with
  | nil => exact absurd rfl nonempty
  | cons head rest =>
    by_cases here : head = mark
    · subst here
      rw [lines_mark]
      exact List.cons_ne_nil _ _
    · rw [lines_cons_of_ne here]
      cases lines mark rest <;> exact List.cons_ne_nil _ _

/-- The lines of a closed text stand by themselves. -/
theorem lines_append {text : List α} (closed : Closed mark text) (more : List α) :
    lines mark (text ++ more) = lines mark text ++ lines mark more := by
  induction text with
  | nil => rfl
  | cons head rest ih =>
    by_cases empty : rest = []
    · subst empty
      obtain rfl : head = mark := closed head rfl
      rw [List.singleton_append, lines_mark, lines_mark]
      rfl
    · have later : Closed mark rest := by
        intro last found
        apply closed last
        rw [List.getLast?_cons_of_ne_nil empty]
        exact found
      rw [List.cons_append]
      by_cases here : head = mark
      · subst here
        rw [lines_mark, lines_mark, ih later, List.cons_append]
      · rw [lines_cons_of_ne here, lines_cons_of_ne here, ih later]
        cases found : lines mark rest with
        | nil => exact absurd found (lines_ne_nil empty)
        | cons first others => rfl

/-- A line and its mark in front of a text. -/
theorem lines_line {line : List α} (free : mark ∉ line) (rest : List α) :
    lines mark (line ++ mark :: rest) = line :: lines mark rest := by
  induction line with
  | nil => exact lines_mark rest
  | cons head more ih =>
    obtain ⟨different, free⟩ := not_or.mp (mt List.mem_cons.mpr free)
    rw [List.cons_append, lines_cons_of_ne (Ne.symm different), ih free]
    rfl

/-! ## What a test does not skip -/

/-- The lines of a text that are not skipped. -/
def kept (mark : α) (skipped : List α → Bool) (text : List α) : List (List α) :=
  (lines mark text).filter fun line => !skipped line

theorem kept_append {text : List α} (closed : Closed mark text) (more : List α) :
    kept mark skipped (text ++ more) = kept mark skipped text ++ kept mark skipped more := by
  unfold kept
  rw [lines_append closed, List.filter_append]

/-! ## Pasting -/

/-- Whatever the text has after a mark begins a skipped line. -/
def Harmless (mark : α) (skipped : List α → Bool) : List α → Bool
  | [] => true
  | head :: rest =>
    if head = mark then skipped (rest.takeWhile (· ≠ mark)) && Harmless mark skipped rest
    else Harmless mark skipped rest

/-- A text that is pasted between a start and a finish adds no line exactly if its first line is skipped
behind the start and the rest of it is harmless. -/
theorem kept_pasted_eq_nil_iff {finish : List α} (free : mark ∉ finish)
    (absorbed : ∀ line, skipped (line ++ finish) = skipped line) {start : List α} (free' : mark ∉ start)
    (text : List α) :
    kept mark skipped (start ++ text ++ (finish ++ [mark])) = [] ↔
      skipped (start ++ text.takeWhile (· ≠ mark)) = true ∧ Harmless mark skipped text = true := by
  have first : ∀ {line rest : List α}, mark ∉ line → (kept mark skipped (line ++ mark :: rest) = [] ↔
      skipped line = true ∧ kept mark skipped rest = []) := by
    intro line rest free
    unfold kept
    rw [lines_line free, List.filter_cons]
    cases skipped line <;> simp
  induction text generalizing start with
  | nil =>
    have line : mark ∉ start ++ finish := by simp [free, free']
    rw [List.append_nil, ← List.append_assoc, first line, absorbed]
    simp [kept, lines, Harmless]
  | cons head rest ih =>
    by_cases here : head = mark
    · subst here
      have later : kept head skipped (rest ++ (finish ++ [head])) = [] ↔
          skipped (rest.takeWhile (· ≠ head)) = true ∧ Harmless head skipped rest = true := ih List.not_mem_nil
      rw [List.append_assoc, List.cons_append, first free']
      apply (and_congr_right fun _ => later).trans
      simp [Harmless]
    · have longer : mark ∉ start ++ [head] := by simp [free', Ne.symm here]
      have later := ih longer
      rw [List.append_assoc start [head] rest, List.singleton_append] at later
      apply later.trans
      simp [Harmless, here]

end Lines
