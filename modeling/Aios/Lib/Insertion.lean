import Mathlib.Data.List.InsertIdx

/-! # Insertion next to the members of a group

Several groups share one list. An element is put before the first or after the last member of its group,
or at the end if the group has no member. The members of the group in their order gain the element in
front or at the back, and every group that the element is not in stays as it is.
-/

namespace Insertion

variable {α : Type*} {group : α → Bool} {x : α}

/-- The position of the last member. -/
def rposition (group : α → Bool) : List α → Option ℕ
  | [] => none
  | head :: rest =>
    match rposition group rest with
    | some index => some (index + 1)
    | none => if group head then some 0 else none

def insertBeforeFirst (group : α → Bool) (x : α) (xs : List α) : List α :=
  match xs.findIdx? group with
  | some index => xs.insertIdx index x
  | none => xs ++ [x]

def insertAfterLast (group : α → Bool) (x : α) (xs : List α) : List α :=
  match rposition group xs with
  | some index => xs.insertIdx (index + 1) x
  | none => xs ++ [x]

theorem filter_insertIdx_of_not (group : α → Bool) (other : group x = false) (xs : List α) (index : ℕ) :
    (xs.insertIdx index x).filter group = xs.filter group := by
  induction xs generalizing index with
  | nil => cases index <;> simp [other]
  | cons head rest ih =>
    cases index with
    | zero => simp [other]
    | succ index => rw [List.insertIdx_succ_cons, List.filter_cons, List.filter_cons, ih]

theorem filter_append_of_not (group : α → Bool) (other : group x = false) (xs : List α) :
    (xs ++ [x]).filter group = xs.filter group := by
  simp [List.filter_append, other]

theorem filter_append_of_mem (group : α → Bool) (inside : group x = true) (xs : List α) :
    (xs ++ [x]).filter group = xs.filter group ++ [x] := by
  simp [List.filter_append, inside]

/-! ## Before the first -/

theorem filter_insertBeforeFirst (group : α → Bool) (inside : group x = true) (xs : List α) :
    (insertBeforeFirst group x xs).filter group = x :: xs.filter group := by
  induction xs with
  | nil => simp [insertBeforeFirst, inside]
  | cons head rest ih =>
    rw [insertBeforeFirst, List.findIdx?_cons]
    cases member : group head with
    | true => simp [inside]
    | false =>
      rw [insertBeforeFirst] at ih
      cases found : rest.findIdx? group with
      | none =>
        rw [found] at ih
        simpa [member] using ih
      | some index =>
        rw [found] at ih
        simpa [member] using ih

theorem filter_insertBeforeFirst_of_not (group own : α → Bool) (other : group x = false) (xs : List α) :
    (insertBeforeFirst own x xs).filter group = xs.filter group := by
  unfold insertBeforeFirst
  cases xs.findIdx? own with
  | none => exact filter_append_of_not group other xs
  | some index => exact filter_insertIdx_of_not group other xs index

/-! ## After the last -/

/-- Without a last position there is no member. -/
theorem filter_eq_nil_of_rposition {xs : List α} (absent : rposition group xs = none) : xs.filter group = [] := by
  induction xs with
  | nil => rfl
  | cons head rest ih =>
    unfold rposition at absent
    cases found : rposition group rest with
    | some index =>
      rw [found] at absent
      cases absent
    | none =>
      rw [found] at absent
      cases member : group head with
      | true => simp [member] at absent
      | false => rw [List.filter_cons, member, ih found, if_neg Bool.false_ne_true]

theorem filter_insertAfterLast (group : α → Bool) (inside : group x = true) (xs : List α) :
    (insertAfterLast group x xs).filter group = xs.filter group ++ [x] := by
  induction xs with
  | nil => simp [insertAfterLast, rposition, inside]
  | cons head rest ih =>
    rw [insertAfterLast, rposition]
    rw [insertAfterLast] at ih
    cases found : rposition group rest with
    | some index =>
      rw [found] at ih
      dsimp only at ih ⊢
      rw [List.insertIdx_succ_cons, List.filter_cons, ih, List.filter_cons]
      split <;> rfl
    | none =>
      cases member : group head with
      | true => simp [member, inside, filter_eq_nil_of_rposition found]
      | false => simp [member, inside, List.filter_append]

theorem filter_insertAfterLast_of_not (group own : α → Bool) (other : group x = false) (xs : List α) :
    (insertAfterLast own x xs).filter group = xs.filter group := by
  unfold insertAfterLast
  cases rposition own xs with
  | none => exact filter_append_of_not group other xs
  | some index => exact filter_insertIdx_of_not group other xs (index + 1)

end Insertion
