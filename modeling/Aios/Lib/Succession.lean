import Aios.Lib.Run
import Mathlib.Data.List.Basic

/-! # Values that replace one another

A slot holds the value in force and a stack of bounded depth the last ones it has replaced. Setting a
value pushes the one it replaces, and drops the oldest when the stack is full; rolling back restores the
top. Over it stands the record without a bound: all that has been replaced and not restored, and how
much of it is still held. What the stack holds is the latest part of the record, to the depth.
-/

structure Succession (α : Type) where
  active : Option α
  held : List α

namespace Succession

variable {α : Type}

section

variable {stack record : List α} (capacity : ℕ) (self : Succession α)

/-- Push onto a stack that drops its oldest when it is full. -/
def push (stack : List α) (item : α) : List α :=
  (if capacity ≤ stack.length then stack.drop 1 else stack) ++ [item]

inductive Flip (α : Type) where
  | set (value : α)
  | rollback

def flip : Flip α → Succession α
  | .set value => ⟨some value, self.active.elim self.held (push capacity self.held)⟩
  | .rollback => self.held.getLast?.elim self fun restored => ⟨some restored, self.held.dropLast⟩

def run (flips : List (Flip α)) : Succession α :=
  StepRun.run (flip capacity) self flips

theorem length_push (stack : List α) (item : α) (positive : 0 < capacity) (bound : stack.length ≤ capacity) :
    (push capacity stack item).length = min (stack.length + 1) capacity := by
  unfold push
  split <;> simp <;> omega

theorem push_suffix (latest : stack <:+ record) (item : α) : push capacity stack item <:+ record ++ [item] := by
  unfold push
  rw [List.suffix_append_self_iff]
  split
  · exact (List.drop_suffix 1 stack).trans latest
  · exact latest

theorem dropLast_suffix (latest : stack <:+ record) (some : stack ≠ []) : stack.dropLast <:+ record.dropLast := by
  obtain ⟨earlier, rfl⟩ := latest
  rw [List.dropLast_append_of_ne_nil some]
  exact List.suffix_append _ _

theorem getLast?_of_suffix (latest : stack <:+ record) (some : stack ≠ []) : record.getLast? = stack.getLast? := by
  obtain ⟨earlier, rfl⟩ := latest
  rw [List.getLast?_append_of_ne_nil _ some]

/-- To roll back and to set the restored value once more leaves everything as it was, if that value was in force. -/
theorem set_of_rolledBack {capacity : ℕ} {self : Succession α} {restored : α} (top : self.held.getLast? = some restored)
    (active : self.active = some restored) (bound : self.held.length ≤ capacity) :
    (self.flip capacity .rollback).flip capacity (.set restored) = self := by
  obtain ⟨slot, held⟩ := self
  dsimp only at top active bound
  have split := List.dropLast_append_getLast? restored top
  have room : ¬capacity ≤ held.dropLast.length := by
    have whole := congrArg List.length split
    rw [List.length_append, List.length_singleton] at whole
    omega
  have rolledBack : flip capacity ⟨slot, held⟩ .rollback = ⟨some restored, held.dropLast⟩ := by
    rw [flip, top, Option.elim_some]
  rw [rolledBack, flip, Option.elim_some, push, if_neg room, split, active]

/-! ## The record without a bound -/

/-- All that has been replaced and not restored, latest last, and how much of it is still held. -/
structure Record (α : Type) where
  active : Option α
  replaced : List α
  depth : ℕ

end

namespace Record

variable (capacity : ℕ) (self : Record α)

def new (α : Type) : Record α := ⟨none, [], 0⟩

def flip : Flip α → Record α
  | .set value => self.active.elim { self with active := some value } fun replaced =>
      ⟨some value, self.replaced ++ [replaced], min (self.depth + 1) capacity⟩
  | .rollback =>
    if self.depth = 0 then self else ⟨self.replaced.getLast?, self.replaced.dropLast, self.depth - 1⟩

def run (flips : List (Flip α)) : Record α := StepRun.run (flip capacity) self flips

end Record

/-- The stack is the latest part of the record. -/
structure Shows (capacity : ℕ) (bounded : Succession α) (record : Record α) : Prop where
  active : bounded.active = record.active
  depth : bounded.held.length = record.depth
  bound : record.depth ≤ capacity
  latest : bounded.held <:+ record.replaced

theorem Shows.flip {capacity : ℕ} (positive : 0 < capacity) {self : Succession α} {record : Record α}
    (shows_ : Shows capacity self record) (flip : Flip α) :
    Shows capacity (self.flip capacity flip) (record.flip capacity flip) := by
  obtain ⟨active, depth, bound, latest⟩ := shows_
  cases flip with
  | set value =>
    rw [Succession.flip, Record.flip, active]
    cases record.active with
    | none => exact ⟨rfl, depth, bound, latest⟩
    | some replaced =>
      refine ⟨rfl, ?_, Nat.min_le_right _ _, push_suffix capacity latest replaced⟩
      rw [Option.elim_some, length_push _ _ _ positive (depth ▸ bound), depth]
      rfl
  | rollback =>
    rw [Succession.flip, Record.flip, ← depth]
    cases top : self.held.getLast? with
    | none =>
      rw [List.getLast?_eq_none_iff] at top
      rw [Option.elim_none, top, List.length_nil, if_pos rfl]
      exact ⟨active, depth, bound, latest⟩
    | some restored =>
      have some : self.held ≠ [] := by
        rintro empty
        rw [empty] at top
        cases top
      rw [Option.elim_some, if_neg (by simpa using some)]
      refine ⟨?_, ?_, ?_, dropLast_suffix latest some⟩
      · exact top.symm.trans (getLast?_of_suffix latest some).symm
      · exact List.length_dropLast
      · exact Nat.le_trans (Nat.sub_le _ _) (depth ▸ bound)

end Succession
