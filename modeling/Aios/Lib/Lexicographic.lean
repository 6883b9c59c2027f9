import Mathlib.Algebra.Group.Nat.Defs
import Mathlib.Data.List.Basic
import Mathlib.Data.List.Lex
import Mathlib.Data.Prod.Lex
import Mathlib.Data.Sum.Order
import Mathlib.Order.Compare
import Mathlib.Order.WithBot
import Mathlib.Tactic.Tauto

/-! # Comparison functions and the orders they decide

`Ordering.Compares` says that a comparison of two values agrees with a linear order on their keys. The
rules here follow the ways in which comparisons are put together: one after another, along two lists,
and over an optional part whose absence ranks highest.
-/

namespace Lexicographic

open Ordering

variable {α β κ : Type*}

variable {cmp : α → α → Ordering} {key : α → κ}

theorem compares_compare_nat (a b : ℕ) : (compare a b).Compares a b := by
  rcases Nat.lt_trichotomy a b with below | rfl | above
  · rw [Nat.compare_eq_lt.mpr below]
    exact below
  · rw [Nat.compare_eq_eq.mpr rfl]
    rfl
  · rw [Nat.compare_eq_gt.mpr above]
    exact above

/-- A comparison that goes on to a second part when the first is equal. -/
theorem then_compares [Preorder α] [Preorder β] {first second : Ordering} {a a' : α} {b b' : β}
    (head : first.Compares a a') (tail : second.Compares b b') :
    (first.then second).Compares (toLex (a, b)) (toLex (a', b')) := by
  cases first with
  | lt => exact Prod.Lex.toLex_lt_toLex.mpr (.inl head)
  | gt => exact Prod.Lex.toLex_lt_toLex.mpr (.inl head)
  | eq =>
    obtain rfl : a = a' := head
    cases second with
    | lt => exact Prod.Lex.toLex_lt_toLex.mpr (.inr ⟨rfl, tail⟩)
    | gt => exact Prod.Lex.toLex_lt_toLex.mpr (.inr ⟨rfl, tail⟩)
    | eq =>
      obtain rfl : b = b' := tail
      exact rfl

/-- The comparison of two lists by their first unequal elements, and by length where there are none. -/
def compareList (cmp : α → α → Ordering) : List α → List α → Ordering
  | a :: as, b :: bs => (cmp a b).then (compareList cmp as bs)
  | as, bs => compare as.length bs.length

/-- A common start that compares equal does not count. -/
theorem compareList_append {start : List α} (reflexive : ∀ a ∈ start, cmp a a = .eq) (as bs : List α) :
    compareList cmp (start ++ as) (start ++ bs) = compareList cmp as bs := by
  induction start with
  | nil => rfl
  | cons a start ih =>
    change (cmp a a).then (compareList cmp (start ++ as) (start ++ bs)) = _
    rw [reflexive a List.mem_cons_self, ih fun b member => reflexive b (List.mem_cons_of_mem _ member)]
    rfl

theorem compareList_compares [LinearOrder κ] {as bs : List α}
    (decides : ∀ a ∈ as, ∀ b ∈ bs, (cmp a b).Compares (key a) (key b)) :
    (compareList cmp as bs).Compares (as.map key) (bs.map key) := by
  induction as generalizing bs with
  | nil =>
    cases bs with
    | nil => exact rfl
    | cons b bs =>
      have shorter : compareList cmp [] (b :: bs) = .lt := Nat.compare_eq_lt.mpr (Nat.succ_pos _)
      rw [shorter]
      exact List.nil_lt_cons _ _
  | cons a as ih =>
    cases bs with
    | nil =>
      have longer : compareList cmp (a :: as) [] = .gt := Nat.compare_eq_gt.mpr (Nat.succ_pos _)
      rw [longer]
      exact List.nil_lt_cons _ _
    | cons b bs =>
      have head := decides a List.mem_cons_self b List.mem_cons_self
      have tail := ih fun a member b memberOther =>
        decides a (List.mem_cons_of_mem _ member) b (List.mem_cons_of_mem _ memberOther)
      change ((cmp a b).then (compareList cmp as bs)).Compares (key a :: as.map key) (key b :: bs.map key)
      cases first : cmp a b with
      | lt =>
        rw [first] at head
        exact List.Lex.rel head
      | gt =>
        rw [first] at head
        exact List.Lex.rel head
      | eq =>
        rw [first] at head
        have same : key a = key b := head
        rw [same]
        cases second : compareList cmp as bs with
        | lt =>
          rw [second] at tail
          exact List.Lex.cons tail
        | gt =>
          rw [second] at tail
          exact List.Lex.cons tail
        | eq =>
          rw [second] at tail
          exact congrArg _ tail

/-- The comparison of two optional parts, with an absent one above all others. -/
def compareTop (cmp : α → α → Ordering) : Option α → Option α → Ordering
  | none, none => .eq
  | some _, none => .lt
  | none, some _ => .gt
  | some a, some b => cmp a b

/-- The key of an optional part. -/
def topKey (key : α → κ) : Option α → WithTop κ
  | none => ⊤
  | some a => key a

theorem compareTop_compares [Preorder κ] {a b : Option α}
    (decides : ∀ x ∈ a, ∀ y ∈ b, (cmp x y).Compares (key x) (key y)) :
    (compareTop cmp a b).Compares (topKey key a) (topKey key b) := by
  cases a with
  | none =>
    cases b with
    | none => exact rfl
    | some b => exact WithTop.coe_lt_top (key b)
  | some a =>
    cases b with
    | none => exact WithTop.coe_lt_top (key a)
    | some b =>
      have both := decides a rfl b rfl
      change (cmp a b).Compares ((key a : κ) : WithTop κ) ((key b : κ) : WithTop κ)
      cases compared : cmp a b with
      | lt =>
        rw [compared] at both
        exact WithTop.coe_lt_coe.mpr both
      | gt =>
        rw [compared] at both
        exact WithTop.coe_lt_coe.mpr both
      | eq =>
        rw [compared] at both
        exact congrArg _ both

end Lexicographic

/-! ## The order of composite keys

Keys that are put together from parts of fixed width are ordered part by part, and a number that is written from its
highest byte on is ordered as it is.
-/

namespace LexKeys

variable {α : Type*} [LT α] {first second rest rest' : List α}

variable {high high' low low' base : ℕ} (width value value' : ℕ)

/-- The first part decides, and where it is the same the rest does. -/
theorem append_lt_append_iff (width : first.length = second.length) :
    first ++ rest < second ++ rest' ↔ first < second ∨ first = second ∧ rest < rest' := by
  induction first generalizing second with
  | nil =>
    obtain rfl := List.length_eq_zero_iff.mp width.symm
    simp [List.not_lt_nil]
  | cons head tail ih =>
    cases second with
    | nil => cases width
    | cons head' tail' =>
      rw [List.cons_append, List.cons_append, List.cons_lt_cons_iff, List.cons_lt_cons_iff, List.cons.injEq,
        ih (Nat.succ.inj width)]
      tauto

omit [LT α] in
theorem append_inj_iff (width : first.length = second.length) :
    first ++ rest = second ++ rest' ↔ first = second ∧ rest = rest' := by
  constructor
  · exact fun same => List.append_inj same width
  · rintro ⟨rfl, rfl⟩
    rfl

/-- The bytes of a number of the given width, from the highest. -/
def bigEndian : ℕ → ℕ → List UInt8
  | 0, _ => []
  | width + 1, value => UInt8.ofNat (value / 256 ^ width) :: bigEndian width value

theorem bigEndian_length : (bigEndian width value).length = width := by
  induction width with
  | zero => rfl
  | succ width ih => rw [bigEndian, List.length_cons, ih]

/-- Two numbers of two digits. -/
theorem digits_lt_iff (small : low < base) (small' : low' < base) :
    low + base * high < low' + base * high' ↔ high < high' ∨ high = high' ∧ low < low' := by
  rcases Nat.lt_trichotomy high high' with less | rfl | more
  · have : base * (high + 1) ≤ base * high' := Nat.mul_le_mul_left base less
    rw [Nat.mul_add] at this
    exact iff_of_true (by omega) (.inl less)
  · omega
  · have : base * (high' + 1) ≤ base * high := Nat.mul_le_mul_left base more
    rw [Nat.mul_add] at this
    exact iff_of_false (by omega) (by omega)

theorem digits_inj (small : low < base) (small' : low' < base) :
    low + base * high = low' + base * high' ↔ high = high' ∧ low = low' := by
  have less := @digits_lt_iff high high' low low' base small small'
  have more := @digits_lt_iff high' high low' low base small' small
  omega

theorem ofNat_toNat : (UInt8.ofNat value).toNat = value % 256 := UInt8.toNat_ofNat'

/-- What fits into the width is ordered as it is. -/
theorem bigEndian_lt_iff :
    bigEndian width value < bigEndian width value' ↔ value % 256 ^ width < value' % 256 ^ width := by
  induction width with
  | zero => simp [bigEndian, Nat.mod_one]
  | succ width ih =>
    have small (value : ℕ) : value % 256 ^ width < 256 ^ width := Nat.mod_lt _ (Nat.pow_pos (by decide))
    rw [bigEndian, bigEndian, List.cons_lt_cons_iff, ih, Nat.mod_pow_succ, Nat.mod_pow_succ,
      digits_lt_iff (small value) (small value'), UInt8.lt_iff_toNat_lt, ← UInt8.toNat_inj, ofNat_toNat, ofNat_toNat]

theorem bigEndian_inj :
    bigEndian width value = bigEndian width value' ↔ value % 256 ^ width = value' % 256 ^ width := by
  induction width with
  | zero => simp [bigEndian, Nat.mod_one]
  | succ width ih =>
    have small (value : ℕ) : value % 256 ^ width < 256 ^ width := Nat.mod_lt _ (Nat.pow_pos (by decide))
    rw [bigEndian, bigEndian, List.cons.injEq, ih, Nat.mod_pow_succ, Nat.mod_pow_succ,
      digits_inj (small value) (small value'), ← UInt8.toNat_inj, ofNat_toNat, ofNat_toNat]

end LexKeys
