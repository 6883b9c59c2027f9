import Aios.Lib.Table

/-! # Least-recently-used caches

The entries are kept most recent first. A hit moves its entry to the front; a put stores at the
front and drops from the back what exceeds the capacity. The facts its users need are that a hit
changes no answer and that a stored answer is one some put has given.
-/

structure Lru (κ ν : Type) where
  capacity : ℕ
  positive : 0 < capacity
  entries : Table κ ν
  bounded : entries.entries.length ≤ capacity

namespace Lru

variable {κ ν : Type} [DecidableEq κ]

variable {other : κ} {found : ν} (self : Lru κ ν) (key : κ) (value : ν)

omit [DecidableEq κ] in
def empty (capacity : ℕ) (positive : 0 < capacity) : Lru κ ν :=
  ⟨capacity, positive, ∅, Nat.zero_le _⟩

def peek : Option ν := self.entries.lookup key

/-- Store at the front and keep at most the capacity. -/
def put : Lru κ ν where
  capacity := self.capacity
  positive := self.positive
  entries :=
    ⟨(self.entries.insert key value).entries.take self.capacity,
      (self.entries.insert key value).nodupKeys.sublist (List.take_sublist _ _)⟩
  bounded := List.length_take_le _ _

/-- The stored value, with its entry moved to the front. -/
def get : Option ν × Lru κ ν :=
  match self.peek key with
  | some value => (some value, self.put key value)
  | none => (none, self)

/-- Drop the entries whose key fails the test. -/
def retain (keep : κ → Bool) : Lru κ ν where
  capacity := self.capacity
  positive := self.positive
  entries := self.entries.restrict fun key _ => keep key
  bounded := Nat.le_trans (List.length_filter_le _ _) self.bounded

theorem peek_put_self : (self.put key value).peek key = some value := by
  obtain ⟨room, enough⟩ := Nat.exists_eq_succ_of_ne_zero (Nat.ne_of_gt self.positive)
  change value ∈ AList.lookup key (self.put key value).entries
  rw [AList.mem_lookup_iff]
  simp only [put, AList.entries_insert, enough, List.take_succ_cons]
  exact List.mem_cons_self

/-- Another key's answer after a put was its answer before. -/
theorem peek_put_of_ne {self : Lru κ ν} {key : κ} {value : ν} (different : other ≠ key)
    (hit : (self.put key value).peek other = some found) : self.peek other = some found := by
  have inside := List.sublist_dlookup (self.entries.insert key value).nodupKeys (List.take_sublist self.capacity _) hit
  exact (AList.lookup_insert_ne different).symm.trans inside

theorem peek_retain_eq_some {self : Lru κ ν} {keep : κ → Bool} {key : κ}
    (hit : (self.retain keep).peek key = some found) : self.peek key = some found :=
  (Table.lookup_restrict_eq_some.mp hit).1

theorem get_fst : (self.get key).1 = self.peek key := by
  unfold get
  cases stored : self.peek key with
  | none => rfl
  | some value => rfl

/-- A hit only reorders: every answer after it was an answer before. -/
theorem peek_get_eq_some {self : Lru κ ν} {key : κ} (hit : (self.get key).2.peek other = some found) :
    self.peek other = some found := by
  unfold get at hit
  cases stored : self.peek key with
  | none =>
    rw [stored] at hit
    exact hit
  | some value =>
    rw [stored] at hit
    by_cases same : other = key
    · subst same
      rw [stored, ← hit]
      exact (peek_put_self self other value).symm
    · exact peek_put_of_ne same hit

end Lru
