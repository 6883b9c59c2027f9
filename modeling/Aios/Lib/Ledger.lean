import Aios.Lib.Table
import Mathlib.Logic.Embedding.Basic

/-! # Stores under minted keys

A ledger keeps records under keys that are minted one after another and never twice, so a new record
does not take the place of an old one. Records are rewritten in place and none is removed: what is
stored under a key stays there, in whatever form the rewriting has given it.
-/

/-- Records under the keys minted so far. -/
structure Ledger {κ : Type} [DecidableEq κ] (mint : ℕ ↪ κ) (ν : Type) where
  records : Table κ ν
  minted : ℕ
  issued : ∀ key record, records.lookup key = some record → ∃ index, index < minted ∧ mint index = key

namespace Ledger

variable {κ ν : Type} [DecidableEq κ] {mint : ℕ ↪ κ}

variable (ledger : Ledger mint ν) (update : κ → ν → ν) (key : κ)

/-- The same table with every record rewritten. -/
def rewritten (table : Table κ ν) (update : κ → ν → ν) : Table κ ν where
  entries := table.entries.map fun entry => ⟨entry.1, update entry.1 entry.2⟩
  nodupKeys := by
    have keys : (table.entries.map fun entry => (⟨entry.1, update entry.1 entry.2⟩ : Σ _ : κ, ν)).keys =
        table.entries.keys := by
      simp [List.keys, Function.comp_def]
    rw [List.NodupKeys, keys]
    exact table.nodupKeys

theorem lookup_rewritten (table : Table κ ν) (update : κ → ν → ν) (key : κ) :
    (rewritten table update).lookup key = (table.lookup key).map (update key) := by
  obtain ⟨entries, distinct⟩ := table
  simp only [AList.lookup, rewritten]
  clear distinct
  induction entries with
  | nil => rfl
  | cons entry rest ih =>
    obtain ⟨name, record⟩ := entry
    rw [List.map_cons]
    by_cases same : key = name
    · subst same
      rw [List.dlookup_cons_eq, List.dlookup_cons_eq]
      rfl
    · have skips (value : ν) (others : List (Σ _ : κ, ν)) :
          List.dlookup key (⟨name, value⟩ :: others) = List.dlookup key others := List.dlookup_cons_ne _ _ same
      rw [skips, skips]
      exact ih

def empty (mint : ℕ ↪ κ) (ν : Type) : Ledger mint ν where
  records := ∅
  minted := 0
  issued _ _ stored := by simp at stored

def lookup : Option ν := ledger.records.lookup key

/-- The key that is minted next. -/
def nextKey : κ := mint ledger.minted

/-- Store a record under the next key. -/
def add (record : ν) : Ledger mint ν where
  records := ledger.records.insert ledger.nextKey record
  minted := ledger.minted + 1
  issued key stored found := by
    rw [Table.lookup_insert_eq] at found
    split at found
    · next same => exact ⟨ledger.minted, Nat.lt_succ_self _, same.symm⟩
    · obtain ⟨index, bound, minted⟩ := ledger.issued key stored found
      exact ⟨index, Nat.lt_succ_of_lt bound, minted⟩

/-- Rewrite every record, seen with its key. -/
def rewrite : Ledger mint ν where
  records := rewritten ledger.records update
  minted := ledger.minted
  issued key stored found := by
    rw [lookup_rewritten] at found
    obtain ⟨record, held, -⟩ := Option.map_eq_some_iff.mp found
    exact ledger.issued key record held

/-- Rewrite the record under one key. -/
def modify (update : ν → ν) : Ledger mint ν where
  records := ledger.records.modify key update
  minted := ledger.minted
  issued other stored found := by
    rw [Table.lookup_modify] at found
    split at found
    · next same =>
      obtain ⟨record, held, -⟩ := Option.map_eq_some_iff.mp found
      rw [same]
      exact ledger.issued key record held
    · exact ledger.issued other stored found

/-- Mint a key that nothing is stored under. -/
def skip : Ledger mint ν where
  records := ledger.records
  minted := ledger.minted + 1
  issued key stored found := by
    obtain ⟨index, bound, minted⟩ := ledger.issued key stored found
    exact ⟨index, Nat.lt_succ_of_lt bound, minted⟩

@[simp] theorem lookup_empty : (empty mint ν).lookup key = none := rfl

theorem lookup_nextKey : ledger.lookup ledger.nextKey = none := by
  cases stored : ledger.lookup ledger.nextKey with
  | none => rfl
  | some record =>
    obtain ⟨index, bound, same⟩ := ledger.issued ledger.nextKey record stored
    obtain rfl := mint.injective same
    omega

theorem lookup_add (record : ν) (key : κ) :
    (ledger.add record).lookup key = if key = ledger.nextKey then some record else ledger.lookup key :=
  Table.lookup_insert_eq ledger.records ledger.nextKey key record

/-- A new record leaves the stored ones alone. -/
theorem lookup_add_of_stored {ledger : Ledger mint ν} {key : κ} {old : ν} (stored : ledger.lookup key = some old)
    (record : ν) : (ledger.add record).lookup key = some old := by
  rw [lookup_add]
  split
  · next same =>
    rw [same, lookup_nextKey] at stored
    cases stored
  · exact stored

theorem lookup_rewrite : (ledger.rewrite update).lookup key = (ledger.lookup key).map (update key) :=
  lookup_rewritten ledger.records update key

theorem lookup_modify (other : κ) (update : ν → ν) :
    (ledger.modify key update).lookup other =
      if other = key then (ledger.lookup key).map update else ledger.lookup other :=
  Table.lookup_modify ledger.records key other update

end Ledger
