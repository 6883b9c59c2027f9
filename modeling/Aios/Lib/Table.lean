import Mathlib.Algebra.BigOperators.Group.Finset.Basic
import Mathlib.Data.List.AList
import Mathlib.Data.List.Pairwise
import Mathlib.Order.Lattice

/-! # Finite maps with in-place update

Finite maps are Mathlib's association lists without duplicate keys. Added here are the update of a
stored value in place, which leaves an absent key absent, the restriction to some of the entries,
and iteration in an order the map does not determine.
-/

/-- A finite map from keys to values. -/
abbrev Table (κ ν : Type) := AList (fun _ : κ => ν)

namespace Table

variable {κ ν : Type} [DecidableEq κ]

variable {table : Table κ ν} {key : κ} {value : ν} {weight weight' : κ → ν → ℕ}

/-- Update the value stored at a key; an absent key stays absent. -/
def modify (table : Table κ ν) (key : κ) (update : ν → ν) : Table κ ν :=
  match table.lookup key with
  | some value => table.insert key (update value)
  | none => table

theorem lookup_modify (table : Table κ ν) (key other : κ) (update : ν → ν) :
    (table.modify key update).lookup other =
      if other = key then (table.lookup key).map update else table.lookup other := by
  unfold modify
  cases stored : table.lookup key with
  | none =>
    by_cases same : other = key
    · subst same
      simp [stored]
    · simp [same]
  | some value =>
    by_cases same : other = key
    · subst same
      simp
    · simp [same, AList.lookup_insert_ne same]

theorem lookup_insert_eq (table : Table κ ν) (key other : κ) (value : ν) :
    (table.insert key value).lookup other = if other = key then some value else table.lookup other := by
  by_cases same : other = key
  · subst same
    simp
  · simp [same, AList.lookup_insert_ne same]

theorem lookup_erase_eq (table : Table κ ν) (key other : κ) :
    (table.erase key).lookup other = if other = key then none else table.lookup other := by
  by_cases same : other = key
  · subst same
    simp
  · simp [same, AList.lookup_erase_ne same]

theorem mem_keys_iff (table : Table κ ν) (key : κ) : key ∈ table.keys ↔ (table.lookup key).isSome := by
  rw [AList.lookup_isSome]
  exact AList.mem_keys.symm

/-- Keep the entries that satisfy a test. -/
def restrict (table : Table κ ν) (keep : κ → ν → Bool) : Table κ ν :=
  ⟨table.entries.filter fun entry => keep entry.1 entry.2,
    table.nodupKeys.sublist List.filter_sublist⟩

omit [DecidableEq κ] in
theorem mem_restrict_iff (table : Table κ ν) (keep : κ → ν → Bool) (entry : Σ _ : κ, ν) :
    entry ∈ (table.restrict keep).entries ↔ entry ∈ table.entries ∧ keep entry.1 entry.2 = true :=
  List.mem_filter

theorem lookup_restrict_eq_some {keep : κ → ν → Bool} :
    (table.restrict keep).lookup key = some value ↔ table.lookup key = some value ∧ keep key value = true := by
  change value ∈ (table.restrict keep).lookup key ↔ value ∈ table.lookup key ∧ _
  rw [AList.mem_lookup_iff, AList.mem_lookup_iff, mem_restrict_iff]

theorem lookup_restrict (table : Table κ ν) (keep : κ → ν → Bool) (key : κ) :
    (table.restrict keep).lookup key = (table.lookup key).filter (keep key) := by
  ext value
  rw [lookup_restrict_eq_some, Option.filter_eq_some_iff]

omit [DecidableEq κ] in
/-- The stored values. -/
def values (table : Table κ ν) : List ν := table.entries.map Sigma.snd

theorem mem_values_iff (table : Table κ ν) (value : ν) :
    value ∈ table.values ↔ ∃ key, table.lookup key = some value := by
  have stored : ∀ key, table.lookup key = some value ↔ ⟨key, value⟩ ∈ table.entries :=
    fun key => AList.mem_lookup_iff
  simp only [values, List.mem_map, stored, Sigma.exists]
  constructor
  · rintro ⟨key, found, member, rfl⟩
    exact ⟨key, member⟩
  · rintro ⟨key, member⟩
    exact ⟨key, value, member, rfl⟩

omit [DecidableEq κ] in
/-- The number of entries that satisfy a test. -/
def count (table : Table κ ν) (test : κ → ν → Bool) : ℕ := table.entries.countP fun entry => test entry.1 entry.2

/-- The entries around the one that a key is stored in. -/
theorem exists_entries_of_lookup (stored : table.lookup key = some value) :
    ∃ before after, table.entries = before ++ ⟨key, value⟩ :: after ∧ (table.erase key).entries = before ++ after := by
  have member : key ∈ table.entries.keys := AList.mem_keys.mp (AList.lookup_isSome.mp (by simp [stored]))
  obtain ⟨found, before, after, fresh, split, erased⟩ := List.exists_of_kerase member
  have same : found = value := by
    have listed : (⟨key, found⟩ : Σ _ : κ, ν) ∈ table.entries := by simp [split]
    exact Option.some.inj ((AList.mem_lookup_iff.mpr listed).symm.trans stored)
  subst same
  exact ⟨before, after, split, erased⟩

theorem count_erase (stored : table.lookup key = some value) (test : κ → ν → Bool) :
    table.count test = Table.count (table.erase key) test + if test key value then 1 else 0 := by
  obtain ⟨before, after, split, rest⟩ := exists_entries_of_lookup stored
  simp only [count, rest]
  simp only [split, List.countP_append, List.countP_cons]
  omega

theorem length_erase (stored : table.lookup key = some value) :
    (table.erase key).entries.length + 1 = table.entries.length := by
  have counted := count_erase stored fun _ _ => true
  rw [count, count, List.countP_true, if_pos rfl] at counted
  exact counted.symm

/-- An update in place keeps the number of entries. -/
theorem length_modify (table : Table κ ν) (key : κ) (update : ν → ν) :
    (table.modify key update).entries.length = table.entries.length := by
  unfold modify
  cases stored : table.lookup key with
  | none => rfl
  | some value =>
    have entries : (table.insert key (update value)).entries = ⟨key, update value⟩ :: (table.erase key).entries :=
      AList.entries_insert ..
    rw [entries, List.length_cons, length_erase stored]

theorem erase_of_absent (absent : table.lookup key = none) : table.erase key = table := by
  apply AList.ext
  exact List.kerase_of_notMem_keys fun member => AList.lookup_eq_none.mp absent (AList.mem_keys.mpr member)

omit [DecidableEq κ] in
/-- Change every stored value. -/
def mapValues (table : Table κ ν) (change : ν → ν) : Table κ ν where
  entries := table.entries.map fun entry => ⟨entry.1, change entry.2⟩
  nodupKeys := by
    have keys : (table.entries.map fun entry => (⟨entry.1, change entry.2⟩ : Σ _ : κ, ν)).keys =
        table.entries.keys := by
      simp [List.keys, List.map_map, Function.comp_def]
    rw [List.NodupKeys, keys]
    exact table.nodupKeys

theorem lookup_mapValues (table : Table κ ν) (change : ν → ν) (key : κ) :
    (table.mapValues change).lookup key = (table.lookup key).map change := by
  ext value
  rw [Option.map_eq_some_iff]
  change value ∈ (table.mapValues change).lookup key ↔ _
  rw [AList.mem_lookup_iff, mapValues, List.mem_map]
  constructor
  · rintro ⟨entry, member, same⟩
    obtain ⟨rfl, rfl⟩ := same
    exact ⟨entry.2, AList.mem_lookup_iff.mpr member, rfl⟩
  · rintro ⟨old, stored, rfl⟩
    exact ⟨⟨key, old⟩, AList.mem_lookup_iff.mp stored, rfl⟩

/-- Store a value or leave the key absent. -/
def assign (table : Table κ ν) (key : κ) : Option ν → Table κ ν
  | some value => table.insert key value
  | none => table.erase key

theorem lookup_assign (table : Table κ ν) (key other : κ) (value : Option ν) :
    (table.assign key value).lookup other = if other = key then value else table.lookup other := by
  cases value with
  | none => exact lookup_erase_eq table key other
  | some value => exact lookup_insert_eq table key other value

/-- An assignment counts the new value in place of the old one. -/
theorem count_assign (table : Table κ ν) (key : κ) (value : Option ν) (test : κ → ν → Bool) :
    (table.assign key value).count test + (if (table.lookup key).any (test key) then 1 else 0) =
      table.count test + if value.any (test key) then 1 else 0 := by
  have erased : Table.count (table.erase key) test + (if (table.lookup key).any (test key) then 1 else 0) =
      table.count test := by
    cases stored : table.lookup key with
    | none => simp [erase_of_absent stored]
    | some old => simp [count_erase stored]
  cases value with
  | none => simpa [assign] using erased
  | some value =>
    have inserted : Table.count (table.insert key value) test =
        Table.count (table.erase key) test + if test key value then 1 else 0 := by
      simp only [count, AList.entries_insert, List.countP_cons]
      rfl
    simp only [assign, inserted, Option.any_some]
    omega

omit [DecidableEq κ] in
/-- The sum of a weight over the entries. -/
def total (table : Table κ ν) (weight : κ → ν → ℕ) : ℕ :=
    table.entries.foldr (fun entry sum => weight entry.1 entry.2 + sum) 0

theorem total_congr (same : ∀ key value, table.lookup key = some value → weight key value = weight' key value) :
    table.total weight = table.total weight' := by
  refine List.foldr_ext _ _ 0 ?_
  rintro ⟨key, value⟩ listed rest
  rw [same key value (AList.mem_lookup_iff.mpr listed)]

omit [DecidableEq κ] in
theorem total_mono (le : ∀ key value, weight key value ≤ weight' key value) :
    table.total weight ≤ table.total weight' := by
  obtain ⟨entries, distinct⟩ := table
  simp only [total]
  clear distinct
  induction entries with
  | nil => exact Nat.le_refl 0
  | cons entry rest ih => exact Nat.add_le_add (le entry.1 entry.2) ih

omit [DecidableEq κ] in
theorem foldr_weight_middle (weight : κ → ν → ℕ) (before after : List (Σ _ : κ, ν)) (entry : Σ _ : κ, ν) :
    (before ++ entry :: after).foldr (fun entry sum => weight entry.1 entry.2 + sum) 0 =
      (before ++ after).foldr (fun entry sum => weight entry.1 entry.2 + sum) 0 + weight entry.1 entry.2 := by
  induction before with
  | nil => exact Nat.add_comm _ _
  | cons first rest ih =>
    rw [List.cons_append, List.foldr_cons, ih, List.cons_append, List.foldr_cons, Nat.add_assoc]

theorem total_erase (stored : table.lookup key = some value)
    (weight : κ → ν → ℕ) : table.total weight = Table.total (table.erase key) weight + weight key value := by
  obtain ⟨before, after, split, rest⟩ := exists_entries_of_lookup stored
  rw [total, total, rest, split]
  exact foldr_weight_middle weight before after ⟨key, value⟩

theorem le_total (stored : table.lookup key = some value)
    (weight : κ → ν → ℕ) : weight key value ≤ table.total weight := by
  rw [total_erase stored weight]
  exact Nat.le_add_left _ _

theorem total_insert (table : Table κ ν) (key : κ) (value : ν) (weight : κ → ν → ℕ) :
    Table.total (table.insert key value) weight = Table.total (table.erase key) weight + weight key value := by
  have entries : (table.insert key value).entries = ⟨key, value⟩ :: (table.erase key).entries := AList.entries_insert ..
  rw [total, total, entries, List.foldr_cons]
  exact Nat.add_comm _ _

/-- A new entry adds its weight. -/
theorem total_insert_absent (absent : table.lookup key = none) (value : ν)
    (weight : κ → ν → ℕ) : Table.total (table.insert key value) weight = table.total weight + weight key value := by
  rw [total_insert, erase_of_absent absent]

/-- The sum as one over the set of keys. -/
theorem total_eq_sum (table : Table κ ν) (weight : κ → ν → ℕ) :
    table.total weight = ∑ key ∈ table.keys.toFinset, (table.lookup key).elim 0 (weight key) := by
  induction table using AList.insertRec with
  | H0 => rfl
  | IH key value rest fresh ih =>
    have absent : rest.lookup key = none := AList.lookup_eq_none.mpr fresh
    have unlisted : key ∉ rest.keys.toFinset := fun listed =>
      fresh (AList.mem_keys.mpr (List.mem_toFinset.mp listed))
    have keys : (rest.insert key value).keys.toFinset = insert key rest.keys.toFinset := by
      rw [AList.keys_insert, List.toFinset_cons, List.erase_of_not_mem fun listed =>
        unlisted (List.mem_toFinset.mpr listed)]
    rw [total_insert_absent absent, ih, keys, Finset.sum_insert unlisted, Nat.add_comm, AList.lookup_insert]
    congr 1
    apply Finset.sum_congr rfl
    intro other listed
    have different : other ≠ key := by
      rintro rfl
      exact unlisted listed
    rw [AList.lookup_insert_ne different]

/-- An update that does not change the weight of the entry does not change the sum. -/
theorem total_modify {update : ν → ν} {weight : κ → ν → ℕ}
    (same : ∀ value, weight key (update value) = weight key value) :
    Table.total (table.modify key update) weight = table.total weight := by
  unfold modify
  cases stored : table.lookup key with
  | none => rfl
  | some value =>
    dsimp only
    rw [total_insert, same, total_erase stored]

/-- An update in place counts the new weight of the entry in place of the old one. -/
theorem total_modify_add (stored : table.lookup key = some value) (update : ν → ν) (weight : κ → ν → ℕ) :
    Table.total (table.modify key update) weight + weight key value =
      table.total weight + weight key (update value) := by
  unfold modify
  rw [stored, total_insert, total_erase stored]
  omega

/-- Two weights that agree off one key. -/
theorem total_add_of_agree (stored : table.lookup key = some value)
    (agree : ∀ other value, other ≠ key → weight other value = weight' other value) :
    table.total weight + weight' key value = table.total weight' + weight key value := by
  have off : Table.total (table.erase key) weight = Table.total (table.erase key) weight' := by
    apply total_congr
    intro other found held
    apply agree
    rintro rfl
    rw [lookup_erase_eq, if_pos rfl] at held
    cases held
  rw [total_erase stored weight, total_erase stored weight', off]
  omega

/-- Leave all of the keys absent. -/
def eraseAll (table : Table κ ν) (keys : List κ) : Table κ ν := keys.foldl (fun table key => table.erase key) table

theorem lookup_eraseAll (table : Table κ ν) (keys : List κ) (key : κ) :
    (table.eraseAll keys).lookup key = if key ∈ keys then none else table.lookup key := by
  induction keys generalizing table with
  | nil => simp [eraseAll]
  | cons first rest ih =>
    change (eraseAll (table.erase first) rest).lookup key = _
    rw [ih, lookup_erase_eq]
    by_cases same : key = first <;> by_cases member : key ∈ rest <;> simp [same, member]

/-! ### Keys that are lost -/

/-- How many of the keys a later table no longer holds. -/
def lost (before after : Table κ ν) : ℕ := before.keys.countP fun key => (after.lookup key).isNone

section Fill

variable {α : Type} {keyOf : α → κ} {valueOf : α → ν} {items : List α} {key : κ}

/-- What is stored in the end was stored for one of the items, or was stored before. -/
theorem exists_of_lookup_foldl_insert {table : Table κ ν} {value : ν}
    (stored : (items.foldl (fun table item => table.insert (keyOf item) (valueOf item)) table).lookup key =
      some value) :
    (∃ item ∈ items, keyOf item = key ∧ valueOf item = value) ∨ table.lookup key = some value := by
  induction items generalizing table with
  | nil => exact .inr stored
  | cons first rest ih =>
    obtain ⟨item, member, found⟩ | before := ih stored
    · exact .inl ⟨item, List.mem_cons_of_mem _ member, found⟩
    · rw [lookup_insert_eq] at before
      split at before
      · next here => exact .inl ⟨first, List.mem_cons_self, here.symm, Option.some.inj before⟩
      · exact .inr before

theorem isSome_lookup_foldl_insert {table : Table κ ν} :
    ((items.foldl (fun table item => table.insert (keyOf item) (valueOf item)) table).lookup key).isSome = true ↔
      (∃ item ∈ items, keyOf item = key) ∨ (table.lookup key).isSome = true := by
  induction items generalizing table with
  | nil => simp
  | cons first rest ih =>
    rw [List.foldl_cons, ih, lookup_insert_eq, List.exists_mem_cons_iff]
    split
    · next here => simp [here]
    · next elsewhere => simp [Ne.symm elsewhere]

end Fill

end Table

/-- An order of iteration: any rearrangement of the items. -/
structure IterationOrder (α : Type) where
  arrange : List α → List α
  perm : ∀ items, (arrange items).Perm items

/-- The order of insertion, latest first. -/
def IterationOrder.stored (α : Type) : IterationOrder α := ⟨id, fun items => .refl items⟩

/-- Whether a search succeeds does not depend on the order. -/
theorem IterationOrder.find?_isSome {α : Type} (order : IterationOrder α) (test : α → Bool)
    (items : List α) : ((order.arrange items).find? test).isSome = items.any test := by
  rw [Bool.eq_iff_iff, List.find?_isSome, List.any_eq_true]
  exact exists_congr fun item => and_congr_left fun _ => (order.perm items).mem_iff

/-- An order that begins with a given item, where it occurs. -/
def IterationOrder.first {α : Type} [DecidableEq α] (item : α) : IterationOrder α where
  arrange items := if item ∈ items then item :: items.erase item else items
  perm items := by
    split
    · next member => exact (List.perm_cons_erase member).symm
    · exact .refl items

/-- A search finds an item in some order if the item satisfies the test. -/
theorem IterationOrder.exists_find?_eq_some_iff {α : Type} [DecidableEq α] {test : α → Bool} {items : List α}
    {item : α} :
    (∃ order : IterationOrder α, (order.arrange items).find? test = some item) ↔ item ∈ items ∧ test item = true := by
  constructor
  · rintro ⟨order, found⟩
    exact ⟨(order.perm items).mem_iff.mp (List.mem_of_find?_eq_some found), List.find?_some found⟩
  · rintro ⟨member, fits⟩
    have arranged : (first item).arrange items = item :: items.erase item := if_pos member
    exact ⟨first item, by rw [arranged, List.find?_cons_of_pos fits]⟩

theorem IterationOrder.find?_eq_none_iff {α : Type} (order : IterationOrder α) {test : α → Bool} {items : List α} :
    (order.arrange items).find? test = none ↔ ∀ item ∈ items, test item = false := by
  rw [List.find?_eq_none]
  refine forall_congr' fun item => ?_
  rw [(order.perm items).mem_iff, Bool.not_eq_true]

/-! ## Finite maps iterated in key order

A finite map over a linearly ordered type of keys, stored as its entries in strictly increasing
order of keys, which is the order of iteration.
-/

/-- A finite map whose entries are listed by increasing key. -/
structure SortedTable (κ ν : Type) [LinearOrder κ] where
  entries : List (κ × ν)
  sorted : entries.Pairwise fun first second => first.1 < second.1

namespace SortedTable

variable {κ ν : Type} [LinearOrder κ]

def empty : SortedTable κ ν := ⟨[], .nil⟩

def lookup (table : SortedTable κ ν) (key : κ) : Option ν :=
  (table.entries.find? (·.1 = key)).map Prod.snd

/-- Store a value, in the place of the one stored under the key. -/
def insert (table : SortedTable κ ν) (key : κ) (value : ν) : SortedTable κ ν where
  entries := table.entries.filter (·.1 < key) ++ (key, value) :: table.entries.filter (key < ·.1)
  sorted := by
    refine List.pairwise_append.mpr ⟨table.sorted.filter _, ?_, ?_⟩
    · refine List.pairwise_cons.mpr ⟨fun entry member => ?_, table.sorted.filter _⟩
      simpa using (List.mem_filter.mp member).2
    · intro lower below upper above
      have less : lower.1 < key := by simpa using (List.mem_filter.mp below).2
      rcases List.mem_cons.mp above with rfl | above
      · exact less
      · exact less.trans (by simpa using (List.mem_filter.mp above).2)

def erase (table : SortedTable κ ν) (key : κ) : SortedTable κ ν where
  entries := table.entries.filter (·.1 ≠ key)
  sorted := table.sorted.filter _

/-- Of two entries under one key there is only one. -/
theorem entry_unique (table : SortedTable κ ν) {key : κ} {one other : ν}
    (first : (key, one) ∈ table.entries) (second : (key, other) ∈ table.entries) : one = other := by
  have sorted := table.sorted
  revert first second sorted
  generalize table.entries = entries
  intro first second sorted
  induction entries with
  | nil => cases first
  | cons entry rest ih =>
    obtain ⟨below, restSorted⟩ := List.pairwise_cons.mp sorted
    rcases List.mem_cons.mp first with here | firstLater
    · rcases List.mem_cons.mp second with again | secondLater
      · exact (Prod.mk.inj (here.trans again.symm)).2
      · subst here
        exact (lt_irrefl key (below (key, other) secondLater)).elim
    · rcases List.mem_cons.mp second with again | secondLater
      · subst again
        exact (lt_irrefl key (below (key, one) firstLater)).elim
      · exact ih firstLater secondLater restSorted

theorem mem_entries_iff (table : SortedTable κ ν) (key : κ) (value : ν) :
    (key, value) ∈ table.entries ↔ table.lookup key = some value := by
  constructor
  · intro member
    cases found : table.entries.find? (·.1 = key) with
    | none => simpa using List.find?_eq_none.mp found (key, value) member
    | some entry =>
      have same : entry.1 = key := by simpa using List.find?_some found
      have stored : (key, entry.2) ∈ table.entries := same ▸ List.mem_of_find?_eq_some found
      rw [lookup, found, Option.map_some, table.entry_unique stored member]
  · intro read
    obtain ⟨entry, found, rfl⟩ := Option.map_eq_some_iff.mp read
    have same : entry.1 = key := by simpa using List.find?_some found
    exact same ▸ List.mem_of_find?_eq_some found

@[simp] theorem lookup_empty (key : κ) : (empty : SortedTable κ ν).lookup key = none := rfl

theorem lookup_insert (table : SortedTable κ ν) (key other : κ) (value : ν) :
    (table.insert key value).lookup other = if other = key then some value else table.lookup other := by
  ext found
  rw [← mem_entries_iff]
  simp only [insert, List.mem_append, List.mem_cons, List.mem_filter, Prod.mk.injEq, decide_eq_true_eq]
  split_ifs with same
  · subst same
    simp [eq_comm]
  · rw [← mem_entries_iff]
    have apart := lt_or_gt_of_ne same
    constructor
    · rintro (⟨member, -⟩ | ⟨impossible, -⟩ | ⟨member, -⟩)
      · exact member
      · exact absurd impossible same
      · exact member
    · intro member
      rcases apart with below | above
      · exact .inl ⟨member, below⟩
      · exact .inr (.inr ⟨member, above⟩)

theorem lookup_erase (table : SortedTable κ ν) (key other : κ) :
    (table.erase key).lookup other = if other = key then none else table.lookup other := by
  ext found
  rw [← mem_entries_iff]
  simp only [erase, List.mem_filter, decide_eq_true_eq]
  split_ifs with same
  · simp [same]
  · simp [same, mem_entries_iff]

/-- The first entry has the least key. -/
theorem head_le (table : SortedTable κ ν) {first : κ × ν} {rest : List (κ × ν)}
    (listed : table.entries = first :: rest) {key : κ} {value : ν} (stored : table.lookup key = some value) :
    first.1 ≤ key := by
  have member := (table.mem_entries_iff key value).mpr stored
  have sorted := table.sorted
  rw [listed] at member sorted
  rcases List.mem_cons.mp member with rfl | later
  · exact le_rfl
  · exact ((List.pairwise_cons.mp sorted).1 _ later).le

end SortedTable
