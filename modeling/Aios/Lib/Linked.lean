import Aios.Lib.Fallible
import Aios.Lib.Stateful
import Mathlib.Data.List.Chain

/-! # Lists that are linked backwards

The first entry opens the list, and every other entry names the one before it. An append checks the new entry
against the last one; a walk checks every pair again. Both accept the linked lists and no others.
-/

namespace Linked

variable {α ε : Type} (Genesis : α → Prop) (Follows : α → α → Prop)

/-- The first entry is a genesis entry, and every other entry follows the one before it. -/
structure Holds (entries : List α) : Prop where
  genesis : ∀ first ∈ entries.head?, Genesis first
  chain : entries.IsChain Follows

/-- The entry may come after the entries. -/
def Fits (entries : List α) (entry : α) : Prop :=
  match entries.getLast? with
  | none => Genesis entry
  | some last => Follows last entry

variable {Genesis Follows}

variable {σ : Type} {entries before after : List α} {entriesOf : σ → List α} {last entry : α}
  {append : α → EStateM ε σ Unit} {start : σ}

theorem holds_nil : Holds Genesis Follows [] where
  genesis := by simp
  chain := .nil

/-- Only the first entry is asked to be a genesis entry. -/
theorem holds_congr {Genesis' : α → Prop} (same : ∀ first ∈ entries.head?, Genesis' first ↔ Genesis first) :
    Holds Genesis' Follows entries ↔ Holds Genesis Follows entries :=
  ⟨fun linked => ⟨fun first member => (same first member).mp (linked.genesis first member), linked.chain⟩,
    fun linked => ⟨fun first member => (same first member).mpr (linked.genesis first member), linked.chain⟩⟩

theorem fits_append_singleton : Fits Genesis Follows (before ++ [last]) entry ↔ Follows last entry := by
  rw [Fits, List.getLast?_append]
  exact Iff.rfl

theorem fits_of_getLast? (ends : entries.getLast? = some last) :
    Fits Genesis Follows entries entry ↔ Follows last entry := by
  rw [Fits, ends]

/-- A linked list is cut at an entry into a linked list, an entry that fits it, and what follows the entry. -/
theorem holds_append_cons :
    Holds Genesis Follows (before ++ entry :: after) ↔
      Holds Genesis Follows before ∧ Fits Genesis Follows before entry ∧ (entry :: after).IsChain Follows := by
  constructor
  · rintro ⟨genesis, chain⟩
    refine ⟨⟨?_, chain.left_of_append⟩, ?_, chain.right_of_append⟩
    · intro first member
      exact genesis first (by rw [List.head?_append, member]; rfl)
    · cases before using List.reverseRecOn with
      | nil => exact genesis entry rfl
      | append_singleton before last =>
        rw [List.append_assoc] at chain
        exact fits_append_singleton.mpr (List.isChain_append_cons_cons.mp chain).2.1
  · rintro ⟨⟨genesis, chain⟩, fits, rest⟩
    refine ⟨?_, ?_⟩
    · intro first member
      cases before with
      | nil =>
        cases member
        exact fits
      | cons head tail => exact genesis first member
    · apply chain.append rest
      intro last ends head opens
      cases opens
      exact (fits_of_getLast? ends).mp fits

theorem holds_append_singleton :
    Holds Genesis Follows (before ++ [entry]) ↔ Holds Genesis Follows before ∧ Fits Genesis Follows before entry := by
  rw [holds_append_cons]
  simp

theorem Holds.prefix (linked : Holds Genesis Follows entries) (front : before <+: entries) :
    Holds Genesis Follows before := by
  obtain ⟨after, rfl⟩ := front
  cases after with
  | nil => rwa [List.append_nil] at linked
  | cons entry after => exact (holds_append_cons.mp linked).1

/-- An entry of a linked list may be replaced exactly if the new entry fits what comes before it and the next
entry follows it. -/
theorem Holds.replace_iff {old new : α} (linked : Holds Genesis Follows (before ++ old :: after)) :
    Holds Genesis Follows (before ++ new :: after) ↔
      Fits Genesis Follows before new ∧ ∀ next ∈ after.head?, Follows new next := by
  obtain ⟨front, -, back⟩ := holds_append_cons.mp linked
  rw [holds_append_cons, List.isChain_cons]
  exact ⟨fun ⟨_, fits, follows, _⟩ => ⟨fits, follows⟩,
    fun ⟨fits, follows⟩ => ⟨front, fits, follows, (List.isChain_cons.mp back).2⟩⟩

/-! ## Appends and walks -/

/-- An append checks the new entry against the entries so far, and adds it alone. -/
structure Appends {σ : Type} (Genesis : α → Prop) (Follows : α → α → Prop) (entriesOf : σ → List α)
    (append : α → EStateM ε σ Unit) : Prop where
  accepts : ∀ state entry, (∃ after, append entry state = .ok () after) ↔ Fits Genesis Follows (entriesOf state) entry
  pushes : ∀ state entry after, append entry state = .ok () after → entriesOf after = entriesOf state ++ [entry]

/-- Appended one by one, the entries are accepted exactly if the list they make is linked. -/
theorem Appends.forM_iff (appends : Appends Genesis Follows entriesOf append) {state : σ}
    (linked : Holds Genesis Follows (entriesOf state)) :
    (∃ after, (forM entries append : EStateM ε σ PUnit) state = .ok () after ∧
        entriesOf after = entriesOf state ++ entries) ↔
      Holds Genesis Follows (entriesOf state ++ entries) := by
  induction entries generalizing state with
  | nil =>
    rw [List.append_nil]
    exact ⟨fun _ => linked, fun _ => ⟨state, rfl, rfl⟩⟩
  | cons entry rest ih =>
    have cut : entriesOf state ++ entry :: rest = entriesOf state ++ [entry] ++ rest := by simp
    rw [List.forM_cons, Stateful.bind_apply, cut]
    constructor
    · rintro ⟨after, ran, same⟩
      cases appended : append entry state with
      | error failure stopped =>
        rw [appended] at ran
        cases ran
      | ok value next =>
        rw [appended] at ran
        have pushed := appends.pushes state entry next appended
        have fits := (appends.accepts state entry).mp ⟨next, appended⟩
        have longer : Holds Genesis Follows (entriesOf next) := pushed ▸ holds_append_singleton.mpr ⟨linked, fits⟩
        rw [← pushed]
        exact (ih longer).mp ⟨after, ran, by rw [same, pushed]⟩
    · intro holds
      have longer := holds.prefix (List.prefix_append _ rest)
      obtain ⟨next, appended⟩ := (appends.accepts state entry).mpr (holds_append_singleton.mp longer).2
      have pushed := appends.pushes state entry next appended
      rw [← pushed] at longer holds
      obtain ⟨after, ran, same⟩ := (ih longer).mpr holds
      exact ⟨after, by rw [appended]; exact ran, by rw [same, pushed]⟩

/-- The state after the entries have been appended one by one, if none of them is refused. -/
def collect (append : α → EStateM ε σ Unit) (start : σ) (entries : List α) : Except ε σ :=
  match (forM entries append : EStateM ε σ PUnit) start with
  | .ok _ after => .ok after
  | .error failure _ => .error failure

theorem collect_eq_ok_iff {after : σ} :
    collect append start entries = .ok after ↔
      (forM entries append : EStateM ε σ PUnit) start = .ok ⟨⟩ after := by
  rw [collect]
  cases (forM entries append : EStateM ε σ PUnit) start with
  | ok value after => simp
  | error failure after => simp

/-- Collecting gives the entries in a state of their own exactly if they are linked. -/
theorem Appends.collect_iff (appends : Appends Genesis Follows entriesOf append) (empty : entriesOf start = []) :
    (∃ after, collect append start entries = .ok after ∧ entriesOf after = entries) ↔
    Holds Genesis Follows entries := by
  have linked : Holds Genesis Follows (entriesOf start) := empty ▸ holds_nil
  have run : (∃ after, (forM entries append : EStateM ε σ PUnit) start = .ok () after ∧
      entriesOf after = entriesOf start ++ entries) ↔ Holds Genesis Follows (entriesOf start ++ entries) :=
    appends.forM_iff linked
  rw [empty, List.nil_append] at run
  simp only [collect_eq_ok_iff]
  exact run

/-- What is collected is what was given. -/
theorem Appends.entriesOf_collect (appends : Appends Genesis Follows entriesOf append) {after : σ}
    (collected : collect append start entries = .ok after) : entriesOf after = entriesOf start ++ entries := by
  rw [collect_eq_ok_iff] at collected
  induction entries generalizing start with
  | nil =>
    cases collected
    rw [List.append_nil]
  | cons entry rest ih =>
    rw [List.forM_cons, Stateful.bind_apply] at collected
    cases appended : append entry start with
    | error failure stopped =>
      rw [appended] at collected
      cases collected
    | ok value next =>
      rw [appended] at collected
      rw [ih collected, appends.pushes start entry next appended, List.append_assoc]
      rfl

/-- The loop over neighbouring entries, with the position of the first of the two. -/
def walk (check : ℕ → α → α → Except ε Unit) (position : ℕ) : List α → Except ε Unit
  | prev :: curr :: rest => do
    check position prev curr
    walk check (position + 1) (curr :: rest)
  | _ => .ok ()

theorem walk_eq_ok_iff {check : ℕ → α → α → Except ε Unit}
    (spec : ∀ position prev curr, check position prev curr = .ok () ↔ Follows prev curr) (entries : List α)
    (position : ℕ) : walk check position entries = .ok () ↔ entries.IsChain Follows := by
  induction entries generalizing position with
  | nil => simp [walk]
  | cons prev rest ih =>
    cases rest with
    | nil => simp [walk]
    | cons curr rest => rw [walk, Fallible.then_eq_ok_iff, spec, ih, List.isChain_cons_cons]

end Linked
