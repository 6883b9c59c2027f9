import Mathlib.Logic.Basic

/-! # Computations that may fail

Inversion of what a fallible computation returns: a sequence returns exactly if each part of it does.
-/

namespace Fallible

variable {ε α β : Type}

variable {refused : Prop} {program : α → Except ε β} {turn : β → α → Except ε β} {value : α} {items : List α}
  {failure : ε} {start result : β}

theorem bind_eq_ok_iff {first : Except ε α} {next : α → Except ε β} :
    (first >>= next) = .ok result ↔ ∃ value, first = .ok value ∧ next value = .ok result := by
  cases first with
  | error failure => simp [bind, Except.bind]
  | ok value => simp [bind, Except.bind]

theorem then_eq_ok_iff {first : Except ε Unit} {next : Except ε β} :
    (first >>= fun _ => next) = .ok result ↔ first = .ok () ∧ next = .ok result := by
  cases first with
  | error failure => simp [bind, Except.bind]
  | ok value => simp [bind, Except.bind]

theorem pure_eq_ok_iff {result : α} : (pure value : Except ε α) = .ok result ↔ value = result := by
  simp [pure, Except.pure]

theorem toOption_eq_some_iff {program : Except ε α} : program.toOption = some value ↔ program = .ok value := by
  cases program <;> simp [Except.toOption]

/-- A check that fails, or goes on. -/
theorem check_eq_ok_iff [Decidable refused] {next : Except ε α} {result : α} :
    (if refused then .error failure else next) = .ok result ↔ ¬refused ∧ next = .ok result := by
  by_cases holds : refused <;> simp [holds]

theorem guard_eq_ok_iff [Decidable refused] {result : α} :
    (if refused then .error failure else .ok value : Except ε α) = .ok result ↔ ¬refused ∧ value = result := by
  rw [check_eq_ok_iff, Except.ok.injEq]

/-- Each item passes on its own. -/
theorem forM_eq_ok_iff {check : α → Except ε Unit} :
    forM items check = .ok () ↔ ∀ item ∈ items, check item = .ok () := by
  induction items with
  | nil => simp [pure, Except.pure]
  | cons item rest ih => rw [List.forM_cons, then_eq_ok_iff, ih, List.forall_mem_cons]

/-- Each result of a loop is what some item has returned. -/
theorem exists_of_mapM {results : List β} (returned : items.mapM program = .ok results) (member : result ∈ results) :
    ∃ item ∈ items, program item = .ok result := by
  induction items generalizing results with
  | nil =>
    cases returned
    cases member
  | cons item rest ih =>
    rw [List.mapM_cons, bind_eq_ok_iff] at returned
    obtain ⟨first, here, returned⟩ := returned
    obtain ⟨others, there, same⟩ := bind_eq_ok_iff.mp returned
    rw [pure_eq_ok_iff] at same
    rw [← same, List.mem_cons] at member
    obtain rfl | member := member
    · exact ⟨item, List.mem_cons_self, here⟩
    · obtain ⟨earlier, inside, ran⟩ := ih there member
      exact ⟨earlier, List.mem_cons_of_mem _ inside, ran⟩

/-- What a loop returns, without the failures. -/
theorem toOption_mapM (program : α → Except ε β) (items : List α) :
    (items.mapM program).toOption = items.mapM fun item => (program item).toOption := by
  induction items with
  | nil => rfl
  | cons item rest ih =>
    rw [List.mapM_cons, List.mapM_cons, ← ih]
    cases program item with
    | error failure => rfl
    | ok first => cases rest.mapM program <;> rfl

/-- A loop whose rounds all return does so too. -/
theorem mapM_returns (returns : ∀ item ∈ items, ∃ result, program item = .ok result) :
    ∃ results, items.mapM program = .ok results := by
  induction items with
  | nil => exact ⟨[], rfl⟩
  | cons item rest ih =>
    rw [List.forall_mem_cons] at returns
    obtain ⟨⟨first, here⟩, later⟩ := returns
    obtain ⟨others, there⟩ := ih later
    refine ⟨first :: others, ?_⟩
    rw [List.mapM_cons, here, there]
    rfl

/-- A fold whose steps keep an invariant of the items behind them, and return, returns with it. -/
theorem foldlM_invariant {turn : β → α → Except ε β} (Inv : List α → β → Prop) {start : β} {items : List α}
    (initial : Inv [] start)
    (each : ∀ before item rest state, items = before ++ item :: rest → Inv before state →
      ∃ next, turn state item = .ok next ∧ Inv (before ++ [item]) next) :
    ∃ result, items.foldlM turn start = .ok result ∧ Inv items result := by
  induction items generalizing start Inv with
  | nil => exact ⟨start, rfl, initial⟩
  | cons item rest ih =>
    obtain ⟨next, ran, kept⟩ := each [] item rest start rfl initial
    obtain ⟨result, folded, reached⟩ := ih (fun behind => Inv (item :: behind)) kept
      fun before other later state split => each (item :: before) other later state (by rw [split, List.cons_append])
    refine ⟨result, ?_, reached⟩
    rw [List.foldlM_cons, ran]
    exact folded

/-- A fold whose steps succeed on its items succeeds. -/
theorem foldlM_ok (each : ∀ item ∈ items, ∀ state, ∃ next, turn state item = .ok next) :
    ∃ result, items.foldlM turn start = .ok result := by
  have succeeds : ∃ result, items.foldlM turn start = .ok result ∧ True := by
    apply foldlM_invariant (fun _ _ => True) trivial
    rintro before item rest state rfl -
    obtain ⟨next, turned⟩ := each item (List.mem_append_right _ List.mem_cons_self) state
    exact ⟨next, turned, trivial⟩
  obtain ⟨result, ran, -⟩ := succeeds
  exact ⟨result, ran⟩

end Fallible
