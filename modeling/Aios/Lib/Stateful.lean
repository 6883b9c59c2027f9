import Mathlib.Logic.Basic

/-! # Stateful computations that may fail

A computation in `EStateM` keeps the state it has reached when it fails. `Triple` states what every
run from a set of states establishes, on return and on failure; `Related` states that two
computations do the same up to relations on their states and on their values; `Keeps` states that a
part of the state is left alone. Each judgement comes with the rules that follow the shape of a
program.
-/

namespace Stateful

variable {ε σ τ α β γ δ : Type}

section

variable (program : EStateM ε σ α)

/-- The state in which a run ends. -/
def finalState : EStateM.Result ε σ α → σ
  | .ok _ state => state
  | .error _ state => state

/-- What a caller sees of a run: an observation of the value, or the error. -/
def outcome (observe : α → β) : EStateM.Result ε σ α → Except ε β
  | .ok value _ => .ok (observe value)
  | .error failure _ => .error failure

/-- A computation on a part of the state. -/
def zoom (part : σ → τ) (put : σ → τ → σ) (program : EStateM ε τ α) : EStateM ε σ α := fun state =>
  match program (part state) with
  | .ok value after => .ok value (put state after)
  | .error failure after => .error failure (put state after)

/-- A sequence fails with its first part, or goes on from the value and the state it returns. -/
theorem bind_apply (next : α → EStateM ε σ β) (state : σ) :
    (program >>= next) state = match program state with
      | .ok value after => next value after
      | .error failure after => .error failure after := rfl

/-- A sequence goes on from where its first part returns. -/
theorem bind_of_ok {program : EStateM ε σ α} {next : α → EStateM ε σ β} {state after : σ} {value : α}
    (ran : program state = .ok value after) : (program >>= next) state = next value after := by
  rw [bind_apply, ran]

theorem tryCatch_apply (handler : ε → EStateM ε σ α) (state : σ) :
    (tryCatch program handler : EStateM ε σ α) state =
      match program state with
      | .ok value after => .ok value after
      | .error failure after => handler failure after := by
  change EStateM.tryCatch program handler state = _
  delta EStateM.tryCatch
  cases program state <;> rfl

theorem adaptExcept_apply {ε' : Type} (change : ε → ε') (program : EStateM ε σ α) (state : σ) :
    EStateM.adaptExcept change program state =
      match program state with
      | .ok value after => .ok value after
      | .error failure after => .error (change failure) after := by
  delta EStateM.adaptExcept
  cases program state <;> rfl

theorem modify_bind_apply (update : σ → σ) (next : PUnit → EStateM ε σ α) (state : σ) :
    (modify update >>= next) state = next ⟨⟩ (update state) := rfl

theorem get_bind_apply (next : σ → EStateM ε σ α) (state : σ) : (get >>= next) state = next state state := rfl

theorem ofExcept_ok_bind_apply (value : α) (next : α → EStateM ε σ β) (state : σ) :
    ((MonadExcept.ofExcept (.ok value : Except ε α) : EStateM ε σ α) >>= next) state = next value state := rfl

theorem ofExcept_error_bind_apply (failure : ε) (next : α → EStateM ε σ β) (state : σ) :
    ((MonadExcept.ofExcept (.error failure : Except ε α) : EStateM ε σ α) >>= next) state = .error failure state := rfl

theorem finalState_map (wrap : α → β) (program : EStateM ε σ α) (state : σ) :
    finalState ((wrap <$> program) state) = finalState (program state) := by
  change finalState (EStateM.map wrap program state) = _
  rw [EStateM.map]
  cases program state <;> rfl

theorem outcome_map (wrap : α → β) (program : EStateM ε σ α) (state : σ) :
    outcome id ((wrap <$> program) state) = (outcome id (program state)).map wrap := by
  change outcome id (EStateM.map wrap program state) = _
  rw [EStateM.map]
  cases program state <;> rfl

theorem finalState_discard (state : σ) :
    finalState ((do let _ ← program : EStateM ε σ Unit) state) = finalState (program state) := by
  rw [bind_apply]
  cases program state <;> rfl

/-! ## Triples -/

/-- From every state in `Pre` the program returns in `Post` or fails in `Fail`. -/
def Triple (Pre : σ → Prop) (program : EStateM ε σ α) (Post : α → σ → Prop) (Fail : ε → σ → Prop) : Prop :=
  ∀ state, Pre state → match program state with
    | .ok value after => Post value after
    | .error failure after => Fail failure after

end

namespace Triple

variable {Pre : σ → Prop} {Post : α → σ → Prop} {Fail : ε → σ → Prop}

variable {program : EStateM ε σ α} {value : α}

theorem of_pure (holds : ∀ state, Pre state → Post value state) :
    Triple Pre (pure value : EStateM ε σ α) Post Fail := holds

theorem of_throw {failure : ε} (holds : ∀ state, Pre state → Fail failure state) :
    Triple Pre (throw failure : EStateM ε σ α) Post Fail := holds

theorem of_modify {update : σ → σ} {Post : PUnit → σ → Prop} (holds : ∀ state, Pre state → Post ⟨⟩ (update state)) :
    Triple Pre (modify update : EStateM ε σ PUnit) Post Fail := holds

theorem bind {next : α → EStateM ε σ β} {Mid : α → σ → Prop} {Post : β → σ → Prop} (first : Triple Pre program Mid Fail)
    (rest : ∀ value, Triple (Mid value) (next value) Post Fail) : Triple Pre (program >>= next) Post Fail := by
  intro state holds
  have reached := first state holds
  rw [bind_apply]
  cases ran : program state with
  | ok value after =>
    rw [ran] at reached
    exact rest value after reached
  | error failure after =>
    rw [ran] at reached
    exact reached

/-- A rule for reading the state that forgets what was read. -/
theorem of_get {next : σ → EStateM ε σ α} (rest : ∀ current, Triple Pre (next current) Post Fail) :
    Triple Pre (get >>= next) Post Fail := fun state holds => rest state state holds

theorem of_any : Triple Pre program (fun _ _ => True) (fun _ _ => True) := by
  intro state _
  cases program state <;> trivial

theorem ok {state after : σ} (triple : Triple Pre program Post Fail) (holds : Pre state)
    (ran : program state = .ok value after) : Post value after := by
  have reached := triple state holds
  rwa [ran] at reached

theorem mono {Post' : α → σ → Prop} {Fail' : ε → σ → Prop} (triple : Triple Pre program Post Fail)
    (post : ∀ value state, Post value state → Post' value state)
    (fail : ∀ failure state, Fail failure state → Fail' failure state) : Triple Pre program Post' Fail' := by
  intro state holds
  have reached := triple state holds
  cases ran : program state with
  | ok value after =>
    rw [ran] at reached
    exact post value after reached
  | error failure after =>
    rw [ran] at reached
    exact fail failure after reached

end Triple

/-! ## Runs that return -/

/-- The run from `state` returns, with a value in `Post`. -/
def Returns (program : EStateM ε σ α) (state : σ) (Post : α → Prop) : Prop :=
  ∃ value after, program state = .ok value after ∧ Post value

namespace Returns

variable {program : EStateM ε σ α} {state : σ} {Post : α → Prop}

theorem of_pure {value : α} (holds : Post value) :
    Returns (pure value : EStateM ε σ α) state Post := ⟨value, state, rfl, holds⟩

theorem after_modify {update : σ → σ} (rest : Returns program (update state) Post) :
    Returns (do modify update; program) state Post := rest

theorem bind {next : α → EStateM ε σ β} {Mid : α → Prop} {Post : β → Prop} (first : Returns program state Mid)
    (rest : ∀ value after, Mid value → Returns (next value) after Post) : Returns (program >>= next) state Post := by
  obtain ⟨value, after, ran, holds⟩ := first
  obtain ⟨final, ended, reached, post⟩ := rest value after holds
  refine ⟨final, ended, ?_, post⟩
  rw [bind_apply, ran]
  exact reached

end Returns

/-! ## Runs that pass -/

/-- The run from `state` passes if `opens`, with a value that `pass` accepts; otherwise it fails or its
value is turned away. -/
def Passes (pass : α → Option γ) (program : EStateM ε σ α) (state : σ) (opens : Bool) (Post : γ → σ → Prop) : Prop :=
  match opens with
  | true => ∃ value passed after, program state = .ok value after ∧ pass value = some passed ∧ Post passed after
  | false => ∀ value after, program state = .ok value after → pass value = none

namespace Passes

variable {pass : α → Option γ} {state : σ}

variable {program : EStateM ε σ α} {value : α} {next : α → EStateM ε σ β} {pass' : β → Option δ} {opens : Bool}
  {Post Mid : γ → σ → Prop}

theorem of_ok {passed : γ} {after : σ} (ran : program state = .ok value after) (accepted : pass value = some passed)
    (holds : Post passed after) : Passes pass program state true Post := ⟨value, passed, after, ran, accepted, holds⟩

theorem of_refused {after : σ} (ran : program state = .ok value after) (refused : pass value = none) :
    Passes pass program state false Post := by
  intro other later ran'
  rw [ran] at ran'
  cases ran'
  exact refused

theorem of_error {failure : ε} {after : σ} (ran : program state = .error failure after) :
    Passes pass program state false Post := by
  intro other later ran'
  rw [ran] at ran'
  cases ran'

/-- After a part that passes, the rest decides. -/
theorem then_bind {program : EStateM ε σ α} {next : α → EStateM ε σ β} {pass' : β → Option δ} {opens : Bool}
    {Mid : γ → σ → Prop} {Post : δ → σ → Prop} (first : Passes pass program state true Mid)
    (rest : ∀ value passed after, pass value = some passed → Mid passed after →
      Passes pass' (next value) after opens Post) :
    Passes pass' (program >>= next) state opens Post := by
  obtain ⟨value, passed, after, ran, accepted, holds⟩ := first
  have reached := rest value passed after accepted holds
  have same : (program >>= next) state = next value after := by rw [bind_apply, ran]
  unfold Passes at reached ⊢
  rw [same]
  exact reached

theorem bind {opens' : Bool} {Post : δ → σ → Prop} (first : Passes pass program state opens Mid)
    (rest : ∀ value passed after, pass value = some passed → Mid passed after →
      Passes pass' (next value) after opens' Post)
    (halts : ∀ value after, pass value = none → Passes pass' (next value) after false Post) :
    Passes pass' (program >>= next) state (opens && opens') Post := by
  cases opens with
  | true =>
    rw [Bool.true_and]
    exact first.then_bind rest
  | false =>
    intro final ended reached
    rw [bind_apply] at reached
    cases ran : program state with
    | ok value after =>
      rw [ran] at reached
      exact halts value after (first value after ran) final ended reached
    | error failure after =>
      rw [ran] at reached
      cases reached

/-- A program that accepts nothing on any run does not pass. -/
theorem of_triple (turned : Triple (fun _ => True) program (fun value _ => pass value = none) (fun _ _ => True)) :
    Passes pass program state false Post := fun _ _ ran => turned.ok trivial ran

end Passes

/-! ## Two programs that do the same -/

/-- Two results: related values or the same error, in related states. -/
inductive Results (States : σ → τ → Prop) (Values : α → β → Prop) :
    EStateM.Result ε σ α → EStateM.Result ε τ β → Prop
  | ok {value : α} {value' : β} {state : σ} {other : τ} (values : Values value value')
      (states : States state other) : Results States Values (.ok value state) (.ok value' other)
  | error {failure : ε} {state : σ} {other : τ} (states : States state other) :
      Results States Values (.error failure state) (.error failure other)

/-- From related states two programs have related results. -/
def Related (States : σ → τ → Prop) (Values : α → β → Prop) (left : EStateM ε σ α) (right : EStateM ε τ β) :
    Prop :=
  ∀ state other, States state other → Results States Values (left state) (right other)

namespace Related

variable {States : σ → τ → Prop} {Values : α → β → Prop}

variable {value : α} {left : EStateM ε σ α} {right : EStateM ε τ β} {next' : β → EStateM ε τ δ} {Values' : γ → δ → Prop}

theorem of_pure {value' : β} (related : Values value value') :
    Related States Values (pure value : EStateM ε σ α) (pure value' : EStateM ε τ β) :=
  fun _ _ states => .ok related states

theorem of_throw (failure : ε) :
    Related States Values (throw failure : EStateM ε σ α) (throw failure : EStateM ε τ β) :=
  fun _ _ states => .error states

theorem of_modify {update : σ → σ} {update' : τ → τ}
    (related : ∀ state other, States state other → States (update state) (update' other)) :
    Related States Eq (modify update : EStateM ε σ PUnit) (modify update' : EStateM ε τ PUnit) :=
  fun state other states => .ok rfl (related state other states)

theorem of_get {next : σ → EStateM ε σ α} {next' : τ → EStateM ε τ β}
    (rest : ∀ state other, States state other → Related States Values (next state) (next' other)) :
    Related States Values (get >>= next) (get >>= next') :=
  fun state other states => rest state other states state other states

theorem bind {next : α → EStateM ε σ γ} (first : Related States Values left right)
    (rest : ∀ value value', Values value value' → Related States Values' (next value) (next' value')) :
    Related States Values' (left >>= next) (right >>= next') := by
  intro state other states
  have reached := first state other states
  rw [bind_apply, bind_apply]
  generalize left state = ran at *
  generalize right other = ran' at *
  cases reached with
  | ok values states => exact rest _ _ values _ _ states
  | error states => exact .error states

/-- The right program goes on alone. -/
theorem then_right {Values' : α → δ → Prop} (first : Related States Values left right)
    (rest : ∀ value value', Values value value' → Related States Values' (pure value) (next' value')) :
    Related States Values' left (right >>= next') := by
  rw [← bind_pure left]
  exact first.bind rest

/-- The right program does something first that the left value already stands for. -/
theorem skip_right {left : EStateM ε σ γ} (first : Related States Values (pure value) right)
    (rest : ∀ value', Values value value' → Related States Values' left (next' value')) :
    Related States Values' left (right >>= next') := by
  intro state other states
  have reached := first state other states
  rw [bind_apply]
  generalize right other = ran' at *
  cases reached with
  | ok values states => exact rest _ values _ _ states

theorem mono {Values' : α → β → Prop} (related : Related States Values left right)
    (weaker : ∀ value value', Values value value' → Values' value value') : Related States Values' left right := by
  intro state other states
  have reached := related state other states
  generalize left state = ran at *
  generalize right other = ran' at *
  cases reached with
  | ok values states => exact .ok (weaker _ _ values) states
  | error states => exact .error states

/-- Related runs look alike through every observation the value relation respects. -/
theorem outcome_eq (related : Related States Values left right) {observe : α → γ} {observe' : β → γ}
    (agree : ∀ value value', Values value value' → observe value = observe' value') {state : σ} {other : τ}
    (states : States state other) : outcome observe (left state) = outcome observe' (right other) := by
  have reached := related state other states
  generalize left state = ran at *
  generalize right other = ran' at *
  cases reached with
  | ok values states => exact congrArg Except.ok (agree _ _ values)
  | error states => rfl

end Related

/-! ## Frames -/

/-- The program leaves a part of the state alone, whether it returns or fails. -/
def Keeps (part : σ → γ) (program : EStateM ε σ α) : Prop :=
  ∀ state, part (finalState (program state)) = part state

namespace Keeps

variable {part : σ → γ}

variable {program : EStateM ε σ α} {state : σ}

theorem of_pure (value : α) : Keeps part (pure value : EStateM ε σ α) := fun _ => rfl

theorem of_throw (failure : ε) : Keeps part (throw failure : EStateM ε σ α) := fun _ => rfl

theorem of_modify {update : σ → σ} (kept : ∀ state, part (update state) = part state) :
    Keeps part (modify update : EStateM ε σ PUnit) := kept

theorem of_get {next : σ → EStateM ε σ α} (rest : ∀ current, Keeps part (next current)) :
    Keeps part (get >>= next) := fun state => rest state state

theorem bind {next : α → EStateM ε σ β} (first : Keeps part program) (rest : ∀ value, Keeps part (next value)) :
    Keeps part (program >>= next) := by
  intro state
  have kept := first state
  rw [bind_apply]
  cases ran : program state with
  | ok value after =>
    rw [ran] at kept
    exact (rest value after).trans kept
  | error failure after =>
    rw [ran] at kept
    exact kept

/-- What comes after a program and keeps a part leaves it as the program left it. -/
theorem after (part : σ → γ) {program : EStateM ε σ α} {next : α → EStateM ε σ β}
    (rest : ∀ value, Keeps part (next value)) (state : σ) :
    part (finalState ((program >>= next) state)) = part (finalState (program state)) := by
  rw [bind_apply]
  cases program state with
  | ok value after => exact rest value after
  | error failure after => rfl

theorem ok {after : σ} {value : α} (keeps : Keeps part program) (ran : program state = .ok value after) :
    part after = part state := by
  have kept := keeps state
  rwa [ran] at kept

theorem error {after : σ} {failure : ε} (keeps : Keeps part program) (ran : program state = .error failure after) :
    part after = part state := by
  have kept := keeps state
  rwa [ran] at kept

end Keeps

variable {program : EStateM ε σ α} {part : σ → γ}

/-- What a program that passes leaves alone. -/
theorem Passes.frame {pass : α → Option δ} {state : σ} {opens : Bool} {Post Post' : δ → σ → Prop}
    (passes : Passes pass program state opens Post) (keeps : Keeps part program)
    (weaker : ∀ passed after, Post passed after → part after = part state → Post' passed after) :
    Passes pass program state opens Post' := by
  cases opens with
  | false => exact passes
  | true =>
    obtain ⟨value, passed, after, ran, accepted, holds⟩ := passes
    exact ⟨value, passed, after, ran, accepted, weaker passed after holds (keeps.ok ran)⟩

/-- The frame rule: what a program leaves alone stays as it was. -/
theorem Triple.frame {Pre : σ → Prop} {Post : α → σ → Prop} {Fail : ε → σ → Prop}
    (triple : Triple Pre program Post Fail) (keeps : Keeps part program) (kept : γ) :
    Triple (fun state => Pre state ∧ part state = kept) program
      (fun value state => Post value state ∧ part state = kept)
      (fun failure state => Fail failure state ∧ part state = kept) := by
  rintro state ⟨holds, framed⟩
  have reached := triple state holds
  cases ran : program state with
  | ok value after =>
    rw [ran] at reached
    exact ⟨reached, (keeps.ok ran).trans framed⟩
  | error failure after =>
    rw [ran] at reached
    exact ⟨reached, (keeps.error ran).trans framed⟩

end Stateful
