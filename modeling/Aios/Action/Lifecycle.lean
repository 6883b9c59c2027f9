import Aios.Action.Envelope
import Aios.Lib.Run

/-! # The lifecycle of an envelope

What every sequence of `transition_to` and `add_condition` keeps, whichever way the clock goes. One
call leaves the envelope as it was, enters a phase or records a condition; the invariant `Sound` and
the growth relation `Extends` follow from that, and the run lemmas from the two of them.
-/

namespace Aios.Action

open Aios.Rust

namespace Execution

/-! ## The two changes -/

/-- The stamp of a transition. -/
def stamp (execution : Execution) (now : DateTime) : DateTime :=
  if now < execution.phaseChangedAt then execution.phaseChangedAt else now

/-- The section after a transition. -/
def enter (execution : Execution) (now : DateTime) (next : ActionPhase) : Execution :=
  { execution with
    phase := next
    phaseChangedAt := execution.stamp now
    startedAt := if execution.phase = .pending ∧ next = .running ∧ execution.startedAt.isNone
      then some (execution.stamp now) else execution.startedAt
    endedAt := if next.isTerminal ∧ execution.endedAt.isNone
      then some (execution.stamp now) else execution.endedAt }

/-- The section with one more condition. -/
def record (execution : Execution) (condition : Condition) : Execution :=
  { execution with conditions := execution.conditions ++ [condition] }

variable {execution : Execution}

variable {condition : Condition} {phase next : ActionPhase}

theorem phaseChangedAt_le_stamp (execution : Execution) (now : DateTime) :
    execution.phaseChangedAt ≤ execution.stamp now := by
  unfold stamp
  split
  · exact Int.le_refl _
  · rename_i notBefore
    exact Int.not_lt.mp notBefore

/-! ## Conditions -/

/-- A later condition is not older, and is true where an earlier one of its type was. -/
def Ordered (earlier later : Condition) : Prop :=
  earlier.observedAt ≤ later.observedAt ∧
    (earlier.conditionType = later.conditionType → earlier.status = .true → later.status = .true)

/-- The two checks of `add_condition`. -/
def Admits (execution : Execution) (condition : Condition) : Prop :=
  (∀ last, execution.conditions.getLast? = some last → last.observedAt ≤ condition.observedAt) ∧
    (condition.status = .true ∨
      ∀ existing ∈ execution.conditions, existing.conditionType = condition.conditionType → existing.status ≠ .true)

/-- The last of an ordered list is the newest. -/
theorem observedAt_le_last {conditions : List Condition} (ordered : conditions.Pairwise Ordered)
    {existing last : Condition} (member : existing ∈ conditions) (final : conditions.getLast? = some last) :
    existing.observedAt ≤ last.observedAt := by
  obtain ⟨front, rfl⟩ := List.getLast?_eq_some_iff.mp final
  obtain ⟨-, -, apart⟩ := List.pairwise_append.mp ordered
  obtain inFront | isLast := List.mem_append.mp member
  · exact (apart existing inFront last (List.mem_singleton_self last)).1
  · obtain rfl := List.mem_singleton.mp isLast
    exact Int.le_refl _

theorem Admits.ordered (admits : execution.Admits condition) (ordered : execution.conditions.Pairwise Ordered) :
    (execution.record condition).conditions.Pairwise Ordered := by
  obtain ⟨notOlder, noFlip⟩ := admits
  refine List.pairwise_append.mpr ⟨ordered, List.pairwise_singleton _ _, ?_⟩
  intro existing member new isNew
  obtain rfl := List.mem_singleton.mp isNew
  constructor
  · cases final : execution.conditions.getLast? with
    | none =>
      rw [List.getLast?_eq_none_iff.mp final] at member
      cases member
    | some last => exact Int.le_trans (observedAt_le_last ordered member final) (notOlder last final)
  · intro sameType wasTrue
    obtain isTrue | absent := noFlip
    · exact isTrue
    · exact absurd wasTrue (absent existing member sameType)

/-! ## The invariant of one section -/

structure Sound (execution : Execution) : Prop where
  notStarted : execution.phase = .pending → execution.startedAt = none
  started : execution.phase = .running → execution.startedAt.isSome
  ended : execution.endedAt.isSome ↔ execution.phase.isTerminal
  startedBefore : ∀ moment, execution.startedAt = some moment → moment ≤ execution.phaseChangedAt
  endedAfter : ∀ first last, execution.startedAt = some first → execution.endedAt = some last → first ≤ last
  ordered : execution.conditions.Pairwise Ordered

theorem sound_pending (now : DateTime) : (pending now).Sound where
  notStarted _ := rfl
  started running := by cases running
  ended := by simp [pending, ActionPhase.isTerminal]
  startedBefore _ set := by cases set
  endedAfter _ _ set := by cases set
  ordered := List.Pairwise.nil

theorem Sound.record (sound : execution.Sound) (admits : execution.Admits condition) :
    (execution.record condition).Sound where
  notStarted := sound.notStarted
  started := sound.started
  ended := sound.ended
  startedBefore := sound.startedBefore
  endedAfter := sound.endedAfter
  ordered := admits.ordered sound.ordered

/-- A phase with a way out of it is not terminal. -/
theorem isTerminal_of_canTransitionTo (can : phase.canTransitionTo next) : phase.isTerminal = false := by
  cases phase <;> first | rfl | (cases next <;> cases can)

/-- Nothing comes back to the first phase. -/
theorem ne_pending_of_canTransitionTo (can : phase.canTransitionTo next) : next ≠ .pending := by
  rintro rfl
  cases phase <;> cases can

theorem Sound.endedAt_eq_none (sound : execution.Sound) (live : execution.phase.isTerminal = false) :
    execution.endedAt = none := by
  rw [← Option.not_isSome_iff_eq_none, sound.ended, live]
  exact Bool.false_ne_true

/-- The start stamp after a transition: the new one on the way into `Running`, else what it was. -/
theorem Sound.enter_startedAt (sound : execution.Sound) (now : DateTime) (can : execution.phase.canTransitionTo next) :
    (execution.enter now next).startedAt =
    if next = .running then some (execution.stamp now) else execution.startedAt := by
  by_cases running : next = .running
  · have first : execution.phase = .pending := by
      subst running
      cases phase : execution.phase <;> rw [phase] at can <;> first | rfl | cases can
    simp [enter, running, first, sound.notStarted first]
  · simp [enter, running]

theorem Sound.enter_endedAt (sound : execution.Sound) (now : DateTime) (can : execution.phase.canTransitionTo next) :
    (execution.enter now next).endedAt = if next.isTerminal then some (execution.stamp now) else none := by
  have unset := sound.endedAt_eq_none (isTerminal_of_canTransitionTo can)
  cases terminal : next.isTerminal <;> simp [enter, unset, terminal]

theorem Sound.enter (sound : execution.Sound) (now : DateTime) (can : execution.phase.canTransitionTo next) :
    (execution.enter now next).Sound where
  notStarted pending := absurd pending (ne_pending_of_canTransitionTo can)
  started running := by
    change next = .running at running
    rw [sound.enter_startedAt now can, if_pos running]
    rfl
  ended := by
    rw [sound.enter_endedAt now can]
    change _ ↔ next.isTerminal = true
    cases next.isTerminal <;> simp
  startedBefore moment set := by
    rw [sound.enter_startedAt now can] at set
    change moment ≤ execution.stamp now
    split at set
    · obtain rfl := Option.some.inj set
      exact Int.le_refl _
    · exact Int.le_trans (sound.startedBefore moment set) (execution.phaseChangedAt_le_stamp now)
  endedAfter first last begun finished := by
    rw [sound.enter_endedAt now can] at finished
    rw [sound.enter_startedAt now can] at begun
    have isLast : execution.stamp now = last := by
      split at finished
      · exact Option.some.inj finished
      · cases finished
    rw [← isLast]
    split at begun
    · exact Int.le_of_eq (Option.some.inj begun).symm
    · exact Int.le_trans (sound.startedBefore first begun) (execution.phaseChangedAt_le_stamp now)
  ordered := sound.ordered

/-! ## Growth -/

/-- What a section may become: no stamp goes back or is altered, a terminal phase stays, and the
conditions are only added to. -/
structure Extends (old new : Execution) : Prop where
  phase : old.phase.isTerminal → new.phase = old.phase
  phaseChangedAt : old.phaseChangedAt ≤ new.phaseChangedAt
  startedAt : ∀ moment, old.startedAt = some moment → new.startedAt = some moment
  endedAt : ∀ moment, old.endedAt = some moment → new.endedAt = some moment
  conditions : old.conditions <+: new.conditions

theorem Extends.refl (execution : Execution) : execution.Extends execution :=
  ⟨fun _ => rfl, Int.le_refl _, fun _ set => set, fun _ set => set, List.prefix_rfl⟩

theorem Extends.trans {first second third : Execution} (earlier : first.Extends second)
    (later : second.Extends third) : first.Extends third where
  phase terminal := by
    have same := earlier.phase terminal
    rw [later.phase (same ▸ terminal), same]
  phaseChangedAt := Int.le_trans earlier.phaseChangedAt later.phaseChangedAt
  startedAt moment set := later.startedAt moment (earlier.startedAt moment set)
  endedAt moment set := later.endedAt moment (earlier.endedAt moment set)
  conditions := earlier.conditions.trans later.conditions

theorem extends_record (execution : Execution) (condition : Condition) :
    execution.Extends (execution.record condition) :=
  ⟨fun _ => rfl, Int.le_refl _, fun _ set => set, fun _ set => set, List.prefix_append _ _⟩

theorem extends_enter (execution : Execution) (now : DateTime) (can : execution.phase.canTransitionTo next) :
    execution.Extends (execution.enter now next) where
  phase terminal := by
    rw [isTerminal_of_canTransitionTo can] at terminal
    cases terminal
  phaseChangedAt := execution.phaseChangedAt_le_stamp now
  startedAt moment set := by simp [enter, set]
  endedAt moment set := by simp [enter, set]
  conditions := List.prefix_rfl

end Execution

/-! ## Calls -/

/-- A call on the envelope, with the clock reading it takes. -/
inductive EnvelopeCall where
  | transitionTo (now : DateTime) (next : ActionPhase)
  | addCondition (condition : Condition)

namespace TrackedEnvelope

/-- Performs a call. -/
def perform (display : DateTime → String) : EnvelopeCall → EStateM TransitionError TrackedEnvelope Unit
  | .transitionTo now next => transitionTo now next
  | .addCondition condition => addCondition display condition

/-- The envelope a call leaves behind, whether it succeeds or fails. -/
def step (display : DateTime → String) (envelope : TrackedEnvelope) (call : EnvelopeCall) : TrackedEnvelope :=
  Stateful.finalState (perform display call envelope)

variable {display : DateTime → String} {envelope : TrackedEnvelope}

theorem transitionTo_apply (now : DateTime) (next : ActionPhase) (envelope : TrackedEnvelope) :
    transitionTo now next envelope =
      if envelope.execution.phase.isTerminal then .error .terminalPhase envelope
      else if !envelope.execution.phase.canTransitionTo next then
        .error (.illegalTransition envelope.execution.phase next) envelope
      else .ok () (envelope.setExecution (·.enter now next)) := by
  rw [transitionTo, Stateful.get_bind_apply]
  split
  · rfl
  · split
    · rfl
    · by_cases begins : envelope.execution.phase = .pending ∧ next = .running ∧ envelope.execution.startedAt.isNone <;>
        by_cases ends : next.isTerminal ∧ envelope.execution.endedAt.isNone <;>
        rw [setExecution, Execution.enter] <;>
        simp only [begins, ends] <;>
        rfl

/-- What one call does: it fails and leaves the envelope alone, takes an edge of the phase relation, or
records an admitted condition. -/
theorem perform_cases (display : DateTime → String) (call : EnvelopeCall) (envelope : TrackedEnvelope) :
    (∃ failure, perform display call envelope = .error failure envelope) ∨
    (∃ now next, envelope.execution.phase.canTransitionTo next ∧
      perform display call envelope = .ok () (envelope.setExecution (·.enter now next))) ∨
    (∃ condition, envelope.execution.Admits condition ∧
      perform display call envelope = .ok () (envelope.setExecution (·.record condition))) := by
  cases call with
  | transitionTo now next =>
    rw [perform, transitionTo_apply]
    split
    · exact .inl ⟨_, rfl⟩
    · split
      · exact .inl ⟨_, rfl⟩
      · rename_i can
        exact .inr (.inl ⟨now, next, by simpa using can, rfl⟩)
  | addCondition condition =>
    rw [perform, addCondition, Stateful.get_bind_apply]
    cases older : regresses envelope.execution.conditions.getLast? condition with
    | some last => exact .inl ⟨_, rfl⟩
    | none =>
      dsimp only
      split
      · exact .inl ⟨_, rfl⟩
      · rename_i noFlip
        refine .inr (.inr ⟨condition, ⟨?_, ?_⟩, rfl⟩)
        · intro last final
          simpa [regresses, final] using older
        · by_cases isTrue : condition.status = .true
          · exact .inl isTrue
          · exact .inr (by simpa [isTrue] using noFlip)

theorem step_cases (display : DateTime → String) (call : EnvelopeCall) (envelope : TrackedEnvelope) :
    step display envelope call = envelope ∨
    (∃ now next, envelope.execution.phase.canTransitionTo next ∧
      step display envelope call = envelope.setExecution (·.enter now next)) ∨
    (∃ condition, envelope.execution.Admits condition ∧
      step display envelope call = envelope.setExecution (·.record condition)) := by
  unfold step
  obtain ⟨failure, ran⟩ | ⟨now, next, can, ran⟩ | ⟨condition, admits, ran⟩ := perform_cases display call envelope
  · exact .inl (by rw [ran]; rfl)
  · exact .inr (.inl ⟨now, next, can, by rw [ran]; rfl⟩)
  · exact .inr (.inr ⟨condition, admits, by rw [ran]; rfl⟩)

theorem step_sound (sound : envelope.execution.Sound) (call : EnvelopeCall) :
    (step display envelope call).execution.Sound := by
  obtain same | ⟨now, next, can, same⟩ | ⟨condition, admits, same⟩ := step_cases display call envelope
  · rwa [same]
  · rw [same]
    exact sound.enter now can
  · rw [same]
    exact sound.record admits

theorem step_extends (envelope : TrackedEnvelope) (call : EnvelopeCall) :
    envelope.execution.Extends (step display envelope call).execution := by
  obtain same | ⟨now, next, can, same⟩ | ⟨condition, admits, same⟩ := step_cases display call envelope
  · rw [same]
    exact Execution.Extends.refl _
  · rw [same]
    exact Execution.extends_enter _ now can
  · rw [same]
    exact Execution.extends_record _ condition

theorem step_phase (envelope : TrackedEnvelope) (call : EnvelopeCall) :
    (step display envelope call).execution.phase = envelope.execution.phase ∨
      envelope.execution.phase.canTransitionTo (step display envelope call).execution.phase := by
  obtain same | ⟨now, next, can, same⟩ | ⟨condition, admits, same⟩ := step_cases display call envelope
  · exact .inl (by rw [same])
  · exact .inr (by rw [same]; exact can)
  · exact .inl (by rw [same]; rfl)

/-- The start stamp is set after a call if it was, or if the call has led into `Running`. -/
theorem step_started (sound : envelope.execution.Sound) (call : EnvelopeCall) :
    (step display envelope call).execution.startedAt.isSome ↔
      envelope.execution.startedAt.isSome ∨ (step display envelope call).execution.phase = .running := by
  obtain same | ⟨now, next, can, same⟩ | ⟨condition, admits, same⟩ := step_cases display call envelope
  · rw [same]
    exact ⟨.inl, fun either => either.elim id sound.started⟩
  · rw [same, setExecution_execution, sound.enter_startedAt now can]
    change _ ↔ _ ∨ next = .running
    by_cases running : next = .running <;> simp [running]
  · rw [same]
    exact ⟨.inl, fun either => either.elim id sound.started⟩

/-! ## Runs -/

/-- The envelope after a sequence of calls. -/
def runCalls (display : DateTime → String) (envelope : TrackedEnvelope) (calls : List EnvelopeCall) : TrackedEnvelope :=
  StepRun.run (step display) envelope calls

/-- What the lifecycle of an envelope promises of a sequence of calls on it: of every call, of any two
moments, and of the envelope at every moment. -/
structure LifecycleKept (display : DateTime → String) (created : TrackedEnvelope) (calls : List EnvelopeCall) :
    Prop where
  failureKeeps : ∀ before call rest, calls = before ++ call :: rest → ∀ failure after,
    perform display call (runCalls display created before) = .error failure after →
      after = runCalls display created before
  phasePath : ∀ before call rest, calls = before ++ call :: rest →
    (runCalls display created (before ++ [call])).execution.phase = (runCalls display created before).execution.phase ∨
      (runCalls display created before).execution.phase.canTransitionTo
        (runCalls display created (before ++ [call])).execution.phase
  terminalAbsorbs : ∀ earlier later, earlier <+: later → later <+: calls →
    (runCalls display created earlier).execution.phase.isTerminal →
      (runCalls display created later).execution.phase = (runCalls display created earlier).execution.phase
  phaseChangedAtGrows : ∀ earlier later, earlier <+: later → later <+: calls →
    (runCalls display created earlier).execution.phaseChangedAt ≤
    (runCalls display created later).execution.phaseChangedAt
  startedAtSet : ∀ moment, moment <+: calls →
    ((runCalls display created moment).execution.startedAt.isSome ↔
      ∃ earlier, earlier <+: moment ∧ (runCalls display created earlier).execution.phase = .running)
  startedAtKept : ∀ earlier later, earlier <+: later → later <+: calls → ∀ stamp,
    (runCalls display created earlier).execution.startedAt = some stamp →
      (runCalls display created later).execution.startedAt = some stamp
  endedAtSet : ∀ moment, moment <+: calls →
    ((runCalls display created moment).execution.endedAt.isSome ↔
      (runCalls display created moment).execution.phase.isTerminal)
  endedAtAfter : ∀ moment, moment <+: calls → ∀ started ended,
    (runCalls display created moment).execution.startedAt = some started →
      (runCalls display created moment).execution.endedAt = some ended → started ≤ ended
  conditionsAppended : ∀ earlier later, earlier <+: later → later <+: calls →
    (runCalls display created earlier).execution.conditions <+: (runCalls display created later).execution.conditions
  conditionsOrdered : ∀ moment, moment <+: calls →
    (runCalls display created moment).execution.conditions.Pairwise Execution.Ordered

theorem runCalls_append (display : DateTime → String) (created : TrackedEnvelope) (first second : List EnvelopeCall) :
    runCalls display created (first ++ second) = runCalls display (runCalls display created first) second :=
  StepRun.run_append _ _ _ _

theorem runCalls_sound (sound : envelope.execution.Sound) (calls : List EnvelopeCall) :
    (runCalls display envelope calls).execution.Sound :=
  StepRun.run_invariant (fun envelope : TrackedEnvelope => envelope.execution.Sound)
    (fun _ call sound => step_sound sound call) sound calls

theorem runCalls_extends (envelope : TrackedEnvelope) (calls : List EnvelopeCall) :
    envelope.execution.Extends (runCalls display envelope calls).execution :=
  StepRun.run_invariant (fun reached => envelope.execution.Extends reached.execution)
    (fun reached call extends_ => extends_.trans (step_extends reached call)) (Execution.Extends.refl _) calls

/-- Between two moments of a run. -/
theorem runCalls_extends_later (created : TrackedEnvelope) {earlier later : List EnvelopeCall}
    (order : earlier <+: later) :
    (runCalls display created earlier).execution.Extends (runCalls display created later).execution := by
  obtain ⟨more, rfl⟩ := order
  rw [runCalls_append]
  exact runCalls_extends _ more

/-- The start stamp is set exactly if the run has been in `Running`. -/
theorem runCalls_started (sound : envelope.execution.Sound) (fresh : envelope.execution.phase = .pending)
    (calls : List EnvelopeCall) :
    (runCalls display envelope calls).execution.startedAt.isSome ↔
      ∃ earlier, earlier <+: calls ∧ (runCalls display envelope earlier).execution.phase = .running := by
  induction calls using List.reverseRecOn with
  | nil =>
    simp only [List.prefix_nil, exists_eq_left]
    change envelope.execution.startedAt.isSome ↔ envelope.execution.phase = .running
    simp [sound.notStarted fresh, fresh]
  | append_singleton calls call ih =>
    have stepped : runCalls display envelope (calls ++ [call]) = step display (runCalls display envelope calls) call :=
      runCalls_append display envelope calls [call]
    rw [stepped, step_started (runCalls_sound sound calls), ih, ← stepped]
    constructor
    · rintro (⟨earlier, order, running⟩ | running)
      · exact ⟨earlier, order.trans (List.prefix_append _ _), running⟩
      · exact ⟨_, List.prefix_rfl, running⟩
    · rintro ⟨earlier, order, running⟩
      obtain rfl | order := List.prefix_concat_iff.mp order
      · exact .inr running
      · exact .inl ⟨earlier, order, running⟩

theorem lifecycle_kept (display : DateTime → String) (identity : Identity) (request : Request) (now : DateTime)
    (calls : List EnvelopeCall) : LifecycleKept display (new identity request now) calls := by
  have sound : (new identity request now).execution.Sound := Execution.sound_pending now
  exact {
    failureKeeps := by
      intro before call rest _ failure after failed
      obtain ⟨other, ran⟩ | ⟨now, next, can, ran⟩ | ⟨condition, admits, ran⟩ :=
        perform_cases display call (runCalls display (new identity request now) before)
      · rw [ran] at failed
        cases failed
        rfl
      · rw [ran] at failed
        cases failed
      · rw [ran] at failed
        cases failed
    phasePath := by
      intro before call rest _
      rw [runCalls_append]
      exact step_phase _ call
    terminalAbsorbs := fun earlier later order _ => (runCalls_extends_later _ order).phase
    phaseChangedAtGrows := fun earlier later order _ => (runCalls_extends_later _ order).phaseChangedAt
    startedAtSet := fun moment _ => runCalls_started sound rfl moment
    startedAtKept := fun earlier later order _ => (runCalls_extends_later _ order).startedAt
    endedAtSet := fun moment _ => (runCalls_sound sound moment).ended
    endedAtAfter := fun moment _ => (runCalls_sound sound moment).endedAfter
    conditionsAppended := fun earlier later order _ => (runCalls_extends_later _ order).conditions
    conditionsOrdered := fun moment _ => (runCalls_sound sound moment).ordered }

end TrackedEnvelope

end Aios.Action
