import Aios.Runtime.Agreement
import Aios.Runtime.ApprovalLinks

/-! # Concurrent resume calls

Several calls of `resume_with_binding` for one action interleave at the points where the call awaits:
it loads the stored context, consumes its binding, runs the queue, execute and verify steps on its own
copy of the context, and stores the result. A call taken by itself is the sequential one. The status is
read when the context is loaded and a binding is single-use, so one binding executes the action at most
once; two granted bindings can execute it twice.
-/

namespace Aios.Runtime

open Aios.Rust Aios.Action Aios.Policy Stateful Journey

/-! ## The calls -/

/-- One call of `resume_with_binding`; the action is the same for all. -/
structure ResumeCall where
  engines : Engines
  envelope : ActionEnvelope
  context : RuntimeContext
  bindingId : String
  readings : CallReadings

/-- How far a call has come. A failed call remembers whether its queue step was behind it. -/
inductive ResumePhase where
  | entered
  | loaded (stored : ActionContext)
  | approved (ctx : ActionContext)
  | queued (ctx : ActionContext)
  | executing (ctx : ActionContext)
  | settled (ctx : ActionContext)
  | returned (ctx : ActionContext)
  | failed (failure : RuntimeError) (pastQueue : Bool)

namespace ResumePhase

/-- The number of awaits behind a call. -/
def rank : ResumePhase → ℕ
  | entered => 0
  | loaded _ => 1
  | approved _ => 2
  | queued _ => 3
  | executing _ => 4
  | settled _ => 5
  | returned _ => 6
  | failed _ _ => 6

/-- What a call that has ended answers. -/
def answer : ResumePhase → Option (Except RuntimeError ActionContext)
  | returned ctx => some (.ok ctx)
  | failed failure _ => some (.error failure)
  | _ => none

/-- The queue step of the call is behind it. -/
def pastQueue : ResumePhase → Bool
  | executing _ => true
  | settled _ => true
  | returned _ => true
  | failed _ pastQueue => pastQueue
  | _ => false

/-- The call has consumed its binding and has not failed before its execute step. -/
def holdsApproval : ResumePhase → Bool
  | approved _ => true
  | queued _ => true
  | phase => phase.pastQueue

end ResumePhase

/-- Run one part of a call: on to the next phase, or out with `?`. -/
def attempt {α : Type} (program : RuntimeM α) (next : α → ResumePhase) (pastQueue : Bool) (state : RuntimeState) :
    RuntimeState × ResumePhase :=
  match program state with
  | .ok value after => (after, next value)
  | .error failure after => (after, .failed failure pastQueue)

namespace ResumeCall

variable (hash : RequestHash) (actionId : ActionId) (call : ResumeCall)

variable (state : RuntimeState) (phase : ResumePhase)

/-- The part of a call between two awaits. -/
def advance (state : RuntimeState) : ResumePhase → RuntimeState × ResumePhase
  | .entered => attempt (loadPending actionId) .loaded false state
  | .loaded stored =>
      attempt (consumeForResume hash call.engines call.envelope call.context call.bindingId call.readings stored)
        .approved false state
  | .approved ctx =>
      attempt (resumeQueue call.engines call.envelope ctx call.readings.now call.readings.admitted)
        (fun step => if step.intoContext.status = .queued then .queued step.intoContext else .settled step.intoContext)
        false state
  | .queued ctx =>
      attempt (resumeExecute call.engines call.envelope ctx call.readings.now)
        (fun step =>
          if step.intoContext.status = .executing then .executing step.intoContext else .settled step.intoContext)
        true state
  | .executing ctx =>
      attempt (resumeVerify call.engines call.envelope ctx call.readings.now)
        (fun step => .settled step.intoContext) true state
  | .settled ctx => attempt (persist actionId ctx) .returned true state
  | .returned ctx => (state, .returned ctx)
  | .failed failure pastQueue => (state, .failed failure pastQueue)

/-- The next part of the call consumes a binding that is handed out and accepted. -/
def takesApproval : ResumePhase → Bool
  | .loaded _ =>
      (presentedBinding hash call.engines call.envelope call.context call.bindingId call.readings state).isSome
  | _ => false

/-- What is left of a call in a phase. -/
def remainder : ResumePhase → RuntimeM ActionContext
  | .entered =>
      resumeWithBinding hash call.engines actionId call.envelope call.context call.bindingId call.readings
  | .loaded stored => do
      let approved ←
        consumeForResume hash call.engines call.envelope call.context call.bindingId call.readings stored
      let ctx ← resumeFromApproved call.engines call.envelope call.readings.now call.readings.admitted approved
      persist actionId ctx
  | .approved approved => do
      let ctx ← resumeFromApproved call.engines call.envelope call.readings.now call.readings.admitted approved
      persist actionId ctx
  | .queued queued => do
      let ctx ← resumeFromQueued call.engines call.envelope call.readings.now queued
      persist actionId ctx
  | .executing executing => do
      let verified ← resumeVerify call.engines call.envelope executing call.readings.now
      persist actionId verified.intoContext
  | .settled ctx => persist actionId ctx
  | .returned ctx => return ctx
  | .failed failure _ => throw failure

/-- The part between two awaits is the head of what is left. -/
theorem remainder_advance :
    call.remainder hash actionId (call.advance hash actionId state phase).2 (call.advance hash actionId state phase).1 =
      call.remainder hash actionId phase state := by
  cases phase with
  | entered =>
    unfold advance attempt remainder resumeWithBinding
    dsimp only
    rw [bind_apply]
    cases loadPending actionId state <;> rfl
  | loaded stored =>
    unfold advance attempt remainder
    dsimp only
    rw [bind_apply]
    cases consumeForResume hash call.engines call.envelope call.context call.bindingId call.readings stored state
      <;> rfl
  | approved ctx =>
    unfold advance attempt remainder resumeFromApproved
    dsimp only
    rw [bind_assoc, bind_apply]
    cases resumeQueue call.engines call.envelope ctx call.readings.now call.readings.admitted state with
    | error failure after => rfl
    | ok queued after =>
      dsimp only
      split_ifs <;> rfl
  | queued ctx =>
    unfold advance attempt remainder resumeFromQueued
    dsimp only
    rw [bind_assoc, bind_apply]
    cases resumeExecute call.engines call.envelope ctx call.readings.now state with
    | error failure after => rfl
    | ok executed after =>
      dsimp only
      split_ifs
      · simp only [bind_assoc, pure_bind]
      · rfl
  | executing ctx =>
    unfold advance attempt remainder
    dsimp only
    rw [bind_apply]
    cases resumeVerify call.engines call.envelope ctx call.readings.now state <;> rfl
  | settled ctx => rfl
  | returned ctx => rfl
  | failed failure pastQueue => rfl

theorem rank_attempt {α : Type} {program : RuntimeM α} {next : α → ResumePhase} {pastQueue : Bool}
    {state : RuntimeState} {least : ℕ} (later : ∀ value, least ≤ (next value).rank) :
    min 6 least ≤ (attempt program next pastQueue state).2.rank := by
  unfold attempt
  cases program state with
  | ok value after => exact Nat.le_trans (Nat.min_le_right 6 least) (later value)
  | error failure after => exact Nat.min_le_left 6 least

/-- Each part brings a call forward. -/
theorem rank_advance : min 6 (phase.rank + 1) ≤ (call.advance hash actionId state phase).2.rank := by
  cases phase with
  | entered => exact rank_attempt fun _ => Nat.le_refl 1
  | loaded stored => exact rank_attempt fun _ => Nat.le_refl 2
  | approved ctx =>
    apply rank_attempt
    intro queued
    split_ifs
    · exact Nat.le_refl 3
    · exact Nat.le_add_right 3 2
  | queued ctx =>
    apply rank_attempt
    intro executed
    split_ifs
    · exact Nat.le_refl 4
    · exact Nat.le_add_right 4 1
  | executing ctx => exact rank_attempt fun _ => Nat.le_refl 5
  | settled ctx => exact rank_attempt fun _ => Nat.le_refl 6
  | returned ctx => exact Nat.le_refl 6
  | failed failure pastQueue => exact Nat.le_refl 6

/-- A call that has ended has its answer. -/
theorem remainder_of_ended {phase : ResumePhase} (ended : 6 ≤ phase.rank) (state : RuntimeState) :
    finalState (call.remainder hash actionId phase state) = state ∧
      phase.answer = some (outcome id (call.remainder hash actionId phase state)) := by
  cases phase with
  | returned ctx => exact ⟨rfl, rfl⟩
  | failed failure pastQueue => exact ⟨rfl, rfl⟩
  | _ => simp [ResumePhase.rank] at ended

end ResumeCall

/-! ## Interleavings -/

/-- The runtime and the phase of each call under way. -/
structure Interleaving (ι : Type) where
  runtime : RuntimeState
  phases : ι → ResumePhase

/-- One call goes on to its next await, or the operator acts on the sink. -/
inductive Move (ι : Type) where
  | call (index : ι)
  | sink (op : SinkOp)

section Interleave

variable {ι : Type} [DecidableEq ι] (hash : RequestHash) (actionId : ActionId) (calls : ι → ResumeCall)

def Interleaving.move (system : Interleaving ι) : Move ι → Interleaving ι
  | .call index =>
      let (runtime, phase) := (calls index).advance hash actionId system.runtime (system.phases index)
      { runtime, phases := Function.update system.phases index phase }
  | .sink op => { system with runtime := system.runtime.onSink op }

theorem Interleaving.move_phases (system : Interleaving ι) (index other : ι) :
    (system.move hash actionId calls (.call index)).phases other =
      if other = index then ((calls index).advance hash actionId system.runtime (system.phases index)).2
      else system.phases other :=
  Function.update_apply ..

/-- The calls all enter in one state, and move in the given order. -/
def interleave (start : RuntimeState) (moves : List (Move ι)) : Interleaving ι :=
  StepRun.run (Interleaving.move hash actionId calls) ⟨start, fun _ => .entered⟩ moves

/-- Taken by itself, a call is what is left of it at every await. -/
theorem interleave_replicate (start : RuntimeState) (index : ι) (count : ℕ) :
    let system := interleave hash actionId calls start (.replicate count (.call index))
    min 6 count ≤ (system.phases index).rank ∧
      (calls index).remainder hash actionId (system.phases index) system.runtime =
        resumeWithBinding hash (calls index).engines actionId (calls index).envelope (calls index).context
          (calls index).bindingId (calls index).readings start := by
  induction count with
  | zero => exact ⟨Nat.le_refl 0, rfl⟩
  | succ count ih =>
    obtain ⟨bounded, same⟩ := ih
    have grown : interleave hash actionId calls start (.replicate (count + 1) (.call index)) =
        (interleave hash actionId calls start (.replicate count (.call index))).move hash actionId calls
          (.call index) := by
      rw [List.replicate_succ', interleave, StepRun.run_append]
      rfl
    rw [grown]
    generalize interleave hash actionId calls start (.replicate count (.call index)) = system at bounded same
    dsimp only
    rw [Interleaving.move_phases, if_pos rfl]
    constructor
    · have forward := (calls index).rank_advance hash actionId system.runtime (system.phases index)
      omega
    · rw [← same]
      exact (calls index).remainder_advance hash actionId system.runtime (system.phases index)

/-- Six parts without an interruption make up `resume_with_binding`. -/
theorem interleave_uninterrupted (start : RuntimeState) (index : ι) :
    let system := interleave hash actionId calls start (.replicate 6 (.call index))
    let result := resumeWithBinding hash (calls index).engines actionId (calls index).envelope (calls index).context
      (calls index).bindingId (calls index).readings start
    system.runtime = finalState result ∧ (system.phases index).answer = some (outcome id result) := by
  obtain ⟨ended, same⟩ := interleave_replicate hash actionId calls start index 6
  obtain ⟨runtime, answer⟩ := (calls index).remainder_of_ended hash actionId ended
    (interleave hash actionId calls start (.replicate 6 (.call index))).runtime
  rw [same] at runtime answer
  exact ⟨runtime.symm, answer⟩

end Interleave

/-! ## Executions on a walk -/

/-- How often an action has entered EXECUTING. -/
def executions (actionId : ActionId) (changes : List StatusChange) : ℕ :=
  changes.countP fun change => change.actionId = actionId ∧ change.target = .executing

theorem executions_append (actionId : ActionId) (first second : List StatusChange) :
    executions actionId (first ++ second) = executions actionId first + executions actionId second :=
  List.countP_append

/-- The statuses from EXECUTING on. -/
def Underway (status : ActionLifecycleState) : Prop :=
  status = .executing ∨ status = .verifying ∨ status = .succeeded ∨ RollbackHalt status

/-- The table has no way back to EXECUTING. -/
theorem underway_of_listed {source target : ActionLifecycleState} (listed : (source, target) ∈ TRANSITIONS)
    (underway : Underway source) : Underway target ∧ target ≠ .executing := by
  unfold Underway RollbackHalt at *
  rcases underway with rfl | rfl | rfl | rfl | rfl | rfl <;> cases target <;> revert listed <;> decide

/-- A walk enters EXECUTING at most once, and is underway from there on. -/
theorem Walk.executions_le {ownId : ActionId} {start finish : ActionLifecycleState} {changes : List StatusChange}
    (walked : Walk ownId start changes finish) (actionId : ActionId) :
    executions actionId changes = 0 ∨ executions actionId changes = 1 ∧ Underway finish := by
  induction walked with
  | nil => exact .inl rfl
  | @snoc changes source target walked listed ih =>
    rw [executions_append]
    have last : executions actionId [⟨ownId, source, target⟩] = 0 ∨
        executions actionId [⟨ownId, source, target⟩] = 1 ∧ target = .executing := by
      unfold executions
      rw [List.countP_singleton]
      split_ifs with entered
      · exact .inr ⟨rfl, (of_decide_eq_true entered).2⟩
      · exact .inl rfl
    rcases ih with none | ⟨once, underway⟩
    · rcases last with other | ⟨entered, reached⟩
      · exact .inl (by omega)
      · exact .inr ⟨by omega, .inl reached⟩
    · obtain ⟨still, other⟩ := underway_of_listed listed underway
      rcases last with none | ⟨-, reached⟩
      · exact .inr ⟨by omega, still⟩
      · exact absurd reached other

namespace Journey

variable {journey : Journey} {status : ActionLifecycleState} {state : RuntimeState}

theorem Reaches.executions_le (reaches : journey.Reaches status state) (actionId : ActionId) :
    executions actionId state.statusChanges ≤ executions actionId journey.before.statusChanges + 1 := by
  obtain ⟨changes, recorded, walked, -⟩ := reaches
  rw [recorded, executions_append]
  rcases walked.executions_le actionId with none | ⟨once, -⟩ <;> omega

theorem Reaches.executions_eq (reaches : journey.Reaches status state) (never : ¬ journey.mayExecute)
    (actionId : ActionId) :
    executions actionId state.statusChanges = executions actionId journey.before.statusChanges := by
  obtain ⟨changes, recorded, -, guarded⟩ := reaches
  have none : executions actionId changes = 0 := by
    apply List.countP_eq_zero.mpr
    intro change mem entered
    exact never (guarded change mem (of_decide_eq_true entered).2)
  rw [recorded, executions_append, none, Nat.add_zero]

end Journey

/-! ## What one part of a call does -/

/-- The copy of the context a call works on. -/
structure Carries (actionId : ActionId) (status : ActionLifecycleState) (ctx : ActionContext) : Prop where
  ownId : ctx.actionId = actionId
  reached : ctx.status = status
  unrolled : ctx.rollbackOutcome = none

def ResumePhase.Sound (actionId : ActionId) : ResumePhase → Prop
  | loaded stored => Carries actionId .approvalPending stored
  | approved ctx => Carries actionId .approved ctx
  | queued ctx => Carries actionId .queued ctx
  | executing ctx => Carries actionId .executing ctx
  | settled ctx => ctx.AtRest actionId
  | _ => True

theorem Carries.begun {actionId : ActionId} {status : ActionLifecycleState} {ctx : ActionContext}
    (carries : Carries actionId status ctx) (state : RuntimeState) (may : Prop) :
    (Journey.mk state actionId status may).At ctx state := by
  refine ⟨carries.ownId, ⟨[], (List.append_nil _).symm, ?_, by simp⟩, .inl carries.unrolled⟩
  rw [carries.reached]
  exact .nil

/-- One part of a call keeps the invariants of its phase, and says when it takes the approval and when it
enters EXECUTING. -/
structure Advances (hash : RequestHash) (actionId : ActionId) (call : ResumeCall) (state : RuntimeState)
    (phase : ResumePhase) (after : RuntimeState × ResumePhase) : Prop where
  atRest : after.1.AtRest
  sound : after.2.Sound actionId
  holds : after.2.holdsApproval = true → phase.holdsApproval = true ∨ call.takesApproval hash state phase = true
  past : phase.pastQueue = true → after.2.pastQueue = true
  executed : executions actionId after.1.statusChanges = executions actionId state.statusChanges ∨
    (∃ ctx, phase = .queued ctx) ∧ after.2.pastQueue = true ∧
      executions actionId after.1.statusChanges ≤ executions actionId state.statusChanges + 1

theorem atRest_of_contexts {state after : RuntimeState} (atRest : state.AtRest)
    (same : after.contexts = state.contexts) : after.AtRest := by
  unfold RuntimeState.AtRest
  rw [same]
  exact atRest

section Advance

variable {hash : RequestHash} {actionId : ActionId} {call : ResumeCall} {state : RuntimeState}

variable {phase : ResumePhase} {status : ActionLifecycleState} {stored ctx : ActionContext}

/-- A pipeline step of a call that holds its approval. Only the execute step may enter EXECUTING. -/
theorem attempt_advances (may : Prop) {program : RuntimeM PipelineState} {next halt : ActionLifecycleState → Prop}
    {sequel : PipelineState → ResumePhase} {pastQueue : Bool} (atRest : state.AtRest)
    (carries : Carries actionId status ctx) (holding : phase.holdsApproval = true)
    (steps : (Journey.mk state actionId status may).Steps ctx program next halt)
    (keeps : Keeps RuntimeState.records program)
    (sound : ∀ step : PipelineState, step.intoContext.actionId = actionId →
      (step.intoContext.rollbackOutcome = none ∨ RollbackHalt step.intoContext.status) → Leads next halt step →
      (sequel step).Sound actionId)
    (past : phase.pastQueue = true → pastQueue = true ∧ ∀ step, (sequel step).pastQueue = true)
    (enters : may → (∃ ctx, phase = .queued ctx) ∧ pastQueue = true ∧ ∀ step, (sequel step).pastQueue = true) :
    Advances hash actionId call state phase (attempt program sequel pastQueue state) := by
  have executed {after : RuntimeState} {reached : ActionLifecycleState}
      (reaches : (Journey.mk state actionId status may).Reaches reached after) :
      executions actionId after.statusChanges = executions actionId state.statusChanges ∨
        may ∧ executions actionId after.statusChanges ≤ executions actionId state.statusChanges + 1 := by
    by_cases allowed : may
    · exact .inr ⟨allowed, reaches.executions_le actionId⟩
    · exact .inl (reaches.executions_eq allowed actionId)
  have framed := steps.frame keeps state.records state ⟨carries.begun state may, rfl⟩
  unfold attempt
  generalize program state = result at framed
  cases result with
  | ok step after =>
    obtain ⟨⟨⟨own, reaches, unrolled⟩, leads⟩, kept⟩ := framed
    constructor
    · exact atRest_of_contexts atRest (congrArg Prod.fst kept)
    · exact sound step own unrolled leads
    · exact fun _ => .inl holding
    · exact fun behind => (past behind).2 step
    · rcases executed reaches with same | ⟨allowed, once⟩
      · exact .inl same
      · exact .inr ⟨(enters allowed).1, (enters allowed).2.2 step, once⟩
  | error failure after =>
    obtain ⟨⟨-, reached, reaches⟩, kept⟩ := framed
    constructor
    · exact atRest_of_contexts atRest (congrArg Prod.fst kept)
    · trivial
    · exact fun _ => .inl holding
    · exact fun behind => (past behind).1
    · rcases executed reaches with same | ⟨allowed, once⟩
      · exact .inl same
      · exact .inr ⟨(enters allowed).1, (enters allowed).2.1, once⟩

theorem load_advances (atRest : state.AtRest) :
    Advances hash actionId call state .entered (call.advance hash actionId state .entered) := by
  unfold ResumeCall.advance attempt
  rcases loadPending_apply actionId state with ⟨⟨failure, refused⟩, -⟩ | ⟨stored, loaded, -, recorded, pending⟩
  · rw [refused]
    exact ⟨atRest, trivial, nofun, nofun, .inl rfl⟩
  · rw [loaded]
    have rested := atRest actionId stored recorded
    exact ⟨atRest, ⟨rested.ownId, pending, rested.unrolled_of_pending pending⟩, nofun, nofun, .inl rfl⟩

/-- The consume part fails on a refused binding, and otherwise takes the approval; only its receipt can
still fail. -/
theorem consume_cases (pending : stored.status = .approvalPending) :
    (call.takesApproval hash state (.loaded stored) = false ∧ ∃ failure log sink,
        Faded call.bindingId state.approvalSink sink ∧
        call.advance hash actionId state (.loaded stored) =
          ({ state with evidenceLog := log, approvalSink := sink }, .failed failure false)) ∨
      (call.takesApproval hash state (.loaded stored) = true ∧ ∃ log phase,
        ((∃ failure, phase = .failed failure false) ∨
          ∃ chain, phase = .approved { stored.approvedAt call.readings.now with evidenceChain := chain }) ∧
        call.advance hash actionId state (.loaded stored) =
          ({ state.approving stored.actionId call.bindingId with evidenceLog := log }, phase)) := by
  unfold ResumeCall.takesApproval ResumeCall.advance attempt
  dsimp only
  cases presented : presentedBinding hash call.engines call.envelope call.context call.bindingId
    call.readings state with
  | none =>
    obtain ⟨failure, log, sink, faded, refused⟩ := consumeForResume_of_refused stored presented
    rw [refused]
    exact .inl ⟨rfl, failure, log, sink, faded, rfl⟩
  | some binding =>
    right
    rw [consumeForResume_of_presented pending presented]
    rcases announceGrant_cases call.engines.evidenceEmitter binding (stored.approvedAt call.readings.now)
      (state.approving stored.actionId call.bindingId) with ⟨failure, unreceipted⟩ | ⟨chain, log, announced⟩
    · rw [unreceipted]
      exact ⟨rfl, _, _, .inl ⟨failure, rfl⟩, rfl⟩
    · rw [announced]
      exact ⟨rfl, log, _, .inr ⟨chain, rfl⟩, rfl⟩

theorem executions_approving (actionId ownId : ActionId) (bindingId : String) (state : RuntimeState) :
    executions actionId (state.approving ownId bindingId).statusChanges =
      executions actionId state.statusChanges := by
  unfold RuntimeState.approving
  rw [executions_append]
  simp [executions]

theorem consume_advances (atRest : state.AtRest) (carries : Carries actionId .approvalPending stored) :
    Advances hash actionId call state (.loaded stored) (call.advance hash actionId state (.loaded stored)) := by
  rcases consume_cases carries.reached with
    ⟨-, failure, log, sink, -, refused⟩ | ⟨taken, log, phase, ⟨failure, rfl⟩ | ⟨chain, rfl⟩, consumed⟩
  · rw [refused]
    exact ⟨atRest, trivial, nofun, nofun, .inl rfl⟩
  · rw [consumed]
    exact ⟨atRest, trivial, nofun, nofun, .inl (executions_approving actionId stored.actionId call.bindingId state)⟩
  · rw [consumed]
    exact ⟨atRest, ⟨carries.ownId, rfl, carries.unrolled⟩, fun _ => .inr taken, nofun,
      .inl (executions_approving actionId stored.actionId call.bindingId state)⟩

/-- Where a call goes on after a step that reaches its status or fails the action. -/
theorem sequel_sound {going : ActionContext → ResumePhase} (running : ¬ RollbackHalt status)
    (goes : ∀ ctx, Carries actionId status ctx → (going ctx).Sound actionId) (step : PipelineState)
    (own : step.intoContext.actionId = actionId)
    (unrolled : step.intoContext.rollbackOutcome = none ∨ RollbackHalt step.intoContext.status)
    (leads : Leads (· = status) (· = .failed) step) :
    (if step.intoContext.status = status then going step.intoContext
      else .settled step.intoContext).Sound actionId := by
  split_ifs with reached
  · refine goes _ ⟨own, reached, unrolled.resolve_right ?_⟩
    rw [reached]
    exact running
  · cases step with
    | continueWith ctx => exact absurd leads reached
    | shortCircuit ctx => exact ⟨own, settled_of_failed leads, unrolled⟩

theorem queue_advances (atRest : state.AtRest) (carries : Carries actionId .approved ctx) :
    Advances hash actionId call state (.approved ctx) (call.advance hash actionId state (.approved ctx)) := by
  apply attempt_advances False atRest carries rfl (resumeQueue_steps carries.reached)
    (bystander_records.resumeQueue_keeps fun _ _ => rfl)
  · exact sequel_sound (by unfold RollbackHalt; decide) fun _ carries => carries
  · exact nofun
  · exact nofun

theorem execute_advances (atRest : state.AtRest) (carries : Carries actionId .queued ctx) :
    Advances hash actionId call state (.queued ctx) (call.advance hash actionId state (.queued ctx)) := by
  apply attempt_advances True atRest carries rfl (resumeExecute_steps carries.reached trivial)
    bystander_records.resumeExecute_keeps
  · exact sequel_sound (by unfold RollbackHalt; decide) fun _ carries => carries
  · exact nofun
  · intro _
    refine ⟨⟨ctx, rfl⟩, rfl, fun step => ?_⟩
    split_ifs <;> rfl

theorem verify_advances (atRest : state.AtRest) (carries : Carries actionId .executing ctx) :
    Advances hash actionId call state (.executing ctx) (call.advance hash actionId state (.executing ctx)) := by
  refine attempt_advances False atRest carries rfl (resumeVerify_steps carries.reached)
    bystander_records.resumeVerify_keeps ?_ (fun _ => ⟨rfl, fun _ => rfl⟩) nofun
  rintro (failed | succeeded) own unrolled leads
  · exact ⟨own, settled_of_failed leads, unrolled⟩
  · exact ⟨own, .inr (.inl leads), unrolled⟩

/-- What every part of a call does. -/
theorem advance_advances (atRest : state.AtRest) (sound : phase.Sound actionId) :
    Advances hash actionId call state phase (call.advance hash actionId state phase) := by
  cases phase with
  | entered => exact load_advances atRest
  | loaded stored => exact consume_advances atRest sound
  | approved ctx => exact queue_advances atRest sound
  | queued ctx => exact execute_advances atRest sound
  | executing ctx => exact verify_advances atRest sound
  | settled ctx =>
    have records : Records actionId state { state with contexts := state.contexts.insert actionId ctx } :=
      .inr ⟨ctx, sound, rfl⟩
    exact ⟨records.atRest atRest, trivial, fun _ => .inl rfl, fun _ => rfl, .inl rfl⟩
  | returned ctx => exact ⟨atRest, trivial, .inl, id, .inl rfl⟩
  | failed failure pastQueue => exact ⟨atRest, trivial, .inl, id, .inl rfl⟩

end Advance

/-! ## At most one execution -/

section Exclusive

variable {ι : Type}

/-- No other call holds the approval of the action when a call takes it. -/
def TakesAlone (hash : RequestHash) (calls : ι → ResumeCall) (system : Interleaving ι) : Move ι → Prop
  | .call index => (calls index).takesApproval hash system.runtime (system.phases index) = true →
      ∀ other, other ≠ index → (system.phases other).holdsApproval = false
  | .sink _ => True

/-- One call at most holds the approval, and the action has been executed only if that call is past its
queue step. -/
structure Exclusive (actionId : ActionId) (start : RuntimeState) (system : Interleaving ι) : Prop where
  atRest : system.runtime.AtRest
  sound : ∀ index, (system.phases index).Sound actionId
  unique : ∀ first second, (system.phases first).holdsApproval = true → (system.phases second).holdsApproval = true →
    first = second
  budget : executions actionId system.runtime.statusChanges = executions actionId start.statusChanges ∨
    (∃ index, (system.phases index).pastQueue = true) ∧
      executions actionId system.runtime.statusChanges ≤ executions actionId start.statusChanges + 1

theorem holdsApproval_of_pastQueue {phase : ResumePhase} (past : phase.pastQueue = true) :
    phase.holdsApproval = true := by
  cases phase with
  | approved ctx => rfl
  | queued ctx => rfl
  | _ => exact past

variable {hash : RequestHash} {actionId : ActionId} {calls : ι → ResumeCall} {start : RuntimeState}
  {system : Interleaving ι}

theorem Exclusive.entered (atRest : start.AtRest) :
    Exclusive actionId start (⟨start, fun _ => .entered⟩ : Interleaving ι) where
  atRest := atRest
  sound _ := trivial
  unique _ _ held := by cases held
  budget := .inl rfl

theorem Exclusive.executions_le (exclusive : Exclusive actionId start system) :
    executions actionId system.runtime.statusChanges ≤ executions actionId start.statusChanges + 1 := by
  rcases exclusive.budget with unspent | ⟨-, once⟩
  · omega
  · exact once

/-- A call that holds the approval after its part excludes every other one. -/
theorem Exclusive.excludes (exclusive : Exclusive actionId start system) {index other : ι}
    (alone : TakesAlone hash calls system (.call index)) (apart : other ≠ index)
    (held : ((calls index).advance hash actionId system.runtime (system.phases index)).2.holdsApproval = true) :
    (system.phases other).holdsApproval = false := by
  have advances : Advances hash actionId (calls index) system.runtime (system.phases index) _ :=
    advance_advances exclusive.atRest (exclusive.sound index)
  rcases advances.holds held with before | taken
  · rw [← Bool.not_eq_true]
    exact fun elsewhere => apart (exclusive.unique other index elsewhere before)
  · exact alone taken other apart

variable [DecidableEq ι]

theorem Exclusive.call (exclusive : Exclusive actionId start system) {index : ι}
    (alone : TakesAlone hash calls system (.call index)) :
    Exclusive actionId start (system.move hash actionId calls (.call index)) := by
  have advances : Advances hash actionId (calls index) system.runtime (system.phases index) _ :=
    advance_advances exclusive.atRest (exclusive.sound index)
  constructor
  · exact advances.atRest
  · intro other
    rw [Interleaving.move_phases]
    split_ifs
    · exact advances.sound
    · exact exclusive.sound other
  · intro first second heldFirst heldSecond
    rw [Interleaving.move_phases] at heldFirst heldSecond
    split_ifs at heldFirst heldSecond with hereFirst hereSecond hereSecond
    · rw [hereFirst, hereSecond]
    · rw [exclusive.excludes alone hereSecond heldFirst] at heldSecond
      cases heldSecond
    · rw [exclusive.excludes alone hereFirst heldSecond] at heldFirst
      cases heldFirst
    · exact exclusive.unique first second heldFirst heldSecond
  · have budget := exclusive.budget
    rcases advances.executed with same | ⟨⟨ctx, queued⟩, past, once⟩
    · rw [← same] at budget
      refine budget.imp_right fun ⟨⟨holder, past⟩, spent⟩ => ⟨⟨holder, ?_⟩, spent⟩
      rw [Interleaving.move_phases]
      split_ifs with here
      · exact advances.past (here ▸ past)
      · exact past
    · right
      refine ⟨⟨index, ?_⟩, ?_⟩
      · rw [Interleaving.move_phases, if_pos rfl]
        exact past
      · rcases budget with unspent | ⟨⟨holder, spent⟩, -⟩
        · rw [← unspent]
          exact once
        · -- A call past its queue step holds the approval, as this one does.
          have same : holder = index := by
            apply exclusive.unique holder index (holdsApproval_of_pastQueue spent)
            rw [queued]
            rfl
          rw [same, queued] at spent
          cases spent

theorem Exclusive.move (exclusive : Exclusive actionId start system) {move : Move ι}
    (alone : TakesAlone hash calls system move) : Exclusive actionId start (system.move hash actionId calls move) := by
  cases move with
  | call index => exact exclusive.call alone
  | sink op => exact ⟨exclusive.atRest, exclusive.sound, exclusive.unique, exclusive.budget⟩

end Exclusive

/-- In every interleaving of resume calls for one action, from every reachable state, in which no call
takes the approval while another one holds it, the action enters EXECUTING at most once. -/
theorem executions_le_of_takesAlone {ι : Type} [DecidableEq ι] (hash : RequestHash)
    (capacities : Option (QueueClass → ℕ)) (withSink : Bool) (history : List RuntimeOp) (actionId : ActionId)
    (calls : ι → ResumeCall) {moves : List (Move ι)}
    (alone : StepRun.Along (Interleaving.move hash actionId calls) (TakesAlone hash calls)
      ⟨runFrom hash (.launched capacities withSink) history, fun _ => .entered⟩ moves) :
    ∀ before, before <+: moves →
      executions actionId (interleave hash actionId calls
          (runFrom hash (.launched capacities withSink) history) before).runtime.statusChanges ≤
        executions actionId (runFrom hash (.launched capacities withSink) history).statusChanges + 1 := by
  have atRest := runFrom_atRest hash (launched_atRest capacities withSink) history
  generalize runFrom hash (.launched capacities withSink) history = start at alone atRest
  have exclusive : ∀ before, before <+: moves →
      Exclusive actionId start (interleave hash actionId calls start before) := by
    apply StepRun.run_invariant_cut (Exclusive actionId start)
    · exact Exclusive.entered atRest
    · intro before move rest split reached
      exact reached.move ((StepRun.along_iff_cut _ _ _ _).mp alone before move rest split)
  exact fun before cut => (exclusive before cut).executions_le

/-! ## Two bindings of one request -/

/-- A restart waits for its approval, and two bindings are granted on its request. -/
def grantedTwice : List RuntimeOp :=
  [.submit humanApproval plainRestart humanContext (callAt 0 "act_1" "apr_1"),
    .sink (.grant "apr_1" "human:operator" .human "bnd_1" 1),
    .sink (.grant "apr_1" "human:operator" .human "bnd_2" 1)]

/-- Two calls resume the restart, each with its own binding. -/
def twoResumes (second : Bool) : ResumeCall where
  engines := humanApproval
  envelope := plainRestart
  context := humanContext
  bindingId := if second then "bnd_2" else "bnd_1"
  readings := callAt 2 "act_2" "apr_2"

/-- Both calls load the pending context, and then the first one runs to its end. -/
def firstWins : List (Move Bool) := [.call false, .call true] ++ List.replicate 5 (.call false)

theorem executions_le_firstWins :
    executions "act_1" (interleave plainRestartHash "act_1" twoResumes
        (runFrom plainRestartHash (.launched none true) grantedTwice) firstWins).runtime.statusChanges ≤
      executions "act_1" (runFrom plainRestartHash (.launched none true) grantedTwice).statusChanges + 1 := by
  apply executions_le_of_takesAlone plainRestartHash none true grantedTwice "act_1" twoResumes _ firstWins
    (List.prefix_refl firstWins)
  unfold firstWins
  refine ⟨?_, ?_, ?_, ?_, ?_, ?_, ?_, trivial⟩
  · exact nofun
  · exact nofun
  · exact fun _ other _ => by cases other <;> rfl
  · exact nofun
  · exact nofun
  · exact nofun
  · exact nofun

/-- Both calls load the pending context before either stores one, and both execute it. -/
theorem executions_twice_with_two_bindings :
    executions "act_1" (runFrom plainRestartHash (.launched none true) grantedTwice).statusChanges = 0 ∧
      executions "act_1" (interleave plainRestartHash "act_1" twoResumes
        (runFrom plainRestartHash (.launched none true) grantedTwice)
        (firstWins ++ List.replicate 5 (.call true))).runtime.statusChanges = 2 := by
  constructor <;> decide

/-! ## One binding -/

section OneBinding

variable {hash : RequestHash} {actionId : ActionId} {call : ResumeCall} {state : RuntimeState}

variable {phase : ResumePhase}

theorem attempt_sink {α : Type} {program : RuntimeM α} (keeps : Keeps RuntimeState.records program)
    (next : α → ResumePhase) (pastQueue : Bool) :
    (attempt program next pastQueue state).1.approvalSink = state.approvalSink := by
  have kept := keeps state
  unfold attempt
  generalize program state = result at kept
  cases result with
  | ok value after => exact congrArg Prod.snd kept
  | error failure after => exact congrArg Prod.snd kept

/-- A part of a call that does not take the approval grants nothing. -/
theorem advance_faded (sound : phase.Sound actionId) (kept : call.takesApproval hash state phase = false) :
    Faded call.bindingId state.approvalSink (call.advance hash actionId state phase).1.approvalSink := by
  cases phase with
  | entered =>
    left
    unfold ResumeCall.advance attempt
    rcases loadPending_apply actionId state with ⟨⟨failure, refused⟩, -⟩ | ⟨stored, loaded, -⟩
    · rw [refused]
    · rw [loaded]
  | loaded stored =>
    have carries : Carries actionId .approvalPending stored := sound
    rcases consume_cases carries.reached with ⟨-, failure, log, sink, faded, refused⟩ | ⟨taken, -⟩
    · rw [refused]
      exact faded
    · rw [kept] at taken
      cases taken
  | approved ctx => exact .inl (attempt_sink (bystander_records.resumeQueue_keeps fun _ _ => rfl) _ _)
  | queued ctx => exact .inl (attempt_sink bystander_records.resumeExecute_keeps _ _)
  | executing ctx => exact .inl (attempt_sink bystander_records.resumeVerify_keeps _ _)
  | _ => exact .inl rfl

theorem spent_of_faded {after : RuntimeState} {named bindingId : String}
    (faded : Faded named state.approvalSink after.approvalSink) (spent : Spent bindingId state) :
    Spent bindingId after := by
  obtain ⟨sink, binding, attached, stored, used⟩ := spent
  rw [attached] at faded
  rcases faded with same | ⟨held, eq, reached, other, changed⟩
  · exact ⟨sink, binding, same, stored, used⟩
  · obtain rfl := Option.some.inj eq
    by_cases here : bindingId = named
    · refine ⟨_, { binding with state := reached }, changed, ?_, other⟩
      rw [Table.lookup_modify, if_pos here, ← here, stored]
      rfl
    · refine ⟨_, binding, changed, ?_, used⟩
      rw [Table.lookup_modify, if_neg here]
      exact stored

/-- A spent binding is not handed out again. -/
theorem takesApproval_of_spent (spent : Spent call.bindingId state) : call.takesApproval hash state phase = false := by
  cases phase with
  | loaded stored =>
    unfold ResumeCall.takesApproval
    dsimp only
    cases presented : presentedBinding hash call.engines call.envelope call.context call.bindingId
      call.readings state with
    | none => rfl
    | some binding =>
      obtain ⟨sink, attached, -, lookup, granted, -⟩ := presentedBinding_eq_some.mp presented
      obtain ⟨held, found, attached', stored, used⟩ := spent
      rw [attached] at attached'
      obtain rfl := Option.some.inj attached'
      rw [lookup] at stored
      obtain rfl := Option.some.inj stored
      exact absurd granted used
  | _ => rfl

/-- The part of a call that takes the approval spends its binding. -/
theorem spent_of_takesApproval (sound : phase.Sound actionId) (taken : call.takesApproval hash state phase = true) :
    Spent call.bindingId (call.advance hash actionId state phase).1 := by
  cases phase with
  | loaded stored =>
    have carries : Carries actionId .approvalPending stored := sound
    rcases consume_cases carries.reached with ⟨kept, -⟩ | ⟨-, log, phase, -, consumed⟩
    · rw [kept] at taken
      cases taken
    · obtain ⟨binding, presented⟩ := Option.isSome_iff_exists.mp taken
      obtain ⟨sink, attached, -, lookup, -⟩ := presentedBinding_eq_some.mp presented
      rw [consumed]
      refine ⟨sink.spent call.bindingId, { binding with state := .consumed }, ?_, ?_, nofun⟩
      · unfold RuntimeState.approving
        rw [attached]
        rfl
      · unfold InMemoryApprovalSink.spent
        rw [Table.lookup_modify, if_pos rfl, lookup]
        rfl
  | _ => cases taken

end OneBinding

section OneBindingRuns

variable {ι : Type} [DecidableEq ι] {hash : RequestHash} {actionId : ActionId} {calls : ι → ResumeCall}
  {start : RuntimeState} {bindingId : String} {system : Interleaving ι}

/-- While a call holds the approval, the binding of all calls is spent. -/
structure OneBinding (actionId : ActionId) (start : RuntimeState) (bindingId : String) (system : Interleaving ι) : Prop
    extends Exclusive actionId start system where
  spent : ∀ index, (system.phases index).holdsApproval = true → Spent bindingId system.runtime

theorem OneBinding.call (one : OneBinding actionId start bindingId system) {index : ι}
    (same : (calls index).bindingId = bindingId) :
    OneBinding actionId start bindingId (system.move hash actionId calls (.call index)) := by
  have alone : TakesAlone hash calls system (.call index) := by
    intro taken other _
    rw [← Bool.not_eq_true]
    intro held
    rw [takesApproval_of_spent (same ▸ one.spent other held)] at taken
    cases taken
  refine ⟨one.toExclusive.call alone, ?_⟩
  have advances : Advances hash actionId (calls index) system.runtime (system.phases index) _ :=
    advance_advances one.atRest (one.sound index)
  intro holder held
  by_cases taken : (calls index).takesApproval hash system.runtime (system.phases index) = true
  · rw [← same]
    exact spent_of_takesApproval (one.sound index) taken
  · rw [Bool.not_eq_true] at taken
    have before : ∃ earlier, (system.phases earlier).holdsApproval = true := by
      rw [Interleaving.move_phases] at held
      split_ifs at held
      · rcases advances.holds held with before | now
        · exact ⟨index, before⟩
        · rw [taken] at now
          cases now
      · exact ⟨holder, held⟩
    obtain ⟨earlier, before⟩ := before
    exact spent_of_faded (advance_faded (one.sound index) taken) (one.spent earlier before)

theorem OneBinding.sink (one : OneBinding actionId start bindingId system) {op : SinkOp}
    (fresh : (RuntimeOp.sink op).mintedBinding ≠ some bindingId) :
    OneBinding actionId start bindingId (system.move hash actionId calls (.sink op)) := by
  refine ⟨⟨one.atRest, one.sound, one.unique, one.budget⟩, fun index held => ?_⟩
  exact step_spent hash one.atRest (one.spent index held) fresh

/-- Calls that present one binding execute the action at most once, in every interleaving. -/
theorem executions_le_of_one_binding (hash : RequestHash) (capacities : Option (QueueClass → ℕ)) (withSink : Bool)
    (history : List RuntimeOp) (actionId : ActionId) {calls : ι → ResumeCall} {bindingId : String}
    (same : ∀ index, (calls index).bindingId = bindingId) {moves : List (Move ι)}
    (fresh : ∀ op, .sink op ∈ moves → (RuntimeOp.sink op).mintedBinding ≠ some bindingId) :
    executions actionId (interleave hash actionId calls
        (runFrom hash (.launched capacities withSink) history) moves).runtime.statusChanges ≤
      executions actionId (runFrom hash (.launched capacities withSink) history).statusChanges + 1 := by
  have atRest := runFrom_atRest hash (launched_atRest capacities withSink) history
  generalize runFrom hash (.launched capacities withSink) history = start at atRest
  have one : ∀ before, before <+: moves →
      OneBinding actionId start bindingId (interleave hash actionId calls start before) := by
    apply StepRun.run_invariant_cut (OneBinding actionId start bindingId)
    · refine ⟨Exclusive.entered atRest, ?_⟩
      intro index held
      cases held
    · intro before move rest split reached
      cases move with
      | call index => exact reached.call (same index)
      | sink op =>
        apply reached.sink
        apply fresh
        rw [split]
        simp
  exact (one moves (List.prefix_refl moves)).executions_le

theorem executions_le_with_one_binding :
    executions "act_1" (interleave plainRestartHash "act_1" (fun _ : Bool => twoResumes false)
        (runFrom plainRestartHash (.launched none true) grantedTwice) firstWins).runtime.statusChanges ≤
      executions "act_1" (runFrom plainRestartHash (.launched none true) grantedTwice).statusChanges + 1 :=
  executions_le_of_one_binding plainRestartHash none true grantedTwice "act_1" (fun _ => rfl) (by simp [firstWins])

end OneBindingRuns

end Aios.Runtime
