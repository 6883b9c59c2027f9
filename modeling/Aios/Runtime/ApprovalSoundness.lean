import Aios.Runtime.Agreement
import Aios.Runtime.ApprovalLinks

/-! # Soundness of approvals

A run of `ExecuteAction` calls and sink operations. A call that resumes an action takes it past
APPROVAL_PENDING on the strength of the binding it names. What the runtime checks by itself is that the
binding is granted, unexpired and unspent and that it carries the hash of the resumed request. That the
binding belongs to the action, and that its approver is one the requirement asks for, is up to the
caller: the handler passes an empty context, and the consume step never looks at the action of a
binding.
-/

namespace Aios.Runtime

open Aios.Rust Aios.Action Aios.Policy Stateful Journey

section

variable (hash : RequestHash) (service : CapabilityRuntimeService)

/-! ## Runs of the service -/

inductive RpcOp where
  | execute (engines : Engines) (request : ExecuteActionRequest) (readings : CallReadings)
  | sink (op : SinkOp)

def rpcStep (state : RuntimeState) : RpcOp → RuntimeState
  | .execute engines request readings => finalState (executeAction hash service engines request readings state)
  | .sink op => state.onSink op

def rpcRun (start : RuntimeState) (ops : List RpcOp) : RuntimeState :=
  StepRun.run (rpcStep hash service) start ops

/-- Whether the handler routes a request to the resume path. -/
def ExecuteActionRequest.resumes (request : ExecuteActionRequest) : Bool :=
  !isBlank request.approvalBindingId && !isBlank request.actionRequestId

/-- The runtime call behind an RPC. -/
def RpcOp.toRuntime : RpcOp → RuntimeOp
  | .execute engines request readings =>
      if request.resumes then
        .resume engines request.actionRequestId request.envelope (service.buildContext request.envelope)
          request.approvalBindingId readings
      else .submit engines request.envelope (service.buildContext request.envelope) readings
  | .sink op => .sink op

end

variable {hash : RequestHash} {service : CapabilityRuntimeService}

theorem rpcStep_eq (state : RuntimeState) (op : RpcOp) :
    rpcStep hash service state op = step hash state (op.toRuntime service) := by
  cases op with
  | execute engines request readings =>
    unfold rpcStep executeAction RpcOp.toRuntime ExecuteActionRequest.resumes
    dsimp only
    split_ifs <;> rfl
  | sink op => rfl

theorem rpcRun_eq (start : RuntimeState) (ops : List RpcOp) :
    rpcRun hash service start ops = runFrom hash start (ops.map (RpcOp.toRuntime service)) := by
  induction ops generalizing start with
  | nil => rfl
  | cons op rest ih =>
    unfold rpcRun runFrom at ih ⊢
    rw [List.map_cons, StepRun.run_cons, StepRun.run_cons, rpcStep_eq]
    exact ih _

/-! ## Taking an action past APPROVAL_PENDING -/

/-- Between two states the action has left APPROVAL_PENDING. -/
def TakesPast (actionId : ActionId) (before after : RuntimeState) : Prop :=
  ∃ changes, after.statusChanges = before.statusChanges ++ changes ∧
    ∃ change ∈ changes, change.actionId = actionId ∧ change.source = .approvalPending

/-- A resume call takes its action past APPROVAL_PENDING exactly when the action waits there and the
binding is handed out and accepted. -/
theorem takesPast_iff {engines : Engines} {actionId : ActionId} {envelope : ActionEnvelope} {context : RuntimeContext}
    {bindingId : String} {readings : CallReadings} {state : RuntimeState} (atRest : state.AtRest) :
    TakesPast actionId state (step hash state (.resume engines actionId envelope context bindingId readings)) ↔
      ∃ stored binding, state.contexts.lookup actionId = some stored ∧ stored.status = .approvalPending ∧
        presentedBinding hash engines envelope context bindingId readings state = some binding := by
  have unmoved {after : RuntimeState} (same : after.statusChanges = state.statusChanges) :
      ¬ TakesPast actionId state after := by
    rintro ⟨changes, grown, change, mem, -⟩
    rw [same] at grown
    rw [List.self_eq_append_right.mp grown] at mem
    cases mem
  rcases resumeWithBinding_effect atRest with
    ⟨same, unready⟩ | ⟨stored, -, -, refused, log, left, -, ended⟩ |
      ⟨stored, binding, recorded, pending, presented, -, grown, -⟩
  · constructor
    · exact fun past => absurd past (unmoved (congrArg RuntimeState.statusChanges same))
    · rintro ⟨stored, binding, recorded, pending, presented⟩
      obtain ⟨sink, attached, -⟩ := presentedBinding_eq_some.mp presented
      rcases unready with detached | other
      · rw [attached] at detached
        cases detached
      · exact absurd pending (other stored recorded)
  · have kept := congrArg RuntimeState.statusChanges ended
    constructor
    · exact fun past => absurd past (unmoved kept)
    · rintro ⟨-, binding, -, -, presented⟩
      rw [refused] at presented
      cases presented
  · constructor
    · exact fun _ => ⟨stored, binding, recorded, pending, presented⟩
    · intro _
      obtain ⟨rest, grown⟩ := grown
      refine ⟨⟨actionId, .approvalPending, .approved⟩ :: rest, ?_, _, List.mem_cons_self, rfl, rfl⟩
      rw [List.append_cons]
      exact grown.symm

/-! ## Soundness -/

/-- In no state of the run so far has the binding been consumed. -/
def NeverConsumed (hash : RequestHash) (service : CapabilityRuntimeService) (start : RuntimeState)
    (before : List RpcOp) (bindingId : String) : Prop :=
  ∀ earlier, earlier <+: before → ∀ sink binding, (rpcRun hash service start earlier).approvalSink = some sink →
    sink.bindings.lookup bindingId = some binding → binding.state ≠ .consumed

/-- The binding a resume consumes was granted on the one request of the resumed action, is unexpired and
has never been consumed, carries the hash of the resumed request, and was granted by an approver of a
class the action's requirement lists, other than the proposer of an AI action. -/
def ApprovalSound (hash : RequestHash) (service : CapabilityRuntimeService) (start : RuntimeState) (before : List RpcOp)
    (request : ExecuteActionRequest) (readings : CallReadings) : Prop :=
  ∃ sink binding approval, (rpcRun hash service start before).approvalSink = some sink ∧
    sink.bindings.lookup request.approvalBindingId = some binding ∧
    sink.requests.lookup binding.requestId = some approval ∧
    approval.actionId = request.actionRequestId ∧
    (∀ other held, sink.requests.lookup other = some held → held.actionId = request.actionRequestId → held = approval) ∧
    binding.state = .granted ∧ readings.consumedAt < binding.expiresAt ∧
    NeverConsumed hash service start before request.approvalBindingId ∧
    binding.boundActionCanonicalHash = canonicalHash hash request.envelope ∧
    binding.grantedByClass ∈ approval.requirement.approverClasses ∧
    (approval.proposingSubjectIsAi = true → binding.grantedBy ≠ approval.proposingSubjectId)

/-- What the caller has to see to: the binding names the resumed action; its approver class is one its
request asks for; a binding that an AI proposer granted itself is presented under that AI identity,
where the runtime refuses it; and the binding carries a hash where the resumed request has one. -/
def BindingFits (hash : RequestHash) (state : RuntimeState) (request : ExecuteActionRequest)
    (binding : ApprovalBinding) : Prop :=
  binding.actionId = request.actionRequestId ∧
    (∀ sink approval, state.approvalSink = some sink → sink.requests.lookup binding.requestId = some approval →
      binding.grantedByClass ∈ approval.requirement.approverClasses ∧
      (approval.proposingSubjectIsAi = true → binding.grantedBy = approval.proposingSubjectId →
        request.envelope.identity.isAi = true ∧
          request.envelope.identity.subjectCanonicalId = approval.proposingSubjectId)) ∧
    (binding.boundActionCanonicalHash = "" → canonicalHash hash request.envelope = "")

section Cut

variable {capacities : Option (QueueClass → ℕ)} {withSink : Bool} {before : List RpcOp} {engines : Engines}
  {request : ExecuteActionRequest} {readings : CallReadings} {context : RuntimeContext} {binding : ApprovalBinding}

theorem neverConsumed_of_granted {ops : List RpcOp} (minted : MintedApart (ops.map (RpcOp.toRuntime service)))
    (cut : before <+: ops) {bindingId : String} {sink : InMemoryApprovalSink}
    (attached : (rpcRun hash service (.launched capacities withSink) before).approvalSink = some sink)
    (stored : sink.bindings.lookup bindingId = some binding) (granted : binding.state = .granted) :
    NeverConsumed hash service (.launched capacities withSink) before bindingId := by
  intro earlier since past old held found consumed
  rw [rpcRun_eq] at held attached
  have spent : Spent bindingId
      (runFrom hash (.launched capacities withSink) (earlier.map (RpcOp.toRuntime service))) :=
    ⟨past, old, held, found, by rw [consumed]; decide⟩
  obtain ⟨now, current, reached, lookup, used⟩ :=
    runFrom_spent hash minted capacities withSink spent (since.map _) (cut.map _)
  rw [attached] at reached
  obtain rfl := Option.some.inj reached
  rw [stored] at lookup
  obtain rfl := Option.some.inj lookup
  exact used granted

/-- At a resume whose binding is accepted, soundness is what is left to the caller. -/
theorem approvalSound_iff_fits {ops : List RpcOp} (minted : MintedApart (ops.map (RpcOp.toRuntime service)))
    (cut : before <+: ops)
    (presented : presentedBinding hash engines request.envelope context request.approvalBindingId readings
      (rpcRun hash service (.launched capacities withSink) before) = some binding) :
    ApprovalSound hash service (.launched capacities withSink) before request readings ↔
      BindingFits hash (rpcRun hash service (.launched capacities withSink) before) request binding := by
  obtain ⟨sink, attached, -, stored, granted, unexpired, accepted⟩ := presentedBinding_eq_some.mp presented
  have linked : Linked (before.map (RpcOp.toRuntime service)) sink := by
    apply runFrom_linked hash minted capacities withSink _ (cut.map _)
    rw [← rpcRun_eq]
    exact attached
  obtain ⟨approval, filed, forAction⟩ := linked.asked stored
  simp only [bindingAccepted, Bool.and_eq_true, Bool.or_eq_true, Bool.not_eq_true', Bool.and_eq_false_imp,
    decide_eq_true_eq, decide_eq_false_iff_not] at accepted
  obtain ⟨⟨hashes, apart⟩, -⟩ := accepted
  constructor
  · rintro ⟨held, own, asked, reached, found, lookup, forOwn, -, -, -, -, hashed, listed, foreign⟩
    rw [attached] at reached
    obtain rfl := Option.some.inj reached
    rw [stored] at found
    obtain rfl := Option.some.inj found
    refine ⟨?_, ?_, ?_⟩
    · rw [filed] at lookup
      obtain rfl := Option.some.inj lookup
      exact forAction.symm.trans forOwn
    · intro other answered reached' found'
      rw [attached] at reached'
      obtain rfl := Option.some.inj reached'
      rw [lookup] at found'
      obtain rfl := Option.some.inj found'
      exact ⟨listed, fun ai self => absurd self (foreign ai)⟩
    · intro empty
      rw [← hashed, empty]
  · rintro ⟨forOwn, approver, hashed⟩
    obtain ⟨listed, presentedAs⟩ := approver sink approval attached filed
    refine ⟨sink, binding, approval, attached, stored, filed, forAction.trans forOwn, ?_, granted, unexpired,
      neverConsumed_of_granted minted cut attached stored granted, ?_, listed, ?_⟩
    · intro other held found same
      exact linked.unique filed found (same.trans (forAction.trans forOwn).symm)
    · rcases hashes with empty | same
      · rw [empty, hashed empty]
      · exact same.symm
    · intro ai self
      obtain ⟨isAi, subject⟩ := presentedAs ai self
      exact apart isAi (self.trans subject.symm)

end Cut

section Runs

variable (hash : RequestHash) (service : CapabilityRuntimeService) (start : RuntimeState) (ops : List RpcOp)

/-- Every resume of the run that takes its action past APPROVAL_PENDING does so on a sound approval. -/
def ApprovalsSound : Prop :=
  ∀ before engines request readings after, ops = before ++ .execute engines request readings :: after →
    request.resumes = true →
    TakesPast request.actionRequestId (rpcRun hash service start before)
      (rpcStep hash service (rpcRun hash service start before) (.execute engines request readings)) →
    ApprovalSound hash service start before request readings

/-- Every binding the run hands out to a resume of a pending action fits it. -/
def BindingsFit : Prop :=
  ∀ before engines request readings after, ops = before ++ .execute engines request readings :: after →
    request.resumes = true → ∀ stored binding,
    (rpcRun hash service start before).contexts.lookup request.actionRequestId = some stored →
    stored.status = .approvalPending →
    presentedBinding hash engines request.envelope (service.buildContext request.envelope) request.approvalBindingId
      readings (rpcRun hash service start before) = some binding →
    BindingFits hash (rpcRun hash service start before) request binding

end Runs

/-- Along every run with distinct ids, every resume that takes an action past APPROVAL_PENDING is sound
exactly when every binding handed out to a resume of a pending action fits it. -/
theorem approvalsSound_iff (hash : RequestHash) (service : CapabilityRuntimeService)
    (capacities : Option (QueueClass → ℕ)) (withSink : Bool) {ops : List RpcOp}
    (minted : MintedApart (ops.map (RpcOp.toRuntime service))) :
    ApprovalsSound hash service (.launched capacities withSink) ops ↔
      BindingsFit hash service (.launched capacities withSink) ops := by
  have past_iff {before : List RpcOp} {engines : Engines} {request : ExecuteActionRequest} {readings : CallReadings}
      (resumes : request.resumes = true) :
      TakesPast request.actionRequestId (rpcRun hash service (.launched capacities withSink) before)
          (rpcStep hash service (rpcRun hash service (.launched capacities withSink) before)
            (.execute engines request readings)) ↔
        ∃ stored binding,
          (rpcRun hash service (.launched capacities withSink) before).contexts.lookup request.actionRequestId =
            some stored ∧ stored.status = .approvalPending ∧
          presentedBinding hash engines request.envelope (service.buildContext request.envelope)
            request.approvalBindingId readings (rpcRun hash service (.launched capacities withSink) before) =
              some binding := by
    have atRest : (rpcRun hash service (.launched capacities withSink) before).AtRest := by
      rw [rpcRun_eq]
      exact runFrom_atRest hash (launched_atRest capacities withSink) _
    rw [rpcStep_eq]
    unfold RpcOp.toRuntime
    dsimp only
    rw [if_pos resumes]
    exact takesPast_iff atRest
  constructor
  · intro sound before engines request readings after split resumes stored binding recorded pending presented
    have cut : before <+: ops := ⟨_, split.symm⟩
    rw [← approvalSound_iff_fits minted cut presented]
    apply sound before engines request readings after split resumes
    exact (past_iff resumes).mpr ⟨stored, binding, recorded, pending, presented⟩
  · intro fits before engines request readings after split resumes past
    obtain ⟨stored, binding, recorded, pending, presented⟩ := (past_iff resumes).mp past
    have cut : before <+: ops := ⟨_, split.symm⟩
    rw [approvalSound_iff_fits minted cut presented]
    exact fits before engines request readings after split resumes stored binding recorded pending presented

/-! ## Bindings that do not fit -/

def runtimeService : CapabilityRuntimeService where
  defaultSubject := humanContext.subject
  bundleVersion := "polb_t035_acc"
  codeVersion := "aios-policy/0.1.0-T025"

/-- One proposer submits the same restart twice, and a binding is granted on one of the requests. -/
def restartsThenGrant (proposer : Identity) (requestId grantedBy : String) (grantedByClass : ApproverClass) :
    List RpcOp :=
  [.execute humanApproval { envelope := { plainRestart with identity := proposer } } (callAt 0 "act_1" "apr_1"),
    .execute humanApproval { envelope := { plainRestart with identity := proposer } } (callAt 1 "act_2" "apr_2"),
    .sink (.grant requestId grantedBy grantedByClass "bnd_1" 2)]

/-- The first restart is resumed with the binding, by a human. -/
def resumeFirst : ExecuteActionRequest where
  envelope := plainRestart
  actionRequestId := "act_1"
  approvalBindingId := "bnd_1"

/-- The restarts, a grant by a human on the first request, and its resume. -/
def resumedRestart : List RpcOp :=
  restartsThenGrant { subjectCanonicalId := "human:lucky", isAi := false } "apr_1" "human:operator" .human ++
    [.execute humanApproval resumeFirst (callAt 3 "act_3" "apr_3")]

theorem approvalsSound_resumedRestart :
    MintedApart (resumedRestart.map (RpcOp.toRuntime runtimeService)) ∧
      ApprovalsSound plainRestartHash runtimeService (.launched none true) resumedRestart := by
  have minted : MintedApart (resumedRestart.map (RpcOp.toRuntime runtimeService)) :=
    ⟨by decide, by decide, by decide⟩
  refine ⟨minted, (approvalsSound_iff plainRestartHash runtimeService none true minted).mpr ?_⟩
  intro before engines request readings after split resumes stored binding recorded pending presented
  rcases before with _ | ⟨first, _ | ⟨second, _ | ⟨third, _ | ⟨fourth, rest⟩⟩⟩⟩
  · cases split
    cases resumes
  · cases split
    cases resumes
  · cases split
  · cases split
    cases presented
    refine ⟨rfl, ?_, ?_⟩
    · intro sink approval attached filed
      cases attached
      cases filed
      exact ⟨by decide, fun ai => by cases ai⟩
    · intro empty
      exact absurd empty (by decide)
  · have shorter := congrArg List.length split
    simp [resumedRestart, restartsThenGrant] at shorter

/-- The resume of the first restart gets through, and its binding is no sound approval. -/
def UnsoundAfter (before : List RpcOp) : Prop :=
  TakesPast "act_1" (rpcRun plainRestartHash runtimeService (.launched none true) before)
      (rpcStep plainRestartHash runtimeService (rpcRun plainRestartHash runtimeService (.launched none true) before)
        (.execute humanApproval resumeFirst (callAt 3 "act_3" "apr_3"))) ∧
    ¬ ApprovalSound plainRestartHash runtimeService (.launched none true) before resumeFirst (callAt 3 "act_3" "apr_3")

/-- What a sink knows about the binding of the runs above. -/
def bindingRecord (state : RuntimeState) : Option (ApprovalBinding × ApprovalRequest) :=
  state.approvalSink.bind fun sink => (sink.bindings.lookup "bnd_1").bind fun binding =>
    (sink.requests.lookup binding.requestId).map fun approval => (binding, approval)

theorem bindingRecord_of_sound {before : List RpcOp}
    (sound : ApprovalSound plainRestartHash runtimeService (.launched none true) before resumeFirst
      (callAt 3 "act_3" "apr_3")) :
    ∃ binding approval,
      bindingRecord (rpcRun plainRestartHash runtimeService (.launched none true) before) = some (binding, approval) ∧
      approval.actionId = "act_1" ∧ binding.grantedByClass ∈ approval.requirement.approverClasses ∧
      (approval.proposingSubjectIsAi = true → binding.grantedBy ≠ approval.proposingSubjectId) := by
  obtain ⟨sink, binding, approval, attached, stored, filed, forOwn, -, -, -, -, -, listed, foreign⟩ := sound
  refine ⟨binding, approval, ?_, forOwn, listed, foreign⟩
  have held : sink.bindings.lookup "bnd_1" = some binding := stored
  simp [bindingRecord, attached, held, filed]

/-- The course of the first restart once its approval is taken. -/
def resumedChanges : List StatusChange :=
  [⟨"act_1", .approvalPending, .approved⟩, ⟨"act_1", .approved, .queued⟩, ⟨"act_1", .queued, .executing⟩,
    ⟨"act_1", .executing, .verifying⟩, ⟨"act_1", .verifying, .succeeded⟩]

/-- The binding of the second restart resumes the first; a class the requirement does not list approves;
and an AI proposer approves its own restart once it is resumed under another identity. -/
theorem approvalSound_fails_on_restart :
    UnsoundAfter (restartsThenGrant { subjectCanonicalId := "human:lucky", isAi := false } "apr_2"
      "human:operator" .human) ∧
      UnsoundAfter (restartsThenGrant { subjectCanonicalId := "human:lucky", isAi := false } "apr_1"
        "service:cron" .service) ∧
      UnsoundAfter (restartsThenGrant { subjectCanonicalId := "agent:dev", isAi := true } "apr_1" "agent:dev"
        .human) := by
  have approved {before : List RpcOp}
      (moved : (rpcStep plainRestartHash runtimeService
          (rpcRun plainRestartHash runtimeService (.launched none true) before)
          (.execute humanApproval resumeFirst (callAt 3 "act_3" "apr_3"))).statusChanges =
        (rpcRun plainRestartHash runtimeService (.launched none true) before).statusChanges ++ resumedChanges) :
      TakesPast "act_1" (rpcRun plainRestartHash runtimeService (.launched none true) before)
        (rpcStep plainRestartHash runtimeService (rpcRun plainRestartHash runtimeService (.launched none true) before)
          (.execute humanApproval resumeFirst (callAt 3 "act_3" "apr_3"))) :=
    ⟨resumedChanges, moved, _, List.mem_cons_self, rfl, rfl⟩
  refine ⟨⟨approved rfl, fun sound => ?_⟩, ⟨approved rfl, fun sound => ?_⟩, ⟨approved rfl, fun sound => ?_⟩⟩
  · obtain ⟨binding, approval, record, forOwn, -, -⟩ := bindingRecord_of_sound sound
    cases record
    revert forOwn
    decide
  · obtain ⟨binding, approval, record, -, listed, -⟩ := bindingRecord_of_sound sound
    cases record
    revert listed
    decide
  · obtain ⟨binding, approval, record, -, -, foreign⟩ := bindingRecord_of_sound sound
    cases record
    exact foreign rfl rfl

end Aios.Runtime
