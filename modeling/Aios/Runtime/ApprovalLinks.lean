import Aios.Runtime.Runs

/-! # Requests, bindings and minted ids

What one operation does to the approval sink: it files a request under a minted id, grants a binding
under a minted id, rewrites a binding without granting it, or leaves the sink alone. Along a run whose
minted ids are distinct, every binding stays linked to the request it was granted on, an action has at
most one request, and a binding that is no longer granted never becomes granted again.
-/

namespace Aios.Runtime

open Aios.Rust Aios.Action Aios.Policy Stateful Journey

/-! ## Minted ids -/

namespace RuntimeOp

def mintedAction : RuntimeOp → Option ActionId
  | submit _ _ _ readings => some readings.actionId
  | _ => none

def mintedRequest : RuntimeOp → Option String
  | submit _ _ _ readings => some readings.requestId
  | _ => none

def mintedBinding : RuntimeOp → Option String
  | sink (.grant _ _ _ bindingId _) => some bindingId
  | _ => none

end RuntimeOp

section

variable {op : RuntimeOp} {state : RuntimeState} {sink after : InMemoryApprovalSink} {bindingId : String}
  (hash : RequestHash)

/-- The ULIDs minted along a run are distinct. -/
structure MintedApart (ops : List RuntimeOp) : Prop where
  actions : (ops.filterMap RuntimeOp.mintedAction).Nodup
  requests : (ops.filterMap RuntimeOp.mintedRequest).Nodup
  bindings : (ops.filterMap RuntimeOp.mintedBinding).Nodup

/-- An id minted by an operation occurs neither before nor after it. -/
theorem minted_fresh {mints : RuntimeOp → Option String} {before after : List RuntimeOp}
    (distinct : ((before ++ op :: after).filterMap mints).Nodup) {id : String} (minted : mints op = some id) :
    id ∉ before.filterMap mints ∧ id ∉ after.filterMap mints := by
  rw [List.filterMap_append, List.filterMap_cons_some minted] at distinct
  have apart := List.nodup_append.mp distinct
  constructor
  · intro held
    exact apart.2.2 id held id List.mem_cons_self rfl
  · exact (List.nodup_cons.mp apart.2.1).1

/-! ## What an operation does to the sink -/

/-- A rewrite of a binding that keeps what it was granted on and grants nothing. -/
def Gentle (update : ApprovalBinding → ApprovalBinding) : Prop :=
  ∀ binding, (update binding).requestId = binding.requestId ∧ (update binding).actionId = binding.actionId ∧
    ((update binding).state = .granted → binding.state = .granted)

inductive SinkEffect : RuntimeOp → InMemoryApprovalSink → InMemoryApprovalSink → Prop
  | same (op : RuntimeOp) (sink : InMemoryApprovalSink) : SinkEffect op sink sink
  | rewrite (op : RuntimeOp) (sink : InMemoryApprovalSink) (bindingId : String)
      {update : ApprovalBinding → ApprovalBinding} (gentle : Gentle update) :
      SinkEffect op sink { sink with bindings := sink.bindings.modify bindingId update }
  | ask {engines : Engines} {envelope : ActionEnvelope} {context : RuntimeContext} {readings : CallReadings}
      (sink : InMemoryApprovalSink) {request : ApprovalRequest} (minted : request.requestId = readings.requestId)
      (own : request.actionId = readings.actionId) :
      SinkEffect (.submit engines envelope context readings) sink (sink.submitRequest request)
  | grant {requestId grantedBy : String} {grantedByClass : ApproverClass} {bindingId : String} {now : DateTime}
      (sink : InMemoryApprovalSink) {request : ApprovalRequest} {binding : ApprovalBinding}
      {requestToBinding : Table String String} (asked : sink.requests.lookup requestId = some request)
      (onRequest : binding.requestId = requestId) (forAction : binding.actionId = request.actionId) :
      SinkEffect (.sink (.grant requestId grantedBy grantedByClass bindingId now)) sink
        { sink with bindings := sink.bindings.insert bindingId binding, requestToBinding := requestToBinding }

theorem gentle_state {state : ApprovalBindingState} (other : state ≠ .granted) :
    Gentle fun binding => { binding with state := state } :=
  fun _ => ⟨rfl, rfl, fun granted => absurd granted other⟩

theorem force_effect {update : ApprovalBinding → ApprovalBinding} (gentle : Gentle update)
    (forced : sink.force bindingId update = .ok after) : SinkEffect op sink after := by
  unfold InMemoryApprovalSink.force at forced
  split at forced
  · cases forced
  · cases forced
    exact .rewrite op sink bindingId gentle

theorem perform_effect {op : SinkOp} (performed : op.perform sink = .ok after) : SinkEffect (.sink op) sink after := by
  cases op with
  | grant requestId grantedBy grantedByClass bindingId now =>
    unfold SinkOp.perform InMemoryApprovalSink.injectGrantedBinding at performed
    dsimp only at performed
    cases asked : sink.requests.lookup requestId with
    | none =>
      rw [asked] at performed
      cases performed
    | some request =>
      rw [asked] at performed
      cases performed
      exact .grant sink asked rfl rfl
  | expire bindingId now =>
    have gentle : Gentle fun binding => { binding with expiresAt := now - seconds 1 } :=
      fun _ => ⟨rfl, rfl, fun granted => granted⟩
    exact force_effect gentle performed
  | deny bindingId => exact force_effect (gentle_state (by decide)) performed
  | suspend bindingId => exact force_effect (gentle_state (by decide)) performed

theorem faded_effect {after : Option InMemoryApprovalSink} (faded : Faded bindingId (some sink) after) :
    ∃ left, after = some left ∧ SinkEffect op sink left := by
  rcases faded with rfl | ⟨held, attached, state, other, rfl⟩
  · exact ⟨sink, rfl, .same op sink⟩
  · obtain rfl := Option.some.inj attached
    exact ⟨_, rfl, .rewrite op sink bindingId (gentle_state other)⟩

/-- Every operation has one of the four effects on the attached sink. -/
theorem step_sinkEffect (atRest : state.AtRest) (op : RuntimeOp) (attached : state.approvalSink = some sink) :
    ∃ after, (step hash state op).approvalSink = some after ∧ SinkEffect op sink after := by
  cases op with
  | submit engines envelope context readings =>
    rcases submitAction_effect state with kept | ⟨ctx, requirement, own, asked, -⟩ | ⟨ctx, -, -, -, kept⟩
    · exact ⟨sink, (congrArg Prod.snd kept).trans attached, .same _ sink⟩
    · rw [attached] at asked
      exact ⟨_, asked, .ask sink rfl own⟩
    · exact ⟨sink, kept.trans attached, .same _ sink⟩
  | resume engines actionId envelope context bindingId readings =>
    rcases resumeWithBinding_effect atRest with
      ⟨same, -⟩ | ⟨stored, -, -, -, log, left, faded, refused⟩ | ⟨stored, binding, -, -, -, spent, -, -⟩
    · exact ⟨sink, (congrArg RuntimeState.approvalSink same).trans attached, .same _ sink⟩
    · rw [attached] at faded
      obtain ⟨after, rfl, effect⟩ := faded_effect faded
      exact ⟨after, congrArg RuntimeState.approvalSink refused, effect⟩
    · rw [attached] at spent
      exact ⟨_, spent, .rewrite _ sink bindingId (gentle_state (by decide))⟩
  | sink op =>
    unfold step RuntimeState.onSink
    dsimp only
    rw [attached, Option.map_some]
    cases answered : op.perform sink with
    | error failure => exact ⟨sink, rfl, .same _ sink⟩
    | ok after => exact ⟨after, rfl, perform_effect answered⟩

/-- A runtime without a sink stays without one. -/
theorem step_unattached (atRest : state.AtRest) (op : RuntimeOp) (detached : state.approvalSink = none) :
    (step hash state op).approvalSink = none := by
  cases op with
  | submit engines envelope context readings =>
    rcases submitAction_effect state with kept | ⟨ctx, requirement, own, asked, -⟩ | ⟨ctx, -, -, -, kept⟩
    · exact (congrArg Prod.snd kept).trans detached
    · rw [detached] at asked
      exact asked
    · exact kept.trans detached
  | resume engines actionId envelope context bindingId readings =>
    rcases resumeWithBinding_effect atRest with
      ⟨same, -⟩ | ⟨stored, -, -, -, log, left, faded, refused⟩ | ⟨stored, binding, -, -, -, spent, -, -⟩
    · exact (congrArg RuntimeState.approvalSink same).trans detached
    · rcases faded with rfl | ⟨sink, attached, -⟩
      · exact (congrArg RuntimeState.approvalSink refused).trans detached
      · rw [detached] at attached
        cases attached
    · rw [detached] at spent
      exact spent
  | sink op =>
    unfold step RuntimeState.onSink
    dsimp only
    rw [detached]
    rfl

/-! ## Links -/

/-- The requests and bindings of a sink, after a history of operations. -/
structure Linked (history : List RuntimeOp) (sink : InMemoryApprovalSink) : Prop where
  requestMinted : ∀ {id request}, sink.requests.lookup id = some request →
    id ∈ history.filterMap RuntimeOp.mintedRequest ∧ request.actionId ∈ history.filterMap RuntimeOp.mintedAction
  unique : ∀ {id other request held}, sink.requests.lookup id = some request → sink.requests.lookup other = some held →
    held.actionId = request.actionId → held = request
  bindingMinted : ∀ {id binding}, sink.bindings.lookup id = some binding →
    id ∈ history.filterMap RuntimeOp.mintedBinding
  asked : ∀ {id binding}, sink.bindings.lookup id = some binding →
    ∃ request, sink.requests.lookup binding.requestId = some request ∧ request.actionId = binding.actionId

theorem linked_empty : Linked [] {} where
  requestMinted found := by cases found
  unique found := by cases found
  bindingMinted found := by cases found
  asked found := by cases found

end

variable {history : List RuntimeOp} {op : RuntimeOp} {sink after : InMemoryApprovalSink}

variable {ops : List RuntimeOp} {bindingId : String} (hash : RequestHash)

theorem mem_minted_snoc {mints : RuntimeOp → Option String} {id : String}
    (minted : id ∈ history.filterMap mints ∨ mints op = some id) : id ∈ (history ++ [op]).filterMap mints := by
  rw [List.filterMap_append, List.mem_append]
  rcases minted with earlier | now
  · exact .inl earlier
  · right
    rw [List.filterMap_cons_some now]
    exact List.mem_cons_self

theorem Linked.rewrite (linked : Linked history sink) {bindingId : String}
    {update : ApprovalBinding → ApprovalBinding} (gentle : Gentle update) :
    Linked history { sink with bindings := sink.bindings.modify bindingId update } := by
  have origin : ∀ {id binding}, (sink.bindings.modify bindingId update).lookup id = some binding →
      ∃ old, sink.bindings.lookup id = some old ∧ binding.requestId = old.requestId ∧
        binding.actionId = old.actionId := by
    intro id binding found
    rw [Table.lookup_modify] at found
    split_ifs at found with here
    · obtain ⟨old, held, rfl⟩ := Option.map_eq_some_iff.mp found
      rw [here]
      exact ⟨old, held, (gentle old).1, (gentle old).2.1⟩
    · exact ⟨binding, found, rfl, rfl⟩
  constructor
  · exact linked.requestMinted
  · exact linked.unique
  · intro id binding found
    obtain ⟨old, held, -, -⟩ := origin found
    exact linked.bindingMinted held
  · intro id binding found
    obtain ⟨old, held, sameRequest, sameAction⟩ := origin found
    rw [sameRequest, sameAction]
    exact linked.asked held

theorem Linked.later (linked : Linked history sink) (op : RuntimeOp) : Linked (history ++ [op]) sink where
  requestMinted found :=
    ⟨mem_minted_snoc (.inl (linked.requestMinted found).1), mem_minted_snoc (.inl (linked.requestMinted found).2)⟩
  unique := linked.unique
  bindingMinted found := mem_minted_snoc (.inl (linked.bindingMinted found))
  asked := linked.asked

/-- A request under a fresh id for a fresh action. -/
theorem Linked.ask (linked : Linked history sink) {request : ApprovalRequest}
    (minted : op.mintedRequest = some request.requestId) (own : op.mintedAction = some request.actionId)
    (freshRequest : request.requestId ∉ history.filterMap RuntimeOp.mintedRequest)
    (freshAction : request.actionId ∉ history.filterMap RuntimeOp.mintedAction) :
    Linked (history ++ [op]) (sink.submitRequest request) := by
  have stored : ∀ {id held}, (sink.submitRequest request).requests.lookup id = some held →
      held = request ∧ id = request.requestId ∨ sink.requests.lookup id = some held := by
    intro id held found
    unfold InMemoryApprovalSink.submitRequest at found
    dsimp only at found
    rw [Table.lookup_insert_eq] at found
    split_ifs at found with here
    · exact .inl ⟨(Option.some.inj found).symm, here⟩
    · exact .inr found
  have fresh : ∀ {id held}, sink.requests.lookup id = some held → held.actionId ≠ request.actionId := by
    intro id held found same
    exact freshAction (same ▸ (linked.requestMinted found).2)
  constructor
  · intro id held found
    rcases stored found with ⟨rfl, rfl⟩ | earlier
    · exact ⟨mem_minted_snoc (.inr minted), mem_minted_snoc (.inr own)⟩
    · exact (linked.later op).requestMinted earlier
  · intro id other first second found found' same
    rcases stored found with ⟨rfl, -⟩ | earlier <;> rcases stored found' with ⟨rfl, -⟩ | earlier'
    · rfl
    · exact absurd same (fresh earlier')
    · exact absurd same.symm (fresh earlier)
    · exact linked.unique earlier earlier' same
  · exact (linked.later op).bindingMinted
  · intro id binding found
    obtain ⟨asked, filed, forAction⟩ := linked.asked found
    refine ⟨asked, ?_, forAction⟩
    have other : binding.requestId ≠ request.requestId := by
      intro same
      exact freshRequest (same ▸ (linked.requestMinted filed).1)
    unfold InMemoryApprovalSink.submitRequest
    dsimp only
    rw [Table.lookup_insert_eq, if_neg other]
    exact filed

theorem Linked.grant (linked : Linked history sink) {bindingId : String} {request : ApprovalRequest}
    {binding : ApprovalBinding} {requestToBinding : Table String String} (minted : op.mintedBinding = some bindingId)
    (asked : sink.requests.lookup binding.requestId = some request) (forAction : binding.actionId = request.actionId) :
    Linked (history ++ [op])
      { sink with bindings := sink.bindings.insert bindingId binding, requestToBinding := requestToBinding } := by
  have later := linked.later op
  constructor
  · exact later.requestMinted
  · exact later.unique
  · intro id held found
    dsimp only at found
    rw [Table.lookup_insert_eq] at found
    split_ifs at found with here
    · rw [here]
      exact mem_minted_snoc (.inr minted)
    · exact later.bindingMinted found
  · intro id held found
    dsimp only at found
    rw [Table.lookup_insert_eq] at found
    split_ifs at found with here
    · obtain rfl := Option.some.inj found
      exact ⟨request, asked, forAction.symm⟩
    · exact linked.asked found

theorem SinkEffect.linked (effect : SinkEffect op sink after) (linked : Linked history sink)
    (freshAction : ∀ id, op.mintedAction = some id → id ∉ history.filterMap RuntimeOp.mintedAction)
    (freshRequest : ∀ id, op.mintedRequest = some id → id ∉ history.filterMap RuntimeOp.mintedRequest) :
    Linked (history ++ [op]) after := by
  cases effect with
  | same => exact linked.later op
  | rewrite _ _ bindingId gentle => exact (linked.rewrite gentle).later op
  | ask _ minted own =>
    apply linked.ask
    · exact congrArg some minted.symm
    · exact congrArg some own.symm
    · exact freshRequest _ (congrArg some minted.symm)
    · exact freshAction _ (congrArg some own.symm)
  | grant _ asked onRequest forAction =>
    rw [← onRequest] at asked
    exact linked.grant rfl asked forAction

def SinkLinked (history : List RuntimeOp) (state : RuntimeState) : Prop :=
  ∀ sink, state.approvalSink = some sink → Linked history sink

/-- Along a run with distinct ids, the attached sink stays linked. -/
theorem runFrom_linked (minted : MintedApart ops) (capacities : Option (QueueClass → ℕ)) (withSink : Bool) :
    ∀ before, before <+: ops → SinkLinked before (runFrom hash (.launched capacities withSink) before) := by
  apply StepRun.run_invariant_along SinkLinked
  · intro sink attached
    cases withSink with
    | false => cases attached
    | true =>
      cases attached
      exact linked_empty
  · intro before op rest split linked sink reached
    have atRest : (runFrom hash (.launched capacities withSink) before).AtRest :=
      runFrom_atRest hash (launched_atRest capacities withSink) before
    rw [split] at minted
    cases held : (runFrom hash (.launched capacities withSink) before).approvalSink with
    | none =>
      have detached := step_unattached hash atRest op held
      rw [show (step hash (runFrom hash (.launched capacities withSink) before) op).approvalSink =
        some sink from reached]
        at detached
      cases detached
    | some earlier =>
      obtain ⟨after, attached, effect⟩ := step_sinkEffect hash atRest op held
      rw [show (step hash (runFrom hash (.launched capacities withSink) before) op).approvalSink =
        some sink from reached]
        at attached
      obtain rfl := Option.some.inj attached
      apply effect.linked (linked earlier held)
      · exact fun id own => (minted_fresh minted.actions own).1
      · exact fun id own => (minted_fresh minted.requests own).1

/-! ## Once spent, never granted -/

/-- The binding is stored and not granted. -/
def Spent (bindingId : String) (state : RuntimeState) : Prop :=
  ∃ sink binding, state.approvalSink = some sink ∧ sink.bindings.lookup bindingId = some binding ∧
    binding.state ≠ .granted

theorem step_spent {state : RuntimeState} (atRest : state.AtRest) (spent : Spent bindingId state)
    (other : op.mintedBinding ≠ some bindingId) : Spent bindingId (step hash state op) := by
  obtain ⟨sink, binding, attached, stored, used⟩ := spent
  obtain ⟨after, reached, effect⟩ := step_sinkEffect hash atRest op attached
  cases effect with
  | same => exact ⟨sink, binding, reached, stored, used⟩
  | ask => exact ⟨_, binding, reached, stored, used⟩
  | @rewrite _ _ key update gentle =>
    by_cases here : bindingId = key
    · refine ⟨_, update binding, reached, ?_, fun granted => used ((gentle binding).2.2 granted)⟩
      rw [Table.lookup_modify, if_pos here, ← here, stored]
      rfl
    · refine ⟨_, binding, reached, ?_, used⟩
      rw [Table.lookup_modify, if_neg here]
      exact stored
  | @grant requestId grantedBy grantedByClass mintedId now _ request granted table asked onRequest forAction =>
    refine ⟨_, binding, reached, ?_, used⟩
    have elsewhere : bindingId ≠ mintedId := by
      intro same
      exact other (congrArg some same.symm)
    dsimp only
    rw [Table.lookup_insert_eq, if_neg elsewhere]
    exact stored

/-- Along a run with distinct ids, a binding that is not granted stays so. -/
theorem runFrom_spent (minted : MintedApart ops) (capacities : Option (QueueClass → ℕ)) (withSink : Bool)
    {earlier : List RuntimeOp} (spent : Spent bindingId (runFrom hash (.launched capacities withSink) earlier))
    {before : List RuntimeOp} (since : earlier <+: before) (cut : before <+: ops) :
    Spent bindingId (runFrom hash (.launched capacities withSink) before) := by
  obtain ⟨sink, binding, attached, stored, -⟩ := id spent
  have known : bindingId ∈ earlier.filterMap RuntimeOp.mintedBinding :=
    (runFrom_linked hash minted capacities withSink earlier (since.trans cut) sink attached).bindingMinted stored
  obtain ⟨rest, rfl⟩ := since
  obtain ⟨tail, rfl⟩ := cut
  have kept : ∀ middle, middle <+: rest →
      (runFrom hash (runFrom hash (.launched capacities withSink) earlier) middle).AtRest ∧
      Spent bindingId (runFrom hash (runFrom hash (.launched capacities withSink) earlier) middle) := by
    apply StepRun.run_invariant_cut (fun state => state.AtRest ∧ Spent bindingId state)
    · exact ⟨runFrom_atRest hash (launched_atRest capacities withSink) earlier, spent⟩
    · rintro middle op later split ⟨atRest, held⟩
      have other : op.mintedBinding ≠ some bindingId := by
        intro again
        have bindings := minted.bindings
        rw [split, List.append_assoc, List.append_assoc, ← List.append_assoc earlier, List.cons_append] at bindings
        apply (minted_fresh bindings again).1
        rw [List.filterMap_append]
        exact List.mem_append_left _ known
      exact ⟨step_atRest hash op atRest, step_spent hash atRest held other⟩
  have reached : runFrom hash (.launched capacities withSink) (earlier ++ rest) =
      runFrom hash (runFrom hash (.launched capacities withSink) earlier) rest := StepRun.run_append _ _ earlier rest
  rw [reached]
  exact (kept rest (List.prefix_refl rest)).2

end Aios.Runtime
