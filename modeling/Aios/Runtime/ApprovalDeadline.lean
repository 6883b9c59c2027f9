import Aios.Lib.Since
import Aios.Runtime.GateDecisions

/-! # The deadline of a pending approval

`evaluate` answers `Pending` with a deadline three hundred seconds after its own clock reading, and
keeps the request without it. `expire_stale_pending` reckons from the time of submission that the
caller wrote into the request, and `approve_manually` looks at no clock before it decides. So what
keeps an approval in time is the calls around it: they are read here one after the other, each at its
own time, and a request waits since the `evaluate` call that parked it.
-/

namespace Aios.Runtime.Gate

open Aios.Rust Aios.Action ApprovalGate

/-! ## Runs of calls -/

section

variable (hash : EvidenceHash) (order : IterationOrder (Σ _ : String, GateApprovalRequest)) (policy : ApprovalPolicy)

def callStep (gate : ApprovalGate) (call : GateCall × DateTime) : ApprovalGate :=
  (call.1.perform hash order gate call.2).1

/-- The gate after a run of calls on a new one. -/
def runCalls (calls : List (GateCall × DateTime)) : ApprovalGate :=
  StepRun.run (callStep hash order) (.new policy) calls

/-- The calls of a run, each with its time and its answer. -/
def answers (calls : List (GateCall × DateTime)) : List ((GateCall × DateTime) × GateResult) :=
  StepRun.trace (callStep hash order) (fun gate call => (call.1.perform hash order gate call.2).2) (.new policy) calls

/-- The sections of a call, taken one after the other at one time, are the call taken alone. -/
theorem advance_perform (gate : ApprovalGate) (now : DateTime) (call : GateCall) :
    let next := fun (standing : ApprovalGate × GatePhase) => call.advance hash order standing.1 now standing.2
    next (next (next (gate, .entered))) =
      ((call.perform hash order gate now).1, .returned (call.perform hash order gate now).2) := by
  cases call with
  | evaluate request =>
    cases waits : (decision gate.policy request now).isPending <;>
      simp [GateCall.advance, GateCall.perform, evaluate, waits]
  | expireStalePending =>
    cases nothing : (gate.stalePending order now).isEmpty <;>
      simp [GateCall.advance, GateCall.perform, expireStalePending, nothing]
  | _ => rfl

/-- The policy that the last of the calls to set one leaves in force. -/
def policyAfter (calls : List (GateCall × DateTime)) : ApprovalPolicy :=
  calls.foldl (fun current call => match call.1 with
    | .setPolicy policy => policy
    | _ => current) policy

end

/-- The deadline of the last `Pending` answer to an `evaluate` call with the request. -/
def lastDeadline (request : GateApprovalRequest) (answered : List ((GateCall × DateTime) × GateResult)) :
    Option DateTime :=
  answered.foldl (fun known entry => match entry with
    | ((.evaluate other, _), .decision (.pending deadline)) => if other = request then some deadline else known
    | _ => known) none

/-! ## What takes a pending request off the map -/

/-- Under the policy in force, the call takes a pending request off the map or puts another in its
place. -/
def Clears (policy : ApprovalPolicy) (request : GateApprovalRequest) (call : GateCall × DateTime) : Prop :=
  match call.1 with
  | .evaluate other => other.actionId = request.actionId ∧ (decision policy other call.2).isPending = true
  | .approveManually actionId approver => actionId = request.actionId ∧ isAiActor approver = false
  | .denyManually actionId _ denier => actionId = request.actionId ∧ isAiActor denier = false
  | .expireStalePending => request.submittedAt + seconds 300 ≤ call.2
  | _ => False

/-- The request has been parked by an `evaluate` call at the given time and is still pending. -/
def Waits (policy : ApprovalPolicy) (request : GateApprovalRequest) (parkedAt : DateTime) :
    List (GateCall × DateTime) → Prop :=
  StepRun.Since
    (fun before call => call = (.evaluate request, parkedAt) ∧
      (decision (policyAfter policy before) request parkedAt).isPending = true)
    (fun before call => Clears (policyAfter policy before) request call)

/-- Every pending request is kept under its own action. -/
def Filed (gate : ApprovalGate) : Prop :=
  ∀ actionId request, gate.pending.lookup actionId = some request → request.actionId = actionId

variable {hash : EvidenceHash} {order : IterationOrder (Σ _ : String, GateApprovalRequest)} {gate : ApprovalGate}

theorem lookup_decideManually (actionId actor : String) (decision : ApprovalDecision) (now : DateTime)
    (request : GateApprovalRequest) :
    (gate.decideManually hash actionId actor decision now).1.pending.lookup request.actionId = some request ↔
      gate.pending.lookup request.actionId = some request ∧
        ¬ (actionId = request.actionId ∧ isAiActor actor = false) := by
  unfold decideManually
  cases ai : isAiActor actor with
  | true => simp
  | false =>
    cases stored : gate.pending.lookup actionId with
    | none =>
      have apart : gate.pending.lookup request.actionId = some request → actionId ≠ request.actionId := by
        rintro found rfl
        rw [stored] at found
        cases found
      simpa using apart
    | some closed =>
      simp only [Bool.false_eq_true, if_false, record, Table.lookup_erase_eq, and_true]
      by_cases same : actionId = request.actionId
      · simp [same]
      · simp [same, Ne.symm same]

/-- A sweep takes the stale candidates off the map. -/
theorem lookup_expire (filed : Filed gate) (now : DateTime) (actionId : ActionId) :
    (gate.expireStalePending hash order now).1.pending.lookup actionId =
      if actionId ∈ (gate.stalePending order now).map Prod.fst then none else gate.pending.lookup actionId := by
  obtain ⟨nodup, pending⟩ := gate.stalePending_spec now order
  obtain ⟨lookups, -⟩ := gate.expireAll_spec hash now (gate.stalePending order now) nodup fun entry member =>
    filed _ _ (pending entry member)
  unfold expireStalePending
  cases expired : gate.stalePending order now with
  | nil => simp
  | cons entry rest =>
    rw [expired] at lookups
    exact lookups actionId

theorem lookup_expireStalePending (filed : Filed gate) (now : DateTime) (request : GateApprovalRequest) :
    (gate.expireStalePending hash order now).1.pending.lookup request.actionId = some request ↔
      gate.pending.lookup request.actionId = some request ∧ ¬ request.submittedAt + seconds 300 ≤ now := by
  have listed : gate.pending.lookup request.actionId = some request →
      (request.actionId ∈ (gate.stalePending order now).map Prod.fst ↔ request.submittedAt + seconds 300 ≤ now) := by
    intro stored
    rw [List.mem_map]
    constructor
    · rintro ⟨entry, member, same⟩
      obtain ⟨found, stale⟩ := (gate.mem_stalePending_iff now order).mp member
      rw [same, stored] at found
      cases found
      exact stale
    · exact fun stale => ⟨(request.actionId, request), (gate.mem_stalePending_iff now order).mpr ⟨stored, stale⟩, rfl⟩
  rw [lookup_expire filed]
  constructor
  · intro found
    split_ifs at found with member
    exact ⟨found, fun stale => member ((listed found).mpr stale)⟩
  · rintro ⟨stored, fresh⟩
    rw [if_neg fun member => fresh ((listed stored).mp member), stored]

/-- A request is pending after a call if the call parked it, or if it was pending and the call did not
clear it. -/
theorem lookup_callStep (filed : Filed gate) (call : GateCall × DateTime) (request : GateApprovalRequest) :
    (callStep hash order gate call).pending.lookup request.actionId = some request ↔
      (call.1 = .evaluate request ∧ (decision gate.policy request call.2).isPending = true) ∨
        gate.pending.lookup request.actionId = some request ∧ ¬ Clears gate.policy request call := by
  obtain ⟨call, now⟩ := call
  cases call with
  | evaluate other =>
    change (gate.evaluate hash other now).1.pending.lookup request.actionId = some request ↔ _
    cases waits : (decision gate.policy other now).isPending with
    | false =>
      have unparked : ¬ (other = request ∧ (decision gate.policy request now).isPending = true) := by
        rintro ⟨rfl, parked⟩
        rw [waits] at parked
        cases parked
      simp [evaluate, waits, Clears, record, unparked]
    | true =>
      have parked : (gate.evaluate hash other now).1.pending = gate.pending.insert other.actionId other := by
        simp [evaluate, waits, park, record]
      rw [parked, Table.lookup_insert_eq]
      by_cases same : request.actionId = other.actionId
      · have self : other = request ↔ other = request ∧ (decision gate.policy request now).isPending = true := by
          constructor
          · rintro rfl
            exact ⟨rfl, waits⟩
          · exact And.left
        simp [same, Clears, waits, ← self]
      · have different : other ≠ request := by
          rintro rfl
          exact same rfl
        simp [same, Clears, Ne.symm same, different]
  | setPolicy policy => simp [callStep, GateCall.perform, Clears]
  | approveManually actionId approver =>
    exact lookup_decideManually actionId approver (.approved approver) now request |>.trans (by simp [Clears])
  | denyManually actionId reason denier =>
    exact lookup_decideManually actionId denier (.denied reason) now request |>.trans (by simp [Clears])
  | escalate actionId escalatedTo reason =>
    simp [callStep, GateCall.perform, Clears, pending_escalate]
  | expireStalePending => exact (lookup_expireStalePending filed now request).trans (by simp [Clears])

theorem Filed.step (filed : Filed gate) (call : GateCall × DateTime) : Filed (callStep hash order gate call) := by
  obtain ⟨call, now⟩ := call
  intro actionId request stored
  cases call with
  | evaluate other =>
    change (gate.evaluate hash other now).1.pending.lookup actionId = some request at stored
    cases waits : (decision gate.policy other now).isPending with
    | false =>
      simp only [evaluate, waits] at stored
      exact filed actionId request stored
    | true =>
      simp only [evaluate, waits, if_true, park, record, Table.lookup_insert_eq] at stored
      split_ifs at stored with same
      · cases stored
        exact same.symm
      · exact filed actionId request stored
  | setPolicy policy => exact filed actionId request stored
  | approveManually _ _ => exact filed actionId request (pending_of_decideManually hash gate now _ stored)
  | denyManually _ _ _ => exact filed actionId request (pending_of_decideManually hash gate now _ stored)
  | escalate other escalatedTo reason =>
    change (gate.escalate hash other escalatedTo reason now).1.pending.lookup actionId = some request at stored
    rw [pending_escalate] at stored
    exact filed actionId request stored
  | expireStalePending =>
    change (gate.expireStalePending hash order now).1.pending.lookup actionId = some request at stored
    rw [lookup_expire filed] at stored
    split_ifs at stored
    exact filed actionId request stored

/-! ## Requests that wait -/

theorem decideManually_policy (actionId actor : String) (decision : ApprovalDecision) (now : DateTime) :
    (gate.decideManually hash actionId actor decision now).1.policy = gate.policy := by
  obtain same | ⟨closed, -, same⟩ := decideManually_cases hash gate now actionId actor decision
  · rw [same]
  · rw [same]
    rfl

theorem expireAll_policy (now : DateTime) (expired : List (String × GateApprovalRequest)) :
    (gate.expireAll hash now expired).policy = gate.policy := by
  induction expired generalizing gate with
  | nil => rfl
  | cons entry rest ih => exact ih

theorem callStep_policy (call : GateCall × DateTime) :
    (callStep hash order gate call).policy = match call.1 with
      | .setPolicy policy => policy
      | _ => gate.policy := by
  obtain ⟨call, now⟩ := call
  cases call with
  | evaluate request =>
    change (gate.evaluate hash request now).1.policy = gate.policy
    cases waits : (decision gate.policy request now).isPending <;> simp [evaluate, waits, park, record]
  | setPolicy policy => rfl
  | approveManually actionId approver => exact decideManually_policy actionId approver _ now
  | denyManually actionId reason denier => exact decideManually_policy actionId denier _ now
  | escalate actionId escalatedTo reason =>
    change (gate.escalate hash actionId escalatedTo reason now).1.policy = gate.policy
    obtain same | ⟨request, same⟩ := escalate_cases hash gate now actionId escalatedTo reason <;> rw [same]
    rfl
  | expireStalePending =>
    change (gate.expireStalePending hash order now).1.policy = gate.policy
    unfold expireStalePending
    dsimp only
    split_ifs
    · rfl
    · exact expireAll_policy now _

variable {policy : ApprovalPolicy} {calls : List (GateCall × DateTime)}

variable {request : GateApprovalRequest} {call : GateCall × DateTime} {now : DateTime}

theorem runCalls_policy : (runCalls hash order policy calls).policy = policyAfter policy calls := by
  induction calls using List.reverseRecOn with
  | nil => rfl
  | append_singleton before call ih =>
    rw [runCalls, StepRun.run_append, policyAfter, List.foldl_append]
    change (callStep hash order (runCalls hash order policy before) call).policy = _
    rw [callStep_policy, ih]
    rfl

/-- A pending decision promises three hundred seconds from the clock reading it was made at. -/
theorem decision_eq_pending (waits : (decision policy request now).isPending = true) :
    decision policy request now = .pending (now + seconds 300) := by
  unfold decision at waits ⊢
  cases policy with
  | autoDeny => cases waits
  | humanRequired => rfl
  | classifiedOnly =>
    cases classified : request.isClassified with
    | true => rfl
    | false => simp [classified, ApprovalDecision.isPending] at waits
  | delegated tag =>
    dsimp only at waits ⊢
    split_ifs at waits ⊢
    · cases waits
    · rfl

/-- What a run keeps: the requests pending are those that wait, and the last deadline announced for one
of them is three hundred seconds after it was parked. -/
structure Deadlined (hash : EvidenceHash) (order : IterationOrder (Σ _ : String, GateApprovalRequest))
    (policy : ApprovalPolicy) (calls : List (GateCall × DateTime)) : Prop where
  filed : Filed (runCalls hash order policy calls)
  waits : ∀ request, (runCalls hash order policy calls).pending.lookup request.actionId = some request ↔
    ∃ parkedAt, Waits policy request parkedAt calls
  deadline : ∀ request parkedAt, Waits policy request parkedAt calls →
    lastDeadline request (answers hash order policy calls) = some (parkedAt + seconds 300)

theorem Deadlined.start : Deadlined hash order policy [] where
  filed := fun actionId request stored => by cases stored
  waits := by
    intro request
    constructor
    · intro stored
      cases stored
    · rintro ⟨parkedAt, waits⟩
      exact absurd waits StepRun.not_since_nil
  deadline := fun request parkedAt waits => absurd waits StepRun.not_since_nil

theorem lastDeadline_append (request : GateApprovalRequest) (answered : List ((GateCall × DateTime) × GateResult))
    (entry : (GateCall × DateTime) × GateResult) :
    lastDeadline request (answered ++ [entry]) = match entry with
      | ((.evaluate other, _), .decision (.pending deadline)) =>
          if other = request then some deadline else lastDeadline request answered
      | _ => lastDeadline request answered := by
  rw [lastDeadline, List.foldl_append]
  rfl

/-- A call that does not clear a request announces no new deadline for it. -/
theorem lastDeadline_kept (answered : List ((GateCall × DateTime) × GateResult))
    (kept : ¬ Clears gate.policy request call) :
    lastDeadline request (answered ++ [(call, (call.1.perform hash order gate call.2).2)]) =
      lastDeadline request answered := by
  obtain ⟨call, now⟩ := call
  rw [lastDeadline_append]
  cases call with
  | evaluate other =>
    change (match ((GateCall.evaluate other, now), GateResult.decision (decision gate.policy other now)) with
      | ((.evaluate other, _), .decision (.pending deadline)) =>
          if other = request then some deadline else lastDeadline request answered
      | _ => lastDeadline request answered) = _
    cases made : decision gate.policy other now with
    | pending deadline =>
      have different : other ≠ request := by
        rintro rfl
        exact kept ⟨rfl, by rw [made]; rfl⟩
      exact if_neg different
    | _ => rfl
  | _ => rfl

theorem Deadlined.step (standing : Deadlined hash order policy calls) :
    Deadlined hash order policy (calls ++ [call]) := by
  have after : runCalls hash order policy (calls ++ [call]) =
      callStep hash order (runCalls hash order policy calls) call := by
    rw [runCalls, StepRun.run_append]
    rfl
  have told : answers hash order policy (calls ++ [call]) = answers hash order policy calls ++
      [(call, (call.1.perform hash order (runCalls hash order policy calls) call.2).2)] :=
    StepRun.trace_append_singleton ..
  constructor
  · rw [after]
    exact standing.filed.step call
  · intro request
    simp only [after, lookup_callStep standing.filed, standing.waits, runCalls_policy, Waits,
      StepRun.since_append_singleton]
    constructor
    · rintro (⟨evaluates, parked⟩ | ⟨⟨parkedAt, waits⟩, kept⟩)
      · exact ⟨call.2, .inl ⟨Prod.ext evaluates rfl, parked⟩⟩
      · exact ⟨parkedAt, .inr ⟨waits, kept⟩⟩
    · rintro ⟨parkedAt, ⟨rfl, parked⟩ | ⟨waits, kept⟩⟩
      · exact .inl ⟨rfl, parked⟩
      · exact .inr ⟨⟨parkedAt, waits⟩, kept⟩
  · intro request parkedAt waits
    rw [told]
    obtain ⟨rfl, parked⟩ | ⟨waits, kept⟩ := StepRun.since_append_singleton.mp waits
    · rw [← @runCalls_policy hash order] at parked
      have answer : ((GateCall.evaluate request).perform hash order (runCalls hash order policy calls) parkedAt).2 =
          .decision (.pending (parkedAt + seconds 300)) := congrArg GateResult.decision (decision_eq_pending parked)
      rw [answer, lastDeadline_append]
      exact if_pos rfl
    · rw [← @runCalls_policy hash order] at kept
      rw [lastDeadline_kept _ kept]
      exact standing.deadline request parkedAt waits

end Aios.Runtime.Gate
