import Aios.Runtime.ApprovalGate
import Mathlib.Logic.Function.Basic

/-! # One final decision for each request

A request has one final decision or is waiting for it, once its `evaluate` call has returned. The
sections of the gate keep this balance but for one: the write section of `expire_stale_pending`
denies whatever the read section collected. So each request is decided once exactly in the
interleavings in which every such section finds its candidates still pending.
-/

namespace Aios.Runtime.Gate

open Aios.Rust Aios.Action

/-! ## Counting on the trail and on the map -/

namespace ApprovalGate

/-- The number of final decisions about an action. -/
def finals (self : ApprovalGate) (actionId : ActionId) : ℕ :=
  self.auditTrail.countP fun entry => entry.request.actionId = actionId ∧ entry.decision.isFinal = true

/-- One for an action that is pending. -/
def waiting (self : ApprovalGate) (actionId : ActionId) : ℕ := if (self.pending.lookup actionId).isSome then 1 else 0

variable (hash : EvidenceHash) (self : ApprovalGate) (request : GateApprovalRequest) (now : DateTime)
  (actionId : ActionId)

variable (order : IterationOrder (Σ _ : String, GateApprovalRequest)) (escalatedTo reason : String)

variable {decision : ApprovalDecision}

theorem finals_record_final (final : decision.isFinal = true) :
    (self.record hash request decision now).finals actionId =
      self.finals actionId + if request.actionId = actionId then 1 else 0 := by
  simp [finals, record, List.countP_append, List.countP_cons, final]

theorem finals_record_open (undecided : decision.isFinal = false) :
    (self.record hash request decision now).finals actionId = self.finals actionId := by
  simp [finals, record, List.countP_append, undecided]

theorem waiting_park :
    (self.park request).waiting actionId = if actionId = request.actionId then 1 else self.waiting actionId := by
  rw [waiting, park, Table.lookup_insert_eq]
  by_cases same : actionId = request.actionId
  · simp [same]
  · simp [same, waiting]

/-- A manual decision changes nothing, or it takes a pending request off the map and records the
decision on it. -/
theorem decideManually_cases (actor : String) (decision : ApprovalDecision) :
    (self.decideManually hash actionId actor decision now).1 = self ∨
      ∃ request, self.pending.lookup actionId = some request ∧
        (self.decideManually hash actionId actor decision now).1 =
          record hash { self with pending := self.pending.erase actionId } request decision now := by
  unfold decideManually
  split_ifs with ai
  · exact .inl rfl
  · cases self.pending.lookup actionId with
    | none => exact .inl rfl
    | some request => exact .inr ⟨request, rfl, rfl⟩

theorem escalate_cases :
    (self.escalate hash actionId escalatedTo reason now).1 = self ∨
      ∃ request, (self.escalate hash actionId escalatedTo reason now).1 =
        self.record hash request (.escalated escalatedTo reason) now := by
  unfold escalate
  cases self.pending.lookup actionId with
  | none => exact .inl rfl
  | some request => exact .inr ⟨request, rfl⟩

/-- What is pending after a manual decision was pending before. -/
theorem pending_of_decideManually {actor : String} {other : ActionId} {pending : GateApprovalRequest}
    (stored : (self.decideManually hash actionId actor decision now).1.pending.lookup other = some pending) :
    self.pending.lookup other = some pending := by
  obtain same | ⟨closed, -, same⟩ := decideManually_cases hash self now actionId actor decision
  · rwa [same] at stored
  · rw [same] at stored
    change (self.pending.erase actionId).lookup other = some pending at stored
    rw [Table.lookup_erase_eq] at stored
    split_ifs at stored
    exact stored

theorem pending_escalate : (self.escalate hash actionId escalatedTo reason now).1.pending = self.pending := by
  obtain same | ⟨request, same⟩ := escalate_cases hash self now actionId escalatedTo reason
  · rw [same]
  · rw [same]
    rfl

/-- Taking a request off the map and deciding it. -/
theorem balance_close (final : decision.isFinal = true) (other : ActionId) (own : request.actionId = actionId) :
    let after := record hash { self with pending := self.pending.erase actionId } request decision now
    (other ≠ actionId → after.finals other = self.finals other ∧ after.waiting other = self.waiting other) ∧
      after.finals actionId = self.finals actionId + 1 ∧ after.waiting actionId = 0 := by
  refine ⟨fun different => ⟨?_, ?_⟩, ?_, ?_⟩
  · rw [finals_record_final hash _ request now other final, own, if_neg different.symm, Nat.add_zero]
    rfl
  · simp [waiting, record, different]
  · rw [finals_record_final hash _ request now actionId final, if_pos own]
    rfl
  · simp [waiting, record]

/-- The read section lists the pending requests submitted three hundred seconds ago or earlier. -/
theorem mem_stalePending_iff {entry : String × GateApprovalRequest} :
    entry ∈ self.stalePending order now ↔
      self.pending.lookup entry.1 = some entry.2 ∧ entry.2.submittedAt + seconds 300 ≤ now := by
  rw [stalePending, List.mem_map]
  constructor
  · rintro ⟨stored, kept, rfl⟩
    obtain ⟨listed, stale⟩ := List.mem_filter.mp kept
    have member := (order.perm self.pending.entries).mem_iff.mp listed
    exact ⟨AList.mem_lookup_iff.mpr member, of_decide_eq_true stale⟩
  · rintro ⟨stored, stale⟩
    have member := (order.perm self.pending.entries).mem_iff.mpr (AList.mem_lookup_iff.mp stored)
    exact ⟨⟨entry.1, entry.2⟩, List.mem_filter.mpr ⟨member, decide_eq_true stale⟩, rfl⟩

/-- The read section lists pending requests, each once. -/
theorem stalePending_spec :
    ((self.stalePending order now).map Prod.fst).Nodup ∧
      ∀ entry ∈ self.stalePending order now, self.pending.lookup entry.1 = some entry.2 := by
  constructor
  · have keys : ((order.arrange self.pending.entries).map Sigma.fst).Nodup :=
      ((order.perm self.pending.entries).map Sigma.fst).nodup_iff.mpr self.pending.nodupKeys
    rw [stalePending, List.map_map]
    exact keys.sublist (List.filter_sublist.map _)
  · exact fun entry member => ((self.mem_stalePending_iff now order).mp member).1

/-- The write section takes its candidates off the map and denies each of them once. -/
theorem expireAll_spec (expired : List (String × GateApprovalRequest)) (nodup : (expired.map Prod.fst).Nodup)
    (own : ∀ entry ∈ expired, entry.2.actionId = entry.1) :
    (∀ id, (self.expireAll hash now expired).pending.lookup id =
        if id ∈ expired.map Prod.fst then none else self.pending.lookup id) ∧
      ∀ id, (self.expireAll hash now expired).finals id =
        self.finals id + if id ∈ expired.map Prod.fst then 1 else 0 := by
  induction expired generalizing self with
  | nil => exact ⟨fun id => rfl, fun id => rfl⟩
  | cons entry rest ih =>
    obtain ⟨fresh, restNodup⟩ := List.nodup_cons.mp nodup
    obtain ⟨lookups, counts⟩ := ih (expireOne hash now self entry) restNodup
      fun other member => own other (List.mem_cons_of_mem _ member)
    have first : (expireOne hash now self entry).finals = fun id =>
        self.finals id + if entry.1 = id then 1 else 0 := by
      funext id
      rw [expireOne, finals_record_final hash _ _ _ _ rfl, own entry List.mem_cons_self]
      rfl
    have erased : ∀ id, (expireOne hash now self entry).pending.lookup id =
        if id = entry.1 then none else self.pending.lookup id := fun id => Table.lookup_erase_eq _ _ _
    have listed : ∀ id, id ∈ (entry :: rest).map Prod.fst ↔ id = entry.1 ∨ id ∈ rest.map Prod.fst := by
      intro id
      rw [List.map_cons, List.mem_cons]
    constructor
    · intro id
      change (expireAll hash (expireOne hash now self entry) now rest).pending.lookup id = _
      rw [lookups, erased]
      simp only [listed]
      by_cases same : id = entry.1
      · simp only [same, true_or, if_true, ite_self]
      · simp only [same, false_or, if_false]
    · intro id
      change (expireAll hash (expireOne hash now self entry) now rest).finals id = _
      rw [counts, first]
      simp only [listed]
      by_cases same : id = entry.1
      · subst same
        simp only [fresh, true_or, if_true, if_false, Nat.add_zero]
      · simp only [same, Ne.symm same, false_or, if_false, Nat.add_zero]

end ApprovalGate

/-! ## What a section does -/

open ApprovalGate

variable {ι : Type} [DecidableEq ι] {hash : EvidenceHash}
  {order : IterationOrder (Σ _ : String, GateApprovalRequest)} {calls : ι → GateCall} {system : GateSystem ι}

variable {phases : ι → GatePhase} {turn : ι × DateTime} {actionId : ActionId} {gate : ApprovalGate} {index : ι}
  {request : GateApprovalRequest} {phase : GatePhase}

/-- The sections of the calls, as steps of the whole system. -/
inductive GateStep (hash : EvidenceHash) (order : IterationOrder (Σ _ : String, GateApprovalRequest))
    (calls : ι → GateCall) (system : GateSystem ι) (index : ι) (now : DateTime) : GateSystem ι → Prop where
  | idle : GateStep hash order calls system index now system
  | decide (request : GateApprovalRequest) (call : calls index = .evaluate request)
      (phase : system.phases index = .entered) :
      GateStep hash order calls system index now
        ⟨system.gate, Function.update system.phases index (.decided (decision system.gate.policy request now) now)⟩
  | settle (request : GateApprovalRequest) (decision : ApprovalDecision) (decidedAt : DateTime)
      (call : calls index = .evaluate request) (phase : system.phases index = .decided decision decidedAt)
      (settled : decision.isPending = false) :
      GateStep hash order calls system index now ⟨system.gate.record hash request decision decidedAt,
        Function.update system.phases index (.returned (.decision decision))⟩
  | announce (request : GateApprovalRequest) (decision : ApprovalDecision) (decidedAt : DateTime)
      (call : calls index = .evaluate request) (phase : system.phases index = .decided decision decidedAt)
      (waits : decision.isPending = true) :
      GateStep hash order calls system index now ⟨system.gate.record hash request decision decidedAt,
        Function.update system.phases index (.parking decision)⟩
  | park (request : GateApprovalRequest) (decision : ApprovalDecision)
      (call : calls index = .evaluate request) (phase : system.phases index = .parking decision) :
      GateStep hash order calls system index now ⟨system.gate.park request,
        Function.update system.phases index (.returned (.decision decision))⟩
  | setPolicy (policy : ApprovalPolicy) (call : ∀ request, calls index ≠ .evaluate request) :
      GateStep hash order calls system index now ⟨{ system.gate with policy },
        Function.update system.phases index (.returned .done)⟩
  | manual (actionId actor : String) (decision : ApprovalDecision) (final : decision.isFinal = true)
      (call : ∀ request, calls index ≠ .evaluate request) :
      GateStep hash order calls system index now ⟨(system.gate.decideManually hash actionId actor decision now).1,
        Function.update system.phases index
          (.returned (.found (system.gate.decideManually hash actionId actor decision now).2))⟩
  | escalate (actionId escalatedTo reason : String) (call : ∀ request, calls index ≠ .evaluate request) :
      GateStep hash order calls system index now ⟨(system.gate.escalate hash actionId escalatedTo reason now).1,
        Function.update system.phases index
          (.returned (.found (system.gate.escalate hash actionId escalatedTo reason now).2))⟩
  | spare (call : ∀ request, calls index ≠ .evaluate request) :
      GateStep hash order calls system index now ⟨system.gate,
        Function.update system.phases index (.returned (.expired 0))⟩
  | collect (call : ∀ request, calls index ≠ .evaluate request) :
      GateStep hash order calls system index now ⟨system.gate,
        Function.update system.phases index (.expiring now (system.gate.stalePending order now))⟩
  | expire (collectedAt : DateTime) (expired : List (String × GateApprovalRequest))
      (call : calls index = .expireStalePending) (phase : system.phases index = .expiring collectedAt expired) :
      GateStep hash order calls system index now ⟨system.gate.expireAll hash collectedAt expired,
        Function.update system.phases index (.returned (.expired expired.length))⟩

theorem GateSystem.move_idle {turn : ι × DateTime}
    (stays : (calls turn.1).advance hash order system.gate turn.2 (system.phases turn.1) =
      (system.gate, system.phases turn.1)) :
    GateStep hash order calls system turn.1 turn.2 (system.move hash order calls turn) := by
  have same : system.move hash order calls turn = system := by
    simp only [GateSystem.move, stays, Function.update_eq_self]
  rw [same]
  exact .idle

theorem GateSystem.move_step (turn : ι × DateTime) :
    GateStep hash order calls system turn.1 turn.2 (system.move hash order calls turn) := by
  cases call : calls turn.1 with
  | evaluate request =>
    cases phase : system.phases turn.1 with
    | entered =>
      simp only [GateSystem.move, call, phase, GateCall.advance]
      exact .decide request call phase
    | decided decision decidedAt =>
      simp only [GateSystem.move, call, phase, GateCall.advance]
      cases waits : decision.isPending with
      | true => exact .announce request decision decidedAt call phase waits
      | false => exact .settle request decision decidedAt call phase waits
    | parking decision =>
      simp only [GateSystem.move, call, phase, GateCall.advance]
      exact .park request decision call phase
    | expiring collectedAt expired => exact move_idle (by rw [call, phase]; rfl)
    | returned result => exact move_idle (by rw [call, phase]; rfl)
  | setPolicy policy =>
    cases phase : system.phases turn.1 with
    | entered =>
      simp only [GateSystem.move, call, phase, GateCall.advance]
      exact .setPolicy policy (by simp [call])
    | _ => exact move_idle (by rw [call, phase]; rfl)
  | approveManually actionId approver =>
    cases phase : system.phases turn.1 with
    | entered =>
      simp only [GateSystem.move, call, phase, GateCall.advance]
      exact .manual actionId approver (.approved approver) rfl (by simp [call])
    | _ => exact move_idle (by rw [call, phase]; rfl)
  | denyManually actionId reason denier =>
    cases phase : system.phases turn.1 with
    | entered =>
      simp only [GateSystem.move, call, phase, GateCall.advance]
      exact .manual actionId denier (.denied reason) rfl (by simp [call])
    | _ => exact move_idle (by rw [call, phase]; rfl)
  | escalate actionId escalatedTo reason =>
    cases phase : system.phases turn.1 with
    | entered =>
      simp only [GateSystem.move, call, phase, GateCall.advance]
      exact .escalate actionId escalatedTo reason (by simp [call])
    | _ => exact move_idle (by rw [call, phase]; rfl)
  | expireStalePending =>
    cases phase : system.phases turn.1 with
    | entered =>
      simp only [GateSystem.move, call, phase, GateCall.advance]
      split_ifs with nothing
      · exact .spare (by simp [call])
      · exact .collect (by simp [call])
    | expiring collectedAt expired =>
      simp only [GateSystem.move, call, phase, GateCall.advance]
      exact .expire collectedAt expired call phase
    | _ => exact move_idle (by rw [call, phase]; rfl)

/-! ## Where pending requests come from -/

/-- Some `evaluate` call of the action has returned `Pending`, so its request has been parked. -/
def Parked (calls : ι → GateCall) (phases : ι → GatePhase) (actionId : ActionId) : Prop :=
  ∃ index request deadline, calls index = .evaluate request ∧ request.actionId = actionId ∧
    phases index = .returned (.decision (.pending deadline))

/-- Some `evaluate` call of the action has returned. -/
def Settled (calls : ι → GateCall) (phases : ι → GatePhase) (actionId : ActionId) : Prop :=
  ∃ index request decision, calls index = .evaluate request ∧ request.actionId = actionId ∧
    phases index = .returned (.decision decision)

omit [DecidableEq ι] in
theorem Parked.settled (parked : Parked calls phases actionId) : Settled calls phases actionId := by
  obtain ⟨index, request, deadline, call, own, phase⟩ := parked
  exact ⟨index, request, _, call, own, phase⟩

/-- A returned call stays returned. -/
theorem Parked.update (parked : Parked calls phases actionId) (phase : GatePhase)
    (running : (∀ request, calls index ≠ .evaluate request) ∨ ∀ result, phases index ≠ .returned result) :
    Parked calls (Function.update phases index phase) actionId := by
  obtain ⟨other, request, deadline, call, own, returned⟩ := parked
  have different : other ≠ index := by
    rintro rfl
    obtain noEvaluate | notReturned := running
    · exact noEvaluate request call
    · exact notReturned _ returned
  exact ⟨other, request, deadline, call, own, by rw [Function.update_of_ne different, returned]⟩

/-- What every interleaving keeps: decisions under way are final or pending, a pending request was
parked under its own id, and so was every candidate of an expiry under way. -/
structure Tracked (calls : ι → GateCall) (system : GateSystem ι) : Prop where
  decided : ∀ index request decision decidedAt, calls index = .evaluate request →
    system.phases index = .decided decision decidedAt → decision.isPending = false → decision.isFinal = true
  parking : ∀ index request decision, calls index = .evaluate request →
    system.phases index = .parking decision → decision.isPending = true
  pending : ∀ actionId request, system.gate.pending.lookup actionId = some request →
    request.actionId = actionId ∧ Parked calls system.phases actionId
  collected : ∀ index collectedAt expired, system.phases index = .expiring collectedAt expired →
    (expired.map Prod.fst).Nodup ∧
      ∀ entry ∈ expired, entry.2.actionId = entry.1 ∧ Parked calls system.phases entry.1

/-- A section that moves one call on keeps the record straight if its own contribution does. -/
theorem Tracked.update (tracked : Tracked calls system) {index : ι} {gate : ApprovalGate} {phase : GatePhase}
    (running : (∀ request, calls index ≠ .evaluate request) ∨ ∀ result, system.phases index ≠ .returned result)
    (decided : ∀ request decision decidedAt, calls index = .evaluate request → phase = .decided decision decidedAt →
      decision.isPending = false → decision.isFinal = true)
    (parking : ∀ request decision, calls index = .evaluate request → phase = .parking decision →
      decision.isPending = true)
    (pending : ∀ actionId request, gate.pending.lookup actionId = some request →
      system.gate.pending.lookup actionId = some request ∨
        request.actionId = actionId ∧ Parked calls (Function.update system.phases index phase) actionId)
    (collected : ∀ collectedAt expired, phase = .expiring collectedAt expired →
      (expired.map Prod.fst).Nodup ∧ ∀ entry ∈ expired, system.gate.pending.lookup entry.1 = some entry.2) :
    Tracked calls ⟨gate, Function.update system.phases index phase⟩ where
  decided := by
    intro other request decision decidedAt call standing
    dsimp only at standing
    by_cases same : other = index
    · subst same
      rw [Function.update_self] at standing
      exact decided request decision decidedAt call standing
    · rw [Function.update_of_ne same] at standing
      exact tracked.decided other request decision decidedAt call standing
  parking := by
    intro other request decision call standing
    dsimp only at standing
    by_cases same : other = index
    · subst same
      rw [Function.update_self] at standing
      exact parking request decision call standing
    · rw [Function.update_of_ne same] at standing
      exact tracked.parking other request decision call standing
  pending := by
    intro actionId request stored
    obtain before | new := pending actionId request stored
    · obtain ⟨own, parked⟩ := tracked.pending actionId request before
      exact ⟨own, parked.update phase running⟩
    · exact new
  collected := by
    intro other collectedAt expired standing
    dsimp only at standing
    by_cases same : other = index
    · subst same
      rw [Function.update_self] at standing
      obtain ⟨nodup, stored⟩ := collected collectedAt expired standing
      refine ⟨nodup, fun entry member => ?_⟩
      obtain ⟨own, parked⟩ := tracked.pending entry.1 entry.2 (stored entry member)
      exact ⟨own, parked.update phase running⟩
    · rw [Function.update_of_ne same] at standing
      obtain ⟨nodup, each⟩ := tracked.collected other collectedAt expired standing
      exact ⟨nodup, fun entry member => ⟨(each entry member).1, (each entry member).2.update phase running⟩⟩

theorem decision_final {policy : ApprovalPolicy} {now : DateTime}
    (settled : (decision policy request now).isPending = false) : (decision policy request now).isFinal = true := by
  revert settled
  unfold decision
  cases policy with
  | autoDeny => exact fun _ => rfl
  | humanRequired => simp [ApprovalDecision.isPending]
  | classifiedOnly => cases request.isClassified <;> simp [ApprovalDecision.isPending, ApprovalDecision.isFinal,
      ApprovalDecision.isApproved]
  | delegated tag =>
    dsimp only
    split_ifs <;> simp [ApprovalDecision.isPending, ApprovalDecision.isFinal, ApprovalDecision.isApproved]

theorem Tracked.step (tracked : Tracked calls system) {index : ι} {now : DateTime} {next : GateSystem ι}
    (step : GateStep hash order calls system index now next) : Tracked calls next := by
  have kept : ∀ (gate : ApprovalGate) (phase : GatePhase), gate.pending = system.gate.pending →
      ∀ actionId request, gate.pending.lookup actionId = some request →
        system.gate.pending.lookup actionId = some request ∨
          request.actionId = actionId ∧ Parked calls (Function.update system.phases index phase) actionId := by
    intro gate phase same actionId request stored
    exact .inl (same ▸ stored)
  cases step with
  | idle => exact tracked
  | decide request call phase =>
    refine tracked.update (.inr (by simp [phase])) ?_ (by simp) (kept _ _ rfl) (by simp)
    intro _ decision decidedAt _ same settled
    obtain ⟨rfl, -⟩ := GatePhase.decided.inj same
    exact decision_final settled
  | settle request decision decidedAt call phase settled =>
    exact tracked.update (.inr (by simp [phase])) (by simp) (by simp) (kept _ _ rfl) (by simp)
  | announce request decision decidedAt call phase waits =>
    refine tracked.update (.inr (by simp [phase])) (by simp) ?_ (kept _ _ rfl) (by simp)
    intro _ other _ same
    obtain rfl := GatePhase.parking.inj same
    exact waits
  | park request decision call phase =>
    refine tracked.update (.inr (by simp [phase])) (by simp) (by simp) ?_ (by simp)
    intro actionId parked stored
    rw [ApprovalGate.park, Table.lookup_insert_eq] at stored
    split_ifs at stored with same
    · cases stored
      refine .inr ⟨same.symm, index, request, ?_⟩
      have waits := tracked.parking index request decision call phase
      cases decision with
      | pending deadline => exact ⟨deadline, call, same.symm, Function.update_self _ _ _⟩
      | approved _ => cases waits
      | denied _ => cases waits
      | escalated _ _ => cases waits
    · exact .inl stored
  | setPolicy policy call =>
    exact tracked.update (.inl call) (by simp) (by simp) (kept _ _ rfl) (by simp)
  | manual actionId actor decision final call =>
    refine tracked.update (.inl call) (by simp) (by simp) ?_ (by simp)
    intro other request stored
    exact .inl (pending_of_decideManually hash system.gate now actionId stored)
  | escalate actionId escalatedTo reason call =>
    refine tracked.update (.inl call) (by simp) (by simp) (kept _ _ ?_) (by simp)
    exact pending_escalate hash system.gate now actionId escalatedTo reason
  | spare call => exact tracked.update (.inl call) (by simp) (by simp) (kept _ _ rfl) (by simp)
  | collect call =>
    refine tracked.update (.inl call) (by simp) (by simp) (kept _ _ rfl) ?_
    intro collectedAt expired same
    obtain ⟨-, rfl⟩ := GatePhase.expiring.inj same
    exact system.gate.stalePending_spec now order
  | expire collectedAt expired call phase =>
    refine tracked.update (.inl (by simp [call])) (by simp) (by simp) ?_ (by simp)
    intro actionId request stored
    obtain ⟨nodup, each⟩ := tracked.collected index collectedAt expired phase
    obtain ⟨lookups, -⟩ := system.gate.expireAll_spec hash collectedAt expired nodup fun entry member =>
      (each entry member).1
    rw [lookups] at stored
    split_ifs at stored
    exact .inl stored

omit [DecidableEq ι] in
theorem tracked_start (calls : ι → GateCall) (policy : ApprovalPolicy) :
    Tracked calls ⟨.new policy, fun _ => .entered⟩ := by
  refine ⟨by simp, by simp, fun actionId request stored => ?_, by simp⟩
  cases stored

/-! ## The balance -/

/-- The `evaluate` calls are about distinct actions. -/
def DistinctActions (calls : ι → GateCall) : Prop :=
  ∀ first second request other, calls first = .evaluate request → calls second = .evaluate other →
    request.actionId = other.actionId → first = second

/-- A settled request waits or has one final decision; any other has neither. -/
def Balanced (calls : ι → GateCall) (system : GateSystem ι) : Prop :=
  ∀ actionId,
    (Settled calls system.phases actionId → system.gate.finals actionId + system.gate.waiting actionId = 1) ∧
    (¬ Settled calls system.phases actionId → system.gate.finals actionId + system.gate.waiting actionId = 0)

theorem settled_update {phases : ι → GatePhase} {index : ι} {phase : GatePhase} {actionId : ActionId}
    (apart : (∀ request, calls index ≠ .evaluate request) ∨
      (∀ result, phases index ≠ .returned result) ∧ ∀ result, phase ≠ .returned result) :
    Settled calls (Function.update phases index phase) actionId ↔ Settled calls phases actionId := by
  constructor
  · rintro ⟨other, request, decision, call, own, returned⟩
    by_cases same : other = index
    · subst same
      obtain noEvaluate | ⟨-, notReturned⟩ := apart
      · exact absurd call (noEvaluate request)
      · rw [Function.update_self] at returned
        exact absurd returned (notReturned _)
    · rw [Function.update_of_ne same] at returned
      exact ⟨other, request, decision, call, own, returned⟩
  · rintro ⟨other, request, decision, call, own, returned⟩
    have different : other ≠ index := by
      rintro rfl
      obtain noEvaluate | ⟨notReturned, -⟩ := apart
      · exact noEvaluate request call
      · exact notReturned _ returned
    exact ⟨other, request, decision, call, own, by rw [Function.update_of_ne different, returned]⟩

/-- A call that returns settles its own action and no other. -/
theorem settled_return {decision : ApprovalDecision} (call : calls index = .evaluate request)
    (running : ∀ result, phases index ≠ .returned result) (actionId : ActionId) :
    Settled calls (Function.update phases index (.returned (.decision decision))) actionId ↔
      actionId = request.actionId ∨ Settled calls phases actionId := by
  constructor
  · rintro ⟨other, found, made, otherCall, own, returned⟩
    by_cases same : other = index
    · subst same
      rw [call] at otherCall
      cases otherCall
      exact .inl own.symm
    · rw [Function.update_of_ne same] at returned
      exact .inr ⟨other, found, made, otherCall, own, returned⟩
  · rintro (rfl | ⟨other, found, made, otherCall, own, returned⟩)
    · exact ⟨index, request, decision, call, rfl, Function.update_self _ _ _⟩
    · have different : other ≠ index := by
        rintro rfl
        exact running _ returned
      exact ⟨other, found, made, otherCall, own, by rw [Function.update_of_ne different, returned]⟩

omit [DecidableEq ι] in
/-- An action is not settled while its own call is running. -/
theorem not_settled_of_running (distinct : DistinctActions calls) (call : calls index = .evaluate request)
    (running : ∀ result, phases index ≠ .returned result) : ¬ Settled calls phases request.actionId := by
  rintro ⟨other, found, made, otherCall, own, returned⟩
  obtain rfl := distinct other index found request otherCall call own
  exact running _ returned

/-- Sections that leave the settled actions alone. -/
theorem Balanced.keep (balanced : Balanced calls system) {gate : ApprovalGate} {index : ι} {phase : GatePhase}
    (apart : (∀ request, calls index ≠ .evaluate request) ∨
      (∀ result, system.phases index ≠ .returned result) ∧ ∀ result, phase ≠ .returned result)
    (level : ∀ actionId, gate.finals actionId + gate.waiting actionId =
      system.gate.finals actionId + system.gate.waiting actionId) :
    Balanced calls ⟨gate, Function.update system.phases index phase⟩ := by
  intro actionId
  simp only [settled_update apart, level]
  exact balanced actionId

/-- Sections in which a call returns. -/
theorem Balanced.settle (balanced : Balanced calls system) (distinct : DistinctActions calls) {gate : ApprovalGate}
    {index : ι} {request : GateApprovalRequest} {decision : ApprovalDecision}
    (call : calls index = .evaluate request) (running : ∀ result, system.phases index ≠ .returned result)
    (others : ∀ actionId, actionId ≠ request.actionId → gate.finals actionId + gate.waiting actionId =
      system.gate.finals actionId + system.gate.waiting actionId)
    (own : system.gate.finals request.actionId + system.gate.waiting request.actionId = 0 →
      gate.finals request.actionId + gate.waiting request.actionId = 1) :
    Balanced calls ⟨gate, Function.update system.phases index (.returned (.decision decision))⟩ := by
  intro actionId
  simp only [settled_return call running]
  by_cases same : actionId = request.actionId
  · subst same
    refine ⟨fun _ => own ?_, fun unsettled => absurd (.inl rfl) unsettled⟩
    exact (balanced request.actionId).2 (not_settled_of_running distinct call running)
  · simp only [same, false_or, others actionId same]
    exact balanced actionId

/-- The write sections of an expiry find every candidate pending. -/
def ExpiresPending (calls : ι → GateCall) (system : GateSystem ι) (index : ι) : Prop :=
  ∀ collectedAt expired, calls index = .expireStalePending → system.phases index = .expiring collectedAt expired →
    ∀ entry ∈ expired, (system.gate.pending.lookup entry.1).isSome

theorem Balanced.step (tracked : Tracked calls system) (balanced : Balanced calls system)
    (distinct : DistinctActions calls) {index : ι} {now : DateTime} {next : GateSystem ι}
    (step : GateStep hash order calls system index now next) (timely : ExpiresPending calls system index) :
    Balanced calls next := by
  cases step with
  | idle => exact balanced
  | decide request call phase => exact balanced.keep (.inr ⟨by simp [phase], by simp⟩) fun _ => rfl
  | settle request decision decidedAt call phase settled =>
    have final := tracked.decided index request decision decidedAt call phase settled
    refine balanced.settle distinct call (by simp [phase]) (fun actionId different => ?_) fun empty => ?_
    · rw [finals_record_final hash _ _ _ _ final, if_neg different.symm]
      rfl
    · rw [finals_record_final hash _ _ _ _ final, if_pos rfl]
      change _ + 1 + system.gate.waiting request.actionId = 1
      omega
  | announce request decision decidedAt call phase waits =>
    refine balanced.keep (.inr ⟨by simp [phase], by simp⟩) fun actionId => ?_
    have undecided : decision.isFinal = false := by
      cases decision with
      | pending deadline => rfl
      | _ => cases waits
    rw [finals_record_open hash _ _ _ _ undecided]
    rfl
  | park request decision call phase =>
    refine balanced.settle distinct call (by simp [phase]) (fun actionId different => ?_) fun empty => ?_
    · rw [waiting_park, if_neg different]
      rfl
    · rw [waiting_park, if_pos rfl]
      change system.gate.finals request.actionId + 1 = 1
      omega
  | setPolicy policy call => exact balanced.keep (.inl call) fun _ => rfl
  | manual actionId actor decision final call =>
    refine balanced.keep (.inl call) fun other => ?_
    obtain same | ⟨request, stored, same⟩ := decideManually_cases hash system.gate now actionId actor decision
    · rw [same]
    · rw [same]
      obtain ⟨own, -⟩ := tracked.pending actionId request stored
      obtain ⟨others, closed, gone⟩ := system.gate.balance_close hash request now actionId final other own
      by_cases isOther : other = actionId
      · have pending : system.gate.waiting actionId = 1 := by simp [waiting, stored]
        rw [isOther, closed, gone, pending]
      · rw [(others isOther).1, (others isOther).2]
  | escalate actionId escalatedTo reason call =>
    refine balanced.keep (.inl call) fun other => ?_
    obtain same | ⟨request, same⟩ := escalate_cases hash system.gate now actionId escalatedTo reason
    · rw [same]
    · rw [same, finals_record_open hash _ _ _ _ rfl]
      rfl
  | spare call => exact balanced.keep (.inl call) fun _ => rfl
  | collect call => exact balanced.keep (.inl call) fun _ => rfl
  | expire collectedAt expired call phase =>
    refine balanced.keep (.inl (by simp [call])) fun actionId => ?_
    obtain ⟨nodup, each⟩ := tracked.collected index collectedAt expired phase
    obtain ⟨lookups, counts⟩ := system.gate.expireAll_spec hash collectedAt expired nodup fun entry member =>
      (each entry member).1
    rw [counts, waiting, lookups]
    by_cases listed : actionId ∈ expired.map Prod.fst
    · obtain ⟨entry, member, rfl⟩ := List.mem_map.mp listed
      have pending := timely collectedAt expired call phase entry member
      simp [listed, waiting, pending]
    · simp [listed, waiting]

/-! ## Over whole interleavings -/

/-- At most one final decision for each action, and the actions on the map are those that were parked
and have none. -/
def DecidedOnce (calls : ι → GateCall) (system : GateSystem ι) : Prop :=
  ∀ actionId, system.gate.finals actionId ≤ 1 ∧
    ((system.gate.pending.lookup actionId).isSome ↔
      Parked calls system.phases actionId ∧ system.gate.finals actionId = 0)

omit [DecidableEq ι] in
theorem Balanced.decidedOnce (tracked : Tracked calls system) (balanced : Balanced calls system) :
    DecidedOnce calls system := by
  intro actionId
  obtain ⟨settled, unsettled⟩ := balanced actionId
  have total : system.gate.finals actionId + system.gate.waiting actionId ≤ 1 := by
    by_cases done : Settled calls system.phases actionId
    · have := settled done
      omega
    · have := unsettled done
      omega
  refine ⟨by omega, ?_⟩
  constructor
  · intro pending
    obtain ⟨request, stored⟩ := Option.isSome_iff_exists.mp pending
    have waits : system.gate.waiting actionId = 1 := if_pos pending
    exact ⟨(tracked.pending actionId request stored).2, by omega⟩
  · rintro ⟨parked, undecided⟩
    have waits := settled parked.settled
    by_contra absent
    have gone : system.gate.waiting actionId = 0 := if_neg absent
    omega

theorem interleave_tracked (policy : ApprovalPolicy) (turns : List (ι × DateTime)) :
    Tracked calls (interleave hash order calls policy turns) :=
  StepRun.run_invariant (Tracked calls) (fun _ turn tracked => tracked.step (GateSystem.move_step turn))
    (tracked_start calls policy) turns

omit [DecidableEq ι] in
theorem balanced_start (calls : ι → GateCall) (policy : ApprovalPolicy) :
    Balanced calls ⟨.new policy, fun _ => .entered⟩ := by
  intro actionId
  refine ⟨?_, fun _ => rfl⟩
  rintro ⟨index, request, decision, -, -, returned⟩
  cases returned

/-- A denial of a candidate that was decided meanwhile is a second final decision. -/
theorem expiresPending_of_decidedOnce (tracked : Tracked calls system) (once : DecidedOnce calls system)
    (onceAfter : DecidedOnce calls (system.move hash order calls turn)) : ExpiresPending calls system turn.1 := by
  intro collectedAt expired call phase entry member
  by_contra absent
  obtain ⟨nodup, each⟩ := tracked.collected turn.1 collectedAt expired phase
  obtain ⟨-, counts⟩ := system.gate.expireAll_spec hash collectedAt expired nodup fun entry member =>
    (each entry member).1
  have decided : system.gate.finals entry.1 ≠ 0 := fun none =>
    absent ((once entry.1).2.mpr ⟨(each entry member).2, none⟩)
  have moved : (system.move hash order calls turn).gate = system.gate.expireAll hash collectedAt expired := by
    simp only [GateSystem.move, call, phase, GateCall.advance]
  have bound := (onceAfter entry.1).1
  rw [moved, counts, if_pos (List.mem_map_of_mem member)] at bound
  omega

/-- For calls on distinct actions, each request is decided once in every state of an interleaving
exactly when every write section of an expiry finds its candidates still pending. -/
theorem decidedOnce_iff (hash : EvidenceHash) (order : IterationOrder (Σ _ : String, GateApprovalRequest))
    (calls : ι → GateCall) (distinct : DistinctActions calls) (policy : ApprovalPolicy) (turns : List (ι × DateTime)) :
    (∀ before, before <+: turns → DecidedOnce calls (interleave hash order calls policy before)) ↔
      ∀ before turn rest, turns = before ++ turn :: rest →
        ExpiresPending calls (interleave hash order calls policy before) turn.1 := by
  constructor
  · intro once before turn rest split
    have here := once before ⟨turn :: rest, split.symm⟩
    have next := once (before ++ [turn]) (StepRun.upTo_of_cut split)
    rw [interleave, StepRun.run_append] at next
    exact expiresPending_of_decidedOnce (interleave_tracked policy before) here next
  · intro timely before reached
    have balanced : ∀ before, before <+: turns → Balanced calls (interleave hash order calls policy before) := by
      apply StepRun.run_invariant_cut (Balanced calls) (balanced_start calls policy)
      intro before turn rest split balanced
      exact balanced.step (interleave_tracked policy before) distinct (GateSystem.move_step turn)
        (timely before turn rest split)
    exact (balanced before reached).decidedOnce (interleave_tracked policy before)

/-- One request, an approval of it and an expiry sweep. -/
inductive SweepIndex where
  | request
  | approval
  | sweep
deriving DecidableEq

def sweepCalls : SweepIndex → GateCall
  | .request => .evaluate
      { actionId := "act_1", proposedByCapsuleId := "ai:agent-42", targetResource := "/data/export/secret.csv",
        requiredCapability := "filesystem:read", submittedAt := 0 }
  | .approval => .approveManually "act_1" "human:operator"
  | .sweep => .expireStalePending

/-- The request is parked and the sweep finishes before the approval comes. -/
def sweepFirst : List (SweepIndex × DateTime) :=
  [(.request, 0), (.request, 0), (.request, 0), (.sweep, seconds 300), (.sweep, seconds 300), (.approval, seconds 301)]

/-- The approval comes between the two sections of the sweep. -/
def approvalBetween : List (SweepIndex × DateTime) :=
  [(.request, 0), (.request, 0), (.request, 0), (.sweep, seconds 300), (.approval, seconds 300), (.sweep, seconds 301)]

theorem sweepCalls_distinct : DistinctActions sweepCalls := by
  intro first second request other evaluates again _
  cases first with
  | request =>
    cases second with
    | request => rfl
    | approval => cases again
    | sweep => cases again
  | approval => cases evaluates
  | sweep => cases evaluates

theorem decidedOnce_sweepFirst :
    DistinctActions sweepCalls ∧ DecidedOnce sweepCalls
      (interleave (fun request _ _ => request.actionId) (.stored _) sweepCalls .humanRequired sweepFirst) := by
  refine ⟨sweepCalls_distinct, (decidedOnce_iff _ _ _ sweepCalls_distinct _ _).mpr ?_ sweepFirst List.prefix_rfl⟩
  apply (StepRun.along_iff_cut (GateSystem.move _ _ sweepCalls)
    (fun system (turn : SweepIndex × DateTime) => ExpiresPending sweepCalls system turn.1) _ sweepFirst).mp
  refine ⟨?_, ?_, ?_, ?_, ?_, ?_, trivial⟩ <;> intro collectedAt expired call phase
  · cases call
  · cases call
  · cases call
  · cases phase
  · cases phase
    decide
  · cases call

theorem not_decidedOnce_approvalBetween :
    ¬ ∀ before, before <+: approvalBetween →
      DecidedOnce sweepCalls
        (interleave (fun request _ _ => request.actionId) (.stored _) sweepCalls .humanRequired before) := by
  intro once
  have bound := (once approvalBetween List.prefix_rfl "act_1").1
  revert bound
  decide

end Aios.Runtime.Gate
