import Aios.Evidence.IndexConsistency
import Aios.Evidence.Subscribe

/-! # Resuming behind a bookmark

The replay of a subscription beside the whole history of the in-memory log. The history is what the appends of a run
have returned; a seal takes the receipts that are still open out of the chain, and the replay walks the chain alone.
-/

namespace Aios.Evidence

open Aios.Rust

namespace SubscribeRequest

theorem behind_of_notMem {bookmark : String} {wires : List WireReceipt}
    (unknown : bookmark ∉ wires.map WireReceipt.receiptId) : behind bookmark wires = [] := by
  induction wires with
  | nil => rfl
  | cons wire rest ih =>
    rw [List.map_cons, List.mem_cons, not_or] at unknown
    rw [behind, if_neg (Ne.symm unknown.1)]
    exact ih unknown.2

/-- The receipts before the bookmark do not matter. -/
theorem behind_append_of_notMem {bookmark : String} {first : List WireReceipt} (second : List WireReceipt)
    (unknown : bookmark ∉ first.map WireReceipt.receiptId) :
    behind bookmark (first ++ second) = behind bookmark second := by
  induction first with
  | nil => rfl
  | cons wire rest ih =>
    rw [List.map_cons, List.mem_cons, not_or] at unknown
    rw [List.cons_append, behind, if_neg (Ne.symm unknown.1)]
    exact ih unknown.2

/-- A subscription that has been taken has read its filter. -/
theorem subscribe_eq_ok {σ ι : Type} {publisher : Handover.Publisher σ ι EvidenceReceiptId WireReceipt}
    {receipts : σ → List EvidenceReceipt} {request : SubscribeRequest}
    {logged : ∀ state, publisher.log state = (receipts state).map receiptToProto}
    {subscription : Handover.Subscription publisher} (subscribed : request.subscribe logged = .ok subscription) :
    ∃ recordFilter, (∀ state, subscription.replay state = request.replay recordFilter (receipts state)) ∧
      subscription.passes = request.livePasses recordFilter := by
  obtain ⟨recordFilter, -, made⟩ := Fallible.bind_eq_ok_iff.mp subscribed
  cases made
  exact ⟨recordFilter, fun _ => rfl, rfl⟩

end SubscribeRequest

namespace InMemoryEvidenceLog

variable {codec : Codec} {ed25519 : Ed25519} {signingKey : SigningKey}

/-- A seal leaves the state alone or starts a new chain. -/
theorem sealState_cases (retentionClass : RetentionClass) (sealedAt : DateTime) (stamp : Stamp) (state : State) :
    (∃ failure, sealState codec ed25519 signingKey retentionClass sealedAt stamp state = .error failure state) ∨
    ∃ segment link, sealState codec ed25519 signingKey retentionClass sealedAt stamp state =
      .ok segment ⟨.new, link⟩ := by
  rw [sealState, Stateful.get_bind_apply]
  split_ifs
  · exact .inl ⟨.emptySegment, rfl⟩
  · cases Segment.ofReceipts retentionClass state.chain.receipts with
    | error failure => exact .inl ⟨failure, Stateful.ofExcept_error_bind_apply ..⟩
    | ok segment =>
      rw [Stateful.ofExcept_ok_bind_apply]
      cases Segment.seal codec ed25519 segment (state.previousSegmentLink.map Prod.fst)
          (state.previousSegmentLink.map Prod.snd) signingKey sealedAt stamp with
      | error failure => exact .inl ⟨failure, Stateful.ofExcept_error_bind_apply ..⟩
      | ok sealed =>
        rw [Stateful.ofExcept_ok_bind_apply]
        exact .inr ⟨sealed, _, rfl⟩

namespace Sealing

variable (codec ed25519 signingKey)

/-- The receipt that an append returns. -/
def returned (self : Sealing) : Section → List WireReceipt
  | .append request stamp =>
    match InMemoryEvidenceLog.append codec ed25519 signingKey request stamp self.log.state with
    | .ok wire _ => [wire]
    | .error .. => []
  | .sealState .. | .record _ => []

/-- The receipts that have been appended in a run, from the first. -/
def appended (sections : List Section) : List WireReceipt :=
  (StepRun.trace (step codec ed25519 signingKey) (returned codec ed25519 signingKey) new sections).flatMap Prod.snd

/-- The receipts of the open segment. -/
def openReceipts (self : Sealing) : List WireReceipt := self.log.state.chain.receipts.map receiptToProto

/-- The replay after a run is the receipts behind the bookmark that pass the filter and the ceiling, from the whole
history. -/
def ReplaysHistory (request : SubscribeRequest)
    (subscription : Handover.Subscription (publisher codec ed25519 signingKey)) (sections : List Section) : Prop :=
  subscription.replay (run codec ed25519 signingKey sections).log.state =
    (SubscribeRequest.behind request.resumeFromReceiptId (appended codec ed25519 signingKey sections)).filter
      subscription.passes

variable {codec ed25519 signingKey} {self : Sealing}

/-- Each section adds what it returns to the open receipts, or takes them all away. -/
theorem openReceipts_step (section' : Section) :
    (self.step codec ed25519 signingKey section').openReceipts =
      self.openReceipts ++ self.returned codec ed25519 signingKey section' ∨
    (self.step codec ed25519 signingKey section').openReceipts = [] ∧
      self.returned codec ed25519 signingKey section' = [] := by
  cases section' with
  | append request stamp =>
    left
    obtain ⟨status, failed⟩ | ⟨receipt, -, added⟩ :=
      append_cases codec ed25519 signingKey request stamp self.log.state
    · rw [step, returned, failed]
      exact (List.append_nil _).symm
    · rw [step, returned, added]
      exact List.map_append
  | sealState retentionClass sealedAt stamp =>
    obtain ⟨failure, failed⟩ | ⟨segment, link, done⟩ :=
      @sealState_cases codec ed25519 signingKey retentionClass sealedAt stamp self.log.state
    · left
      rw [step, failed]
      exact (List.append_nil _).symm
    · right
      rw [step, done]
      exact ⟨rfl, rfl⟩
  | record sealer =>
    left
    rw [step, returned, List.append_nil]
    cases self.underWay[sealer]? <;> rfl

/-- A returned receipt carries the id that its append has drawn. -/
theorem returned_ids (section' : Section) :
    ((self.returned codec ed25519 signingKey section').map WireReceipt.receiptId).Sublist
      (section'.ulids.map EvidenceReceiptId.new) := by
  cases section' with
  | append request stamp =>
    obtain ⟨status, failed⟩ | ⟨receipt, minted, added⟩ :=
      append_cases codec ed25519 signingKey request stamp self.log.state
    · rw [returned, failed]
      exact List.nil_sublist _
    · rw [returned, added, Section.ulids, List.map_singleton, List.map_singleton, ← minted]
      exact List.Sublist.refl _
  | sealState retentionClass sealedAt stamp => exact List.nil_sublist _
  | record sealer => exact List.nil_sublist _

/-- The history splits into receipts that seals have taken away and those that are open. -/
structure Journal (before : List Section) (history : List WireReceipt) (sealing : Sealing) : Prop where
  ends : sealing.openReceipts <:+ history
  ids : (history.map WireReceipt.receiptId).Sublist ((before.flatMap Section.ulids).map EvidenceReceiptId.new)

theorem Journal.step {before : List Section} {history : List WireReceipt} (kept : Journal before history self)
    (section' : Section) :
    Journal (before ++ [section']) (history ++ self.returned codec ed25519 signingKey section')
      (self.step codec ed25519 signingKey section') where
  ends := by
    obtain more | ⟨none, -⟩ := @openReceipts_step codec ed25519 signingKey self section'
    · rw [more]
      obtain ⟨taken, history⟩ := kept.ends
      exact ⟨taken, by rw [← history, List.append_assoc]⟩
    · rw [none]
      exact List.nil_suffix
  ids := by
    rw [List.map_append, List.flatMap_append, List.map_append, List.flatMap_singleton]
    exact kept.ids.append (returned_ids section')

theorem appended_append_singleton (before : List Section) (section' : Section) :
    appended codec ed25519 signingKey (before ++ [section']) =
      appended codec ed25519 signingKey before ++
        (run codec ed25519 signingKey before).returned codec ed25519 signingKey section' := by
  rw [appended, StepRun.trace_append_singleton, List.flatMap_append, List.flatMap_singleton]
  rfl

theorem journal_run (sections : List Section) :
    Journal sections (appended codec ed25519 signingKey sections) (run codec ed25519 signingKey sections) := by
  have initial : Journal [] (appended codec ed25519 signingKey []) new := ⟨List.suffix_refl _, List.nil_sublist _⟩
  refine StepRun.run_invariant_along
    (fun before sealing => Journal before (appended codec ed25519 signingKey before) sealing) initial ?_ sections
    (List.prefix_refl _)
  intro before section' rest _ kept
  rw [appended_append_singleton]
  exact kept.step section'

/-- The receipts that seals have taken away come before the open ones. -/
theorem behind_history {sections : List Section} (fresh : (sections.flatMap Section.ulids).Nodup) {bookmark : String} :
    (bookmark ∈ (run codec ed25519 signingKey sections).openReceipts.map WireReceipt.receiptId →
      SubscribeRequest.behind bookmark (appended codec ed25519 signingKey sections) =
        SubscribeRequest.behind bookmark (run codec ed25519 signingKey sections).openReceipts) ∧
    (bookmark ∉ (run codec ed25519 signingKey sections).openReceipts.map WireReceipt.receiptId →
      SubscribeRequest.behind bookmark (run codec ed25519 signingKey sections).openReceipts = []) := by
  refine ⟨fun listed => ?_, SubscribeRequest.behind_of_notMem⟩
  have journal : Journal sections (appended codec ed25519 signingKey sections)
    (run codec ed25519 signingKey sections) := journal_run sections
  obtain ⟨taken, history⟩ := journal.ends
  have distinct := journal.ids.nodup (fresh.map EvidenceReceiptId.new_injective)
  rw [← history, List.map_append] at distinct
  rw [← history]
  apply SubscribeRequest.behind_append_of_notMem
  exact fun before => List.disjoint_of_nodup_append distinct before listed

/-- The replay behind a receipt that has been appended is the later receipts of the whole history exactly if the
receipt is still in the open segment or no later one passes. -/
theorem replaysHistory_iff (codec : Codec) (ed25519 : Ed25519) (signingKey : SigningKey) (sections : List Section)
    (fresh : (sections.flatMap Section.ulids).Nodup) (request : SubscribeRequest)
    (subscription : Handover.Subscription (publisher codec ed25519 signingKey))
    (subscribed : subscribe codec ed25519 signingKey request = .ok subscription)
    (logged : request.resumeFromReceiptId ∈
      (appended codec ed25519 signingKey sections).map WireReceipt.receiptId) :
    ReplaysHistory codec ed25519 signingKey request subscription sections ↔
      request.resumeFromReceiptId ∈
          (run codec ed25519 signingKey sections).openReceipts.map WireReceipt.receiptId ∨
        ∀ wire ∈ SubscribeRequest.behind request.resumeFromReceiptId (appended codec ed25519 signingKey sections),
          subscription.passes wire = false := by
  have blank : request.resumeFromReceiptId ≠ "" := by
    obtain ⟨ulid, -, named⟩ := List.mem_map.mp ((journal_run sections).ids.subset logged)
    exact named ▸ EvidenceReceiptId.new_ne_empty ulid
  have replayed : subscription.replay (run codec ed25519 signingKey sections).log.state =
      (SubscribeRequest.behind request.resumeFromReceiptId
        (run codec ed25519 signingKey sections).openReceipts).filter subscription.passes := by
    obtain ⟨recordFilter, replays, passes⟩ := SubscribeRequest.subscribe_eq_ok subscribed
    rw [replays, passes, SubscribeRequest.replay_eq_wanted, SubscribeRequest.wanted, if_neg blank]
    rfl
  obtain ⟨inside, outside⟩ := @behind_history codec ed25519 signingKey sections fresh request.resumeFromReceiptId
  rw [ReplaysHistory, replayed]
  by_cases listed : request.resumeFromReceiptId ∈
      (run codec ed25519 signingKey sections).openReceipts.map WireReceipt.receiptId
  · rw [inside listed]
    exact iff_of_true rfl (.inl listed)
  · rw [outside listed, List.filter_nil, eq_comm, List.filter_eq_nil_iff]
    simp only [listed, false_or, Bool.not_eq_true]

/-! ## A bookmark that a seal has taken away -/

/-- A seal between two receipts. -/
def sealedBetween : List Section :=
  [.append actionRequest ⟨"01ARZ3NDEKTSV4RRFFQ69G5FAV", 0⟩, .sealState .standard24M 0 ⟨"01ARZ3NDEKTSV4RRFFQ69G5FAW", 0⟩,
   .append actionRequest ⟨"01ARZ3NDEKTSV4RRFFQ69G5FAX", 0⟩]

/-- A request to resume behind the first of them. -/
def behindFirst : SubscribeRequest := { everyReceipt with resumeFromReceiptId := firstReceipt.receiptId }

theorem sealedBetween_fresh : (sealedBetween.flatMap Section.ulids).Nodup := by decide +kernel

theorem sealedBetween_replays_iff :
    ∃ subscription, subscribe sealCodec sealEd25519 logKey behindFirst = .ok subscription ∧
      (ReplaysHistory sealCodec sealEd25519 logKey behindFirst subscription sealedBetween ↔
        behindFirst.resumeFromReceiptId ∈
            (run sealCodec sealEd25519 logKey sealedBetween).openReceipts.map WireReceipt.receiptId ∨
          ∀ wire ∈ SubscribeRequest.behind behindFirst.resumeFromReceiptId
            (appended sealCodec sealEd25519 logKey sealedBetween), subscription.passes wire = false) :=
  ⟨_, rfl, replaysHistory_iff sealCodec sealEd25519 logKey sealedBetween sealedBetween_fresh behindFirst _ rfl
    (by decide +kernel)⟩

/-- The receipt behind the bookmark is still open, and the replay does not have it. -/
theorem sealedBetween_not_replayed :
    ¬∀ (codec : Codec) (ed25519 : Ed25519) (signingKey : SigningKey) (sections : List Section),
      (sections.flatMap Section.ulids).Nodup → ∀ request subscription,
        subscribe codec ed25519 signingKey request = .ok subscription →
        request.resumeFromReceiptId ∈ (appended codec ed25519 signingKey sections).map WireReceipt.receiptId →
        ReplaysHistory codec ed25519 signingKey request subscription sections := by
  intro replays
  obtain ⟨subscription, subscribed, silent, later⟩ : ∃ subscription,
      subscribe sealCodec sealEd25519 logKey behindFirst = .ok subscription ∧
      (subscription.replay (run sealCodec sealEd25519 logKey sealedBetween).log.state).length = 0 ∧
      ((SubscribeRequest.behind behindFirst.resumeFromReceiptId
        (appended sealCodec sealEd25519 logKey sealedBetween)).filter subscription.passes).length = 1 :=
    ⟨_, rfl, by decide +kernel, by decide +kernel⟩
  have whole := replays sealCodec sealEd25519 logKey sealedBetween sealedBetween_fresh behindFirst subscription
    subscribed (by decide +kernel)
  rw [ReplaysHistory] at whole
  rw [whole, later] at silent
  cases silent

end Sealing

end InMemoryEvidenceLog

end Aios.Evidence
