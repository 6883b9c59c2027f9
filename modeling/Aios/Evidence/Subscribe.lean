import Aios.Evidence.SealOrder
import Aios.Evidence.Transactions
import Aios.Lib.Handover

/-! # Subscriptions

The embedding of `subscribe`, which both backends have word for word: the replay is taken under the lock of the log,
and the subscription registers on the broadcast channel after the lock is free again, as an append pushes under the
lock and sends after it. A channel that lags is left out.
-/

namespace Aios.Evidence

open Aios.Rust
open Handover (Publisher Subscription Subscriber Feed Move)

/-! ## What a subscriber asks for -/

namespace SubscribeRequest

variable (self : SubscribeRequest) (recordFilter : List RecordType)

def filtersPass (wire : WireReceipt) : Bool :=
  subscribeFiltersPass wire recordFilter self.subjectFilter self.correlationIdFilter

/-- The loop over the chain, which emits once it has passed the bookmark. -/
def replayFrom : Bool → List EvidenceReceipt → List WireReceipt
  | _, [] => []
  | false, receipt :: rest => replayFrom (receipt.receiptId == self.resumeFromReceiptId) rest
  | true, receipt :: rest =>
    if !self.ceiling.admits receipt then replayFrom true rest
    else if self.filtersPass recordFilter (receiptToProto receipt) then receiptToProto receipt :: replayFrom true rest
    else replayFrom true rest

def replay (receipts : List EvidenceReceipt) : List WireReceipt :=
  self.replayFrom recordFilter (self.resumeFromReceiptId == "") receipts

/-- The filter of the live stream. -/
def livePasses (wire : WireReceipt) : Bool :=
  match recordTypeFromProtoI32 wire.recordType with
  | .error _ => false
  | .ok recordType => self.ceiling.admitsWire wire.subject recordType && self.filtersPass recordFilter wire

/-- What comes behind the bookmark. -/
def behind (bookmark : String) : List WireReceipt → List WireReceipt
  | [] => []
  | wire :: rest => if wire.receiptId = bookmark then rest else behind bookmark rest

/-- The receipts behind the bookmark that pass the filter and the ceiling. -/
def wanted (wires : List WireReceipt) : List WireReceipt :=
  (if self.resumeFromReceiptId = "" then wires else behind self.resumeFromReceiptId wires).filter
    (self.livePasses recordFilter)

variable {self recordFilter}

variable (receipts : List EvidenceReceipt) (wires : List WireReceipt)

theorem livePasses_receiptToProto (receipt : EvidenceReceipt) :
    self.livePasses recordFilter (receiptToProto receipt) =
      (self.ceiling.admits receipt && self.filtersPass recordFilter (receiptToProto receipt)) := by
  have read : recordTypeFromProtoI32 (receiptToProto receipt).recordType = .ok receipt.recordType :=
    recordTypeFromProtoI32_toI32 receipt.recordType
  rw [livePasses, read]
  exact congrArg (· && _) (admitsWire_receiptToProto self.ceiling receipt)

theorem replayFrom_true :
    self.replayFrom recordFilter true receipts =
      (receipts.map receiptToProto).filter (self.livePasses recordFilter) := by
  induction receipts with
  | nil => rfl
  | cons receipt rest ih =>
    rw [replayFrom, List.map_cons, List.filter_cons, livePasses_receiptToProto, ih]
    cases self.ceiling.admits receipt <;> rfl

theorem replayFrom_false :
    self.replayFrom recordFilter false receipts =
      (behind self.resumeFromReceiptId (receipts.map receiptToProto)).filter (self.livePasses recordFilter) := by
  induction receipts with
  | nil => rfl
  | cons receipt rest ih =>
    rw [replayFrom, List.map_cons, behind]
    by_cases found : receipt.receiptId = self.resumeFromReceiptId
    · rw [beq_iff_eq.mpr found, replayFrom_true]
      exact congrArg _ (if_pos found).symm
    · rw [beq_eq_false_iff_ne.mpr found, ih]
      exact congrArg _ (if_neg found).symm

/-- The replay is what is wanted of the chain. -/
theorem replay_eq_wanted :
    self.replay recordFilter receipts = self.wanted recordFilter (receipts.map receiptToProto) := by
  rw [replay, wanted]
  by_cases blank : self.resumeFromReceiptId = ""
  · rw [beq_iff_eq.mpr blank, if_pos blank, replayFrom_true]
  · rw [beq_eq_false_iff_ne.mpr blank, if_neg blank, replayFrom_false]

theorem behind_sublist (bookmark : String) (wires : List WireReceipt) : (behind bookmark wires).Sublist wires := by
  induction wires with
  | nil => exact List.Sublist.refl _
  | cons wire rest ih =>
    rw [behind]
    split_ifs
    · exact List.sublist_cons_self _ _
    · exact ih.cons _

/-- A receipt comes behind the bookmark or before it. -/
theorem behind_push (bookmark : String) (wires : List WireReceipt) (wire : WireReceipt) :
    behind bookmark (wires ++ [wire]) = behind bookmark wires ∨
      behind bookmark (wires ++ [wire]) = behind bookmark wires ++ [wire] := by
  induction wires with
  | nil =>
    left
    rw [List.nil_append, behind, behind]
    exact ite_self _
  | cons first rest ih =>
    rw [List.cons_append, behind, behind]
    split_ifs
    · exact .inr rfl
    · exact ih

theorem wanted_sublist : (self.wanted recordFilter wires).Sublist wires := by
  rw [wanted]
  refine List.filter_sublist.trans ?_
  split_ifs
  · exact List.Sublist.refl _
  · exact behind_sublist _ _

theorem wanted_push (wire : WireReceipt) :
    self.wanted recordFilter (wires ++ [wire]) = self.wanted recordFilter wires ∨
      self.wanted recordFilter (wires ++ [wire]) = self.wanted recordFilter wires ++ [wire] := by
  have added (asked : List WireReceipt) : (asked ++ [wire]).filter (self.livePasses recordFilter) =
      asked.filter (self.livePasses recordFilter) ∨
      (asked ++ [wire]).filter (self.livePasses recordFilter) = asked.filter (self.livePasses recordFilter) ++
      [wire] := by
    rw [List.filter_append, List.filter_cons]
    cases self.livePasses recordFilter wire with
    | false => exact .inl (List.append_nil _)
    | true => exact .inr rfl
  rw [wanted, wanted]
  split_ifs
  · exact added wires
  · obtain same | more := behind_push self.resumeFromReceiptId wires wire
    · exact .inl (congrArg _ same)
    · rw [more]
      exact added _

end SubscribeRequest

/-! ## The publishers -/

/-- A call of `append`, with what it draws. -/
structure Appending where
  request : AppendRequest
  stamp : Stamp

section

variable (codec : Codec) (ed25519 : Ed25519) (signingKey : SigningKey)

variable (request : AppendRequest) (stamp : Stamp)

/-- An append of the in-memory log fails and leaves the chain alone, or returns the receipt it has pushed. -/
theorem InMemoryEvidenceLog.append_cases (state : InMemoryEvidenceLog.State) :
    (∃ status, append codec ed25519 signingKey request stamp state = .error status state) ∨
    ∃ receipt, receipt.receiptId = .new stamp.ulid ∧ append codec ed25519 signingKey request stamp state =
      .ok (receiptToProto receipt) { state with chain := ⟨state.chain.receipts ++ [receipt]⟩ } := by
  rw [append]
  cases request.builder codec with
  | error status => exact .inl ⟨status, rfl⟩
  | ok builder =>
    rw [Stateful.ofExcept_ok_bind_apply, Stateful.bind_apply, Stateful.adaptExcept_apply, appendSealed,
      Stateful.get_bind_apply]
    cases made : builder.sealSigned codec ed25519 state.chain.receipts.getLast? signingKey stamp with
    | error failure => exact .inl ⟨failure.toStatus, rfl⟩
    | ok receipt =>
      rw [Stateful.ofExcept_ok_bind_apply, Stateful.bind_apply, onChain, Stateful.zoom, ReceiptChain.append_apply]
      cases state.chain.checkAppend codec receipt with
      | error failure => exact .inl ⟨failure.toStatus, rfl⟩
      | ok value => exact .inr ⟨receipt, (ReceiptBuilder.sealSigned_eq_ok made).1.receiptId, rfl⟩

def InMemoryEvidenceLog.publisher : Publisher InMemoryEvidenceLog.State Appending EvidenceReceiptId WireReceipt where
  push appending state :=
    match append codec ed25519 signingKey appending.request appending.stamp state with
    | .ok wire after => (some wire, after)
    | .error _ after => (none, after)
  log state := state.chain.receipts.map receiptToProto
  key := WireReceipt.receiptId
  mints appending := .new appending.stamp.ulid
  pushes appending state := by
    obtain ⟨status, failed⟩ | ⟨receipt, minted, added⟩ :=
      append_cases codec ed25519 signingKey appending.request appending.stamp state
    · rw [failed]
      exact .inl ⟨rfl, rfl⟩
    · rw [added]
      exact .inr ⟨receiptToProto receipt, minted, rfl, List.map_append⟩

/-- An append of the persistent log whose process does not stop. -/
theorem RocksDbEvidenceLog.append_cases (refusal : Option String) (log : RocksDbEvidenceLog) :
    (∃ halt, append codec ed25519 signingKey request stamp (refusal.elim .written .refused) log = .error halt log) ∨
    ∃ receipt, receipt.receiptId = .new stamp.ulid ∧
      append codec ed25519 signingKey request stamp (refusal.elim .written .refused) log =
        .ok (receiptToProto receipt) (log.appended receipt) := by
  rw [append_apply]
  cases request.builder codec with
  | error status => exact .inl ⟨.failed status, rfl⟩
  | ok builder =>
    dsimp only
    obtain ⟨failure, -, failed⟩ | ⟨receipt, made, done⟩ :=
      appendSealed_cases codec ed25519 signingKey builder stamp (refusal.elim .written .refused) log
    · rw [failed]
      exact .inl ⟨.failed failure.toStatus, rfl⟩
    · generalize appendSealed codec ed25519 signingKey builder stamp (refusal.elim .written .refused) log =
        result at done
      cases done with
      | written _ => exact .inr ⟨receipt, (ReceiptBuilder.sealSigned_eq_ok made).1.receiptId, rfl⟩
      | refused message failure _ => exact .inl ⟨.failed failure.toStatus, rfl⟩
      | stopped committed last stops _ => cases refusal <;> cases stops

/-- The database may refuse the write of an append. -/
def RocksDbEvidenceLog.publisher :
    Publisher RocksDbEvidenceLog (Appending × Option String) EvidenceReceiptId WireReceipt where
  push input log :=
    match append codec ed25519 signingKey input.1.request input.1.stamp (input.2.elim .written .refused) log with
    | .ok wire after => (some wire, after)
    | .error _ after => (none, after)
  log log := log.state.current.receipts.map receiptToProto
  key := WireReceipt.receiptId
  mints input := .new input.1.stamp.ulid
  pushes input log := by
    obtain ⟨halt, failed⟩ | ⟨receipt, minted, added⟩ :=
      append_cases codec ed25519 signingKey input.1.request input.1.stamp input.2 log
    · rw [failed]
      exact .inl ⟨rfl, rfl⟩
    · rw [added]
      exact .inr ⟨receiptToProto receipt, minted, rfl, List.map_append⟩

end

/-! ## Subscribing -/

section

variable {σ ι : Type} {publisher : Publisher σ ι EvidenceReceiptId WireReceipt} {receipts : σ → List EvidenceReceipt}

/-- `subscribe` on a log with the given chain of receipts. -/
def SubscribeRequest.subscribe (self : SubscribeRequest)
    (logged : ∀ state, publisher.log state = (receipts state).map receiptToProto) :
    Except Status (Subscription publisher) := do
  let recordFilter ← (self.recordTypesFilter.mapM recordTypeFromProtoI32).mapError EvidenceError.toStatus
  pure {
    replay := fun state => self.replay recordFilter (receipts state)
    passes := self.livePasses recordFilter
    wanted := self.wanted recordFilter
    replay_eq := fun state => logged state ▸ replay_eq_wanted (receipts state)
    wanted_sublist := wanted_sublist
    wanted_passes := fun _ _ member => (List.mem_filter.mp member).2
    wanted_push := wanted_push }

end

variable (codec : Codec) (ed25519 : Ed25519) (signingKey : SigningKey)

def InMemoryEvidenceLog.subscribe (request : SubscribeRequest) :
    Except Status (Subscription (publisher codec ed25519 signingKey)) :=
  @SubscribeRequest.subscribe _ _ (publisher codec ed25519 signingKey) (fun state => state.chain.receipts) request
    fun _ => rfl

def RocksDbEvidenceLog.subscribe (request : SubscribeRequest) :
    Except Status (Subscription (publisher codec ed25519 signingKey)) :=
  @SubscribeRequest.subscribe _ _ (publisher codec ed25519 signingKey) (fun log => log.state.current.receipts) request
    fun _ => rfl

/-- In every state of every interleaving of appends with a subscription, the subscriber has been delivered the receipts
it asks for once and in order, up to those still to be sent, exactly if every step is in turn. -/
theorem delivered_once_iff (request : SubscribeRequest) :
    (∀ subscription, InMemoryEvidenceLog.subscribe codec ed25519 signingKey request = .ok subscription →
      ∀ state moves, (InMemoryEvidenceLog.publisher codec ed25519 signingKey).Fresh state moves →
        ((∀ before, before <+: moves → (Feed.run subscription state before).Delivers subscription) ↔
          ∀ before move rest, moves = before ++ move :: rest →
            (Feed.run subscription state before).InTurn subscription move)) ∧
    ∀ subscription, RocksDbEvidenceLog.subscribe codec ed25519 signingKey request = .ok subscription →
      ∀ log moves, (RocksDbEvidenceLog.publisher codec ed25519 signingKey).Fresh log moves →
        ((∀ before, before <+: moves → (Feed.run subscription log before).Delivers subscription) ↔
          ∀ before move rest, moves = before ++ move :: rest →
            (Feed.run subscription log before).InTurn subscription move) :=
  ⟨fun subscription _ state moves fresh => Feed.delivers_iff subscription state moves fresh,
    fun subscription _ log moves fresh => Feed.delivers_iff subscription log moves fresh⟩

/-! ## A receipt in the gap -/

open InMemoryEvidenceLog (actionRequest)

/-- A caller without a subject asks for every receipt. -/
def everyReceipt : SubscribeRequest := ⟨[], "", "", "", "", "", false, false⟩

def appending : Appending := ⟨actionRequest, ⟨"01ARZ3NDEKTSV4RRFFQ69G5FAV", 0⟩⟩

/-- An append that comes in between the two steps of a subscription. -/
def gap : List (Move Appending) := [.snapshot, .push appending, .send 0, .register]

theorem gap_delivered_iff :
    (∃ subscription, InMemoryEvidenceLog.subscribe sealCodec sealEd25519 logKey everyReceipt = .ok subscription ∧
      ((∀ before, before <+: gap → (Feed.run subscription ⟨.new, none⟩ before).Delivers subscription) ↔
        ∀ before move rest, gap = before ++ move :: rest →
          (Feed.run subscription ⟨.new, none⟩ before).InTurn subscription move)) ∧
    ∃ subscription, RocksDbEvidenceLog.subscribe sealCodec sealEd25519 logKey everyReceipt = .ok subscription ∧
      ((∀ before, before <+: [.push (appending, none)] →
          (Feed.run subscription ⟨.blank, ⟨.new DEFAULT_RETENTION, 0⟩⟩ before).Delivers subscription) ↔
        ∀ before move rest, [.push (appending, none)] = before ++ move :: rest →
          (Feed.run subscription ⟨.blank, ⟨.new DEFAULT_RETENTION, 0⟩⟩ before).InTurn subscription move) := by
  obtain ⟨inMemory, rocksDb⟩ := delivered_once_iff sealCodec sealEd25519 logKey everyReceipt
  exact ⟨⟨_, rfl, inMemory _ rfl ⟨.new, none⟩ gap (List.nodup_singleton _)⟩,
    ⟨_, rfl, rocksDb _ rfl ⟨.blank, ⟨.new DEFAULT_RETENTION, 0⟩⟩ [.push (appending, none)] (List.nodup_singleton _)⟩⟩

/-- The receipt is in neither the replay nor the live stream. -/
theorem gap_not_delivered :
    ¬∀ (codec : Codec) (ed25519 : Ed25519) (signingKey : SigningKey) (request : SubscribeRequest) subscription,
      InMemoryEvidenceLog.subscribe codec ed25519 signingKey request = .ok subscription →
      ∀ state moves, (InMemoryEvidenceLog.publisher codec ed25519 signingKey).Fresh state moves →
        ∀ before, before <+: moves → (Feed.run subscription state before).Delivers subscription := by
  intro delivers
  obtain ⟨subscription, subscribed, registered, quiet, asked⟩ : ∃ subscription,
      InMemoryEvidenceLog.subscribe sealCodec sealEd25519 logKey everyReceipt = .ok subscription ∧
      (Feed.run subscription ⟨.new, none⟩ gap).subscriber = .live [] [] ∧
      (Feed.run subscription ⟨.new, none⟩ gap).unsent = [] ∧
      ((Feed.run subscription ⟨.new, none⟩ gap).wanted subscription).length = 1 :=
    ⟨_, rfl, by decide +kernel, by decide +kernel, by decide +kernel⟩
  have inStep := delivers sealCodec sealEd25519 logKey everyReceipt subscription subscribed ⟨.new, none⟩ gap
    (List.nodup_singleton _) gap (List.prefix_refl _)
  rw [Feed.Delivers, registered, quiet] at inStep
  obtain ⟨receipt, alone⟩ := List.length_eq_one_iff.mp asked
  rw [alone] at inStep
  exact List.not_mem_nil (inStep.complete receipt (List.mem_singleton_self _) List.not_mem_nil)

end Aios.Evidence
