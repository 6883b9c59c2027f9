import Aios.Evidence.CrashConsistency
import Aios.Evidence.SealOrder

/-! # The agreement of the backends

The in-memory and the persistent log under the same calls, which draw the same ids and read the same clock. Both show
one archive throughout, and they give the same replies but for two calls: `verify_chain` while the open segment is
empty, and `read_receipt` of a receipt that a seal has moved.
-/

namespace Aios.Evidence

open Aios.Rust

/-- A call of the service, with what it draws. A segment of the persistent log is always sealed under its default
class, which the in-memory log takes as an argument. -/
inductive Call where
  | append (request : AppendRequest) (stamp : Stamp)
  | sealCurrentSegment (sealedAt : DateTime) (stamp : Stamp)
  | readReceipt (request : ReadReceiptRequest)
  | query (request : QueryRequest)
  | verifyChain

namespace Call

def ulids : Call → List String
  | .append _ stamp | .sealCurrentSegment _ stamp => [stamp.ulid]
  | .readReceipt _ | .query _ | .verifyChain => []

def times : Call → List DateTime
  | .sealCurrentSegment sealedAt _ => [sealedAt]
  | .append .. | .readReceipt _ | .query _ | .verifyChain => []

end Call

/-- What a caller sees, without the texts of failures and the detection method, which names the backend. -/
inductive Reply where
  | receipt (result : Except Code WireReceipt)
  | segment (result : Except Code SealedSegment)
  | hits (result : Except Code QueryResponse)
  | verification (result : Except Code VerifyChainResponse)
  | stopped

namespace Reply

variable {α ε : Type}

def ofStatus (wrap : Except Code α → Reply) (result : Except Status α) : Reply := wrap (result.mapError Status.code)

def ofVerification (result : Except Status VerifyChainResponse) : Reply :=
  ofStatus .verification (result.map fun response => { response with detectionMethod := "" })

def ofResult {σ : Type} (wrap : Except Code α → Reply) (code : ε → Code) : EStateM.Result ε σ α → Reply
  | .ok value _ => wrap (.ok value)
  | .error failure _ => wrap (.error (code failure))

def ofHalting {σ : Type} (wrap : Except Code α → Reply) (code : ε → Code) : EStateM.Result (Halt ε) σ α → Reply
  | .ok value _ => wrap (.ok value)
  | .error (.failed failure) _ => wrap (.error (code failure))
  | .error .stopped _ => .stopped

end Reply

section

variable (codec : Codec) (ed25519 : Ed25519) (signingKey : SigningKey)

/-- A call whose writes are carried out. -/
def RocksDbEvidenceLog.serve (self : RocksDbEvidenceLog) : Call → Reply × RocksDbEvidenceLog
  | .append request stamp =>
    let result := append codec ed25519 signingKey request stamp .written self
    (.ofHalting .receipt Status.code result, Stateful.finalState result)
  | .sealCurrentSegment sealedAt stamp =>
    let result := RocksDbEvidenceLog.sealCurrentSegment codec ed25519 signingKey sealedAt stamp .written self
    (.ofHalting .segment EvidenceError.toCode result, Stateful.finalState result)
  | .readReceipt request => (.ofStatus .receipt (self.readReceipt request), self)
  | .query request => (.ofStatus .hits (self.query codec request), self)
  | .verifyChain => (.ofVerification (self.verifyChain codec), self)

def InMemoryEvidenceLog.serve (self : InMemoryEvidenceLog) : Call → Reply × InMemoryEvidenceLog
  | .append request stamp =>
    let result := onState (append codec ed25519 signingKey request stamp) self
    (.ofResult .receipt Status.code result, Stateful.finalState result)
  | .sealCurrentSegment sealedAt stamp =>
    let result := InMemoryEvidenceLog.sealCurrentSegment codec ed25519 signingKey DEFAULT_RETENTION sealedAt stamp self
    (.ofResult .segment EvidenceError.toCode result, Stateful.finalState result)
  | .readReceipt request => (.ofStatus .receipt (self.readReceipt request), self)
  | .query request => (.ofStatus .hits (self.query codec request), self)
  | .verifyChain => (.ofVerification (self.verifyChain codec), self)

/-- The log that the first open of a database returns, with the id it mints. -/
def RocksDbEvidenceLog.created (ulid : String) : RocksDbEvidenceLog where
  disk := { Disk.blank with
    schemaVersion := some SCHEMA_VERSION_V1ALPHA1
    logId := some ("aios-evidence-log/" ++ EvidenceReceiptId.new ulid) }
  state := ⟨.new DEFAULT_RETENTION, 0⟩

end

/-- The two logs side by side. -/
structure Backends where
  rocksDb : RocksDbEvidenceLog
  inMemory : InMemoryEvidenceLog

namespace Backends

variable (codec : Codec) (ed25519 : Ed25519) (signingKey : SigningKey)

variable (self : Backends)

def new (ulid : String) : Backends := ⟨.created ulid, .new⟩

def step (call : Call) : Backends where
  rocksDb := (self.rocksDb.serve codec ed25519 signingKey call).2
  inMemory := (self.inMemory.serve codec ed25519 signingKey call).2

def run (ulid : String) (calls : List Call) : Backends := StepRun.run (step codec ed25519 signingKey) (new ulid) calls

/-- A seal has moved a receipt with the id. -/
def Moved (id : String) : Prop :=
  ∃ segment ∈ self.inMemory.sealedSegments.sealed, ∃ receipt ∈ segment.receiptsExcludingTerminal, receipt.receiptId = id

/-- The calls on which the backends are not bound to agree. -/
def Apart : Call → Prop
  | .readReceipt request => self.Moved request.receiptId
  | .verifyChain => self.inMemory.state.chain.receipts = []
  | .append .. | .sealCurrentSegment .. | .query _ => False

/-- The backends give the same reply. -/
def Agree (call : Call) : Prop :=
  (self.rocksDb.serve codec ed25519 signingKey call).1 = (self.inMemory.serve codec ed25519 signingKey call).1

/-- Where the open segment is empty, the persistent log passes over the walk that finds nothing to walk. -/
def EmptyChecked : Prop :=
  (self.rocksDb.serve codec ed25519 signingKey .verifyChain).1 = .verification (.ok ⟨true, 0, "", ""⟩) ∧
    (self.inMemory.serve codec ed25519 signingKey .verifyChain).1 = .verification (.error .failedPrecondition)

end Backends

/-! ## What each backend does to the archive -/

section

variable {codec : Codec} {ed25519 : Ed25519} {signingKey : SigningKey} {ulids : List String} {times : List DateTime}
  {archive : Archive}

theorem RocksDbEvidenceLog.append_written (request : AppendRequest) (stamp : Stamp) (log : RocksDbEvidenceLog) :
    append codec ed25519 signingKey request stamp .written log =
      match request.builder codec with
      | .error status => .error (.failed status) log
      | .ok builder =>
        match builder.sealSigned codec ed25519 log.state.current.receipts.getLast? signingKey stamp with
        | .error failure => .error (.failed failure.toStatus) log
        | .ok receipt => .ok (receiptToProto receipt) (log.appended receipt) := by
  rw [append_apply]
  cases request.builder codec with
  | error status => rfl
  | ok builder =>
    dsimp only
    obtain ⟨failure, made, failed⟩ | ⟨receipt, made, done⟩ :=
      appendSealed_cases codec ed25519 signingKey builder stamp .written log
    · rw [failed, made]
      rfl
    · rw [done.eq_of_written, made]

theorem RocksDbEvidenceLog.sealCurrentSegment_written (sealedAt : DateTime) (stamp : Stamp) (log : RocksDbEvidenceLog) :
    sealCurrentSegment codec ed25519 signingKey sealedAt stamp .written log =
      match log.sealOpen codec ed25519 signingKey sealedAt stamp with
      | .error failure => .error (.failed failure) log
      | .ok segment => .ok segment (log.closed segment) := by
  obtain ⟨failure, made, failed⟩ | ⟨segment, made, done⟩ :=
    sealCurrentSegment_cases codec ed25519 signingKey sealedAt stamp .written log
  · rw [failed, made]
  · rw [done.eq_of_written, made]

end

namespace Backends

variable {codec : Codec} {ed25519 : Ed25519} {signingKey : SigningKey} {ulids : List String} {times : List DateTime}
  {archive : Archive} {self : Backends}

/-- The two logs show one archive, in which nothing has been compacted. -/
structure Shows (codec : Codec) (ed25519 : Ed25519) (signingKey : SigningKey) (ulids : List String)
    (times : List DateTime) (backends : Backends) (archive : Archive) : Prop where
  rocksDb : backends.rocksDb.Shows archive
  inMemory : backends.inMemory.state.Shows archive
  segments : backends.inMemory.sealedSegments.sealed = archive.segments
  kept : archive.compacted = []
  sound : archive.Sound codec ed25519 (ed25519.verifyingKey signingKey) ulids times

theorem shows_new (ulid : String) : (new ulid).Shows codec ed25519 signingKey [] [] .empty where
  rocksDb := ⟨Disk.SameLog.shows ⟨_, _, rfl⟩ Disk.shows_blank, rfl⟩
  inMemory := InMemoryEvidenceLog.shows_new
  segments := rfl
  kept := rfl
  sound := Archive.sound_empty

theorem Shows.mono {ulids' : List String} {times' : List DateTime}
    (shown : self.Shows codec ed25519 signingKey ulids times archive) (more : ulids ⊆ ulids') (later : times ⊆ times') :
    self.Shows codec ed25519 signingKey ulids' times' archive :=
  ⟨shown.rocksDb, shown.inMemory, shown.segments, shown.kept, shown.sound.mono more later⟩

theorem Shows.opened (shown : self.Shows codec ed25519 signingKey ulids times archive) :
    self.rocksDb.state.current.receipts = archive.openReceipts := by rw [shown.rocksDb.state]

theorem Shows.append (shown : self.Shows codec ed25519 signingKey ulids times archive) (request : AppendRequest)
    {stamp : Stamp} (fresh : stamp.ulid ∉ ulids) :
    self.Agree codec ed25519 signingKey (.append request stamp) ∧
      ∃ archive', (self.step codec ed25519 signingKey (.append request stamp)).Shows codec ed25519 signingKey
        (ulids ++ [stamp.ulid]) times archive' := by
  have unchanged := shown.mono (List.subset_append_left ulids [stamp.ulid]) (List.Subset.refl times)
  rw [Agree, step, RocksDbEvidenceLog.serve, InMemoryEvidenceLog.serve, RocksDbEvidenceLog.append_written,
    InMemoryEvidenceLog.onState, Stateful.zoom,
    InMemoryEvidenceLog.append_apply shown.inMemory shown.sound request fresh, shown.opened]
  cases request.builder codec with
  | error status => exact ⟨rfl, archive, unchanged⟩
  | ok builder =>
    dsimp only
    cases made : builder.sealSigned codec ed25519 archive.openReceipts.getLast? signingKey stamp with
    | error failure => exact ⟨rfl, archive, unchanged⟩
    | ok receipt =>
      rw [← shown.opened] at made
      obtain ⟨rocksDb, sound'⟩ := shown.rocksDb.appended shown.sound fresh made
      exact ⟨rfl, archive.append receipt, rocksDb, shown.inMemory.append receipt, shown.segments, shown.kept, sound'⟩

theorem Shows.sealCurrentSegment (shown : self.Shows codec ed25519 signingKey ulids times archive)
    {sealedAt : DateTime} {stamp : Stamp} (fresh : stamp.ulid ∉ ulids)
    (told : SeedsTold codec (ulids ++ [stamp.ulid]) (times ++ [sealedAt])) :
    self.Agree codec ed25519 signingKey (.sealCurrentSegment sealedAt stamp) ∧
      ∃ archive', (self.step codec ed25519 signingKey (.sealCurrentSegment sealedAt stamp)).Shows codec ed25519
        signingKey (ulids ++ [stamp.ulid]) (times ++ [sealedAt]) archive' := by
  have unchanged := shown.mono (List.subset_append_left ulids [stamp.ulid]) (List.subset_append_left times [sealedAt])
  have sealOpen := shown.rocksDb.sealOpen_eq shown.sound sealedAt stamp
  rw [Agree, step, RocksDbEvidenceLog.serve, InMemoryEvidenceLog.serve, RocksDbEvidenceLog.sealCurrentSegment_written,
    InMemoryEvidenceLog.sealCurrentSegment, Stateful.bind_apply, InMemoryEvidenceLog.onState, Stateful.zoom,
    InMemoryEvidenceLog.sealState_apply shown.inMemory]
  cases empty : archive.openReceipts.isEmpty with
  | true =>
    rw [empty] at sealOpen
    rw [sealOpen]
    exact ⟨rfl, archive, unchanged⟩
  | false =>
    rw [empty] at sealOpen
    cases made : Segment.seal codec ed25519 ⟨DEFAULT_RETENTION, archive.openReceipts, false⟩
        (archive.segments.getLast?.map SealedSegment.segmentId)
        (archive.segments.getLast?.map SealedSegment.segmentSealHash) signingKey sealedAt stamp with
    | error failure =>
      rw [made] at sealOpen
      rw [sealOpen]
      exact ⟨rfl, archive, unchanged⟩
    | ok segment =>
      rw [made] at sealOpen
      rw [sealOpen]
      obtain ⟨-, rocksDb, sound'⟩ := shown.rocksDb.closed shown.sound fresh told sealOpen
      refine ⟨rfl, archive.close segment, rocksDb, InMemoryEvidenceLog.State.shows_close archive segment, ?_,
        shown.kept,
        sound'⟩
      change self.inMemory.sealedSegments.sealed ++ [segment] = archive.segments ++ [segment]
      rw [shown.segments]

/-- A receipt that the open segment does not hold is looked up among those that seals have moved. -/
theorem Shows.readReceipt (shown : self.Shows codec ed25519 signingKey ulids times archive)
    {request : ReadReceiptRequest}
    (kept : ¬self.Moved request.receiptId) : self.Agree codec ed25519 signingKey (.readReceipt request) := by
  rw [Agree, RocksDbEvidenceLog.serve, InMemoryEvidenceLog.serve, RocksDbEvidenceLog.readReceipt,
    InMemoryEvidenceLog.readReceipt, shown.opened, shown.inMemory.chain]
  cases search : findReceipt archive.openReceipts request.receiptId with
  | some receipt => rfl
  | none =>
    cases found : self.rocksDb.disk.receipts.lookup request.receiptId with
    | none => rfl
    | some receipt =>
      exfalso
      obtain ⟨warm, named⟩ := (shown.rocksDb.rows.receipts _ _).mp found
      obtain ⟨segment, listed, -, inside⟩ | inside := Archive.mem_warm.mp warm
      · exact kept ⟨segment, shown.segments ▸ listed, receipt, inside, named⟩
      · exact List.find?_eq_none.mp search receipt inside (beq_iff_eq.mpr named)

theorem Shows.query (shown : self.Shows codec ed25519 signingKey ulids times archive) (request : QueryRequest) :
    self.Agree codec ed25519 signingKey (.query request) := by
  rw [Agree, RocksDbEvidenceLog.serve, InMemoryEvidenceLog.serve, RocksDbEvidenceLog.query, InMemoryEvidenceLog.query,
    shown.opened, shown.inMemory.chain]

/-- The chain that the persistent log builds to verify is the one that the in-memory log holds. -/
theorem Shows.verifyChain (shown : self.Shows codec ed25519 signingKey ulids times archive) :
    (self.inMemory.state.chain.receipts ≠ [] → self.Agree codec ed25519 signingKey .verifyChain) ∧
      (self.inMemory.state.chain.receipts = [] → self.EmptyChecked codec ed25519 signingKey) := by
  have chain : self.inMemory.state.chain = ⟨archive.openReceipts⟩ := congrArg ReceiptChain.mk shown.inMemory.chain
  rw [Agree, EmptyChecked, RocksDbEvidenceLog.serve, InMemoryEvidenceLog.serve, RocksDbEvidenceLog.verifyChain,
    InMemoryEvidenceLog.verifyChain, shown.opened, chain,
    ReceiptChain.collect_eq_ok_iff.mpr ⟨shown.sound.chained, rfl⟩]
  dsimp only
  constructor
  · intro filled
    rw [ReceiptChain.verifyIntegrity_eq_ok_iff.mpr ⟨filled, shown.sound.chained⟩, ite_self]
    rfl
  · intro empty
    rw [empty]
    exact ⟨rfl, rfl⟩

/-- Each call takes logs that show one archive to logs that show the next, and the replies agree where they are bound
to. -/
theorem Shows.step (shown : self.Shows codec ed25519 signingKey ulids times archive) {call : Call}
    (fresh : ∀ ulid ∈ call.ulids, ulid ∉ ulids) (told : SeedsTold codec (ulids ++ call.ulids) (times ++ call.times)) :
    (¬self.Apart call → self.Agree codec ed25519 signingKey call) ∧
      ∃ archive', (self.step codec ed25519 signingKey call).Shows codec ed25519 signingKey (ulids ++ call.ulids)
        (times ++ call.times) archive' := by
  cases call with
  | append request stamp =>
    obtain ⟨agree, next⟩ := shown.append request (fresh _ (List.mem_singleton_self _))
    rw [Call.times, List.append_nil]
    exact ⟨fun _ => agree, next⟩
  | sealCurrentSegment sealedAt stamp =>
    obtain ⟨agree, next⟩ := shown.sealCurrentSegment (fresh _ (List.mem_singleton_self _)) told
    exact ⟨fun _ => agree, next⟩
  | readReceipt request =>
    rw [Call.ulids, Call.times, List.append_nil, List.append_nil]
    exact ⟨shown.readReceipt, archive, shown⟩
  | query request =>
    rw [Call.ulids, Call.times, List.append_nil, List.append_nil]
    exact ⟨fun _ => shown.query request, archive, shown⟩
  | verifyChain =>
    rw [Call.ulids, Call.times, List.append_nil, List.append_nil]
    exact ⟨shown.verifyChain.1, archive, shown⟩

theorem shows_run {ulid : String} {calls : List Call}
    (drawn : DrawnApart codec (calls.flatMap Call.ulids) (calls.flatMap Call.times)) :
    ∀ before, before <+: calls → ∃ archive, (run codec ed25519 signingKey ulid before).Shows codec ed25519 signingKey
      (before.flatMap Call.ulids) (before.flatMap Call.times) archive := by
  have initial : ∃ archive, (new ulid).Shows codec ed25519 signingKey [] [] archive := ⟨.empty, shows_new ulid⟩
  refine StepRun.run_invariant_along (fun before (self : Backends) => ∃ archive, self.Shows codec ed25519 signingKey
    (before.flatMap Call.ulids) (before.flatMap Call.times) archive) initial ?_
  rintro before call rest split ⟨archive, shown⟩
  obtain ⟨fresh, -, told⟩ := drawn.step split
  rw [List.flatMap_append, List.flatMap_append, List.flatMap_singleton, List.flatMap_singleton]
  exact (shown.step fresh told).2

/-- The backends give the same reply to every call of a run but for reads of moved receipts and checks of an empty
open segment; there the persistent log reports a consistent chain of no receipts, and the in-memory log fails. -/
theorem replies_agree (codec : Codec) (ed25519 : Ed25519) (signingKey : SigningKey) (ulid : String) (calls : List Call)
    (drawn : DrawnApart codec (calls.flatMap Call.ulids) (calls.flatMap Call.times)) (before : List Call) (call : Call)
    (rest : List Call) (split : calls = before ++ call :: rest) :
    (¬(run codec ed25519 signingKey ulid before).Apart call →
      (run codec ed25519 signingKey ulid before).Agree codec ed25519 signingKey call) ∧
    (call = .verifyChain → (run codec ed25519 signingKey ulid before).Apart call →
      (run codec ed25519 signingKey ulid before).EmptyChecked codec ed25519 signingKey) := by
  obtain ⟨archive, shown⟩ := @shows_run codec ed25519 signingKey ulid calls drawn before ⟨call :: rest, split.symm⟩
  obtain ⟨fresh, -, told⟩ := drawn.step split
  refine ⟨(shown.step fresh told).1, ?_⟩
  rintro rfl empty
  exact shown.verifyChain.2 empty

open InMemoryEvidenceLog (actionRequest sealCodec_told)

/-- One receipt is sealed. -/
def oneSeal : List Call :=
  [.append actionRequest ⟨"01ARZ3NDEKTSV4RRFFQ69G5FAV", 0⟩, .sealCurrentSegment 0 ⟨"01ARZ3NDEKTSV4RRFFQ69G5FAW", 0⟩]

/-- Neither backend finds the terminal receipt that the seal has added. -/
theorem terminal_read_agrees :
    (run sealCodec sealEd25519 logKey "" oneSeal).Agree sealCodec sealEd25519 logKey
      (.readReceipt ⟨firstTerminal.receiptId⟩) := by
  refine (replies_agree sealCodec sealEd25519 logKey "" (oneSeal ++ [.readReceipt ⟨firstTerminal.receiptId⟩]) ?_
    oneSeal (.readReceipt ⟨firstTerminal.receiptId⟩) [] rfl).1 ?_
  · exact ⟨by decide +kernel, sealCodec_told.mono (by decide +kernel) (List.Subset.refl _)⟩
  · change ¬∃ segment ∈ (run sealCodec sealEd25519 logKey "" oneSeal).inMemory.sealedSegments.sealed,
      ∃ receipt ∈ segment.receiptsExcludingTerminal, receipt.receiptId = firstTerminal.receiptId
    decide +kernel

/-- Right after its start the persistent log reports a consistent chain, and the in-memory log fails. -/
theorem new_checked_apart :
    ¬∀ (codec : Codec) (ed25519 : Ed25519) (signingKey : SigningKey) (ulid : String) (calls : List Call),
      DrawnApart codec (calls.flatMap Call.ulids) (calls.flatMap Call.times) → ∀ before call rest,
        calls = before ++ call :: rest →
          (run codec ed25519 signingKey ulid before).Agree codec ed25519 signingKey call := by
  intro agree
  have same := agree sealCodec sealEd25519 logKey "" [.verifyChain]
    ⟨List.nodup_nil, List.forall_mem_nil _, List.forall_mem_nil _⟩ [] .verifyChain [] rfl
  obtain ⟨consistent, failed⟩ := (shows_new "").verifyChain.2 rfl
  rw [run, StepRun.run_nil, Agree, consistent, failed] at same
  cases same

end Backends

end Aios.Evidence
