import Aios.Evidence.Transactions

/-! # Runs of the persistent log

A run is a sequence of calls to a database and the process that has it open: each call carries the ids and the clock
readings it draws and the outcome of its write, and a process that stops is followed by one that opens the database
again. Every state of a run shows a sound archive, and the memory of the process mirrors the rows.
-/

namespace Aios.Evidence

open Aios.Rust

inductive Event where
  | opened (ulid : String) (schemaOutcome logIdOutcome : WriteOutcome)
  | append (request : AppendRequest) (stamp : Stamp) (outcome : WriteOutcome)
  | emitApproval (segmentId : SegmentId) (stamp : Stamp) (outcome : WriteOutcome)
  | sealSegment (sealedAt : DateTime) (stamp : Stamp) (outcome : WriteOutcome)
  | compact (segmentId : SegmentId) (now : DateTime) (outcome : WriteOutcome)

namespace Event

/-- The ULIDs that a call draws for receipts. -/
def ulids : Event → List String
  | .append _ stamp _ | .emitApproval _ stamp _ | .sealSegment _ stamp _ => [stamp.ulid]
  | .opened .. | .compact .. => []

/-- The times that go into segment ids. -/
def times : Event → List DateTime
  | .sealSegment sealedAt _ _ => [sealedAt]
  | _ => []

end Event

namespace Machine

open RocksDbEvidenceLog

variable (codec : Codec) (ed25519 : Ed25519) (signingKey : SigningKey)

/-- The machine before the database is first opened. -/
def blank : Machine := ⟨.blank, none⟩

/-- A call of the open log, and whether it reports success. -/
def call (log : RocksDbEvidenceLog) : Event → Machine × Bool
  | .opened .. => (⟨log.disk, some log.state⟩, false)
  | .append request stamp outcome =>
    let result := RocksDbEvidenceLog.append codec ed25519 signingKey request stamp outcome log
    (after result, reports result)
  | .emitApproval segmentId stamp outcome =>
    let result := emitApprovalRequired codec ed25519 signingKey segmentId stamp outcome log
    (after result, reports result)
  | .sealSegment sealedAt stamp outcome =>
    let result := sealCurrentSegment codec ed25519 signingKey sealedAt stamp outcome log
    (after result, reports result)
  | .compact segmentId now outcome =>
    let result := compactSegment codec segmentId now outcome log
    (after result, reports result)

/-- A restart: the process that has the database open, if any, ends. -/
def reopen (self : Machine) (ulid : String) (schemaOutcome logIdOutcome : WriteOutcome) : Machine :=
  match RocksDbEvidenceLog.open codec ed25519 signingKey ulid schemaOutcome logIdOutcome self.disk with
  | .ok (state, _) disk => ⟨disk, some state⟩
  | .error _ disk => ⟨disk, none⟩

/-- Without a process there is nothing to call. -/
def deliver (self : Machine) (event : Event) : Machine :=
  match self.process with
  | none => self
  | some state => (call codec ed25519 signingKey ⟨self.disk, state⟩ event).1

def step (self : Machine) : Event → Machine
  | .opened ulid schemaOutcome logIdOutcome => self.reopen codec ed25519 signingKey ulid schemaOutcome logIdOutcome
  | event => self.deliver codec ed25519 signingKey event

def run (events : List Event) : Machine := StepRun.run (step codec ed25519 signingKey) blank events

end Machine

/-! ## What a call plans -/

def Event.outcome : Event → WriteOutcome
  | .opened _ _ outcome => outcome
  | .append _ _ outcome | .emitApproval _ _ outcome | .sealSegment _ _ outcome | .compact _ _ outcome => outcome

namespace RocksDbEvidenceLog

variable (codec : Codec) (ed25519 : Ed25519) (signingKey : SigningKey)

def appendPlan (log : RocksDbEvidenceLog) (builder : ReceiptBuilder) (stamp : Stamp) : Option RocksDbEvidenceLog :=
  (builder.sealSigned codec ed25519 log.state.current.receipts.getLast? signingKey stamp).toOption.map log.appended

/-- The log as a call would leave it with its batch written, if the call comes to its write. -/
def plan (log : RocksDbEvidenceLog) : Event → Option RocksDbEvidenceLog
  | .opened .. => none
  | .append request stamp _ =>
    (request.builder codec).toOption.bind fun builder => log.appendPlan codec ed25519 signingKey builder stamp
  | .emitApproval segmentId stamp _ => log.appendPlan codec ed25519 signingKey (approvalRequiredBuilder segmentId) stamp
  | .sealSegment sealedAt stamp _ => (log.sealOpen codec ed25519 signingKey sealedAt stamp).toOption.map log.closed
  | .compact segmentId now _ =>
    (log.disk.segments.lookup segmentId).map fun segment => log.pruned codec segment segmentId now

end RocksDbEvidenceLog

section

variable (codec : Codec) (ed25519 : Ed25519) (signingKey : SigningKey)

theorem RocksDbEvidenceLog.after_append {request : AppendRequest} {builder : ReceiptBuilder}
    (checked : request.builder codec = .ok builder) (stamp : Stamp) (outcome : WriteOutcome)
    (log : RocksDbEvidenceLog) :
    Machine.after (append codec ed25519 signingKey request stamp outcome log) =
        Machine.after (appendSealed codec ed25519 signingKey builder stamp outcome log) ∧
      Machine.reports (append codec ed25519 signingKey request stamp outcome log) =
        Machine.reports (appendSealed codec ed25519 signingKey builder stamp outcome log) := by
  have same : append codec ed25519 signingKey request stamp outcome log =
      (EStateM.adaptExcept (Halt.map EvidenceError.toStatus)
        (appendSealed codec ed25519 signingKey builder stamp outcome) >>= fun receipt =>
        pure (receiptToProto receipt)) log := by
    rw [append, checked]
    rfl
  rw [same]
  exact Machine.after_adapt _ _ _ _

theorem RocksDbEvidenceLog.after_emitApprovalRequired (segmentId : SegmentId) (stamp : Stamp) (outcome : WriteOutcome)
    (log : RocksDbEvidenceLog) :
    Machine.after (emitApprovalRequired codec ed25519 signingKey segmentId stamp outcome log) =
        Machine.after (appendSealed codec ed25519 signingKey (approvalRequiredBuilder segmentId) stamp outcome log) ∧
      Machine.reports (emitApprovalRequired codec ed25519 signingKey segmentId stamp outcome log) =
        Machine.reports (appendSealed codec ed25519 signingKey
          (approvalRequiredBuilder segmentId) stamp outcome log) := by
  rw [emitApprovalRequired, Stateful.bind_apply]
  cases appendSealed codec ed25519 signingKey (approvalRequiredBuilder segmentId) stamp outcome log with
  | ok receipt last => exact ⟨rfl, rfl⟩
  | error halt last => cases halt <;> exact ⟨rfl, rfl⟩

/-- A call that plans nothing leaves everything alone; one that has planned its batch ends as the write does. -/
theorem Machine.call_eq (log : RocksDbEvidenceLog) (event : Event) :
    call codec ed25519 signingKey log event = match log.plan codec ed25519 signingKey event with
      | none => (⟨log.disk, some log.state⟩, false)
      | some after => (event.outcome.lands log after, event.outcome.isWritten) := by
  cases event with
  | opened ulid schemaOutcome logIdOutcome => rfl
  | append request stamp outcome =>
    cases checked : request.builder codec with
    | error status =>
      rw [call, RocksDbEvidenceLog.plan, RocksDbEvidenceLog.append, checked]
      rfl
    | ok builder =>
      obtain ⟨ends, reported⟩ := RocksDbEvidenceLog.after_append codec ed25519 signingKey checked stamp outcome log
      have planned : log.plan codec ed25519 signingKey (.append request stamp outcome) =
          log.appendPlan codec ed25519 signingKey builder stamp := by
        rw [RocksDbEvidenceLog.plan, checked]
        rfl
      rw [call, ends, reported, planned, RocksDbEvidenceLog.appendPlan]
      obtain ⟨failure, made, failed⟩ | ⟨receipt, made, done⟩ :=
        RocksDbEvidenceLog.appendSealed_cases codec ed25519 signingKey builder stamp outcome log
      · rw [failed, made]
        rfl
      · rw [made]
        exact done.lands
  | emitApproval segmentId stamp outcome =>
    obtain ⟨ends, reported⟩ :=
      RocksDbEvidenceLog.after_emitApprovalRequired codec ed25519 signingKey segmentId stamp outcome log
    rw [call, ends, reported, RocksDbEvidenceLog.plan, RocksDbEvidenceLog.appendPlan]
    obtain ⟨failure, made, failed⟩ | ⟨receipt, made, done⟩ := RocksDbEvidenceLog.appendSealed_cases codec ed25519
      signingKey (RocksDbEvidenceLog.approvalRequiredBuilder segmentId) stamp outcome log
    · rw [failed, made]
      rfl
    · rw [made]
      exact done.lands
  | sealSegment sealedAt stamp outcome =>
    rw [call, RocksDbEvidenceLog.plan]
    obtain ⟨failure, made, failed⟩ | ⟨segment, made, done⟩ :=
      RocksDbEvidenceLog.sealCurrentSegment_cases codec ed25519 signingKey sealedAt stamp outcome log
    · rw [failed, made]
      rfl
    · rw [made]
      exact done.lands
  | compact segmentId now outcome =>
    rw [call, RocksDbEvidenceLog.plan]
    obtain ⟨found, failure, failed⟩ | ⟨segment, found, done⟩ :=
      RocksDbEvidenceLog.compactSegment_cases codec segmentId now outcome log
    · rw [failed, found]
      rfl
    · rw [found]
      exact done.lands

end

/-! ## What a plan does to the archive -/

/-- What a call may do to the archive. -/
inductive Archive.Moves (archive : Archive) : Event → Archive → Prop
  | kept (event : Event) : Moves archive event archive
  | appended (event : Event) (receipt : EvidenceReceipt) : Moves archive event (archive.append receipt)
  | closed (sealedAt : DateTime) (stamp : Stamp) (outcome : WriteOutcome) (segment : SealedSegment)
      (body : segment.receiptsExcludingTerminal = archive.openReceipts) (warm : segment.segmentId ∉ archive.compacted) :
      Moves archive (.sealSegment sealedAt stamp outcome) (archive.close segment)
  | compacted (segment : SealedSegment) (now : DateTime) (outcome : WriteOutcome)
      (listed : segment ∈ archive.segments) :
      Moves archive (.compact segment.segmentId now outcome) (archive.compact segment.segmentId)

section

variable {codec : Codec} {ed25519 : Ed25519} {signingKey : SigningKey} {ulids : List String} {times : List DateTime}
  {archive : Archive} {log : RocksDbEvidenceLog}

variable {stamp : Stamp} {segment : SealedSegment}

/-- The log shows the archive in its rows and in its memory. -/
structure RocksDbEvidenceLog.Shows (log : RocksDbEvidenceLog) (archive : Archive) : Prop where
  rows : log.disk.Shows archive
  mirrored : log.state = log.disk.view

theorem RocksDbEvidenceLog.Shows.state (shown : log.Shows archive) :
    log.state = ⟨⟨DEFAULT_RETENTION, archive.openReceipts⟩, archive.segments.length⟩ := by
  rw [shown.mirrored, shown.rows.view]

/-- A sealed receipt is appended to the open segment. -/
theorem RocksDbEvidenceLog.Shows.appended (shown : log.Shows archive)
    (sound : archive.Sound codec ed25519 (ed25519.verifyingKey signingKey) ulids times) {builder : ReceiptBuilder}
    (fresh : stamp.ulid ∉ ulids) {receipt : EvidenceReceipt}
    (made : builder.sealSigned codec ed25519 log.state.current.receipts.getLast? signingKey stamp = .ok receipt) :
    (log.appended receipt).Shows (archive.append receipt) ∧
      (archive.append receipt).Sound codec ed25519 (ed25519.verifyingKey signingKey) (ulids ++ [stamp.ulid]) times := by
  have state := shown.state
  rw [state] at made
  obtain ⟨apart, -, sound'⟩ := sound.appendSealed fresh made
  have rows := shown.rows.append fun other warm => apart other (Archive.mem_receipts_of_warm warm)
  have mirrors := rows.view
  refine ⟨⟨?_, ?_⟩, sound'⟩
  · rw [RocksDbEvidenceLog.appended, state]
    exact rows
  · rw [RocksDbEvidenceLog.appended, state]
    exact mirrors.symm

/-- The links that a seal finds are those of the last segment. -/
theorem RocksDbEvidenceLog.previousLinks_eq {disk : Disk} {segments : List SealedSegment}
    (stores : disk.Stores segments)
    (parsed : ∀ segment ∈ segments, SegmentId.parse segment.segmentId = .ok segment.segmentId) :
    previousLinks disk segments.length =
      .ok (segments.getLast?.map SealedSegment.segmentId, segments.getLast?.map SealedSegment.segmentSealHash) := by
  cases segments using List.reverseRecOn with
  | nil => rfl
  | append_singleton before last =>
    have member : last ∈ before ++ [last] := List.mem_append_right _ (List.mem_singleton_self _)
    have indexed := stores.indexed before.length last List.getElem?_concat_length
    rw [previousLinks, List.length_append, List.length_singleton, if_neg (Nat.succ_ne_zero _), Nat.add_sub_cancel,
      List.getLast?_concat]
    simp only [indexed, parsed last member, stores.stored last member, bind, Except.bind]
    rfl

/-- A seal takes the open segment behind the last one. -/
theorem RocksDbEvidenceLog.Shows.sealOpen_eq (shown : log.Shows archive)
    (sound : archive.Sound codec ed25519 (ed25519.verifyingKey signingKey) ulids times) (sealedAt : DateTime)
    (stamp : Stamp) :
    log.sealOpen codec ed25519 signingKey sealedAt stamp =
      if archive.openReceipts.isEmpty then .error .emptySegment
      else Segment.seal codec ed25519 ⟨DEFAULT_RETENTION, archive.openReceipts, false⟩
        (archive.segments.getLast?.map SealedSegment.segmentId)
        (archive.segments.getLast?.map SealedSegment.segmentSealHash) signingKey sealedAt stamp := by
  rw [RocksDbEvidenceLog.sealOpen, shown.state, Segment.ofReceipts_eq,
    RocksDbEvidenceLog.previousLinks_eq shown.rows.stores fun other listed => (sound.restorable other listed).segmentId]
  rfl

/-- The open segment is sealed. -/
theorem RocksDbEvidenceLog.Shows.closed (shown : log.Shows archive)
    (sound : archive.Sound codec ed25519 (ed25519.verifyingKey signingKey) ulids times) {sealedAt : DateTime}
    (fresh : stamp.ulid ∉ ulids) (told : SeedsTold codec (ulids ++ [stamp.ulid]) (times ++ [sealedAt]))
    (made : log.sealOpen codec ed25519 signingKey sealedAt stamp = .ok segment) :
    (segment.receiptsExcludingTerminal = archive.openReceipts ∧ segment.segmentId ∉ archive.compacted) ∧
      (log.closed segment).Shows (archive.close segment) ∧
      (archive.close segment).Sound codec ed25519 (ed25519.verifyingKey signingKey) (ulids ++ [stamp.ulid])
        (times ++ [sealedAt]) := by
  rw [shown.sealOpen_eq sound, Fallible.check_eq_ok_iff] at made
  obtain ⟨-, made⟩ := made
  obtain ⟨named, body, warm, sound'⟩ := sound.seal fresh told rfl made
  have rows := shown.rows.close named body warm
  have mirrors := rows.view
  refine ⟨⟨body, warm⟩, ⟨?_, ?_⟩, sound'⟩
  · rw [RocksDbEvidenceLog.closed, shown.state]
    exact rows
  · rw [Archive.close, List.length_append] at mirrors
    rw [RocksDbEvidenceLog.closed, shown.state]
    exact mirrors.symm

/-- A segment that is found has been sealed, and its receipts are taken away. -/
theorem RocksDbEvidenceLog.Shows.pruned (shown : log.Shows archive)
    (sound : archive.Sound codec ed25519 (ed25519.verifyingKey signingKey) ulids times)
    (told : SeedsTold codec ulids times) (listed : segment ∈ archive.segments) (now : DateTime) :
    (log.pruned codec segment segment.segmentId now).Shows (archive.compact segment.segmentId) ∧
      (archive.compact segment.segmentId).Sound codec ed25519 (ed25519.verifyingKey signingKey) ulids times := by
  have rows := shown.rows.compact sound told listed now
  refine ⟨⟨rows, ?_⟩, sound.compact listed⟩
  exact shown.state.trans rows.view.symm

/-- Whatever a call plans, the log with its batch written shows a sound archive. -/
theorem RocksDbEvidenceLog.Shows.plan (shown : log.Shows archive)
    (sound : archive.Sound codec ed25519 (ed25519.verifyingKey signingKey) ulids times) {event : Event}
    (fresh : ∀ ulid ∈ event.ulids, ulid ∉ ulids) (told : SeedsTold codec (ulids ++ event.ulids) (times ++ event.times))
    {after : RocksDbEvidenceLog} (planned : log.plan codec ed25519 signingKey event = some after) :
    ∃ archive', archive.Moves event archive' ∧ after.Shows archive' ∧
      archive'.Sound codec ed25519 (ed25519.verifyingKey signingKey) (ulids ++ event.ulids) (times ++ event.times) := by
  have append {builder : ReceiptBuilder} {stamp : Stamp} (fresh : stamp.ulid ∉ ulids)
      (planned : log.appendPlan codec ed25519 signingKey builder stamp = some after) :
      ∃ archive', archive.Moves event archive' ∧ after.Shows archive' ∧
        archive'.Sound codec ed25519 (ed25519.verifyingKey signingKey) (ulids ++ [stamp.ulid]) (times ++ []) := by
    obtain ⟨receipt, made, rfl⟩ := Option.map_eq_some_iff.mp planned
    rw [List.append_nil]
    exact ⟨_, .appended event receipt, shown.appended sound fresh (Fallible.toOption_eq_some_iff.mp made)⟩
  cases event with
  | opened ulid schemaOutcome logIdOutcome => cases planned
  | append request stamp outcome =>
    obtain ⟨builder, -, planned⟩ := Option.bind_eq_some_iff.mp planned
    exact append (fresh _ (List.mem_singleton_self _)) planned
  | emitApproval segmentId stamp outcome => exact append (fresh _ (List.mem_singleton_self _)) planned
  | sealSegment sealedAt stamp outcome =>
    obtain ⟨segment, made, rfl⟩ := Option.map_eq_some_iff.mp planned
    obtain ⟨⟨body, warm⟩, shown'⟩ :=
      shown.closed sound (fresh _ (List.mem_singleton_self _)) told (Fallible.toOption_eq_some_iff.mp made)
    exact ⟨_, .closed sealedAt stamp outcome segment body warm, shown'⟩
  | compact segmentId now outcome =>
    obtain ⟨segment, found, rfl⟩ := Option.map_eq_some_iff.mp planned
    obtain ⟨listed, rfl⟩ := shown.rows.sealed _ _ found
    have told' : SeedsTold codec ulids times := told.mono (List.subset_append_left _ _) (List.subset_append_left _ _)
    obtain ⟨shown', sound'⟩ := shown.pruned sound told' listed now
    exact ⟨_, .compacted segment now outcome listed, shown',
      sound'.mono (List.subset_append_left _ _) (List.subset_append_left _ _)⟩

end

end Aios.Evidence
