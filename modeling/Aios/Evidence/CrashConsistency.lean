import Aios.Evidence.LogRuns

/-! # Crash consistency

In every state of every run the memory of the process mirrors the rows, and a database that is opened again comes back
with the memory of the last operation whose batch was committed: of the last that reported success, or of one whose
process stopped before it could.
-/

namespace Aios.Evidence

open Aios.Rust

/-! ## Opening -/

/-- The disk up to the rows that an open stamps. -/
def Disk.SameLog (disk other : Disk) : Prop :=
  ∃ schemaVersion logId, other = { disk with schemaVersion, logId }

theorem Disk.SameLog.shows {disk other : Disk} (same : disk.SameLog other) {archive : Archive}
    (rows : disk.Shows archive) :
    other.Shows archive := by
  obtain ⟨schemaVersion, logId, rfl⟩ := same
  exact ⟨⟨rows.stores.chainHead, rows.stores.indexed, rows.stores.stored⟩, rows.sealed, rows.snapshot, rows.compactedAt,
    rows.receipts, rows.index⟩

/-- No open refuses the schema version. -/
def Disk.Versioned (disk : Disk) : Prop :=
  disk.schemaVersion = none ∨ disk.schemaVersion = some SCHEMA_VERSION_V1ALPHA1

/-- What a step of an open does to the disk, and that it fails only if its write does. -/
def StampsOnly {α : Type} (disk : Disk) (outcome : WriteOutcome) (result : EStateM.Result (Halt EvidenceError) Disk α) :
    Prop :=
  match result with
  | .ok _ after => disk.SameLog after ∧ after.Versioned
  | .error _ after => disk.SameLog after ∧ after.Versioned ∧ outcome.isWritten = false

theorem validateOrStampSchemaVersion_stamps {disk : Disk} (versioned : disk.Versioned) (outcome : WriteOutcome) :
    StampsOnly disk outcome (validateOrStampSchemaVersion outcome disk) := by
  rw [validateOrStampSchemaVersion, Stateful.get_bind_apply]
  obtain absent | stamped := versioned
  · simp only [absent]
    cases outcome with
    | written => exact ⟨⟨_, disk.logId, rfl⟩, .inr rfl⟩
    | refused message => exact ⟨⟨disk.schemaVersion, disk.logId, rfl⟩, .inl absent, rfl⟩
    | stopped committed =>
      cases committed with
      | true => exact ⟨⟨_, disk.logId, rfl⟩, .inr rfl, rfl⟩
      | false => exact ⟨⟨disk.schemaVersion, disk.logId, rfl⟩, .inl absent, rfl⟩
  · simp only [stamped, ne_eq, not_true_eq_false, if_false]
    exact ⟨⟨disk.schemaVersion, disk.logId, rfl⟩, .inr stamped⟩

theorem restoreOrMintLogId_stamps {disk : Disk} (versioned : disk.Versioned) (ulid : String) (outcome : WriteOutcome) :
    StampsOnly disk outcome (restoreOrMintLogId ulid outcome disk) := by
  rw [restoreOrMintLogId, Stateful.get_bind_apply]
  cases stored : disk.logId with
  | some id => exact ⟨⟨disk.schemaVersion, disk.logId, rfl⟩, versioned⟩
  | none =>
    cases outcome with
    | written => exact ⟨⟨disk.schemaVersion, _, rfl⟩, versioned⟩
    | refused message => exact ⟨⟨disk.schemaVersion, disk.logId, rfl⟩, versioned, rfl⟩
    | stopped committed =>
      cases committed with
      | true => exact ⟨⟨disk.schemaVersion, _, rfl⟩, versioned, rfl⟩
      | false => exact ⟨⟨disk.schemaVersion, disk.logId, rfl⟩, versioned, rfl⟩

section

variable {codec : Codec} {ed25519 : Ed25519} {signingKey : SigningKey} {ulids : List String} {times : List DateTime}
  {archive : Archive} {disk : Disk}

/-- The chain of a sound archive is recovered. -/
theorem Disk.Shows.recovered (rows : disk.Shows archive)
    (sound : archive.Sound codec ed25519 (ed25519.verifyingKey signingKey) ulids times) :
    recoverSealedChain codec ed25519 disk (disk.chainHead.getD 0) (ed25519.verifyingKey signingKey) = .ok () := by
  rw [rows.stores.chainHead, recoverSealedChain_eq_ok_iff rows.stores]
  exact ⟨⟨fun first opens => (sound.linked.genesis first opens).2, sound.linked.chain⟩, sound.restorable⟩

/-- Its open segment is restored. -/
theorem Disk.Shows.restored (rows : disk.Shows archive)
    (sound : archive.Sound codec ed25519 (ed25519.verifyingKey signingKey) ulids times) :
    restoreOpenSnapshot codec disk = .ok disk.snapshot := by
  have snapshot := rows.snapshot
  rw [restoreOpenSnapshot, Disk.snapshot] at *
  cases stored : disk.currentSegment with
  | none => rfl
  | some current =>
    rw [stored] at snapshot
    change current = _ at snapshot
    by_cases empty : current.receipts.isEmpty = true
    · simp [empty]
    · have chained : EvidenceReceipt.Chained codec current.receipts := snapshot ▸ sound.chained
      have filled : current.receipts ≠ [] := fun none => empty (by rw [none]; rfl)
      have verified : ReceiptChain.verifyIntegrity codec ⟨current.receipts⟩ = .ok () :=
        ReceiptChain.verifyIntegrity_eq_ok_iff.mpr ⟨filled, chained⟩
      simp only [empty, Bool.false_eq_true, if_false, Option.getD_some]
      rw [ReceiptChain.collect_eq_ok_iff.mpr ⟨chained, rfl⟩]
      simp only [bind, Except.bind, verified]
      rfl

/-- An open of a sound archive leaves its rows alone; it returns the mirrored memory, or a write of it fails. -/
theorem Disk.Shows.opened (rows : disk.Shows archive) (versioned : disk.Versioned)
    (sound : archive.Sound codec ed25519 (ed25519.verifyingKey signingKey) ulids times) (ulid : String)
    (schemaOutcome logIdOutcome : WriteOutcome) :
    match RocksDbEvidenceLog.open codec ed25519 signingKey ulid schemaOutcome logIdOutcome disk with
    | .ok value after => disk.SameLog after ∧ after.Versioned ∧ value.1 = after.view
    | .error _ after => disk.SameLog after ∧ after.Versioned ∧
        ¬(schemaOutcome.isWritten = true ∧ logIdOutcome.isWritten = true) := by
  have stamps := validateOrStampSchemaVersion_stamps versioned schemaOutcome
  rw [RocksDbEvidenceLog.open, Stateful.bind_apply]
  cases validated : validateOrStampSchemaVersion schemaOutcome disk with
  | error halt stamped =>
    rw [validated] at stamps
    obtain ⟨same, versioned', failed⟩ := stamps
    exact ⟨same, versioned', fun ⟨written, _⟩ => by rw [failed] at written; cases written⟩
  | ok value stamped =>
    rw [validated] at stamps
    obtain ⟨⟨schemaVersion, logId, rfl⟩, versioned'⟩ := stamps
    have mints := restoreOrMintLogId_stamps versioned' ulid logIdOutcome
    dsimp only
    rw [Stateful.bind_apply]
    cases minted : restoreOrMintLogId ulid logIdOutcome { disk with schemaVersion, logId } with
    | error halt stopped =>
      rw [minted] at mints
      obtain ⟨⟨schemaVersion', logId', rfl⟩, versioned'', failed⟩ := mints
      exact ⟨⟨_, _, rfl⟩, versioned'', fun ⟨_, written⟩ => by rw [failed] at written; cases written⟩
    | ok id after =>
      rw [minted] at mints
      obtain ⟨⟨schemaVersion', logId', rfl⟩, versioned''⟩ := mints
      have same : disk.SameLog { disk with schemaVersion := schemaVersion', logId := logId' } := ⟨_, _, rfl⟩
      have rows' := same.shows rows
      dsimp only
      rw [Stateful.get_bind_apply, rows'.recovered sound, rows'.restored sound]
      exact ⟨same, versioned'', rfl⟩

end

/-! ## States of a run -/

namespace Machine

/-- The database shows a sound archive, and the memory of its process mirrors the rows. -/
structure Shows (codec : Codec) (ed25519 : Ed25519) (signingKey : SigningKey) (ulids : List String)
    (times : List DateTime) (machine : Machine) (archive : Archive) : Prop where
  rows : machine.disk.Shows archive
  sound : archive.Sound codec ed25519 (ed25519.verifyingKey signingKey) ulids times
  versioned : machine.disk.Versioned
  mirrored : ∀ state, machine.process = some state → state = machine.disk.view

variable {codec : Codec} {ed25519 : Ed25519} {signingKey : SigningKey} {ulids : List String} {times : List DateTime}
  {archive : Archive} {machine : Machine}

variable {log after : RocksDbEvidenceLog} {event : Event}

theorem shows_blank : blank.Shows codec ed25519 signingKey [] [] .empty where
  rows := Disk.shows_blank
  sound := Archive.sound_empty
  versioned := .inl rfl
  mirrored _ running := by cases running

theorem Shows.mono {ulids' : List String} {times' : List DateTime}
    (shown : machine.Shows codec ed25519 signingKey ulids times archive) (more : ulids ⊆ ulids')
    (later : times ⊆ times') :
    machine.Shows codec ed25519 signingKey ulids' times' archive :=
  ⟨shown.rows, shown.sound.mono more later, shown.versioned, shown.mirrored⟩

theorem Shows.reopen (shown : machine.Shows codec ed25519 signingKey ulids times archive) (ulid : String)
    (schemaOutcome logIdOutcome : WriteOutcome) :
    (machine.reopen codec ed25519 signingKey ulid schemaOutcome logIdOutcome).Shows codec ed25519 signingKey ulids times
        archive ∧
      (machine.reopen codec ed25519 signingKey ulid schemaOutcome logIdOutcome).disk.view = machine.disk.view := by
  have opened := shown.rows.opened shown.versioned shown.sound ulid schemaOutcome logIdOutcome
  rw [Machine.reopen]
  split at opened
  · next value after ran =>
    obtain ⟨same, versioned, mirrored⟩ := opened
    rw [ran]
    refine ⟨⟨same.shows shown.rows, shown.sound, versioned, ?_⟩, ?_⟩
    · rintro state ⟨⟩
      exact mirrored
    · exact (same.shows shown.rows).view.trans shown.rows.view.symm
  · next halt after ran =>
    obtain ⟨same, versioned, -⟩ := opened
    rw [ran]
    exact ⟨⟨same.shows shown.rows, shown.sound, versioned, fun state running => by cases running⟩,
      (same.shows shown.rows).view.trans shown.rows.view.symm⟩

/-- A batch leaves the schema version alone. -/
theorem versioned_of_plan (planned : log.plan codec ed25519 signingKey event = some after)
    (versioned : log.disk.Versioned) : after.disk.Versioned := by
  have append {builder : ReceiptBuilder} {stamp : Stamp}
      (planned : log.appendPlan codec ed25519 signingKey builder stamp = some after) : after.disk.Versioned := by
    obtain ⟨receipt, -, rfl⟩ := Option.map_eq_some_iff.mp planned
    exact versioned
  cases event with
  | opened ulid schemaOutcome logIdOutcome => cases planned
  | append request stamp outcome =>
    obtain ⟨builder, -, planned⟩ := Option.bind_eq_some_iff.mp planned
    exact append planned
  | emitApproval segmentId stamp outcome => exact append planned
  | sealSegment sealedAt stamp outcome =>
    obtain ⟨segment, -, rfl⟩ := Option.map_eq_some_iff.mp planned
    exact versioned
  | compact segmentId now outcome =>
    obtain ⟨segment, -, rfl⟩ := Option.map_eq_some_iff.mp planned
    rw [RocksDbEvidenceLog.pruned, RocksDbEvidenceLog.compactBatch, Disk.write_append, Disk.write_deletes]
    exact versioned

/-- A planned call ends in a machine that shows an archive, whatever its write comes to. -/
theorem Shows.lands (shown : log.Shows archive)
    (sound : archive.Sound codec ed25519 (ed25519.verifyingKey signingKey) ulids times) (versioned : log.disk.Versioned)
    (fresh : ∀ ulid ∈ event.ulids, ulid ∉ ulids) (told : SeedsTold codec (ulids ++ event.ulids) (times ++ event.times))
    (planned : log.plan codec ed25519 signingKey event = some after) (outcome : WriteOutcome) :
    ∃ archive', archive.Moves event archive' ∧ (outcome.lands log after).Shows codec ed25519 signingKey
      (ulids ++ event.ulids) (times ++ event.times) archive' := by
  obtain ⟨archive', moves, shown', sound'⟩ := shown.plan sound fresh told planned
  have versioned' := versioned_of_plan planned versioned
  have kept := sound.mono (List.subset_append_left ulids event.ulids) (List.subset_append_left times event.times)
  cases outcome with
  | written =>
    refine ⟨archive', moves, shown'.rows, sound', versioned', ?_⟩
    rintro state ⟨⟩
    exact shown'.mirrored
  | refused message =>
    refine ⟨archive, .kept event, shown.rows, kept, versioned, ?_⟩
    rintro state ⟨⟩
    exact shown.mirrored
  | stopped committed =>
    cases committed with
    | true => exact ⟨archive', moves, shown'.rows, sound', versioned', fun state running => by cases running⟩
    | false => exact ⟨archive, .kept event, shown.rows, kept, versioned, fun state running => by cases running⟩

/-- So does a call of an open log, planned or not. -/
theorem Shows.call {log : RocksDbEvidenceLog} {event : Event} (shown : log.Shows archive)
    (sound : archive.Sound codec ed25519 (ed25519.verifyingKey signingKey) ulids times) (versioned : log.disk.Versioned)
    (fresh : ∀ ulid ∈ event.ulids, ulid ∉ ulids)
    (told : SeedsTold codec (ulids ++ event.ulids) (times ++ event.times)) :
    ∃ archive', archive.Moves event archive' ∧ (Machine.call codec ed25519 signingKey log event).1.Shows codec ed25519
      signingKey (ulids ++ event.ulids) (times ++ event.times) archive' := by
  rw [call_eq]
  cases planned : log.plan codec ed25519 signingKey event with
  | none =>
    refine ⟨archive, .kept event, shown.rows,
      sound.mono (List.subset_append_left _ _) (List.subset_append_left _ _), versioned, ?_⟩
    rintro state ⟨⟩
    exact shown.mirrored
  | some after => exact Shows.lands shown sound versioned fresh told planned event.outcome

theorem Shows.deliver (shown : machine.Shows codec ed25519 signingKey ulids times archive) {event : Event}
    (fresh : ∀ ulid ∈ event.ulids, ulid ∉ ulids)
    (told : SeedsTold codec (ulids ++ event.ulids) (times ++ event.times)) :
    ∃ archive', archive.Moves event archive' ∧ (machine.deliver codec ed25519 signingKey event).Shows codec ed25519
      signingKey (ulids ++ event.ulids) (times ++ event.times) archive' := by
  rw [Machine.deliver]
  cases running : machine.process with
  | none =>
    exact ⟨archive, .kept event, shown.mono (List.subset_append_left _ _) (List.subset_append_left _ _)⟩
  | some state =>
    have log : RocksDbEvidenceLog.Shows ⟨machine.disk, state⟩ archive := ⟨shown.rows, shown.mirrored state running⟩
    exact Shows.call log shown.sound shown.versioned fresh told

/-- One step of a run. -/
theorem Shows.step (shown : machine.Shows codec ed25519 signingKey ulids times archive) {event : Event}
    (fresh : ∀ ulid ∈ event.ulids, ulid ∉ ulids)
    (told : SeedsTold codec (ulids ++ event.ulids) (times ++ event.times)) :
    ∃ archive', archive.Moves event archive' ∧ (machine.step codec ed25519 signingKey event).Shows codec ed25519
      signingKey (ulids ++ event.ulids) (times ++ event.times) archive' := by
  cases event with
  | opened ulid schemaOutcome logIdOutcome =>
    exact ⟨archive, .kept _, (shown.reopen ulid schemaOutcome logIdOutcome).1.mono (List.subset_append_left _ _)
      (List.subset_append_left _ _)⟩
  | append request stamp outcome => exact shown.deliver fresh told
  | emitApproval segmentId stamp outcome => exact shown.deliver fresh told
  | sealSegment sealedAt stamp outcome => exact shown.deliver fresh told
  | compact segmentId now outcome => exact shown.deliver fresh told

/-- Every state of a run shows a sound archive. -/
theorem shows_run {events : List Event}
    (drawn : DrawnApart codec (events.flatMap Event.ulids) (events.flatMap Event.times)) :
    ∀ before, before <+: events → ∃ archive, (run codec ed25519 signingKey before).Shows codec ed25519 signingKey
      (before.flatMap Event.ulids) (before.flatMap Event.times) archive := by
  have initial : ∃ archive, blank.Shows codec ed25519 signingKey [] [] archive := ⟨.empty, shows_blank⟩
  refine StepRun.run_invariant_along (fun before (machine : Machine) =>
    ∃ archive, machine.Shows codec ed25519 signingKey
    (before.flatMap Event.ulids) (before.flatMap Event.times) archive) initial ?_
  rintro before event rest split ⟨archive, shown⟩
  obtain ⟨fresh, -, told⟩ := drawn.step split
  obtain ⟨archive', -, shown'⟩ := shown.step fresh told
  rw [List.flatMap_append, List.flatMap_append, List.flatMap_singleton, List.flatMap_singleton]
  exact ⟨archive', shown'⟩

/-! ## What a restart brings back -/

end Machine

/-- The outcome a write would have had, had the process gone on. -/
def WriteOutcome.settled : WriteOutcome → WriteOutcome
  | .stopped true => .written
  | outcome => outcome

def Event.settled : Event → Event
  | .opened ulid schemaOutcome logIdOutcome => .opened ulid schemaOutcome logIdOutcome
  | .append request stamp outcome => .append request stamp outcome.settled
  | .emitApproval segmentId stamp outcome => .emitApproval segmentId stamp outcome.settled
  | .sealSegment sealedAt stamp outcome => .sealSegment sealedAt stamp outcome.settled
  | .compact segmentId now outcome => .compact segmentId now outcome.settled

namespace Machine

variable (codec : Codec) (ed25519 : Ed25519) (signingKey : SigningKey)

/-- The memory that a call leaves, if it reports success. -/
def success (self : Machine) (event : Event) : Option BackendState :=
  self.process.bind fun state =>
    let ended := call codec ed25519 signingKey ⟨self.disk, state⟩ event
    if ended.2 then ended.1.process else none

/-- The memory that the last successful call of a run has left, where `took` is what a step counts for. -/
def lastBy (took : Machine → Event → Option BackendState) (events : List Event) : BackendState :=
  (StepRun.run (fun state event => (step codec ed25519 signingKey state.1 event, (took state.1 event).getD state.2))
    (blank, Disk.blank.view) events).2

/-- The last operation that reported success. -/
def lastReported (events : List Event) : BackendState :=
  lastBy codec ed25519 signingKey (success codec ed25519 signingKey) events

/-- The last operation that reported success, or would have if its process had not stopped behind its write. -/
def lastCommitted (events : List Event) : BackendState :=
  lastBy codec ed25519 signingKey (fun machine event => machine.success codec ed25519 signingKey event.settled) events

variable {codec ed25519 signingKey} {ulids : List String} {times : List DateTime} {archive : Archive}
  {machine : Machine}

/-- How the process ends has no part in what a call plans. -/
theorem plan_settled (log : RocksDbEvidenceLog) (event : Event) :
    log.plan codec ed25519 signingKey event.settled = log.plan codec ed25519 signingKey event := by
  cases event <;> rfl

theorem outcome_settled {log after : RocksDbEvidenceLog} {event : Event}
    (planned : log.plan codec ed25519 signingKey event = some after) :
    event.settled.outcome = event.outcome.settled := by
  cases event with
  | opened ulid schemaOutcome logIdOutcome => cases planned
  | append request stamp outcome => rfl
  | emitApproval segmentId stamp outcome => rfl
  | sealSegment sealedAt stamp outcome => rfl
  | compact segmentId now outcome => rfl

/-- A delivered call leaves on disk the memory it would have reported, or the disk as it was. -/
theorem Shows.view_deliver (shown : machine.Shows codec ed25519 signingKey ulids times archive) {event : Event}
    (fresh : ∀ ulid ∈ event.ulids, ulid ∉ ulids)
    (told : SeedsTold codec (ulids ++ event.ulids) (times ++ event.times)) :
    (machine.deliver codec ed25519 signingKey event).disk.view =
      (machine.success codec ed25519 signingKey event.settled).getD machine.disk.view := by
  rw [Machine.deliver, success]
  cases running : machine.process with
  | none => rfl
  | some state =>
    have log : RocksDbEvidenceLog.Shows ⟨machine.disk, state⟩ archive := ⟨shown.rows, shown.mirrored state running⟩
    dsimp only [Option.bind_some]
    rw [call_eq, call_eq, plan_settled]
    cases planned : RocksDbEvidenceLog.plan codec ed25519 signingKey ⟨machine.disk, state⟩ event with
    | none => rfl
    | some after =>
      obtain ⟨archive', -, shown', -⟩ := log.plan shown.sound fresh told planned
      rw [outcome_settled planned]
      cases event.outcome with
      | written => exact shown'.mirrored.symm
      | refused message => rfl
      | stopped committed =>
        cases committed with
        | true => exact shown'.mirrored.symm
        | false => rfl

theorem Shows.view_step (shown : machine.Shows codec ed25519 signingKey ulids times archive) {event : Event}
    (fresh : ∀ ulid ∈ event.ulids, ulid ∉ ulids)
    (told : SeedsTold codec (ulids ++ event.ulids) (times ++ event.times)) :
    (machine.step codec ed25519 signingKey event).disk.view =
      (machine.success codec ed25519 signingKey event.settled).getD machine.disk.view := by
  cases event with
  | opened ulid schemaOutcome logIdOutcome =>
    have silent : machine.success codec ed25519 signingKey (.opened ulid schemaOutcome logIdOutcome) = none := by
      rw [success]
      cases machine.process <;> rfl
    rw [Event.settled, silent]
    exact (shown.reopen ulid schemaOutcome logIdOutcome).2
  | append request stamp outcome => exact shown.view_deliver fresh told
  | emitApproval segmentId stamp outcome => exact shown.view_deliver fresh told
  | sealSegment sealedAt stamp outcome => exact shown.view_deliver fresh told
  | compact segmentId now outcome => exact shown.view_deliver fresh told

/-- What a run remembers goes along with its machine. -/
theorem lastBy_append_singleton (took : Machine → Event → Option BackendState) (before : List Event) (event : Event) :
    lastBy codec ed25519 signingKey took (before ++ [event]) =
      (took (run codec ed25519 signingKey before) event).getD (lastBy codec ed25519 signingKey took before) := by
  have tracked : ∀ events, (StepRun.run (fun state event =>
      (step codec ed25519 signingKey state.1 event, (took state.1 event).getD state.2))
        (blank, Disk.blank.view) events).1 =
      run codec ed25519 signingKey events := by
    intro events
    induction events using List.reverseRecOn with
    | nil => rfl
    | append_singleton before event ih =>
      rw [StepRun.run_append, run, StepRun.run_append, ← run, ← ih]
      rfl
  rw [lastBy, StepRun.run_append, ← tracked]
  rfl

/-- The rows give back the memory of the last committed operation. -/
theorem view_run {events : List Event}
    (drawn : DrawnApart codec (events.flatMap Event.ulids) (events.flatMap Event.times)) :
    ∀ before, before <+: events →
      (run codec ed25519 signingKey before).disk.view = lastCommitted codec ed25519 signingKey before := by
  refine StepRun.run_invariant_along
    (fun before (machine : Machine) => machine.disk.view = lastCommitted codec ed25519 signingKey before) rfl ?_
  intro before event rest split mirrored
  obtain ⟨archive, shown⟩ := @shows_run _ ed25519 signingKey _ drawn before ⟨event :: rest, split.symm⟩
  obtain ⟨fresh, -, told⟩ := drawn.step split
  rw [lastCommitted, lastBy_append_singleton, ← lastCommitted, ← mirrored]
  exact shown.view_step fresh told

/-- After every call the memory of the process is what the rows give; and a run may be followed by an open, which
returns the memory of the last operation whose batch was committed. -/
theorem crash_consistent (codec : Codec) (ed25519 : Ed25519) (signingKey : SigningKey) (events : List Event)
    (drawn : DrawnApart codec (events.flatMap Event.ulids) (events.flatMap Event.times)) :
    (∀ before, before <+: events → ∀ state, (run codec ed25519 signingKey before).process = some state →
      state = (run codec ed25519 signingKey before).disk.view) ∧
    ∀ ulid, ∃ logId disk, RocksDbEvidenceLog.open codec ed25519 signingKey ulid .written .written
      (run codec ed25519 signingKey events).disk = .ok (lastCommitted codec ed25519 signingKey events, logId) disk := by
  constructor
  · intro before cut state running
    obtain ⟨archive, shown⟩ := shows_run drawn before cut
    exact shown.mirrored state running
  · intro ulid
    obtain ⟨archive, shown⟩ := @shows_run codec ed25519 signingKey events drawn events (List.prefix_refl events)
    have opened := shown.rows.opened shown.versioned shown.sound ulid .written .written
    cases ran : RocksDbEvidenceLog.open codec ed25519 signingKey ulid .written .written
        (run codec ed25519 signingKey events).disk with
    | error halt after =>
      rw [ran] at opened
      exact absurd ⟨rfl, rfl⟩ opened.2.2
    | ok value after =>
      rw [ran] at opened
      obtain ⟨same, -, mirrored⟩ := opened
      have restored : value.1 = lastCommitted codec ed25519 signingKey events := by
        rw [mirrored, (same.shows shown.rows).view, ← shown.rows.view]
        exact view_run drawn events (List.prefix_refl events)
      exact ⟨value.2, after, by rw [← restored]⟩

end Machine

/-! ## A log of one approval -/

def approvalReceipt : EvidenceReceipt :=
  { firstReceipt with
    recordType := .compactionApprovalRequired
    retentionClass := .forever
    subjectCanonicalId := "_system:service:evidence-compaction-worker/seg_00000000000000000000000000000000"
    contentHash := "7666110491c8aac0b32fee40759842effd82b241ee7e7f6efc63210bb2d663ae"
    payload := .object
      [("reason", .string "retention_horizon_passed"), ("segment_id", .string "seg_00000000000000000000000000000000")]
    signature := some ("511df0b00db3f77f35f2d1916049fe8f8eb1621df9efdb58158705fe1c8bb648" ++
      "73cad418b95d9c1674d8f63cf8a6dcb1e5e6685a9730adc8f0658f01e79ce10e") }

def approvalTerminal : EvidenceReceipt :=
  { firstTerminal with
    previousReceiptHash := some "b5d404de88eb9144078f73b913062ee6"
    signature := some ("246a054df4162d05fea583bddc2dd6a013fa5f35a163dec9bc7a4f6fa9c8553f" ++
      "7f54be21bbf1d46c90ce9f0365cce727c94ec71c795dfa6635797598e48cfb09") }

/-- The segment that sealing the approval makes. -/
def approvalSegment : SealedSegment :=
  { firstSegment with
    receipts := [approvalReceipt, approvalTerminal]
    segmentSealHash := "c0f9aaff447ebffd63c72f0de816883bb12fd5258e65914bac6521dc5336cf1b"
    segmentSignature := "6bd2b42c28a220e73fa2c92539f134aa38c4ee61479b3ce5557de8a293e7df53" ++
      "46b94264cbfff50c1c7414fa2f31fe559337d57fa4caa0602a380a5385230a00" }

def logCodec : Codec := tableCodec (seedDigests ++
  segmentDigests approvalReceipt approvalTerminal approvalSegment
    "33023d0064b3a9e3c20f4d4a6b42d2470713f63695752cb3ec8dc1b3537af6ab"
    "b5d404de88eb9144078f73b913062ee64d68cbb41c433cd98af659a41415133f"
    "75b0e9045e44746717b05da398e1b9a4df306c5b4a0232f08ec5680a71987747"
    "d5bc261208e188ab7685b7efddca3766c1503eef9db4219f150c11df72bf96a7") (by decide +kernel)

def logEd25519 : Ed25519 := tableEd25519 sealKey
  [("33023d0064b3a9e3c20f4d4a6b42d2470713f63695752cb3ec8dc1b3537af6ab", approvalReceipt.signature.getD ""),
   ("d5bc261208e188ab7685b7efddca3766c1503eef9db4219f150c11df72bf96a7", approvalTerminal.signature.getD ""),
   (approvalSegment.segmentSealHash, approvalSegment.segmentSignature)] (by decide +kernel)

/-- A database is opened, and an approval appended, whose write ends as given. -/
def approvalRun (outcome : WriteOutcome) : List Event :=
  [.opened "01ARZ3NDEKTSV4RRFFQ69G5FAT" .written .written,
   .emitApproval "seg_00000000000000000000000000000000" ⟨"01ARZ3NDEKTSV4RRFFQ69G5FAV", 0⟩ outcome]

/-- The approval is sealed at the epoch. -/
def approvalSealed : List Event :=
  approvalRun .written ++ [.sealSegment 0 ⟨"01ARZ3NDEKTSV4RRFFQ69G5FAW", 0⟩ .written]

theorem logCodec_told :
    SeedsTold logCodec ["01ARZ3NDEKTSV4RRFFQ69G5FAV", "01ARZ3NDEKTSV4RRFFQ69G5FAW",
      "01ARZ3NDEKTSV4RRFFQ69G5FAX"] [0] where
  sized := by decide +kernel
  told := by decide +kernel

theorem approvalSealed_drawnApart :
    DrawnApart logCodec (approvalSealed.flatMap Event.ulids) (approvalSealed.flatMap Event.times) :=
  ⟨by decide +kernel, logCodec_told.mono (List.subset_append_left _ _) (List.Subset.refl _)⟩

theorem approvalRun_drawnApart (outcome : WriteOutcome) :
    DrawnApart logCodec ((approvalRun outcome).flatMap Event.ulids) ((approvalRun outcome).flatMap Event.times) :=
  ⟨List.nodup_singleton _, logCodec_told.mono (List.subset_append_left _ _) (List.nil_subset _)⟩

namespace Machine

theorem approvalSealed_consistent :
    (∀ before, before <+: approvalSealed → ∀ state, (run logCodec logEd25519 logKey before).process = some state →
      state = (run logCodec logEd25519 logKey before).disk.view) ∧
    ∀ ulid, ∃ logId disk, RocksDbEvidenceLog.open logCodec logEd25519 logKey ulid .written .written
      (run logCodec logEd25519 logKey approvalSealed).disk =
        .ok (lastCommitted logCodec logEd25519 logKey approvalSealed, logId) disk :=
  crash_consistent logCodec logEd25519 logKey approvalSealed approvalSealed_drawnApart

/-- A process that stops behind its write has reported nothing, and what it has written is brought back. -/
theorem unreported_brought_back :
    ¬∀ (codec : Codec) (ed25519 : Ed25519) (signingKey : SigningKey) (events : List Event),
      DrawnApart codec (events.flatMap Event.ulids) (events.flatMap Event.times) →
      (∀ before, before <+: events → ∀ state, (run codec ed25519 signingKey before).process = some state →
        state = (run codec ed25519 signingKey before).disk.view) ∧
      ∀ ulid, ∃ logId disk, RocksDbEvidenceLog.open codec ed25519 signingKey ulid .written .written
        (run codec ed25519 signingKey events).disk =
        .ok (lastReported codec ed25519 signingKey events, logId) disk := by
  intro restored
  obtain ⟨logId, disk, opened⟩ := (restored logCodec logEd25519 logKey (approvalRun (.stopped true))
    (approvalRun_drawnApart _)).2 "01ARZ3NDEKTSV4RRFFQ69G5FAT"
  have reported : (lastReported logCodec logEd25519 logKey
      (approvalRun (.stopped true))).current.receipts.length = 0 := by
    decide +kernel
  have recovered : (match RocksDbEvidenceLog.open logCodec logEd25519 logKey "01ARZ3NDEKTSV4RRFFQ69G5FAT" .written
      .written (run logCodec logEd25519 logKey (approvalRun (.stopped true))).disk with
    | .ok value _ => value.1.current.receipts.length
    | .error _ _ => 0) = 1 := by decide +kernel
  rw [opened] at recovered
  exact absurd (reported.symm.trans recovered) Nat.zero_ne_one

end Machine

end Aios.Evidence
