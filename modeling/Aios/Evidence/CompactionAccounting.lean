import Aios.Evidence.ForeverRetention

/-! # What a compaction counts

A compaction counts every receipt of its segment, and the terminal receipt, which never has a row of its own, is
among them. So the counts it returns are above the numbers of rows that it deletes, and the totals of a tick are
right only where the tick compacts nothing. -/

namespace Aios.Evidence

open Aios.Rust Stateful

variable {codec : Codec} {ed25519 : Ed25519} {signingKey : SigningKey} {ulids : List String} {times : List DateTime}
  {archive : Archive} {log : RocksDbEvidenceLog}

section

variable {segmentId : SegmentId} {segment : SealedSegment} {outcome : WriteOutcome} {after : RocksDbEvidenceLog}

/-! ## One compaction -/

end

section Ticks

variable {worker : CompactionWorker} {now : DateTime} {start : Disk} {visited : List ListedSegment}
  {report : CompactionReport} {ticking : Ticking}

variable {ulids' : List String} {listed : ListedSegment} (draw : Draw)

/-- A log whose state shows some sound archive. -/
def Ticking.Stands (codec : Codec) (ed25519 : Ed25519) (signingKey : SigningKey) (ulids : List String)
    (times : List DateTime) (machine : Machine) : Prop :=
  ∃ archive, machine.Shows codec ed25519 signingKey ulids times archive

/-- The report so far: the rows lost and the segments compacted are together no more than the rows counted; if
none has been compacted then nothing has been counted, and none of the segments visited was up for it. -/
structure Ticking.Accounts (codec : Codec) (ed25519 : Ed25519) (signingKey : SigningKey) (ulids : List String)
    (times : List DateTime) (start : Disk) (worker : CompactionWorker) (now : DateTime) (visited : List ListedSegment)
    (report : CompactionReport) (ticking : Ticking) : Prop where
  stands : Ticking.Stands codec ed25519 signingKey ulids times ⟨ticking.backend.disk, some ticking.backend.state⟩
  policy : ticking.worker.policy = worker.policy
  approved : ticking.worker.approved ⊆ worker.approved
  receipts : start.receipts.lost ticking.backend.disk.receipts + report.compactedSegments ≤ report.receiptsRemoved
  index : start.recordTypeIndex.lost ticking.backend.disk.recordTypeIndex + report.compactedSegments ≤
    report.indexEntriesPruned
  idle : report.compactedSegments = 0 → report.receiptsRemoved = 0 ∧ report.indexEntriesPruned = 0 ∧
    ticking.worker.approved = worker.approved ∧ ∀ listed ∈ visited, worker.compacts now listed = false
  busy : report.compactedSegments ≠ 0 → ∃ listed ∈ visited, worker.compacts now listed = true

/-- A round that compacts nothing. -/
theorem Ticking.Accounts.pass {report' : CompactionReport} {ticking' : Ticking}
    (accounts : Accounts codec ed25519 signingKey ulids times start worker now visited report ticking)
    (stands : Stands codec ed25519 signingKey ulids' times ⟨ticking'.backend.disk, some ticking'.backend.state⟩)
    (policy : ticking'.worker.policy = ticking.worker.policy)
    (approved : ticking'.worker.approved = ticking.worker.approved)
    (receipts : start.receipts.lost ticking'.backend.disk.receipts ≤ start.receipts.lost ticking.backend.disk.receipts)
    (index : start.recordTypeIndex.lost ticking'.backend.disk.recordTypeIndex ≤
      start.recordTypeIndex.lost ticking.backend.disk.recordTypeIndex)
    (same : report'.compactedSegments = report.compactedSegments ∧ report'.receiptsRemoved = report.receiptsRemoved ∧
      report'.indexEntriesPruned = report.indexEntriesPruned)
    (passed : ticking.worker.approved = worker.approved → worker.compacts now listed = false) :
    Accounts codec ed25519 signingKey ulids' times start worker now (visited ++ [listed]) report' ticking' := by
  obtain ⟨compacted, removed, pruned⟩ := same
  refine ⟨stands, policy.trans accounts.policy, approved ▸ accounts.approved, ?_, ?_, ?_, ?_⟩
  · rw [compacted, removed]
    exact (Nat.add_le_add_right receipts _).trans accounts.receipts
  · rw [compacted, pruned]
    exact (Nat.add_le_add_right index _).trans accounts.index
  · rw [compacted, removed, pruned]
    intro none_
    obtain ⟨noReceipts, noIndex, unchanged, others⟩ := accounts.idle none_
    refine ⟨noReceipts, noIndex, approved.trans unchanged, ?_⟩
    intro other member
    rcases List.mem_append.mp member with earlier | last
    · exact others other earlier
    · rw [List.mem_singleton.mp last]
      exact passed unchanged
  · rw [compacted]
    intro some_
    obtain ⟨other, member, up⟩ := accounts.busy some_
    exact ⟨other, List.mem_append_left _ member, up⟩

/-- The machine that a tick leaves when it fails. -/
def Ticking.FailsStanding (codec : Codec) (ed25519 : Ed25519) (signingKey : SigningKey) (ulids : List String)
    (times : List DateTime) (halt : Halt EvidenceError) (ticking : Ticking) : Prop :=
  Ticking.Stands codec ed25519 signingKey ulids times (@TendedLog.after Unit (.error halt ticking)).machine

theorem Ticking.Stands.mono {machine : Machine} (stands : Stands codec ed25519 signingKey ulids times machine)
    (more : ulids ⊆ ulids') : Stands codec ed25519 signingKey ulids' times machine := by
  obtain ⟨archive, shown⟩ := stands
  exact ⟨archive, shown.mono more (List.Subset.refl _)⟩

theorem Ticking.FailsStanding.mono {halt : Halt EvidenceError}
    (left : FailsStanding codec ed25519 signingKey ulids times halt ticking) (more : ulids ⊆ ulids') :
    FailsStanding codec ed25519 signingKey ulids' times halt ticking := Stands.mono left more

theorem Ticking.Accounts.mono
    (accounts : Accounts codec ed25519 signingKey ulids times start worker now visited report ticking)
    (more : ulids ⊆ ulids') : Accounts codec ed25519 signingKey ulids' times start worker now visited report ticking :=
  { accounts with stands := accounts.stands.mono more }

/-- A backend call of a tick, on a log that stands. -/
theorem Ticking.Stands.calls {α : Type} (program : EStateM (Halt EvidenceError) RocksDbEvidenceLog α) (event : Event)
    (runs : ∀ log, Machine.after (program log) = (Machine.call codec ed25519 signingKey log event).1)
    (silent : event.times = []) (fresh : ∀ ulid ∈ event.ulids, ulid ∉ ulids)
    (told : SeedsTold codec (ulids ++ event.ulids) times) :
    Triple (fun ticking : Ticking =>
        Stands codec ed25519 signingKey ulids times ⟨ticking.backend.disk, some ticking.backend.state⟩)
      (onBackend program)
      (fun _ ticking => Stands codec ed25519 signingKey (ulids ++ event.ulids) times
        ⟨ticking.backend.disk, some ticking.backend.state⟩)
      (FailsStanding codec ed25519 signingKey (ulids ++ event.ulids) times) := by
  rintro ticking ⟨archive, shown⟩
  have called := Machine.Shows.calls event runs silent fresh told ticking.backend shown
  rw [onBackend, zoom]
  cases ran : program ticking.backend with
  | ok value backend =>
    rw [ran] at called
    obtain ⟨archive', -, shown'⟩ := called
    exact ⟨archive', shown'⟩
  | error halt backend =>
    rw [ran] at called
    obtain ⟨archive', -, shown'⟩ := called
    cases halt with
    | failed failure => exact ⟨archive', shown'⟩
    | stopped => exact ⟨archive', shown'⟩

end Ticks

/-! ## Runs -/

namespace TendedLog

variable {events : List TendedEvent} {self : TendedLog}

end TendedLog

/-- The counts are the numbers of rows that are no longer there. -/
def Disk.Counted (before after : Disk) (receiptsRemoved indexEntriesPruned : ℕ) : Prop :=
  receiptsRemoved = before.receipts.lost after.receipts ∧
    indexEntriesPruned = before.recordTypeIndex.lost after.recordTypeIndex

namespace TendedLog

variable {self : TendedLog} {state : BackendState}

end TendedLog

end Aios.Evidence
