import Aios.Evidence.Compaction
import Aios.Evidence.CrashConsistency

/-! # Receipts that are kept forever

Compaction goes by the retention class of a segment, and every segment of a log is of the standard class. A receipt of
the class `Forever` is safe as long as no tick compacts a segment that holds one before its terminal receipt.
-/

namespace Aios.Evidence

open Aios.Rust

/-- No receipt of the segment, its terminal receipt apart, is to be kept forever. -/
def SealedSegment.SparesForever (self : SealedSegment) : Prop :=
  ∀ receipt ∈ self.receiptsExcludingTerminal, receipt.retentionClass ≠ .forever

/-- A receipt that is to be kept forever and has its row before has it after. -/
def Disk.KeepsForever (before after : Disk) : Prop :=
  ∀ id receipt, receipt.retentionClass = .forever → before.receipts.lookup id = some receipt →
    after.receipts.lookup id = some receipt

theorem Disk.KeepsForever.refl (disk : Disk) : disk.KeepsForever disk := fun _ _ _ stored => stored

theorem Disk.KeepsForever.trans {first second third : Disk} (before : first.KeepsForever second)
    (after : second.KeepsForever third) : first.KeepsForever third :=
  fun id receipt forever stored => after id receipt forever (before id receipt forever stored)

namespace Archive

def KeepsForever (before after : Archive) : Prop :=
  ∀ receipt ∈ before.warm, receipt.retentionClass = .forever → receipt ∈ after.warm

theorem KeepsForever.refl (archive : Archive) : archive.KeepsForever archive := fun _ warm _ => warm

theorem KeepsForever.trans {first second third : Archive} (before : first.KeepsForever second)
    (after : second.KeepsForever third) : first.KeepsForever third :=
  fun receipt warm forever => after receipt (before receipt warm forever) forever

/-- The rows lose no more than the archive does. -/
theorem KeepsForever.rows {before after : Archive} (kept : before.KeepsForever after) {disk disk' : Disk}
    (shown : disk.Shows before) (shown' : disk'.Shows after) : disk.KeepsForever disk' := by
  intro id receipt forever stored
  obtain ⟨warm, named⟩ := (shown.receipts id receipt).mp stored
  exact (shown'.receipts id receipt).mpr ⟨kept receipt warm forever, named⟩

variable {codec : Codec} {ed25519 : Ed25519} {verifyingKey : VerifyingKey} {ulids : List String} {times : List DateTime}
  {archive archive' : Archive} {event : Event}

/-- Only a compaction takes a row away, and it takes the receipts of its segment. -/
theorem Moves.keepsForever (moves : archive.Moves event archive')
    (sound : archive.Sound codec ed25519 verifyingKey ulids times) (told : SeedsTold codec ulids times)
    (spared : ∀ segmentId now outcome, event = .compact segmentId now outcome →
      ∀ segment ∈ archive.segments, segment.segmentId = segmentId → segment.SparesForever) :
    archive.KeepsForever archive' := by
  intro receipt warm forever
  cases moves with
  | kept event => exact warm
  | appended event added => exact mem_warm_append.mpr (.inl warm)
  | closed sealedAt stamp outcome segment body uncompacted => exact (mem_warm_close body uncompacted).mpr warm
  | compacted segment now outcome listed =>
    refine (mem_warm_compact sound told listed).mpr ⟨warm, fun inside => ?_⟩
    obtain ⟨terminal, split, -⟩ := sound.closed segment listed
    have last : segment.receipts.getLast? = some terminal := by rw [split, List.getLast?_concat]
    rw [split, List.mem_append, List.mem_singleton] at inside
    obtain body | rfl := inside
    · exact spared _ now outcome rfl segment listed rfl receipt body forever
    · exact sound.terminal_not_warm listed last warm

/-- The calls of a tick seal nothing. -/
theorem Moves.segments_eq (moves : archive.Moves event archive') (silent : event.times = []) :
    archive'.segments = archive.segments := by
  cases moves with
  | kept event => rfl
  | appended event added => rfl
  | closed sealedAt stamp outcome segment body uncompacted => cases silent
  | compacted segment now outcome listed => rfl

end Archive

/-! ## Ticks -/

def SealedSegment.listed (self : SealedSegment) : ListedSegment := (self.segmentId, self.retentionClass, self.sealedAt)

/-- The worker compacts the segment if it is listed. -/
def CompactionWorker.compacts (self : CompactionWorker) (now : DateTime) (listed : ListedSegment) : Bool :=
  isEligible listed.2.1 listed.2.2 now &&
    (self.policy == .auto || self.policy == .operatorApproval && decide (listed.1 ∈ self.approved))

/-- Every entry of the list is a segment that has not been compacted. -/
theorem RocksDbEvidenceLog.mem_of_listSealedSegments {disk : Disk} {archive : Archive} (rows : disk.Shows archive)
    {entries : List ListedSegment} (listing : listSealedSegments disk = .ok entries) {entry : ListedSegment}
    (listed : entry ∈ entries) :
    ∃ segment ∈ archive.segments, segment.listed = entry ∧ disk.compactedAt.lookup segment.segmentId = none := by
  rw [listSealedSegments, Fallible.bind_eq_ok_iff] at listing
  obtain ⟨found, walked, same⟩ := listing
  rw [Fallible.pure_eq_ok_iff] at same
  rw [← same, List.mem_filterMap] at listed
  obtain ⟨result, member, kept⟩ := listed
  obtain ⟨position, -, read⟩ := Fallible.exists_of_mapM walked member
  rw [listedAt] at read
  cases indexed : disk.chainIndex.lookup position with
  | none =>
    rw [indexed] at read
    cases read
  | some text =>
    rw [indexed] at read
    obtain ⟨_, -, read⟩ := Fallible.bind_eq_ok_iff.mp read
    obtain ⟨segmentId, -, read⟩ := Fallible.bind_eq_ok_iff.mp read
    dsimp only at read
    cases looked : disk.segments.lookup segmentId with
    | none =>
      rw [looked] at read
      cases read
    | some segment =>
      rw [looked] at read
      obtain ⟨inside, rfl⟩ := rows.sealed _ _ looked
      cases read
      rw [id, segmentCompactedAt] at kept
      cases compacted : disk.compactedAt.lookup segment.segmentId with
      | some time =>
        rw [compacted] at kept
        cases kept
      | none =>
        rw [compacted] at kept
        exact ⟨segment, inside, Option.some.inj kept, compacted⟩

section

open Stateful

variable {codec : Codec} {ed25519 : Ed25519} {signingKey : SigningKey} {start : Archive} {worker : CompactionWorker}
  {ulids ulids' : List String} {times : List DateTime} {now : DateTime}

variable {α : Type} {segmentId : SegmentId} {ticking : Ticking}
  {program : EStateM (Halt EvidenceError) RocksDbEvidenceLog α} (draw : Draw) (report : CompactionReport)
  (event : Event)

/-- What the calls of a tick keep: the log shows a sound archive with the segments of the start and every receipt of it
that is to be kept forever, and no approval has been added. -/
structure Ticking.Holds (codec : Codec) (ed25519 : Ed25519) (signingKey : SigningKey) (start : Archive)
    (worker : CompactionWorker) (ulids : List String) (times : List DateTime) (ticking : Ticking) : Prop where
  shown : ∃ archive, start.KeepsForever archive ∧ archive.segments = start.segments ∧
    Machine.Shows codec ed25519 signingKey ulids times ⟨ticking.backend.disk, some ticking.backend.state⟩ archive
  policy : ticking.worker.policy = worker.policy
  approved : ticking.worker.approved ⊆ worker.approved

/-- What a tick that fails leaves behind. -/
def Ticking.Leaves (codec : Codec) (ed25519 : Ed25519) (signingKey : SigningKey) (start : Archive) (ulids : List String)
    (times : List DateTime) (halt : Halt EvidenceError) (ticking : Ticking) : Prop :=
  ∃ archive, start.KeepsForever archive ∧ (@TendedLog.after Unit (.error halt ticking)).machine.Shows codec ed25519
    signingKey ulids times archive

theorem Ticking.Holds.mono (held : ticking.Holds codec ed25519 signingKey start worker ulids times)
    (more : ulids ⊆ ulids') : ticking.Holds codec ed25519 signingKey start worker ulids' times := by
  obtain ⟨⟨archive, kept, segments, shown⟩, policy, approved⟩ := held
  exact ⟨⟨archive, kept, segments, shown.mono more (List.Subset.refl _)⟩, policy, approved⟩

theorem Ticking.Leaves.mono {halt : Halt EvidenceError}
    (left : ticking.Leaves codec ed25519 signingKey start ulids times halt) (more : ulids ⊆ ulids') :
    ticking.Leaves codec ed25519 signingKey start ulids' times halt := by
  obtain ⟨archive, kept, shown⟩ := left
  exact ⟨archive, kept, shown.mono more (List.Subset.refl _)⟩

/-- A backend call of a tick is a call of the machine, which goes on from where it has left it. -/
theorem Machine.Shows.calls {archive : Archive}
    (runs : ∀ log, Machine.after (program log) = (Machine.call codec ed25519 signingKey log event).1)
    (silent : event.times = []) (fresh : ∀ ulid ∈ event.ulids, ulid ∉ ulids)
    (told : SeedsTold codec (ulids ++ event.ulids) times) :
    Triple (fun log => Machine.Shows codec ed25519 signingKey ulids times ⟨log.disk, some log.state⟩ archive) program
      (fun _ log => ∃ archive', archive.Moves event archive' ∧
        Machine.Shows codec ed25519 signingKey (ulids ++ event.ulids) times ⟨log.disk, some log.state⟩ archive')
      (fun halt log => ∃ archive', archive.Moves event archive' ∧
        Machine.Shows codec ed25519 signingKey (ulids ++ event.ulids) times (@Machine.after _ Unit (.error halt log))
          archive') := by
  intro log shown
  have shows_ : log.Shows archive := ⟨shown.rows, shown.mirrored _ rfl⟩
  have told' : SeedsTold codec (ulids ++ event.ulids) (times ++ event.times) := by rwa [silent, List.append_nil]
  obtain ⟨archive', moves, shown'⟩ := Machine.Shows.call shows_ shown.sound shown.versioned fresh told'
  rw [← runs, silent, List.append_nil] at shown'
  cases ran : program log with
  | ok value after =>
    rw [ran] at shown'
    exact ⟨archive', moves, shown'⟩
  | error halt after =>
    rw [ran] at shown'
    refine ⟨archive', moves, ?_⟩
    cases halt with
    | failed failure => exact shown'
    | stopped => exact shown'

/-- A backend call of a tick keeps it. -/
theorem Ticking.onBackend_holds {α : Type} {program : EStateM (Halt EvidenceError) RocksDbEvidenceLog α} (event : Event)
    (runs : ∀ log, Machine.after (program log) = (Machine.call codec ed25519 signingKey log event).1)
    (silent : event.times = []) (fresh : ∀ ulid ∈ event.ulids, ulid ∉ ulids)
    (told : SeedsTold codec (ulids ++ event.ulids) times)
    (spared : ∀ segmentId now outcome, event = .compact segmentId now outcome →
      ∀ segment ∈ start.segments, segment.segmentId = segmentId → segment.SparesForever) :
    Triple (Holds codec ed25519 signingKey start worker ulids times) (onBackend program)
      (fun _ => Holds codec ed25519 signingKey start worker (ulids ++ event.ulids) times)
      (Leaves codec ed25519 signingKey start (ulids ++ event.ulids) times) := by
  rintro ticking ⟨⟨archive, kept, segments, shown⟩, policy, approved⟩
  have before : SeedsTold codec ulids times := told.mono (List.subset_append_left _ _) (List.Subset.refl _)
  rw [← segments] at spared
  have called := Machine.Shows.calls event runs silent fresh told ticking.backend shown
  rw [onBackend, zoom]
  cases ran : program ticking.backend with
  | ok value backend =>
    rw [ran] at called
    obtain ⟨archive', moves, shown'⟩ := called
    have segments' := (moves.segments_eq silent).trans segments
    exact ⟨⟨archive', kept.trans (moves.keepsForever shown.sound before spared), segments', shown'⟩, policy, approved⟩
  | error halt backend =>
    rw [ran] at called
    obtain ⟨archive', moves, shown'⟩ := called
    refine ⟨archive', kept.trans (moves.keepsForever shown.sound before spared), ?_⟩
    cases halt with
    | failed failure => exact shown'
    | stopped => exact shown'

/-- The worker's bookkeeping adds no approval. -/
theorem Ticking.onWorker_holds {update : CompactionWorker → CompactionWorker}
    (policy : ∀ worker, (update worker).policy = worker.policy)
    (approved : ∀ worker, (update worker).approved ⊆ worker.approved) :
    Triple (Holds codec ed25519 signingKey start worker ulids times) (onWorker update)
      (fun _ => Holds codec ed25519 signingKey start worker ulids times)
      (Leaves codec ed25519 signingKey start ulids times) :=
  Triple.of_modify fun _ held => ⟨held.shown, (policy _).trans held.policy, (approved _).trans held.approved⟩

theorem CompactionWorker.compactListed_holds (told : SeedsTold codec ulids times)
    (spared : ∀ segment ∈ start.segments, segment.segmentId = segmentId → segment.SparesForever) :
    Triple (Ticking.Holds codec ed25519 signingKey start worker ulids times) (compactListed codec segmentId draw report)
      (fun _ => Ticking.Holds codec ed25519 signingKey start worker ulids times)
      (Ticking.Leaves codec ed25519 signingKey start ulids times) := by
  have compacts : Triple (Ticking.Holds codec ed25519 signingKey start worker ulids times)
      (Ticking.onBackend (RocksDbEvidenceLog.compactSegment codec segmentId draw.now draw.outcome))
      (fun _ => Ticking.Holds codec ed25519 signingKey start worker (ulids ++ []) times)
      (Ticking.Leaves codec ed25519 signingKey start (ulids ++ []) times) := by
    refine Ticking.onBackend_holds (.compact segmentId draw.now draw.outcome)
      (fun _ => by rw [Machine.call]) rfl ?_ ?_ ?_
    · exact List.forall_mem_nil _
    · rwa [Event.ulids, List.append_nil]
    · rintro _ _ _ ⟨⟩
      exact spared
  rw [List.append_nil] at compacts
  apply compacts.bind
  intro removed
  refine Triple.bind (Ticking.onWorker_holds (fun _ => rfl) fun _ => Finset.erase_subset _ _) fun done => ?_
  exact Triple.of_pure fun _ held => held

theorem CompactionWorker.askForApproval_holds (fresh : draw.stamp.ulid ∉ ulids)
    (told : SeedsTold codec (ulids ++ [draw.stamp.ulid]) times) :
    Triple (Ticking.Holds codec ed25519 signingKey start worker ulids times)
      (askForApproval codec ed25519 signingKey segmentId draw report)
      (fun _ => Ticking.Holds codec ed25519 signingKey start worker (ulids ++ [draw.stamp.ulid]) times)
      (Ticking.Leaves codec ed25519 signingKey start (ulids ++ [draw.stamp.ulid]) times) := by
  have emits : Triple (Ticking.Holds codec ed25519 signingKey start worker ulids times)
      (Ticking.onBackend (RocksDbEvidenceLog.emitApprovalRequired codec ed25519 signingKey segmentId draw.stamp
        draw.outcome))
      (fun _ => Ticking.Holds codec ed25519 signingKey start worker (ulids ++ [draw.stamp.ulid]) times)
      (Ticking.Leaves codec ed25519 signingKey start (ulids ++ [draw.stamp.ulid]) times) := by
    refine Ticking.onBackend_holds (.emitApproval segmentId draw.stamp draw.outcome) (fun _ => by rw [Machine.call]) rfl
      ?_ told ?_
    · exact fun ulid drawn => List.mem_singleton.mp drawn ▸ fresh
    · rintro _ _ _ ⟨⟩
  refine Triple.bind emits fun _ => Triple.bind ?_ fun _ => Triple.of_pure fun _ held => held
  exact Ticking.onWorker_holds (fun _ => rfl) fun _ => Finset.Subset.refl _

/-- One round of the loop of a tick. -/
theorem CompactionWorker.visit_holds {listed : ListedSegment} (draw : Draw) (report : CompactionReport)
    (fresh : draw.stamp.ulid ∉ ulids) (told : SeedsTold codec (ulids ++ [draw.stamp.ulid]) times)
    (spared : worker.compacts now listed = true →
      ∀ segment ∈ start.segments, segment.segmentId = listed.1 → segment.SparesForever) :
    Triple (Ticking.Holds codec ed25519 signingKey start worker ulids times)
      (visit codec ed25519 signingKey now listed draw report)
      (fun _ => Ticking.Holds codec ed25519 signingKey start worker (ulids ++ [draw.stamp.ulid]) times)
      (Ticking.Leaves codec ed25519 signingKey start (ulids ++ [draw.stamp.ulid]) times) := by
  intro ticking held
  have more : ulids ⊆ ulids ++ [draw.stamp.ulid] := List.subset_append_left _ _
  have before : SeedsTold codec ulids times := told.mono more (List.Subset.refl _)
  have unchanged := held.mono more
  have compacted (report : CompactionReport) (compacts : worker.compacts now listed = true) :=
    ((compactListed_holds draw report before (spared compacts)).mono (fun _ _ held => held.mono more)
      fun _ _ left => left.mono more) ticking held
  obtain ⟨segmentId, retentionClass, sealedAt⟩ := listed
  rw [visit]
  by_cases eligible : isEligible retentionClass sealedAt now = true
  · simp only [eligible, Bool.not_true, Bool.false_eq_true, if_false, get_bind_apply]
    cases policy : ticking.worker.policy with
    | auto =>
      apply compacted
      simp [compacts, eligible, ← held.policy, policy]
    | disabled => exact unchanged
    | operatorApproval =>
      by_cases approved : segmentId ∈ ticking.worker.approved
      · simp only [approved, if_true]
        apply compacted
        simp [compacts, eligible, ← held.policy, policy, held.approved approved]
      · by_cases awaiting : segmentId ∈ ticking.worker.awaitingApproval
        · simp only [approved, awaiting, if_false, if_true]
          exact unchanged
        · simp only [approved, awaiting, if_false]
          exact askForApproval_holds draw _ fresh told ticking held
  · simp only [eligible, Bool.not_false, if_true]
    exact unchanged

/-- The loop of a tick, by induction on the segments it walks. -/
theorem CompactionWorker.visitAll_holds {entries : List ListedSegment} (draws : List Draw) (report : CompactionReport)
    (fresh : ∀ draw ∈ draws, draw.stamp.ulid ∉ ulids) (once : (draws.map fun draw => draw.stamp.ulid).Nodup)
    (told : SeedsTold codec (ulids ++ draws.map fun draw => draw.stamp.ulid) times)
    (spared : ∀ listed ∈ entries, worker.compacts now listed = true →
      ∀ segment ∈ start.segments, segment.segmentId = listed.1 → segment.SparesForever) :
    Triple (Ticking.Holds codec ed25519 signingKey start worker ulids times)
      (visitAll codec ed25519 signingKey now entries draws report)
      (fun _ => Ticking.Holds codec ed25519 signingKey start worker
        (ulids ++ draws.map fun draw => draw.stamp.ulid) times)
      (Ticking.Leaves codec ed25519 signingKey start (ulids ++ draws.map fun draw => draw.stamp.ulid) times) := by
  induction entries generalizing draws report ulids with
  | nil => exact Triple.of_pure fun _ held => held.mono (List.subset_append_left _ _)
  | cons listed rest ih =>
    cases draws with
    | nil =>
      apply Triple.of_throw
      rintro ticking ⟨⟨archive, kept, -, shown⟩, -, -⟩
      have ended : (⟨ticking.backend.disk, none⟩ : Machine).Shows codec ed25519 signingKey ulids times archive :=
        ⟨shown.rows, shown.sound, shown.versioned, fun state running => by cases running⟩
      exact ⟨archive, kept, ended.mono (List.subset_append_left _ _) (List.Subset.refl _)⟩
    | cons draw draws =>
      rw [List.map_cons, List.nodup_cons] at once
      have split : ulids ++ List.map (fun draw => draw.stamp.ulid) (draw :: draws) =
          (ulids ++ [draw.stamp.ulid]) ++ draws.map fun draw => draw.stamp.ulid := by
        rw [List.map_cons, List.append_assoc, List.singleton_append]
      rw [split] at told ⊢
      have first : Triple (Ticking.Holds codec ed25519 signingKey start worker ulids times)
          (visit codec ed25519 signingKey now listed draw report)
          (fun _ => Ticking.Holds codec ed25519 signingKey start worker (ulids ++ [draw.stamp.ulid]) times)
          (Ticking.Leaves codec ed25519 signingKey start (ulids ++ [draw.stamp.ulid]) times) :=
        visit_holds draw report (fresh draw List.mem_cons_self)
          (told.mono (List.subset_append_left _ _) (List.Subset.refl _)) (spared listed List.mem_cons_self)
      apply (first.mono (fun _ _ held => held) fun _ _ left => left.mono (List.subset_append_left _ _)).bind
      intro report
      apply ih draws report ?_ once.2 told fun listed member => spared listed (List.mem_cons_of_mem _ member)
      intro other member drawn
      obtain drawn | drawn := List.mem_append.mp drawn
      · exact fresh other (List.mem_cons_of_mem _ member) drawn
      · exact once.1 (List.mem_map.mpr ⟨other, member, List.mem_singleton.mp drawn⟩)

end

/-! ## Runs -/

namespace TendedLog

/-- No segment that the step compacts holds a receipt to be kept forever before its terminal one. -/
def Spares (self : TendedLog) : TendedEvent → Prop
  | .store (.compact segmentId _ _) =>
    ∀ segment, self.machine.disk.segments.lookup segmentId = some segment → segment.SparesForever
  | .tick now _ => ∀ segment, self.machine.disk.segments.lookup segment.segmentId = some segment →
      self.machine.disk.compactedAt.lookup segment.segmentId = none → self.worker.compacts now segment.listed = true →
      segment.SparesForever
  | _ => True

variable {codec : Codec} {ed25519 : Ed25519} {signingKey : SigningKey} {ulids : List String} {times : List DateTime}
  {archive : Archive} {self : TendedLog}

theorem tick_keeps (shown : self.machine.Shows codec ed25519 signingKey ulids times archive) {now : DateTime}
    {draws : List Draw} (fresh : ∀ draw ∈ draws, draw.stamp.ulid ∉ ulids)
    (once : (draws.map fun draw => draw.stamp.ulid).Nodup)
    (told : SeedsTold codec (ulids ++ draws.map fun draw => draw.stamp.ulid) times)
    (spares : self.Spares (.tick now draws)) :
    ∃ archive', archive.KeepsForever archive' ∧
      (self.step codec ed25519 signingKey (.tick now draws)).machine.Shows codec ed25519 signingKey
        (ulids ++ draws.map fun draw => draw.stamp.ulid) times archive' := by
  have more : ulids ⊆ ulids ++ draws.map fun draw => draw.stamp.ulid := List.subset_append_left _ _
  rw [step]
  cases running : self.machine.process with
  | none => exact ⟨archive, .refl _, shown.mono more (List.Subset.refl _)⟩
  | some state =>
    have same : (⟨self.machine.disk, some state⟩ : Machine) = self.machine := by rw [← running]
    have held : Ticking.Holds codec ed25519 signingKey archive self.worker ulids times
        ⟨self.worker, ⟨self.machine.disk, state⟩⟩ :=
      ⟨⟨archive, .refl _, rfl, by rwa [same]⟩, rfl, Finset.Subset.refl _⟩
    dsimp only
    rw [CompactionWorker.tick, Stateful.get_bind_apply, Stateful.bind_apply]
    cases listing : RocksDbEvidenceLog.listSealedSegments self.machine.disk with
    | error failure => exact ⟨archive, .refl _, by rw [← same] at shown; exact shown.mono more (List.Subset.refl _)⟩
    | ok entries =>
      have spared : ∀ listed ∈ entries, self.worker.compacts now listed = true →
          ∀ segment ∈ archive.segments, segment.segmentId = listed.1 → segment.SparesForever := by
        intro listed member compacts segment inside named
        obtain ⟨other, inside', rfl, uncompacted⟩ :=
          RocksDbEvidenceLog.mem_of_listSealedSegments shown.rows listing member
        obtain rfl := shown.sound.eq_of_segmentId (told.mono more (List.Subset.refl _)) inside inside' named
        exact spares segment (shown.rows.stores.stored segment inside) uncompacted compacts
      have walked := CompactionWorker.visitAll_holds draws {} fresh once told spared
        ⟨self.worker, ⟨self.machine.disk, state⟩⟩ held
      change ∃ archive', archive.KeepsForever archive' ∧ (after (CompactionWorker.visitAll codec ed25519 signingKey now
        entries draws {} ⟨self.worker, ⟨self.machine.disk, state⟩⟩)).machine.Shows codec ed25519 signingKey _
          times archive'
      cases ran : CompactionWorker.visitAll codec ed25519 signingKey now entries draws {}
          ⟨self.worker, ⟨self.machine.disk, state⟩⟩ with
      | ok report ticking =>
        rw [ran] at walked
        obtain ⟨⟨archive', kept, -, shown'⟩, -, -⟩ := walked
        exact ⟨archive', kept, shown'⟩
      | error halt ticking =>
        rw [ran] at walked
        obtain ⟨archive', kept, shown'⟩ := walked
        cases halt with
        | failed failure => exact ⟨archive', kept, shown'⟩
        | stopped => exact ⟨archive', kept, shown'⟩

/-- A step that spares them loses no receipt to be kept forever. -/
theorem step_keeps (shown : self.machine.Shows codec ed25519 signingKey ulids times archive) {event : TendedEvent}
    (fresh : ∀ ulid ∈ event.ulids, ulid ∉ ulids) (once : event.ulids.Nodup)
    (told : SeedsTold codec (ulids ++ event.ulids) (times ++ event.times)) (spares : self.Spares event) :
    ∃ archive', archive.KeepsForever archive' ∧ (self.step codec ed25519 signingKey event).machine.Shows codec ed25519
      signingKey (ulids ++ event.ulids) (times ++ event.times) archive' := by
  have unchanged := shown.mono (List.subset_append_left ulids event.ulids) (List.subset_append_left times event.times)
  cases event with
  | store event =>
    obtain ⟨archive', moves, shown'⟩ := shown.step fresh told
    have before : SeedsTold codec ulids times :=
      told.mono (List.subset_append_left _ _) (List.subset_append_left _ _)
    refine ⟨archive', moves.keepsForever shown.sound before ?_, shown'⟩
    rintro segmentId now outcome rfl segment inside rfl
    exact spares segment (shown.rows.stores.stored segment inside)
  | started policy => exact ⟨archive, .refl _, unchanged⟩
  | approve segmentId => exact ⟨archive, .refl _, unchanged⟩
  | tick now draws =>
    rw [TendedEvent.times, List.append_nil] at told ⊢
    exact tick_keeps shown (fun draw member => fresh _ (List.mem_map_of_mem member)) once told spares

variable {events : List TendedEvent}

/-- Every state of a run whose steps spare them shows a sound archive. -/
theorem shows_run (drawn : DrawnApart codec (events.flatMap TendedEvent.ulids) (events.flatMap TendedEvent.times))
    (spares : ∀ before event rest, events = before ++ event :: rest →
      (run codec ed25519 signingKey before).Spares event) :
    ∀ before, before <+: events → ∃ archive,
      (run codec ed25519 signingKey before).machine.Shows codec ed25519 signingKey
      (before.flatMap TendedEvent.ulids) (before.flatMap TendedEvent.times) archive := by
  have initial : ∃ archive, blank.machine.Shows codec ed25519 signingKey [] [] archive := ⟨.empty, Machine.shows_blank⟩
  refine StepRun.run_invariant_along (fun before (self : TendedLog) => ∃ archive, self.machine.Shows codec ed25519
    signingKey (before.flatMap TendedEvent.ulids) (before.flatMap TendedEvent.times) archive) initial ?_
  rintro before event rest split ⟨archive, shown⟩
  obtain ⟨fresh, once, told⟩ := drawn.step split
  obtain ⟨archive', -, shown'⟩ := step_keeps shown fresh once told (spares before event rest split)
  rw [List.flatMap_append, List.flatMap_append, List.flatMap_singleton, List.flatMap_singleton]
  exact ⟨archive', shown'⟩

/-- In a run whose ticks compact no segment with a receipt to be kept forever, no such receipt ever loses its row. -/
theorem forever_kept (codec : Codec) (ed25519 : Ed25519) (signingKey : SigningKey) (events : List TendedEvent)
    (drawn : DrawnApart codec (events.flatMap TendedEvent.ulids) (events.flatMap TendedEvent.times))
    (spares : ∀ before event rest, events = before ++ event :: rest →
      (run codec ed25519 signingKey before).Spares event) :
    ∀ before later, before ++ later <+: events →
      (run codec ed25519 signingKey before).machine.disk.KeepsForever
        (run codec ed25519 signingKey (before ++ later)).machine.disk := by
  intro before later
  induction later using List.reverseRecOn with
  | nil =>
    intro _
    rw [List.append_nil]
    exact .refl _
  | append_singleton later event ih =>
    rintro ⟨rest, split⟩
    have cut : events = (before ++ later) ++ event :: rest := by
      rw [← split, List.append_assoc, List.append_assoc, List.append_assoc, List.singleton_append]
    obtain ⟨archive, shown⟩ := shows_run drawn spares (before ++ later) ⟨event :: rest, cut.symm⟩
    obtain ⟨fresh, once, told⟩ := drawn.step cut
    obtain ⟨archive', kept, shown'⟩ := step_keeps shown fresh once told (spares _ _ _ cut)
    have last : run codec ed25519 signingKey (before ++ (later ++ [event])) =
        (run codec ed25519 signingKey (before ++ later)).step codec ed25519 signingKey event := by
      rw [← List.append_assoc, run, StepRun.run_append]
      rfl
    rw [last]
    exact (ih ⟨event :: rest, cut.symm⟩).trans (kept.rows shown.rows shown'.rows)

/-- A tick over the log whose one segment is the sealed approval. -/
def approvalTicked (policy : CompactionPolicy) (now : DateTime) : List TendedEvent :=
  approvalSealed.map .store ++ [.started policy, .tick now [⟨⟨"01ARZ3NDEKTSV4RRFFQ69G5FAX", 0⟩, 0, .written⟩]]

theorem approvalTicked_drawnApart (policy : CompactionPolicy) (now : DateTime) :
    DrawnApart logCodec ((approvalTicked policy now).flatMap TendedEvent.ulids)
      ((approvalTicked policy now).flatMap TendedEvent.times) := by
  change DrawnApart logCodec ((approvalTicked .auto 0).flatMap TendedEvent.ulids)
    ((approvalTicked .auto 0).flatMap TendedEvent.times)
  exact ⟨by decide +kernel, logCodec_told⟩

/-- A tick that waits for the approval of an operator spares everything. -/
theorem approvalTicked_spares (now : DateTime) : ∀ before event rest,
    approvalTicked .operatorApproval now = before ++ event :: rest →
      (run logCodec logEd25519 logKey before).Spares event := by
  intro before event rest split
  obtain _ | ⟨first, _ | ⟨second, _ | ⟨third, _ | ⟨fourth, _ | ⟨fifth, before⟩⟩⟩⟩⟩ := before
  · cases split
    trivial
  · cases split
    trivial
  · cases split
    trivial
  · cases split
    trivial
  · cases split
    intro segment stored uncompacted compacts
    have worker : (run logCodec logEd25519 logKey (approvalSealed.map .store ++ [.started .operatorApproval])).worker =
        .new .operatorApproval := rfl
    change CompactionWorker.compacts (run logCodec logEd25519 logKey
      (approvalSealed.map .store ++ [.started .operatorApproval])).worker now segment.listed = true at compacts
    rw [worker, CompactionWorker.compacts] at compacts
    simp [CompactionWorker.new] at compacts
  · have lengths := congrArg List.length split
    simp only [approvalTicked, approvalSealed, approvalRun, List.length_append, List.length_map, List.length_cons,
      List.length_nil] at lengths
    omega

theorem approvalTicked_kept :
    (run logCodec logEd25519 logKey (approvalSealed.map .store)).machine.disk.KeepsForever
      (run logCodec logEd25519 logKey (approvalTicked .operatorApproval (days 730))).machine.disk :=
  forever_kept logCodec logEd25519 logKey (approvalTicked .operatorApproval (days 730))
    (approvalTicked_drawnApart _ _) (approvalTicked_spares _) (approvalSealed.map .store) _ (List.prefix_refl _)

/-- The approval is to be kept forever, and is deleted with the segment of the standard class that it was sealed in. -/
theorem approval_deleted :
    ¬∀ (codec : Codec) (ed25519 : Ed25519) (signingKey : SigningKey) (events : List TendedEvent),
      DrawnApart codec (events.flatMap TendedEvent.ulids) (events.flatMap TendedEvent.times) →
      ∀ before later, before ++ later <+: events →
        (run codec ed25519 signingKey before).machine.disk.KeepsForever
          (run codec ed25519 signingKey (before ++ later)).machine.disk := by
  intro kept
  have keeps := kept logCodec logEd25519 logKey (approvalTicked .auto (days 730)) (approvalTicked_drawnApart _ _)
    (approvalSealed.map .store) _ (List.prefix_refl _)
  have stored : ((run logCodec logEd25519 logKey (approvalSealed.map .store)).machine.disk.receipts.lookup
      approvalReceipt.receiptId).map EvidenceReceipt.retentionClass = some .forever := by decide +kernel
  obtain ⟨receipt, found, forever⟩ := Option.map_eq_some_iff.mp stored
  have deleted : ((run logCodec logEd25519 logKey (approvalTicked .auto (days 730))).machine.disk.receipts.lookup
      approvalReceipt.receiptId).isNone = true := by decide +kernel
  have survives := keeps _ receipt forever found
  rw [Option.isNone_iff_eq_none] at deleted
  cases deleted.symm.trans survives

end TendedLog

end Aios.Evidence
