import Aios.Evidence.LinkCheckers

/-! # What the persistent log holds

The abstract model of the store: the sealed segments in chain order, those of them that have been compacted, and the
receipts of the open segment. `Archive.Sound` is what holds of every archive a log can come to; `Disk.Shows` says how
the rows represent an archive. Each batch the backend writes takes a disk that shows an archive to one that shows
the next.
-/

namespace Aios.Evidence

open Aios.Rust

structure Archive where
  segments : List SealedSegment
  compacted : List SegmentId
  openReceipts : List EvidenceReceipt

namespace Archive

variable {receipt : EvidenceReceipt} (self : Archive)

def empty : Archive := ⟨[], [], []⟩

def append (receipt : EvidenceReceipt) : Archive :=
  { self with openReceipts := self.openReceipts ++ [receipt] }

/-- The receipts of the open segment have gone into a sealed one. -/
def close (segment : SealedSegment) : Archive :=
  { self with segments := self.segments ++ [segment], openReceipts := [] }

def compact (segmentId : SegmentId) : Archive :=
  { self with compacted := segmentId :: self.compacted }

/-- Every receipt of the log. -/
def receipts : List EvidenceReceipt :=
  self.segments.flatMap SealedSegment.receipts ++ self.openReceipts

/-- The receipts that have been appended and not compacted. -/
def warm : List EvidenceReceipt :=
  (self.segments.filter fun segment => segment.segmentId ∉ self.compacted).flatMap
    SealedSegment.receiptsExcludingTerminal ++ self.openReceipts

theorem mem_receipts {self : Archive} :
    receipt ∈ self.receipts ↔ (∃ segment ∈ self.segments, receipt ∈ segment.receipts) ∨
      receipt ∈ self.openReceipts := by
  rw [receipts, List.mem_append, List.mem_flatMap]

theorem mem_warm {self : Archive} :
    receipt ∈ self.warm ↔
      (∃ segment ∈ self.segments, segment.segmentId ∉ self.compacted ∧ receipt ∈ segment.receiptsExcludingTerminal) ∨
        receipt ∈ self.openReceipts := by
  simp only [warm, List.mem_append, List.mem_flatMap, List.mem_filter, decide_eq_true_eq, and_assoc]

theorem receipts_append (receipt : EvidenceReceipt) : (self.append receipt).receipts = self.receipts ++ [receipt] := by
  simp [receipts, append]

theorem receipts_close {self : Archive} {segment : SealedSegment} {terminal : EvidenceReceipt}
    (listed : segment.receipts = self.openReceipts ++ [terminal]) :
    (self.close segment).receipts = self.receipts ++ [terminal] := by
  simp [receipts, close, listed]

theorem mem_warm_append {self : Archive} {other : EvidenceReceipt} :
    other ∈ (self.append receipt).warm ↔ other ∈ self.warm ∨ other = receipt := by
  simp only [mem_warm, append, List.mem_append, List.mem_singleton]
  exact or_assoc.symm

end Archive

section

variable {codec : Codec} {receipt : EvidenceReceipt} {ulids : List String} {times : List DateTime}

theorem SealedSegment.mem_receipts_of_excluding {self : SealedSegment}
    (member : receipt ∈ self.receiptsExcludingTerminal) : receipt ∈ self.receipts := by
  rw [receiptsExcludingTerminal] at member
  split at member
  · split_ifs at member
    · exact List.dropLast_subset _ member
    · exact member
  · exact member

theorem Archive.mem_receipts_of_warm {self : Archive} (member : receipt ∈ self.warm) : receipt ∈ self.receipts := by
  rw [mem_receipts]
  obtain ⟨segment, listed, -, inside⟩ | inside := mem_warm.mp member
  · exact .inl ⟨segment, listed, SealedSegment.mem_receipts_of_excluding inside⟩
  · exact .inr inside

/-! ## Sound archives -/

/-- The libraries tell apart what the segment ids are made of: a ULID has 26 characters, and the truncated BLAKE3 has
no collision on the seeds that the ids and the times give. -/
structure SeedsTold (codec : Codec) (ulids : List String) (times : List DateTime) : Prop where
  sized : ∀ ulid ∈ ulids, ulid.toList.length = 26
  told : ∀ ulid ∈ ulids, ∀ time ∈ times, ∀ ulid' ∈ ulids, ∀ time' ∈ times,
    blake3Truncated codec (.new ulid ++ codec.toRfc3339 time : EvidenceReceiptId) =
      blake3Truncated codec (.new ulid' ++ codec.toRfc3339 time' : EvidenceReceiptId) →
    (.new ulid ++ codec.toRfc3339 time : EvidenceReceiptId) = .new ulid' ++ codec.toRfc3339 time'

theorem EvidenceReceiptId.new_injective : Function.Injective EvidenceReceiptId.new := by
  intro first second same
  have chars := congrArg String.toList same
  rw [new, new, String.toList_append, String.toList_append] at chars
  exact String.ext (List.append_cancel_left chars)

theorem SeedsTold.mono {ulids' : List String} {times' : List DateTime} (told : SeedsTold codec ulids' times')
    (fewer : ulids ⊆ ulids') (earlier : times ⊆ times') : SeedsTold codec ulids times where
  sized ulid member := told.sized ulid (fewer member)
  told ulid member time member' ulid' other time' other' :=
    told.told ulid (fewer member) time (earlier member') ulid' (fewer other) time' (earlier other')

/-- The ULIDs of a run are drawn once, and the libraries tell apart what its segment ids are made of. -/
structure DrawnApart (codec : Codec) (ulids : List String) (times : List DateTime) : Prop where
  fresh : ulids.Nodup
  told : SeedsTold codec ulids times

/-- What a step of a run draws is apart from what the run has drawn before it. -/
theorem DrawnApart.step {ι : Type} {ulidsOf : ι → List String} {timesOf : ι → List DateTime}
    {inputs before rest : List ι} {input : ι}
    (drawn : DrawnApart codec (inputs.flatMap ulidsOf) (inputs.flatMap timesOf))
    (split : inputs = before ++ input :: rest) :
    (∀ ulid ∈ ulidsOf input, ulid ∉ before.flatMap ulidsOf) ∧ (ulidsOf input).Nodup ∧
      SeedsTold codec (before.flatMap ulidsOf ++ ulidsOf input) (before.flatMap timesOf ++ timesOf input) := by
  obtain ⟨fresh, told⟩ := drawn
  rw [split, List.flatMap_append, List.flatMap_cons, ← List.append_assoc] at fresh told
  rw [List.flatMap_append, List.flatMap_cons, ← List.append_assoc] at told
  obtain ⟨-, once, apart⟩ := List.nodup_append.mp (List.nodup_append.mp fresh).1
  refine ⟨fun ulid drawn earlier => apart ulid earlier ulid drawn rfl, once, ?_⟩
  exact told.mono (List.subset_append_left _ _) (List.subset_append_left _ _)

/-- Segments with the same id have the same first receipt. -/
theorem SeedsTold.eq_of_fromContent {codec : Codec} {ulids : List String} {times : List DateTime}
    (told : SeedsTold codec ulids times) {ulid ulid' : String} {time time' : DateTime} (member : ulid ∈ ulids)
    (earlier : time ∈ times) (member' : ulid' ∈ ulids) (earlier' : time' ∈ times)
    (same : SegmentId.fromContent codec (.new ulid ++ codec.toRfc3339 time : EvidenceReceiptId) =
      SegmentId.fromContent codec (.new ulid' ++ codec.toRfc3339 time' : EvidenceReceiptId)) : ulid = ulid' := by
  have digests := congrArg String.toList same
  rw [SegmentId.fromContent, SegmentId.fromContent, String.toList_append, String.toList_append] at digests
  have seeds := told.told ulid member time earlier ulid' member' time' earlier'
    (String.ext (List.append_cancel_left digests))
  have chars := congrArg String.toList seeds
  rw [String.toList_append, String.toList_append] at chars
  have sized : (EvidenceReceiptId.new ulid).toList.length = (EvidenceReceiptId.new ulid').toList.length := by
    simp [EvidenceReceiptId.new, String.toList_append, told.sized ulid member, told.sized ulid' member']
  exact EvidenceReceiptId.new_injective (String.ext (List.append_inj_left chars sized))

end

namespace Archive

/-- What holds of the archive of a log whose operations have drawn the ULIDs and, to seal, read the times. -/
structure Sound (codec : Codec) (ed25519 : Ed25519) (verifyingKey : VerifyingKey) (ulids : List String)
    (times : List DateTime) (archive : Archive) : Prop where
  linked : Linked.Holds SegmentChain.Opens SealedSegment.LinksTo archive.segments
  restorable : ∀ segment ∈ archive.segments, segment.Restorable codec ed25519 verifyingKey
  closed : ∀ segment ∈ archive.segments, ∃ terminal,
    segment.receipts = segment.receiptsExcludingTerminal ++ [terminal] ∧ terminal.recordType = .segmentSealed
  minted : ∀ segment ∈ archive.segments, ∃ first ∈ segment.receipts, ∃ time ∈ times,
    segment.segmentId = .fromContent codec (first.receiptId ++ codec.toRfc3339 time)
  known : ∀ segmentId ∈ archive.compacted, ∃ segment ∈ archive.segments, segment.segmentId = segmentId
  chained : EvidenceReceipt.Chained codec archive.openReceipts
  signed : ∀ receipt ∈ archive.openReceipts, receipt.verifySignature codec ed25519 verifyingKey = .ok ()
  distinct : (archive.receipts.map EvidenceReceipt.receiptId).Nodup
  drawn : ∀ receipt ∈ archive.receipts, ∃ ulid ∈ ulids, receipt.receiptId = .new ulid

variable {codec : Codec} {ed25519 : Ed25519} {signingKey : SigningKey} {verifyingKey : VerifyingKey}
  {ulids : List String} {times : List DateTime} {archive : Archive}

variable {times' : List DateTime} {ulid : String} {stamp : Stamp} {other segment : SealedSegment} {time : DateTime}
  {receipt first : EvidenceReceipt}

theorem sound_empty : Sound codec ed25519 verifyingKey [] [] empty where
  linked := Linked.holds_nil
  restorable := List.forall_mem_nil _
  closed := List.forall_mem_nil _
  minted := List.forall_mem_nil _
  known := List.forall_mem_nil _
  chained := Linked.holds_nil
  signed := List.forall_mem_nil _
  distinct := List.nodup_nil
  drawn := List.forall_mem_nil _

theorem Sound.mono {ulids' : List String} (sound : archive.Sound codec ed25519 verifyingKey ulids times)
    (more : ulids ⊆ ulids') (later : times ⊆ times') : archive.Sound codec ed25519 verifyingKey ulids' times' where
  linked := sound.linked
  restorable := sound.restorable
  closed := sound.closed
  minted segment member := by
    obtain ⟨first, inside, time, read, same⟩ := sound.minted segment member
    exact ⟨first, inside, time, later read, same⟩
  known := sound.known
  chained := sound.chained
  signed := sound.signed
  distinct := sound.distinct
  drawn receipt member := by
    obtain ⟨ulid, drawn, same⟩ := sound.drawn receipt member
    exact ⟨ulid, more drawn, same⟩

/-- A receipt with a fresh ULID has an id of its own. -/
theorem Sound.receiptId_ne (sound : archive.Sound codec ed25519 verifyingKey ulids times) (fresh : ulid ∉ ulids)
    (member : receipt ∈ archive.receipts) : receipt.receiptId ≠ .new ulid := by
  intro same
  obtain ⟨drawn, earlier, minted⟩ := sound.drawn receipt member
  obtain rfl := EvidenceReceiptId.new_injective (minted.symm.trans same)
  exact fresh earlier

/-- The id of a receipt tells it among all receipts of the log. -/
theorem Sound.eq_of_receiptId (sound : archive.Sound codec ed25519 verifyingKey ulids times) {other : EvidenceReceipt}
    (member : receipt ∈ archive.receipts) (member' : other ∈ archive.receipts)
    (same : receipt.receiptId = other.receiptId) : receipt = other :=
  List.inj_on_of_nodup_map sound.distinct member member' same

/-- A receipt is in one segment only. -/
theorem Sound.eq_of_mem (sound : archive.Sound codec ed25519 verifyingKey ulids times)
    (listed : segment ∈ archive.segments) (listed' : other ∈ archive.segments) (member : receipt ∈ segment.receipts)
    (member' : receipt ∈ other.receipts) : segment = other := by
  have distinct := sound.distinct.of_map
  rw [receipts, List.nodup_append, List.nodup_flatMap] at distinct
  by_contra different
  have : Std.Symm (Function.onFun List.Disjoint SealedSegment.receipts) := 
    ⟨fun _ _ apart _ first second => apart second first⟩
  exact distinct.1.2.forall listed listed' different member member'

theorem Sound.not_mem_open (sound : archive.Sound codec ed25519 verifyingKey ulids times)
    (listed : segment ∈ archive.segments) (member : receipt ∈ segment.receipts) : receipt ∉ archive.openReceipts := by
  have distinct := sound.distinct.of_map
  rw [receipts, List.nodup_append] at distinct
  exact fun inside => distinct.2.2 receipt (List.mem_flatMap.mpr ⟨segment, listed, member⟩) receipt inside rfl

/-- A receipt that fits the open segment is appended. -/
theorem Sound.append (sound : archive.Sound codec ed25519 verifyingKey ulids times) (fresh : ulid ∉ ulids)
    (minted : receipt.receiptId = .new ulid) (fits : EvidenceReceipt.FitsChain codec archive.openReceipts receipt)
    (signed : receipt.verifySignature codec ed25519 verifyingKey = .ok ()) :
    (archive.append receipt).Sound codec ed25519 verifyingKey (ulids ++ [ulid]) times where
  linked := sound.linked
  restorable := sound.restorable
  closed := sound.closed
  minted := sound.minted
  known := sound.known
  chained := Linked.holds_append_singleton.mpr ⟨sound.chained, fits⟩
  signed := by
    simp only [Archive.append, List.mem_append, List.mem_singleton]
    rintro other (member | rfl)
    · exact sound.signed other member
    · exact signed
  distinct := by
    rw [receipts_append, List.map_append, List.nodup_append]
    refine ⟨sound.distinct, List.nodup_singleton _, ?_⟩
    intro id member other single
    obtain ⟨earlier, inside, rfl⟩ := List.mem_map.mp member
    rw [List.map_singleton, List.mem_singleton] at single
    rw [single, minted]
    exact sound.receiptId_ne fresh inside
  drawn := by
    rw [receipts_append]
    intro other member
    obtain member | member := List.mem_append.mp member
    · obtain ⟨drawn, earlier, same⟩ := sound.drawn other member
      exact ⟨drawn, List.mem_append_left _ earlier, same⟩
    · rw [List.mem_singleton.mp member]
      exact ⟨ulid, List.mem_append_right _ (List.mem_singleton_self _), minted⟩

/-- The open segment is sealed behind the last segment. -/
theorem Sound.close (sound : archive.Sound codec ed25519 verifyingKey ulids times) (fresh : ulid ∉ ulids)
    (fits : Linked.Fits SegmentChain.Opens SealedSegment.LinksTo archive.segments segment)
    (restorable : segment.Restorable codec ed25519 verifyingKey) {terminal : EvidenceReceipt}
    (listed : segment.receipts = archive.openReceipts ++ [terminal]) (marked : terminal.recordType = .segmentSealed)
    (drawn : terminal.receiptId = .new ulid) (opens : first ∈ archive.openReceipts)
    (minted : segment.segmentId = .fromContent codec (first.receiptId ++ codec.toRfc3339 time)) :
    (archive.close segment).Sound codec ed25519 verifyingKey (ulids ++ [ulid]) (times ++ [time]) where
  linked := Linked.holds_append_singleton.mpr ⟨sound.linked, fits⟩
  restorable := by
    simp only [Archive.close, List.mem_append, List.mem_singleton]
    rintro other (member | rfl)
    · exact sound.restorable other member
    · exact restorable
  closed := by
    simp only [Archive.close, List.mem_append, List.mem_singleton]
    rintro other (member | rfl)
    · exact sound.closed other member
    · refine ⟨terminal, ?_, marked⟩
      rw [SealedSegment.receiptsExcludingTerminal_of_terminal listed marked]
      exact listed
  minted := by
    simp only [Archive.close, List.mem_append, List.mem_singleton]
    rintro other (member | rfl)
    · obtain ⟨opening, inside, read, earlier, same⟩ := sound.minted other member
      exact ⟨opening, inside, read, .inl earlier, same⟩
    · exact ⟨first, listed ▸ List.mem_append_left _ opens, time, .inr rfl, minted⟩
  known segmentId member := by
    obtain ⟨other, inside, same⟩ := sound.known segmentId member
    exact ⟨other, List.mem_append_left _ inside, same⟩
  chained := Linked.holds_nil
  signed := List.forall_mem_nil _
  distinct := by
    rw [receipts_close listed, List.map_append, List.nodup_append]
    refine ⟨sound.distinct, List.nodup_singleton _, ?_⟩
    intro id member other single
    obtain ⟨earlier, inside, rfl⟩ := List.mem_map.mp member
    rw [List.map_singleton, List.mem_singleton] at single
    rw [single, drawn]
    exact sound.receiptId_ne fresh inside
  drawn := by
    rw [receipts_close listed]
    intro other member
    obtain member | member := List.mem_append.mp member
    · obtain ⟨earlier, before, same⟩ := sound.drawn other member
      exact ⟨earlier, List.mem_append_left _ before, same⟩
    · rw [List.mem_singleton.mp member]
      exact ⟨ulid, List.mem_append_right _ (List.mem_singleton_self _), drawn⟩

theorem Sound.compact (sound : archive.Sound codec ed25519 verifyingKey ulids times)
    (listed : segment ∈ archive.segments) :
    (archive.compact segment.segmentId).Sound codec ed25519 verifyingKey ulids times where
  linked := sound.linked
  restorable := sound.restorable
  closed := sound.closed
  minted := sound.minted
  known segmentId member := by
    obtain rfl | member := List.mem_cons.mp member
    · exact ⟨segment, listed, rfl⟩
    · exact sound.known segmentId member
  chained := sound.chained
  signed := sound.signed
  distinct := sound.distinct
  drawn := sound.drawn

/-- The segment that is sealed next has an id of its own. -/
theorem Sound.segmentId_ne (sound : archive.Sound codec ed25519 verifyingKey ulids times)
    (told : SeedsTold codec ulids times') (earlier : times ⊆ times') (read : time ∈ times')
    (opens : first ∈ archive.openReceipts) (listed : segment ∈ archive.segments) :
    segment.segmentId ≠ .fromContent codec (first.receiptId ++ codec.toRfc3339 time) := by
  intro same
  obtain ⟨opening, inside, sealedAt, before, minted⟩ := sound.minted segment listed
  have member : opening ∈ archive.receipts := mem_receipts.mpr (.inl ⟨segment, listed, inside⟩)
  obtain ⟨ulid, drawn, id⟩ := sound.drawn opening member
  obtain ⟨ulid', drawn', id'⟩ := sound.drawn first (mem_receipts.mpr (.inr opens))
  rw [minted, id, id'] at same
  obtain rfl := told.eq_of_fromContent drawn (earlier before) drawn' read same
  obtain rfl := sound.eq_of_receiptId member (mem_receipts.mpr (.inr opens)) (id.trans id'.symm)
  exact sound.not_mem_open listed inside opens

/-- The id of a segment tells it among the segments of the log. -/
theorem Sound.eq_of_segmentId (sound : archive.Sound codec ed25519 verifyingKey ulids times)
    (told : SeedsTold codec ulids times) (listed : segment ∈ archive.segments) (listed' : other ∈ archive.segments)
    (same : segment.segmentId = other.segmentId) : segment = other := by
  obtain ⟨first, inside, time, read, minted⟩ := sound.minted segment listed
  obtain ⟨first', inside', time', read', minted'⟩ := sound.minted other listed'
  have member := mem_receipts.mpr (.inl ⟨segment, listed, inside⟩)
  have member' := mem_receipts.mpr (.inl ⟨other, listed', inside'⟩)
  obtain ⟨ulid, drawn, id⟩ := sound.drawn first member
  obtain ⟨ulid', drawn', id'⟩ := sound.drawn first' member'
  rw [minted, minted', id, id'] at same
  obtain rfl := told.eq_of_fromContent drawn read drawn' read' same
  obtain rfl := sound.eq_of_receiptId member member' (id.trans id'.symm)
  exact sound.eq_of_mem listed listed' inside inside'

/-- The terminal receipt of a segment is not in its body. -/
theorem Sound.terminal_not_warm (sound : archive.Sound codec ed25519 verifyingKey ulids times)
    (listed : segment ∈ archive.segments) (last : segment.receipts.getLast? = some receipt) :
    receipt ∉ archive.warm := by
  have inside : receipt ∈ segment.receipts := List.mem_of_getLast? last
  have distinct := sound.distinct.of_map
  rw [receipts, List.nodup_append, List.nodup_flatMap] at distinct
  obtain ⟨terminal, split, -⟩ := sound.closed segment listed
  have once := distinct.1.1 segment listed
  rw [split, List.nodup_append] at once
  rw [split, List.getLast?_concat, Option.some.injEq] at last
  intro warm
  obtain ⟨other, listed', -, body⟩ | opened := mem_warm.mp warm
  · obtain rfl := sound.eq_of_mem listed listed' inside (SealedSegment.mem_receipts_of_excluding body)
    exact once.2.2 receipt body terminal (List.mem_singleton_self _) last.symm
  · exact sound.not_mem_open listed inside opened

/-- No segment is listed twice. -/
theorem Sound.segments_nodup (sound : archive.Sound codec ed25519 verifyingKey ulids times) :
    archive.segments.Nodup := by
  have distinct := sound.distinct.of_map
  rw [receipts, List.nodup_append, List.nodup_flatMap] at distinct
  refine List.Pairwise.imp_of_mem (fun {segment other} listed _ apart same => ?_) distinct.1.2
  obtain ⟨terminal, split, -⟩ := sound.closed segment listed
  have inside : terminal ∈ segment.receipts := by
    rw [split]
    exact List.mem_append_right _ (List.mem_singleton_self _)
  exact apart inside (same ▸ inside)

/-! ## What a log adds -/

/-- A receipt that the builder seals behind the open receipts is appended. -/
theorem Sound.appendSealed (sound : archive.Sound codec ed25519 (ed25519.verifyingKey signingKey) ulids times)
    {builder : ReceiptBuilder} (fresh : stamp.ulid ∉ ulids)
    (made : builder.sealSigned codec ed25519 archive.openReceipts.getLast? signingKey stamp = .ok receipt) :
    (∀ other ∈ archive.receipts, other.receiptId ≠ receipt.receiptId) ∧
      EvidenceReceipt.FitsChain codec archive.openReceipts receipt ∧
      (archive.append receipt).Sound codec ed25519 (ed25519.verifyingKey signingKey) (ulids ++ [stamp.ulid]) times := by
  obtain ⟨sealed, signed⟩ := ReceiptBuilder.sealSigned_eq_ok made
  have fits := EvidenceReceipt.fitsChain_of_sealed sealed
  refine ⟨fun other member => ?_, fits, sound.append fresh sealed.receiptId fits signed⟩
  rw [sealed.receiptId]
  exact sound.receiptId_ne fresh member

/-- The open receipts are sealed behind the last segment. -/
theorem Sound.seal (sound : archive.Sound codec ed25519 (ed25519.verifyingKey signingKey) ulids times)
    {sealedAt : DateTime} {stamp : Stamp} (fresh : stamp.ulid ∉ ulids)
    (told : SeedsTold codec (ulids ++ [stamp.ulid]) (times ++ [sealedAt])) {opened : Segment}
    (holds : opened.receipts = archive.openReceipts) {segment : SealedSegment}
    (made : Segment.seal codec ed25519 opened (archive.segments.getLast?.map SealedSegment.segmentId)
      (archive.segments.getLast?.map SealedSegment.segmentSealHash) signingKey sealedAt stamp = .ok segment) :
    (∀ other ∈ archive.segments, other.segmentId ≠ segment.segmentId) ∧
      segment.receiptsExcludingTerminal = archive.openReceipts ∧ segment.segmentId ∉ archive.compacted ∧
      (archive.close segment).Sound codec ed25519 (ed25519.verifyingKey signingKey) (ulids ++ [stamp.ulid])
        (times ++ [sealedAt]) := by
  have seals := Segment.seal_eq_ok made
  obtain ⟨first, rest, opening, minted⟩ := seals.segmentId
  obtain ⟨terminal, listed, ends⟩ := seals.receipts
  rw [holds] at opening listed
  have body := SealedSegment.receiptsExcludingTerminal_of_terminal listed ends.recordType
  have opens : first ∈ archive.openReceipts := by
    rw [opening]
    exact List.mem_cons_self
  have fits : Linked.Fits SegmentChain.Opens SealedSegment.LinksTo archive.segments segment :=
    SegmentChain.fits_iff.mpr ⟨seals.previousSegmentId, seals.previousSegmentSealHash⟩
  have restorable : segment.Restorable codec ed25519 (ed25519.verifyingKey signingKey) := by
    refine ⟨?_, ?_⟩
    · rw [minted]
      exact SegmentId.parse_fromContent _ _
    · rw [SealedSegment.verifyFull, Fallible.then_eq_ok_iff, Fallible.forM_eq_ok_iff, listed]
      refine ⟨?_, seals.verifies⟩
      intro receipt member
      obtain member | member := List.mem_append.mp member
      · exact sound.signed receipt member
      · rw [List.mem_singleton.mp member]
        exact ends.signed
  have read : sealedAt ∈ times ++ [sealedAt] := List.mem_append_right _ (List.mem_singleton_self _)
  have sound' := sound.mono (List.subset_append_left ulids [stamp.ulid]) (List.Subset.refl times)
  have named : ∀ other ∈ archive.segments, other.segmentId ≠ segment.segmentId := fun other listed =>
    minted ▸ sound'.segmentId_ne told (List.subset_append_left _ _) read opens listed
  have warm : segment.segmentId ∉ archive.compacted := by
    intro compacted
    obtain ⟨other, listed, same⟩ := sound.known _ compacted
    exact named other listed same
  exact ⟨named, body, warm, sound.close fresh fits restorable listed ends.recordType ends.receiptId opens minted⟩

end Archive

end Aios.Evidence
