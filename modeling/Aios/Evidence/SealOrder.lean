import Aios.Evidence.InMemory

/-! # The order of sealed segments

A seal of the in-memory backend makes its segment under one lock and records it under another, and between the two
another seal may do both. The sealed segments are a chain at every moment exactly if each seal that records is the
oldest of those under way.
-/

namespace Aios.Evidence

open Aios.Rust

namespace InMemoryEvidenceLog

/-- A section of a call that runs under one lock. The seals under way are counted from the oldest. -/
inductive Section where
  | append (request : AppendRequest) (stamp : Stamp)
  | sealState (retentionClass : RetentionClass) (sealedAt : DateTime) (stamp : Stamp)
  | record (sealer : ℕ)

namespace Section

def ulids : Section → List String
  | .append _ stamp | .sealState _ _ stamp => [stamp.ulid]
  | .record _ => []

def times : Section → List DateTime
  | .sealState _ sealedAt _ => [sealedAt]
  | .append .. | .record _ => []

end Section

/-- A log, and the segments that have been sealed under the lock of the state and are not yet recorded. -/
structure Sealing where
  log : InMemoryEvidenceLog
  underWay : List SealedSegment

namespace Sealing

variable (codec : Codec) (ed25519 : Ed25519) (signingKey : SigningKey)

section

variable (self : Sealing)

def new : Sealing := ⟨.new, []⟩

def setState (state : State) : Sealing := { self with log := { self.log with state } }

def step : Section → Sealing
  | .append request stamp =>
    self.setState (Stateful.finalState (InMemoryEvidenceLog.append codec ed25519 signingKey request stamp
      self.log.state))
  | .sealState retentionClass sealedAt stamp =>
    match InMemoryEvidenceLog.sealState codec ed25519 signingKey retentionClass sealedAt stamp self.log.state with
    | .ok segment state => { self.setState state with underWay := self.underWay ++ [segment] }
    | .error _ state => self.setState state
  | .record sealer =>
    match self.underWay[sealer]? with
    | none => self
    | some segment =>
      ⟨{ self.log with sealedSegments := self.log.sealedSegments.record segment }, self.underWay.eraseIdx sealer⟩

def run (sections : List Section) : Sealing := StepRun.run (step codec ed25519 signingKey) new sections

/-- The sealed segments are a chain in their order. -/
def InOrder : Prop := ∃ chain, SegmentChain.fold self.log.sealedSegments.sealed = .ok chain

/-- A seal that records is the oldest under way. -/
def InTurn : Section → Prop
  | .record sealer => self.underWay[sealer]? ≠ none → sealer = 0
  | _ => True

/-- The two sections one after the other are the whole call. -/
theorem sections_eq_sealCurrentSegment (log : InMemoryEvidenceLog) (retentionClass : RetentionClass)
    (sealedAt : DateTime) (stamp : Stamp) :
    ((step codec ed25519 signingKey ⟨log, []⟩ (.sealState retentionClass sealedAt stamp)).step codec ed25519 signingKey
      (.record 0)).log =
      Stateful.finalState (sealCurrentSegment codec ed25519 signingKey retentionClass sealedAt stamp log) := by
  rw [sealCurrentSegment, Stateful.bind_apply, onState, Stateful.zoom, step]
  cases InMemoryEvidenceLog.sealState codec ed25519 signingKey retentionClass sealedAt stamp log.state with
  | ok segment state => rfl
  | error failure state => rfl

end

variable {codec ed25519 signingKey} {ulids : List String} {times : List DateTime} {archive : Archive} {self : Sealing}

/-- The segments recorded and those under way are the segments of a sound archive. -/
structure Shows (codec : Codec) (ed25519 : Ed25519) (signingKey : SigningKey) (ulids : List String)
    (times : List DateTime) (sealing : Sealing) (archive : Archive) : Prop where
  state : sealing.log.state.Shows archive
  sound : archive.Sound codec ed25519 (ed25519.verifyingKey signingKey) ulids times
  segments : archive.segments = sealing.log.sealedSegments.sealed ++ sealing.underWay

theorem shows_new : new.Shows codec ed25519 signingKey [] [] .empty :=
  ⟨InMemoryEvidenceLog.shows_new, Archive.sound_empty, rfl⟩

theorem Shows.inOrder (shown : self.Shows codec ed25519 signingKey ulids times archive) : self.InOrder := by
  rw [InOrder, SegmentChain.fold_accepts_iff]
  apply shown.sound.linked.prefix
  rw [shown.segments]
  exact List.prefix_append _ _

theorem Shows.append (shown : self.Shows codec ed25519 signingKey ulids times archive) (request : AppendRequest)
    {stamp : Stamp} (fresh : stamp.ulid ∉ ulids) :
    ∃ archive', (self.step codec ed25519 signingKey (.append request stamp)).Shows codec ed25519 signingKey
      (ulids ++ [stamp.ulid]) times archive' := by
  have unchanged : (self.setState self.log.state).Shows codec ed25519 signingKey
    (ulids ++ [stamp.ulid]) times archive :=
    ⟨shown.state, shown.sound.mono (List.subset_append_left _ _) (List.Subset.refl _), shown.segments⟩
  rw [step, append_apply shown.state shown.sound request fresh]
  cases request.builder codec with
  | error status => exact ⟨archive, unchanged⟩
  | ok builder =>
    cases made : builder.sealSigned codec ed25519 archive.openReceipts.getLast? signingKey stamp with
    | error failure =>
      dsimp only
      rw [made]
      exact ⟨archive, unchanged⟩
    | ok receipt =>
      dsimp only
      rw [made]
      obtain ⟨-, -, sound'⟩ := shown.sound.appendSealed fresh made
      exact ⟨archive.append receipt, shown.state.append receipt, sound', shown.segments⟩

theorem Shows.sealState (shown : self.Shows codec ed25519 signingKey ulids times archive)
    (retentionClass : RetentionClass) {sealedAt : DateTime} {stamp : Stamp} (fresh : stamp.ulid ∉ ulids)
    (told : SeedsTold codec (ulids ++ [stamp.ulid]) (times ++ [sealedAt])) :
    ∃ archive', (self.step codec ed25519 signingKey (.sealState retentionClass sealedAt stamp)).Shows codec ed25519
      signingKey (ulids ++ [stamp.ulid]) (times ++ [sealedAt]) archive' := by
  have unchanged : (self.setState self.log.state).Shows codec ed25519 signingKey (ulids ++ [stamp.ulid])
      (times ++ [sealedAt]) archive :=
    ⟨shown.state, shown.sound.mono (List.subset_append_left _ _) (List.subset_append_left _ _), shown.segments⟩
  rw [step, sealState_apply shown.state]
  cases archive.openReceipts.isEmpty with
  | true => exact ⟨archive, unchanged⟩
  | false =>
    cases made : Segment.seal codec ed25519 ⟨retentionClass, archive.openReceipts, false⟩
        (archive.segments.getLast?.map SealedSegment.segmentId)
        (archive.segments.getLast?.map SealedSegment.segmentSealHash) signingKey sealedAt stamp with
    | error failure => exact ⟨archive, unchanged⟩
    | ok segment =>
      obtain ⟨-, -, -, sound'⟩ := shown.sound.seal fresh told rfl made
      refine ⟨archive.close segment, State.shows_close archive segment, sound', ?_⟩
      change archive.segments ++ [segment] = self.log.sealedSegments.sealed ++ (self.underWay ++ [segment])
      rw [shown.segments, List.append_assoc]

/-- The oldest seal under way records. -/
theorem Shows.record (shown : self.Shows codec ed25519 signingKey ulids times archive) {sealer : ℕ}
    (inTurn : self.InTurn (.record sealer)) :
    (self.step codec ed25519 signingKey (.record sealer)).Shows codec ed25519 signingKey ulids times archive := by
  rw [step]
  cases taken : self.underWay[sealer]? with
  | none => exact shown
  | some segment =>
    obtain rfl : sealer = 0 := inTurn (by rw [taken]; exact Option.some_ne_none _)
    have segments := shown.segments
    cases pending : self.underWay with
    | nil =>
      rw [pending] at taken
      cases taken
    | cons oldest rest =>
      rw [pending] at taken segments
      obtain rfl := Option.some.inj taken
      refine ⟨shown.state, shown.sound, ?_⟩
      change archive.segments = (self.log.sealedSegments.sealed ++ [oldest]) ++ rest
      rw [segments, List.append_assoc]
      rfl

/-- A step in turn goes from one sound archive to the next. -/
theorem Shows.step (shown : self.Shows codec ed25519 signingKey ulids times archive) {section' : Section}
    (fresh : ∀ ulid ∈ section'.ulids, ulid ∉ ulids)
    (told : SeedsTold codec (ulids ++ section'.ulids) (times ++ section'.times)) (inTurn : self.InTurn section') :
    ∃ archive', (self.step codec ed25519 signingKey section').Shows codec ed25519 signingKey (ulids ++ section'.ulids)
      (times ++ section'.times) archive' := by
  cases section' with
  | append request stamp =>
    rw [Section.times, List.append_nil]
    exact shown.append request (fresh _ (List.mem_singleton_self _))
  | sealState retentionClass sealedAt stamp =>
    exact shown.sealState retentionClass (fresh _ (List.mem_singleton_self _)) told
  | record sealer =>
    rw [Section.ulids, Section.times, List.append_nil, List.append_nil]
    exact ⟨archive, shown.record inTurn⟩

/-- A seal that records out of turn names a segment that is not the last. -/
theorem Shows.inTurn (shown : self.Shows codec ed25519 signingKey ulids times archive)
    (told : SeedsTold codec ulids times) {section' : Section}
    (inOrder : (self.step codec ed25519 signingKey section').InOrder) : self.InTurn section' := by
  cases section' with
  | append request stamp => trivial
  | sealState retentionClass sealedAt stamp => trivial
  | record sealer =>
    intro present
    obtain ⟨segment, taken⟩ := Option.ne_none_iff_exists'.mp present
    obtain _ | sealer := sealer
    · rfl
    exfalso
    rw [Sealing.step, taken, InOrder, SegmentChain.fold_accepts_iff] at inOrder
    obtain ⟨-, fits⟩ := Linked.holds_append_singleton.mp inOrder
    -- among the sealed and the pending segments it comes right behind `prior`, which is pending too
    obtain ⟨bound, rfl⟩ := List.getElem?_eq_some_iff.mp taken
    have prior : (self.underWay.take (sealer + 1)).getLast? = some self.underWay[sealer] := by
      rw [List.take_add_one, List.getElem?_eq_getElem (by omega)]
      exact List.getLast?_concat
    have split : archive.segments = (self.log.sealedSegments.sealed ++ self.underWay.take (sealer + 1)) ++
        self.underWay[sealer + 1] :: self.underWay.drop (sealer + 2) := by
      rw [shown.segments, List.append_assoc, List.getElem_cons_drop, List.take_append_drop]
    have linked := shown.sound.linked
    rw [split] at linked
    obtain ⟨-, links, -⟩ := Linked.holds_append_cons.mp linked
    have named := (SegmentChain.fits_iff.mp fits).1.symm.trans (SegmentChain.fits_iff.mp links).1
    rw [List.getLast?_append, prior] at named
    obtain ⟨last, ends, same⟩ := Option.map_eq_some_iff.mp named
    have inside : last ∈ self.log.sealedSegments.sealed := List.mem_of_getLast? ends
    have pending : self.underWay[sealer] ∈ self.underWay := List.getElem_mem _
    have distinct := shown.sound.segments_nodup
    rw [shown.segments, List.nodup_append] at distinct
    refine distinct.2.2 last inside _ pending (shown.sound.eq_of_segmentId told ?_ ?_ same)
    · exact shown.segments ▸ List.mem_append_left _ inside
    · exact shown.segments ▸ List.mem_append_right _ pending

variable {sections : List Section}

/-- While no seal is known to be out of turn, every state of a run shows a sound archive. -/
theorem shows_run (drawn : DrawnApart codec (sections.flatMap Section.ulids) (sections.flatMap Section.times))
    (turns : ∀ before section' rest, sections = before ++ section' :: rest → ∀ archive,
      (run codec ed25519 signingKey before).Shows codec ed25519 signingKey (before.flatMap Section.ulids)
        (before.flatMap Section.times) archive → (run codec ed25519 signingKey before).InTurn section') :
    ∀ before, before <+: sections → ∃ archive, (run codec ed25519 signingKey before).Shows codec ed25519 signingKey
      (before.flatMap Section.ulids) (before.flatMap Section.times) archive := by
  have initial : ∃ archive, new.Shows codec ed25519 signingKey [] [] archive := ⟨.empty, shows_new⟩
  refine StepRun.run_invariant_along (fun before (self : Sealing) => ∃ archive, self.Shows codec ed25519 signingKey
    (before.flatMap Section.ulids) (before.flatMap Section.times) archive) initial ?_
  rintro before section' rest split ⟨archive, shown⟩
  obtain ⟨fresh, -, told⟩ := drawn.step split
  obtain ⟨archive', shown'⟩ := shown.step fresh told (turns before section' rest split archive shown)
  rw [List.flatMap_append, List.flatMap_append, List.flatMap_singleton, List.flatMap_singleton]
  exact ⟨archive', shown'⟩

/-- The sealed segments are a chain at every moment exactly if each seal that records is the oldest under way. -/
theorem sealed_in_order_iff (codec : Codec) (ed25519 : Ed25519) (signingKey : SigningKey) (sections : List Section)
    (drawn : DrawnApart codec (sections.flatMap Section.ulids) (sections.flatMap Section.times)) :
    (∀ before, before <+: sections → (run codec ed25519 signingKey before).InOrder) ↔
      ∀ before section' rest, sections = before ++ section' :: rest →
        (run codec ed25519 signingKey before).InTurn section' := by
  constructor
  · intro ordered
    have turns : ∀ before section' rest, sections = before ++ section' :: rest → ∀ archive,
        (run codec ed25519 signingKey before).Shows codec ed25519 signingKey (before.flatMap Section.ulids)
          (before.flatMap Section.times) archive → (run codec ed25519 signingKey before).InTurn section' := by
      intro before section' rest split archive shown
      obtain ⟨-, -, told⟩ := drawn.step split
      have next := ordered (before ++ [section']) (StepRun.upTo_of_cut split)
      rw [run, StepRun.run_append] at next
      exact shown.inTurn (told.mono (List.subset_append_left _ _) (List.subset_append_left _ _)) next
    intro before section' rest split
    obtain ⟨archive, shown⟩ := shows_run drawn turns before ⟨section' :: rest, split.symm⟩
    exact turns before section' rest split archive shown
  · intro turns before cut
    obtain ⟨archive, shown⟩ := shows_run drawn (fun before section' rest split _ _ => turns before section' rest split)
      before cut
    exact shown.inOrder

end Sealing

/-! ## Two seals -/

def actionRequest : AppendRequest := ⟨RecordType.actionReceived.wireId, "human:operator-1", ""⟩

/-- Two seals, each of one receipt, that record in the order given by their turns. -/
def twoSeals (turn turn' : ℕ) : List Section :=
  [.append actionRequest ⟨"01ARZ3NDEKTSV4RRFFQ69G5FAV", 0⟩, .sealState .standard24M 0 ⟨"01ARZ3NDEKTSV4RRFFQ69G5FAW", 0⟩,
   .append actionRequest ⟨"01ARZ3NDEKTSV4RRFFQ69G5FAX", 0⟩, .sealState .standard24M 0 ⟨"01ARZ3NDEKTSV4RRFFQ69G5FAY", 0⟩,
   .record turn, .record turn']

theorem sealCodec_told :
    SeedsTold sealCodec ["01ARZ3NDEKTSV4RRFFQ69G5FAV", "01ARZ3NDEKTSV4RRFFQ69G5FAW", "01ARZ3NDEKTSV4RRFFQ69G5FAX",
      "01ARZ3NDEKTSV4RRFFQ69G5FAY"] [0] where
  sized := by decide +kernel
  told := by decide +kernel

namespace Sealing

theorem twoSeals_drawnApart (turn turn' : ℕ) :
    DrawnApart sealCodec ((twoSeals turn turn').flatMap Section.ulids)
      ((twoSeals turn turn').flatMap Section.times) := by
  change DrawnApart sealCodec ((twoSeals 0 0).flatMap Section.ulids) ((twoSeals 0 0).flatMap Section.times)
  exact ⟨by decide +kernel, sealCodec_told.mono (List.Subset.refl _) (by decide +kernel)⟩

theorem twoSeals_in_order_iff :
    (∀ before, before <+: twoSeals 0 0 → (run sealCodec sealEd25519 logKey before).InOrder) ↔
      ∀ before section' rest, twoSeals 0 0 = before ++ section' :: rest →
        (run sealCodec sealEd25519 logKey before).InTurn section' :=
  sealed_in_order_iff sealCodec sealEd25519 logKey (twoSeals 0 0) (twoSeals_drawnApart 0 0)

/-- The second seal records before the first. -/
theorem sealed_out_of_order :
    ¬∀ (codec : Codec) (ed25519 : Ed25519) (signingKey : SigningKey) (sections : List Section),
      DrawnApart codec (sections.flatMap Section.ulids) (sections.flatMap Section.times) →
      ∀ before, before <+: sections → (run codec ed25519 signingKey before).InOrder := by
  intro ordered
  obtain ⟨chain, folded⟩ := ordered sealCodec sealEd25519 logKey (twoSeals 1 0) (twoSeals_drawnApart 1 0)
    (twoSeals 1 0) (List.prefix_refl _)
  have refused : (SegmentChain.fold
      (run sealCodec sealEd25519 logKey (twoSeals 1 0)).log.sealedSegments.sealed).toOption.isNone = true := by
    decide +kernel
  rw [folded] at refused
  cases refused

end Sealing

end InMemoryEvidenceLog

end Aios.Evidence
