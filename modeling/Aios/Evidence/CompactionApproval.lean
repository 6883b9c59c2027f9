import Aios.Evidence.Compaction
import Aios.Lib.Since

/-! # The approval discipline of compaction

The compaction worker over any backend, which may fail on every call and may have changed its state when it
does. A watch on the backend writes down what the worker has it do, between the approvals and the starts of
the ticks: what is compacted had been approved and is eligible, and no segment is asked for twice without an
approval in between. -/

namespace Aios.Evidence

open Aios.Rust Stateful
open StepRun (Since Historically since_append_singleton historically_append_singleton)

/-- `trait CompactionBackend`, over the state of the backend. -/
structure CompactionBackend (ε B : Type) where
  listSealedSegments : B → Except ε (List ListedSegment)
  compactSegment : SegmentId → EStateM ε B (ℕ × ℕ)
  emitApprovalRequired : SegmentId → EStateM ε B Unit

/-- The worker and the backend it is handed. -/
structure Tending (B : Type) where
  worker : CompactionWorker
  backend : B

namespace Tending

variable {ε B α : Type}

def onBackend (program : EStateM ε B α) : EStateM ε (Tending B) α :=
  zoom backend (fun self backend => { self with backend }) program

def onWorker (update : CompactionWorker → CompactionWorker) : EStateM ε (Tending B) Unit :=
  modify fun self => { self with worker := update self.worker }

end Tending

namespace CompactionBackend

open Tending

variable {ε B : Type} (self : CompactionBackend ε B)

def compactListed (segmentId : SegmentId) (report : CompactionReport) : EStateM ε (Tending B) CompactionReport := do
  let removed ← onBackend (self.compactSegment segmentId)
  onWorker (·.forget segmentId)
  pure { report with
    compactedSegments := report.compactedSegments + 1
    receiptsRemoved := report.receiptsRemoved + removed.1
    indexEntriesPruned := report.indexEntriesPruned + removed.2 }

def askForApproval (segmentId : SegmentId) (report : CompactionReport) : EStateM ε (Tending B) CompactionReport := do
  onBackend (self.emitApprovalRequired segmentId)
  onWorker (·.await segmentId)
  pure { report with awaitingApproval := report.awaitingApproval + 1 }

/-- The body of the loop of `tick`. -/
def visit (now : DateTime) (listed : ListedSegment) (report : CompactionReport) :
    EStateM ε (Tending B) CompactionReport :=
  let (segmentId, retentionClass, sealedAt) := listed
  if !isEligible retentionClass sealedAt now then pure report
  else do
    let report := { report with eligibleSegments := report.eligibleSegments + 1 }
    let tending ← get
    match tending.worker.policy with
    | .auto => self.compactListed segmentId report
    | .operatorApproval =>
      if segmentId ∈ tending.worker.approved then self.compactListed segmentId report
      else if segmentId ∈ tending.worker.awaitingApproval then
        pure { report with awaitingApproval := report.awaitingApproval + 1 }
      else self.askForApproval segmentId report
    | .disabled => pure report

def visitAll (now : DateTime) : List ListedSegment → CompactionReport → EStateM ε (Tending B) CompactionReport
  | [], report => pure report
  | listed :: rest, report => do
    let report ← self.visit now listed report
    visitAll now rest report

def tick (now : DateTime) : EStateM ε (Tending B) CompactionReport := do
  let tending ← get
  let segments ← MonadExcept.ofExcept (self.listSealedSegments tending.backend)
  self.visitAll now segments {}

end CompactionBackend

/-! ## The persistent backend -/

section RocksDb

variable (codec : Codec) (ed25519 : Ed25519) (signingKey : SigningKey)

variable (segmentId : SegmentId) (draw : Draw) (report : CompactionReport)

/-- The persistent log, with what a call of it reads and how its write ends. -/
def rocksDbBackend (draw : Draw) : CompactionBackend (Halt EvidenceError) RocksDbEvidenceLog where
  listSealedSegments log := (RocksDbEvidenceLog.listSealedSegments log.disk).mapError .failed
  compactSegment segmentId := RocksDbEvidenceLog.compactSegment codec segmentId draw.now draw.outcome
  emitApprovalRequired segmentId :=
    RocksDbEvidenceLog.emitApprovalRequired codec ed25519 signingKey segmentId draw.stamp draw.outcome

/-- The same worker and the same backend. -/
def SameTick (ticking : Ticking) (tending : Tending RocksDbEvidenceLog) : Prop :=
  ticking.worker = tending.worker ∧ ticking.backend = tending.backend

theorem onBackend_related {α : Type} (program : EStateM (Halt EvidenceError) RocksDbEvidenceLog α) :
    Related SameTick Eq (Ticking.onBackend program) (Tending.onBackend program) := by
  rintro ⟨worker, backend⟩ ⟨_, _⟩ ⟨rfl, rfl⟩
  simp only [Ticking.onBackend, Tending.onBackend, zoom]
  cases program backend with
  | ok value after => exact .ok rfl ⟨rfl, rfl⟩
  | error failure after => exact .error ⟨rfl, rfl⟩

theorem onWorker_related (update : CompactionWorker → CompactionWorker) :
    Related SameTick Eq (Ticking.onWorker update : EStateM (Halt EvidenceError) Ticking Unit)
      (Tending.onWorker update) :=
  Related.of_modify fun _ _ same => ⟨congrArg update same.1, same.2⟩

theorem compactListed_related :
    Related SameTick Eq (CompactionWorker.compactListed codec segmentId draw report)
      ((rocksDbBackend codec ed25519 signingKey draw).compactListed segmentId report) := by
  refine (onBackend_related _).bind ?_
  rintro removed _ rfl
  exact (onWorker_related _).bind fun _ _ _ => Related.of_pure rfl

theorem askForApproval_related :
    Related SameTick Eq (CompactionWorker.askForApproval codec ed25519 signingKey segmentId draw report)
      ((rocksDbBackend codec ed25519 signingKey draw).askForApproval segmentId report) :=
  (onBackend_related _).bind fun _ _ _ => (onWorker_related _).bind fun _ _ _ => Related.of_pure rfl

/-- The tick over the persistent log does with each segment what it does over a backend. -/
theorem visit_related (now : DateTime) (listed : ListedSegment) (draw : Draw) (report : CompactionReport) :
    Related SameTick Eq (CompactionWorker.visit codec ed25519 signingKey now listed draw report)
      ((rocksDbBackend codec ed25519 signingKey draw).visit now listed report) := by
  obtain ⟨segmentId, retentionClass, sealedAt⟩ := listed
  rw [CompactionWorker.visit, CompactionBackend.visit]
  by_cases eligible : isEligible retentionClass sealedAt now = true
  · simp only [eligible, Bool.not_true, Bool.false_eq_true, if_false]
    apply Related.of_get
    rintro ticking tending ⟨same, -⟩
    rw [same]
    cases tending.worker.policy with
    | auto => exact compactListed_related codec ed25519 signingKey segmentId draw _
    | operatorApproval =>
      by_cases approved : segmentId ∈ tending.worker.approved
      · simp only [approved, if_true]
        exact compactListed_related codec ed25519 signingKey segmentId draw _
      · by_cases awaiting : segmentId ∈ tending.worker.awaitingApproval
        · simp only [approved, awaiting, if_false, if_true]
          exact Related.of_pure rfl
        · simp only [approved, awaiting, if_false]
          exact askForApproval_related codec ed25519 signingKey segmentId draw _
    | disabled => exact Related.of_pure rfl
  · simp only [eligible, Bool.not_false, if_true]
    exact Related.of_pure rfl

end RocksDb

/-! ## What the worker has had done -/

/-- An approval, the start of a tick with what was listed to it, and the calls to the backend with whether
they succeeded. -/
inductive CompactionMark where
  | approved (segmentId : SegmentId)
  | ticked (now : DateTime) (listed : List ListedSegment)
  | compacted (segmentId : SegmentId) (succeeded : Bool)
  | asked (segmentId : SegmentId) (succeeded : Bool)
deriving DecidableEq

namespace CompactionMark

/-- It is not a call to the backend. -/
def endsTick : CompactionMark → Prop
  | approved _ | ticked .. => True
  | compacted .. | asked .. => False

/-- A tick to which the segment was listed and at which it is eligible. -/
def listsEligible (segmentId : SegmentId) : CompactionMark → Prop
  | ticked now listed => ∃ retentionClass sealedAt,
      (segmentId, retentionClass, sealedAt) ∈ listed ∧ isEligible retentionClass sealedAt now = true
  | _ => False

/-- An approval has been given that no compaction has used up. -/
def Approved (segmentId : SegmentId) : List CompactionMark → Prop :=
  Since (fun _ mark => mark = approved segmentId) fun _ mark => mark = compacted segmentId true

/-- A receipt has asked for an approval that has not been given since. -/
def Asked (segmentId : SegmentId) : List CompactionMark → Prop :=
  Since (fun _ mark => mark = asked segmentId true) fun _ mark => mark = approved segmentId

/-- The segment is eligible at the tick under way. -/
def EligibleNow (segmentId : SegmentId) : List CompactionMark → Prop :=
  Since (fun _ mark => mark.listsEligible segmentId) fun _ mark => mark.endsTick

/-- A segment is compacted only where it is eligible and approved, and an approval is asked for once. -/
def Admissible (before : List CompactionMark) : CompactionMark → Prop
  | compacted segmentId _ => EligibleNow segmentId before ∧ Approved segmentId before
  | asked segmentId true => ¬Asked segmentId before
  | _ => True

end CompactionMark

/-- A backend and what it has been called to do. -/
structure Watched (B : Type) where
  inner : B
  marks : List CompactionMark

namespace Watched

variable {ε B α : Type}

def noting (note : Bool → CompactionMark) (program : EStateM ε B α) : EStateM ε (Watched B) α := fun self =>
  match program self.inner with
  | .ok value after => .ok value ⟨after, self.marks ++ [note true]⟩
  | .error failure after => .error failure ⟨after, self.marks ++ [note false]⟩

end Watched

/-- The backend, and what it is called to do written down. -/
def CompactionBackend.watched {ε B : Type} (self : CompactionBackend ε B) : CompactionBackend ε (Watched B) where
  listSealedSegments backend := self.listSealedSegments backend.inner
  compactSegment segmentId := Watched.noting (.compacted segmentId) (self.compactSegment segmentId)
  emitApprovalRequired segmentId := Watched.noting (.asked segmentId) (self.emitApprovalRequired segmentId)

/-- What happens to a worker and its backend; the backend is also changed by others. -/
inductive CompactionEvent (B : Type) where
  | approve (segmentId : SegmentId)
  | tick (now : DateTime)
  | backend (change : B → B)

namespace Tending

variable {ε B : Type}

def note (self : Tending (Watched B)) (mark : CompactionMark) : Tending (Watched B) :=
  { self with backend := { self.backend with marks := self.backend.marks ++ [mark] } }

def step (backend : CompactionBackend ε B) (self : Tending (Watched B)) : CompactionEvent B → Tending (Watched B)
  | .approve segmentId => { self.note (.approved segmentId) with worker := self.worker.approveSegment segmentId }
  | .tick now =>
    let listed := (backend.listSealedSegments self.backend.inner).toOption.getD []
    finalState (backend.watched.tick now (self.note (.ticked now listed)))
  | .backend change => { self with backend := { self.backend with inner := change self.backend.inner } }

/-- A run from a fresh worker in the operator-approval mode. -/
def run (backend : CompactionBackend ε B) (start : B) (events : List (CompactionEvent B)) : Tending (Watched B) :=
  StepRun.run (step backend) ⟨.new .operatorApproval, ⟨start, []⟩⟩ events

end Tending

/-! ## The bookkeeping of the worker -/

namespace CompactionMark

variable {segmentId : SegmentId} {marks : List CompactionMark} {mark : CompactionMark}

theorem approved_append : Approved segmentId (marks ++ [mark]) ↔
    mark = approved segmentId ∨ Approved segmentId marks ∧ mark ≠ compacted segmentId true := since_append_singleton

theorem asked_append : Asked segmentId (marks ++ [mark]) ↔
    mark = asked segmentId true ∨ Asked segmentId marks ∧ mark ≠ approved segmentId := since_append_singleton

theorem eligibleNow_append : EligibleNow segmentId (marks ++ [mark]) ↔
    mark.listsEligible segmentId ∨ EligibleNow segmentId marks ∧ ¬mark.endsTick := since_append_singleton

end CompactionMark

section Bookkeeping

open CompactionMark

variable {worker : CompactionWorker} {marks : List CompactionMark} {segmentId : SegmentId}

/-- The two sets are the approvals not used up and the requests not answered, and all went by the rules. -/
structure Bookkeeping (worker : CompactionWorker) (marks : List CompactionMark) : Prop where
  policy : worker.policy = .operatorApproval
  approved : ∀ segmentId, segmentId ∈ worker.approved ↔ Approved segmentId marks
  awaiting : ∀ segmentId, segmentId ∈ worker.awaitingApproval ↔ Asked segmentId marks
  disjoint : Disjoint worker.approved worker.awaitingApproval
  admissible : Historically Admissible marks

theorem bookkeeping_new : Bookkeeping (.new .operatorApproval) [] where
  policy := rfl
  approved segmentId := iff_of_false (Finset.notMem_empty segmentId) StepRun.not_since_nil
  awaiting segmentId := iff_of_false (Finset.notMem_empty segmentId) StepRun.not_since_nil
  disjoint := Finset.disjoint_empty_left _
  admissible := StepRun.historically_nil

/-- A mark that neither gives nor uses up an approval, and asks for none. -/
theorem Bookkeeping.append_neutral {mark : CompactionMark} (books : Bookkeeping worker marks)
    (gives : ∀ segmentId, mark ≠ .approved segmentId) (uses : ∀ segmentId, mark ≠ .compacted segmentId true)
    (asks : ∀ segmentId, mark ≠ .asked segmentId true) (admissible : Admissible marks mark) :
    Bookkeeping worker (marks ++ [mark]) where
  policy := books.policy
  approved segmentId := by
    rw [books.approved, approved_append, or_iff_right (gives segmentId), and_iff_left (uses segmentId)]
  awaiting segmentId := by
    rw [books.awaiting, asked_append, or_iff_right (asks segmentId), and_iff_left (gives segmentId)]
  disjoint := books.disjoint
  admissible := historically_append_singleton.mpr ⟨books.admissible, admissible⟩

theorem Bookkeeping.approve (books : Bookkeeping worker marks) (segmentId : SegmentId) :
    Bookkeeping (worker.approveSegment segmentId) (marks ++ [.approved segmentId]) where
  policy := books.policy
  approved other := by
    rw [CompactionWorker.approveSegment, Finset.mem_insert, books.approved, approved_append, approved.injEq]
    simp [eq_comm]
  awaiting other := by
    rw [CompactionWorker.approveSegment, Finset.mem_erase, books.awaiting, asked_append]
    simp [and_comm, eq_comm]
  disjoint := by
    rw [CompactionWorker.approveSegment, Finset.disjoint_insert_left]
    exact ⟨Finset.notMem_erase _ _, books.disjoint.mono_right (Finset.erase_subset _ _)⟩
  admissible := historically_append_singleton.mpr ⟨books.admissible, trivial⟩

theorem Bookkeeping.tick (books : Bookkeeping worker marks) (now : DateTime) (listed : List ListedSegment) :
    Bookkeeping worker (marks ++ [.ticked now listed]) :=
  books.append_neutral (by simp) (by simp) (by simp) trivial

/-- A compaction uses up the approval; the segment was not being waited for. -/
theorem Bookkeeping.compact (books : Bookkeeping worker marks) (eligible : EligibleNow segmentId marks)
    (given : segmentId ∈ worker.approved) :
    Bookkeeping (worker.forget segmentId) (marks ++ [.compacted segmentId true]) where
  policy := books.policy
  approved other := by
    rw [CompactionWorker.forget, Finset.mem_erase, books.approved, approved_append]
    simp [and_comm, eq_comm]
  awaiting other := by
    have unasked : segmentId ∉ worker.awaitingApproval := Finset.disjoint_left.mp books.disjoint given
    rw [CompactionWorker.forget, Finset.erase_eq_of_notMem unasked, books.awaiting, asked_append]
    simp
  disjoint := books.disjoint.mono (Finset.erase_subset _ _) (Finset.erase_subset _ _)
  admissible := historically_append_singleton.mpr ⟨books.admissible, eligible, (books.approved segmentId).mp given⟩

theorem Bookkeeping.compactFailed (books : Bookkeeping worker marks) (eligible : EligibleNow segmentId marks)
    (given : segmentId ∈ worker.approved) : Bookkeeping worker (marks ++ [.compacted segmentId false]) :=
  books.append_neutral (by simp) (by simp) (by simp) ⟨eligible, (books.approved segmentId).mp given⟩

theorem Bookkeeping.ask (books : Bookkeeping worker marks) (ungiven : segmentId ∉ worker.approved)
    (unasked : segmentId ∉ worker.awaitingApproval) :
    Bookkeeping (worker.await segmentId) (marks ++ [.asked segmentId true]) where
  policy := books.policy
  approved other := by
    change other ∈ worker.approved ↔ _
    rw [books.approved, approved_append]
    simp
  awaiting other := by
    rw [CompactionWorker.await, Finset.mem_insert, books.awaiting, asked_append]
    simp [eq_comm]
  disjoint := by
    rw [CompactionWorker.await, Finset.disjoint_insert_right]
    exact ⟨ungiven, books.disjoint⟩
  admissible := historically_append_singleton.mpr
    ⟨books.admissible, fun asked => unasked ((books.awaiting segmentId).mpr asked)⟩

theorem Bookkeeping.askFailed (books : Bookkeeping worker marks) (segmentId : SegmentId) :
    Bookkeeping worker (marks ++ [.asked segmentId false]) :=
  books.append_neutral (by simp) (by simp) (by simp) trivial

end Bookkeeping

/-! ## A tick -/

section Ticks

open CompactionMark

variable {ε B : Type} {backend : CompactionBackend ε B} {now : DateTime} {listed : List ListedSegment}

variable {self : Tending (Watched B)} {segmentId : SegmentId} (report : CompactionReport)

/-- Between two calls of a tick: the books are in order, and what is listed and eligible is so now. -/
structure InTick (now : DateTime) (listed : List ListedSegment) (tending : Tending (Watched B)) : Prop where
  books : Bookkeeping tending.worker tending.backend.marks
  eligible : ∀ segmentId retentionClass sealedAt, (segmentId, retentionClass, sealedAt) ∈ listed →
    isEligible retentionClass sealedAt now = true → EligibleNow segmentId tending.backend.marks

/-- A call of the tick to the backend. -/
theorem InTick.call (held : InTick now listed self) {worker : CompactionWorker} {inner : B} {mark : CompactionMark}
    (call : ¬mark.endsTick) (books : Bookkeeping worker (self.backend.marks ++ [mark])) :
    InTick now listed ⟨worker, ⟨inner, self.backend.marks ++ [mark]⟩⟩ := by
  refine ⟨books, ?_⟩
  intro segmentId retentionClass sealedAt member eligible
  exact eligibleNow_append.mpr (.inr ⟨held.eligible segmentId retentionClass sealedAt member eligible, call⟩)

theorem compactListed_inTick (held : InTick now listed self) (eligible : EligibleNow segmentId self.backend.marks)
    (given : segmentId ∈ self.worker.approved) :
    InTick now listed (finalState (backend.watched.compactListed segmentId report self)) := by
  have unfolded : backend.watched.compactListed segmentId report self =
      (Tending.onBackend (Watched.noting (.compacted segmentId) (backend.compactSegment segmentId)) >>=
        fun removed => do
          Tending.onWorker (·.forget segmentId)
          pure { report with
            compactedSegments := report.compactedSegments + 1
            receiptsRemoved := report.receiptsRemoved + removed.1
            indexEntriesPruned := report.indexEntriesPruned + removed.2 }) self := rfl
  rw [unfolded, bind_apply]
  simp only [Tending.onBackend, zoom, Watched.noting]
  cases backend.compactSegment segmentId self.backend.inner with
  | ok removed after => exact held.call not_false (held.books.compact eligible given)
  | error failure after => exact held.call not_false (held.books.compactFailed eligible given)

theorem askForApproval_inTick (held : InTick now listed self) (ungiven : segmentId ∉ self.worker.approved)
    (unasked : segmentId ∉ self.worker.awaitingApproval) :
    InTick now listed (finalState (backend.watched.askForApproval segmentId report self)) := by
  have unfolded : backend.watched.askForApproval segmentId report self =
      (Tending.onBackend (Watched.noting (.asked segmentId) (backend.emitApprovalRequired segmentId)) >>=
        fun _ => do
          Tending.onWorker (·.await segmentId)
          pure { report with awaitingApproval := report.awaitingApproval + 1 }) self := rfl
  rw [unfolded, bind_apply]
  simp only [Tending.onBackend, zoom, Watched.noting]
  cases backend.emitApprovalRequired segmentId self.backend.inner with
  | ok removed after => exact held.call not_false (held.books.ask ungiven unasked)
  | error failure after => exact held.call not_false (held.books.askFailed segmentId)

/-- One round of the loop. -/
theorem visit_inTick {entry : ListedSegment} (member : entry ∈ listed) (held : InTick now listed self) :
    InTick now listed (finalState (backend.watched.visit now entry report self)) := by
  obtain ⟨segmentId, retentionClass, sealedAt⟩ := entry
  rw [CompactionBackend.visit]
  by_cases eligible : isEligible retentionClass sealedAt now = true
  · simp only [eligible, Bool.not_true, Bool.false_eq_true, if_false, get_bind_apply, held.books.policy]
    by_cases given : segmentId ∈ self.worker.approved
    · simp only [given, if_true]
      exact compactListed_inTick _ held (held.eligible segmentId retentionClass sealedAt member eligible) given
    · by_cases awaited : segmentId ∈ self.worker.awaitingApproval
      · simp only [given, awaited, if_false, if_true]
        exact held
      · simp only [given, awaited, if_false]
        exact askForApproval_inTick _ held given awaited
  · simp only [eligible, Bool.not_false, if_true]
    exact held

/-- The loop, by induction on the segments it has left; where a call fails it ends there. -/
theorem visitAll_inTick {rest : List ListedSegment} (report : CompactionReport) (members : rest ⊆ listed)
    (held : InTick now listed self) :
    InTick now listed (finalState (backend.watched.visitAll now rest report self)) := by
  induction rest generalizing report self with
  | nil => exact held
  | cons entry rest ih =>
    obtain ⟨member, members⟩ := List.cons_subset.mp members
    have visited : InTick now listed (finalState (backend.watched.visit now entry report self)) :=
      visit_inTick report member held
    rw [CompactionBackend.visitAll, bind_apply]
    cases ran : backend.watched.visit now entry report self with
    | ok report after =>
      rw [ran] at visited
      exact ih report members visited
    | error failure after =>
      rw [ran] at visited
      exact visited

theorem tick_books (books : Bookkeeping self.worker self.backend.marks) (now : DateTime) :
    Bookkeeping (self.step backend (.tick now)).worker (self.step backend (.tick now)).backend.marks := by
  have stepped : self.step backend (.tick now) = finalState (backend.watched.tick now
      (self.note (.ticked now ((backend.listSealedSegments self.backend.inner).toOption.getD [])))) := rfl
  have listing (mark : CompactionMark) : backend.watched.listSealedSegments (self.note mark).backend =
      backend.listSealedSegments self.backend.inner := rfl
  rw [stepped, CompactionBackend.tick, get_bind_apply, listing]
  cases backend.listSealedSegments self.backend.inner with
  | error failure => exact books.tick now []
  | ok listed =>
    have started : InTick now listed (self.note (.ticked now listed)) := by
      refine ⟨books.tick now listed, ?_⟩
      intro segmentId retentionClass sealedAt member eligible
      exact eligibleNow_append.mpr (.inl ⟨retentionClass, sealedAt, member, eligible⟩)
    exact (@visitAll_inTick _ _ backend now listed _ listed {} (List.Subset.refl listed) started).books

end Ticks

/-- In every run, whatever the backend does and whichever of its calls fail: the approved and the awaiting
segments are apart, a segment is compacted only where it is eligible and by an approval that no compaction has
used up, and no segment is asked for twice without an approval in between. -/
theorem compaction_disciplined {ε B : Type} (backend : CompactionBackend ε B) (start : B)
    (events : List (CompactionEvent B)) :
    Disjoint (Tending.run backend start events).worker.approved
        (Tending.run backend start events).worker.awaitingApproval ∧
      Historically CompactionMark.Admissible (Tending.run backend start events).backend.marks := by
  have books : Bookkeeping (Tending.run backend start events).worker
      (Tending.run backend start events).backend.marks := by
    refine StepRun.run_invariant (fun self : Tending (Watched B) => Bookkeeping self.worker self.backend.marks)
      ?_ bookkeeping_new events
    intro self event books
    cases event with
    | approve segmentId => exact books.approve segmentId
    | tick now => exact tick_books books now
    | backend change => exact books
  exact ⟨books.disjoint, books.admissible⟩

end Aios.Evidence
