import Aios.Fs.Snapshots

/-! # Materialized views

`materialize_view` lists the objects and reads them one after another, each under the lock anew, so calls of others
come in between. Without a requested snapshot only the id of the first read is kept and no later read is checked
against it.
-/

namespace Aios.Fs

open Aios.Rust

variable {prims : Primitives}

/-- The message of an evaluation error. -/
def QueryEvalError.display : QueryEvalError → String
  | .typeMismatch field op expectedValueType actualValueType =>
    "type mismatch evaluating " ++ field ++ ": operator `" ++ op ++ "` expects `" ++ expectedValueType ++ "`, got `" ++
      actualValueType ++ "`"
  | .unsupportedOperator field op => "unsupported operator for " ++ field ++ ": `" ++ op ++ "`"
  | .invalidTimestamp field value => "invalid timestamp for " ++ field ++ ": " ++ value

structure ObjectRef where
  objectId : ObjectId
  deriving DecidableEq, Repr

structure View where
  snapshotId : SnapshotId
  matched : List ObjectRef
  queryHash : String
  deriving DecidableEq, Repr

/-- An error of a read, or of the evaluation. -/
inductive ViewError where
  | fs (failure : FsError)
  | queryEval (text : String)
  deriving DecidableEq, Repr

/-! ## The sections of a materialization -/

/-- Where a materialization is between two of its sections. -/
inductive Materialization where
  | started
  | reading (queryHash : String) (objectIds : List ObjectId) (matched : List ObjectRef)
      (viewSnapshotId : Option SnapshotId)
  | resolving (queryHash : String) (read : ObjectReadResult) (objectId : ObjectId) (objectIds : List ObjectId)
      (matched : List ObjectRef) (viewSnapshotId : Option SnapshotId)
  | returned (view : View)
  | failed (failure : ViewError)

namespace Materialization

/-- The objects are listed and the view has no snapshot id yet. -/
def Unnamed : Materialization → Prop
  | .reading _ _ _ viewSnapshotId => viewSnapshotId = none
  | _ => False

/-- The view has its snapshot id and an object is still to be read. -/
def Unread : Materialization → Prop
  | .reading _ objectIds _ viewSnapshotId => objectIds ≠ [] ∧ viewSnapshotId ≠ none
  | .resolving _ _ _ objectIds _ _ => objectIds ≠ []
  | _ => False

section Sections

variable (parseRfc3339 : String → Option DateTime) (hashQuery : Query → Except String String) (query : Query)
  (snapshot : Option SnapshotId)

/-- The next section: the objects are listed, one of them is read, its pointer is resolved and the query evaluated, or
the view is returned. -/
def next (store : State prims) : Materialization → Materialization
  | .started =>
    match hashQuery query with
    | .error failure => .failed (.queryEval ("query canonicalization failed: " ++ failure))
    | .ok queryHash => .reading queryHash store.objectIds [] snapshot
  | .reading queryHash (objectId :: rest) matched viewSnapshotId =>
    match store.readObject objectId snapshot with
    | .error failure => .failed (.fs failure)
    | .ok read => .resolving queryHash read objectId rest matched (viewSnapshotId <|> some read.snapshotId)
  | .reading queryHash [] matched viewSnapshotId =>
    .returned ⟨viewSnapshotId.getD store.currentSnapshotId,
      matched.insertionSort fun left right => left.objectId ≤ right.objectId, queryHash⟩
  | .resolving queryHash read objectId rest matched viewSnapshotId =>
    match store.pointers.lookup read.object.currentPointerId with
    | none => .failed (.fs (.pointerNotFound read.object.currentPointerId))
    | some pointer =>
      match evaluate parseRfc3339 query
          ⟨read.object, read.version, pointer, some (namespaceClassForObject read.object)⟩ with
      | .error failure => .failed (.queryEval failure.display)
      | .ok holds => .reading queryHash rest (if holds then matched ++ [⟨objectId⟩] else matched) viewSnapshotId
  | .returned view => .returned view
  | .failed failure => .failed failure

end Sections

end Materialization

/-! ## Runs -/

/-- The catalogs and a materialization over them. -/
structure Viewing (prims : Primitives) where
  store : State prims
  phase : Materialization

/-- A call of another client, or the next section of the materialization. The sections of a garbage-collection pass
are calls that purge and reclaim. -/
inductive ViewInput where
  | call (op : FsOp)
  | view

def Viewing.new (prims : Primitives) : Viewing prims := ⟨.new prims, .started⟩

/-- A query, the requested snapshot, the third-party functions and what happens. -/
structure ViewRun (prims : Primitives) where
  parseRfc3339 : String → Option DateTime
  hashQuery : Query → Except String String
  query : Query
  snapshot : Option SnapshotId
  inputs : List ViewInput

namespace ViewRun

section Moments

variable (run : ViewRun prims)

variable (count : ℕ)

def step (state : Viewing prims) : ViewInput → Viewing prims
  | .call op => { state with store := state.store.step op }
  | .view => { state with phase := state.phase.next run.parseRfc3339 run.hashQuery run.query run.snapshot state.store }

/-- The state after the first `count` inputs. -/
def moment : Viewing prims := StepRun.stateAt run.step (.new prims) run.inputs count

def store : State prims := (run.moment count).store

def phase : Materialization := (run.moment count).phase

def head : SnapshotId := (run.store count).currentSnapshotId

/-- Two moments with one snapshot id have the same entries. -/
def NoCollision : Prop :=
  ∀ first second, (run.store first).computeSnapshotId = (run.store second).computeSnapshotId →
    (run.store first).snapshotEntries = (run.store second).snapshotEntries

/-- A requested snapshot has been the head by the time the objects are listed. Without one, no call creates an object
between the listing and the first read, and none changes the head between the first read and the last. -/
structure Undisturbed : Prop where
  known : ∀ requested, run.snapshot = some requested → ∀ count, run.inputs[count]? = some .view →
    run.phase count = .started → ∃ earlier, earlier ≤ count ∧ run.head earlier = requested
  complete : run.snapshot = none → ∀ count op, run.inputs[count]? = some (.call op) → (run.phase count).Unnamed →
    (run.store (count + 1)).objectIds = (run.store count).objectIds
  still : run.snapshot = none → ∀ count op, run.inputs[count]? = some (.call op) → (run.phase count).Unread →
    run.head (count + 1) = run.head count

end Moments

section Agreement

variable {run : ViewRun prims} {first second count : ℕ}

theorem moment_call {op : FsOp} (taken : run.inputs[count]? = some (.call op)) :
    run.store (count + 1) = (run.store count).step op ∧ run.phase (count + 1) = run.phase count := by
  rw [store, phase, moment, StepRun.stateAt_succ taken]
  exact ⟨rfl, rfl⟩

theorem moment_view (taken : run.inputs[count]? = some .view) :
    run.store (count + 1) = run.store count ∧ run.phase (count + 1) =
      (run.phase count).next run.parseRfc3339 run.hashQuery run.query run.snapshot (run.store count) := by
  rw [store, phase, moment, StepRun.stateAt_succ taken]
  exact ⟨rfl, rfl⟩

theorem whole_store (count : ℕ) : (run.store count).Whole := by
  refine StepRun.run_invariant (fun state : Viewing prims => state.store.Whole) ?_ (State.whole_new prims) _
  rintro state (op | _) whole
  · exact whole.step op
  · exact whole

theorem descends_store (order : first ≤ second) : (run.store first).Descends (run.store second) := by
  induction second, order using Nat.le_induction with
  | base => exact .refl _
  | succ count order ih =>
    cases taken : run.inputs[count]? with
    | none =>
      have same : run.inputs.take (count + 1) = run.inputs.take count := by
        rw [List.take_add_one, taken, Option.toList_none, List.append_nil]
      have stays : run.store (count + 1) = run.store count := by
        rw [store, moment, StepRun.stateAt, same]
        rfl
      exact stays ▸ ih
    | some input =>
      cases input with
      | call op =>
        rw [(moment_call taken).1]
        exact ih.trans (.of_effect (whole_store count).keyed (State.step_effect (whole_store count).keyed op))
      | view => exact (moment_view taken).1 ▸ ih

/-- Moments with one head agree in the objects and in what a query says of them. -/
theorem agree_of_head (plain : prims.PlainIds) (distinct : run.NoCollision) (same : run.head first = run.head second) :
    (run.store first).objectIds = (run.store second).objectIds ∧
      (run.store first).satisfies run.parseRfc3339 run.query =
        (run.store second).satisfies run.parseRfc3339 run.query := by
  have ordered {first second : ℕ} (order : first ≤ second) (same : run.head first = run.head second) :
      (run.store first).objectIds = (run.store second).objectIds ∧
        (run.store first).satisfies run.parseRfc3339 run.query =
          (run.store second).satisfies run.parseRfc3339 run.query := by
    rw [head, head, (whole_store first).captured.currentSnapshotId, (whole_store second).captured.currentSnapshotId]
      at same
    have entries := distinct first second same
    exact ⟨State.objectIds_of_entries plain (whole_store first) (whole_store second) (descends_store order) entries,
      funext (State.satisfies_eq plain (whole_store first) (whole_store second) (descends_store order) entries)⟩
  obtain order | order := Nat.le_total first second
  · exact ordered order same
  · exact ⟨(ordered order same.symm).1.symm, (ordered order same.symm).2.symm⟩

theorem objectIds_subset (order : first ≤ second) : (run.store first).objectIds ⊆ (run.store second).objectIds := by
  intro objectId listed
  obtain ⟨object, stored⟩ := Option.isSome_iff_exists.mp (State.mem_objectIds_iff.mp listed)
  exact State.mem_objectIds_iff.mpr (Option.isSome_iff_exists.mpr ⟨object, (descends_store order).object _ _ stored⟩)

/-- Between two moments that list the same objects the list does not change. -/
theorem objectIds_between {middle : ℕ} (earlier : first ≤ middle) (later : middle ≤ second)
    (same : (run.store first).objectIds = (run.store second).objectIds) :
    (run.store middle).objectIds = (run.store first).objectIds := by
  refine State.objectIds_eq fun objectId => ?_
  rw [← State.mem_objectIds_iff, ← State.mem_objectIds_iff]
  exact ⟨fun listed => same ▸ objectIds_subset later listed, fun listed => objectIds_subset earlier listed⟩

end Agreement

/-! ## What a materialization has done -/

/-- By a moment the materialization has listed `done ++ rest`, at or after a moment with the snapshot of the view, and
has judged the objects of `done` as they are then. -/
structure Underway (run : ViewRun prims) (count base listed : ℕ) (done rest : List ObjectId) (matched : List ObjectRef)
    (viewSnapshotId : SnapshotId) : Prop where
  base_le : base ≤ listed
  listed_le : listed ≤ count
  ids : (run.store listed).objectIds = done ++ rest
  judged : matched = (done.filter ((run.store base).satisfies run.parseRfc3339 run.query)).map ObjectRef.mk
  named : viewSnapshotId = run.head base
  requested : ∀ requested, run.snapshot = some requested → viewSnapshotId = requested
  read : done ≠ [] → (run.store listed).objectIds = (run.store base).objectIds

/-- The head is still that of the view, where it has to be. -/
def Steady (run : ViewRun prims) (count base : ℕ) (phase : Materialization) : Prop :=
  run.snapshot = none → phase.Unread → run.head count = run.head base

/-- What holds in each phase. -/
def Progress (run : ViewRun prims) (count : ℕ) : Materialization → Prop
  | .started => True
  | .reading _ rest matched none =>
    run.snapshot = none ∧ matched = [] ∧ (run.store count).objectIds = rest
  | .reading queryHash rest matched (some viewSnapshotId) =>
    ∃ base listed done, run.Underway count base listed done rest matched viewSnapshotId ∧
      run.Steady count base (.reading queryHash rest matched (some viewSnapshotId))
  | .resolving _ _ _ _ _ none => False
  | .resolving queryHash read objectId rest matched (some viewSnapshotId) =>
    ∃ base listed done, run.Underway count base listed done (objectId :: rest) matched viewSnapshotId ∧
      run.Steady count base (.resolving queryHash read objectId rest matched (some viewSnapshotId)) ∧
      (run.store listed).objectIds = (run.store base).objectIds ∧
      ∃ readAt, readAt ≤ count ∧ run.head readAt = run.head base ∧
        (run.store readAt).readObject objectId run.snapshot = .ok read
  | .returned view => ∃ base, base ≤ count ∧ view.snapshotId = run.head base ∧
      view.matched = ((run.store base).matching run.parseRfc3339 run.query).map ObjectRef.mk
  | .failed _ => True

section Steps

variable {run : ViewRun prims} {count base listed : ℕ} {done rest : List ObjectId} {matched : List ObjectRef}
  {viewSnapshotId : SnapshotId}

variable {queryHash : String} {objectId : ObjectId}

theorem Underway.later (underway : run.Underway count base listed done rest matched viewSnapshotId) :
    run.Underway (count + 1) base listed done rest matched viewSnapshotId :=
  { underway with listed_le := Nat.le_succ_of_le underway.listed_le }

theorem Steady.later (still : run.Undisturbed) {op : FsOp} (taken : run.inputs[count]? = some (.call op))
    (steady : run.Steady count base (run.phase count)) : run.Steady (count + 1) base (run.phase count) :=
  fun unrequested unread => (still.still unrequested count op taken unread).trans (steady unrequested unread)

theorem Progress.call (still : run.Undisturbed) {op : FsOp} (taken : run.inputs[count]? = some (.call op))
    (progress : run.Progress count (run.phase count)) : run.Progress (count + 1) (run.phase (count + 1)) := by
  rw [(moment_call taken).2]
  have later {base : ℕ} := @Steady.later _ run count base still op taken
  have complete (unrequested : run.snapshot = none) := still.complete unrequested count op taken
  cases phase : run.phase count with
  | started => trivial
  | failed failure => trivial
  | returned view =>
    rw [phase] at progress
    obtain ⟨base, order, shown⟩ := progress
    exact ⟨base, Nat.le_succ_of_le order, shown⟩
  | reading queryHash rest matched viewSnapshotId =>
    rw [phase] at progress later complete
    cases viewSnapshotId with
    | none =>
      obtain ⟨unrequested, empty, ids⟩ := progress
      exact ⟨unrequested, empty, (complete unrequested rfl).trans ids⟩
    | some viewSnapshotId =>
      obtain ⟨base, listed, done, underway, steady⟩ := progress
      exact ⟨base, listed, done, underway.later, later steady⟩
  | resolving queryHash read objectId rest matched viewSnapshotId =>
    rw [phase] at progress later
    cases viewSnapshotId with
    | none => exact progress
    | some viewSnapshotId =>
      obtain ⟨base, listed, done, underway, steady, same, readAt, order, seen⟩ := progress
      exact ⟨base, listed, done, underway.later, later steady, same, readAt, Nat.le_succ_of_le order, seen⟩

/-- Listing the objects. -/
theorem Progress.list (still : run.Undisturbed) (taken : run.inputs[count]? = some .view)
    (started : run.phase count = .started) : run.Progress (count + 1) (run.phase (count + 1)) := by
  obtain ⟨stays, phase⟩ := moment_view taken
  rw [phase, started, Materialization.next]
  cases run.hashQuery run.query with
  | error failure => trivial
  | ok queryHash =>
    dsimp only
    cases asked : run.snapshot with
    | none => exact ⟨asked, rfl, congrArg State.objectIds stays⟩
    | some requested =>
      obtain ⟨earlier, order, known⟩ := still.known requested asked count taken started
      refine ⟨earlier, count, [], ⟨order, Nat.le_succ _, rfl, rfl, known.symm, ?_, nofun⟩, ?_⟩
      · intro requested' same
        exact Option.some.inj (asked.symm.trans same)
      · intro unrequested
        rw [asked] at unrequested
        cases unrequested

/-- Reading the first object of a view without a requested snapshot. -/
theorem Progress.readFirst (taken : run.inputs[count]? = some .view)
    (reading : run.phase count = .reading queryHash (objectId :: rest) matched none)
    (progress : run.Progress count (.reading queryHash (objectId :: rest) matched none)) :
    run.Progress (count + 1) (run.phase (count + 1)) := by
  obtain ⟨stays, phase⟩ := moment_view taken
  obtain ⟨unrequested, rfl, ids⟩ := progress
  rw [phase, reading, Materialization.next]
  cases ran : (run.store count).readObject objectId run.snapshot with
  | error failure => trivial
  | ok read =>
    obtain ⟨-, named, -⟩ := State.readObject_eq_ok ran
    refine ⟨count, count, [], ⟨le_rfl, Nat.le_succ _, ids, rfl, named, ?_, nofun⟩,
      fun _ _ => congrArg State.currentSnapshotId stays, rfl, count, Nat.le_succ _, rfl, ran⟩
    intro requested asked
    rw [unrequested] at asked
    cases asked

/-- Reading a further object. -/
theorem Progress.read (plain : prims.PlainIds) (distinct : run.NoCollision) (taken : run.inputs[count]? = some .view)
    (reading : run.phase count = .reading queryHash (objectId :: rest) matched (some viewSnapshotId))
    (progress : run.Progress count (.reading queryHash (objectId :: rest) matched (some viewSnapshotId))) :
    run.Progress (count + 1) (run.phase (count + 1)) := by
  obtain ⟨stays, phase⟩ := moment_view taken
  obtain ⟨base, listed, done, underway, steady⟩ := progress
  rw [phase, reading, Materialization.next]
  cases ran : (run.store count).readObject objectId run.snapshot with
  | error failure => trivial
  | ok read =>
    have here : run.head count = run.head base := by
      cases asked : run.snapshot with
      | none => exact steady asked ⟨List.cons_ne_nil _ _, Option.some_ne_none _⟩
      | some requested =>
        rw [← underway.named, underway.requested requested asked]
        exact ((State.readObject_eq_ok ran).1 requested asked).symm
    have same := objectIds_between underway.base_le underway.listed_le (agree_of_head plain distinct here.symm).1
    exact ⟨base, listed, done, underway.later, fun _ _ => (congrArg State.currentSnapshotId stays).trans here, same,
      count, Nat.le_succ _, here, ran⟩

/-- Judging an object that has been read. -/
theorem Progress.resolve (plain : prims.PlainIds) (distinct : run.NoCollision) (taken : run.inputs[count]? = some .view)
    {read : ObjectReadResult}
    (resolving : run.phase count = .resolving queryHash read objectId rest matched (some viewSnapshotId))
    (progress : run.Progress count (.resolving queryHash read objectId rest matched (some viewSnapshotId))) :
    run.Progress (count + 1) (run.phase (count + 1)) := by
  obtain ⟨stays, phase⟩ := moment_view taken
  obtain ⟨base, listed, done, underway, steady, same, readAt, order, here, ran⟩ := progress
  rw [phase, resolving, Materialization.next]
  cases found : (run.store count).pointers.lookup read.object.currentPointerId with
  | none => trivial
  | some pointer =>
    dsimp only
    obtain ⟨-, -, pointer', context⟩ := State.readObject_eq_ok ran
    -- The pointer may have moved since the read; its kind has not changed.
    have kind : pointer.kind = pointer'.kind := by
      obtain ⟨-, before, -⟩ := State.contextOf_eq_some_iff.mp context
      obtain ⟨later, found', -, same⟩ := (descends_store order).pointer _ _ before
      obtain rfl := Option.some.inj (found.symm.trans found')
      exact same
    have judged : evaluate run.parseRfc3339 run.query
          ⟨read.object, read.version, pointer, some (namespaceClassForObject read.object)⟩ =
        evaluate run.parseRfc3339 run.query
          ⟨read.object, read.version, pointer', some (namespaceClassForObject read.object)⟩ :=
      (State.evaluate_congr (@State.resolveFieldValue_congr
        ⟨read.object, read.version, pointer', some (namespaceClassForObject read.object)⟩
        ⟨read.object, read.version, pointer, some (namespaceClassForObject read.object)⟩ rfl rfl rfl kind rfl)).symm
    rw [judged]
    cases holds : evaluate run.parseRfc3339 run.query
        ⟨read.object, read.version, pointer', some (namespaceClassForObject read.object)⟩ with
    | error failure => trivial
    | ok holds' =>
      have satisfied : (run.store base).satisfies run.parseRfc3339 run.query objectId = holds' := by
        rw [← (agree_of_head plain distinct here).2, State.satisfies, context]
        dsimp only
        rw [holds]
        rfl
      refine ⟨base, listed, done ++ [objectId], { underway.later with
        ids := ?_, judged := ?_, read := fun _ => same }, fun unrequested unread => ?_⟩
      · rw [underway.ids, List.append_assoc, List.singleton_append]
      · rw [List.filter_append, List.map_append, ← underway.judged]
        cases holds' with
        | true => simp [satisfied]
        | false => simp [satisfied]
      · exact (congrArg State.currentSnapshotId stays).trans (steady unrequested unread.1)

/-- Returning the view. -/
theorem Progress.finish (taken : run.inputs[count]? = some .view) {viewSnapshotId : Option SnapshotId}
    (reading : run.phase count = .reading queryHash [] matched viewSnapshotId)
    (progress : run.Progress count (.reading queryHash [] matched viewSnapshotId)) :
    run.Progress (count + 1) (run.phase (count + 1)) := by
  rw [(moment_view taken).2, reading, Materialization.next]
  cases viewSnapshotId with
  | none =>
    obtain ⟨-, rfl, ids⟩ := progress
    refine ⟨count, Nat.le_succ _, rfl, ?_⟩
    rw [State.matching, ids]
    rfl
  | some viewSnapshotId =>
    obtain ⟨base, listed, done, underway, steady⟩ := progress
    have order := underway.base_le.trans underway.listed_le
    have ids := underway.ids
    rw [List.append_nil] at ids
    have same : (run.store base).objectIds = done := by
      by_cases empty : done = []
      · have fewer : (run.store base).objectIds ⊆ (run.store listed).objectIds := objectIds_subset underway.base_le
        rw [ids, empty] at fewer
        rw [List.subset_nil.mp fewer, empty]
      · rw [← underway.read empty, ids]
    have sorted : matched.Pairwise fun left right => left.objectId ≤ right.objectId := by
      rw [underway.judged, List.pairwise_map, ← same]
      exact (State.pairwise_objectIds _).filter _
    refine ⟨base, Nat.le_succ_of_le order, underway.named, ?_⟩
    change matched.insertionSort _ = _
    rw [sorted.insertionSort_eq, underway.judged, State.matching, same]

theorem progress_phase (plain : prims.PlainIds) (distinct : run.NoCollision) (still : run.Undisturbed)
    (count : ℕ) (bound : count ≤ run.inputs.length) : run.Progress count (run.phase count) := by
  induction count with
  | zero => trivial
  | succ count ih =>
    have progress := ih (Nat.le_of_succ_le bound)
    have taken : run.inputs[count]? = some run.inputs[count] := List.getElem?_eq_getElem bound
    cases input : run.inputs[count] with
    | call op => exact progress.call still (taken.trans (congrArg some input))
    | view =>
      rw [input] at taken
      cases phase : run.phase count with
      | started => exact .list still taken phase
      | reading queryHash objectIds matched viewSnapshotId =>
        rw [phase] at progress
        cases objectIds with
        | nil => exact .finish taken phase progress
        | cons objectId rest =>
          cases viewSnapshotId with
          | none => exact .readFirst taken phase progress
          | some viewSnapshotId => exact .read plain distinct taken phase progress
      | resolving queryHash read objectId rest matched viewSnapshotId =>
        rw [phase] at progress
        cases viewSnapshotId with
        | none => exact progress.elim
        | some viewSnapshotId => exact .resolve plain distinct taken phase progress
      | returned view =>
        rw [phase] at progress
        obtain ⟨base, order, shown⟩ := progress
        rw [(moment_view taken).2, phase]
        exact ⟨base, Nat.le_succ_of_le order, shown⟩
      | failed failure =>
        rw [(moment_view taken).2, phase]
        trivial

end Steps

/-- A view of an undisturbed materialization: its snapshot has been the head, and whenever that is the head, the view
is the evaluation of the query over the catalogs. -/
theorem view_consistent (run : ViewRun prims) (plain : prims.PlainIds) (distinct : run.NoCollision)
    (still : run.Undisturbed) {view : View} (returned : run.phase run.inputs.length = .returned view) :
    (∃ count, count ≤ run.inputs.length ∧ run.head count = view.snapshotId) ∧
      ∀ count, count ≤ run.inputs.length → run.head count = view.snapshotId →
        view.matched = ((run.store count).matching run.parseRfc3339 run.query).map ObjectRef.mk := by
  have progress := progress_phase plain distinct still run.inputs.length le_rfl
  rw [returned] at progress
  obtain ⟨base, order, named, matched⟩ := progress
  refine ⟨⟨base, order, named.symm⟩, fun count _ here => ?_⟩
  obtain ⟨ids, satisfied⟩ := agree_of_head plain distinct (here.trans named)
  rw [matched, State.matching, State.matching, ids, satisfied]

/-- Two objects: the version of the first is retired between the listing and the first read, and its chunk is reclaimed
between the reads. -/
def swept : ViewRun tallied where
  parseRfc3339 _ := none
  hashQuery _ := .ok "hash"
  query := .and [⟨.version, .versionState, .eq, .string "RETIRED_VERSION"⟩]
  snapshot := none
  inputs :=
    [.call (.write (writeOf none [] ["c"]) aliceContext 0 none),
      .call (.write (writeOf none [] ["d"]) aliceContext 1 none), .view,
      .call (.purgeVersion "v" .retired), .view, .view, .call (.reclaimChunk "c"), .view, .view, .view]

/-- The view has what is retired at the first read. -/
theorem view_consistent_swept : ∃ view, swept.phase swept.inputs.length = .returned view ∧ view.matched = [⟨"o"⟩] ∧
    (∃ count, count ≤ swept.inputs.length ∧ swept.head count = view.snapshotId) ∧
      ∀ count, count ≤ swept.inputs.length → swept.head count = view.snapshotId →
        view.matched = ((swept.store count).matching swept.parseRfc3339 swept.query).map ObjectRef.mk := by
  have plain (mark : Char) (other : ':' ≠ mark) (index : ℕ) : ':' ∉ (tally mark index).toList := by
    change ':' ∉ (String.ofList (List.replicate (index + 1) mark)).toList
    rw [String.toList_ofList]
    exact fun member => other (List.eq_of_mem_replicate member)
  -- nothing changes after the last input
  have ended (count : ℕ) : ∃ moment ≤ 10, swept.store count = swept.store moment := by
    obtain early | late := Nat.le_total count 10
    · exact ⟨count, early, rfl⟩
    · have whole : swept.inputs.take count = swept.inputs := List.take_of_length_le late
      refine ⟨10, le_rfl, ?_⟩
      rw [store, moment, StepRun.stateAt, whole]
      rfl
  have apart : ∀ first ≤ 10, ∀ second ≤ 10,
      (swept.store first).computeSnapshotId ≠ (swept.store second).computeSnapshotId ∨
        (swept.store first).snapshotEntries = (swept.store second).snapshotEntries := by decide +kernel
  refine ⟨⟨swept.head 4, [⟨"o"⟩], "hash"⟩, rfl, rfl, @view_consistent tallied swept
    ⟨plain 'o' (by decide), plain 'p' (by decide), plain 'v' (by decide)⟩ (fun first second same => ?_)
    ⟨fun _ named => absurd named.symm (Option.some_ne_none _), fun _ count op taken unnamed => ?_,
      fun _ count op taken unread => ?_⟩ _ rfl⟩
  · obtain ⟨_, bound, here⟩ := ended first
    obtain ⟨_, bound', there⟩ := ended second
    rw [here, there] at same ⊢
    exact (apart _ bound _ bound').resolve_left (not_not_intro same)
  · obtain _ | _ | _ | _ | _ | _ | _ | _ | _ | _ | count := count
    all_goals cases taken
    · cases unnamed
    · cases unnamed
    · rfl
    · cases unnamed
  · obtain _ | _ | _ | _ | _ | _ | _ | _ | _ | _ | count := count
    all_goals cases taken
    · cases unread
    · cases unread
    · exact absurd rfl unread.2
    · rfl

/-- Two objects, of which the second is retired after the first has been read. -/
def mixed : ViewRun tallied where
  parseRfc3339 _ := none
  hashQuery _ := .ok "hash"
  query := .and [⟨.version, .versionState, .eq, .string "RETIRED_VERSION"⟩]
  snapshot := none
  inputs :=
    [.call (.write (writeOf none [] []) aliceContext 0 none), .call (.write (writeOf none [] []) aliceContext 1 none),
      .view, .view, .view, .call (.purgeVersion "vv" .retired), .view, .view, .view]

/-- The view matches an object that is retired in no state with its snapshot. -/
theorem view_mixes_snapshots : ∃ view, mixed.phase mixed.inputs.length = .returned view ∧
    (∃ count, count ≤ mixed.inputs.length ∧ mixed.head count = view.snapshotId) ∧
      ∀ count, count ≤ mixed.inputs.length → mixed.head count = view.snapshotId →
        view.matched ≠ ((mixed.store count).matching mixed.parseRfc3339 mixed.query).map ObjectRef.mk :=
  ⟨⟨mixed.head 2, [⟨"oo"⟩], "hash"⟩, rfl, ⟨2, by decide, rfl⟩, by decide +kernel⟩

end ViewRun

end Aios.Fs
