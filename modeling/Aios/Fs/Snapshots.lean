import Aios.Fs.Integrity
import Aios.Fs.QueryEval
import Mathlib.Data.String.Basic

/-! # What a snapshot id tells

The records of a run are rewritten in few of their fields: an object in none, a pointer in its target, a version in
its state. So if two states of a run have the same entries in their snapshots, they agree in everything that a
query looks at.
-/

namespace Aios.Fs

open Aios.Rust

variable {prims : Primitives}

/-- No minted id has a colon in it. -/
structure Primitives.PlainIds (prims : Primitives) : Prop where
  object : ∀ index, ':' ∉ (prims.objectIds index).toList
  pointer : ∀ index, ':' ∉ (prims.pointerIds index).toList
  version : ∀ index, ':' ∉ (prims.versionIds index).toList

theorem VersionState.label_injective : Function.Injective VersionState.label := by
  intro state other same
  cases state <;> cases other <;> first | rfl | exact absurd same (by decide)

namespace State

/-! ## Records along a run -/

/-- One version up to its state and its quarantine stamps. -/
def Alike (version new : Version) : Prop :=
  new = { version with
    state := new.state, quarantinedAt := new.quarantinedAt, quarantineReason := new.quarantineReason }

/-- The records of an earlier state in a later one. -/
structure Descends (before after : State prims) : Prop where
  object : ∀ objectId object, before.objects.lookup objectId = some object →
    after.objects.lookup objectId = some object
  pointer : ∀ pointerId pointer, before.pointers.lookup pointerId = some pointer →
    ∃ new, after.pointers.lookup pointerId = some new ∧ new.objectId = pointer.objectId ∧ new.kind = pointer.kind
  version : ∀ versionId version, before.versions.lookup versionId = some version →
    ∃ new, after.versions.lookup versionId = some new ∧ Alike version new

theorem Alike.trans {first second third : Version} (earlier : Alike first second) (later : Alike second third) :
    Alike first third := by
  rw [Alike] at earlier later ⊢
  rw [later, earlier]

namespace Descends

variable {store before middle after : State prims}

theorem refl (store : State prims) : Descends store store where
  object _ _ stored := stored
  pointer _ pointer stored := ⟨pointer, stored, rfl, rfl⟩
  version _ version stored := ⟨version, stored, rfl⟩

theorem trans (earlier : Descends before middle) (later : Descends middle after) : Descends before after where
  object objectId object stored := later.object objectId object (earlier.object objectId object stored)
  pointer pointerId pointer stored := by
    obtain ⟨new, found, owner, kind⟩ := earlier.pointer pointerId pointer stored
    obtain ⟨last, found', owner', kind'⟩ := later.pointer pointerId new found
    exact ⟨last, found', owner'.trans owner, kind'.trans kind⟩
  version versionId version stored := by
    obtain ⟨new, found, alike⟩ := earlier.version versionId version stored
    obtain ⟨last, found', alike'⟩ := later.version versionId new found
    exact ⟨last, found', alike.trans alike'⟩

theorem apply (keyed : store.Keyed) (change : Change) : Descends store (store.apply change) where
  object objectId object stored := by
    cases change with
    | created write context now => exact Ledger.lookup_add_of_stored stored _
    | entered versionId reason now fallback => cases fallback <;> exact stored
    | _ => exact stored
  pointer pointerId pointer stored := by
    obtain ⟨new, found, moved⟩ := pointer_kept keyed change stored
    exact ⟨new, found, moved.objectId, moved.kind⟩
  version versionId version stored := by
    refine ⟨_, version_kept change stored, ?_⟩
    cases change <;> simp only [restated] <;> first | rfl | (split <;> rfl)

theorem applyAll (keyed : store.Keyed) (changes : List Change) : Descends store (store.applyAll changes) := by
  induction changes generalizing store with
  | nil => exact refl store
  | cons change rest ih => exact (apply keyed change).trans (ih (keyed.apply change))

theorem of_effect (keyed : store.Keyed) {op : FsOp} {after : State prims} (effect : Effect store op after) :
    Descends store after := by
  cases effect with
  | unchanged => exact refl store
  | change enabled makes => exact apply keyed _
  | collected pass collected =>
    obtain ⟨changes, -, -, rfl⟩ := collected
    exact applyAll keyed changes

end Descends

/-! ## The head snapshot -/

/-- The head snapshot id is that of the catalogs as they are. -/
def Captured (store : State prims) : Prop := store.headSnapshotId = some store.computeSnapshotId

theorem captured_apply (store : State prims) (change : Change) : (store.apply change).Captured := by
  cases change <;> rfl

theorem Captured.applyAll {store : State prims} (captured : store.Captured) (changes : List Change) :
    (store.applyAll changes).Captured :=
  StepRun.run_invariant Captured (fun store change _ => captured_apply store change) captured changes

theorem Captured.of_effect {store after : State prims} (captured : store.Captured) {op : FsOp}
    (effect : Effect store op after) : after.Captured := by
  cases effect with
  | unchanged => exact captured
  | change enabled makes => exact captured_apply store _
  | collected pass collected =>
    obtain ⟨changes, -, -, rfl⟩ := collected
    exact captured.applyAll changes

theorem Captured.currentSnapshotId {store : State prims} (captured : store.Captured) :
    store.currentSnapshotId = store.computeSnapshotId := by
  rw [State.currentSnapshotId, captured, Option.getD_some]

/-! ## What the entries tell -/

/-- The entries that a snapshot id is computed from. -/
def snapshotEntries (store : State prims) : List String × List String × List String :=
  (sortedUniqueStrings store.objectSnapshotEntries, sortedUniqueStrings store.pointerSnapshotEntries,
    sortedUniqueStrings store.versionSnapshotEntries)

section Entries

variable {before after : State prims}

variable {text text' : String}

theorem mem_sortedUniqueStrings {entries : List String} {entry : String} :
    entry ∈ sortedUniqueStrings entries ↔ entry ∈ entries := by
  rw [sortedUniqueStrings, List.mem_dedup, List.mem_insertionSort]

theorem append_left_inj {front : String} (same : front ++ text = front ++ text') : text = text' := by
  have chars := congrArg String.toList same
  rw [String.toList_append, String.toList_append, List.append_cancel_left_eq] at chars
  exact String.toList_inj.mp chars

/-- The text up to the first colon and the text behind it. -/
theorem split_at_colon {id id' rest rest' : String} (plain : ':' ∉ id.toList) (plain' : ':' ∉ id'.toList)
    (same : id ++ (":" ++ rest) = id' ++ (":" ++ rest')) : id = id' ∧ rest = rest' := by
  have chars := congrArg String.toList same
  rw [String.toList_append, String.toList_append, String.toList_append, String.toList_append] at chars
  have front : id.toList = id'.toList := by
    have cut {text : List Char} (free : ':' ∉ text) (more : List Char) :
        (text ++ (":".toList ++ more)).takeWhile (· != ':') = text := by
      rw [List.takeWhile_append_of_pos fun c member => by simpa using ne_of_mem_of_not_mem member free]
      exact (List.append_nil text)
    rw [← cut plain rest.toList, chars, cut plain']
  obtain rfl := String.toList_inj.mp front
  exact ⟨rfl, append_left_inj (append_left_inj same)⟩

theorem plain_of_stored {ν : Type} {mint : ℕ ↪ String} (plain : ∀ index, ':' ∉ (mint index).toList)
    {ledger : Ledger mint ν} {key : String} {record : ν} (stored : ledger.lookup key = some record) :
    ':' ∉ key.toList := by
  obtain ⟨index, -, rfl⟩ := ledger.issued key record stored
  exact plain index

theorem append_right_inj {back : String} (same : text ++ back = text' ++ back) : text = text' := by
  have chars := congrArg String.toList same
  rw [String.toList_append, String.toList_append, List.append_cancel_right_eq] at chars
  exact String.toList_inj.mp chars

theorem object_of_entries (plain : prims.PlainIds) (keyed : before.Keyed) (keyed' : after.Keyed)
    (same : before.snapshotEntries = after.snapshotEntries) {objectId : ObjectId} {object : Object}
    (stored : after.objects.lookup objectId = some object) : (before.objects.lookup objectId).isSome := by
  have listed : object.objectId ++ ":" ++ object.currentPointerId ∈ before.objectSnapshotEntries := by
    rw [← mem_sortedUniqueStrings, show sortedUniqueStrings before.objectSnapshotEntries =
      sortedUniqueStrings after.objectSnapshotEntries from congrArg Prod.fst same, mem_sortedUniqueStrings]
    exact List.mem_map_of_mem ((Table.mem_values_iff _ _).mpr ⟨objectId, stored⟩)
  obtain ⟨old, member, entry⟩ := List.mem_map.mp listed
  obtain ⟨oldId, before'⟩ := (Table.mem_values_iff _ _).mp member
  have named := keyed.object oldId old before'
  have named' := keyed'.object objectId object stored
  rw [named, named', String.append_assoc, String.append_assoc] at entry
  obtain ⟨rfl, -⟩ := split_at_colon (plain_of_stored plain.object before') (plain_of_stored plain.object stored) entry
  exact Option.isSome_iff_exists.mpr ⟨old, before'⟩

theorem target_of_entries (plain : prims.PlainIds) (keyed : before.Keyed) (keyed' : after.Keyed)
    (same : before.snapshotEntries = after.snapshotEntries) {pointerId : PointerId} {pointer new : Pointer}
    (stored : before.pointers.lookup pointerId = some pointer) (stored' : after.pointers.lookup pointerId = some new)
    (owner : new.objectId = pointer.objectId) (kind : new.kind = pointer.kind) :
    new.currentVersionId = pointer.currentVersionId := by
  have listed : pointer.pointerId ++ ":" ++ pointer.objectId ++ ":" ++ pointer.kind.label ++ ":" ++
      pointer.currentVersionId ∈ after.pointerSnapshotEntries := by
    rw [← mem_sortedUniqueStrings, ← show sortedUniqueStrings before.pointerSnapshotEntries =
      sortedUniqueStrings after.pointerSnapshotEntries from congrArg (·.2.1) same, mem_sortedUniqueStrings]
    exact List.mem_map_of_mem ((Table.mem_values_iff _ _).mpr ⟨pointerId, stored⟩)
  obtain ⟨found, member, entry⟩ := List.mem_map.mp listed
  obtain ⟨foundId, there⟩ := (Table.mem_values_iff _ _).mp member
  have named := keyed.pointer pointerId pointer stored
  have named' := keyed'.pointer foundId found there
  rw [named, named'] at entry
  have ids : foundId = pointerId := by
    simp only [String.append_assoc] at entry
    exact (split_at_colon (plain_of_stored plain.pointer there) (plain_of_stored plain.pointer stored) entry).1
  subst ids
  obtain rfl := Option.some.inj (stored'.symm.trans there)
  rw [owner, kind] at entry
  exact append_left_inj entry

theorem state_of_entries (plain : prims.PlainIds) (keyed : before.Keyed) (keyed' : after.Keyed)
    (same : before.snapshotEntries = after.snapshotEntries) {versionId : VersionId} {version new : Version}
    (stored : before.versions.lookup versionId = some version)
    (stored' : after.versions.lookup versionId = some new) (alike : Alike version new) :
    new.state = version.state := by
  have listed : version.versionId ++ ":" ++ version.objectId ++ ":" ++ version.state.label ++ ":" ++
      ",".intercalate version.chunkRefs ∈ after.versionSnapshotEntries := by
    rw [← mem_sortedUniqueStrings, ← show sortedUniqueStrings before.versionSnapshotEntries =
      sortedUniqueStrings after.versionSnapshotEntries from congrArg (·.2.2) same, mem_sortedUniqueStrings]
    exact List.mem_map_of_mem ((Table.mem_values_iff _ _).mpr ⟨versionId, stored⟩)
  obtain ⟨found, member, entry⟩ := List.mem_map.mp listed
  obtain ⟨foundId, there⟩ := (Table.mem_values_iff _ _).mp member
  have named := keyed.version versionId version stored
  have named' := keyed'.version foundId found there
  rw [named, named'] at entry
  have ids : foundId = versionId := by
    simp only [String.append_assoc] at entry
    exact (split_at_colon (plain_of_stored plain.version there) (plain_of_stored plain.version stored) entry).1
  subst ids
  obtain rfl := Option.some.inj (stored'.symm.trans there)
  have owner : new.objectId = version.objectId := by rw [alike]
  have chunks : new.chunkRefs = version.chunkRefs := by rw [alike]
  rw [owner, chunks] at entry
  exact VersionState.label_injective (append_left_inj (append_right_inj (append_right_inj entry)))

end Entries

/-! ## The objects that a query holds of -/

/-- What a query looks at in an object. -/
def contextOf (store : State prims) (objectId : ObjectId) : Option QueryEvalContext := do
  let object ← store.objects.lookup objectId
  let pointer ← store.pointers.lookup object.currentPointerId
  let version ← store.versions.lookup pointer.currentVersionId
  return ⟨object, version, pointer, some (namespaceClassForObject object)⟩

/-- `FsEnumerator::object_ids`. -/
def objectIds (store : State prims) : List ObjectId := store.objects.records.keys.insertionSort (· ≤ ·)

section Queries

variable (parseRfc3339 : String → Option DateTime) (query : Query)

/-- The query holds of the object as it is stored. -/
def satisfies (store : State prims) (objectId : ObjectId) : Bool :=
  match store.contextOf objectId with
  | some ctx => (evaluate parseRfc3339 query ctx).toOption.getD false
  | none => false

/-- The evaluation of the query over a state, in the order of the object ids. -/
def matching (store : State prims) : List ObjectId := store.objectIds.filter (store.satisfies parseRfc3339 query)

variable {parseRfc3339 query} {before after : State prims}

variable {store : State prims} {ctx ctx' : QueryEvalContext} {objectId : ObjectId}

/-- A query looks at the values of the fields alone. -/
theorem evaluate_congr (same : ∀ field, resolveFieldValue field ctx = resolveFieldValue field ctx') :
    evaluate parseRfc3339 query ctx = evaluate parseRfc3339 query ctx' := by
  have judged (predicate : QueryPredicate) :
      evaluatePredicate parseRfc3339 predicate ctx = evaluatePredicate parseRfc3339 predicate ctx' := by
    simp only [evaluatePredicate, evalCompare, evalIn, evalContains, evalMatches, same]
  obtain ⟨predicates⟩ := query
  change evaluateAll parseRfc3339 ctx predicates = evaluateAll parseRfc3339 ctx' predicates
  induction predicates with
  | nil => rfl
  | cons predicate rest ih => rw [evaluateAll, evaluateAll, judged, ih]

/-- The fields are those of the object, of the version up to its stamps and of the kind of the pointer. -/
theorem resolveFieldValue_congr (object : ctx'.object = ctx.object) (version : Alike ctx.version ctx'.version)
    (state : ctx'.version.state = ctx.version.state) (kind : ctx'.pointer.kind = ctx.pointer.kind)
    (class_ : ctx'.namespaceClass = ctx.namespaceClass) (field : QueryField) :
    resolveFieldValue field ctx = resolveFieldValue field ctx' := by
  have created : ctx'.version.createdAt = ctx.version.createdAt := by rw [version]
  have action : ctx'.version.createdByActionId = ctx.version.createdByActionId := by rw [version]
  have transaction : ctx'.version.createdByTransactionId = ctx.version.createdByTransactionId := by rw [version]
  cases field <;> simp only [resolveFieldValue, object, state, kind, class_, created, action, transaction]

theorem contextOf_eq_some_iff :
    store.contextOf objectId = some ctx ↔
      store.objects.lookup objectId = some ctx.object ∧
        store.pointers.lookup ctx.object.currentPointerId = some ctx.pointer ∧
        store.versions.lookup ctx.pointer.currentVersionId = some ctx.version ∧
        ctx.namespaceClass = some (namespaceClassForObject ctx.object) := by
  obtain ⟨object, version, pointer, class_⟩ := ctx
  simp only [contextOf, Option.bind_eq_bind, Option.bind_eq_some_iff, Option.pure_def, Option.some_inj,
    QueryEvalContext.mk.injEq]
  constructor
  · rintro ⟨_, stored, _, found, _, held, rfl, rfl, rfl, rfl⟩
    exact ⟨stored, found, held, rfl⟩
  · rintro ⟨stored, found, held, rfl⟩
    exact ⟨_, stored, _, found, _, held, rfl, rfl, rfl, rfl⟩

theorem ensureSnapshotCurrent_eq_ok_iff {found : Option SnapshotId} {expected : SnapshotId} :
    ensureSnapshotCurrent found expected = .ok () ↔ ∀ requested, found = some requested → requested = expected := by
  cases found with
  | none => exact ⟨fun _ => nofun, fun _ => rfl⟩
  | some found =>
    rw [ensureSnapshotCurrent]
    split
    · rename_i stale
      exact ⟨nofun, fun same => absurd (same found rfl) stale⟩
    · rename_i same
      refine ⟨fun _ requested named => ?_, fun _ => rfl⟩
      obtain rfl := Option.some.inj named
      exact not_not.mp same

/-- A read sees what a query looks at, at the head that it names. -/
theorem readObject_eq_ok {snapshotId : Option SnapshotId} {read : ObjectReadResult}
    (ran : store.readObject objectId snapshotId = .ok read) :
    (∀ requested, snapshotId = some requested → requested = store.currentSnapshotId) ∧
      read.snapshotId = store.currentSnapshotId ∧ ∃ pointer, store.contextOf objectId =
        some ⟨read.object, read.version, pointer, some (namespaceClassForObject read.object)⟩ := by
  rw [readObject, Fallible.bind_eq_ok_iff] at ran
  obtain ⟨_, current, ran⟩ := ran
  refine ⟨ensureSnapshotCurrent_eq_ok_iff.mp current, ?_⟩
  split at ran
  · cases ran
  · rename_i object stored
    split at ran
    · cases ran
    · rename_i pointer found
      split at ran
      · cases ran
      · rename_i version held
        rw [Fallible.bind_eq_ok_iff] at ran
        obtain ⟨_, -, ran⟩ := ran
        rw [Fallible.bind_eq_ok_iff] at ran
        obtain ⟨chunks, -, ran⟩ := ran
        cases ran
        exact ⟨rfl, pointer, contextOf_eq_some_iff.mpr ⟨stored, found, held, rfl⟩⟩

theorem mem_objectIds_iff : objectId ∈ store.objectIds ↔ (store.objects.lookup objectId).isSome := by
  rw [objectIds, List.mem_insertionSort, Table.mem_keys_iff]
  rfl

theorem pairwise_objectIds (store : State prims) : store.objectIds.Pairwise (· ≤ ·) :=
  List.pairwise_insertionSort _ _

/-- Two states with the same objects list them alike. -/
theorem objectIds_eq (same : ∀ objectId, (before.objects.lookup objectId).isSome ↔
    (after.objects.lookup objectId).isSome) : before.objectIds = after.objectIds := by
  have distinct (store : State prims) : store.objectIds.Nodup :=
    (List.perm_insertionSort _ _).nodup_iff.mpr store.objects.records.keys_nodup
  refine List.Perm.eq_of_pairwise (fun _ _ _ _ => le_antisymm) (pairwise_objectIds before) (pairwise_objectIds after) ?_
  refine (List.perm_ext_iff_of_nodup (distinct before) (distinct after)).mpr fun objectId => ?_
  rw [mem_objectIds_iff, mem_objectIds_iff, same]

end Queries

/-! ## States of one run with the same snapshot -/

section Same

variable {parseRfc3339 : String → Option DateTime} {query : Query} {before after : State prims}

/-- The catalogs that every run keeps. -/
structure Whole (store : State prims) : Prop where
  keyed : store.Keyed
  linked : store.Linked
  captured : store.Captured

theorem Whole.step {store : State prims} (whole : store.Whole) (op : FsOp) : (store.step op).Whole where
  keyed := whole.keyed.step op
  linked := effect_invariant (fun _ keyed linked _ enabled => linked.apply keyed enabled) whole.keyed whole.linked
    (step_effect whole.keyed op)
  captured := whole.captured.of_effect (step_effect whole.keyed op)

theorem whole_new (prims : Primitives) : (new prims).Whole := ⟨keyed_new prims, linked_new prims, rfl⟩

/-- In a whole store every object has what a query looks at. -/
theorem Whole.contextOf {store : State prims} (whole : store.Whole) {objectId : ObjectId}
    (stored : (store.objects.lookup objectId).isSome) : ∃ ctx, store.contextOf objectId = some ctx := by
  obtain ⟨object, stored⟩ := Option.isSome_iff_exists.mp stored
  obtain ⟨pointer, found, -⟩ := whole.keyed.current objectId object stored
  obtain ⟨version, held, -⟩ := whole.linked.pointerTarget _ pointer found
  exact ⟨⟨object, version, pointer, some (namespaceClassForObject object)⟩,
    contextOf_eq_some_iff.mpr ⟨stored, found, held, rfl⟩⟩

theorem satisfies_eq (plain : prims.PlainIds) (whole : before.Whole) (whole' : after.Whole)
    (descends : Descends before after) (same : before.snapshotEntries = after.snapshotEntries) (objectId : ObjectId) :
    before.satisfies parseRfc3339 query objectId = after.satisfies parseRfc3339 query objectId := by
  cases stored : before.objects.lookup objectId with
  | none =>
    have absent : after.objects.lookup objectId = none := by
      by_contra present
      obtain ⟨object, there⟩ := Option.ne_none_iff_exists'.mp present
      have back := object_of_entries plain whole.keyed whole'.keyed same there
      rw [stored] at back
      cases back
    simp only [satisfies, State.contextOf, stored, absent, Option.bind_eq_bind, Option.bind_none]
  | some object =>
    obtain ⟨ctx, context⟩ := whole.contextOf (Option.isSome_iff_exists.mpr ⟨object, stored⟩)
    obtain ⟨objectAt, pointerAt, versionAt, class_⟩ := contextOf_eq_some_iff.mp context
    obtain ⟨pointer, pointerAt', owner, kind⟩ := descends.pointer _ _ pointerAt
    obtain ⟨version, versionAt', alike⟩ := descends.version _ _ versionAt
    have target := target_of_entries plain whole.keyed whole'.keyed same pointerAt pointerAt' owner kind
    have state := state_of_entries plain whole.keyed whole'.keyed same versionAt versionAt' alike
    have context' : after.contextOf objectId = some ⟨ctx.object, version, pointer, ctx.namespaceClass⟩ :=
      contextOf_eq_some_iff.mpr ⟨descends.object _ _ objectAt, pointerAt', target ▸ versionAt', class_⟩
    rw [satisfies, satisfies, context, context']
    dsimp only
    rw [evaluate_congr (@resolveFieldValue_congr ctx ⟨ctx.object, version, pointer, ctx.namespaceClass⟩ rfl alike state
      kind rfl)]

theorem objectIds_of_entries (plain : prims.PlainIds) (whole : before.Whole) (whole' : after.Whole)
    (descends : Descends before after) (same : before.snapshotEntries = after.snapshotEntries) :
    before.objectIds = after.objectIds := by
  refine objectIds_eq fun objectId => ⟨fun stored => ?_, fun stored => ?_⟩
  · obtain ⟨object, stored⟩ := Option.isSome_iff_exists.mp stored
    exact Option.isSome_iff_exists.mpr ⟨object, descends.object objectId object stored⟩
  · obtain ⟨object, stored⟩ := Option.isSome_iff_exists.mp stored
    exact object_of_entries plain whole.keyed whole'.keyed same stored

end Same

end State

end Aios.Fs
