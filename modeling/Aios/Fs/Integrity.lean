import Aios.Fs.Changes

/-! # Integrity of the object graph

The links between the four catalogs: pointers to versions, objects to their CURRENT pointers, versions
to their parents. A change rewrites the state and the stamps of versions, moves pointers and adds
records; the links are read off from where each record of the new catalogs comes from.
-/

namespace Aios.Fs

open Aios.Rust

variable {prims : Primitives}

namespace State

variable {store : State prims}

variable {Inv : State prims → Prop} {change : Change} {write : ObjectWriteRequest} {version : Version}
  {context : FsContext} {objectId : ObjectId} {pointerId : PointerId} {pointer : Pointer} {target : VersionId}
  {after : State prims}

/-! ## Where the records come from -/

/-- The version a change adds. -/
def added (store : State prims) : Change → Option Version
  | .created write context now => some (newVersion prims write context now store.objects.nextKey
      store.versions.nextKey store.transactions.nextKey)
  | .extended write context now objectId _ _ => some (newVersion prims write context now objectId
      store.versions.nextKey store.transactions.nextKey)
  | _ => none

/-- What a change makes of a stored version. -/
def restated (change : Change) (versionId : VersionId) (version : Version) : Version :=
  match change with
  | .entered isolatedId reason now _ => if versionId = isolatedId then isolate reason now version else version
  | .exited leftId disposition => if versionId = leftId then leave (exitState disposition) version else version
  | .purged purgedId _ => if versionId = purgedId then leave .retiredVersion version else version
  | _ => version

/-- A change alters no more of a stored version than its state and its quarantine stamps. -/
theorem restated_alike (change : Change) (versionId : VersionId) (version : Version) :
    (restated change versionId version).versionId = version.versionId ∧
      (restated change versionId version).objectId = version.objectId ∧
      (restated change versionId version).parentVersionIds = version.parentVersionIds ∧
      (restated change versionId version).chunkRefs = version.chunkRefs := by
  cases change <;> simp only [restated, and_self] <;> split <;> exact ⟨rfl, rfl, rfl, rfl⟩

theorem lookup_setVersion (versionId other : VersionId) (update : Version → Version) :
    (store.setVersion versionId update).versions.lookup other =
      if other = versionId then (store.versions.lookup versionId).map update else store.versions.lookup other :=
  Ledger.lookup_modify _ _ _ _

theorem versions_entered (store : State prims) (versionId : VersionId) (reason : String) (now : DateTime)
    (fallback : Option VersionId) :
    (store.entered versionId reason now fallback).versions = (store.isolated versionId reason now).versions := by
  cases fallback <;> rfl

/-- A version of the new catalogs was there before, or is the one the change adds. -/
theorem version_origin {change : Change} {versionId : VersionId} {version : Version}
    (stored : (store.apply change).versions.lookup versionId = some version) :
    (∃ old, store.versions.lookup versionId = some old ∧ version = restated change versionId old) ∨
      versionId = store.versions.nextKey ∧ store.added change = some version := by
  have ofModify {target : VersionId} {update : Version → Version}
      (found : (store.setVersion target update).versions.lookup versionId = some version) :
      ∃ old, store.versions.lookup versionId = some old ∧ version = if versionId = target then update old else old := by
    rw [lookup_setVersion] at found
    split at found
    · rename_i same
      obtain ⟨old, before, rfl⟩ := Option.map_eq_some_iff.mp found
      exact ⟨old, same ▸ before, by rw [if_pos same]⟩
    · rename_i apart
      exact ⟨version, found, by rw [if_neg apart]⟩
  have ofAdd {new : Version} (found : (store.versions.add new).lookup versionId = some version) :
      (∃ old, store.versions.lookup versionId = some old ∧ version = old) ∨
        versionId = store.versions.nextKey ∧ some new = some version := by
    rw [Ledger.lookup_add] at found
    split at found
    · rename_i same
      exact .inr ⟨same, found⟩
    · exact .inl ⟨version, found, rfl⟩
  cases change with
  | created write context now => exact ofAdd stored
  | extended write context now objectId pointerId replaced => exact ofAdd stored
  | entered isolatedId reason now fallback =>
    change (store.entered isolatedId reason now fallback).versions.lookup versionId = some version at stored
    rw [versions_entered] at stored
    exact .inl (ofModify stored)
  | exited leftId disposition => exact .inl (ofModify stored)
  | purged purgedId chunkIds => exact .inl (ofModify stored)
  | captured => exact .inl ⟨version, stored, rfl⟩
  | reclaimed chunkId => exact .inl ⟨version, stored, rfl⟩
  | decremented chunkId => exact .inl ⟨version, stored, rfl⟩

theorem version_kept (change : Change) {versionId : VersionId} {version : Version}
    (stored : store.versions.lookup versionId = some version) :
    (store.apply change).versions.lookup versionId = some (restated change versionId version) := by
  have ofModify (target : VersionId) (update : Version → Version) :
      (store.setVersion target update).versions.lookup versionId =
        some (if versionId = target then update version else version) := by
    rw [lookup_setVersion]
    split
    · rename_i same
      rw [← same, stored, Option.map_some]
    · exact stored
  cases change with
  | created write context now => exact Ledger.lookup_add_of_stored stored _
  | extended write context now objectId pointerId replaced => exact Ledger.lookup_add_of_stored stored _
  | entered isolatedId reason now fallback =>
    change (store.entered isolatedId reason now fallback).versions.lookup versionId = _
    rw [versions_entered]
    exact ofModify _ _
  | exited leftId disposition => exact ofModify _ _
  | purged purgedId chunkIds => exact ofModify _ _
  | captured => exact stored
  | reclaimed chunkId => exact stored
  | decremented chunkId => exact stored

theorem lookup_added (new : store.added change = some version) :
    (store.apply change).versions.lookup store.versions.nextKey = some version := by
  cases change with
  | created write context now =>
    cases new
    exact (Ledger.lookup_add _ _ _).trans (if_pos rfl)
  | extended write context now objectId pointerId replaced =>
    cases new
    exact (Ledger.lookup_add _ _ _).trans (if_pos rfl)
  | _ => cases new

/-! ### Pointers -/

theorem lookup_movePointers (target : VersionId) (transactionId : TransactionId) (now : DateTime)
    (pointerIds : List PointerId) (pointerId : PointerId) :
    (store.movePointers target transactionId now pointerIds).pointers.lookup pointerId =
      if pointerId ∈ pointerIds then (store.pointers.lookup pointerId).map (·.moveTo target transactionId now)
      else store.pointers.lookup pointerId := by
  induction pointerIds generalizing store with
  | nil => simp [movePointers]
  | cons first rest ih =>
    change ((store.movePointers target transactionId now [first]).movePointers target transactionId now
      rest).pointers.lookup
      pointerId = _
    rw [ih]
    change (if pointerId ∈ rest then ((store.pointers.modify first _).lookup pointerId).map _
      else (store.pointers.modify first _).lookup pointerId) = _
    rw [Ledger.lookup_modify]
    by_cases same : pointerId = first
    · subst same
      cases store.pointers.lookup pointerId <;> simp [Pointer.moveTo]
    · simp [same]

/-- A pointer after a change that does not add it: it was there before, under the same object and kind,
and the change has left it alone or moved it. -/
structure Moved (store : State prims) (change : Change) (old new : Pointer) : Prop where
  pointerId : new.pointerId = old.pointerId
  objectId : new.objectId = old.objectId
  kind : new.kind = old.kind
  target : new.currentVersionId = old.currentVersionId ∨
    (∃ write context now objectId pointerId replaced,
      change = .extended write context now objectId pointerId replaced ∧ old.pointerId = pointerId ∧
        new.currentVersionId = store.versions.nextKey) ∨
    ∃ versionId reason now target, change = .entered versionId reason now (some target) ∧
      old.currentVersionId = versionId ∧ new.currentVersionId = target

theorem Moved.refl (change : Change) (pointer : Pointer) : Moved store change pointer pointer :=
    ⟨rfl, rfl, rfl, .inl rfl⟩

/-- The pointer a creating write adds. -/
def addedPointer (store : State prims) (now : DateTime) : Pointer where
  pointerId := store.pointers.nextKey
  objectId := store.objects.nextKey
  kind := .current
  currentVersionId := store.versions.nextKey
  lastPromotedAt := now
  lastPromotedByTransactionId := store.transactions.nextKey

theorem pointers_created (write : ObjectWriteRequest) (context : FsContext) (now : DateTime) :
    (store.apply (.created write context now)).pointers = store.pointers.add (store.addedPointer now) := rfl

theorem pointers_extended (write : ObjectWriteRequest) (context : FsContext) (now : DateTime) (objectId : ObjectId)
    (pointerId : PointerId) (replaced : VersionId) :
    (store.apply (.extended write context now objectId pointerId replaced)).pointers =
      store.pointers.modify pointerId (·.moveTo store.versions.nextKey store.transactions.nextKey now) := rfl

theorem pointer_kept (keyed : store.Keyed) (change : Change) (stored : store.pointers.lookup pointerId = some pointer) :
    ∃ new, (store.apply change).pointers.lookup pointerId = some new ∧ Moved store change pointer new := by
  cases change with
  | created write context now => exact ⟨pointer, Ledger.lookup_add_of_stored stored _, .refl _ _⟩
  | extended write context now objectId movedId replaced =>
    rw [pointers_extended, Ledger.lookup_modify]
    split
    · rename_i same
      rw [← same, stored]
      exact ⟨_, rfl, rfl, rfl, rfl, .inr (.inl ⟨_, _, _, _, _, _, rfl, keyed.pointer _ _ stored, rfl⟩)⟩
    · exact ⟨pointer, stored, .refl _ _⟩
  | entered versionId reason now fallback =>
    cases fallback with
    | none => exact ⟨pointer, stored, .refl _ _⟩
    | some target =>
      change ∃ new, ((store.isolated versionId reason now).movePointers target store.transactions.nextKey now
        (store.currentOrStablePointersTo versionId)).pointers.lookup pointerId = some new ∧ _
      rw [lookup_movePointers]
      change ∃ new, (if pointerId ∈ store.currentOrStablePointersTo versionId then
        (store.pointers.lookup pointerId).map _ else store.pointers.lookup pointerId) = some new ∧ _
      rw [stored]
      split
      · rename_i affected
        obtain ⟨found, same, -, targets⟩ := (mem_currentOrStablePointersTo_iff keyed versionId pointerId).mp affected
        obtain rfl := Option.some.inj (stored.symm.trans same)
        exact ⟨_, rfl, rfl, rfl, rfl, .inr (.inr ⟨_, _, _, _, rfl, targets, rfl⟩)⟩
      · exact ⟨pointer, rfl, .refl _ _⟩
  | exited versionId disposition => exact ⟨pointer, stored, .refl _ _⟩
  | purged versionId chunkIds => exact ⟨pointer, stored, .refl _ _⟩
  | captured => exact ⟨pointer, stored, .refl _ _⟩
  | reclaimed chunkId => exact ⟨pointer, stored, .refl _ _⟩
  | decremented chunkId => exact ⟨pointer, stored, .refl _ _⟩

/-- A pointer of the new catalogs was there before, or is the one a creating write adds. -/
theorem pointer_origin (keyed : store.Keyed) (stored : (store.apply change).pointers.lookup pointerId = some pointer) :
    (∃ old, store.pointers.lookup pointerId = some old ∧ Moved store change old pointer) ∨
      ∃ write context now, change = .created write context now ∧ pointerId = store.pointers.nextKey ∧
        pointer = store.addedPointer now := by
  cases before : store.pointers.lookup pointerId with
  | some old =>
    obtain ⟨new, found, moved⟩ := pointer_kept keyed change before
    obtain rfl := Option.some.inj (stored.symm.trans found)
    exact .inl ⟨old, rfl, moved⟩
  | none =>
    cases change with
    | created write context now =>
      rw [pointers_created, Ledger.lookup_add] at stored
      split at stored
      · rename_i same
        exact .inr ⟨write, context, now, rfl, same, (Option.some.inj stored).symm⟩
      · cases before.symm.trans stored
    | extended write context now objectId movedId replaced =>
      rw [pointers_extended, Ledger.lookup_modify] at stored
      split at stored
      · rename_i same
        rw [← same, before] at stored
        cases stored
      · cases before.symm.trans stored
    | entered versionId reason now fallback =>
      cases fallback with
      | none => cases before.symm.trans stored
      | some target =>
        change ((store.isolated versionId reason now).movePointers target store.transactions.nextKey now
          (store.currentOrStablePointersTo versionId)).pointers.lookup pointerId = some pointer at stored
        rw [lookup_movePointers] at stored
        change (if pointerId ∈ store.currentOrStablePointersTo versionId then
          (store.pointers.lookup pointerId).map _ else store.pointers.lookup pointerId) = some pointer at stored
        rw [before, Option.map_none, ite_self] at stored
        cases stored
    | exited versionId disposition => cases before.symm.trans stored
    | purged versionId chunkIds => cases before.symm.trans stored
    | captured => cases before.symm.trans stored
    | reclaimed chunkId => cases before.symm.trans stored
    | decremented chunkId => cases before.symm.trans stored

/-! ### Objects -/

/-- An object of the new catalogs was there before, or is the one a creating write adds. -/
theorem object_origin {object : Object} (stored : (store.apply change).objects.lookup objectId = some object) :
    store.objects.lookup objectId = some object ∨
      ∃ write context now, change = .created write context now ∧ objectId = store.objects.nextKey ∧
        object.objectId = objectId ∧ object.currentPointerId = store.pointers.nextKey := by
  cases change with
  | created write context now =>
    change (store.objects.add _).lookup objectId = some object at stored
    rw [Ledger.lookup_add] at stored
    split at stored
    · rename_i same
      obtain rfl := Option.some.inj stored
      exact .inr ⟨write, context, now, rfl, same, same.symm, rfl⟩
    · exact .inl stored
  | entered versionId reason now fallback => cases fallback <;> exact .inl stored
  | _ => exact .inl stored

/-! ## Well-kept catalogs stay so -/

theorem Keyed.apply (keyed : store.Keyed) (change : Change) : (store.apply change).Keyed where
  object objectId object stored := by
    obtain before | ⟨write, context, now, rfl, rfl, same, -⟩ := object_origin stored
    · exact keyed.object objectId object before
    · exact same
  version versionId version stored := by
    obtain ⟨old, before, rfl⟩ | ⟨rfl, new⟩ := version_origin stored
    · rw [(restated_alike change versionId old).1]
      exact keyed.version versionId old before
    · cases change <;> cases new <;> rfl
  pointer pointerId pointer stored := by
    obtain ⟨old, before, moved⟩ | ⟨write, context, now, rfl, rfl, rfl⟩ := pointer_origin keyed stored
    · rw [moved.pointerId]
      exact keyed.pointer pointerId old before
    · rfl
  current objectId object stored := by
    obtain before | ⟨write, context, now, rfl, rfl, -, same⟩ := object_origin stored
    · obtain ⟨pointer, found, owner⟩ := keyed.current objectId object before
      obtain ⟨new, found', moved⟩ := pointer_kept keyed change found
      exact ⟨new, found', moved.objectId.trans owner⟩
    · refine ⟨store.addedPointer now, ?_, rfl⟩
      rw [pointers_created, Ledger.lookup_add, if_pos same]

theorem Keyed.applyAll (keyed : store.Keyed) (changes : List Change) : (store.applyAll changes).Keyed :=
  StepRun.run_invariant Keyed (fun _ change keyed => keyed.apply change) keyed changes

theorem Keyed.of_effect (keyed : store.Keyed) {op : FsOp} (effect : Effect store op after) : after.Keyed := by
  cases effect with
  | unchanged => exact keyed
  | change enabled makes => exact keyed.apply _
  | collected pass collected =>
    obtain ⟨changes, -, -, rfl⟩ := collected
    exact keyed.applyAll changes

theorem Keyed.step (keyed : store.Keyed) (op : FsOp) : (store.step op).Keyed := keyed.of_effect (step_effect keyed op)

theorem keyed_new (prims : Primitives) : (new prims).Keyed where
  object _ _ stored := nomatch stored
  version _ _ stored := nomatch stored
  pointer _ _ stored := nomatch stored
  current _ _ stored := nomatch stored

theorem keyed_run (prims : Primitives) (ops : List FsOp) : ((new prims).run ops).Keyed :=
  StepRun.run_invariant Keyed (fun _ op keyed => keyed.step op) (keyed_new prims) ops

/-! ## The target of a fallback -/

theorem pointerTargetForKind_eq_some (keyed : store.Keyed) {kind : PointerKind} {excluded : VersionId}
    (found : store.pointerTargetForKind objectId kind excluded = .ok (some target)) :
    ∃ pointerId pointer version, store.pointers.lookup pointerId = some pointer ∧ pointer.kind = kind ∧
      pointer.currentVersionId = target ∧ store.versions.lookup target = some version ∧
        version.objectId = objectId := by
  unfold pointerTargetForKind at found
  dsimp only at found
  split at found
  · rename_i pointer rest sorted
    have listed : pointer ∈ store.pointers.records.values.filter fun pointer =>
        pointer.objectId = objectId ∧ pointer.kind = kind ∧ pointer.currentVersionId ≠ excluded := by
      rw [← List.mem_insertionSort (fun left right : Pointer => left.pointerId ≤ right.pointerId), sorted]
      exact List.mem_cons_self
    rw [List.mem_filter, Table.mem_values_iff, decide_eq_true_eq] at listed
    obtain ⟨⟨pointerId, stored⟩, -, ofKind, -⟩ := listed
    cases owned : store.versionForObject objectId pointer.currentVersionId with
    | error failure =>
      rw [owned] at found
      cases found
    | ok version =>
      rw [owned] at found
      obtain ⟨held, owner⟩ := versionForObject_eq_ok_iff.mp owned
      have same := keyed.version _ _ held
      cases found
      exact ⟨pointerId, pointer, version, stored, ofKind, same.symm, same.symm ▸ held, owner⟩
  · cases found

theorem priorVerifiedParent_eq_some (keyed : store.Keyed) {parents : List VersionId}
    (found : store.priorVerifiedParent version parents = .ok (some target)) :
    target ∈ parents ∧ ∃ parent, store.versions.lookup target = some parent ∧
      parent.objectId = version.objectId ∧ parent.state = .verified := by
  induction parents with
  | nil => cases found
  | cons first rest ih =>
    rw [priorVerifiedParent, Fallible.bind_eq_ok_iff] at found
    obtain ⟨parent, owned, found⟩ := found
    obtain ⟨held, owner⟩ := versionForObject_eq_ok_iff.mp owned
    split at found
    · rename_i verified
      cases found
      rw [keyed.version _ _ held]
      exact ⟨List.mem_cons_self, parent, held, owner, verified⟩
    · obtain ⟨listed, rest⟩ := ih found
      exact ⟨List.mem_cons_of_mem _ listed, rest⟩

/-- A fallback is a stored version of the same object: a verified parent, or what another pointer of the
object of the kind ROLLBACK or STABLE targets. -/
theorem fallbackTarget_eq_some (keyed : store.Keyed) {affected : List PointerId}
    (found : store.fallbackTarget version affected = .ok (some target)) :
    ∃ held, store.versions.lookup target = some held ∧ held.objectId = version.objectId ∧
      (target ∈ version.parentVersionIds ∧ held.state = .verified ∨
        ∃ pointerId pointer, store.pointers.lookup pointerId = some pointer ∧ pointer.kind ≠ .current ∧
          pointer.currentVersionId = target) := by
  unfold fallbackTarget at found
  split at found
  · cases found
  rw [quarantinePointerFallback, Fallible.bind_eq_ok_iff] at found
  obtain ⟨rollback, sought, found⟩ := found
  cases rollback with
  | some rollbackTarget =>
    cases found
    obtain ⟨pointerId, pointer, held, stored, ofKind, targets, heldAt, owner⟩ :=
      pointerTargetForKind_eq_some keyed sought
    exact ⟨held, heldAt, owner, .inr ⟨pointerId, pointer, stored, by rw [ofKind]; decide, targets⟩⟩
  | none =>
    rw [Fallible.bind_eq_ok_iff] at found
    obtain ⟨stable, sought', found⟩ := found
    cases stable with
    | some stableTarget =>
      cases found
      obtain ⟨pointerId, pointer, held, stored, ofKind, targets, heldAt, owner⟩ :=
        pointerTargetForKind_eq_some keyed sought'
      exact ⟨held, heldAt, owner, .inr ⟨pointerId, pointer, stored, by rw [ofKind]; decide, targets⟩⟩
    | none =>
      obtain ⟨listed, held, heldAt, owner, verified⟩ := priorVerifiedParent_eq_some keyed found
      exact ⟨held, heldAt, owner, .inl ⟨listed, verified⟩⟩

/-! ## Links -/

/-- The links that every run keeps. The parents of a version are linked when a write has moved a pointer
to it; those that the first version of an object names are stored as they come. -/
structure Linked (store : State prims) : Prop where
  promotedParents : ∀ transactionId transaction, store.transactions.lookup transactionId = some transaction →
    ∀ move ∈ transaction.pointerMoves, ∃ version, store.versions.lookup move.newVersionId = some version ∧
      ∀ parentId ∈ version.parentVersionIds, ∃ parent, store.versions.lookup parentId = some parent ∧
        parent.objectId = version.objectId
  pointerTarget : ∀ pointerId pointer, store.pointers.lookup pointerId = some pointer →
    ∃ version, store.versions.lookup pointer.currentVersionId = some version ∧ version.objectId = pointer.objectId
  currentPointer : ∀ objectId object, store.objects.lookup objectId = some object →
    ∃ pointer, store.pointers.lookup object.currentPointerId = some pointer ∧ pointer.objectId = objectId

/-- A transaction of the new catalogs was there before, or moved no pointer, or is that of the extending
write. -/
theorem transaction_origin {transactionId : TransactionId} {transaction : Transaction}
    (stored : (store.apply change).transactions.lookup transactionId = some transaction) :
    store.transactions.lookup transactionId = some transaction ∨ transaction.pointerMoves = [] ∨
      ∃ write context now objectId pointerId replaced,
        change = .extended write context now objectId pointerId replaced ∧
          transaction.pointerMoves = [⟨pointerId, replaced, store.versions.nextKey⟩] := by
  cases change with
  | created write context now =>
    change (store.transactions.add _).lookup transactionId = some transaction at stored
    rw [Ledger.lookup_add] at stored
    split at stored
    · obtain rfl := Option.some.inj stored
      exact .inr (.inl rfl)
    · exact .inl stored
  | extended write context now objectId pointerId replaced =>
    change (store.transactions.add _).lookup transactionId = some transaction at stored
    rw [Ledger.lookup_add] at stored
    split at stored
    · obtain rfl := Option.some.inj stored
      exact .inr (.inr ⟨_, _, _, _, _, _, rfl, rfl⟩)
    · exact .inl stored
  | entered versionId reason now fallback => cases fallback <;> exact .inl stored
  | _ => exact .inl stored

/-- The new version of an extending write, with its parents among the old versions. -/
theorem extended_version {now : DateTime} {replaced : VersionId}
    (enabled : store.Enabled (.extended write context now objectId pointerId replaced)) :
    ∃ version, (store.apply (.extended write context now objectId pointerId replaced)).versions.lookup
        store.versions.nextKey = some version ∧ version.objectId = objectId ∧
      ∀ parentId ∈ version.parentVersionIds, ∃ parent, store.versions.lookup parentId = some parent ∧
        parent.objectId = objectId := by
  obtain ⟨-, -, prepared, -⟩ := enabled
  obtain ⟨-, -, parents⟩ := prepareExistingObjectWrite_eq_ok_iff.mp prepared
  exact ⟨_, lookup_added rfl, rfl, parents⟩

theorem Linked.apply (linked : store.Linked) (keyed : store.Keyed) (enabled : store.Enabled change) :
    (store.apply change).Linked where
  promotedParents transactionId transaction stored move listed := by
    obtain before | none | ⟨write, context, now, objectId, pointerId, replaced, rfl, moves⟩ := transaction_origin stored
    · obtain ⟨version, found, parents⟩ := linked.promotedParents transactionId transaction before move listed
      obtain ⟨-, sameObject, sameParents, -⟩ := restated_alike change move.newVersionId version
      refine ⟨_, version_kept change found, ?_⟩
      intro parentId isParent
      rw [sameParents] at isParent
      obtain ⟨parent, held, owner⟩ := parents parentId isParent
      exact ⟨_, version_kept change held, by rw [(restated_alike change parentId parent).2.1, owner, sameObject]⟩
    · rw [none] at listed
      cases listed
    · rw [moves] at listed
      obtain rfl := List.mem_singleton.mp listed
      obtain ⟨version, found, owner, parents⟩ := extended_version enabled
      refine ⟨version, found, ?_⟩
      intro parentId isParent
      obtain ⟨parent, held, sameObject⟩ := parents parentId isParent
      exact ⟨_, version_kept _ held, by rw [(restated_alike _ parentId parent).2.1, sameObject, owner]⟩
  pointerTarget pointerId pointer stored := by
    obtain ⟨old, before, moved⟩ | ⟨write, context, now, rfl, rfl, rfl⟩ := pointer_origin keyed stored
    · obtain ⟨version, found, owner⟩ := linked.pointerTarget pointerId old before
      obtain same | ⟨write, context, now, objectId, movedId, replaced, rfl, named, target⟩ |
        ⟨versionId, reason, now, target, rfl, left, moves⟩ := moved.target
      · rw [same, moved.objectId]
        exact ⟨_, version_kept change found, by rw [(restated_alike change _ version).2.1, owner]⟩
      · obtain ⟨fresh, foundFresh, freshOwner, -⟩ := extended_version enabled
        obtain ⟨-, -, -, object, held, objectStored, current, heldAt, -⟩ := enabled
        obtain ⟨held', heldAt', ownerOfHeld⟩ := keyed.current objectId object objectStored
        have isHeld : old = held' := by
          rw [current, ← named, keyed.pointer _ _ before] at heldAt'
          exact Option.some.inj (before.symm.trans heldAt')
        rw [target, moved.objectId, isHeld, ownerOfHeld]
        exact ⟨fresh, foundFresh, freshOwner⟩
      · obtain ⟨isolated, isolatedAt, -, sought, -⟩ := enabled
        obtain ⟨held, heldAt, heldOwner, -⟩ := fallbackTarget_eq_some keyed sought
        rw [left] at found
        obtain rfl := Option.some.inj (found.symm.trans isolatedAt)
        rw [moves, moved.objectId]
        exact ⟨_, version_kept _ heldAt, by rw [(restated_alike _ _ held).2.1, heldOwner, owner]⟩
    · exact ⟨newVersion prims write context now store.objects.nextKey store.versions.nextKey
        store.transactions.nextKey, lookup_added rfl, rfl⟩
  currentPointer := (keyed.apply change).current

theorem linked_new (prims : Primitives) : (new prims).Linked where
  promotedParents _ _ stored := nomatch stored
  pointerTarget _ _ stored := nomatch stored
  currentPointer _ _ stored := nomatch stored

/-- An invariant of the changes of a pass. -/
theorem collected_invariant
    (kept : ∀ store : State prims, store.Keyed → Inv store → ∀ change, Collects change → store.Enabled change →
      Inv (store.apply change))
    (keyed : store.Keyed) (inv : Inv store) (collected : Collected store after) : Inv after := by
  obtain ⟨changes, enabled, collects, rfl⟩ := collected
  induction changes generalizing store with
  | nil => exact inv
  | cons change rest ih =>
    exact ih (keyed.apply change)
      (kept store keyed inv change (collects change List.mem_cons_self) enabled.1) enabled.2
      (fun other listed => collects other (List.mem_cons_of_mem _ listed))

/-- An invariant that every enabled change keeps is kept by a step. -/
theorem effect_invariant
    (kept : ∀ store : State prims, store.Keyed → Inv store → ∀ change, store.Enabled change → Inv (store.apply change))
    (keyed : store.Keyed) (inv : Inv store) {op : FsOp} {after : State prims} (effect : Effect store op after) :
    Inv after := by
  cases effect with
  | unchanged => exact inv
  | change enabled makes => exact kept store keyed inv _ enabled
  | collected pass collected =>
    exact collected_invariant (fun store keyed inv change _ => kept store keyed inv change) keyed inv collected

theorem linked_run (prims : Primitives) (ops : List FsOp) : ((new prims).run ops).Linked := by
  have both : ((new prims).run ops).Keyed ∧ ((new prims).run ops).Linked := by
    refine StepRun.run_invariant (fun store : State prims => store.Keyed ∧ store.Linked) ?_
      ⟨keyed_new prims, linked_new prims⟩ ops
    rintro store op ⟨keyed, linked⟩
    exact ⟨keyed.step op, effect_invariant (fun _ keyed linked _ enabled => linked.apply keyed enabled) keyed linked
      (step_effect keyed op)⟩
  exact both.2

/-- A write whose checks fail changes nothing; one that fails has otherwise been made, and its evidence
has not been emitted. -/
theorem writeObject_error_cases (keyed : store.Keyed) {now : DateTime} {emitFailure : Option String} {failure : FsError}
    (failed : writeObject write context now emitFailure store = .error failure after) :
    (writeLocked write context now store = .error failure store ∧ after = store) ∨
      ∃ text result, emitFailure = some text ∧ failure = .evidenceEmitFailed text ∧
        writeLocked write context now store = .ok result after := by
  rw [writeObject, thenEmit, Stateful.bind_apply] at failed
  obtain ⟨refused, ran⟩ | ⟨change, enabled, makes, result, ran⟩ := writeLocked_cases keyed write context now
  · rw [ran] at failed
    cases failed
    exact .inl ⟨ran, rfl⟩
  · rw [ran] at failed
    cases emitFailure with
    | none => cases failed
    | some text =>
      cases failed
      exact .inr ⟨text, result, rfl, rfl, ran⟩

theorem object_graph_kept (prims : Primitives) (ops : List FsOp) :
    ((new prims).run ops).Linked ∧
      ∀ write context now emitFailure failure after,
        writeObject write context now emitFailure ((new prims).run ops) = .error failure after →
          (writeLocked write context now ((new prims).run ops) = .error failure ((new prims).run ops) ∧
            after = (new prims).run ops) ∨
          ∃ text result, emitFailure = some text ∧ failure = .evidenceEmitFailed text ∧
            writeLocked write context now ((new prims).run ops) = .ok result after :=
  ⟨linked_run prims ops, fun _ _ _ _ _ _ failed => writeObject_error_cases (keyed_run prims ops) failed⟩

end State

/-! ## A first version with a parent, and a write without evidence -/

/-- Ids told apart by their length. -/
def tally (mark : Char) : ℕ ↪ String where
  toFun count := String.ofList (List.replicate (count + 1) mark)
  inj' first second same := by
    have lengths := congrArg (fun text : String => text.toList.length) same
    simpa using lengths

/-- Primitives to run the filesystem on. -/
def tallied : Primitives where
  objectIds := tally 'o'
  versionIds := tally 'v'
  pointerIds := tally 'p'
  transactionIds := tally 't'
  contentHash chunkIds := String.join chunkIds
  snapshotDigest objects pointers versions := String.join (objects ++ pointers ++ versions)

/-- A write of one subject. -/
def writeOf (objectId : Option ObjectId) (parents : List VersionId) (chunks : List ChunkRef) : ObjectWriteRequest :=
  ⟨objectId, parents, chunks, .null, none, "family:alice"⟩

def aliceContext : FsContext := ⟨"family:alice", none, none⟩

namespace State

/-- The object is created with a parent that does not exist; the write that creates it takes effect although
it fails. -/
theorem object_graph_broken :
    (¬∀ (prims : Primitives) (ops : List FsOp) (versionId : VersionId) (version : Version),
      ((new prims).run ops).versions.lookup versionId = some version →
        ∀ parentId ∈ version.parentVersionIds, ∃ parent, ((new prims).run ops).versions.lookup parentId = some parent ∧
          parent.objectId = version.objectId) ∧
    ¬∀ (prims : Primitives) (ops : List FsOp) write context now emitFailure failure after,
      writeObject write context now emitFailure ((new prims).run ops) = .error failure after →
        after = (new prims).run ops := by
  constructor
  · intro linked
    have stored : ((new tallied).run [.write (writeOf none ["ghost"] []) aliceContext 0 none]).versions.lookup "v" =
        some (newVersion tallied (writeOf none ["ghost"] []) aliceContext 0 "o" "v" "t") := rfl
    obtain ⟨parent, found, -⟩ := linked tallied _ "v" _ stored "ghost" (List.mem_singleton_self _)
    have absent : (((new tallied).run [.write (writeOf none ["ghost"] []) aliceContext 0 none]).versions.lookup
        "ghost").isNone = true := by decide +kernel
    rw [found] at absent
    cases absent
  · intro unchanged
    have failed : writeObject (writeOf none [] []) aliceContext 0 (some "sink") (new tallied) =
        .error (.evidenceEmitFailed "sink")
          ((new tallied).created (writeOf none [] []) aliceContext 0).captureSnapshot := rfl
    have same := unchanged tallied [] _ _ _ _ _ _ failed
    have stored : (((new tallied).created (writeOf none [] []) aliceContext 0).captureSnapshot.versions.lookup
      "v").isSome =
      true := by decide +kernel
    rw [same] at stored
    cases stored

end State

end Aios.Fs
