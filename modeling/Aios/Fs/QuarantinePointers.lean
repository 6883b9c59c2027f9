import Aios.Fs.Integrity
import Mathlib.Data.String.Basic

/-! # Live pointers after a quarantine

The fixtures for harnesses set versions and pointers from outside; without them an object has its CURRENT
pointer alone. An entry into quarantine moves the live pointers of the version to the ROLLBACK target, to
another STABLE target or to a verified parent. The first two are not asked for their state.
-/

namespace Aios.Fs

open Aios.Rust

variable {prims : Primitives}

/-! ## The fixtures -/

/-- The assignments of a forced state. -/
def force (state : VersionState) (quarantineReason : Option String) (now : DateTime) (version : Version) : Version :=
  if state = .quarantined then { version with state, quarantinedAt := some now, quarantineReason }
  else { version with state }

namespace State

def forceVersionStateForHarness (versionId : VersionId) (state : VersionState) (quarantineReason : Option String)
    (now : DateTime) : EStateM FsError (State prims) Unit := do
  let store ← get
  match store.versions.lookup versionId with
  | none => throw (.versionNotFound versionId)
  | some _ =>
    modify (·.setVersion versionId (force state quarantineReason now))
    modify captureSnapshot

def forcePointerForHarness (objectId : ObjectId) (kind : PointerKind) (versionId : VersionId) (now : DateTime) :
    EStateM FsError (State prims) PointerId := do
  let store ← get
  if (store.objects.lookup objectId).isNone then throw (.objectNotFound objectId)
  else match store.versions.lookup versionId with
  | none => throw (.versionNotFound versionId)
  | some version =>
    if version.objectId ≠ objectId then throw (.versionNotFound versionId)
    else
      let pointerId := store.pointers.nextKey
      modify fun store => { store with
        pointers := store.pointers.add {
          pointerId
          objectId
          kind
          currentVersionId := versionId
          lastPromotedAt := now
          lastPromotedByTransactionId := store.transactions.nextKey }
        transactions := store.transactions.skip }
      modify captureSnapshot
      pure pointerId

def forceObjectCurrentPointerForHarness (objectId : ObjectId) (pointerId : PointerId) :
    EStateM FsError (State prims) Unit := do
  let store ← get
  match store.pointers.lookup pointerId with
  | none => throw (.pointerNotFound pointerId)
  | some pointer =>
    if pointer.objectId ≠ objectId then throw (.pointerNotFound pointerId)
    else match store.objects.lookup objectId with
    | none => throw (.objectNotFound objectId)
    | some _ =>
      modify fun store => { store with
        objects := store.objects.modify objectId fun object => { object with currentPointerId := pointerId } }
      modify captureSnapshot

end State

/-- A call of the filesystem or of one of its fixtures. -/
inductive HarnessOp where
  | call (op : FsOp)
  | forceVersionState (versionId : VersionId) (state : VersionState) (quarantineReason : Option String)
      (now : DateTime)
  | forcePointer (objectId : ObjectId) (kind : PointerKind) (versionId : VersionId) (now : DateTime)
  | forceObjectCurrentPointer (objectId : ObjectId) (pointerId : PointerId)

namespace State

def stepHarness (store : State prims) : HarnessOp → State prims
  | .call op => store.step op
  | .forceVersionState versionId state quarantineReason now =>
      Stateful.finalState (forceVersionStateForHarness versionId state quarantineReason now store)
  | .forcePointer objectId kind versionId now =>
      Stateful.finalState (forcePointerForHarness objectId kind versionId now store)
  | .forceObjectCurrentPointer objectId pointerId =>
      Stateful.finalState (forceObjectCurrentPointerForHarness objectId pointerId store)

/-- The state after a sequence of calls. -/
def runHarness (store : State prims) (ops : List HarnessOp) : State prims := StepRun.run stepHarness store ops

/-! ## Well-kept catalogs under the fixtures -/

section Fixtures

variable {store : State prims}

/-- The integrity that every run keeps. -/
structure Kept (store : State prims) : Prop where
  keyed : store.Keyed
  linked : store.Linked

theorem force_alike (state : VersionState) (quarantineReason : Option String) (now : DateTime) (version : Version) :
    (force state quarantineReason now version).versionId = version.versionId ∧
      (force state quarantineReason now version).objectId = version.objectId ∧
      (force state quarantineReason now version).parentVersionIds = version.parentVersionIds := by
  rw [force]
  split
  · exact ⟨rfl, rfl, rfl⟩
  · exact ⟨rfl, rfl, rfl⟩

/-- Versions that are rewritten but for their ids, their objects and their parents keep the integrity. -/
theorem Kept.setVersion (kept : store.Kept) {update : Version → Version}
    (alike : ∀ version, (update version).versionId = version.versionId ∧
      (update version).objectId = version.objectId ∧ (update version).parentVersionIds = version.parentVersionIds)
    (versionId : VersionId) : (store.setVersion versionId update).captureSnapshot.Kept := by
  have rewritten {other : VersionId} {version : Version} (stored : store.versions.lookup other = some version) :
      ∃ new, (store.setVersion versionId update).versions.lookup other = some new ∧
        new.versionId = version.versionId ∧ new.objectId = version.objectId ∧
          new.parentVersionIds = version.parentVersionIds := by
    rw [lookup_setVersion]
    split
    · rename_i same
      rw [← same, stored]
      exact ⟨_, rfl, alike version⟩
    · exact ⟨version, stored, rfl, rfl, rfl⟩
  refine ⟨⟨kept.keyed.object, fun other version stored => ?_, kept.keyed.pointer, kept.keyed.current⟩,
    fun transactionId transaction stored move listed => ?_, fun pointerId pointer stored => ?_, kept.keyed.current⟩
  · change (store.setVersion versionId update).versions.lookup other = some version at stored
    rw [lookup_setVersion] at stored
    split at stored
    · rename_i same
      obtain ⟨old, before, rfl⟩ := Option.map_eq_some_iff.mp stored
      rw [(alike old).1, kept.keyed.version versionId old before, same]
    · exact kept.keyed.version other version stored
  · obtain ⟨version, found, parents⟩ := kept.linked.promotedParents transactionId transaction stored move listed
    obtain ⟨new, found', -, owner, sameParents⟩ := rewritten found
    refine ⟨new, found', fun parentId isParent => ?_⟩
    obtain ⟨parent, held, ownerOfParent⟩ := parents parentId (sameParents ▸ isParent)
    obtain ⟨newParent, held', -, ownerOfNew, -⟩ := rewritten held
    exact ⟨newParent, held', by rw [ownerOfNew, ownerOfParent, owner]⟩
  · obtain ⟨version, found, owner⟩ := kept.linked.pointerTarget pointerId pointer stored
    obtain ⟨new, found', -, ownerOfNew, -⟩ := rewritten found
    exact ⟨new, found', ownerOfNew.trans owner⟩

theorem Kept.forceVersionState (kept : store.Kept) (versionId : VersionId) (state : VersionState)
    (quarantineReason : Option String) (now : DateTime) :
    (Stateful.finalState (forceVersionStateForHarness versionId state quarantineReason now store)).Kept := by
  rw [forceVersionStateForHarness, Stateful.get_bind_apply]
  cases store.versions.lookup versionId with
  | none => exact kept
  | some version => exact kept.setVersion (force_alike state quarantineReason now) versionId

theorem Kept.forcePointer (kept : store.Kept) (objectId : ObjectId) (kind : PointerKind) (versionId : VersionId)
    (now : DateTime) : (Stateful.finalState (forcePointerForHarness objectId kind versionId now store)).Kept := by
  rw [forcePointerForHarness, Stateful.get_bind_apply]
  split
  · exact kept
  cases stored : store.versions.lookup versionId with
  | none => exact kept
  | some version =>
    dsimp only
    split
    · exact kept
    · rename_i owned
      have pointer_origin {pointerId : PointerId} {pointer : Pointer} (new : Pointer)
          (found : (store.pointers.add new).lookup pointerId = some pointer) :
          store.pointers.lookup pointerId = some pointer ∨ pointerId = store.pointers.nextKey ∧ pointer = new := by
        rw [Ledger.lookup_add] at found
        split at found
        · rename_i same
          exact .inr ⟨same, (Option.some.inj found).symm⟩
        · exact .inl found
      have current (otherId : ObjectId) (object : Object) (found : store.objects.lookup otherId = some object)
          (new : Pointer) : ∃ pointer, (store.pointers.add new).lookup object.currentPointerId = some pointer ∧
            pointer.objectId = otherId := by
        obtain ⟨pointer, there, owner⟩ := kept.keyed.current otherId object found
        exact ⟨pointer, Ledger.lookup_add_of_stored there new, owner⟩
      refine ⟨⟨kept.keyed.object, kept.keyed.version, fun pointerId pointer found => ?_,
        fun otherId object found => current otherId object found _⟩, kept.linked.promotedParents,
        fun pointerId pointer found => ?_, fun otherId object found => current otherId object found _⟩
      · obtain before | ⟨rfl, rfl⟩ := pointer_origin _ found
        · exact kept.keyed.pointer pointerId pointer before
        · rfl
      · obtain before | ⟨rfl, rfl⟩ := pointer_origin _ found
        · exact kept.linked.pointerTarget pointerId pointer before
        · exact ⟨version, stored, not_not.mp owned⟩

theorem Kept.forceObjectCurrentPointer (kept : store.Kept) (objectId : ObjectId) (pointerId : PointerId) :
    (Stateful.finalState (forceObjectCurrentPointerForHarness objectId pointerId store)).Kept := by
  rw [forceObjectCurrentPointerForHarness, Stateful.get_bind_apply]
  cases found : store.pointers.lookup pointerId with
  | none => exact kept
  | some pointer =>
    dsimp only
    split
    · exact kept
    · rename_i owned
      cases held : store.objects.lookup objectId with
      | none => exact kept
      | some target =>
        have object_origin {otherId : ObjectId} {object : Object}
            (stored : (store.objects.modify objectId fun object =>
              { object with currentPointerId := pointerId }).lookup otherId = some object) :
            store.objects.lookup otherId = some object ∨
              otherId = objectId ∧ object = { target with currentPointerId := pointerId } := by
          rw [Ledger.lookup_modify] at stored
          split at stored
          · rename_i same
            rw [held] at stored
            exact .inr ⟨same, (Option.some.inj stored).symm⟩
          · exact .inl stored
        have current (otherId : ObjectId) (object : Object)
            (stored : (store.objects.modify objectId fun object =>
              { object with currentPointerId := pointerId }).lookup otherId = some object) :
            ∃ pointer, store.pointers.lookup object.currentPointerId = some pointer ∧ pointer.objectId = otherId := by
          obtain before | ⟨rfl, rfl⟩ := object_origin stored
          · exact kept.keyed.current otherId object before
          · exact ⟨pointer, found, not_not.mp owned⟩
        refine ⟨⟨fun otherId object stored => ?_, kept.keyed.version, kept.keyed.pointer, current⟩,
          kept.linked.promotedParents, kept.linked.pointerTarget, current⟩
        obtain before | ⟨rfl, rfl⟩ := object_origin stored
        · exact kept.keyed.object otherId object before
        · exact kept.keyed.object otherId target held

theorem Kept.stepHarness (kept : store.Kept) (op : HarnessOp) : (store.stepHarness op).Kept := by
  cases op with
  | call op =>
    exact ⟨kept.keyed.step op, effect_invariant (fun _ keyed linked _ enabled => linked.apply keyed enabled)
      kept.keyed kept.linked (step_effect kept.keyed op)⟩
  | forceVersionState versionId state quarantineReason now =>
    exact kept.forceVersionState versionId state quarantineReason now
  | forcePointer objectId kind versionId now => exact kept.forcePointer objectId kind versionId now
  | forceObjectCurrentPointer objectId pointerId => exact kept.forceObjectCurrentPointer objectId pointerId

end Fixtures

theorem kept_runHarness (prims : Primitives) (ops : List HarnessOp) : ((new prims).runHarness ops).Kept :=
  StepRun.run_invariant Kept (fun _ op kept => kept.stepHarness op) ⟨keyed_new prims, linked_new prims⟩ ops

/-! ## What an entry falls back to -/

section Fallback

variable {store : State prims} {version : Version} {kind : PointerKind} {target : VersionId}

/-- A pointer of a kind of the version's object that is on another version. -/
structure Elsewhere (store : State prims) (version : Version) (kind : PointerKind) (pointer : Pointer) : Prop where
  stored : store.pointers.lookup pointer.pointerId = some pointer
  owner : pointer.objectId = version.objectId
  ofKind : pointer.kind = kind
  apart : pointer.currentVersionId ≠ version.versionId

/-- The first of these pointers in the order of the ids. -/
structure First (store : State prims) (version : Version) (kind : PointerKind) (pointer : Pointer) : Prop where
  elsewhere : store.Elsewhere version kind pointer
  least : ∀ other, store.Elsewhere version kind other → pointer.pointerId ≤ other.pointerId

/-- A stored version of the same object, verified or not. -/
def ParentIn (store : State prims) (version : Version) (verified : Prop) (parentId : VersionId) : Prop :=
  ∃ parent, store.versions.lookup parentId = some parent ∧ parent.objectId = version.objectId ∧
    (parent.state = .verified ↔ verified)

/-- What the live pointers of a version fall back to: the target of the first ROLLBACK pointer elsewhere; without
one, that of the first STABLE pointer elsewhere; without either, the first verified parent, where every parent
before it is a stored version of the object. -/
inductive Offers (store : State prims) (version : Version) : VersionId → Prop
  | rollback {pointer : Pointer} (first : store.First version .rollback pointer) :
    Offers store version pointer.currentVersionId
  | stable {pointer : Pointer} (noRollback : ∀ other, ¬store.Elsewhere version .rollback other)
    (first : store.First version .stable pointer) : Offers store version pointer.currentVersionId
  | parent {parentId : VersionId} {before after : List VersionId}
    (noRollback : ∀ other, ¬store.Elsewhere version .rollback other)
    (noStable : ∀ other, ¬store.Elsewhere version .stable other)
    (split : version.parentVersionIds = before ++ parentId :: after)
    (unverified : ∀ earlier ∈ before, store.ParentIn version False earlier)
    (verified : store.ParentIn version True parentId) : Offers store version parentId

theorem insertionSort_first {pointers : List Pointer} {first : Pointer} {rest : List Pointer}
    (sorted : pointers.insertionSort (fun left right => left.pointerId ≤ right.pointerId) = first :: rest) :
    first ∈ pointers ∧ ∀ other ∈ pointers, first.pointerId ≤ other.pointerId := by
  let byId : Pointer → Pointer → Prop := fun left right => left.pointerId ≤ right.pointerId
  have : Std.Total byId := ⟨fun left right => le_total left.pointerId right.pointerId⟩
  have : IsTrans Pointer byId := ⟨fun _ _ _ first second => le_trans first second⟩
  have listed (other : Pointer) : other ∈ pointers ↔ other ∈ first :: rest := by
    rw [← sorted, List.mem_insertionSort]
  have ordered := List.pairwise_insertionSort byId pointers
  rw [show pointers.insertionSort byId = first :: rest from sorted, List.pairwise_cons] at ordered
  refine ⟨(listed first).mpr List.mem_cons_self, fun other member => ?_⟩
  obtain rfl | later := List.mem_cons.mp ((listed other).mp member)
  · exact le_rfl
  · exact ordered.1 other later

theorem pointerTargetForKind_cases (kept : store.Kept) (version : Version) (kind : PointerKind) :
    (∃ pointer, store.First version kind pointer ∧
      store.pointerTargetForKind version.objectId kind version.versionId = .ok (some pointer.currentVersionId)) ∨
    (∀ pointer, ¬store.Elsewhere version kind pointer) ∧
      store.pointerTargetForKind version.objectId kind version.versionId = .ok none := by
  have listed (pointer : Pointer) : pointer ∈ (store.pointers.records.values.filter fun pointer =>
      pointer.objectId = version.objectId ∧ pointer.kind = kind ∧ pointer.currentVersionId ≠ version.versionId) ↔
      store.Elsewhere version kind pointer := by
    rw [List.mem_filter, Table.mem_values_iff, decide_eq_true_eq]
    constructor
    · rintro ⟨⟨pointerId, stored⟩, owner, ofKind, apart⟩
      exact ⟨by rwa [kept.keyed.pointer pointerId pointer stored], owner, ofKind, apart⟩
    · rintro ⟨stored, owner, ofKind, apart⟩
      exact ⟨⟨_, stored⟩, owner, ofKind, apart⟩
  unfold pointerTargetForKind
  dsimp only
  split
  · rename_i pointer rest sorted
    obtain ⟨member, least⟩ := insertionSort_first sorted
    have elsewhere := (listed pointer).mp member
    refine .inl ⟨pointer, ⟨elsewhere, fun other there => least other ((listed other).mpr there)⟩, ?_⟩
    obtain ⟨held, stored, owner⟩ := kept.linked.pointerTarget _ pointer elsewhere.stored
    rw [versionForObject_eq_ok_iff.mpr ⟨stored, owner.trans elsewhere.owner⟩, ← kept.keyed.version _ held stored]
    rfl
  · rename_i sorted
    refine .inr ⟨fun pointer there => ?_, rfl⟩
    have member := (listed pointer).mpr there
    rw [← List.mem_insertionSort (fun left right : Pointer => left.pointerId ≤ right.pointerId), sorted] at member
    cases member

theorem priorVerifiedParent_eq_some_iff (keyed : store.Keyed) (parents : List VersionId) :
    store.priorVerifiedParent version parents = .ok (some target) ↔
      ∃ before after, parents = before ++ target :: after ∧
        (∀ earlier ∈ before, store.ParentIn version False earlier) ∧ store.ParentIn version True target := by
  induction parents with
  | nil =>
    refine ⟨fun found => absurd (Except.ok.inj found) (Option.some_ne_none target).symm, ?_⟩
    rintro ⟨before, after, split, -⟩
    exact absurd split.symm (List.append_ne_nil_of_right_ne_nil _ (List.cons_ne_nil _ _))
  | cons first rest ih =>
    rw [priorVerifiedParent, Fallible.bind_eq_ok_iff]
    constructor
    · rintro ⟨parent, owned, found⟩
      obtain ⟨held, owner⟩ := versionForObject_eq_ok_iff.mp owned
      split at found
      · rename_i verified
        obtain rfl : parent.versionId = target := Option.some.inj (Except.ok.inj found)
        rw [keyed.version _ _ held]
        exact ⟨[], rest, rfl, List.forall_mem_nil _, parent, held, owner, iff_true_intro verified⟩
      · rename_i unverified
        obtain ⟨before, after, rfl, earlier, last⟩ := ih.mp found
        refine ⟨first :: before, after, rfl, List.forall_mem_cons.mpr ⟨?_, earlier⟩, last⟩
        exact ⟨parent, held, owner, iff_false_intro unverified⟩
    · rintro ⟨before, after, split, earlier, last⟩
      cases before with
      | nil =>
        obtain ⟨rfl, rfl⟩ := List.cons.inj split
        obtain ⟨parent, held, owner, verified⟩ := last
        refine ⟨parent, versionForObject_eq_ok_iff.mpr ⟨held, owner⟩, ?_⟩
        rw [if_pos (verified.mpr trivial), keyed.version _ _ held]
      | cons other before =>
        obtain ⟨rfl, rfl⟩ := List.cons.inj split
        obtain ⟨parent, held, owner, unverified⟩ := earlier _ List.mem_cons_self
        refine ⟨parent, versionForObject_eq_ok_iff.mpr ⟨held, owner⟩, ?_⟩
        rw [if_neg unverified.mp]
        exact ih.mpr ⟨before, after, rfl, fun id member => earlier id (List.mem_cons_of_mem _ member), last⟩

theorem quarantinePointerFallback_eq_some_iff (kept : store.Kept) :
    store.quarantinePointerFallback version = .ok (some target) ↔ store.Offers version target := by
  rw [quarantinePointerFallback]
  obtain ⟨rollback, first, found⟩ | ⟨noRollback, found⟩ := pointerTargetForKind_cases kept version .rollback
  · rw [found]
    constructor
    · intro same
      obtain rfl : rollback.currentVersionId = target := Option.some.inj (Except.ok.inj same)
      exact .rollback first
    · intro offered
      cases offered with
      | @rollback pointer other =>
        have least := le_antisymm (first.least pointer other.elsewhere) (other.least rollback first.elsewhere)
        have same := first.elsewhere.stored
        rw [least, other.elsewhere.stored] at same
        rw [Option.some.inj same]
        rfl
      | stable noRollback _ => exact absurd first.elsewhere (noRollback rollback)
      | parent noRollback _ _ _ _ => exact absurd first.elsewhere (noRollback rollback)
  rw [found]
  obtain ⟨stable, first, found'⟩ | ⟨noStable, found'⟩ := pointerTargetForKind_cases kept version .stable
  · change (store.pointerTargetForKind version.objectId .stable version.versionId >>= _) = _ ↔ _
    rw [found']
    constructor
    · intro same
      obtain rfl : stable.currentVersionId = target := Option.some.inj (Except.ok.inj same)
      exact .stable noRollback first
    · intro offered
      cases offered with
      | rollback other => exact absurd other.elsewhere (noRollback _)
      | @stable pointer _ other =>
        have least := le_antisymm (first.least pointer other.elsewhere) (other.least stable first.elsewhere)
        have same := first.elsewhere.stored
        rw [least, other.elsewhere.stored] at same
        rw [Option.some.inj same]
        rfl
      | parent _ noStable _ _ _ => exact absurd first.elsewhere (noStable stable)
  · change (store.pointerTargetForKind version.objectId .stable version.versionId >>= _) = _ ↔ _
    rw [found']
    refine (priorVerifiedParent_eq_some_iff kept.keyed version.parentVersionIds).trans ⟨?_, ?_⟩
    · rintro ⟨before, after, split, unverified, verified⟩
      exact .parent noRollback noStable split unverified verified
    · intro offered
      cases offered with
      | rollback other => exact absurd other.elsewhere (noRollback _)
      | stable _ other => exact absurd other.elsewhere (noStable _)
      | parent _ _ split unverified verified => exact ⟨_, _, split, unverified, verified⟩

end Fallback

section

variable (store : State prims) (versionId : VersionId)

/-! ## The live pointers of an object -/

/-- The version is quarantined or retired. -/
def Bad : Prop :=
  ∃ version, store.versions.lookup versionId = some version ∧
    (version.state = .quarantined ∨ version.state = .retiredVersion)

/-- A CURRENT or STABLE pointer of the object on the version. -/
def LiveOn (objectId : ObjectId) (versionId : VersionId) : Prop :=
  ∃ pointerId pointer, store.pointers.lookup pointerId = some pointer ∧ pointer.objectId = objectId ∧
    (pointer.kind = .current ∨ pointer.kind = .stable) ∧ pointer.currentVersionId = versionId

/-- After a successful entry no live pointer of the object is on a bad version; a failing one changes nothing. -/
def EntryIsolates (trigger : QuarantineTrigger) (reason : String) (now : DateTime) (quarantineId : String) : Prop :=
  match applyQuarantineEntry versionId trigger reason now quarantineId store with
  | .ok _ after => ∀ version, after.versions.lookup versionId = some version →
      ∀ target, after.LiveOn version.objectId target → ¬after.Bad target
  | .error _ after => after = store

/-- An entry is refused: the version is unknown or quarantined already, or a live pointer is on it and nothing is
there to fall back to. -/
def Refuses : Prop :=
  ∀ version, store.versions.lookup versionId = some version → version.state = .quarantined ∨
    store.LiveOn version.objectId versionId ∧ ∀ target, ¬store.Offers version target

/-- The live pointers of the object that are on other versions are on good ones, and if a live pointer is on the
version itself, it falls back to another good one. -/
def FallsOnGood : Prop :=
  ∀ version, store.versions.lookup versionId = some version →
    (∀ other, other ≠ versionId → store.LiveOn version.objectId other → ¬store.Bad other) ∧
    (store.LiveOn version.objectId versionId →
      ∀ target, store.Offers version target → target ≠ versionId ∧ ¬store.Bad target)

end

section Entry

variable {store : State prims} {versionId : VersionId} {version : Version} {reason : String} {now : DateTime}

theorem liveOn_iff (kept : store.Kept) (stored : store.versions.lookup versionId = some version) :
    store.LiveOn version.objectId versionId ↔ store.currentOrStablePointersTo versionId ≠ [] := by
  have affected_iff := mem_currentOrStablePointersTo_iff kept.keyed versionId
  constructor
  · rintro ⟨pointerId, pointer, found, -, live, on⟩
    exact List.ne_nil_of_mem ((affected_iff pointerId).mpr ⟨pointer, found, live, on⟩)
  · intro affected
    obtain ⟨pointerId, member⟩ := List.exists_mem_of_ne_nil _ affected
    obtain ⟨pointer, found, live, rfl⟩ := (affected_iff pointerId).mp member
    obtain ⟨held, heldAt, owner⟩ := kept.linked.pointerTarget pointerId pointer found
    obtain rfl := Option.some.inj (stored.symm.trans heldAt)
    exact ⟨pointerId, pointer, found, owner.symm, live, rfl⟩

theorem fallbackTarget_eq_some_iff (kept : store.Kept) (stored : store.versions.lookup versionId = some version)
    {target : VersionId} :
    store.fallbackTarget version (store.currentOrStablePointersTo versionId) = .ok (some target) ↔
      store.LiveOn version.objectId versionId ∧ store.Offers version target := by
  rw [fallbackTarget, liveOn_iff kept stored, ← quarantinePointerFallback_eq_some_iff kept]
  split
  · rename_i empty
    exact ⟨nofun, fun both => absurd (List.isEmpty_iff.mp empty) both.1⟩
  · rename_i affected
    exact ⟨fun found => ⟨mt List.isEmpty_iff.mpr affected, found⟩, And.right⟩

/-- An entry is refused where the checks before its change fail. -/
theorem refuses_iff (kept : store.Kept) :
    store.Refuses versionId ↔ ∀ fallback, ¬store.Enabled (.entered versionId reason now fallback) := by
  constructor
  · rintro refuses fallback ⟨version, stored, entering, sought, unaffected⟩
    obtain already | ⟨live, nothing⟩ := refuses version stored
    · exact entering already
    · cases fallback with
      | none => exact (liveOn_iff kept stored).mp live (unaffected rfl)
      | some target => exact nothing target ((fallbackTarget_eq_some_iff kept stored).mp sought).2
  · intro disabled version stored
    by_contra accepts
    obtain ⟨entering, falls⟩ := not_or.mp accepts
    by_cases live : store.LiveOn version.objectId versionId
    · obtain ⟨target, offered⟩ : ∃ target, store.Offers version target := by
        by_contra nothing
        exact falls ⟨live, not_exists.mp nothing⟩
      have sought := (fallbackTarget_eq_some_iff kept stored).mpr ⟨live, offered⟩
      exact disabled (some target) ⟨version, stored, entering, sought, nofun⟩
    · have unaffected : store.currentOrStablePointersTo versionId = [] :=
        not_not.mp (mt (liveOn_iff kept stored).mpr live)
      refine disabled none ⟨version, stored, entering, ?_, fun _ => unaffected⟩
      rw [fallbackTarget, unaffected]
      rfl

theorem bad_entered_iff (stored : store.versions.lookup versionId = some version) (fallback : Option VersionId)
    (other : VersionId) :
    (store.entered versionId reason now fallback).captureSnapshot.Bad other ↔ other = versionId ∨ store.Bad other := by
  change (∃ version, (store.entered versionId reason now fallback).versions.lookup other = some version ∧ _) ↔ _
  rw [versions_entered]
  change (∃ version, (store.setVersion versionId (isolate reason now)).versions.lookup other = some version ∧ _) ↔ _
  rw [lookup_setVersion]
  split
  · rename_i same
    rw [stored]
    exact ⟨fun _ => .inl same, fun _ => ⟨_, rfl, .inl rfl⟩⟩
  · rename_i apart
    exact ⟨.inr, fun either => either.resolve_left apart⟩

/-- The live pointers after an entry: those elsewhere stay, those on the version are on the target. -/
theorem liveOn_entered_iff (kept : store.Kept) {fallback : Option VersionId}
    (enabled : store.Enabled (.entered versionId reason now fallback)) (objectId : ObjectId) (other : VersionId) :
    (store.entered versionId reason now fallback).captureSnapshot.LiveOn objectId other ↔
      other ≠ versionId ∧ store.LiveOn objectId other ∨
        fallback = some other ∧ store.LiveOn objectId versionId := by
  obtain ⟨version, stored, -, sought, unaffected⟩ := enabled
  have affected_iff := mem_currentOrStablePointersTo_iff kept.keyed versionId
  have pointers (pointerId : PointerId) :
      (store.entered versionId reason now fallback).captureSnapshot.pointers.lookup pointerId =
        match fallback with
        | some target => if pointerId ∈ store.currentOrStablePointersTo versionId then
            (store.pointers.lookup pointerId).map (·.moveTo target store.transactions.nextKey now)
          else store.pointers.lookup pointerId
        | none => store.pointers.lookup pointerId := by
    cases fallback with
    | none => rfl
    | some target => exact lookup_movePointers target _ now _ pointerId
  constructor
  · rintro ⟨pointerId, pointer, found, owner, live, rfl⟩
    rw [pointers] at found
    have stays (before : store.pointers.lookup pointerId = some pointer)
        (apart : pointerId ∉ store.currentOrStablePointersTo versionId) :
        pointer.currentVersionId ≠ versionId ∧ store.LiveOn objectId pointer.currentVersionId :=
      ⟨fun on => apart ((affected_iff pointerId).mpr ⟨pointer, before, live, on⟩),
        pointerId, pointer, before, owner, live, rfl⟩
    cases fallback with
    | none => exact .inl (stays found (unaffected rfl ▸ List.not_mem_nil))
    | some target =>
      dsimp only at found
      split at found
      · rename_i affected
        obtain ⟨old, before, rfl⟩ := Option.map_eq_some_iff.mp found
        obtain ⟨same, before', -, on⟩ := (affected_iff pointerId).mp affected
        obtain rfl := Option.some.inj (before.symm.trans before')
        exact .inr ⟨rfl, pointerId, old, before, owner, live, on⟩
      · rename_i apart
        exact .inl (stays found apart)
  · rintro (⟨apart, pointerId, pointer, before, owner, live, rfl⟩ | ⟨rfl, pointerId, pointer, before, owner, live, on⟩)
    · refine ⟨pointerId, pointer, ?_, owner, live, rfl⟩
      rw [pointers]
      have unmoved : pointerId ∉ store.currentOrStablePointersTo versionId := by
        intro affected
        obtain ⟨same, before', -, on⟩ := (affected_iff pointerId).mp affected
        obtain rfl := Option.some.inj (before.symm.trans before')
        exact apart on
      cases fallback with
      | none => exact before
      | some target =>
        dsimp only
        rw [if_neg unmoved]
        exact before
    · refine ⟨pointerId, pointer.moveTo other store.transactions.nextKey now, ?_, owner, live, rfl⟩
      rw [pointers]
      dsimp only
      rw [if_pos ((affected_iff pointerId).mpr ⟨pointer, before, live, on⟩), before, Option.map_some]

/-- The live pointers after an entry that is made. -/
theorem entered_isolates_iff (kept : store.Kept) {fallback : Option VersionId}
    (enabled : store.Enabled (.entered versionId reason now fallback)) :
    (∀ version, (store.entered versionId reason now fallback).captureSnapshot.versions.lookup versionId = some version →
      ∀ target, (store.entered versionId reason now fallback).captureSnapshot.LiveOn version.objectId target →
        ¬(store.entered versionId reason now fallback).captureSnapshot.Bad target) ↔ store.FallsOnGood versionId := by
  obtain ⟨version, stored, entering, sought, unaffected⟩ := id enabled
  have after : (store.entered versionId reason now fallback).captureSnapshot.versions.lookup versionId =
      some (isolate reason now version) := by
    change (store.entered versionId reason now fallback).versions.lookup versionId = _
    rw [versions_entered]
    change (store.setVersion versionId (isolate reason now)).versions.lookup versionId = _
    rw [lookup_setVersion, if_pos rfl, stored, Option.map_some]
  have offers {target : VersionId} : fallback = some target ∧ store.LiveOn version.objectId versionId ↔
      store.LiveOn version.objectId versionId ∧ store.Offers version target := by
    rw [← fallbackTarget_eq_some_iff kept stored, sought]
    constructor
    · rintro ⟨rfl, -⟩
      rfl
    · intro same
      obtain rfl := Except.ok.inj same
      exact ⟨rfl, ((fallbackTarget_eq_some_iff kept stored).mp sought).1⟩
  constructor
  · intro isolates version' stored'
    obtain rfl := Option.some.inj (stored.symm.trans stored')
    have good (target : VersionId) := isolates _ after target
    simp only [liveOn_entered_iff kept enabled, bad_entered_iff stored, not_or] at good
    exact ⟨fun other apart live => (good other (.inl ⟨apart, live⟩)).2,
      fun live target offered => good target (.inr (offers.mpr ⟨live, offered⟩))⟩
  · intro falls version' stored' target live bad
    obtain rfl := Option.some.inj (after.symm.trans stored')
    obtain ⟨elsewhere, falls⟩ := falls version stored
    rw [bad_entered_iff stored] at bad
    obtain ⟨apart, live⟩ | fellBack := (liveOn_entered_iff kept enabled _ target).mp live
    · exact bad.elim apart (elsewhere target apart live)
    · obtain ⟨live, offered⟩ := offers.mp fellBack
      obtain ⟨apart, good⟩ := falls live target offered
      exact bad.elim apart good

end Entry

/-- An entry leaves no live pointer of the object on a bad version, and changes nothing if it fails, exactly where
it is refused or where what it falls back to and the other live pointers are good already. -/
theorem entry_isolates_iff (prims : Primitives) (ops : List HarnessOp) (versionId : VersionId)
    (trigger : QuarantineTrigger) (reason : String) (now : DateTime) (quarantineId : String) :
    ((new prims).runHarness ops).EntryIsolates versionId trigger reason now quarantineId ↔
      ((new prims).runHarness ops).Refuses versionId ∨ ((new prims).runHarness ops).FallsOnGood versionId := by
  have kept := kept_runHarness prims ops
  rw [EntryIsolates, @refuses_iff _ _ _ reason now kept]
  obtain ⟨failure, ran, disabled⟩ | ⟨fallback, enabled, result, ran⟩ :=
    applyQuarantineEntry_cases kept.keyed versionId trigger reason now quarantineId
  · rw [ran]
    exact ⟨fun _ => .inl disabled, fun _ => rfl⟩
  · rw [ran]
    refine (entered_isolates_iff kept enabled).trans ⟨.inr, fun either => ?_⟩
    exact either.resolve_left fun disabled => disabled fallback enabled

/-- Two versions, of which the first is quarantined and then named by a ROLLBACK pointer. -/
def rolledBack : List HarnessOp :=
  [.call (.write (writeOf none [] ["c"]) aliceContext 0 none),
    .call (.write (writeOf (some "o") ["v"] ["d"]) aliceContext 1 none),
    .call (.quarantineEnter "v" .integrityFailure "bad" 2 "q" none),
    .forcePointer "o" .rollback "v" 3]

/-- Two versions, of which the second is purged while the CURRENT pointer is on it. -/
def purgedCurrent : List HarnessOp :=
  [.call (.write (writeOf none [] ["c"]) aliceContext 0 none),
    .call (.write (writeOf (some "o") ["v"] ["d"]) aliceContext 1 none),
    .call (.purgeVersion "vv" .operatorRequested)]

/-- An entry moves the CURRENT pointer to the quarantined ROLLBACK target; another, without any fixture, leaves it
on a retired version. -/
theorem entry_leaves_bad_pointer :
    (¬((new tallied).runHarness rolledBack).EntryIsolates "vv" .operatorManual "bad" 4 "qq") ∧
      ¬((new tallied).runHarness purgedCurrent).EntryIsolates "v" .operatorManual "bad" 4 "qq" := by
  constructor
  · intro isolates
    have live : (Stateful.finalState (applyQuarantineEntry "vv" .operatorManual "bad" 4 "qq"
        ((new tallied).runHarness rolledBack))).LiveOn "o" "v" := ⟨"p", _, rfl, rfl, .inl rfl, rfl⟩
    have bad : (Stateful.finalState (applyQuarantineEntry "vv" .operatorManual "bad" 4 "qq"
        ((new tallied).runHarness rolledBack))).Bad "v" := ⟨_, rfl, .inl rfl⟩
    exact isolates _ rfl "v" live bad
  · intro isolates
    have live : (Stateful.finalState (applyQuarantineEntry "v" .operatorManual "bad" 4 "qq"
        ((new tallied).runHarness purgedCurrent))).LiveOn "o" "vv" := ⟨"p", _, rfl, rfl, .inl rfl, rfl⟩
    have bad : (Stateful.finalState (applyQuarantineEntry "v" .operatorManual "bad" 4 "qq"
        ((new tallied).runHarness purgedCurrent))).Bad "vv" := ⟨_, rfl, .inr rfl⟩
    exact isolates _ rfl "vv" live bad

end State

end Aios.Fs
