import Aios.Fs.ChunkCounts
import Aios.Fs.PurgeFinality

/-! # Reads of existing objects

A garbage-collection pass takes the lock once for every version it purges and every chunk it reclaims,
so the calls of clients and other passes come between its sections. Through all of them the CURRENT
pointer of an object leads to a verified version whose chunks are stored, as long as no version that is
purged, or that a pass has listed for purging, is entered into quarantine.
-/

namespace Aios.Fs

open Aios.Rust

variable {prims : Primitives}

/-- A pass under way, with what it has listed and not yet visited. -/
inductive GcPass where
  | purging (driver : GcPassDriver) (versionIds : List VersionId)
  | reclaiming (chunkIds : List ChunkId)
  | ended
deriving DecidableEq, Repr

namespace GcPass

/-- The versions that the pass is going to purge. -/
def listed : GcPass → List VersionId
  | .purging _ versionIds => versionIds
  | _ => []

/-- A round of a loop, and the pass with the rest of it; an error ends the pass. -/
def visit (round : EStateM FsError (State prims) (List GcReason)) (rest : GcPass) (store : State prims) :
    State prims × GcPass :=
  match round store with
  | .ok _ after => (after, rest)
  | .error _ after => (after, .ended)

/-- The next section of a pass. -/
def next (store : State prims) : GcPass → State prims × GcPass
  | .purging driver (versionId :: rest) => visit (State.purgeListed versionId) (.purging driver rest) store
  | .purging driver [] => (store, .reclaiming (store.zeroRefChunkIdsForGc driver.maxChunksPerPass))
  | .reclaiming (chunkId :: rest) => visit (State.reclaimListed chunkId) (.reclaiming rest) store
  | .reclaiming [] => (store, .ended)
  | .ended => (store, .ended)

end GcPass

/-- A section under the lock: a call that is one section, or a section of a pass. -/
inductive Section where
  | call (op : FsOp)
  | startPass (driver : GcPassDriver)
  | continuePass (index : ℕ)

/-- The calls besides the passes: writes, and what the `QuarantineDriver` does. -/
def FsOp.OfClient : FsOp → Prop
  | .write .. => True
  | .quarantineEnter .. => True
  | .quarantineExit .. => True
  | _ => False

/-- The catalogs, and the passes in the order in which they started. -/
structure Interleaving (prims : Primitives) where
  store : State prims
  passes : List GcPass

namespace Interleaving

def new (prims : Primitives) : Interleaving prims := ⟨.new prims, []⟩

def step (state : Interleaving prims) : Section → Interleaving prims
  | .call op => { state with store := state.store.step op }
  | .startPass driver =>
      { state with passes := state.passes ++
        [.purging driver (state.store.retiredVersionIdsForGc driver.maxVersionsPerPass)] }
  | .continuePass index =>
    match state.passes[index]? with
    | none => state
    | some pass => ⟨(pass.next state.store).1, state.passes.set index (pass.next state.store).2⟩

def run (state : Interleaving prims) (sections : List Section) : Interleaving prims := StepRun.run step state sections

/-! ## A pass on its own -/

/-- The sections of one loop of a pass that nothing comes between. -/
theorem run_loop {α : Type} {round : α → EStateM FsError (State prims) (List GcReason)} {pass : List α → GcPass}
    (visits : ∀ item rest (store : State prims), (pass (item :: rest)).next store =
      GcPass.visit (round item) (pass rest) store) (items : List α) (store : State prims) :
    ∃ count, run ⟨store, [pass items]⟩ (List.replicate count (.continuePass 0)) =
      match State.collect round items store with
      | .ok _ after => ⟨after, [pass []]⟩
      | .error _ after => ⟨after, [.ended]⟩ := by
  induction items generalizing store with
  | nil => exact ⟨0, rfl⟩
  | cons item rest ih =>
    have first : step ⟨store, [pass (item :: rest)]⟩ (.continuePass 0) =
        ⟨(GcPass.visit (round item) (pass rest) store).1, [(GcPass.visit (round item) (pass rest) store).2]⟩ := by
      rw [← visits]
      rfl
    rw [State.collect, Stateful.bind_apply]
    unfold GcPass.visit at first
    cases ran : round item store with
    | error failure after =>
      rw [ran] at first
      exact ⟨1, first⟩
    | ok reasons after =>
      rw [ran] at first
      obtain ⟨count, others⟩ := ih after
      refine ⟨count + 1, ?_⟩
      rw [List.replicate_succ, run, StepRun.run_cons, first]
      dsimp only
      rw [Stateful.bind_apply]
      cases ran' : State.collect round rest after with
      | error failure final =>
        rw [ran'] at others
        exact others
      | ok more final =>
        rw [ran'] at others
        exact others

theorem run_replicate_add (state : Interleaving prims) (input : Section) (first second : ℕ) :
    state.run (List.replicate (first + second) input) =
      (state.run (List.replicate first input)).run (List.replicate second input) := by
  rw [List.replicate_add, run, StepRun.run_append]
  rfl

/-- A pass whose sections follow one another is the whole pass. -/
theorem sections_eq_runPass (driver : GcPassDriver) (passId : String) (startedAt completedAt : DateTime)
    (emitFailure : Option String) (store : State prims) :
    ∃ count, run ⟨store, []⟩ (.startPass driver :: List.replicate count (.continuePass 0)) =
      ⟨store.step (.gcPass driver passId startedAt completedAt emitFailure), [.ended]⟩ := by
  obtain ⟨purges, purged⟩ := @run_loop prims _ State.purgeListed (.purging driver) (fun _ _ _ => rfl)
    (store.retiredVersionIdsForGc driver.maxVersionsPerPass) store
  rw [State.step, GcPassDriver.runPass, State.finalState_thenEmit, Stateful.get_bind_apply, Stateful.bind_apply]
  cases ran : State.collect State.purgeListed (store.retiredVersionIdsForGc driver.maxVersionsPerPass) store with
  | error failure after =>
    rw [ran] at purged
    exact ⟨purges, purged⟩
  | ok reasons after =>
    rw [ran] at purged
    obtain ⟨reclaims, reclaimed⟩ := @run_loop prims _ State.reclaimListed .reclaiming (fun _ _ _ => rfl)
      (after.zeroRefChunkIdsForGc driver.maxChunksPerPass) after
    have started (count : ℕ) : run ⟨store, []⟩
      (.startPass driver :: List.replicate (purges + (1 + count)) (.continuePass 0)) =
        run ⟨after, [.reclaiming (after.zeroRefChunkIdsForGc driver.maxChunksPerPass)]⟩
          (List.replicate count (.continuePass 0)) := by
      change run ⟨store, [.purging driver _]⟩ (List.replicate (purges + (1 + count)) (.continuePass 0)) = _
      rw [run_replicate_add, purged, run_replicate_add]
      rfl
    dsimp only
    rw [Stateful.get_bind_apply, Stateful.bind_apply]
    cases ran' : State.collect State.reclaimListed (after.zeroRefChunkIdsForGc driver.maxChunksPerPass) after with
    | error failure final =>
      rw [ran'] at reclaimed
      exact ⟨_, (started reclaims).trans reclaimed⟩
    | ok others final =>
      rw [ran'] at reclaimed
      refine ⟨_, (started (reclaims + 1)).trans ?_⟩
      rw [run_replicate_add, reclaimed]
      rfl

/-! ## What the runs keep -/

/-- The version has been purged, or a pass under way has listed it. -/
def Doomed (state : Interleaving prims) (versionId : VersionId) : Prop :=
  versionId ∈ state.store.purgedVersions ∨ ∃ pass ∈ state.passes, versionId ∈ pass.listed

/-- The section is a quarantine entry of a doomed version that the checks let through. -/
def EntersDoomed (state : Interleaving prims) (input : Section) : Prop :=
  ∃ versionId trigger reason now quarantineId emitFailure fallback,
    input = .call (.quarantineEnter versionId trigger reason now quarantineId emitFailure) ∧ state.Doomed versionId ∧
      state.store.Enabled (.entered versionId reason now fallback)

/-- The section is a creating write whose parents name the version id that is minted for it. -/
def NamesItself (state : Interleaving prims) (input : Section) : Prop :=
  ∃ write context now emitFailure, input = .call (.write write context now emitFailure) ∧ write.objectId = none ∧
    state.store.versions.nextKey ∈ write.parentVersionIds

end Interleaving

namespace State

variable {store : State prims} {doomed : VersionId → Prop}

variable {change : Change} {versionId : VersionId} {pointerId : PointerId}

/-- What a read rests on, with the versions that are purged or going to be. -/
structure Upheld (doomed : VersionId → Prop) (store : State prims) : Prop where
  keyed : store.Keyed
  counted : store.Counted
  purged : ∀ versionId ∈ store.purgedVersions, doomed versionId
  retired : ∀ versionId, doomed versionId → ∃ version, store.versions.lookup versionId = some version ∧
    version.state = .retiredVersion
  pointer : ∀ pointerId pointer, store.pointers.lookup pointerId = some pointer → pointer.kind = .current ∧
    ∃ version, store.versions.lookup pointer.currentVersionId = some version ∧ version.state = .verified
  ancestry : ∀ versionId version, store.versions.lookup versionId = some version → versionId ∉ version.parentVersionIds

/-- The change spares the doomed versions, purges no other, and has a fresh id and room for its references. -/
structure Spares (doomed : VersionId → Prop) (store : State prims) (change : Change) : Prop where
  entered : ∀ versionId reason now fallback, change = .entered versionId reason now fallback → ¬doomed versionId
  purged : ∀ versionId chunkIds, change = .purged versionId chunkIds → doomed versionId
  internal : ∀ chunkId, change ≠ .decremented chunkId
  minted : ∀ version, store.added change = some version → store.versions.nextKey ∉ version.parentVersionIds
  spacious : ∀ version, store.added change = some version → store.Spacious version.chunkRefs

/-- A verified version stays verified, unless it is entered into quarantine. -/
theorem Upheld.restated_verified (upheld : store.Upheld doomed) (enabled : store.Enabled change)
    (spares : store.Spares doomed change) {version : Version} (stored : store.versions.lookup versionId = some version)
    (verified : version.state = .verified)
    (apart : ∀ reason now fallback, change ≠ .entered versionId reason now fallback) :
    (restated change versionId version).state = .verified := by
  cases change with
  | entered isolatedId reason now fallback =>
    have other : versionId ≠ isolatedId := by
      rintro rfl
      exact apart _ _ _ rfl
    rw [restated, if_neg other]
    exact verified
  | exited leftId disposition =>
    obtain ⟨left, found, quarantined⟩ := enabled
    have other : versionId ≠ leftId := by
      rintro rfl
      obtain rfl := Option.some.inj (stored.symm.trans found)
      cases verified.symm.trans quarantined
    rw [restated, if_neg other]
    exact verified
  | purged purgedId chunkIds =>
    have other : versionId ≠ purgedId := by
      rintro rfl
      obtain ⟨old, found, retired⟩ := upheld.retired versionId (spares.purged versionId chunkIds rfl)
      obtain rfl := Option.some.inj (stored.symm.trans found)
      cases verified.symm.trans retired
    rw [restated, if_neg other]
    exact verified
  | _ => exact verified

/-- An entry moves the CURRENT pointers to the version on to the fallback. -/
theorem pointer_left (keyed : store.Keyed) {reason : String} {now : DateTime} {fallback : Option VersionId}
    (enabled : store.Enabled (.entered versionId reason now fallback)) {old new : Pointer}
    (stored : store.pointers.lookup pointerId = some old) (current : old.kind = .current)
    (targets : old.currentVersionId = versionId)
    (found : (store.apply (.entered versionId reason now fallback)).pointers.lookup pointerId = some new) :
    fallback = some new.currentVersionId := by
  have affected : pointerId ∈ store.currentOrStablePointersTo versionId :=
    (mem_currentOrStablePointersTo_iff keyed versionId pointerId).mpr ⟨old, stored, .inl current, targets⟩
  obtain ⟨-, -, -, -, unaffected⟩ := enabled
  cases fallback with
  | none =>
    rw [unaffected rfl] at affected
    cases affected
  | some target =>
    change ((store.isolated versionId reason now).movePointers target store.transactions.nextKey now
      (store.currentOrStablePointersTo versionId)).pointers.lookup pointerId = some new at found
    rw [lookup_movePointers, if_pos affected] at found
    change (store.pointers.lookup pointerId).map _ = some new at found
    rw [stored] at found
    obtain rfl := Option.some.inj found
    rfl

theorem Upheld.pointer_apply (upheld : store.Upheld doomed) (enabled : store.Enabled change)
    (spares : store.Spares doomed change) {pointer : Pointer}
    (stored : (store.apply change).pointers.lookup pointerId = some pointer) :
    pointer.kind = .current ∧ ∃ version, (store.apply change).versions.lookup pointer.currentVersionId = some version ∧
      version.state = .verified := by
  obtain ⟨old, before, moved⟩ | ⟨write, context, now, rfl, rfl, rfl⟩ := pointer_origin upheld.keyed stored
  · obtain ⟨current, version, found, verified⟩ := upheld.pointer pointerId old before
    refine ⟨moved.kind.trans current, ?_⟩
    have stays (apart : ∀ reason now fallback, change ≠ .entered old.currentVersionId reason now fallback)
        (same : pointer.currentVersionId = old.currentVersionId) :
        ∃ version, (store.apply change).versions.lookup pointer.currentVersionId = some version ∧
          version.state = .verified := by
      rw [same]
      exact ⟨_, version_kept change found, upheld.restated_verified enabled spares found verified apart⟩
    have fallsBack {versionId : VersionId} {reason : String} {now : DateTime} {target : VersionId}
        (entered : change = .entered versionId reason now (some target)) (same : pointer.currentVersionId = target) :
        ∃ version, (store.apply change).versions.lookup pointer.currentVersionId = some version ∧
          version.state = .verified := by
      subst entered
      obtain ⟨isolated, isolatedAt, -, sought, -⟩ := id enabled
      obtain ⟨held, heldAt, -, ⟨listed, heldVerified⟩ | ⟨otherId, other, otherAt, notCurrent, -⟩⟩ :=
        fallbackTarget_eq_some upheld.keyed sought
      · rw [same]
        refine ⟨_, version_kept _ heldAt, upheld.restated_verified enabled spares heldAt heldVerified ?_⟩
        rintro reason' now' fallback' clash
        cases clash
        exact upheld.ancestry _ isolated isolatedAt listed
      · exact absurd (upheld.pointer otherId other otherAt).1 notCurrent
    obtain same | ⟨write, context, now, objectId, movedId, replaced, rfl, named, target⟩ |
      ⟨versionId, reason, now, target, entered, left, moves⟩ := moved.target
    · by_cases apart : ∀ reason now fallback, change ≠ .entered old.currentVersionId reason now fallback
      · exact stays apart same
      · simp only [not_forall, not_not] at apart
        obtain ⟨reason, now, fallback, rfl⟩ := apart
        obtain rfl := pointer_left upheld.keyed enabled before current rfl stored
        exact fallsBack rfl rfl
    · rw [target]
      exact ⟨_, lookup_added rfl, rfl⟩
    · exact fallsBack entered moves
  · exact ⟨rfl, newVersion prims write context now store.objects.nextKey store.versions.nextKey
      store.transactions.nextKey, lookup_added rfl, rfl⟩

theorem Upheld.apply (upheld : store.Upheld doomed) (enabled : store.Enabled change)
    (spares : store.Spares doomed change) : (store.apply change).Upheld doomed where
  keyed := upheld.keyed.apply change
  counted := upheld.counted.apply enabled spares.internal spares.spacious
  purged versionId member := by
    obtain before | ⟨chunkIds, rfl⟩ := purgedVersions_origin member
    · exact upheld.purged versionId before
    · exact spares.purged versionId chunkIds rfl
  retired versionId isDoomed := by
    obtain ⟨version, stored, retired⟩ := upheld.retired versionId isDoomed
    refine ⟨_, version_kept change stored, restated_retired enabled stored retired ?_⟩
    rintro reason now fallback rfl
    exact spares.entered _ _ _ _ rfl isDoomed
  pointer pointerId pointer stored := upheld.pointer_apply enabled spares stored
  ancestry versionId version stored := by
    obtain ⟨old, before, rfl⟩ | ⟨rfl, new⟩ := version_origin stored
    · rw [(restated_alike change versionId old).2.2.1]
      exact upheld.ancestry versionId old before
    · exact spares.minted version new

theorem Upheld.narrow (upheld : store.Upheld doomed) {fewer : VersionId → Prop}
    (narrows : ∀ versionId, fewer versionId → doomed versionId)
    (purged : ∀ versionId ∈ store.purgedVersions, fewer versionId) : store.Upheld fewer :=
  ⟨upheld.keyed, upheld.counted, purged, fun versionId isDoomed =>
    upheld.retired versionId (narrows versionId isDoomed),
    upheld.pointer, upheld.ancestry⟩

theorem mem_retiredVersionIdsForGc (keyed : store.Keyed) {maxVersions : ℕ}
    (listed : versionId ∈ store.retiredVersionIdsForGc maxVersions) :
    ∃ version, store.versions.lookup versionId = some version ∧ version.state = .retiredVersion := by
  have member := List.mem_of_mem_take listed
  rw [List.mem_insertionSort, List.mem_map] at member
  obtain ⟨version, fits, rfl⟩ := member
  rw [List.mem_filter, Table.mem_values_iff, decide_eq_true_eq] at fits
  obtain ⟨⟨key, stored⟩, retired, -⟩ := fits
  rw [keyed.version key version stored]
  exact ⟨version, stored, retired⟩

end State

namespace GcPass

variable (round : EStateM FsError (State prims) (List GcReason)) (pass : GcPass) (store : State prims)

theorem visit_fst (rest : GcPass) (store : State prims) :
    (visit round rest store).1 = Stateful.finalState (round store) := by
  unfold visit
  cases round store <;> rfl

theorem listed_visit_subset (rest : GcPass) (store : State prims) :
    (visit round rest store).2.listed ⊆ rest.listed := by
  unfold visit
  cases round store with
  | ok reasons after => exact List.Subset.refl _
  | error failure after => exact List.nil_subset _

/-- A section of a pass lists no further versions. -/
theorem listed_next_subset : (pass.next store).2.listed ⊆ pass.listed := by
  cases pass with
  | purging driver versionIds =>
    cases versionIds with
    | nil => exact List.nil_subset _
    | cons versionId rest => exact List.Subset.trans (listed_visit_subset _ _ _) (List.subset_cons_self _ _)
  | reclaiming chunkIds =>
    cases chunkIds with
    | nil => exact List.nil_subset _
    | cons chunkId rest => exact listed_visit_subset _ _ _
  | ended => exact List.nil_subset _

/-- A section of a pass changes nothing, purges a version it has listed, or reclaims a chunk. -/
theorem next_cases :
    (pass.next store).1 = store ∨ ∃ change, store.Enabled change ∧ (pass.next store).1 = store.apply change ∧
      ((∃ versionId chunkIds, change = .purged versionId chunkIds ∧ versionId ∈ pass.listed) ∨
        ∃ chunkId, change = .reclaimed chunkId) := by
  cases pass with
  | purging driver versionIds =>
    cases versionIds with
    | nil => exact .inl rfl
    | cons versionId rest =>
      rw [next, visit_fst, State.finalState_purgeListed]
      obtain ⟨failure, ran⟩ | ⟨chunkIds, enabled, ran⟩ := State.purgeVersion_cases versionId .retired store
      · rw [ran]
        exact .inl rfl
      · rw [ran]
        exact .inr ⟨_, enabled, rfl, .inl ⟨versionId, chunkIds, rfl, List.mem_cons_self⟩⟩
  | reclaiming chunkIds =>
    cases chunkIds with
    | nil => exact .inl rfl
    | cons chunkId rest =>
      rw [next, visit_fst, State.finalState_reclaimListed]
      obtain ⟨failure, ran⟩ | ⟨enabled, ran⟩ := State.reclaimChunk_cases chunkId store
      · rw [ran]
        exact .inl rfl
      · rw [ran]
        exact .inr ⟨_, enabled, rfl, .inr ⟨chunkId, rfl⟩⟩
  | ended => exact .inl rfl

end GcPass

namespace Interleaving

variable {state : Interleaving prims}

def Sound (state : Interleaving prims) : Prop := state.store.Upheld state.Doomed

theorem sound_new (prims : Primitives) : (new prims).Sound where
  keyed := State.keyed_new prims
  counted := State.counted_new prims
  purged versionId purged := .inl purged
  retired versionId isDoomed := by
    obtain purged | ⟨pass, member, -⟩ := isDoomed
    · simp [new, State.new, State.captureSnapshot] at purged
    · cases member
  pointer _ _ stored := nomatch stored
  ancestry _ _ stored := nomatch stored

/-- Catalogs that uphold what the earlier state rests on, beside passes that list nothing new. -/
theorem Sound.of_upheld {after : Interleaving prims} (upheld : after.store.Upheld state.Doomed)
    (listed : ∀ pass ∈ after.passes, ∀ versionId ∈ pass.listed, state.Doomed versionId) : after.Sound := by
  refine upheld.narrow ?_ fun versionId purged => .inl purged
  rintro versionId (purged | ⟨pass, member, inPass⟩)
  · exact upheld.purged versionId purged
  · exact listed pass member versionId inPass

/-- A call of a client that is none of the defective ones spares what a read rests on. -/
theorem Sound.spares (sound : state.Sound) {op : FsOp} (client : op.OfClient)
    (spared : ¬state.EntersDoomed (.call op)) (minted : ¬state.NamesItself (.call op)) {change : Change}
    (enabled : state.store.Enabled change) (makes : op.Makes change)
    (below : (state.store.apply change).BelowSaturation) : state.store.Spares state.Doomed change where
  entered versionId reason now fallback same isDoomed := by
    subst same
    cases op with
    | quarantineEnter enteredId trigger reason' now' quarantineId emitFailure =>
      obtain ⟨rfl, rfl, rfl⟩ := makes
      exact spared ⟨_, _, _, _, _, _, _, rfl, isDoomed, enabled⟩
    | _ => exact makes
  purged versionId chunkIds same := by
    subst same
    cases op <;> first | exact makes.elim | exact client.elim
  internal chunkId same := by
    subst same
    cases op <;> first | exact makes | exact client
  minted version new := by
    cases change with
    | created write context now =>
      cases new
      cases op with
      | write request context' now' emitFailure =>
        obtain ⟨rfl, rfl, rfl⟩ := makes
        exact fun named => minted ⟨_, _, _, _, rfl, enabled.1, named⟩
      | _ => exact makes.elim
    | extended write context now objectId pointerId replaced =>
      cases new
      intro named
      obtain ⟨-, -, prepared, -⟩ := enabled
      obtain ⟨-, -, parents⟩ := State.prepareExistingObjectWrite_eq_ok_iff.mp prepared
      obtain ⟨parent, stored, -⟩ := parents _ named
      rw [Ledger.lookup_nextKey] at stored
      cases stored
    | _ => cases new
  spacious version new := State.Counted.spacious (State.Upheld.counted sound) new below

theorem Sound.call (sound : state.Sound) {op : FsOp} (client : op.OfClient)
    (spared : ¬state.EntersDoomed (.call op)) (minted : ¬state.NamesItself (.call op))
    (below : (state.step (.call op)).store.BelowSaturation) : (state.step (.call op)).Sound := by
  refine @Sound.of_upheld prims state _ ?_ fun pass member versionId inPass => .inr ⟨pass, member, inPass⟩
  have upheld : state.store.Upheld state.Doomed := sound
  change (state.store.step op).BelowSaturation at below
  change (state.store.step op).Upheld state.Doomed
  have effect := State.step_effect upheld.keyed op
  generalize state.store.step op = after at effect below ⊢
  cases effect with
  | unchanged => exact upheld
  | change enabled makes => exact upheld.apply enabled (sound.spares client spared minted enabled makes below)
  | collected pass collected =>
    subst pass
    exact client.elim

theorem Sound.startPass (sound : state.Sound) (driver : GcPassDriver) : (state.step (.startPass driver)).Sound := by
  have upheld : state.store.Upheld state.Doomed := sound
  refine ⟨upheld.keyed, upheld.counted, fun versionId purged => .inl purged, ?_, upheld.pointer, upheld.ancestry⟩
  rintro versionId (purged | ⟨pass, member, inPass⟩)
  · exact upheld.retired versionId (.inl purged)
  · obtain earlier | last := List.mem_append.mp member
    · exact upheld.retired versionId (.inr ⟨pass, earlier, inPass⟩)
    · obtain rfl := List.mem_singleton.mp last
      exact State.mem_retiredVersionIdsForGc upheld.keyed inPass

/-- The changes of a pass that purges only doomed versions. -/
theorem spares_collected {pass : GcPass} {change : Change}
    (kind : (∃ versionId chunkIds, change = .purged versionId chunkIds ∧ versionId ∈ pass.listed) ∨
      ∃ chunkId, change = .reclaimed chunkId)
    (dooms : ∀ versionId ∈ pass.listed, state.Doomed versionId) : state.store.Spares state.Doomed change := by
  obtain ⟨versionId, chunkIds, rfl, inPass⟩ | ⟨chunkId, rfl⟩ := kind
  · refine ⟨fun _ _ _ _ same => (nomatch same), ?_, fun _ same => (nomatch same), fun _ new => (nomatch new),
      fun _ new => (nomatch new)⟩
    rintro purgedId purgedChunks same
    cases same
    exact dooms versionId inPass
  · exact ⟨fun _ _ _ _ same => (nomatch same), fun _ _ same => (nomatch same), fun _ same => (nomatch same),
      fun _ new => (nomatch new), fun _ new => (nomatch new)⟩

theorem Sound.continuePass (sound : state.Sound) (index : ℕ) : (state.step (.continuePass index)).Sound := by
  have upheld : state.store.Upheld state.Doomed := sound
  rw [step]
  cases found : state.passes[index]? with
  | none => exact sound
  | some pass =>
    have underWay : pass ∈ state.passes := List.mem_of_getElem? found
    refine @Sound.of_upheld prims state _ ?_ ?_
    · change (pass.next state.store).1.Upheld state.Doomed
      obtain same | ⟨change, enabled, changed, kind⟩ := pass.next_cases state.store
      · rw [same]
        exact upheld
      · rw [changed]
        exact upheld.apply enabled (spares_collected kind fun versionId inPass => .inr ⟨pass, underWay, inPass⟩)
    · intro other member versionId inOther
      obtain kept | rfl := List.mem_or_eq_of_mem_set member
      · exact .inr ⟨other, kept, inOther⟩
      · exact .inr ⟨pass, underWay, pass.listed_next_subset state.store inOther⟩

theorem Sound.step (sound : state.Sound) {input : Section} (client : ∀ op, input = .call op → op.OfClient)
    (spared : ¬state.EntersDoomed input) (minted : ¬state.NamesItself input)
    (below : (state.step input).store.BelowSaturation) : (state.step input).Sound := by
  cases input with
  | call op => exact sound.call (client op rfl) spared minted below
  | startPass driver => exact sound.startPass driver
  | continuePass index => exact sound.continuePass index

end Interleaving

/-! ## Reads -/

/-- The read has come upon a pointer, a version or a chunk that is not there. -/
def FsError.Dangling : FsError → Prop
  | .chunkUnknown _ => True
  | .pointerNotFound _ => True
  | .versionNotFound _ => True
  | _ => False

namespace State

variable {store : State prims} {doomed : VersionId → Prop}

variable {objectId : ObjectId} {snapshotId : Option SnapshotId}

/-- An object whose read is not refused for a stale snapshot is read. -/
theorem Upheld.readObject (upheld : store.Upheld doomed) (present : (store.objects.lookup objectId).isSome)
    (current : ensureSnapshotCurrent snapshotId store.currentSnapshotId = .ok ()) :
    ∃ result, store.readObject objectId snapshotId = .ok result := by
  obtain ⟨object, stored⟩ := Option.isSome_iff_exists.mp present
  obtain ⟨pointer, found, -⟩ := upheld.keyed.current objectId object stored
  obtain ⟨-, version, heldAt, verified⟩ := upheld.pointer _ pointer found
  have unpurged : pointer.currentVersionId ∉ store.purgedVersions := by
    intro purged
    obtain ⟨retired, retiredAt, state⟩ := upheld.retired _ (upheld.purged _ purged)
    obtain rfl := Option.some.inj (heldAt.symm.trans retiredAt)
    cases verified.symm.trans state
  have allowed : store.denyQuarantinedReadUnlessRecovery object version = .ok () := by
    rw [denyQuarantinedReadUnlessRecovery, if_pos]
    rw [verified]
    decide
  obtain ⟨chunks, gathered⟩ : ∃ chunks, version.chunkRefs.mapM store.chunkOf = .ok chunks := by
    apply Fallible.mapM_returns
    intro chunkRef referred
    obtain ⟨chunk, held⟩ := Option.isSome_iff_exists.mp (upheld.counted.stored_of_used heldAt unpurged referred)
    exact ⟨chunk, by rw [chunkOf, held]⟩
  refine ⟨⟨object, version, chunks, store.currentSnapshotId⟩, ?_⟩
  unfold State.readObject
  rw [current, stored]
  dsimp only
  rw [found]
  dsimp only
  rw [heldAt]
  dsimp only
  rw [allowed, gathered]
  rfl

/-- A read that fails has been given a stale snapshot. -/
theorem Upheld.not_dangling (upheld : store.Upheld doomed) (present : (store.objects.lookup objectId).isSome)
    {failure : FsError} (failed : store.readObject objectId snapshotId = .error failure) : ¬failure.Dangling := by
  cases current : ensureSnapshotCurrent snapshotId store.currentSnapshotId with
  | ok _ =>
    obtain ⟨result, read⟩ := upheld.readObject present current
    rw [read] at failed
    cases failed
  | error stale =>
    unfold State.readObject at failed
    rw [current] at failed
    obtain rfl : stale = failure := Except.error.inj failed
    unfold ensureSnapshotCurrent at current
    split at current
    · split at current
      · cases current
        exact id
      · cases current
    · cases current

end State

namespace Interleaving

/-- No read of an existing object dangles in a run that enters no doomed version into quarantine, whose
version ids are fresh and whose occurrences fit the counters. -/
theorem reads_never_dangle (prims : Primitives) (sections : List Section)
    (clients : ∀ op, .call op ∈ sections → op.OfClient)
    (spared : ∀ before input rest, sections = before ++ input :: rest → ¬((new prims).run before).EntersDoomed input)
    (minted : ∀ before input rest, sections = before ++ input :: rest → ¬((new prims).run before).NamesItself input)
    (below : ∀ moment, moment <+: sections → ((new prims).run moment).store.BelowSaturation) :
    ∀ moment, moment <+: sections → ∀ objectId snapshotId failure,
      (((new prims).run moment).store.objects.lookup objectId).isSome →
        ((new prims).run moment).store.readObject objectId snapshotId = .error failure → ¬failure.Dangling := by
  have sound : ∀ moment, moment <+: sections → ((new prims).run moment).Sound := by
    refine @StepRun.run_invariant_cut _ _ step Sound (new prims) sections (sound_new prims) ?_
    intro before input rest split sound
    have reached := below (before ++ [input]) (StepRun.upTo_of_cut split)
    rw [run, StepRun.run_append] at reached
    apply Sound.step sound ?_ (spared before input rest split) (minted before input rest split) reached
    rintro op rfl
    exact clients op (split ▸ List.mem_append_right _ List.mem_cons_self)
  intro moment inside objectId snapshotId failure present failed
  exact State.Upheld.not_dangling (sound moment inside) present failed

/-- A second version that falls back to the first one, is retired and is purged by a pass. -/
def fallenBack : List Section :=
  [.call (.write (writeOf none [] ["c"]) aliceContext 0 none),
    .call (.write (writeOf (some "o") ["v"] ["c", "d"]) aliceContext 1 none),
    .call (.quarantineEnter "vv" .integrityFailure "hash" 2 "q" none),
    .call (.quarantineExit "vv" .purged "human:root" 3 "qq" none),
    .startPass {}, .continuePass 0, .continuePass 0, .continuePass 0, .continuePass 0]

theorem reads_fallenBack :
    ¬∃ failure, ((new tallied).run fallenBack).store.readObject "o" none = .error failure ∧ failure.Dangling := by
  have clients : ∀ op, .call op ∈ fallenBack → op.OfClient := by
    intro op member
    simp only [fallenBack, List.mem_cons, Section.call.injEq, reduceCtorEq, List.not_mem_nil, or_false] at member
    obtain rfl | rfl | rfl | rfl := member <;> trivial
  have spared : StepRun.Along step (fun state input => ¬EntersDoomed state input) (new tallied) fallenBack := by
    have entry (state : Interleaving tallied) (input : Section)
        (other : ∀ versionId trigger reason now quarantineId emitFailure,
          input ≠ .call (.quarantineEnter versionId trigger reason now quarantineId emitFailure)) :
        ¬state.EntersDoomed input := by
      rintro ⟨_, _, _, _, _, _, _, same, -⟩
      exact other _ _ _ _ _ _ same
    refine ⟨entry _ _ nofun, entry _ _ nofun, ?_, entry _ _ nofun, entry _ _ nofun, entry _ _ nofun, entry _ _ nofun,
      entry _ _ nofun, entry _ _ nofun, trivial⟩
    rintro ⟨_, _, _, _, _, _, _, same, purged | ⟨pass, member, -⟩, -⟩
    · cases same
      exact absurd purged (by decide +kernel)
    · cases member
  have minted : StepRun.Along step (fun state input => ¬NamesItself state input) (new tallied) fallenBack := by
    refine ⟨?_, ?_, ?_, ?_, ?_, ?_, ?_, ?_, ?_, trivial⟩ <;> rintro ⟨_, _, _, _, same, creates, named⟩ <;> cases same
    · cases named
    · cases creates
  have few : ∀ moment ∈ fallenBack.inits,
      ((new tallied).run moment).store.versions.records.total (fun _ version => version.chunkRefs.length) ≤
      U32_MAX := by
    decide +kernel
  rintro ⟨failure, failed, dangling⟩
  refine reads_never_dangle tallied fallenBack clients ((StepRun.along_iff_cut _ _ _ _).mp spared)
    ((StepRun.along_iff_cut _ _ _ _).mp minted) ?_ fallenBack List.prefix_rfl "o" none failure
    (by decide +kernel) failed
    dangling
  exact fun moment inside => State.belowSaturation_of_few (few moment ((List.mem_inits moment fallenBack).mpr inside))

/-- A purged version is released from quarantine, and becomes CURRENT when the next one is entered. -/
def fallenOnPurged : List Section :=
  [.call (.write (writeOf none [] ["c"]) aliceContext 0 none),
    .call (.write (writeOf (some "o") ["v"] ["d"]) aliceContext 1 none),
    .call (.quarantineEnter "v" .operatorManual "audit" 2 "q" none),
    .call (.quarantineExit "v" .purged "human:root" 3 "qq" none),
    .startPass {}, .continuePass 0, .continuePass 0, .continuePass 0, .continuePass 0,
    .call (.quarantineEnter "v" .operatorManual "audit" 4 "qqq" none),
    .call (.quarantineExit "v" .released "human:root" 5 "qqqq" none),
    .call (.quarantineEnter "vv" .integrityFailure "hash" 6 "qqqqq" none)]

theorem read_dangles :
    ¬∀ (prims : Primitives) (sections : List Section), (∀ op, .call op ∈ sections → op.OfClient) →
      ∀ objectId snapshotId failure, (((new prims).run sections).store.objects.lookup objectId).isSome →
        ((new prims).run sections).store.readObject objectId snapshotId = .error failure → ¬failure.Dangling := by
  intro holds
  have clients : ∀ op, .call op ∈ fallenOnPurged → op.OfClient := by
    intro op member
    simp only [fallenOnPurged, List.mem_cons, Section.call.injEq, reduceCtorEq, List.not_mem_nil, or_false,
      false_or] at member
    obtain rfl | rfl | rfl | rfl | rfl | rfl | rfl := member <;> trivial
  have failed : ((new tallied).run fallenOnPurged).store.readObject "o" none = .error (.chunkUnknown "c") := rfl
  exact holds tallied fallenOnPurged clients "o" none _ (by decide +kernel) failed trivial

end Interleaving

end Aios.Fs
