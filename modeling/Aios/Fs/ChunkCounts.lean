import Aios.Fs.Integrity

/-! # Reference counts of chunks

A chunk is counted once for every occurrence in the references of a version that has not been purged.
Writes add the occurrences of the new version, duplicates included; a purge takes those of its version
away; quarantine leaves them alone; and a chunk that is reclaimed has none. The count of a chunk stops
at its bound, so the runs are those in which the occurrences stay within it, and the external decrement
is not among their operations. A garbage-collection pass interleaved with other calls is a run of purges and
reclaims between them.
-/

namespace Aios.Fs

open Aios.Rust

variable {prims : Primitives}

namespace State

variable {store : State prims}

/-- How often a version that has not been purged refers to a chunk. -/
def uses (purgedVersions : Finset VersionId) (chunkId : ChunkId) (versionId : VersionId) (version : Version) : ℕ :=
  if versionId ∈ purgedVersions then 0 else version.chunkRefs.count chunkId

/-- The occurrences of a chunk in the versions not yet purged. -/
def occurrences (store : State prims) (chunkId : ChunkId) : ℕ :=
  store.versions.records.total (uses store.purgedVersions chunkId)

structure Counted (store : State prims) : Prop where
  refCount : ∀ chunkId chunk, store.chunks.lookup chunkId = some chunk → chunk.refCount = store.occurrences chunkId
  stored : ∀ chunkId, 0 < store.occurrences chunkId → (store.chunks.lookup chunkId).isSome
  purgedKnown : ∀ versionId ∈ store.purgedVersions, (store.versions.lookup versionId).isSome

/-- The occurrences of every chunk fit its counter. -/
def BelowSaturation (store : State prims) : Prop := ∀ chunkId, store.occurrences chunkId ≤ U32_MAX

/-- The counters have room for the references. -/
def Spacious (store : State prims) (chunkRefs : List ChunkRef) : Prop :=
  ∀ chunkId, store.occurrences chunkId + chunkRefs.count chunkId ≤ U32_MAX

/-- Versions with few references altogether refer to each chunk as few times. -/
theorem belowSaturation_of_few
    (few : store.versions.records.total (fun _ version => version.chunkRefs.length) ≤ U32_MAX) :
    store.BelowSaturation := by
  intro chunkId
  refine Nat.le_trans (Table.total_mono fun versionId version => ?_) few
  unfold uses
  split
  · exact Nat.zero_le _
  · exact List.count_le_length

/-! ## Counting in the chunk table -/

theorem lookup_registerChunk_of_ne (now : DateTime) (chunks : Table ChunkId Chunk) {chunkId chunkRef : ChunkId}
    (apart : chunkId ≠ chunkRef) : (registerChunk now chunks chunkRef).lookup chunkId = chunks.lookup chunkId := by
  unfold registerChunk
  split <;> rw [Table.lookup_insert_eq, if_neg apart]

/-- Counting a list of references below the bound: a stored chunk gains their number, a new one starts
with it. -/
theorem lookup_registerChunks (now : DateTime) (chunkRefs : List ChunkRef) (chunks : Table ChunkId Chunk)
    (chunkId : ChunkId) (below : (chunks.lookup chunkId).elim 0 Chunk.refCount + chunkRefs.count chunkId ≤ U32_MAX) :
    (chunkRefs.foldl (registerChunk now) chunks).lookup chunkId =
      match chunks.lookup chunkId with
      | some chunk => some { chunk with refCount := chunk.refCount + chunkRefs.count chunkId }
      | none => if chunkRefs.count chunkId = 0 then none else some ⟨chunkId, 0, chunkRefs.count chunkId, now⟩ := by
  induction chunkRefs generalizing chunks with
  | nil => cases stored : chunks.lookup chunkId <;> simp [stored]
  | cons first rest ih =>
    rw [List.foldl_cons]
    by_cases same : first = chunkId
    · subst same
      rw [List.count_cons_self] at below ⊢
      cases stored : chunks.lookup first with
      | some chunk =>
        rw [stored] at below
        simp only [Option.elim_some] at below
        have counted : (registerChunk now chunks first).lookup first =
            some { chunk with refCount := chunk.refCount + 1 } := by
          rw [registerChunk, stored]
          dsimp only
          rw [Table.lookup_insert_eq, if_pos rfl, min_eq_left (by omega)]
        rw [ih _ (by rw [counted]; simp only [Option.elim_some]; omega), counted]
        simp only [Option.some.injEq, Chunk.mk.injEq, true_and, and_true]
        omega
      | none =>
        have counted : (registerChunk now chunks first).lookup first = some ⟨first, 0, 1, now⟩ := by
          rw [registerChunk, stored]
          dsimp only
          rw [Table.lookup_insert_eq, if_pos rfl]
        rw [stored] at below
        simp only [Option.elim_none] at below
        rw [ih _ (by rw [counted]; simp only [Option.elim_some]; omega), counted]
        simp only [Nat.add_comm 1, if_neg (Nat.succ_ne_zero _)]
    · rw [List.count_cons_of_ne same] at below ⊢
      have untouched := lookup_registerChunk_of_ne now chunks (Ne.symm same)
      rw [ih _ (by rw [untouched]; exact below), untouched]

theorem refCount_decrement (chunk : Chunk) : decrement chunk = { chunk with refCount := chunk.refCount - 1 } := by
  unfold decrement
  split
  · rfl
  · rw [show chunk.refCount - 1 = chunk.refCount by omega]

/-- Each occurrence takes one away. -/
theorem lookup_decrements (chunkIds : List ChunkId) (chunks : Table ChunkId Chunk) (chunkId : ChunkId) :
    (chunkIds.foldl (fun chunks chunkId => chunks.modify chunkId decrement) chunks).lookup chunkId =
      (chunks.lookup chunkId).map fun chunk => { chunk with refCount := chunk.refCount - chunkIds.count chunkId } := by
  induction chunkIds generalizing chunks with
  | nil => cases stored : chunks.lookup chunkId <;> simp [stored]
  | cons first rest ih =>
    rw [List.foldl_cons, ih, Table.lookup_modify]
    by_cases same : first = chunkId
    · subst same
      rw [if_pos rfl, List.count_cons_self, Option.map_map]
      refine congrArg (Option.map · _) (funext fun chunk => ?_)
      simp only [Function.comp, refCount_decrement, Chunk.mk.injEq, true_and, and_true]
      omega
    · rw [if_neg (Ne.symm same), List.count_cons_of_ne same]

/-! ## Changes keep the counts -/

section

variable {after : State prims} {versionId : VersionId} {change : Change} {chunkIds : List ChunkId} {version : Version}
  {chunkId : ChunkId}

theorem counted_new (prims : Primitives) : (new prims).Counted where
  refCount chunkId chunk stored := by simp [new, captureSnapshot] at stored
  stored chunkId used := absurd used (Nat.lt_irrefl 0)
  purgedKnown versionId purged := by simp [new, captureSnapshot] at purged

/-- A new version adds its references. -/
theorem occurrences_written (counted : store.Counted) {after : State prims} {version : Version}
    (versions : after.versions = store.versions.add version) (purged : after.purgedVersions = store.purgedVersions)
    (chunkId : ChunkId) : after.occurrences chunkId = store.occurrences chunkId + version.chunkRefs.count chunkId := by
  have absent := store.versions.lookup_nextKey
  have unpurged : store.versions.nextKey ∉ store.purgedVersions := by
    intro purged
    have known := counted.purgedKnown _ purged
    rw [absent] at known
    cases known
  have added := Table.total_insert_absent absent version (uses store.purgedVersions chunkId)
  rw [uses, if_neg unpurged] at added
  rw [occurrences, versions, purged]
  exact added

theorem Counted.unused (counted : store.Counted) (absent : store.chunks.lookup chunkId = none) :
    store.occurrences chunkId = 0 := by
  by_contra used
  have present := counted.stored chunkId (Nat.pos_of_ne_zero used)
  rw [absent] at present
  cases present

/-- A chunk that a version not yet purged refers to is stored. -/
theorem Counted.stored_of_used (counted : store.Counted) (stored : store.versions.lookup versionId = some version)
    (unpurged : versionId ∉ store.purgedVersions) (used : chunkId ∈ version.chunkRefs) :
    (store.chunks.lookup chunkId).isSome := by
  apply counted.stored
  have weighs := Table.le_total stored (uses store.purgedVersions chunkId)
  rw [uses, if_neg unpurged] at weighs
  exact Nat.lt_of_lt_of_le (List.count_pos_iff.mpr used) weighs

/-- The counters have room for a write that fits the occurrences. -/
theorem Counted.room (counted : store.Counted) {chunkRefs : List ChunkRef} (spacious : store.Spacious chunkRefs)
    (chunkId : ChunkId) : (store.chunks.lookup chunkId).elim 0 Chunk.refCount + chunkRefs.count chunkId ≤ U32_MAX := by
  have room := spacious chunkId
  cases stored : store.chunks.lookup chunkId with
  | some chunk =>
    rw [Option.elim_some, counted.refCount chunkId chunk stored]
    exact room
  | none =>
    rw [Option.elim_none, ← counted.unused stored]
    exact room

theorem Counted.written (counted : store.Counted) {now : DateTime}
    (versions : after.versions = store.versions.add version) (purged : after.purgedVersions = store.purgedVersions)
    (chunks : after.chunks = version.chunkRefs.foldl (registerChunk now) store.chunks)
    (spacious : store.Spacious version.chunkRefs) : after.Counted where
  refCount chunkId chunk found := by
    rw [occurrences_written counted versions purged]
    rw [chunks, lookup_registerChunks now _ _ _ (counted.room spacious chunkId)] at found
    cases stored : store.chunks.lookup chunkId with
    | some old =>
      rw [stored] at found
      obtain rfl := Option.some.inj found
      rw [counted.refCount chunkId old stored]
    | none =>
      rw [stored] at found
      dsimp only at found
      split at found
      · cases found
      · obtain rfl := Option.some.inj found
        rw [counted.unused stored, Nat.zero_add]
  stored chunkId used := by
    rw [occurrences_written counted versions purged] at used
    rw [chunks, lookup_registerChunks now _ _ _ (counted.room spacious chunkId)]
    cases stored : store.chunks.lookup chunkId with
    | some old => rfl
    | none =>
      rw [counted.unused stored] at used
      dsimp only
      rw [if_neg (by omega)]
      rfl
  purgedKnown versionId member := by
    rw [purged] at member
    obtain ⟨old, stored⟩ := Option.isSome_iff_exists.mp (counted.purgedKnown versionId member)
    rw [versions, Ledger.lookup_add_of_stored stored]
    rfl

/-- Rewriting the state of a version changes no occurrence. -/
theorem Counted.restated (counted : store.Counted) {update : Version → Version}
    (same : ∀ version, (update version).chunkRefs = version.chunkRefs)
    (versions : after.versions = (store.setVersion versionId update).versions)
    (purged : after.purgedVersions = store.purgedVersions) (chunks : after.chunks = store.chunks) : after.Counted := by
  have occurrences_ (chunkId : ChunkId) : after.occurrences chunkId = store.occurrences chunkId := by
    rw [occurrences, versions, purged]
    exact Table.total_modify fun version => by rw [uses, uses, same]
  refine ⟨?_, ?_, ?_⟩
  · intro chunkId chunk found
    rw [occurrences_]
    exact counted.refCount chunkId chunk (chunks ▸ found)
  · intro chunkId used
    rw [chunks]
    exact counted.stored chunkId (occurrences_ chunkId ▸ used)
  · intro other member
    have known := counted.purgedKnown other (purged ▸ member)
    rw [versions, lookup_setVersion]
    split
    · rename_i same
      rw [Option.isSome_map, ← same]
      exact known
    · exact known

/-- A purge takes away the references of the version. -/
theorem occurrences_purged (enabled : store.Enabled (.purged versionId chunkIds)) (chunkId : ChunkId) :
    (store.apply (.purged versionId chunkIds)).occurrences chunkId + chunkIds.count chunkId =
      store.occurrences chunkId := by
  obtain ⟨unpurged, version, stored, rfl, -⟩ := enabled
  have off := @Table.total_add_of_agree _ _ _ _ _ _ (uses (insert versionId store.purgedVersions) chunkId)
    (uses store.purgedVersions chunkId) stored
    fun other value apart => by simp only [uses, Finset.mem_insert, apart, false_or]
  rw [uses, uses, if_neg unpurged, if_pos (Finset.mem_insert_self _ _), Nat.add_zero] at off
  rw [occurrences, occurrences, ← off]
  refine congrArg (· + _) (Table.total_modify fun version => ?_)
  simp only [uses, leave]

theorem Counted.purged (counted : store.Counted) (enabled : store.Enabled (.purged versionId chunkIds)) :
    (store.apply (.purged versionId chunkIds)).Counted where
  refCount chunkId chunk found := by
    have fewer := occurrences_purged enabled chunkId
    change (chunkIds.foldl (fun chunks chunkId => chunks.modify chunkId decrement) store.chunks).lookup
      chunkId = _ at found
    rw [lookup_decrements] at found
    obtain ⟨old, stored, rfl⟩ := Option.map_eq_some_iff.mp found
    have counts := counted.refCount chunkId old stored
    dsimp only
    omega
  stored chunkId used := by
    have fewer := occurrences_purged enabled chunkId
    change ((chunkIds.foldl (fun chunks chunkId => chunks.modify chunkId decrement) store.chunks).lookup chunkId).isSome
    rw [lookup_decrements, Option.isSome_map]
    exact counted.stored chunkId (by omega)
  purgedKnown other member := by
    have known : (store.versions.lookup other).isSome := by
      obtain rfl | before := Finset.mem_insert.mp member
      · obtain ⟨-, version, stored, -⟩ := enabled
        rw [stored]
        rfl
      · exact counted.purgedKnown other before
    obtain ⟨version, stored⟩ := Option.isSome_iff_exists.mp known
    rw [version_kept _ stored]
    rfl

/-- A reclaimed chunk has no occurrence. -/
theorem Counted.reclaimed (counted : store.Counted) (enabled : store.Enabled (.reclaimed chunkId)) :
    (store.apply (.reclaimed chunkId)).Counted where
  refCount other chunk found := by
    change (store.chunks.erase chunkId).lookup other = _ at found
    rw [Table.lookup_erase_eq] at found
    split at found
    · cases found
    · exact counted.refCount other chunk found
  stored other used := by
    change ((store.chunks.erase chunkId).lookup other).isSome
    rw [Table.lookup_erase_eq]
    split
    · rename_i same
      obtain ⟨chunk, stored, zero⟩ := enabled
      have unused : store.occurrences other = 0 := by rw [same, ← counted.refCount chunkId chunk stored, zero]
      exact absurd used (unused ▸ Nat.lt_irrefl 0)
    · exact counted.stored other used
  purgedKnown := counted.purgedKnown

theorem Counted.apply (counted : store.Counted) (enabled : store.Enabled change)
    (internal : ∀ chunkId, change ≠ .decremented chunkId)
    (spacious : ∀ version, store.added change = some version → store.Spacious version.chunkRefs) :
    (store.apply change).Counted := by
  cases change with
  | captured => exact ⟨counted.refCount, counted.stored, counted.purgedKnown⟩
  | created write context now => exact counted.written rfl rfl rfl (spacious _ rfl)
  | extended write context now objectId pointerId replaced => exact counted.written rfl rfl rfl (spacious _ rfl)
  | entered versionId reason now fallback =>
    have isolates : ∀ version, (isolate reason now version).chunkRefs = version.chunkRefs := fun _ => rfl
    cases fallback <;> exact counted.restated isolates rfl rfl rfl
  | exited versionId disposition =>
    have leaves : ∀ version, (leave (exitState disposition) version).chunkRefs = version.chunkRefs := fun _ => rfl
    exact counted.restated leaves rfl rfl rfl
  | purged versionId chunkIds => exact counted.purged enabled
  | reclaimed chunkId => exact counted.reclaimed enabled
  | decremented chunkId => exact absurd rfl (internal chunkId)

/-- A write whose references fit the counters afterwards has had room for them. -/
theorem Counted.spacious (counted : store.Counted) (new : store.added change = some version)
    (below : (store.apply change).BelowSaturation) : store.Spacious version.chunkRefs := by
  intro chunkId
  cases change with
  | created write context now =>
    cases new
    have grown := @occurrences_written _ _ counted (store.apply (.created write context now)) _ rfl rfl chunkId
    exact Nat.le_trans (Nat.le_of_eq grown.symm) (below chunkId)
  | extended write context now objectId pointerId replaced =>
    cases new
    have grown := @occurrences_written _ _ counted
      (store.apply (.extended write context now objectId pointerId replaced)) _ rfl rfl
      chunkId
    exact Nat.le_trans (Nat.le_of_eq grown.symm) (below chunkId)
  | _ => cases new

end

/-! ## Runs -/

theorem Counted.step (counted : store.Counted) (keyed : store.Keyed) {op : FsOp}
    (internal : ∀ chunkId, op ≠ .decrementChunkRefcount chunkId) (below : (store.step op).BelowSaturation) :
    (store.step op).Counted := by
  have effect := step_effect keyed op
  generalize store.step op = after at effect below ⊢
  cases effect with
  | unchanged => exact counted
  | change enabled makes =>
    refine counted.apply enabled ?_ fun version new => counted.spacious new below
    rintro chunkId rfl
    cases op with
    | decrementChunkRefcount decrementedId => exact internal decrementedId rfl
    | _ => exact makes
  | collected pass collected =>
    refine collected_invariant ?_ keyed counted collected
    intro store _ counted change collects enabled
    apply counted.apply enabled
    · rintro chunkId rfl
      exact collects
    · intro version new
      cases change with
      | created write context now => exact collects.elim
      | extended write context now objectId pointerId replaced => exact collects.elim
      | _ => cases new

/-- The count of every stored chunk is the number of its occurrences in the versions not yet purged, and
every chunk with an occurrence is stored. -/
theorem chunk_counts (prims : Primitives) (ops : List FsOp)
    (internal : ∀ chunkId, FsOp.decrementChunkRefcount chunkId ∉ ops)
    (below : ∀ moment, moment <+: ops → ((new prims).run moment).BelowSaturation) :
    ∀ moment, moment <+: ops →
      (∀ chunkId chunk, ((new prims).run moment).chunks.lookup chunkId = some chunk →
        chunk.refCount = ((new prims).run moment).occurrences chunkId) ∧
      ∀ chunkId, 0 < ((new prims).run moment).occurrences chunkId →
        (((new prims).run moment).chunks.lookup chunkId).isSome := by
  have counted : ∀ moment, moment <+: ops → ((new prims).run moment).Counted := by
    refine @StepRun.run_invariant_cut _ _ step Counted (new prims) ops (counted_new prims) ?_
    intro before op rest split counted
    apply Counted.step counted (keyed_run prims before)
    · rintro chunkId rfl
      exact internal chunkId (split ▸ List.mem_append_right _ List.mem_cons_self)
    · have reached := below (before ++ [op]) (StepRun.upTo_of_cut split)
      rw [run, StepRun.run_append] at reached
      exact reached
  exact fun moment inside => ⟨(counted moment inside).refCount, (counted moment inside).stored⟩

/-- A version that refers to one chunk twice is purged, and the chunk reclaimed. -/
def emptied : List FsOp :=
  [.write (writeOf none [] ["c", "d", "c"]) aliceContext 0 none, .purgeVersion "v" .operatorRequested,
    .reclaimChunk "c"]

theorem chunk_counts_emptied :
    ((new tallied).run (emptied.take 1)).occurrences "c" = 2 ∧
      (((new tallied).run (emptied.take 1)).chunks.lookup "c").isSome := by
  have few : ∀ moment ∈ emptied.inits,
      ((new tallied).run moment).versions.records.total (fun _ version => version.chunkRefs.length) ≤ U32_MAX := by
    decide +kernel
  obtain ⟨counts, stored⟩ := chunk_counts tallied emptied (fun chunkId listed => by simp [emptied] at listed)
    (fun moment inside => belowSaturation_of_few (few moment ((List.mem_inits moment emptied).mpr inside)))
    (emptied.take 1) (List.take_prefix 1 emptied)
  have twice : 2 = ((new tallied).run (emptied.take 1)).occurrences "c" := counts "c" ⟨"c", 0, 2, 0⟩ (by decide +kernel)
  exact ⟨twice.symm, stored "c" (by rw [← twice]; decide)⟩

end State

end Aios.Fs
