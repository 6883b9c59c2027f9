import Aios.Fs.Integrity

/-! # Purged versions

A purge retires the version for good, as long as no quarantine entry takes it up again: the entry
checks that the version is not quarantined already, and not that it has been purged. What an entry has
made of a purged version an exit can release.
-/

namespace Aios.Fs

open Aios.Rust

variable {prims : Primitives}

namespace State

variable {store : State prims}

variable {change : Change} {versionId : VersionId}

/-- Every purged version is retired. -/
def Finalized (store : State prims) : Prop :=
  ∀ versionId ∈ store.purgedVersions, ∃ version, store.versions.lookup versionId = some version ∧
    version.state = .retiredVersion

/-- The operation is a quarantine entry of a purged version that the checks let through. -/
def EntersPurged (store : State prims) (op : FsOp) : Prop :=
  ∃ versionId trigger reason now quarantineId emitFailure fallback,
    op = .quarantineEnter versionId trigger reason now quarantineId emitFailure ∧
      versionId ∈ store.purgedVersions ∧ store.Enabled (.entered versionId reason now fallback)

theorem purgedVersions_subset (store : State prims) (change : Change) :
    store.purgedVersions ⊆ (store.apply change).purgedVersions := by
  cases change with
  | purged versionId chunkIds => exact Finset.subset_insert _ _
  | entered versionId reason now fallback => cases fallback <;> exact Finset.Subset.refl _
  | _ => exact Finset.Subset.refl _

/-- A version is purged by the change that purges it. -/
theorem purgedVersions_origin (purged : versionId ∈ (store.apply change).purgedVersions) :
    versionId ∈ store.purgedVersions ∨ ∃ chunkIds, change = .purged versionId chunkIds := by
  cases change with
  | purged purgedId chunkIds =>
    obtain rfl | before := Finset.mem_insert.mp purged
    · exact .inr ⟨chunkIds, rfl⟩
    · exact .inl before
  | entered isolatedId reason now fallback => cases fallback <;> exact .inl purged
  | _ => exact .inl purged

/-- A retired version that is not entered into quarantine stays retired. -/
theorem restated_retired (enabled : store.Enabled change) {version : Version}
    (stored : store.versions.lookup versionId = some version) (retired : version.state = .retiredVersion)
    (spared : ∀ reason now fallback, change ≠ .entered versionId reason now fallback) :
    (restated change versionId version).state = .retiredVersion := by
  cases change with
  | entered isolatedId reason now fallback =>
    have apart : versionId ≠ isolatedId := by
      rintro rfl
      exact spared _ _ _ rfl
    rw [restated, if_neg apart]
    exact retired
  | exited leftId disposition =>
    obtain ⟨left, found, quarantined⟩ := enabled
    have apart : versionId ≠ leftId := by
      rintro rfl
      obtain rfl := Option.some.inj (stored.symm.trans found)
      cases retired.symm.trans quarantined
    rw [restated, if_neg apart]
    exact retired
  | purged purgedId chunkIds =>
    rw [restated]
    split
    · rfl
    · exact retired
  | _ => exact retired

/-- A change that isolates no purged version leaves them retired. -/
theorem Finalized.apply (finalized : store.Finalized) {change : Change} (enabled : store.Enabled change)
    (spares : ∀ versionId reason now fallback, change = .entered versionId reason now fallback →
      versionId ∉ store.purgedVersions) : (store.apply change).Finalized := by
  intro versionId purged
  obtain before | ⟨chunkIds, rfl⟩ := purgedVersions_origin purged
  · obtain ⟨version, stored, retired⟩ := finalized versionId before
    refine ⟨_, version_kept change stored, restated_retired enabled stored retired ?_⟩
    rintro reason now fallback rfl
    exact spares _ _ _ _ rfl before
  · obtain ⟨-, version, stored, -⟩ := enabled
    refine ⟨_, version_kept _ stored, ?_⟩
    rw [restated, if_pos rfl]
    rfl

/-- A step keeps the purged versions retired exactly if it enters none of them. -/
theorem Finalized.step_iff (finalized : store.Finalized) (keyed : store.Keyed) (op : FsOp) :
    (store.step op).Finalized ↔ ¬store.EntersPurged op := by
  constructor
  · rintro kept ⟨versionId, trigger, reason, now, quarantineId, emitFailure, fallback, rfl, purged, enabled⟩
    rw [step, finalState_thenEmit] at kept
    obtain ⟨failure, ran, refused⟩ | ⟨taken, entered, result, ran⟩ :=
      applyQuarantineEntry_cases keyed versionId trigger reason now quarantineId
    · exact refused fallback enabled
    · rw [ran] at kept
      change (store.apply (.entered versionId reason now taken)).Finalized at kept
      obtain ⟨version, stored, retired⟩ := kept versionId (purgedVersions_subset store _ purged)
      obtain ⟨old, found, -⟩ := entered
      have isolated := version_kept (.entered versionId reason now taken) found
      rw [restated, if_pos rfl] at isolated
      obtain rfl := Option.some.inj (stored.symm.trans isolated)
      cases retired
  · intro spares
    have effect := step_effect keyed op
    generalize store.step op = after at effect ⊢
    cases effect with
    | unchanged => exact finalized
    | change enabled makes =>
      apply finalized.apply enabled
      rintro versionId reason now fallback rfl purged
      cases op with
      | quarantineEnter enteredId trigger reason' now' quarantineId emitFailure =>
        obtain ⟨rfl, rfl, rfl⟩ := makes
        exact spares ⟨_, _, _, _, _, _, _, rfl, purged, enabled⟩
      | _ => exact makes
    | collected pass collected =>
      refine collected_invariant ?_ keyed finalized collected
      intro store keyed finalized change collects enabled
      apply finalized.apply enabled
      rintro versionId reason now fallback rfl
      cases collects

/-! ## Runs -/

theorem purgedVersions_step_subset (keyed : store.Keyed) (op : FsOp) :
    store.purgedVersions ⊆ (store.step op).purgedVersions := by
  have grows : ∀ after, Effect store op after → store.purgedVersions ⊆ after.purgedVersions := by
    intro after effect
    exact @effect_invariant _ _ (fun reached => store.purgedVersions ⊆ reached.purgedVersions)
      (fun reached _ inside change _ => Finset.Subset.trans inside (purgedVersions_subset reached change)) keyed
      (Finset.Subset.refl _) _ _ effect
  exact grows _ (step_effect keyed op)

theorem purgedVersions_run_subset (prims : Primitives) {earlier later : List FsOp} (order : earlier <+: later) :
    ((new prims).run earlier).purgedVersions ⊆ ((new prims).run later).purgedVersions := by
  obtain ⟨more, rfl⟩ := order
  rw [run, run, StepRun.run_append]
  have grown := @StepRun.run_invariant _ _ step
    (fun reached : State prims => reached.Keyed ∧ ((new prims).run earlier).purgedVersions ⊆ reached.purgedVersions)
    (fun reached op inv => ⟨inv.1.step op, Finset.Subset.trans inv.2 (purgedVersions_step_subset inv.1 op)⟩)
    _ ⟨keyed_run prims earlier, Finset.Subset.refl _⟩ more
  exact grown.2

/-- A purge is final in a run exactly if no step of it enters a purged version into quarantine. -/
theorem purge_final_iff (prims : Primitives) (ops : List FsOp) :
    (∀ earlier later, earlier <+: later → later <+: ops → ∀ versionId ∈ ((new prims).run earlier).purgedVersions,
      ∃ version, ((new prims).run later).versions.lookup versionId = some version ∧ version.state = .retiredVersion) ↔
    ∀ before op rest, ops = before ++ op :: rest → ¬((new prims).run before).EntersPurged op := by
  have finalized : (∀ moment, moment <+: ops → ((new prims).run moment).Finalized) ↔
      ∀ before op rest, ops = before ++ op :: rest → ¬((new prims).run before).EntersPurged op := by
    refine @StepRun.forall_prefix_iff_cut _ _ step Finalized (fun store op => ¬store.EntersPurged op) (new prims) ops
      ?_ ?_
    · intro versionId purged
      simp [new, captureSnapshot] at purged
    · intro before op rest _ inv
      exact Finalized.step_iff inv (keyed_run prims before) op
  rw [← finalized]
  constructor
  · exact fun final moment inside => final moment moment List.prefix_rfl inside
  · intro holds earlier later order inside versionId purged
    exact holds later inside versionId (purgedVersions_run_subset prims order purged)

/-- A version purged by a pass, entered into quarantine again and released. -/
def revived : List FsOp :=
  [.write (writeOf none [] ["c"]) aliceContext 0 none,
    .write (writeOf (some "o") ["v"] ["d"]) aliceContext 1 none,
    .quarantineEnter "v" .operatorManual "audit" 2 "q" none,
    .quarantineExit "v" .purged "human:root" 3 "qq" none,
    .gcPass {} "g" 4 5 none,
    .quarantineEnter "v" .operatorManual "audit" 6 "qqq" none,
    .quarantineExit "v" .released "human:root" 7 "qqqq" none]

/-- The purged version is verified again. -/
theorem purge_not_final :
    ¬∀ (prims : Primitives) (ops : List FsOp) (earlier later : List FsOp), earlier <+: later → later <+: ops →
      ∀ versionId ∈ ((new prims).run earlier).purgedVersions,
        ∃ version, ((new prims).run later).versions.lookup versionId = some version ∧
          version.state = .retiredVersion := by
  intro final
  have purged : "v" ∈ ((new tallied).run (revived.take 5)).purgedVersions := by decide +kernel
  obtain ⟨version, stored, retired⟩ := final tallied revived _ revived (List.take_prefix _ _) List.prefix_rfl "v" purged
  have verified : (((new tallied).run revived).versions.lookup "v").map Version.state =
    some .verified := by decide +kernel
  rw [stored, Option.map_some, retired] at verified
  cases verified

end State

end Aios.Fs
