import Aios.Distribution.Version
import Aios.Lib.Run
import Aios.Lib.Table

/-! # Downgrade protection

The embedding of `downgrade.rs`: a counter that keeps, for every package, the highest version accepted
so far, and rejects what is older. Where the ordering of versions is the one of precedence, the version
kept is the highest of those accepted, so a call is rejected exactly for being below one of them.
-/

namespace Aios.Distribution

structure VersionMonotonicCounter where
  highest : Table PackageId SemVer

namespace VersionMonotonicCounter

section

variable {packageId : PackageId} {version : SemVer} (self : VersionMonotonicCounter)

def new : VersionMonotonicCounter := ⟨∅⟩

def get (packageId : PackageId) : Option SemVer := self.highest.lookup packageId

def checkAndRecord (packageId : PackageId) (version : SemVer) :
    Except DistributionError Unit × VersionMonotonicCounter :=
  let record := { self with highest := self.highest.insert packageId version }
  match self.highest.lookup packageId with
  | some existing =>
    if version.lt existing then
      (.error (.packageDowngradeBlocked
        (s!"downgrade blocked: package {packageId.value} had version {existing.display}; " ++
          s!"attempted install of {version.display}")), self)
    else if version.eq existing then (.ok (), self)
    else (.ok (), record)
  | none => (.ok (), record)

/-! ## Runs -/

/-- A call of `check_and_record`. -/
structure Install where
  packageId : PackageId
  version : SemVer

def reply (call : Install) : Except DistributionError Unit :=
  (self.checkAndRecord call.packageId call.version).1

def step (call : Install) : VersionMonotonicCounter :=
  (self.checkAndRecord call.packageId call.version).2

/-- The calls made on a new counter, each with its answer. -/
def history (calls : List Install) : List (Install × Except DistributionError Unit) :=
  StepRun.trace step reply new calls

/-- The versions accepted for a package. -/
def accepted (history : List (Install × Except DistributionError Unit)) (packageId : PackageId) : List SemVer :=
  (history.filter fun entry => entry.1.packageId = packageId && entry.2.isOk).map (·.1.version)

/-- What is asked of a call, given the calls before it. -/
structure Protects (history : List (Install × Except DistributionError Unit)) (counter : VersionMonotonicCounter)
    (call : Install) : Prop where
  rejected_iff : (counter.reply call).isOk = false ↔
    ∃ version ∈ accepted history call.packageId, call.version.precedence < version.precedence
  unchanged : (counter.reply call).isOk = false → counter.step call = counter
  notLowered : ∀ version, counter.get call.packageId = some version →
    ∃ version', (counter.step call).get call.packageId = some version' ∧ version.precedence ≤ version'.precedence
  others : ∀ packageId, packageId ≠ call.packageId → (counter.step call).get packageId = counter.get packageId

/-- Every call of a run protects against downgrades. -/
def Protected (calls : List Install) : Prop :=
  ∀ before call after, calls = before ++ call :: after →
    Protects (history before) (StepRun.run step new before) call

/-! ## One call -/

/-- What a call can do. -/
theorem checkAndRecord_cases (call : Install) :
    (∃ existing, self.get call.packageId = some existing ∧ call.version.lt existing = true ∧
      (self.reply call).isOk = false ∧ self.step call = self) ∨
    (∃ existing, self.get call.packageId = some existing ∧ call.version.lt existing = false ∧
      call.version.eq existing = true ∧ (self.reply call).isOk = true ∧ self.step call = self) ∨
    ((∀ existing, self.get call.packageId = some existing → call.version.lt existing = false) ∧
      (self.reply call).isOk = true ∧
      self.step call = { self with highest := self.highest.insert call.packageId call.version }) := by
  unfold reply step checkAndRecord get
  cases stored : self.highest.lookup call.packageId with
  | none => exact .inr (.inr ⟨(fun _ found => by cases found), rfl, rfl⟩)
  | some existing =>
    cases older : call.version.lt existing with
    | true => exact .inl ⟨existing, rfl, older, by simp [older, Except.isOk, Except.toBool], by simp [older]⟩
    | false =>
      cases same : call.version.eq existing with
      | true =>
        exact .inr (.inl ⟨existing, rfl, older, same, by simp [older, same, Except.isOk, Except.toBool],
          by simp [older, same]⟩)
      | false =>
        refine .inr (.inr ⟨?_, by simp [older, same, Except.isOk, Except.toBool], by simp [older, same]⟩)
        rintro _ ⟨rfl⟩
        exact older

theorem mem_accepted {history : List (Install × Except DistributionError Unit)} : version ∈ accepted history packageId ↔
      ∃ entry ∈ history, entry.1.packageId = packageId ∧ entry.2.isOk = true ∧ entry.1.version = version := by
  simp only [accepted, List.mem_map, List.mem_filter, Bool.and_eq_true, decide_eq_true_eq]
  constructor
  · rintro ⟨entry, ⟨member, same, ok⟩, rfl⟩
    exact ⟨entry, member, same, ok, rfl⟩
  · rintro ⟨entry, member, same, ok, rfl⟩
    exact ⟨entry, ⟨member, same, ok⟩, rfl⟩

theorem mem_accepted_append_singleton {history : List (Install × Except DistributionError Unit)}
    {entry : Install × Except DistributionError Unit} :
    version ∈ accepted (history ++ [entry]) packageId ↔
      version ∈ accepted history packageId ∨
        (entry.1.packageId = packageId ∧ entry.2.isOk = true ∧ entry.1.version = version) := by
  simp only [mem_accepted, List.mem_append, List.mem_singleton, or_and_right, exists_or, exists_eq_left]

/-- The counter holds, for every package, the highest of the versions accepted for it. -/
structure Highest (history : List (Install × Except DistributionError Unit)) (counter : VersionMonotonicCounter) :
    Prop where
  accepted : ∀ packageId version, counter.get packageId = some version → version ∈ accepted history packageId
  bounds : ∀ packageId, ∀ version ∈ VersionMonotonicCounter.accepted history packageId,
    ∃ highest, counter.get packageId = some highest ∧ version.precedence ≤ highest.precedence
  fits : ∀ packageId version, counter.get packageId = some version → version.Fits

theorem lt_iff {a b : SemVer} (fitsA : a.Fits) (fitsB : b.Fits) : a.lt b = true ↔ a.precedence < b.precedence := by
  rw [SemVer.lt, beq_iff_eq]
  exact (SemVer.cmp_compares fitsA fitsB).eq_lt

end

variable {history : List (Install × Except DistributionError Unit)} {counter : VersionMonotonicCounter}

theorem get_insert (counter : VersionMonotonicCounter) (packageId other : PackageId) (version : SemVer) :
    get { counter with highest := counter.highest.insert packageId version } other =
      if other = packageId then some version else counter.get other :=
  Table.lookup_insert_eq counter.highest packageId other version

/-- A call on a counter that holds the highest versions protects. -/
theorem Highest.protects (highest : Highest history counter) {call : Install} (fits : call.version.Fits) :
    Protects history counter call := by
  obtain ⟨existing, stored, older, rejected, same⟩ | ⟨existing, stored, newer, equal, ok, same⟩ |
    ⟨newer, ok, recorded⟩ := checkAndRecord_cases counter call
  · have below := (lt_iff fits (highest.fits _ existing stored)).mp older
    refine ⟨⟨fun _ => ⟨existing, highest.accepted _ existing stored, below⟩, fun _ => rejected⟩, fun _ => same, ?_, ?_⟩
    · intro version found
      refine ⟨version, ?_, le_refl _⟩
      rw [same]
      exact found
    · intro packageId _
      rw [same]
  · have notBelow : ¬ call.version.precedence < existing.precedence := by
      rw [← lt_iff fits (highest.fits _ existing stored), newer]
      exact Bool.false_ne_true
    refine ⟨⟨fun rejected => ?_, ?_⟩, fun _ => same, ?_, ?_⟩
    · rw [ok] at rejected
      cases rejected
    · rintro ⟨version, member, below⟩
      obtain ⟨bound, found, le⟩ := highest.bounds _ version member
      obtain rfl : existing = bound := Option.some.inj (stored.symm.trans found)
      exact absurd (lt_of_lt_of_le below le) notBelow
    · intro version found
      refine ⟨version, ?_, le_refl _⟩
      rw [same]
      exact found
    · intro packageId _
      rw [same]
  · have notBelow : ∀ existing, counter.get call.packageId = some existing →
        ¬ call.version.precedence < existing.precedence := by
      intro existing stored
      rw [← lt_iff fits (highest.fits _ existing stored), newer existing stored]
      exact Bool.false_ne_true
    refine ⟨⟨fun rejected => ?_, ?_⟩, fun rejected => ?_, ?_, ?_⟩
    · rw [ok] at rejected
      cases rejected
    · rintro ⟨version, member, below⟩
      obtain ⟨bound, found, le⟩ := highest.bounds _ version member
      exact absurd (lt_of_lt_of_le below le) (notBelow bound found)
    · rw [ok] at rejected
      cases rejected
    · intro version found
      refine ⟨call.version, ?_, not_lt.mp (notBelow version found)⟩
      rw [recorded, get_insert, if_pos rfl]
    · intro packageId other
      rw [recorded, get_insert, if_neg other]

/-- One call keeps the counter at the highest versions. -/
theorem Highest.step (highest : Highest history counter) {call : Install} (fits : call.version.Fits) :
    Highest (history ++ [(call, counter.reply call)]) (counter.step call) := by
  obtain ⟨existing, stored, older, rejected, same⟩ | ⟨existing, stored, newer, equal, ok, same⟩ |
    ⟨newer, ok, recorded⟩ := checkAndRecord_cases counter call
  · rw [same]
    refine ⟨?_, ?_, highest.fits⟩
    · intro packageId version found
      exact mem_accepted_append_singleton.mpr (.inl (highest.accepted packageId version found))
    · intro packageId version member
      obtain member | ⟨-, ok, -⟩ := mem_accepted_append_singleton.mp member
      · exact highest.bounds packageId version member
      · rw [rejected] at ok
        cases ok
  · rw [same]
    refine ⟨?_, ?_, highest.fits⟩
    · intro packageId version found
      exact mem_accepted_append_singleton.mpr (.inl (highest.accepted packageId version found))
    · intro packageId version member
      obtain member | ⟨rfl, -, rfl⟩ := mem_accepted_append_singleton.mp member
      · exact highest.bounds packageId version member
      · exact ⟨existing, stored, (SemVer.precedence_eq_of_eq equal).le⟩
  · rw [recorded]
    refine ⟨?_, ?_, ?_⟩
    · intro packageId version found
      rw [get_insert] at found
      split_ifs at found with here
      · cases found
        exact mem_accepted_append_singleton.mpr (.inr ⟨here.symm, ok, rfl⟩)
      · exact mem_accepted_append_singleton.mpr (.inl (highest.accepted packageId version found))
    · intro packageId version member
      rw [get_insert]
      obtain member | ⟨rfl, -, rfl⟩ := mem_accepted_append_singleton.mp member
      · obtain ⟨bound, found, le⟩ := highest.bounds packageId version member
        by_cases here : packageId = call.packageId
        · subst here
          rw [if_pos rfl]
          have notBelow : ¬ call.version.precedence < bound.precedence := by
            rw [← lt_iff fits (highest.fits _ bound found), newer bound found]
            exact Bool.false_ne_true
          exact ⟨call.version, rfl, le.trans (not_lt.mp notBelow)⟩
        · rw [if_neg here]
          exact ⟨bound, found, le⟩
      · rw [if_pos rfl]
        exact ⟨call.version, rfl, le_refl _⟩
    · intro packageId version found
      rw [get_insert] at found
      split_ifs at found
      · cases found
        exact fits
      · exact highest.fits packageId version found

/-- A counter reached through versions that fit holds the highest ones. -/
theorem highest_run {calls : List Install} (fits : ∀ call ∈ calls, call.version.Fits) :
    Highest (VersionMonotonicCounter.history calls) (StepRun.run VersionMonotonicCounter.step new calls) := by
  induction calls using List.reverseRecOn with
  | nil =>
    refine ⟨fun _ _ found => ?_, fun _ _ member => ?_, fun _ _ found => ?_⟩
    · cases found
    · exact absurd member List.not_mem_nil
    · cases found
  | append_singleton before call ih =>
    unfold VersionMonotonicCounter.history
    rw [StepRun.run_append, StepRun.trace_append_singleton]
    apply (ih fun other member => fits other (List.mem_append_left _ member)).step
    exact fits call (List.mem_append_right _ (List.mem_singleton_self call))

/-- A run in which every version fits is protected against downgrades. -/
theorem protected_of_fits {calls : List Install} (fits : ∀ call ∈ calls, call.version.Fits) : Protected calls := by
  rintro before call after rfl
  have fitsBefore : ∀ other ∈ before, other.version.Fits := fun other member =>
    fits other (List.mem_append_left _ member)
  apply (highest_run fitsBefore).protects
  exact fits call (List.mem_append_right _ List.mem_cons_self)

/-- Two releases and an attempt at the older one. -/
theorem protected_of_fits_releases : Protected
    [⟨⟨"pkg:a:b"⟩, ⟨1, 0, 0, none, none⟩⟩, ⟨⟨"pkg:a:b"⟩, ⟨1, 1, 0, some "rc.1", none⟩⟩,
      ⟨⟨"pkg:a:b"⟩, ⟨1, 0, 1, none, none⟩⟩] :=
  protected_of_fits (by decide +kernel)

/-- A numeric identifier past 64 bits reads as 0, and the newer version is rejected. -/
theorem overflowingIdentifier_unprotected : ∃ older newer,
    parse "1.0.0-2" = .ok older ∧ parse "1.0.0-18446744073709551616" = .ok newer ∧
      ¬ Protected [⟨⟨"pkg:a:b"⟩, older⟩, ⟨⟨"pkg:a:b"⟩, newer⟩] := by
  refine ⟨⟨1, 0, 0, some "2", none⟩, ⟨1, 0, 0, some "18446744073709551616", none⟩,
    by decide +kernel, by decide +kernel, ?_⟩
  intro protects
  have rejected := (protects [_] _ [] rfl).rejected_iff.mp (by decide +kernel)
  exact absurd rejected (by decide +kernel)

/-- The condition cannot be weakened: a parsed version that does not fit is wrongly rejected after some
parsed version that fits. -/
theorem exists_unprotected {text : String} {version : SemVer} (parsed : parse text = .ok version)
    (overflows : ¬ version.Fits) (packageId : PackageId) :
    ∃ text' older, parse text' = .ok older ∧ older.Fits ∧
      ¬ Protected [⟨packageId, older⟩, ⟨packageId, version⟩] := by
  obtain ⟨text', older, parsed', fits, rejected, higher⟩ := exists_misjudged parsed overflows
  refine ⟨text', older, parsed', fits, ?_⟩
  intro protects
  have stored : (step new ⟨packageId, older⟩).get packageId = some older := by
    change get { new with highest := new.highest.insert packageId older } packageId = some older
    rw [get_insert, if_pos rfl]
  have blocked : ((step new ⟨packageId, older⟩).reply ⟨packageId, version⟩).isOk = false := by
    obtain ⟨existing, found, -, blocked, -⟩ | ⟨existing, found, newer, -⟩ | ⟨newer, -⟩ :=
      checkAndRecord_cases (step new ⟨packageId, older⟩) ⟨packageId, version⟩
    · exact blocked
    · obtain rfl : older = existing := Option.some.inj (stored.symm.trans found)
      exact absurd (rejected.symm.trans newer) (by decide)
    · exact absurd (rejected.symm.trans (newer older stored)) (by decide)
  obtain ⟨other, member, below⟩ := (protects [⟨packageId, older⟩] ⟨packageId, version⟩ [] rfl).rejected_iff.mp blocked
  obtain ⟨entry, only, -, -, rfl⟩ := mem_accepted.mp member
  obtain rfl := List.mem_singleton.mp only
  exact lt_asymm higher below

theorem exists_unprotected_overflowing : ∃ text' older, parse text' = .ok older ∧ older.Fits ∧
    ¬ Protected [⟨⟨"pkg:a:b"⟩, older⟩, ⟨⟨"pkg:a:b"⟩, ⟨1, 0, 0, some "18446744073709551616", none⟩⟩] :=
  exists_unprotected (show parse "1.0.0-18446744073709551616" = .ok _ by decide +kernel) (by decide +kernel) _

end VersionMonotonicCounter

end Aios.Distribution
