import Aios.Lib.Run
import Aios.Lib.Table
import Aios.Rust.Basic
import Mathlib.Algebra.BigOperators.Group.List.Basic
import Mathlib.Algebra.Order.Ring.Nat

/-! # The zero-trust engine

The embedding of `zero_trust.rs`: a policy scores the check results a host submits, and the engine
keeps the last posture of every host with the level its policy computed. The level a caller submits is
overwritten, but the drift between two postures is taken before that, on the posture as submitted. So
a fall of the returned level is recorded with both levels exactly when the caller has submitted the
level the policy computes.

Arithmetic that panics is `none`: a division by zero, and an overflowing `u16` sum where the build
checks for overflow.
-/

namespace Aios.Fleet

open Aios.Rust

inductive ZeroTrustCheck where
  | tpmAttestation
  | selinuxEnforcing
  | imaAppraisal
  | dmVerityIntegrity
  | serviceHardeningScore
  | fleetMembershipValid
  | evidenceChainConsistent
  | networkPostureValid
  | cryptoBoundaryIntact
  | dataResidencyCompliant
deriving DecidableEq, Repr

/-- Declared from least to most trusted, as the derived `Ord` reads it. -/
inductive TrustLevel where
  | quarantined
  | untrusted
  | conditionalTrust
  | trusted
deriving DecidableEq, Repr

namespace TrustLevel

/-- The place in the declaration. -/
def discriminant : TrustLevel → ℕ
  | quarantined => 0
  | untrusted => 1
  | conditionalTrust => 2
  | trusted => 3

instance : LT TrustLevel := ⟨fun level other => level.discriminant < other.discriminant⟩

instance (level other : TrustLevel) : Decidable (level < other) :=
  inferInstanceAs (Decidable (level.discriminant < other.discriminant))

def allowsAccess : TrustLevel → Bool
  | trusted | conditionalTrust => true
  | _ => false

def isDenied : TrustLevel → Bool
  | untrusted | quarantined => true
  | _ => false

def label : TrustLevel → String
  | trusted => "TRUSTED"
  | conditionalTrust => "CONDITIONAL_TRUST"
  | untrusted => "UNTRUSTED"
  | quarantined => "QUARANTINED"

end TrustLevel

structure ZeroTrustCheckResult where
  check : ZeroTrustCheck
  passed : Bool
  score : UInt8
deriving DecidableEq

structure ZeroTrustPosture where
  hostId : String
  lastFullRecheck : Option DateTime
  perCheckResults : List ZeroTrustCheckResult
  overallTrustLevel : TrustLevel
deriving DecidableEq

/-! ## Scores -/

/-- A `u16` sum of scores: past `u16::MAX` it panics in a build with overflow checks and wraps in one
without. -/
def scoreTotal (checks : Bool) (results : List ZeroTrustCheckResult) : Option ℕ :=
  let total := (results.map fun result => result.score.toNat).sum
  if total < 65536 then some total else if checks then none else some (total % 65536)

/-- `total / results.len() as u16`. -/
def scoreAverage (checks : Bool) (results : List ZeroTrustCheckResult) : Option ℕ := do
  let total ← scoreTotal checks results
  let count := results.length % 65536
  if count = 0 then none else some (total / count)

def ZeroTrustPosture.aggregateScore (self : ZeroTrustPosture) (checks : Bool) : Option (Option ℕ) :=
  if self.perCheckResults.isEmpty then some none
  else do
    let avg ← scoreAverage checks self.perCheckResults
    some (if 255 < avg then none else some avg)

/-- `{:?}` of an `Option<u8>`. -/
def debugScore : Option ℕ → String
  | none => "None"
  | some score => s!"Some({score})"

structure ZeroTrustPolicy where
  mandatoryChecks : List ZeroTrustCheck
  quarantineThreshold : UInt8
  conditionalTrustThreshold : UInt8

namespace ZeroTrustPolicy

def allMandatoryPassed (self : ZeroTrustPolicy) (results : List ZeroTrustCheckResult) : Bool :=
  self.mandatoryChecks.all fun required =>
    results.any fun result => decide (result.check = required) && result.passed

def computeTrustLevel (self : ZeroTrustPolicy) (checks : Bool) (results : List ZeroTrustCheckResult) :
    Option TrustLevel :=
  if results.isEmpty then some .untrusted
  else do
    let average ← scoreAverage checks results
    -- `u8::try_from(..).unwrap_or(0)`
    let avg := if average < 256 then average else 0
    if avg < self.quarantineThreshold.toNat then some .quarantined
    else if avg < self.conditionalTrustThreshold.toNat then some .conditionalTrust
    else if self.allMandatoryPassed results then some .trusted
    else some .conditionalTrust

def mandatoryForDev : List ZeroTrustCheck := [.selinuxEnforcing, .fleetMembershipValid]

def devRelaxed : ZeroTrustPolicy := ⟨mandatoryForDev, 40, 60⟩

end ZeroTrustPolicy

/-! ## Drift and evidence -/

structure PostureDrift where
  previous : ZeroTrustPosture
  current : ZeroTrustPosture
  detectedAt : DateTime
  resultingLevel : TrustLevel

def PostureDrift.detect (checks : Bool) (now : DateTime) (previous current : ZeroTrustPosture) :
    Option (Option PostureDrift) := do
  let prevScore ← previous.aggregateScore checks
  let currScore ← current.aggregateScore checks
  let scoreDegraded := match prevScore, currScore with
    | some p, some c => decide (c < p)
    | _, _ => false
  let checksDegraded := previous.perCheckResults.any fun prev =>
    prev.passed && current.perCheckResults.any fun curr => decide (curr.check = prev.check) && !curr.passed
  let tierDegraded := decide (current.overallTrustLevel < previous.overallTrustLevel)
  some (if scoreDegraded || checksDegraded || tierDegraded then
      some { previous, current, detectedAt := now, resultingLevel := current.overallTrustLevel }
    else none)

inductive ZeroTrustEvidenceKind where
  | zeroTrustPostureEvaluated
  | postureDriftDetected
  | hostQuarantined
  | hostTrustRestored
deriving DecidableEq, Repr

structure ZeroTrustEvidence where
  kind : ZeroTrustEvidenceKind
  hostId : String
  timestamp : DateTime
  details : String
  previousLevel : Option TrustLevel
  newLevel : TrustLevel
  aggregateScore : Option ℕ
deriving DecidableEq

/-- The record of a drift, with the text `update_posture` gives it. -/
def PostureDrift.evidence (self : PostureDrift) (checks : Bool) (now : DateTime) (hostId : String) :
    Option ZeroTrustEvidence := do
  let before ← self.previous.aggregateScore checks
  let after ← self.current.aggregateScore checks
  some {
    kind := .postureDriftDetected
    hostId := hostId
    timestamp := now
    details := s!"drift: {self.previous.overallTrustLevel.label} -> {self.resultingLevel.label}" ++
      s!" (score: {debugScore before} -> {debugScore after})"
    previousLevel := some self.previous.overallTrustLevel
    newLevel := self.resultingLevel
    aggregateScore := after }

/-! ## The engine -/

structure ZeroTrustEngine where
  policy : ZeroTrustPolicy
  postureState : Table String ZeroTrustPosture

namespace ZeroTrustEngine

section

variable (self : ZeroTrustEngine)

def new (policy : ZeroTrustPolicy) : ZeroTrustEngine := ⟨policy, ∅⟩

def setPosture (posture : ZeroTrustPosture) : ZeroTrustEngine :=
  { self with postureState := self.postureState.insert posture.hostId posture }

/-- The records that follow from the levels alone: quarantine, restored trust, and the evaluation. -/
def levelEvidence (now : DateTime) (hostId : String) (previousLevel newLevel : TrustLevel) (score : Option ℕ) :
    List ZeroTrustEvidence :=
  (if newLevel = .quarantined && previousLevel ≠ .quarantined then
    [{ kind := .hostQuarantined, hostId, timestamp := now
       details := s!"host quarantined: score {debugScore score} below quarantine threshold " ++
         s!"{self.policy.quarantineThreshold.toNat}"
       previousLevel := some previousLevel, newLevel := .quarantined, aggregateScore := score }]
  else []) ++
  (if newLevel.allowsAccess && previousLevel.isDenied then
    [{ kind := .hostTrustRestored, hostId, timestamp := now
       details := s!"trust restored: {previousLevel.label} -> {newLevel.label} (score: {debugScore score})"
       previousLevel := some previousLevel, newLevel, aggregateScore := score }]
  else []) ++
  [{ kind := .zeroTrustPostureEvaluated, hostId, timestamp := now
     details := s!"posture evaluated: {previousLevel.label} -> {newLevel.label}"
     previousLevel := some previousLevel, newLevel, aggregateScore := score }]

/-- `posture_state.get(..).and_then(|prev| PostureDrift::detect(prev, &posture))`. -/
def drift (checks : Bool) (now : DateTime) (posture : ZeroTrustPosture) : Option (Option PostureDrift) :=
  match self.postureState.lookup posture.hostId with
  | some prev => PostureDrift.detect checks now prev posture
  | none => some none

/-- The record of the drift, if there is one. -/
def driftEvidence (checks : Bool) (now : DateTime) (hostId : String) :
    Option PostureDrift → Option (List ZeroTrustEvidence)
  | some d => (d.evidence checks now hostId).map fun record => [record]
  | none => some []

/-- `none` where the call panics, which it does before it stores anything. -/
def updatePosture (checks : Bool) (now : DateTime) (posture : ZeroTrustPosture) :
    Option ((TrustLevel × List ZeroTrustEvidence) × ZeroTrustEngine) := do
  let hostId := posture.hostId
  let previousLevel := ((self.postureState.lookup hostId).map (·.overallTrustLevel)).getD .untrusted
  let drift ← self.drift checks now posture
  let newLevel ← self.policy.computeTrustLevel checks posture.perCheckResults
  let score ← posture.aggregateScore checks
  let driftRecords ← driftEvidence checks now hostId drift
  let evidenceRecords := driftRecords ++ self.levelEvidence now hostId previousLevel newLevel score
  let updated := { posture with overallTrustLevel := newLevel, lastFullRecheck := some now }
  some ((newLevel, evidenceRecords), self.setPosture updated)

/-! ## One update -/

end

variable {checks : Bool} {now : DateTime} {posture : ZeroTrustPosture}

variable {self after : ZeroTrustEngine} {level : TrustLevel} {records : List ZeroTrustEvidence}

/-- The policy scores a posture whenever the posture has an aggregate score. -/
theorem computeTrustLevel_isSome_iff (policy : ZeroTrustPolicy) :
    (policy.computeTrustLevel checks posture.perCheckResults).isSome ↔ (posture.aggregateScore checks).isSome := by
  unfold ZeroTrustPolicy.computeTrustLevel ZeroTrustPosture.aggregateScore
  by_cases empty : posture.perCheckResults.isEmpty
  · rw [if_pos empty, if_pos empty]
    exact Iff.rfl
  · rw [if_neg empty, if_neg empty]
    cases scoreAverage checks posture.perCheckResults with
    | none => exact Iff.rfl
    | some average =>
      simp only [Option.bind_eq_bind, Option.bind_some, Option.isSome_some, iff_true]
      split_ifs <;> rfl

/-- What the comparison of two scored postures yields: a fall of the stated level is always seen, and a
drift is between the two postures as they are stated. -/
theorem detect_eq {prev : ZeroTrustPosture} {drift : Option PostureDrift}
    (detected : PostureDrift.detect checks now prev posture = some drift) :
    (posture.overallTrustLevel < prev.overallTrustLevel → drift.isSome) ∧
      ∀ d, drift = some d → d.previous = prev ∧ d.resultingLevel = posture.overallTrustLevel := by
  simp only [PostureDrift.detect, Option.bind_eq_bind, Option.bind_eq_some_iff, Option.some.injEq] at detected
  obtain ⟨prevScore, -, currScore, -, rfl⟩ := detected
  constructor
  · intro fell
    simp only [fell, decide_true, Bool.or_true, if_true, Option.isSome_some]
  · intro d found
    split_ifs at found
    cases found
    exact ⟨rfl, rfl⟩

/-- The drift records of an answer: one for every fall of the stated level, each with the stored level
and the stated one. -/
structure DriftRecords (stored : Option ZeroTrustPosture) (posture : ZeroTrustPosture)
    (records : List ZeroTrustEvidence) : Prop where
  seen : ∀ prev, stored = some prev → posture.overallTrustLevel < prev.overallTrustLevel → records ≠ []
  kind : ∀ record ∈ records, record.kind = .postureDriftDetected ∧ record.hostId = posture.hostId
  levels : ∀ record ∈ records, ∃ prev, stored = some prev ∧ record.previousLevel = some prev.overallTrustLevel ∧
    record.newLevel = posture.overallTrustLevel

/-- What an update answers and stores. -/
theorem updatePosture_eq_some (answered : self.updatePosture checks now posture = some ((level, records), after)) :
    self.policy.computeTrustLevel checks posture.perCheckResults = some level ∧
      after = self.setPosture { posture with overallTrustLevel := level, lastFullRecheck := some now } ∧
      ∃ drift previous score, DriftRecords (self.postureState.lookup posture.hostId) posture drift ∧
        records = drift ++ self.levelEvidence now posture.hostId previous level score := by
  simp only [updatePosture, Option.bind_eq_bind, Option.bind_eq_some_iff, Option.some.injEq, Prod.mk.injEq] at answered
  obtain ⟨drift, compared, newLevel, computed, score, scored, driftRecords, recorded, ⟨rfl, rfl⟩, rfl⟩ := answered
  refine ⟨computed, rfl, driftRecords, _, score, ?_, rfl⟩
  cases stored : self.postureState.lookup posture.hostId with
  | none =>
    simp only [ZeroTrustEngine.drift, stored] at compared
    cases compared
    cases recorded
    exact ⟨by simp, by simp, by simp⟩
  | some prev =>
    simp only [ZeroTrustEngine.drift, stored] at compared
    obtain ⟨seen, between⟩ := detect_eq compared
    cases drift with
    | none =>
      cases recorded
      refine ⟨?_, by simp, by simp⟩
      rintro _ ⟨rfl⟩ fell
      exact absurd (seen fell) (by simp)
    | some d =>
      obtain ⟨record, made, rfl⟩ := Option.map_eq_some_iff.mp recorded
      obtain ⟨rfl, level⟩ := between d rfl
      simp only [PostureDrift.evidence, Option.bind_eq_bind, Option.bind_eq_some_iff, Option.some.injEq] at made
      obtain ⟨before, -, after, -, rfl⟩ := made
      refine ⟨by simp, by simp, ?_⟩
      intro record member
      obtain rfl := List.mem_singleton.mp member
      exact ⟨d.previous, rfl, rfl, level⟩

/-- No record that follows from the levels is one of a drift. -/
theorem levelEvidence_kind {hostId : String} {previous : TrustLevel} {score : Option ℕ} {record : ZeroTrustEvidence}
    (member : record ∈ self.levelEvidence now hostId previous level score) : record.kind ≠ .postureDriftDetected := by
  simp only [levelEvidence, List.mem_append, List.mem_singleton] at member
  obtain (member | member) | rfl := member
  · split_ifs at member
    · obtain rfl := List.mem_singleton.mp member
      exact ZeroTrustEvidenceKind.noConfusion
    · exact absurd member List.not_mem_nil
  · split_ifs at member
    · obtain rfl := List.mem_singleton.mp member
      exact ZeroTrustEvidenceKind.noConfusion
    · exact absurd member List.not_mem_nil
  · exact ZeroTrustEvidenceKind.noConfusion

/-- The answer records the fall from `previous` to `level`. -/
def Reports (hostId : String) (previous level : TrustLevel) (records : List ZeroTrustEvidence) : Prop :=
  ∃ record ∈ records, record.kind = .postureDriftDetected ∧ record.hostId = hostId ∧
    record.previousLevel = some previous ∧ record.newLevel = level

instance (hostId : String) (previous level : TrustLevel) (records : List ZeroTrustEvidence) :
    Decidable (Reports hostId previous level records) := List.decidableBEx _ records

/-- A fall from the stored level to the computed one is recorded exactly if the computed level is the
one the posture states. -/
theorem reports_iff {stored : ZeroTrustPosture}
    (answered : self.updatePosture checks now posture = some ((level, records), after))
    (found : self.postureState.lookup posture.hostId = some stored) (fell : level < stored.overallTrustLevel) :
    Reports posture.hostId stored.overallTrustLevel level records ↔ posture.overallTrustLevel = level := by
  obtain ⟨-, -, drift, previous, score, drifts, rfl⟩ := updatePosture_eq_some answered
  constructor
  · rintro ⟨record, member, kind, -, -, newLevel⟩
    obtain member | member := List.mem_append.mp member
    · obtain ⟨-, -, -, stated⟩ := drifts.levels record member
      exact stated.symm.trans newLevel
    · exact absurd kind (levelEvidence_kind member)
  · rintro rfl
    obtain ⟨record, member⟩ := List.exists_mem_of_ne_nil drift (drifts.seen stored found fell)
    obtain ⟨prev, same, previousLevel, newLevel⟩ := drifts.levels record member
    obtain rfl : stored = prev := Option.some.inj (found.symm.trans same)
    obtain ⟨kind, host⟩ := drifts.kind record member
    exact ⟨record, List.mem_append_left _ member, kind, host, previousLevel, newLevel⟩

/-- An update panics only where the scores of the submitted or the stored posture do. -/
theorem updatePosture_isSome {self : ZeroTrustEngine} (now : DateTime) (scored : (posture.aggregateScore checks).isSome)
    (storedScored : ∀ stored, self.postureState.lookup posture.hostId = some stored →
      (stored.aggregateScore checks).isSome) :
    ∃ level records after, self.updatePosture checks now posture = some ((level, records), after) := by
  obtain ⟨level, computed⟩ := Option.isSome_iff_exists.mp ((computeTrustLevel_isSome_iff self.policy).mpr scored)
  obtain ⟨score, scored⟩ := Option.isSome_iff_exists.mp scored
  have compared : ∃ drift records, self.drift checks now posture = some drift ∧
      driftEvidence checks now posture.hostId drift = some records := by
    cases found : self.postureState.lookup posture.hostId with
    | none => exact ⟨none, [], by simp [ZeroTrustEngine.drift, found], rfl⟩
    | some stored =>
      obtain ⟨before, storedScore⟩ := Option.isSome_iff_exists.mp (storedScored stored found)
      simp only [ZeroTrustEngine.drift, found, PostureDrift.detect, storedScore, scored, Option.bind_eq_bind,
        Option.bind_some, Option.some.injEq, exists_and_left, exists_eq_left']
      split_ifs
      · simp [driftEvidence, PostureDrift.evidence, storedScore, scored]
      · exact ⟨[], rfl⟩
  obtain ⟨drift, records, compared, recorded⟩ := compared
  cases answered : self.updatePosture checks now posture with
  | none =>
    simp only [updatePosture, compared, computed, scored, recorded, Option.bind_eq_bind, Option.bind_some] at answered
    cases answered
  | some answer => exact ⟨answer.1.1, answer.1.2, answer.2, rfl⟩

end ZeroTrustEngine

/-! ## Runs -/

/-- A call of `update_posture`: the clock and the posture it submits. -/
structure PostureUpdate where
  now : DateTime
  posture : ZeroTrustPosture

namespace ZeroTrustEngine

/-- What a call returns; `none` where it panics. -/
def reply (checks : Bool) (self : ZeroTrustEngine) (call : PostureUpdate) :
    Option (TrustLevel × List ZeroTrustEvidence) :=
  (self.updatePosture checks call.now call.posture).map Prod.fst

/-- The engine after a call, as it was where the call panics. -/
def step (checks : Bool) (self : ZeroTrustEngine) (call : PostureUpdate) : ZeroTrustEngine :=
  ((self.updatePosture checks call.now call.posture).map Prod.snd).getD self

/-- The calls made on a new engine, each with what it returned. -/
def history (checks : Bool) (policy : ZeroTrustPolicy) (calls : List PostureUpdate) :
    List (PostureUpdate × Option (TrustLevel × List ZeroTrustEvidence)) :=
  StepRun.trace (step checks) (reply checks) (new policy) calls

/-- The level that the last update of the host to return has returned. -/
def lastReturned (history : List (PostureUpdate × Option (TrustLevel × List ZeroTrustEvidence)))
    (hostId : String) : Option TrustLevel :=
  history.reverse.findSome? fun entry =>
    if entry.1.posture.hostId = hostId then entry.2.map Prod.fst else none

/-- Whenever an update returns a level below the one returned before for its host, its evidence says so. -/
def NoSilentLoss (history : List (PostureUpdate × Option (TrustLevel × List ZeroTrustEvidence))) : Prop :=
  ∀ before entry after, history = before ++ entry :: after →
    ∀ level records previous, entry.2 = some (level, records) →
      lastReturned before entry.1.posture.hostId = some previous → level < previous →
      Reports entry.1.posture.hostId previous level records

/-- The posture states the level that the policy computes for it, if that is below the stored level. -/
def StatesLoss (checks : Bool) (self : ZeroTrustEngine) (call : PostureUpdate) : Prop :=
  ∀ level stored, self.policy.computeTrustLevel checks call.posture.perCheckResults = some level →
    self.postureState.lookup call.posture.hostId = some stored → level < stored.overallTrustLevel →
    call.posture.overallTrustLevel = level

/-- The engine holds, for every host, a scored posture with the level last returned. -/
structure Tracks (checks : Bool) (engine : ZeroTrustEngine)
    (history : List (PostureUpdate × Option (TrustLevel × List ZeroTrustEvidence))) : Prop where
  level : ∀ hostId, (engine.postureState.lookup hostId).map (·.overallTrustLevel) = lastReturned history hostId
  scored : ∀ hostId stored, engine.postureState.lookup hostId = some stored → (stored.aggregateScore checks).isSome

theorem lastReturned_append_singleton (history : List (PostureUpdate × Option (TrustLevel × List ZeroTrustEvidence)))
    (entry : PostureUpdate × Option (TrustLevel × List ZeroTrustEvidence)) (hostId : String) :
    lastReturned (history ++ [entry]) hostId =
      (if entry.1.posture.hostId = hostId then entry.2.map Prod.fst else none).or (lastReturned history hostId) := by
  unfold lastReturned
  rw [List.reverse_append, List.reverse_singleton, List.singleton_append, List.findSome?_cons]
  cases (if entry.1.posture.hostId = hostId then entry.2.map Prod.fst else none) <;> rfl

variable {checks : Bool} {self : ZeroTrustEngine}
  {history : List (PostureUpdate × Option (TrustLevel × List ZeroTrustEvidence))}

/-- One call keeps the engine in line with what was returned. -/
theorem Tracks.step (tracks : Tracks checks self history) (call : PostureUpdate) :
    Tracks checks (step checks self call) (history ++ [(call, reply checks self call)]) := by
  unfold ZeroTrustEngine.step reply
  cases answered : self.updatePosture checks call.now call.posture with
  | none =>
    refine ⟨?_, tracks.scored⟩
    intro hostId
    rw [lastReturned_append_singleton]
    change _ = (if call.posture.hostId = hostId then none else none).or _
    rw [ite_self]
    exact tracks.level hostId
  | some answer =>
    obtain ⟨⟨level, records⟩, after⟩ := answer
    obtain ⟨computed, rfl, -⟩ := updatePosture_eq_some answered
    have scored : (call.posture.aggregateScore checks).isSome :=
      (computeTrustLevel_isSome_iff self.policy).mp (by rw [computed]; rfl)
    constructor
    · intro hostId
      rw [lastReturned_append_singleton]
      change ((self.postureState.insert call.posture.hostId _).lookup hostId).map _ =
        (if call.posture.hostId = hostId then some level else none).or _
      rw [Table.lookup_insert_eq]
      by_cases same : call.posture.hostId = hostId
      · rw [if_pos same, if_pos same.symm]
        rfl
      · rw [if_neg same, if_neg (Ne.symm same)]
        exact tracks.level hostId
    · intro hostId stored found
      change (self.postureState.insert call.posture.hostId _).lookup hostId = some stored at found
      rw [Table.lookup_insert_eq] at found
      split_ifs at found with same
      · cases found
        exact scored
      · exact tracks.scored hostId stored found

/-- Every state of a run is in line with what was returned on the way. -/
theorem tracks_run (checks : Bool) (policy : ZeroTrustPolicy) (calls : List PostureUpdate) :
    Tracks checks (StepRun.run (step checks) (new policy) calls) (ZeroTrustEngine.history checks policy calls) := by
  induction calls using List.reverseRecOn with
  | nil => exact ⟨fun _ => rfl, fun _ _ found => by cases found⟩
  | append_singleton before call ih =>
    unfold ZeroTrustEngine.history
    rw [StepRun.run_append, StepRun.trace_append_singleton]
    exact ih.step call

/-- What a call has to record, seen from a state in line with the history. -/
theorem Tracks.reports_iff (tracks : Tracks checks self history) (call : PostureUpdate) :
    (∀ level records previous, reply checks self call = some (level, records) →
      lastReturned history call.posture.hostId = some previous → level < previous →
      Reports call.posture.hostId previous level records) ↔ StatesLoss checks self call := by
  constructor
  · intro reported level stored computed found fell
    have scored := (computeTrustLevel_isSome_iff self.policy).mp (by rw [computed]; rfl)
    obtain ⟨level', records, after, answered⟩ := updatePosture_isSome call.now scored
      (fun stored => tracks.scored call.posture.hostId stored)
    obtain ⟨computed', -⟩ := updatePosture_eq_some answered
    obtain rfl : level = level' := Option.some.inj (computed.symm.trans computed')
    apply (ZeroTrustEngine.reports_iff answered found fell).mp
    apply reported level records stored.overallTrustLevel
    · rw [reply, answered]
      rfl
    · rw [← tracks.level, found]
      rfl
    · exact fell
  · intro stated level records previous replied returned fell
    obtain ⟨⟨⟨level', records'⟩, after⟩, answered, same⟩ := Option.map_eq_some_iff.mp replied
    cases same
    rw [← tracks.level] at returned
    obtain ⟨stored, found, rfl⟩ := Option.map_eq_some_iff.mp returned
    obtain ⟨computed, -⟩ := updatePosture_eq_some answered
    exact (ZeroTrustEngine.reports_iff answered found fell).mpr (stated _ stored computed found fell)

/-- In a run no fall of the returned level goes unrecorded exactly if every update whose computed level
is below the stored one states the computed level itself. -/
theorem noSilentLoss_iff (checks : Bool) (policy : ZeroTrustPolicy) (calls : List PostureUpdate) :
    NoSilentLoss (ZeroTrustEngine.history checks policy calls) ↔
      StepRun.Along (step checks) (StatesLoss checks) (new policy) calls := by
  unfold NoSilentLoss ZeroTrustEngine.history
  rw [StepRun.along_iff_cut, StepRun.forall_trace_iff_cut]
  constructor
  · intro reported before call after split
    exact ((tracks_run checks policy before).reports_iff call).mp (reported before call after split)
  · intro stated before call after split
    exact ((tracks_run checks policy before).reports_iff call).mpr (stated before call after split)

/-- A host that passes both checks, and then leaves out the second one and states that it is trusted. -/
def omittedCheck : List PostureUpdate :=
  let passing (check : ZeroTrustCheck) : ZeroTrustCheckResult := ⟨check, true, 100⟩
  [⟨0, ⟨"host", none, [passing .selinuxEnforcing, passing .fleetMembershipValid], .untrusted⟩⟩,
    ⟨1, ⟨"host", none, [passing .selinuxEnforcing], .trusted⟩⟩]

/-- The host falls from trusted to conditional trust, and the evidence holds no drift. -/
theorem omittedCheck_unrecorded : ¬ NoSilentLoss (ZeroTrustEngine.history false .devRelaxed omittedCheck) := by
  intro silent
  have reported := silent [_] _ [] rfl .conditionalTrust _ .trusted rfl (by decide +kernel) (by decide)
  exact absurd reported (by decide +kernel)

end ZeroTrustEngine

/-! ## Trust scoring

A policy and a posture average the same scores, both in sixteen bits. A mandatory check has passed for either as soon
as one of its results has, so a failing result besides it does not keep the level from being trusted.
-/

/-! ### What the scores are -/

/-- The sum of the scores, in no width. -/
def exactTotal (results : List ZeroTrustCheckResult) : ℕ := (results.map fun result => result.score.toNat).sum

/-- The quotient of the sum and the number of results; an empty list has none. -/
def exactAverage (results : List ZeroTrustCheckResult) : Option ℕ :=
  if results.isEmpty then none else some (exactTotal results / results.length)

theorem exactTotal_le (results : List ZeroTrustCheckResult) : exactTotal results ≤ 255 * results.length := by
  induction results with
  | nil => exact le_refl 0
  | cons result rest ih =>
    have score := result.score.toNat_lt
    have step : exactTotal (result :: rest) = result.score.toNat + exactTotal rest := List.sum_cons
    rw [step, List.length_cons]
    omega

theorem exactTotal_div_le (results : List ZeroTrustCheckResult) : exactTotal results / results.length ≤ 255 := by
  apply Nat.div_le_of_le_mul
  rw [Nat.mul_comm]
  exact exactTotal_le results

/-! ### Sixteen bits -/

/-- The sum and the number of results fit. -/
structure Fits16 (results : List ZeroTrustCheckResult) : Prop where
  total : exactTotal results < 65536
  count : results.length < 65536

variable {results : List ZeroTrustCheckResult} {checks : Bool}

theorem scoreTotal_eq (fits : Fits16 results) : scoreTotal checks results = some (exactTotal results) :=
  if_pos fits.total

theorem scoreAverage_eq (fits : Fits16 results) (listed : results.isEmpty = false) :
    scoreAverage checks results = some (exactTotal results / results.length) := by
  have positive : 0 < results.length := List.length_pos_iff.mpr (List.isEmpty_eq_false_iff.mp listed)
  unfold scoreAverage
  rw [scoreTotal_eq fits, Nat.mod_eq_of_lt fits.count]
  exact if_neg (Nat.ne_of_gt positive)

/-- The average a posture reports is the exact one. -/
theorem aggregateScore_eq {posture : ZeroTrustPosture} (fits : Fits16 posture.perCheckResults) :
    posture.aggregateScore checks = some (exactAverage posture.perCheckResults) := by
  unfold ZeroTrustPosture.aggregateScore exactAverage
  cases listed : posture.perCheckResults.isEmpty with
  | true => rfl
  | false =>
    have inByte := exactTotal_div_le posture.perCheckResults
    rw [scoreAverage_eq fits listed]
    exact congrArg some (if_neg (Nat.not_lt.mpr inByte))

namespace ZeroTrustPolicy

variable (self : ZeroTrustPolicy)

/-- The level of a list with an average. -/
def levelOf (results : List ZeroTrustCheckResult) : Option ℕ → TrustLevel
  | none => .untrusted
  | some avg =>
    if avg < self.quarantineThreshold.toNat then .quarantined
    else if avg < self.conditionalTrustThreshold.toNat then .conditionalTrust
    else if self.allMandatoryPassed results then .trusted
    else .conditionalTrust

/-- The level is computed from the exact average as well. -/
theorem computeTrustLevel_eq (fits : Fits16 results) :
    self.computeTrustLevel checks results = some (self.levelOf results (exactAverage results)) := by
  unfold computeTrustLevel exactAverage
  cases listed : results.isEmpty with
  | true => rfl
  | false =>
    have inByte := exactTotal_div_le results
    rw [scoreAverage_eq fits listed]
    unfold levelOf
    simp only [Option.bind_eq_bind, Option.bind_some, Bool.false_eq_true, if_false]
    rw [if_pos (Nat.lt_succ_of_le inByte)]
    split_ifs <;> rfl

/-! ### Mandatory checks -/

/-- A result of a mandatory check has failed. -/
def FailsMandatory (results : List ZeroTrustCheckResult) : Prop :=
  ∃ result ∈ results, result.check ∈ self.mandatoryChecks ∧ result.passed = false

/-- The check has a result that has passed, and none that has failed. -/
def PassesOnly (results : List ZeroTrustCheckResult) (required : ZeroTrustCheck) : Prop :=
  (∃ result ∈ results, result.check = required ∧ result.passed = true) ∧
    ∀ result ∈ results, result.check = required → result.passed = true

theorem allMandatoryPassed_iff : self.allMandatoryPassed results = true ↔
    ∀ required ∈ self.mandatoryChecks, ∃ result ∈ results, result.check = required ∧ result.passed = true := by
  unfold allMandatoryPassed
  simp only [List.all_eq_true, List.any_eq_true, Bool.and_eq_true, decide_eq_true_eq]

theorem passesOnly_iff : (∀ required ∈ self.mandatoryChecks, PassesOnly results required) ↔
    self.allMandatoryPassed results = true ∧ ¬ self.FailsMandatory results := by
  rw [allMandatoryPassed_iff]
  constructor
  · intro passes
    refine ⟨fun required mandatory => (passes required mandatory).1, ?_⟩
    rintro ⟨result, member, mandatory, failed⟩
    have passed := (passes result.check mandatory).2 result member rfl
    rw [failed] at passed
    cases passed
  · rintro ⟨passed, unfailed⟩ required mandatory
    refine ⟨passed required mandatory, ?_⟩
    rintro result member rfl
    by_contra failed
    exact unfailed ⟨result, member, mandatory, Bool.eq_false_iff.mpr failed⟩

/-- The average is below one of the thresholds. -/
def BelowThreshold (results : List ZeroTrustCheckResult) : Prop :=
  exactTotal results / results.length < self.quarantineThreshold.toNat ∨
    exactTotal results / results.length < self.conditionalTrustThreshold.toNat

theorem levelOf_eq_trusted_iff : self.levelOf results (exactAverage results) = .trusted ↔
    results ≠ [] ∧ ¬ self.BelowThreshold results ∧ self.allMandatoryPassed results = true := by
  unfold exactAverage BelowThreshold
  cases results with
  | nil =>
    constructor
    · intro trusted
      cases trusted
    · exact fun ⟨listed, _⟩ => absurd rfl listed
  | cons result rest =>
    unfold levelOf
    simp only [List.isEmpty_cons, Bool.false_eq_true, if_false]
    split_ifs with quarantined conditional passed
    · exact iff_of_false (fun level => by cases level) fun ⟨_, above, _⟩ => above (.inl quarantined)
    · exact iff_of_false (fun level => by cases level) fun ⟨_, above, _⟩ => above (.inr conditional)
    · exact iff_of_true rfl ⟨List.cons_ne_nil _ _, not_or.mpr ⟨quarantined, conditional⟩, passed⟩
    · exact iff_of_false (fun level => by cases level) fun ⟨_, _, passed'⟩ => passed passed'

/-- The sum and the count are the exact ones, the average is that of the posture, and a trusted host passes every
mandatory check and fails none. -/
structure ScoringSafe (policy : ZeroTrustPolicy) (posture : ZeroTrustPosture) : Prop where
  total : ∀ checks, scoreTotal checks posture.perCheckResults = some (exactTotal posture.perCheckResults)
  count : posture.perCheckResults.length % 65536 = posture.perCheckResults.length
  average : ∀ checks, ∃ average, posture.aggregateScore checks = some average ∧
    policy.computeTrustLevel checks posture.perCheckResults = some (policy.levelOf posture.perCheckResults average)
  trusted : ∀ checks, policy.computeTrustLevel checks posture.perCheckResults = some .trusted →
    ∀ required ∈ policy.mandatoryChecks, PassesOnly posture.perCheckResults required

/-- Scoring is safe exactly if the sum and the count fit and no failed mandatory check is outweighed. -/
theorem scoringSafe_iff (posture : ZeroTrustPosture) :
    self.ScoringSafe posture ↔ exactTotal posture.perCheckResults < 65536 ∧ posture.perCheckResults.length < 65536 ∧
      (self.FailsMandatory posture.perCheckResults →
        self.allMandatoryPassed posture.perCheckResults = false ∨ self.BelowThreshold posture.perCheckResults) := by
  constructor
  · intro safe
    have total : exactTotal posture.perCheckResults < 65536 := by
      by_contra overflows
      have panics : scoreTotal true posture.perCheckResults = none := (if_neg overflows).trans (if_pos rfl)
      have summed := safe.total true
      rw [panics] at summed
      cases summed
    have count : posture.perCheckResults.length < 65536 := by
      rw [← safe.count]
      exact Nat.mod_lt _ (by decide)
    refine ⟨total, count, fun fails => ?_⟩
    by_contra outweighed
    rw [not_or, Bool.not_eq_false] at outweighed
    obtain ⟨result, member, -⟩ := id fails
    have level : self.computeTrustLevel true posture.perCheckResults = _ := self.computeTrustLevel_eq ⟨total, count⟩
    rw [self.levelOf_eq_trusted_iff.mpr ⟨List.ne_nil_of_mem member, outweighed.2, outweighed.1⟩] at level
    exact (self.passesOnly_iff.mp (safe.trusted true level)).2 fails
  · rintro ⟨total, count, kept⟩
    have fits : Fits16 posture.perCheckResults := ⟨total, count⟩
    refine ⟨fun _ => scoreTotal_eq fits, Nat.mod_eq_of_lt count, fun _ => ?_, fun checks trusted => ?_⟩
    · exact ⟨_, aggregateScore_eq fits, self.computeTrustLevel_eq fits⟩
    · rw [self.computeTrustLevel_eq fits] at trusted
      obtain ⟨-, above, passed⟩ := self.levelOf_eq_trusted_iff.mp (Option.some.inj trusted)
      refine self.passesOnly_iff.mpr ⟨passed, fun fails => ?_⟩
      obtain unpassed | below := kept fails
      · rw [passed] at unpassed
        cases unpassed
      · exact above below

/-- A posture with two results for one check, of which the second has failed. -/
def contradicted : ZeroTrustPosture :=
  ⟨"host", none, [⟨.selinuxEnforcing, true, 100⟩, ⟨.selinuxEnforcing, false, 0⟩, ⟨.fleetMembershipValid, true, 100⟩],
    .untrusted⟩

/-- The host is trusted. -/
theorem not_scoringSafe_contradicted : ¬ devRelaxed.ScoringSafe contradicted := by
  intro safe
  have passes := safe.trusted true (by decide) .selinuxEnforcing (by decide)
  exact absurd (passes.2 ⟨.selinuxEnforcing, false, 0⟩ (by decide) rfl) (by decide)

end ZeroTrustPolicy

end Aios.Fleet
