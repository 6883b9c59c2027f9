import Aios.Distribution.Vocabulary
import Aios.Lib.Run
import Aios.Lib.Table
import Aios.Rust.Basic
import Mathlib.Algebra.Order.Group.Int
import Mathlib.Data.Rat.Defs

/-! # Publisher reputation

The embedding of the scoring half of `publisher_trust.rs`: events move the score of a publisher, and
the tier follows the score, except that a security incident sets it to `Compromised`. Every event is
kept in an audit trail that can be replayed. The tier is recomputed after any later event, so the lock
lasts exactly as long as only incidents follow.

Review averages are `f64`; their type and operations are parameters, and no score or tier reads them.
-/

namespace Aios.Distribution

open Aios.Rust

inductive TrustTier where
  | compromised
  | unvetted
  | communityTrusted
  | aiosVerified
  | aiosCore
deriving DecidableEq, Repr

def TrustTier.fromReputationScore (score : UInt8) : TrustTier :=
  if score.toNat ≤ 30 then .unvetted
  else if score.toNat ≤ 60 then .communityTrusted
  else if score.toNat ≤ 85 then .aiosVerified
  else .aiosCore

inductive ReputationEvent where
  | packagePublished (packageId : String) (occurredAt : Option DateTime)
  | packageFlagged (packageId reason : String) (occurredAt : Option DateTime)
  | packageRevoked (packageId reason : String) (occurredAt : Option DateTime)
  | securityIncidentReported (incidentId severity description : String) (occurredAt : Option DateTime)
  | reviewReceived (reviewId : String) (score : UInt8) (occurredAt : Option DateTime)
  | manualOverride (newScore : UInt8) (overrideReason overrideBy : String) (occurredAt : Option DateTime)
  | tierChanged (before after : TrustTier) (reason : String) (occurredAt : Option DateTime)
deriving DecidableEq

namespace ReputationEvent

def scoreDelta : ReputationEvent → ℤ
  | packagePublished .. => 2
  | packageFlagged .. => -10
  | packageRevoked .. => -20
  | securityIncidentReported .. => -30
  | reviewReceived _ score _ => ((score.toNat : ℤ) - 3) * 5
  | manualOverride .. => 0
  | tierChanged .. => 0

def occurredAt : ReputationEvent → Option DateTime
  | packagePublished _ occurredAt => occurredAt
  | packageFlagged _ _ occurredAt => occurredAt
  | packageRevoked _ _ occurredAt => occurredAt
  | securityIncidentReported _ _ _ occurredAt => occurredAt
  | reviewReceived _ _ occurredAt => occurredAt
  | manualOverride _ _ _ occurredAt => occurredAt
  | tierChanged _ _ _ occurredAt => occurredAt

def isSecurityIncidentReported : ReputationEvent → Bool
  | securityIncidentReported .. => true
  | _ => false

/-- The score that a `ManualOverride` sets. -/
def overrideScore : ReputationEvent → Option UInt8
  | manualOverride newScore .. => some newScore
  | _ => none

end ReputationEvent

/-- `i16::saturating_add`. -/
def saturatingAddI16 (a b : ℤ) : ℤ := max (-32768) (min 32767 (a + b))

/-- `raw.clamp(0, 100) as u8`. -/
def clampScore (raw : ℤ) : UInt8 := UInt8.ofNat (max 0 (min 100 raw)).toNat

theorem clampScore_le (raw : ℤ) : (clampScore raw).toNat ≤ 100 := by
  have bound : (max 0 (min 100 raw)).toNat ≤ 100 := by omega
  rw [clampScore, UInt8.toNat_ofNat_of_lt' (lt_of_le_of_lt bound (by decide))]
  exact bound

/-- `u64::saturating_add(1)`. -/
def saturatingSucc (count : ℕ) : ℕ := min (count + 1) 18446744073709551615

structure PublisherReputation (F : Type) where
  publisherId : PublisherId
  reputationScore : UInt8
  totalPublished : ℕ
  totalActive : ℕ
  flaggedCount : ℕ
  revokedCount : ℕ
  reviewsReceived : ℕ
  avgReviewScore : F
  lastSecurityIncident : Option DateTime
  trustTier : TrustTier

/-- The score of a publisher before any event. -/
def INITIAL_SCORE : UInt8 := 50

namespace PublisherReputation

variable {F : Type} [NatCast F] [Add F] [Mul F] [Div F]

variable (self : PublisherReputation F)

def new (publisherId : PublisherId) : PublisherReputation F where
  publisherId := publisherId
  reputationScore := INITIAL_SCORE
  totalPublished := 0
  totalActive := 0
  flaggedCount := 0
  revokedCount := 0
  reviewsReceived := 0
  avgReviewScore := ((0 : ℕ) : F)
  lastSecurityIncident := none
  trustTier := .fromReputationScore INITIAL_SCORE

def recomputeTier : PublisherReputation F :=
  { self with trustTier := .fromReputationScore self.reputationScore }

/-- The side effects on counters, for the events whose score moves by a delta. -/
def applyCounters (now : DateTime) : ReputationEvent → PublisherReputation F
  | .packagePublished .. =>
    { self with totalPublished := saturatingSucc self.totalPublished, totalActive := saturatingSucc self.totalActive }
  | .packageFlagged .. =>
    { self with flaggedCount := saturatingSucc self.flaggedCount, totalActive := self.totalActive - 1 }
  | .packageRevoked .. =>
    { self with revokedCount := saturatingSucc self.revokedCount, totalActive := self.totalActive - 1 }
  | .securityIncidentReported _ _ _ occurredAt =>
    { self with lastSecurityIncident := some (occurredAt.getD now), trustTier := .compromised }
  | .reviewReceived _ score _ =>
    { self with
      avgReviewScore :=
        if self.reviewsReceived = 0 then (score.toNat : F)
        else (self.avgReviewScore * (self.reviewsReceived : F) + (score.toNat : F)) /
          ((self.reviewsReceived + 1 : ℕ) : F)
      reviewsReceived := saturatingSucc self.reviewsReceived }
  | .manualOverride .. => self
  | .tierChanged .. => self

def applyDelta (event : ReputationEvent) : PublisherReputation F :=
  { self with reputationScore := clampScore (saturatingAddI16 self.reputationScore.toNat event.scoreDelta) }

/-- What an event does to the reputation of its publisher. -/
def applyEvent (now : DateTime) (event : ReputationEvent) : PublisherReputation F :=
  match event.overrideScore with
  | some newScore => recomputeTier { self with reputationScore := newScore }
  | none =>
    let scored := (self.applyCounters now event).applyDelta event
    if event.isSecurityIncidentReported then scored else scored.recomputeTier

end PublisherReputation

structure AuditEntry where
  event : ReputationEvent
  timestamp : DateTime
  scoreBefore : UInt8
  scoreAfter : UInt8
deriving DecidableEq

structure PublisherAuditTrail where
  publisherId : PublisherId
  events : List AuditEntry
  evidenceHashes : List String

namespace PublisherAuditTrail

def new (publisherId : PublisherId) : PublisherAuditTrail := ⟨publisherId, [], []⟩

def record (self : PublisherAuditTrail) (now : DateTime) (event : ReputationEvent) (scoreBefore scoreAfter : UInt8) :
    PublisherAuditTrail :=
  { self with events := self.events ++ [⟨event, event.occurredAt.getD now, scoreBefore, scoreAfter⟩] }

end PublisherAuditTrail

structure ReputationEngine (F : Type) where
  reputations : Table PublisherId (PublisherReputation F)
  auditTrails : Table PublisherId PublisherAuditTrail

namespace ReputationEngine

variable {F : Type} [NatCast F] [Add F] [Mul F] [Div F]

variable (self : ReputationEngine F) (call : RecordedEvent) (publisherId : PublisherId)

variable (reputation : PublisherReputation F) (calls : List RecordedEvent)

variable (score : UInt8) (now : DateTime) (event : ReputationEvent)

def new : ReputationEngine F := ⟨∅, ∅⟩

def recordEvent (now : DateTime) (publisherId : PublisherId) (event : ReputationEvent) : ReputationEngine F :=
  let reputation := (self.reputations.lookup publisherId).getD (.new publisherId)
  let scoreBefore := reputation.reputationScore
  let updated := reputation.applyEvent now event
  let audit := (self.auditTrails.lookup publisherId).getD (.new publisherId)
  { reputations := self.reputations.insert publisherId updated
    auditTrails := self.auditTrails.insert publisherId
      (audit.record now event scoreBefore updated.reputationScore) }

def calculateScore (publisherId : PublisherId) : Option UInt8 :=
  (self.reputations.lookup publisherId).map (·.reputationScore)

def getTrustTier (publisherId : PublisherId) : Option TrustTier :=
  (self.reputations.lookup publisherId).map (·.trustTier)

def getAuditTrail (publisherId : PublisherId) : Option PublisherAuditTrail :=
  self.auditTrails.lookup publisherId

/-! ## Runs -/

/-- A call of `record_event` and the clock it reads. -/
structure RecordedEvent where
  now : DateTime
  publisherId : PublisherId
  event : ReputationEvent

def step (call : RecordedEvent) : ReputationEngine F :=
  self.recordEvent call.now call.publisherId call.event

theorem lookup_step :
    (self.step call).reputations.lookup publisherId =
      if publisherId = call.publisherId then
        some (((self.reputations.lookup publisherId).getD (.new publisherId)).applyEvent call.now call.event)
      else self.reputations.lookup publisherId := by
  change (self.reputations.insert call.publisherId _).lookup publisherId = _
  rw [Table.lookup_insert_eq]
  split_ifs with same
  · rw [same]
  · rfl

theorem trail_step :
    (self.step call).auditTrails.lookup publisherId =
      if publisherId = call.publisherId then
        let reputation := (self.reputations.lookup publisherId).getD (.new publisherId)
        some (((self.auditTrails.lookup publisherId).getD (.new publisherId)).record call.now call.event
          reputation.reputationScore (reputation.applyEvent call.now call.event).reputationScore)
      else self.auditTrails.lookup publisherId := by
  change (self.auditTrails.insert call.publisherId _).lookup publisherId = _
  rw [Table.lookup_insert_eq]
  split_ifs with same
  · rw [same]
  · rfl

/-! ## Replaying an audit trail -/

/-- The score after an event, from the score before it: overrides set it, everything else moves it by a
delta within 0 and 100. -/
def replayScore (score : UInt8) (event : ReputationEvent) : UInt8 :=
  event.overrideScore.getD (clampScore (score.toNat + event.scoreDelta))

/-- The entries record exactly the scores that a replay from `score` passes through, up to `final`. -/
def Replays (score : UInt8) : List AuditEntry → UInt8 → Prop
  | [], final => score = final
  | entry :: rest, final =>
    entry.scoreBefore = score ∧ entry.scoreAfter = replayScore score entry.event ∧
      Replays (replayScore score entry.event) rest final

theorem replays_append_singleton {score middle : UInt8} {entries : List AuditEntry} (entry : AuditEntry)
    (replays : Replays score entries middle) (before : entry.scoreBefore = middle)
    (after : entry.scoreAfter = replayScore middle entry.event) :
    Replays score (entries ++ [entry]) entry.scoreAfter := by
  induction entries generalizing score with
  | nil =>
    obtain rfl : score = middle := replays
    exact ⟨before, after, after.symm⟩
  | cons head rest ih =>
    obtain ⟨headBefore, headAfter, tail⟩ := replays
    exact ⟨headBefore, headAfter, ih tail⟩

/-- A `u8` score moved by a delta of an event stays inside `i16`. -/
theorem saturatingAddI16_eq : saturatingAddI16 score.toNat event.scoreDelta = score.toNat + event.scoreDelta := by
  have scoreBound := score.toNat_lt
  have deltaBound : -30 ≤ event.scoreDelta ∧ event.scoreDelta ≤ 1260 := by
    cases event with
    | reviewReceived _ review _ =>
      have reviewBound := review.toNat_lt
      change -30 ≤ ((review.toNat : ℤ) - 3) * 5 ∧ ((review.toNat : ℤ) - 3) * 5 ≤ 1260
      omega
    | _ => simp [ReputationEvent.scoreDelta]
  unfold saturatingAddI16
  omega

theorem applyEvent_score :
    (reputation.applyEvent now event).reputationScore = replayScore reputation.reputationScore event := by
  have counters : ∀ event, (reputation.applyCounters now event).reputationScore = reputation.reputationScore := by
    intro event
    cases event <;> rfl
  unfold PublisherReputation.applyEvent replayScore
  cases event.overrideScore with
  | some newScore => rfl
  | none =>
    have scored : ((reputation.applyCounters now event).applyDelta event).reputationScore =
        clampScore (reputation.reputationScore.toNat + event.scoreDelta) := by
      unfold PublisherReputation.applyDelta
      rw [counters, saturatingAddI16_eq]
    cases event.isSecurityIncidentReported with
    | true => exact scored
    | false => exact scored

/-- Every publisher with a reputation has a trail that replays to its score. -/
def TrailsReplay : Prop :=
  ∀ publisherId, match self.reputations.lookup publisherId with
    | some reputation => ∃ trail, self.getAuditTrail publisherId = some trail ∧
        Replays INITIAL_SCORE trail.events reputation.reputationScore
    | none => self.getAuditTrail publisherId = none

theorem TrailsReplay.step {self : ReputationEngine F} (replay : TrailsReplay self) (call : RecordedEvent) :
    TrailsReplay (self.step call) := by
  intro publisherId
  unfold getAuditTrail
  rw [lookup_step, trail_step]
  have here := replay publisherId
  by_cases same : publisherId = call.publisherId
  · rw [if_pos same, if_pos same]
    refine ⟨_, rfl, ?_⟩
    cases found : self.reputations.lookup publisherId with
    | none =>
      rw [found] at here
      rw [getAuditTrail] at here
      rw [here]
      exact replays_append_singleton _ rfl rfl (applyEvent_score _ _ _)
    | some reputation =>
      rw [found] at here
      obtain ⟨trail, stored, replays⟩ := here
      rw [getAuditTrail] at stored
      rw [stored]
      exact replays_append_singleton _ replays rfl (applyEvent_score _ _ _)
  · rw [if_neg same, if_neg same]
    exact here

/-- Every audit trail of a run replays. -/
theorem trailsReplay_run : TrailsReplay (StepRun.run step (new : ReputationEngine F) calls) :=
  StepRun.run_invariant TrailsReplay (fun _ call replay => replay.step call) (fun _ => rfl) calls

/-! ## The lock -/

/-- The publisher has had a security incident and no override since. -/
def Locked (calls : List RecordedEvent) (publisherId : PublisherId) : Prop :=
  ∃ earlier incident later, calls = earlier ++ incident :: later ∧ incident.publisherId = publisherId ∧
    incident.event.isSecurityIncidentReported = true ∧
    ∀ call ∈ later, call.publisherId = publisherId → call.event.overrideScore = none

theorem locked_append_singleton (call : RecordedEvent) (publisherId : PublisherId) :
    Locked (calls ++ [call]) publisherId ↔
      (call.publisherId = publisherId ∧ call.event.isSecurityIncidentReported = true) ∨
      (Locked calls publisherId ∧ (call.publisherId = publisherId → call.event.overrideScore = none)) := by
  constructor
  · rintro ⟨earlier, incident, later, split, same, reported, kept⟩
    obtain rfl | ⟨later, last, rfl⟩ := List.eq_nil_or_concat' later
    · obtain ⟨rfl, last⟩ := List.append_inj' split rfl
      obtain rfl := List.singleton_inj.mp last
      exact .inl ⟨same, reported⟩
    · rw [← List.cons_append, ← List.append_assoc] at split
      obtain ⟨rfl, last⟩ := List.append_inj' split rfl
      obtain rfl := List.singleton_inj.mp last
      refine .inr ⟨⟨earlier, incident, later, rfl, same, reported, ?_⟩, ?_⟩
      · intro other member
        exact kept other (List.mem_append_left _ member)
      · exact kept call (List.mem_append_right _ (List.mem_singleton_self call))
  · rintro (⟨same, reported⟩ | ⟨⟨earlier, incident, later, rfl, same, reported, kept⟩, last⟩)
    · exact ⟨calls, call, [], rfl, same, reported, fun _ member => absurd member List.not_mem_nil⟩
    · refine ⟨earlier, incident, later ++ [call], by simp, same, reported, ?_⟩
      intro other member sameOther
      obtain member | member := List.mem_append.mp member
      · exact kept other member sameOther
      · obtain rfl := List.mem_singleton.mp member
        exact last sameOther

theorem fromReputationScore_ne_compromised : TrustTier.fromReputationScore score ≠ .compromised := by
  unfold TrustTier.fromReputationScore
  split_ifs <;> exact TrustTier.noConfusion

/-- An event leaves its publisher compromised only if it is an incident. -/
theorem applyEvent_tier_iff :
    (reputation.applyEvent now event).trustTier = .compromised ↔ event.isSecurityIncidentReported = true := by
  cases event with
  | securityIncidentReported => exact ⟨fun _ => rfl, fun _ => rfl⟩
  | _ => exact ⟨fun tier => absurd tier (fromReputationScore_ne_compromised _), fun reported => by cases reported⟩

/-- What is asked of a state, given the events before it: compromised publishers are locked, scores are
within 100, and the audit trails replay. -/
structure Sound (calls : List RecordedEvent) (engine : ReputationEngine F) : Prop where
  locked : ∀ publisherId, Locked calls publisherId → engine.getTrustTier publisherId = some .compromised
  bounded : ∀ publisherId score, engine.calculateScore publisherId = some score → score.toNat ≤ 100
  replays : TrailsReplay engine

/-- What is asked of an event, given those before it: for a locked publisher it is another incident or an
override, and an override sets a score within 100. -/
structure Fits (calls : List RecordedEvent) (call : RecordedEvent) : Prop where
  keepsLock : Locked calls call.publisherId →
    call.event.isSecurityIncidentReported = true ∨ call.event.overrideScore ≠ none
  bounded : ∀ newScore, call.event.overrideScore = some newScore → newScore.toNat ≤ 100

theorem getTrustTier_step :
    (self.step call).getTrustTier publisherId =
      if publisherId = call.publisherId then
        some (((self.reputations.lookup publisherId).getD (.new publisherId)).applyEvent call.now call.event).trustTier
      else self.getTrustTier publisherId := by
  unfold getTrustTier
  rw [lookup_step]
  split_ifs <;> rfl

theorem calculateScore_step :
    (self.step call).calculateScore publisherId =
      if publisherId = call.publisherId then
        some (replayScore ((self.reputations.lookup publisherId).getD (.new publisherId)).reputationScore call.event)
      else self.calculateScore publisherId := by
  unfold calculateScore
  rw [lookup_step]
  split_ifs
  · rw [Option.map_some, applyEvent_score]
  · rfl

/-- A sound state stays sound exactly if the event fits. -/
theorem Sound.step_iff {calls : List RecordedEvent} {self : ReputationEngine F} (sound : Sound calls self)
    (call : RecordedEvent) : Sound (calls ++ [call]) (self.step call) ↔ Fits calls call := by
  constructor
  · intro next
    constructor
    · intro locked
      by_contra neither
      obtain ⟨notIncident, notOverride⟩ := not_or.mp neither
      have tier := next.locked call.publisherId
        ((locked_append_singleton calls call _).mpr (.inr ⟨locked, fun _ => not_not.mp notOverride⟩))
      rw [getTrustTier_step, if_pos rfl] at tier
      exact notIncident ((applyEvent_tier_iff _ _ _).mp (Option.some.inj tier))
    · intro newScore override
      apply next.bounded call.publisherId newScore
      rw [calculateScore_step, if_pos rfl, replayScore, override]
      rfl
  · intro fits
    refine ⟨?_, ?_, sound.replays.step call⟩
    · intro publisherId locked
      rw [getTrustTier_step]
      obtain ⟨rfl, reported⟩ | ⟨locked, kept⟩ := (locked_append_singleton calls call publisherId).mp locked
      · rw [if_pos rfl, (applyEvent_tier_iff _ _ _).mpr reported]
      · by_cases same : publisherId = call.publisherId
        · subst same
          have reported := (fits.keepsLock locked).resolve_right (not_not.mpr (kept rfl))
          rw [if_pos rfl, (applyEvent_tier_iff _ _ _).mpr reported]
        · rw [if_neg same]
          exact sound.locked publisherId locked
    · intro publisherId score found
      rw [calculateScore_step] at found
      split_ifs at found
      · cases found
        unfold replayScore
        cases override : call.event.overrideScore with
        | none => exact clampScore_le _
        | some newScore => exact fits.bounded newScore override
      · exact sound.bounded publisherId score found

/-- Along a run every state is sound exactly if every event fits those before it. -/
theorem sound_iff :
    (∀ before, before <+: calls → Sound before (StepRun.run step (new : ReputationEngine F) before)) ↔
      ∀ before call after, calls = before ++ call :: after → Fits before call := by
  have initial : Sound [] (new : ReputationEngine F) := by
    refine ⟨?_, (fun _ _ found => by cases found), fun _ => rfl⟩
    rintro _ ⟨earlier, incident, later, split, -⟩
    exact absurd (congrArg List.length split) (by simp)
  apply StepRun.forall_prefix_iff_along initial
  intro before call after _ sound
  exact sound.step_iff call

/-- An incident and then a published package. -/
def publishedAfterIncident : List RecordedEvent :=
  [⟨0, ⟨"pub:a"⟩, .securityIncidentReported "inc-1" "high" "leak" none⟩,
    ⟨1, ⟨"pub:a"⟩, .packagePublished "pkg:a:b" none⟩]

/-- The package lifts the lock: the tier is `Unvetted` again. -/
theorem publishedAfterIncident_unlocked :
    ¬ ∀ before, before <+: publishedAfterIncident →
      Sound before (StepRun.run step (new : ReputationEngine ℚ) before) := by
  intro sound
  have locked : Locked publishedAfterIncident ⟨"pub:a"⟩ := by
    refine ⟨[], _, _, rfl, rfl, rfl, ?_⟩
    intro call member _
    obtain rfl := List.mem_singleton.mp member
    rfl
  have tier := (sound _ (List.prefix_refl _)).locked ⟨"pub:a"⟩ locked
  exact absurd tier (by decide +kernel)

end ReputationEngine

end Aios.Distribution
