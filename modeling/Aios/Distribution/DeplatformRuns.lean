import Aios.Distribution.Deplatform
import Aios.Lib.Run

/-! # Runs of rotations, deplatformings and health checks

The last deplatforming of a publisher decides where it stands from then on: no rotation brings it back,
and the next health check quarantines what it has installed. But the deplatforming also retires the
publisher, and the verifier reads the retirement first. So it answers with a broken trust chain from the
instant on at which the deplatforming takes effect, and with the deplatforming only before.
-/

namespace Aios.Distribution

open Aios.Rust

/-- The catalogs and what is installed. -/
structure DistributionHost where
  publishers : PublisherCatalog
  signingCatalogs : Table String SigningKeyCatalog
  installed : List InstalledPackageRecord

inductive TakedownCall where
  | applyDeplatform (event : PublisherDeplatformEvent) (aiosRoot : AiosRootKey) (now : DateTime)
  | applyPublisherRotation (vendor : String) (event : PublisherRotationEvent) (aiosRoot : AiosRootKey) (now : DateTime)
  | healthCheckQuarantine (revokedKeys : List PackageSigningKeyId) (now : DateTime)

inductive TakedownReply where
  | deplatformed (result : Except DistributionError Unit)
  | rotated (result : Except DistributionError RotationOutcome)
  | quarantined (packages : List PackageId)

namespace DistributionHost

variable (signing : Signing)

variable (self : DistributionHost)

/-- A rotation is given the signing catalog of a vendor, an empty one where there is none. -/
def perform : TakedownCall → DistributionHost × TakedownReply
  | .applyDeplatform event aiosRoot _ =>
    match Distribution.applyDeplatform signing self.publishers event aiosRoot with
    | .ok publishers => ({ self with publishers := publishers }, .deplatformed (.ok ()))
    | .error failure => (self, .deplatformed (.error failure))
  | .applyPublisherRotation vendor event aiosRoot _ =>
    match Distribution.applyPublisherRotation signing self.publishers
        ((self.signingCatalogs.lookup vendor).getD ⟨vendor, []⟩) event aiosRoot with
    | .ok (publishers, signingCatalog, outcome) =>
      ({ self with publishers := publishers, signingCatalogs := self.signingCatalogs.insert vendor signingCatalog },
        .rotated (.ok outcome))
    | .error failure => (self, .rotated (.error failure))
  | .healthCheckQuarantine revokedKeys _ =>
    let (installed, packages) := Distribution.healthCheckQuarantine self.installed self.publishers revokedKeys
    ({ self with installed := installed }, .quarantined packages)

def step (call : TakedownCall) : DistributionHost := (self.perform signing call).1

def reply (call : TakedownCall) : TakedownReply := (self.perform signing call).2

def run (start : DistributionHost) (calls : List TakedownCall) : DistributionHost :=
  StepRun.run (step signing) start calls

def verifier (aiosRoot : AiosRootKey) : TrustChainVerifier :=
  .new aiosRoot self.publishers self.signingCatalogs

end DistributionHost

/-- The event and the time of a call that has deplatformed a publisher. -/
def deplatforming : TakedownCall × TakedownReply → Option (PublisherDeplatformEvent × DateTime)
  | (.applyDeplatform event _ now, .deplatformed (.ok ())) => some (event, now)
  | _ => none

namespace DistributionHost

variable (signing : Signing)

variable {host : DistributionHost} {publisher : PublisherRootId} {record : InstalledPackageRecord}
  (self : DistributionHost) (call : TakedownCall)

variable (start : DistributionHost) (calls : List TakedownCall)

/-- The successful deplatformings of a publisher in a run, the oldest first. -/
def deplatformings (start : DistributionHost) (calls : List TakedownCall) (publisher : PublisherRootId) :
    List (PublisherDeplatformEvent × DateTime) :=
  ((StepRun.trace (step signing) (reply signing) start calls).filterMap deplatforming).filter
    fun applied => applied.1.publisherRootId = publisher

theorem deplatformings_append_singleton (start : DistributionHost) (before : List TakedownCall) (call : TakedownCall)
    (publisher : PublisherRootId) :
    deplatformings signing start (before ++ [call]) publisher =
      deplatformings signing start before publisher ++
        (deplatforming (call, (run signing start before).reply signing call)).toList.filter
          fun applied => applied.1.publisherRootId = publisher := by
  unfold deplatformings
  rw [StepRun.trace_append_singleton, List.filterMap_append, List.filter_append]
  congr 2

/-! ## One call -/

/-- Only a successful deplatforming changes where a publisher stands. -/
theorem step_standing (publisher : PublisherRootId) :
    (self.step signing call).publishers.standing publisher =
      (((deplatforming (call, self.reply signing call)).toList.filter
        fun applied => applied.1.publisherRootId = publisher).getLast?.map
          fun applied => (PublisherTrustLevel.deplatformed, some applied.1.deplatformedAt)).or
        (self.publishers.standing publisher) := by
  cases call with
  | applyDeplatform event aiosRoot now =>
    dsimp only [step, reply, perform]
    cases applied : Distribution.applyDeplatform signing self.publishers event aiosRoot with
    | error failure => rfl
    | ok publishers =>
      change publishers.standing publisher = _
      rw [applyDeplatform_standing applied publisher]
      by_cases same : event.publisherRootId = publisher
      · simp [deplatforming, same]
      · simp [deplatforming, same, Ne.symm same]
  | applyPublisherRotation vendor event aiosRoot now =>
    dsimp only [step, reply, perform]
    cases applied : Distribution.applyPublisherRotation signing self.publishers
        ((self.signingCatalogs.lookup vendor).getD ⟨vendor, []⟩) event aiosRoot with
    | error failure => rfl
    | ok rotated => exact applyPublisherRotation_standing applied publisher
  | healthCheckQuarantine revokedKeys now => rfl

/-- What a call makes of an installed package. -/
def recordAfter (call : TakedownCall) (record : InstalledPackageRecord) : InstalledPackageRecord :=
  match call with
  | .healthCheckQuarantine revokedKeys _ => (checkRecord self.publishers revokedKeys record).1
  | _ => record

theorem step_installed : (self.step signing call).installed = self.installed.map (self.recordAfter call) := by
  cases call with
  | applyDeplatform event aiosRoot now =>
    dsimp only [step, perform]
    cases Distribution.applyDeplatform signing self.publishers event aiosRoot <;> exact (List.map_id _).symm
  | applyPublisherRotation vendor event aiosRoot now =>
    dsimp only [step, perform]
    cases Distribution.applyPublisherRotation signing self.publishers
      ((self.signingCatalogs.lookup vendor).getD ⟨vendor, []⟩) event aiosRoot <;> exact (List.map_id _).symm
  | healthCheckQuarantine revokedKeys now => rfl

theorem recordAfter_publisher (record : InstalledPackageRecord) :
    (self.recordAfter call record).publisherRootId = record.publisherRootId := by
  cases call with
  | healthCheckQuarantine revokedKeys now => exact checkRecord_publisher _ _ _
  | _ => rfl

/-- No call makes a package active. -/
theorem recordAfter_active {self : DistributionHost} {call : TakedownCall}
    (active : (self.recordAfter call record).state = .active) : record.state = .active := by
  cases call with
  | healthCheckQuarantine revokedKeys now => exact (checkRecord_active active).1
  | _ => exact active

/-! ## Runs -/

/-- Where a publisher stands after a run: deplatformed at the instant of its last deplatforming, if it
had one. -/
theorem run_standing (publisher : PublisherRootId) :
    (run signing start calls).publishers.standing publisher =
      ((deplatformings signing start calls publisher).getLast?.map
        fun applied => (PublisherTrustLevel.deplatformed, some applied.1.deplatformedAt)).or
        (start.publishers.standing publisher) := by
  induction calls using List.reverseRecOn with
  | nil => rfl
  | append_singleton before call ih =>
    change (StepRun.run (step signing) start (before ++ [call])).publishers.standing publisher = _
    rw [StepRun.run_append, deplatformings_append_singleton]
    change ((run signing start before).step signing call).publishers.standing publisher = _
    rw [step_standing, ih, List.getLast?_append, ← Option.or_assoc]
    congr 1
    cases (List.filter _ _).getLast? <;> rfl

/-- None of the publisher's packages is active. -/
def Withdrawn (publisher : PublisherRootId) (host : DistributionHost) : Prop :=
  ∀ record ∈ host.installed, record.publisherRootId = publisher → record.state ≠ .active

theorem step_withdrawn (host : DistributionHost) (call : TakedownCall) (withdrawn : host.Withdrawn publisher) :
    (host.step signing call).Withdrawn publisher := by
  intro record stored published active
  rw [step_installed] at stored
  obtain ⟨earlier, present, rfl⟩ := List.mem_map.mp stored
  rw [recordAfter_publisher] at published
  exact withdrawn earlier present published (recordAfter_active active)

/-- A health check withdraws a deplatformed publisher. -/
theorem healthCheck_withdrawn {retiredAt : Option DateTime}
    (deplatformed : host.publishers.standing publisher = some (.deplatformed, retiredAt))
    (revokedKeys : List PackageSigningKeyId) (now : DateTime) :
    (host.step signing (.healthCheckQuarantine revokedKeys now)).Withdrawn publisher := by
  intro record stored published active
  rw [step_installed] at stored
  obtain ⟨earlier, present, rfl⟩ := List.mem_map.mp stored
  rw [recordAfter_publisher] at published
  obtain ⟨entry, found, level⟩ := Option.map_eq_some_iff.mp deplatformed
  obtain ⟨-, kept⟩ := checkRecord_active active
  unfold shouldQuarantine at kept
  rw [published, found] at kept
  simp [(Prod.mk.inj level).1] at kept

/-- A package keeps its state as long as its publisher is not deplatformed and its key not listed as
revoked. -/
theorem run_kept {start : DistributionHost} {calls : List TakedownCall} {index : ℕ} {record : InstalledPackageRecord}
    (stored : start.installed[index]? = some record)
    (listed : ∀ retiredAt, start.publishers.standing record.publisherRootId ≠ some (.deplatformed, retiredAt))
    (spared : deplatformings signing start calls record.publisherRootId = [])
    (unrevoked : ∀ revokedKeys now, .healthCheckQuarantine revokedKeys now ∈ calls →
      record.signingKeyId ∉ revokedKeys) :
    (run signing start calls).installed[index]? = some record := by
  induction calls using List.reverseRecOn with
  | nil => exact stored
  | append_singleton before call ih =>
    rw [deplatformings_append_singleton] at spared
    obtain ⟨spared, -⟩ := List.append_eq_nil_iff.mp spared
    have here := ih spared fun revokedKeys now member => unrevoked revokedKeys now (List.mem_append_left _ member)
    have standing := run_standing signing start before record.publisherRootId
    rw [spared] at standing
    change (StepRun.run (step signing) start (before ++ [call])).installed[index]? = _
    rw [StepRun.run_append]
    change ((run signing start before).step signing call).installed[index]? = _
    rw [step_installed, List.getElem?_map, here]
    refine congrArg some ?_
    cases call with
    | applyDeplatform event aiosRoot now => rfl
    | applyPublisherRotation vendor event aiosRoot now => rfl
    | healthCheckQuarantine revokedKeys now =>
      have quarantined : shouldQuarantine (run signing start before).publishers revokedKeys record = false := by
        have key := unrevoked revokedKeys now (List.mem_append_right _ List.mem_cons_self)
        unfold shouldQuarantine
        cases found : (run signing start before).publishers.lookup record.publisherRootId with
        | none => simp [key]
        | some entry =>
          have level : entry.trustLevel ≠ .deplatformed := by
            intro deplatformed
            apply listed entry.retiredAt
            rw [← deplatformed]
            exact standing.symm.trans (congrArg _ found)
          simp [key, level]
      change (checkRecord _ _ _).1 = record
      rw [checkRecord_of_kept quarantined]

/-- A run withdraws every publisher it has deplatformed by the time of a health check, for good. -/
theorem run_withdrawn {start : DistributionHost} {before after : List TakedownCall}
    (applied : deplatformings signing start before publisher ≠ []) (revokedKeys : List PackageSigningKeyId)
    (now : DateTime) :
    (run signing start (before ++ .healthCheckQuarantine revokedKeys now :: after)).Withdrawn publisher := by
  have standing := run_standing signing start before publisher
  rw [List.getLast?_eq_some_getLast applied] at standing
  unfold run
  rw [StepRun.run_append, StepRun.run_cons]
  apply StepRun.run_invariant (Withdrawn publisher)
  · exact step_withdrawn signing
  · exact healthCheck_withdrawn signing standing revokedKeys now

/-! ## What the verifier answers -/

/-- The verifier rejects a deplatformed publisher's payload, but as broken once the publisher is retired. -/
theorem result_of_deplatformed {call : VerifyInput} {deplatformedAt : DateTime}
    (standing : host.publishers.standing call.input.publisherRootId = some (.deplatformed, some deplatformedAt))
    (aiosRoot : AiosRootKey) :
    (host.verifier aiosRoot).result signing.crypto signing.clock call =
      if deplatformedAt ≤ call.now then .trustChainBroken else .publisherDeplatformed := by
  obtain ⟨entry, found, state⟩ := Option.map_eq_some_iff.mp standing
  obtain ⟨level, retired⟩ := Prod.mk.inj state
  unfold TrustChainVerifier.result TrustChainVerifier.verify
  rw [show (host.verifier aiosRoot).publisherCatalog.lookup call.input.publisherRootId = some entry from found]
  dsimp only
  rw [retired, level, if_pos rfl]
  simp only [Option.any_some, decide_eq_true_eq]

/-- What deplatforming is for: after a run, the payloads of a publisher that was deplatformed by its time
are rejected as such and none of its packages survives a health check, while the packages of publishers
that were not deplatformed keep their state if their keys are not listed as revoked. -/
structure DeplatformingFinal (start : DistributionHost) (calls : List TakedownCall) (call : VerifyInput)
    (aiosRoot : AiosRootKey) : Prop where
  rejected : ∀ applied ∈ deplatformings signing start calls call.input.publisherRootId,
    applied.1.deplatformedAt ≤ applied.2 →
      ((run signing start calls).verifier aiosRoot).result signing.crypto signing.clock call = .publisherDeplatformed
  withdrawn : ∀ before revokedKeys now after publisher,
    calls = before ++ .healthCheckQuarantine revokedKeys now :: after →
      deplatformings signing start before publisher ≠ [] → (run signing start calls).Withdrawn publisher
  kept : ∀ (index : ℕ) record, start.installed[index]? = some record →
    (∀ retiredAt, start.publishers.standing record.publisherRootId ≠ some (.deplatformed, retiredAt)) →
      deplatformings signing start calls record.publisherRootId = [] →
      (∀ revokedKeys now, .healthCheckQuarantine revokedKeys now ∈ calls → record.signingKeyId ∉ revokedKeys) →
        (run signing start calls).installed[index]? = some record

/-- Deplatforming is final on a run and a payload exactly if the last deplatforming of the payload's
publisher takes effect after the time of the verification, or none was in effect when it was applied. -/
theorem deplatformingFinal_iff (call : VerifyInput) (aiosRoot : AiosRootKey) :
    DeplatformingFinal signing start calls call aiosRoot ↔
      ∀ last, (deplatformings signing start calls call.input.publisherRootId).getLast? = some last →
        (∃ applied ∈ deplatformings signing start calls call.input.publisherRootId,
          applied.1.deplatformedAt ≤ applied.2) → call.now < last.1.deplatformedAt := by
  have answer : ∀ last, (deplatformings signing start calls call.input.publisherRootId).getLast? = some last →
      ((run signing start calls).verifier aiosRoot).result signing.crypto signing.clock call =
        if last.1.deplatformedAt ≤ call.now then .trustChainBroken else .publisherDeplatformed := by
    intro last found
    apply result_of_deplatformed
    rw [run_standing, found]
    rfl
  constructor
  · rintro final last found ⟨applied, member, due⟩
    have rejected := final.rejected applied member due
    rw [answer last found] at rejected
    split_ifs at rejected with retired
    · exact Int.not_le.mp retired
  · intro later
    refine ⟨?_, ?_, ?_⟩
    · intro applied member due
      have found := List.getLast?_eq_some_getLast (List.ne_nil_of_mem member)
      rw [answer _ found, if_neg (Int.not_le.mpr (later _ found ⟨applied, member, due⟩))]
    · rintro before revokedKeys now after publisher rfl applied
      exact run_withdrawn signing applied revokedKeys now
    · intro index record stored listed spared unrevoked
      exact run_kept signing stored listed spared unrevoked

/-! ## An example -/

/-- The publisher is deplatformed as of 50. -/
def exampleDeplatforming : PublisherDeplatformEvent where
  publisherRootId := ⟨"pub:a"⟩
  reason := .maliciousBehaviorDetected
  deplatformedAt := 50
  gracePeriodEndsAt := 80
  evidencePointer := "review"
  aiosRootSignature := TrustChainVerifier.exampleSignature 1

/-- Accepts the root's signature over the event. -/
def exampleSigning : Signing where
  crypto :=
    { verifyStrict := fun key message signature => key == TrustChainVerifier.exampleKey 1 &&
        message == deplatformCanonicalBytes TrustChainVerifier.exampleClock exampleDeplatforming &&
        signature == TrustChainVerifier.exampleSignature 1 }
  clock := TrustChainVerifier.exampleClock
  isPoint := fun _ => true

def exampleHost : DistributionHost where
  publishers := ⟨[TrustChainVerifier.examplePublisher]⟩
  signingCatalogs := (∅ : Table String SigningKeyCatalog).insert "a" ⟨"a", [TrustChainVerifier.exampleSigningKey]⟩
  installed := []

/-- After its deplatforming at 60 the publisher's payload is rejected at 100 as a broken trust chain. -/
theorem deplatformed_trustChainBroken : ¬ DeplatformingFinal exampleSigning exampleHost
    [.applyDeplatform exampleDeplatforming ⟨TrustChainVerifier.exampleKey 1⟩ 60] (TrustChainVerifier.exampleCall 5)
    ⟨TrustChainVerifier.exampleKey 1⟩ := by
  intro final
  have rejected := final.rejected (exampleDeplatforming, 60) (by decide +kernel) (by decide)
  exact absurd rejected (by decide +kernel)

end DistributionHost

end Aios.Distribution
