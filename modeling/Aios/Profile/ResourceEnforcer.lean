import Aios.Lib.Stateful
import Aios.Profile.Composer

/-! # The resource enforcer

`check_usage` compares a request with each cap as it is. `compute_remaining` first brings the cap and the usage into
the signed range, where a cap past the range and a usage past the cap have the same image.
-/

namespace Aios.Profile

open Aios.Rust

def I32_MAX : ℕ := 2147483647

def I64_MAX : ℕ := 9223372036854775807

structure ResourceRequest where
  cpuPct : ℕ
  memoryBytes : ℕ
  ioBytesPerSec : ℕ
  networkBytesPerSec : ℕ
  processCount : ℕ
  fdCount : ℕ
deriving DecidableEq, Repr

structure ResourceUsage where
  cpuPct : ℕ
  memoryBytes : ℕ
  ioBytesPerSec : ℕ
  networkBytesPerSec : ℕ
  processCount : ℕ
  fdCount : ℕ
deriving DecidableEq, Repr

/-- A negative number is over-budget. -/
structure ResourceRemaining where
  cpuPct : ℤ
  memoryBytes : ℤ
  ioBytesPerSec : ℤ
  networkBytesPerSec : ℤ
  processCount : ℤ
  fdCount : ℤ
deriving DecidableEq, Repr

structure ResourceLimitExceededPayload where
  profileId : ProfileId
  limitKind : String
  requested : ℕ
  max : ℕ
  exceededAt : DateTime
deriving DecidableEq, Repr

/-- Only whether an emitter is attached. -/
structure ResourceLimitEnforcer where
  evidenceEmitter : Bool

namespace ResourceLimitEnforcer

/-! ## Checking -/

variable (self : ResourceLimitEnforcer) (freshId : ProfileId) (now : DateTime)

/-- The state is the payloads that were handed to the emitter. -/
def emitResourceLimitExceeded (limitKind : String) (requested max : ℕ) :
    EStateM SandboxError (List ResourceLimitExceededPayload) PUnit :=
  modify fun emitted =>
    if self.evidenceEmitter then emitted ++ [⟨freshId, limitKind, requested, max, now⟩] else emitted

/-- One of the checks of `check_usage`. -/
def checkCap (limit : String) (requested : ℕ) (cap : Option ℕ) :
    EStateM SandboxError (List ResourceLimitExceededPayload) PUnit :=
  match cap with
  | none => pure ⟨⟩
  | some max =>
    if max < requested then do
      self.emitResourceLimitExceeded freshId now limit requested max
      throw (.resourceLimitsViolation limit requested max)
    else pure ⟨⟩

def checkUsage (request : ResourceRequest) (limits : ResourceLimits) :
    EStateM SandboxError (List ResourceLimitExceededPayload) PUnit := do
  self.checkCap freshId now "cpu_quota_percent" request.cpuPct (some limits.cpuQuotaPercent)
  self.checkCap freshId now "memory_max_bytes" request.memoryBytes (some limits.memoryMaxBytes)
  self.checkCap freshId now "io_max_bytes_per_sec" request.ioBytesPerSec limits.ioMaxBytesPerSec
  self.checkCap freshId now "network_max_bytes_per_sec" request.networkBytesPerSec limits.networkMaxBytesPerSec
  self.checkCap freshId now "process_max_count" request.processCount limits.processMaxCount
  self.checkCap freshId now "file_descriptor_max" request.fdCount limits.fileDescriptorMax

end ResourceLimitEnforcer

/-! ## What remains -/

/-- `i32::try_from(n).unwrap_or(i32::MAX)` and its like for 64 bits. -/
def saturated (signedMax n : ℕ) : ℕ := if n ≤ signedMax then n else signedMax

/-- A signed subtraction; `none` is its overflow. -/
def signedSub (signedMax : ℕ) (a b : ℤ) : Option ℤ :=
  if -(signedMax : ℤ) - 1 ≤ a - b ∧ a - b ≤ signedMax then some (a - b) else none

def remainingOf (signedMax max used : ℕ) : Option ℤ :=
  signedSub signedMax (saturated signedMax max) (saturated signedMax used)

def remainingOfOptional (signedMax : ℕ) (cap : Option ℕ) (used : ℕ) : Option ℤ :=
  match cap with
  | none => some signedMax
  | some max => remainingOf signedMax max used

namespace ResourceLimitEnforcer

/-- `none` is an arithmetic overflow. The enforcer itself is not consulted. -/
def computeRemaining (usage : ResourceUsage) (limits : ResourceLimits) : Option ResourceRemaining := do
  let cpuPct ← remainingOf I32_MAX limits.cpuQuotaPercent usage.cpuPct
  let memoryBytes ← remainingOf I64_MAX limits.memoryMaxBytes usage.memoryBytes
  let ioBytesPerSec ← remainingOfOptional I64_MAX limits.ioMaxBytesPerSec usage.ioBytesPerSec
  let networkBytesPerSec ← remainingOfOptional I64_MAX limits.networkMaxBytesPerSec usage.networkBytesPerSec
  let processCount ← remainingOfOptional I32_MAX limits.processMaxCount usage.processCount
  let fdCount ← remainingOfOptional I32_MAX limits.fileDescriptorMax usage.fdCount
  return ⟨cpuPct, memoryBytes, ioBytesPerSec, networkBytesPerSec, processCount, fdCount⟩

end ResourceLimitEnforcer

section

variable (signedMax max used : ℕ)

/-! ## One cap -/

/-- A cap, what is used of it and the largest number of the signed range it is subtracted in. -/
structure CapUse where
  signedMax : ℕ
  cap : Option ℕ
  used : ℕ

/-- The usage is past the cap. -/
def CapUse.Exceeded (use : CapUse) : Prop := ∃ max ∈ use.cap, max < use.used

/-- The usage is past a cap that is below the largest signed number. -/
def CapUse.ExceededInRange (use : CapUse) : Prop := ∃ max ∈ use.cap, max < use.used ∧ max < use.signedMax

theorem saturated_le (n : ℕ) : saturated signedMax n ≤ signedMax := by
  unfold saturated
  split_ifs with fits
  · exact fits
  · exact le_refl signedMax

/-- Numbers that are not negative have a difference in the signed range. -/
theorem remainingOf_eq :
    remainingOf signedMax max used = some ((saturated signedMax max : ℤ) - saturated signedMax used) := by
  have top := saturated_le signedMax max
  have top' := saturated_le signedMax used
  unfold remainingOf signedSub
  rw [if_pos (by omega)]

theorem saturated_lt_iff : saturated signedMax max < saturated signedMax used ↔ max < used ∧ max < signedMax := by
  unfold saturated
  split_ifs <;> omega

/-- What is left of a cap is negative exactly if the cap is exceeded in the signed range. -/
theorem remainingOfOptional_spec (use : CapUse) :
    ∃ left, remainingOfOptional use.signedMax use.cap use.used = some left ∧
      (0 ≤ left ↔ ¬ use.ExceededInRange) := by
  obtain ⟨signedMax, cap, used⟩ := use
  cases cap with
  | none =>
    refine ⟨signedMax, rfl, fun _ => ?_, fun _ => Int.natCast_nonneg signedMax⟩
    rintro ⟨max, absent, -⟩
    cases absent
  | some max =>
    refine ⟨_, remainingOf_eq signedMax max used, ?_⟩
    constructor
    · rintro nonnegative ⟨other, found, exceeded⟩
      obtain rfl := Option.some.inj found
      have below := (saturated_lt_iff signedMax max used).mpr exceeded
      omega
    · intro within
      have above := mt (saturated_lt_iff signedMax max used).mp fun exceeded => within ⟨max, rfl, exceeded⟩
      omega

/-! ## The two views -/

/-- The usage, taken as a request. -/
def ResourceUsage.asRequest (usage : ResourceUsage) : ResourceRequest :=
  ⟨usage.cpuPct, usage.memoryBytes, usage.ioBytesPerSec, usage.networkBytesPerSec, usage.processCount, usage.fdCount⟩

def capUses (usage : ResourceUsage) (limits : ResourceLimits) : List CapUse :=
  [⟨I32_MAX, some limits.cpuQuotaPercent, usage.cpuPct⟩, ⟨I64_MAX, some limits.memoryMaxBytes, usage.memoryBytes⟩,
    ⟨I64_MAX, limits.ioMaxBytesPerSec, usage.ioBytesPerSec⟩,
    ⟨I64_MAX, limits.networkMaxBytesPerSec, usage.networkBytesPerSec⟩,
    ⟨I32_MAX, limits.processMaxCount, usage.processCount⟩, ⟨I32_MAX, limits.fileDescriptorMax, usage.fdCount⟩]

structure ResourceRemaining.NonNegative (remaining : ResourceRemaining) : Prop where
  cpuPct : 0 ≤ remaining.cpuPct
  memoryBytes : 0 ≤ remaining.memoryBytes
  ioBytesPerSec : 0 ≤ remaining.ioBytesPerSec
  networkBytesPerSec : 0 ≤ remaining.networkBytesPerSec
  processCount : 0 ≤ remaining.processCount
  fdCount : 0 ≤ remaining.fdCount

end

namespace ResourceLimitEnforcer

variable (self : ResourceLimitEnforcer) (freshId : ProfileId) (now : DateTime)

variable (emitted : List ResourceLimitExceededPayload) (usage : ResourceUsage) (limits : ResourceLimits)

/-- `check_usage` returns `Ok`. -/
def Accepts (emitted : List ResourceLimitExceededPayload) (request : ResourceRequest) (limits : ResourceLimits) :
    Prop :=
  Stateful.outcome id (self.checkUsage freshId now request limits emitted) = .ok ⟨⟩

/-- What remains is computed without an overflow, and the check accepts exactly what leaves no field negative. -/
def BudgetViewsAgree (emitted : List ResourceLimitExceededPayload) (usage : ResourceUsage) (limits : ResourceLimits) :
    Prop :=
  ∃ remaining, computeRemaining usage limits = some remaining ∧
    (self.Accepts freshId now emitted usage.asRequest limits ↔ remaining.NonNegative)

/-- A check lets the rest go on exactly if its cap is not exceeded. -/
theorem checkCap_bind_iff (limit : String) (use : CapUse)
    (next : PUnit → EStateM SandboxError (List ResourceLimitExceededPayload) PUnit)
    (emitted : List ResourceLimitExceededPayload) :
    Stateful.outcome id ((self.checkCap freshId now limit use.used use.cap >>= next) emitted) = .ok ⟨⟩ ↔
      ¬ use.Exceeded ∧ Stateful.outcome id (next ⟨⟩ emitted) = .ok ⟨⟩ := by
  obtain ⟨signedMax, cap, used⟩ := use
  cases cap with
  | none =>
    have within : ¬ CapUse.Exceeded ⟨signedMax, none, used⟩ := by
      rintro ⟨max, absent, -⟩
      cases absent
    exact (and_iff_right within).symm
  | some max =>
    unfold checkCap
    dsimp only
    split_ifs with exceeded
    · constructor
      · intro returned
        cases returned
      · rintro ⟨within, -⟩
        exact absurd ⟨max, rfl, exceeded⟩ within
    · have within : ¬ CapUse.Exceeded ⟨signedMax, some max, used⟩ := by
        rintro ⟨other, found, above⟩
        obtain rfl := Option.some.inj found
        exact exceeded above
      exact (and_iff_right within).symm

theorem checkCap_iff (limit : String) (use : CapUse) (emitted : List ResourceLimitExceededPayload) :
    Stateful.outcome id (self.checkCap freshId now limit use.used use.cap emitted) = .ok ⟨⟩ ↔ ¬ use.Exceeded := by
  have last := self.checkCap_bind_iff freshId now limit use pure emitted
  rw [bind_pure] at last
  exact last.trans (and_iff_left rfl)

/-- The six checks accept what exceeds no cap. -/
theorem accepts_iff :
    self.Accepts freshId now emitted usage.asRequest limits ↔ ∀ use ∈ capUses usage limits, ¬ use.Exceeded := by
  unfold capUses
  iterate 5 rw [List.forall_mem_cons]
  rw [List.forall_mem_singleton]
  refine (self.checkCap_bind_iff freshId now _ ⟨I32_MAX, _, _⟩ _ emitted).trans (and_congr_right fun _ => ?_)
  refine (self.checkCap_bind_iff freshId now _ ⟨I64_MAX, _, _⟩ _ emitted).trans (and_congr_right fun _ => ?_)
  refine (self.checkCap_bind_iff freshId now _ ⟨I64_MAX, _, _⟩ _ emitted).trans (and_congr_right fun _ => ?_)
  refine (self.checkCap_bind_iff freshId now _ ⟨I64_MAX, _, _⟩ _ emitted).trans (and_congr_right fun _ => ?_)
  refine (self.checkCap_bind_iff freshId now _ ⟨I32_MAX, _, _⟩ _ emitted).trans (and_congr_right fun _ => ?_)
  exact self.checkCap_iff freshId now _ ⟨I32_MAX, _, _⟩ emitted

/-- No subtraction overflows, and a field is negative exactly if its cap is exceeded in the signed range. -/
theorem computeRemaining_spec :
    ∃ remaining, computeRemaining usage limits = some remaining ∧
      (remaining.NonNegative ↔ ∀ use ∈ capUses usage limits, ¬ use.ExceededInRange) := by
  obtain ⟨cpuPct, cpu, cpu'⟩ := remainingOfOptional_spec ⟨I32_MAX, some limits.cpuQuotaPercent, usage.cpuPct⟩
  obtain ⟨memoryBytes, memory, memory'⟩ :=
    remainingOfOptional_spec ⟨I64_MAX, some limits.memoryMaxBytes, usage.memoryBytes⟩
  obtain ⟨ioBytes, io, io'⟩ := remainingOfOptional_spec ⟨I64_MAX, limits.ioMaxBytesPerSec, usage.ioBytesPerSec⟩
  obtain ⟨networkBytes, network, network'⟩ :=
    remainingOfOptional_spec ⟨I64_MAX, limits.networkMaxBytesPerSec, usage.networkBytesPerSec⟩
  obtain ⟨processCount, process, process'⟩ :=
    remainingOfOptional_spec ⟨I32_MAX, limits.processMaxCount, usage.processCount⟩
  obtain ⟨fdCount, fd, fd'⟩ := remainingOfOptional_spec ⟨I32_MAX, limits.fileDescriptorMax, usage.fdCount⟩
  refine ⟨⟨cpuPct, memoryBytes, ioBytes, networkBytes, processCount, fdCount⟩, ?_, ?_⟩
  · have cpu : remainingOf I32_MAX limits.cpuQuotaPercent usage.cpuPct = some cpuPct := cpu
    have memory : remainingOf I64_MAX limits.memoryMaxBytes usage.memoryBytes = some memoryBytes := memory
    unfold computeRemaining
    rw [cpu, memory, io, network, process, fd]
    rfl
  · unfold capUses
    iterate 5 rw [List.forall_mem_cons]
    rw [List.forall_mem_singleton, ← cpu', ← memory', ← io', ← network', ← process', ← fd']
    constructor
    · rintro ⟨cpu, memory, io, network, process, fd⟩
      exact ⟨cpu, memory, io, network, process, fd⟩
    · rintro ⟨cpu, memory, io, network, process, fd⟩
      exact ⟨cpu, memory, io, network, process, fd⟩

/-- The views agree exactly if no cap is exceeded or one below the largest signed number is. -/
theorem budgetViewsAgree_iff :
    self.BudgetViewsAgree freshId now emitted usage limits ↔
      (∀ use ∈ capUses usage limits, ¬ use.Exceeded) ∨ ∃ use ∈ capUses usage limits, use.ExceededInRange := by
  obtain ⟨remaining, computed, nonNegative⟩ := computeRemaining_spec usage limits
  have weaker : (∀ use ∈ capUses usage limits, ¬ use.Exceeded) →
      ∀ use ∈ capUses usage limits, ¬ use.ExceededInRange := by
    rintro within use member ⟨max, found, exceeded, -⟩
    exact within use member ⟨max, found, exceeded⟩
  have agree : self.BudgetViewsAgree freshId now emitted usage limits ↔
      ((∀ use ∈ capUses usage limits, ¬ use.Exceeded) ↔ ∀ use ∈ capUses usage limits, ¬ use.ExceededInRange) := by
    rw [← accepts_iff self freshId now emitted, ← nonNegative]
    constructor
    · rintro ⟨other, computed', same⟩
      obtain rfl := Option.some.inj (computed.symm.trans computed')
      exact same
    · exact fun same => ⟨remaining, computed, same⟩
  rw [agree]
  constructor
  · intro same
    by_cases within : ∀ use ∈ capUses usage limits, ¬ use.ExceededInRange
    · exact .inl (same.mpr within)
    · push Not at within
      exact .inr within
  · rintro (within | ⟨use, member, exceeded⟩)
    · exact iff_of_true within (weaker within)
    · exact iff_of_false (fun within => weaker within use member exceeded) fun within => within use member exceeded

/-- A usage one byte past a memory cap of `i64::MAX`. -/
def pastSignedRange : ResourceUsage := ⟨0, I64_MAX + 1, 0, 0, 0, 0⟩

def topLimits : ResourceLimits := { ResourceLimits.defaultStrict with memoryMaxBytes := I64_MAX }

/-- The check refuses what leaves zero bytes. -/
theorem not_budgetViewsAgree_top : ¬ BudgetViewsAgree ⟨false⟩ ⟨"sbx_0"⟩ 0 [] pastSignedRange topLimits := by
  rintro ⟨remaining, computed, same⟩
  have zero : computeRemaining pastSignedRange topLimits = some ⟨10, 0, 1048576, 1048576, 4, 64⟩ := by decide
  obtain rfl := Option.some.inj (zero.symm.trans computed)
  have accepts : Accepts ⟨false⟩ ⟨"sbx_0"⟩ 0 [] pastSignedRange.asRequest topLimits := same.mpr ⟨by decide, by decide,
    by decide, by decide, by decide, by decide⟩
  cases accepts

end ResourceLimitEnforcer

end Aios.Profile
