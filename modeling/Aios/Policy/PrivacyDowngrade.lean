import Aios.Policy.HardDeny

/-! # Downgrades of privacy classes

What the tenth detector lets through. An unknown class ranks above every class of the ladder, which denies a change
from it and passes each change to it.
-/

namespace Aios.Policy

open Aios.Rust Aios.Action

/-- The words of the ladder, from the lowest. -/
def privacyLadder : List String := ["PUBLIC", "INTERNAL", "CONFIDENTIAL", "SECRET", "TOP_SECRET"]

theorem privacyRank_of_mem {privacyClass : String} (known : privacyClass ∈ privacyLadder) :
    privacyRank privacyClass < 5 := by
  simp only [privacyLadder, List.mem_cons, List.not_mem_nil, or_false] at known
  rcases known with rfl | rfl | rfl | rfl | rfl <;> decide

theorem privacyRank_of_notMem {privacyClass : String} (unknown : privacyClass ∉ privacyLadder) :
    privacyRank privacyClass = 255 := by
  simp only [privacyLadder, List.mem_cons, List.not_mem_nil, or_false, not_or] at unknown
  obtain ⟨lowest, internal, confidential, secret, highest⟩ := unknown
  rw [privacyRank, if_neg lowest, if_neg internal, if_neg confidential, if_neg secret, if_neg highest]

/-- No class ranks above an unknown one. -/
theorem privacyRank_le (privacyClass : String) : privacyRank privacyClass ≤ 255 := by
  by_cases known : privacyClass ∈ privacyLadder
  · exact (privacyRank_of_mem known).le.trans (by decide)
  · exact (privacyRank_of_notMem known).le

namespace HardDenyEngine

/-- A change of the class that is listed as a downgrade and names both classes. -/
structure ChangesClass (engine : HardDenyEngine) (envelope : ActionEnvelope) (current new : String) : Prop where
  listed : envelope.request.action ∈ engine.config.privacyClassDowngradeActions
  before : targetStringField envelope "current_class" = some current
  after : targetStringField envelope "new_class" = some new

variable (self : HardDenyEngine) (envelope : ActionEnvelope)

/-- What the detector lets through goes up the ladder. -/
def FailClosed (current new : String) : Prop :=
  self.detectPrivacyClassDowngrade envelope = false →
    current ∈ privacyLadder ∧ new ∈ privacyLadder ∧ privacyRank current ≤ privacyRank new

variable {self envelope} {current new : String}

theorem ChangesClass.detect_eq_false_iff (changes : self.ChangesClass envelope current new) :
    self.detectPrivacyClassDowngrade envelope = false ↔ privacyRank current ≤ privacyRank new := by
  have listed : detectAction self.config.privacyClassDowngradeActions envelope = true :=
    List.contains_iff_mem.mpr changes.listed
  simp only [detectPrivacyClassDowngrade, listed, changes.before, changes.after, Bool.not_true, Bool.false_eq_true,
    if_false, decide_eq_false_iff_not, not_lt]

/-- Every change to an unknown class goes through. -/
theorem ChangesClass.detect_of_unknown (changes : self.ChangesClass envelope current new)
    (unknown : new ∉ privacyLadder) : self.detectPrivacyClassDowngrade envelope = false := by
  rw [changes.detect_eq_false_iff, privacyRank_of_notMem unknown]
  exact privacyRank_le current

/-- No change from an unknown class to a known one does. -/
theorem ChangesClass.detect_from_unknown (changes : self.ChangesClass envelope current new)
    (unknown : current ∉ privacyLadder) (known : new ∈ privacyLadder) :
    self.detectPrivacyClassDowngrade envelope = true := by
  rw [← Bool.not_eq_false, changes.detect_eq_false_iff, privacyRank_of_notMem unknown]
  have low := privacyRank_of_mem known
  omega

/-- The detector is fail-closed on a change of the class exactly if the new class is a word of the ladder. -/
theorem downgradeFailClosed_iff (self : HardDenyEngine) (envelope : ActionEnvelope) (current new : String)
    (changes : self.ChangesClass envelope current new) :
    self.FailClosed envelope current new ↔ new ∈ privacyLadder := by
  constructor
  · intro closed
    by_contra unknown
    exact unknown (closed (changes.detect_of_unknown unknown)).2.1
  · intro known quiet
    refine ⟨?_, known, changes.detect_eq_false_iff.mp quiet⟩
    by_contra unknown
    rw [changes.detect_from_unknown unknown known] at quiet
    cases quiet

/-- A secret object is given a class of the file system. -/
def secretToSensitive : ActionEnvelope where
  identity := { subjectCanonicalId := "agent:dev", isAi := true }
  request :=
    { action := "object.privacy.downgrade"
      target := .object [("current_class", .string "SECRET"), ("new_class", .string "SENSITIVE")] }

theorem secretToSensitive_changes : newWithDefaults.ChangesClass secretToSensitive "SECRET" "SENSITIVE" :=
  ⟨by decide +kernel, by decide +kernel, by decide +kernel⟩

theorem secretToSensitive_failClosed_iff :
    newWithDefaults.FailClosed secretToSensitive "SECRET" "SENSITIVE" ↔ "SENSITIVE" ∈ privacyLadder :=
  downgradeFailClosed_iff newWithDefaults secretToSensitive "SECRET" "SENSITIVE" secretToSensitive_changes

/-- It goes through. -/
theorem secretToSensitive_passes : ¬∀ (self : HardDenyEngine) envelope current new,
    self.ChangesClass envelope current new → self.FailClosed envelope current new := by
  intro closed
  have unknown : "SENSITIVE" ∉ privacyLadder := by decide +kernel
  have quiet := secretToSensitive_changes.detect_of_unknown unknown
  exact unknown (closed newWithDefaults secretToSensitive "SECRET" "SENSITIVE" secretToSensitive_changes quiet).2.1

end HardDenyEngine

end Aios.Policy
