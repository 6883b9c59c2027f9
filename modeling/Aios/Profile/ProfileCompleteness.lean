import Aios.Profile.RuleInjection

/-! # Complete profiles

The writers end a profile with its deny rules and the closing brace. A text that is too long loses bytes at that
end, and the truncation note stands behind what is left.
-/

namespace Aios.Profile

section

variable {text : String} (profileName : String) (posture : NetworkPosture) (sandbox : SandboxProfile)

variable (kind : IsolationKind) (unicode : Unicode)

/-! ## The deny rules -/

def denyPathRules : List String :=
  ["  deny /boot/** rwxlkmix,", "  deny /root/** rwxlkmix,", "  deny /etc/shadow rwxlkmix,",
    "  deny @\x7bPROC\x7d/sys/** rwxlkmix,", "  deny /sys/kernel/** rwxlkmix,"]

def denyCapabilityRules : List String :=
  ["  deny capability sys_ptrace,", "  deny capability sys_admin,", "  deny capability sys_module,"]

def crossCapsuleRules (kind : IsolationKind) : List String :=
  (if kind = .browserOriginIsolated then
    ["  deny @\x7bHOME\x7d/.ssh/** rwxlkmix,", "  deny @\x7bHOME\x7d/.gnupg/** rwxlkmix,"]
  else []) ++
  ["  deny ptrace,", "  deny /dev/mem rwxlkmix,", "  deny /dev/kmem rwxlkmix,", "  deny /dev/port rwxlkmix,"]

/-- The rules that every profile of a kind is to deny with, whatever else it says. -/
def mandatoryDenyRules (kind : IsolationKind) : List String :=
  denyPathRules ++ denyCapabilityRules ++ crossCapsuleRules kind

/-! ## Where the writers put them -/

theorem rules_subset_left (closed : Closed text) (more : String) : rules text ⊆ rules (text ++ more) := by
  rw [rules_append closed]
  exact List.subset_append_left _ _

theorem rules_subset_right (closed : Closed text) (more : String) : rules more ⊆ rules (text ++ more) := by
  rw [rules_append closed]
  exact List.subset_append_right _ _

theorem closed_append {more : String} (closed : Closed text) (closed' : Closed more) : Closed (text ++ more) := by
  rw [Closed, String.toList_append]
  exact Lines.closed_append closed closed'

theorem closed_of_last {text : List Char} (ends : text.getLast? = some '\n') : Closed (String.ofList text) := by
  intro last found
  rw [String.toList_ofList, ends] at found
  exact (Option.some.inj found).symm

theorem closed_optional {note : String} (closed : Closed note) (wanted : Prop) [Decidable wanted] :
    Closed (if wanted then note else "") := by
  split
  · exact closed
  · intro last found
    cases found

/-- What `write_path_rules` ends with. -/
def denyPathsText : String :=
  "  deny /boot/** rwxlkmix,\n" ++
  "  deny /root/** rwxlkmix,\n" ++
  "  deny /etc/shadow rwxlkmix,\n" ++
  "  deny @\x7bPROC\x7d/sys/** rwxlkmix,\n" ++
  "  deny /sys/kernel/** rwxlkmix,\n"

theorem denyPaths_in_writePathRules : ∀ rule ∈ denyPathRules, rule.toList ∈ rules (writePathRules profileName) := by
  obtain ⟨front, same⟩ : ∃ front, writePathRules profileName =
      front ++ "\n  # ── Deny dangerous paths ────────────────\n" ++ denyPathsText := by
    unfold writePathRules denyPathsText
    simp only [← String.append_assoc, -String.reduceAppend]
    exact ⟨_, rfl⟩
  have listed : ∀ rule ∈ denyPathRules, rule.toList ∈ rules denyPathsText := by
    unfold denyPathRules denyPathsText rules
    simp only [String.toList_append, List.forall_mem_cons, -String.reduceToList, -String.reduceAppend]
    repeat rw [String.toList_ofList]
    decide +kernel
  intro rule member
  rw [same]
  exact rules_subset_right (closed_of_ending rfl front) _ (listed rule member)

theorem writePathRules_closed : Closed (writePathRules profileName) :=
  closed_of_ending rfl _

theorem denyCapabilities_in_deniedCapabilities :
    ∀ rule ∈ denyCapabilityRules, rule.toList ∈ rules deniedCapabilities := by
  unfold denyCapabilityRules deniedCapabilities rules
  simp only [String.toList_append, List.forall_mem_cons, -String.reduceToList, -String.reduceAppend]
  repeat rw [String.toList_ofList]
  decide +kernel

theorem crossCapsule_in_writeDenyList : ∀ rule ∈ crossCapsuleRules kind, rule.toList ∈ rules (writeDenyList kind) := by
  unfold crossCapsuleRules writeDenyList rules
  by_cases browser : kind = .browserOriginIsolated
  · simp only [if_pos browser, List.cons_append, List.nil_append, String.toList_append, List.forall_mem_cons,
      -String.reduceToList, -String.reduceAppend]
    repeat rw [String.toList_ofList]
    decide +kernel
  · simp only [if_neg browser, List.nil_append, String.toList_append, List.forall_mem_cons, -String.reduceToList,
      -String.reduceAppend]
    repeat rw [String.toList_ofList]
    decide +kernel

theorem writeDenyList_closed : Closed (writeDenyList kind) := by
  cases kind <;> exact closed_of_ending rfl _

/-- What the header, the includes and the flags write, up to the path rules. -/
def beforePaths (profileName : String) (sandbox : SandboxProfile) : String :=
  headerRest profileName sandbox.isolationKind ++ writeIncludes ++ writeFlags (strategyFor sandbox.isolationKind)

theorem beforePaths_closed : Closed (beforePaths profileName sandbox) := by
  apply closed_append
  · exact closed_append (closed_of_ending rfl _) (closed_of_ending rfl _)
  · exact closed_optional (closed_of_ending rfl _) _

theorem middleText_eq :
    middleText sandbox = beforePaths s!"aios-{sandbox.profileId.value}" sandbox ++
      (writePathRules s!"aios-{sandbox.profileId.value}" ++
        (writeNetworkRules sandbox.networkPosture (strategyFor sandbox.isolationKind) ++
          writeGpuRules sandbox.gpuPolicy)) ++ deniedCapabilities := by
  unfold middleText beforePaths
  simp only [String.append_assoc, -String.reduceAppend]

theorem gpuClassRules_closed (gpuClass : GpuCapabilityClass) : Closed (gpuClassRules gpuClass) := by
  cases gpuClass <;> exact closed_of_ending rfl _

theorem writeGpuRules_closed (gpu : GpuPolicy) : Closed (writeGpuRules gpu) := by
  unfold writeGpuRules
  apply closed_append
  · apply closed_append
    · exact closed_append (closed_of_last rfl) (gpuClassRules_closed gpu.gpuCapabilityClass)
    · exact closed_optional (closed_of_last rfl) _
  · exact closed_optional (closed_of_last rfl) _

theorem postureRules_closed : Closed (postureRules posture) := by
  cases posture <;> exact closed_of_ending rfl _

theorem writeNetworkRules_closed (strategy : ConfinementStrategy) : Closed (writeNetworkRules posture strategy) := by
  unfold writeNetworkRules
  apply closed_append
  · exact closed_append (closed_of_last rfl) (postureRules_closed posture)
  · exact closed_optional (closed_of_ending rfl _) _

theorem crossCapsule_in_backText :
    ∀ rule ∈ crossCapsuleRules sandbox.isolationKind, rule.toList ∈ rules (backText sandbox) := by
  intro rule member
  unfold backText
  apply rules_subset_left (writeDenyList_closed sandbox.isolationKind)
  exact crossCapsule_in_writeDenyList sandbox.isolationKind rule member

/-- The mandatory rules of the text that is not truncated. -/
theorem mandatory_in_profileText (sandbox : SandboxProfile) :
    ∀ rule ∈ mandatoryDenyRules sandbox.isolationKind, rule.toList ∈ rules (profileText unicode sandbox) := by
  intro rule member
  rw [profileText_eq]
  have front : Closed frontText := closed_of_ending rfl _
  have name : Closed s!"# Profile: {sandbox.name}\n" := closed_of_ending rfl _
  have description : Closed s!"# Description: {sandbox.description}\n" := closed_of_ending rfl _
  apply rules_subset_right front
  apply rules_subset_right name
  apply rules_subset_right description
  rw [mandatoryDenyRules, List.mem_append, List.mem_append] at member
  obtain (path | capability) | cross := member
  · apply rules_subset_left (middleText_closed sandbox)
    rw [middleText_eq, String.append_assoc]
    apply rules_subset_right (beforePaths_closed _ sandbox)
    rw [String.append_assoc]
    exact rules_subset_left (writePathRules_closed _) _ (denyPaths_in_writePathRules _ rule path)
  · apply rules_subset_left (middleText_closed sandbox)
    rw [middleText_eq]
    refine rules_subset_right ?_ _ (denyCapabilities_in_deniedCapabilities rule capability)
    apply closed_append (beforePaths_closed _ sandbox)
    apply closed_append (writePathRules_closed _)
    exact closed_append (writeNetworkRules_closed _ _) (writeGpuRules_closed _)
  · have listed := crossCapsule_in_backText sandbox rule cross
    apply rules_subset_right (middleText_closed sandbox)
    exact rules_subset_right (entriesText_closed unicode sandbox.entries) _ listed

theorem profileText_ends (sandbox : SandboxProfile) :
    ∃ body, profileText unicode sandbox = body ++ writeProfileClose := ⟨_, rfl⟩

/-! ## Truncation -/

/-- A cut that is not inside a character is made there. -/
theorem takeBytes_append {bytes : ℕ} {front : List Char} (size : (String.ofList front).utf8ByteSize = bytes)
    (back : List Char) : takeBytes bytes (front ++ back) = some front := by
  induction front generalizing bytes with
  | nil =>
    rw [String.ofList_nil, String.utf8ByteSize_empty] at size
    rw [← size, List.nil_append, takeBytes]
  | cons c front ih =>
    rw [String.ofList_cons, String.utf8ByteSize_append, String.utf8ByteSize_singleton] at size
    have width := c.utf8Size_pos
    obtain ⟨rest, rfl⟩ : ∃ rest, bytes = rest + 1 := ⟨bytes - 1, by omega⟩
    have size' : (String.ofList front).utf8ByteSize = rest + 1 - c.utf8Size := by omega
    have cut := ih size'
    rw [List.cons_append, takeBytes, if_pos (by omega), cut, Option.map_some]
    exact Nat.succ_ne_zero rest

theorem truncate_append (front back : String) : truncate (front ++ back) front.utf8ByteSize = some front := by
  unfold truncate
  rw [String.toList_append, takeBytes_append (by rw [String.ofList_toList]), Option.map_some, String.ofList_toList]

/-- The truncation note does not end as a profile does. -/
theorem truncated_not_closed (cut body : String) : cut ++ truncationNote ≠ body ++ writeProfileClose := by
  intro same
  have characters : (cut ++ truncationNote).toList.reverse = (body ++ writeProfileClose).toList.reverse := by rw [same]
  rw [String.toList_append, String.toList_append, List.reverse_append, List.reverse_append] at characters
  have second := congrArg (fun text : List Char => text[1]?) characters
  cases second

end

namespace AppArmorProfileGenerator

variable (self : AppArmorProfileGenerator) (unicode : Unicode)

variable {sandbox : SandboxProfile} {front : String}

/-- The generator does not panic, and a text it has generated denies what it must and closes its block. -/
def Complete (sandbox : SandboxProfile) : Prop :=
  ∃ profile, self.generateProfile unicode sandbox = some profile ∧ (profile.generated = true →
    (∀ rule ∈ mandatoryDenyRules sandbox.isolationKind, rule.toList ∈ rules profile.content) ∧
      ∃ body, profile.content = body ++ writeProfileClose)

/-- The text is cut at `front`, and the note is put behind it. -/
def TruncatedAt (sandbox : SandboxProfile) (front : String) : Prop :=
  self.generateProfile unicode sandbox = some ⟨s!"aios-{sandbox.profileId.value}", front ++ truncationNote, true,
    strategyFor sandbox.isolationKind⟩

theorem complete_of_fits (fits : self.Fits unicode sandbox) : self.Complete unicode sandbox := by
  unfold Complete generateProfile truncateIfNeeded
  rw [if_neg (Nat.not_lt.mpr fits)]
  split_ifs with writes
  · exact ⟨_, rfl, fun _ => ⟨mandatory_in_profileText unicode sandbox, profileText_ends unicode sandbox⟩⟩
  · exact ⟨_, rfl, fun generated => nomatch generated⟩

theorem complete_of_not_writesText (silent : writesText sandbox.isolationKind = false) :
    self.Complete unicode sandbox := by
  unfold Complete generateProfile
  rw [silent]
  exact ⟨_, rfl, fun generated => nomatch generated⟩

theorem truncatedAt_of_boundary (writes : writesText sandbox.isolationKind = true)
    (exceeds : ¬ self.Fits unicode sandbox) {back : String} (text : profileText unicode sandbox = front ++ back)
    (size : front.utf8ByteSize = self.maxProfileBytes - truncationNote.utf8ByteSize) :
    self.TruncatedAt unicode sandbox front := by
  have cut : self.truncateIfNeeded (profileText unicode sandbox) = some (front ++ truncationNote) := by
    unfold truncateIfNeeded
    rw [if_pos (Nat.lt_of_not_le exceeds), ← size, text, truncate_append, Option.map_some]
  unfold TruncatedAt generateProfile
  rw [if_pos writes, cut, Option.map_some]

/-- What is truncated is not complete. -/
theorem TruncatedAt.not_complete (truncated : self.TruncatedAt unicode sandbox front) :
    ¬ self.Complete unicode sandbox := by
  rintro ⟨profile, generated, complete⟩
  obtain rfl := Option.some.inj (generated.symm.trans truncated)
  obtain ⟨-, body, ends⟩ := complete rfl
  exact truncated_not_closed front body ends

/-- A text that fits is complete, and one that does not is truncated with a note where the cut is not inside a
character. -/
theorem generateProfile_complete (sandbox : SandboxProfile) :
    (writesText sandbox.isolationKind = false ∨ self.Fits unicode sandbox → self.Complete unicode sandbox) ∧
      (writesText sandbox.isolationKind = true → ¬ self.Fits unicode sandbox →
        ∀ front back, profileText unicode sandbox = front ++ back →
          front.utf8ByteSize = self.maxProfileBytes - truncationNote.utf8ByteSize →
            self.TruncatedAt unicode sandbox front) := by
  constructor
  · rintro (silent | fits)
    · exact self.complete_of_not_writesText unicode silent
    · exact self.complete_of_fits unicode fits
  · intro writes exceeds front back text size
    exact self.truncatedAt_of_boundary unicode writes exceeds text size

/-- With a hundred bytes the text is cut within the last word of its first line. -/
theorem not_complete_truncated : ¬ Complete ⟨100⟩ exampleUnicode (named "x") := by
  have front : frontText = "# AI-OS.NET Rev.6 — Auto-generated AppArm" ++ ("or profile\n" ++
      "# Generated by aios-sandbox confinement_generator\n") := by
    unfold frontText
    rw [← String.toList_inj]
    simp only [String.toList_append, -String.reduceToList, -String.reduceAppend]
    repeat rw [String.toList_ofList]
    rfl
  have text := profileText_eq exampleUnicode (named "x")
  rw [front, String.append_assoc] at text
  have size : "# AI-OS.NET Rev.6 — Auto-generated AppArm".utf8ByteSize = 100 - truncationNote.utf8ByteSize := by
    decide +kernel
  have exceeds : ¬ Fits ⟨100⟩ exampleUnicode (named "x") := by
    have header : 100 < frontText.utf8ByteSize := by decide +kernel
    unfold Fits
    rw [profileText_eq, String.utf8ByteSize_append, Nat.not_le]
    exact Nat.lt_add_right _ header
  have truncated := truncatedAt_of_boundary ⟨100⟩ exampleUnicode (by decide) exceeds text size
  exact truncated.not_complete

end AppArmorProfileGenerator

end Aios.Profile
