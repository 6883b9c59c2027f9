import Aios.Lib.Lines
import Aios.Profile.AppArmor

/-! # Text that injects rules

The name, the description and every unrecognised entry of a profile are pasted into comment lines of the
generated text. Nothing escapes line feeds in them. So a profile adds rules through such a text exactly if
the text has a line feed with something other than a comment line after it.
-/

namespace Aios.Profile

section

variable {α : Type} (unicode : Unicode) (entry : String) (sandbox : SandboxProfile)

/-! ## Comment lines -/

/-- A line whose first character after blanks is `#`, other than an `#include`. -/
def isComment : List Char → Bool
  | [] => false
  | c :: rest =>
    if c = ' ' ∨ c = '\t' then isComment rest
    else c == '#' && !(['i', 'n', 'c', 'l', 'u', 'd', 'e'].isPrefixOf rest)

/-- The lines of a text that AppArmor reads. -/
def rules (text : String) : List (List Char) := Lines.kept '\n' isComment text.toList

def Closed (text : String) : Prop := Lines.Closed '\n' text.toList

theorem isPrefixOf_append_of_not_mem [DecidableEq α] {start finish : List α} {mark : α} (free : mark ∉ start)
    (text : List α) : start.isPrefixOf (text ++ mark :: finish) = start.isPrefixOf text := by
  induction start generalizing text with
  | nil => rfl
  | cons head rest ih =>
    obtain ⟨different, free⟩ := not_or.mp (mt List.mem_cons.mpr free)
    cases text with
    | nil => simp [List.isPrefixOf, Ne.symm different]
    | cons first more => simp [List.isPrefixOf, ih free]

/-- What ends the line of an unknown entry does not make a comment of it, or the reverse. -/
theorem isComment_append (line : List Char) : isComment (line ++ " — denied by default".toList) = isComment line := by
  have finish : " — denied by default".toList = ' ' :: "— denied by default".toList := by decide
  induction line with
  | nil => decide
  | cons head rest ih =>
    rw [List.cons_append]
    unfold isComment
    rw [ih, finish, isPrefixOf_append_of_not_mem (by decide)]

/-! ## The pasted texts -/

/-- Whatever the text has after a line feed begins a comment line. -/
def Harmless (text : String) : Prop := Lines.Harmless '\n' isComment text.toList = true

/-- A text between the start of a comment line and the end of a line. -/
theorem rules_pasted_eq_nil_iff {start ending : String} {finish : List Char}
    (comment : ∀ line, isComment (start.toList ++ line) = true) (free : '\n' ∉ start.toList)
    (ends : ending.toList = finish ++ ['\n']) (free' : '\n' ∉ finish)
    (absorbed : ∀ line, isComment (line ++ finish) = isComment line) (text : String) :
    rules (start ++ text ++ ending) = [] ↔ Harmless text := by
  unfold rules Harmless
  rw [String.toList_append, String.toList_append, ends, Lines.kept_pasted_eq_nil_iff free' absorbed free, comment]
  simp only [true_and]

theorem rules_name_eq_nil_iff (name : String) : rules s!"# Profile: {name}\n" = [] ↔ Harmless name :=
  @rules_pasted_eq_nil_iff "# Profile: " "\n" [] (fun _ => rfl) (by decide) rfl List.not_mem_nil
    (fun line => by rw [List.append_nil]) name

theorem rules_description_eq_nil_iff (description : String) :
    rules s!"# Description: {description}\n" = [] ↔ Harmless description :=
  @rules_pasted_eq_nil_iff "# Description: " "\n" [] (fun _ => rfl) (by decide) rfl List.not_mem_nil
    (fun line => by rw [List.append_nil]) description

theorem rules_unknownEntryLine_eq_nil_iff : rules (unknownEntryLine entry) = [] ↔ Harmless entry :=
  @rules_pasted_eq_nil_iff "  # unknown syscall allowlist entry: " " — denied by default\n"
    " — denied by default".toList (fun _ => rfl) (by decide) (by decide) (by decide) isComment_append entry

theorem rules_append {text : String} (closed : Closed text) (more : String) :
    rules (text ++ more) = rules text ++ rules more := by
  unfold rules
  rw [String.toList_append, Lines.kept_append closed]

/-- Whatever ends in a line feed is closed. -/
theorem closed_of_ending {ending : List Char} (ends : ending.getLast? = some '\n') (text : String) :
    Closed (text ++ String.ofList ending) := by
  intro last found
  rw [String.toList_append, List.getLast?_append, String.toList_ofList, ends] at found
  exact (Option.some.inj found).symm

/-! ## The parts of a generated text -/

/-- The entries of the allowlist, none where there is no list. -/
def SandboxProfile.entries (self : SandboxProfile) : List String := self.syscallAllowlist.getD []

def frontText : String :=
  "# AI-OS.NET Rev.6 — Auto-generated AppArmor profile\n" ++ "# Generated by aios-sandbox confinement_generator\n"

/-- What the header has after the description. -/
def headerRest (profileName : String) (kind : IsolationKind) : String :=
  s!"# Isolation: {kind.debug}\n" ++ "\n" ++ "#include <tunables/global>\n" ++ "\n" ++ s!"profile {profileName}" ++
    " \x7b\n"

theorem writeHeader_eq (profileName : String) (sandbox : SandboxProfile) :
    writeHeader profileName sandbox = frontText ++ (s!"# Profile: {sandbox.name}\n" ++
      (s!"# Description: {sandbox.description}\n" ++ headerRest profileName sandbox.isolationKind)) := by
  unfold writeHeader frontText headerRest
  simp only [String.append_assoc, -String.reduceAppend]

/-- What stands between the description and the entries of the allowlist. -/
def middleText (sandbox : SandboxProfile) : String :=
  let strategy := strategyFor sandbox.isolationKind
  let profileName := s!"aios-{sandbox.profileId.value}"
  headerRest profileName sandbox.isolationKind ++ writeIncludes ++ writeFlags strategy ++ writePathRules profileName ++
    writeNetworkRules sandbox.networkPosture strategy ++ writeGpuRules sandbox.gpuPolicy ++ deniedCapabilities

def entriesText (entries : List String) : String :=
  entries.foldr (fun entry rest => writeEntry unicode entry ++ rest) ""

def backText (sandbox : SandboxProfile) : String := writeDenyList sandbox.isolationKind ++ writeProfileClose

theorem profileText_eq :
    profileText unicode sandbox = frontText ++ (s!"# Profile: {sandbox.name}\n" ++
      (s!"# Description: {sandbox.description}\n" ++ (middleText sandbox ++
        (entriesText unicode sandbox.entries ++ backText sandbox)))) := by
  have entries : writeSyscallCaps unicode sandbox.syscallAllowlist =
      deniedCapabilities ++ entriesText unicode sandbox.entries := by
    unfold writeSyscallCaps entriesText SandboxProfile.entries
    cases sandbox.syscallAllowlist with
    | none => rw [Option.getD_none, List.foldr_nil]
    | some list => rw [Option.getD_some]
  unfold profileText middleText backText
  dsimp only
  rw [entries, writeHeader_eq]
  simp only [String.append_assoc, -String.reduceAppend]

/-! ## Its rules -/

/-- The entries that are known, as capabilities. -/
def recognised (entries : List String) : List String :=
  (entries.map (normalized unicode)).filter (· ∈ knownCapabilities)

def recognisedRules (entries : List String) : List (List Char) :=
  (recognised unicode entries).flatMap fun capability => rules (capabilityLine capability)

/-- The rules that a profile has on its own account. -/
def ownRules (sandbox : SandboxProfile) : List (List Char) :=
  rules frontText ++ (rules (middleText sandbox) ++
    (recognisedRules unicode sandbox.entries ++ rules (backText sandbox)))

/-- No entry that is not known injects a line. -/
def HarmlessEntries (entries : List String) : Prop :=
  ∀ entry ∈ entries, normalized unicode entry ∉ knownCapabilities → Harmless entry

/-- No text that is pasted into a generated profile injects a line. -/
structure HarmlessTexts (unicode : Unicode) (sandbox : SandboxProfile) : Prop where
  name : Harmless sandbox.name
  description : Harmless sandbox.description
  entries : HarmlessEntries unicode sandbox.entries

theorem writeEntry_closed : Closed (writeEntry unicode entry) := by
  unfold writeEntry
  split_ifs
  · exact closed_of_ending rfl _
  · exact closed_of_ending rfl _

theorem entriesText_closed (entries : List String) : Closed (entriesText unicode entries) := by
  induction entries with
  | nil =>
    intro last found
    cases found
  | cons head rest ih =>
    unfold Closed entriesText
    rw [List.foldr_cons, String.toList_append]
    exact Lines.closed_append (writeEntry_closed unicode head) ih

/-- What is inserted into a list shows, however much of the list there is. -/
theorem append_eq_iff_of_sublist {inserted all base : List α} (sub : base.Sublist all) :
    inserted ++ all = base ↔ inserted = [] ∧ all = base := by
  constructor
  · intro same
    have lengths := congrArg List.length same
    rw [List.length_append] at lengths
    have shorter := sub.length_le
    have none : inserted = [] := List.eq_nil_of_length_eq_zero (by omega)
    subst none
    exact ⟨rfl, same⟩
  · rintro ⟨rfl, rfl⟩
    rfl

theorem recognisedRules_sublist (entries : List String) :
    (recognisedRules unicode entries).Sublist (rules (entriesText unicode entries)) := by
  induction entries with
  | nil => exact List.nil_sublist _
  | cons head rest ih =>
    unfold entriesText recognisedRules recognised
    rw [List.foldr_cons, rules_append (writeEntry_closed unicode head), List.map_cons]
    by_cases known : normalized unicode head ∈ knownCapabilities
    · rw [List.filter_cons_of_pos (by simpa using known), List.flatMap_cons]
      unfold writeEntry
      rw [if_pos known]
      exact List.Sublist.append (List.Sublist.refl _) ih
    · rw [List.filter_cons_of_neg (by simpa using known)]
      exact ih.trans (List.sublist_append_right _ _)

theorem entries_rules_eq_iff (entries : List String) :
    rules (entriesText unicode entries) = recognisedRules unicode entries ↔ HarmlessEntries unicode entries := by
  unfold HarmlessEntries
  induction entries with
  | nil => exact ⟨fun _ _ missing => absurd missing List.not_mem_nil, fun _ => rfl⟩
  | cons head rest ih =>
    rw [List.forall_mem_cons, ← ih]
    by_cases known : normalized unicode head ∈ knownCapabilities
    · have text : rules (entriesText unicode (head :: rest)) =
          rules (capabilityLine (normalized unicode head)) ++ rules (entriesText unicode rest) := by
        unfold entriesText
        rw [List.foldr_cons, rules_append (writeEntry_closed unicode head), writeEntry, if_pos known]
      have own : recognisedRules unicode (head :: rest) =
          rules (capabilityLine (normalized unicode head)) ++ recognisedRules unicode rest := by
        unfold recognisedRules recognised
        rw [List.map_cons, List.filter_cons_of_pos (by simpa using known), List.flatMap_cons]
      rw [text, own, List.append_cancel_left_eq]
      exact ⟨fun same => ⟨fun unknown => absurd known unknown, same⟩, And.right⟩
    · have text : rules (entriesText unicode (head :: rest)) =
          rules (unknownEntryLine head) ++ rules (entriesText unicode rest) := by
        unfold entriesText
        rw [List.foldr_cons, rules_append (writeEntry_closed unicode head), writeEntry, if_neg known]
      have own : recognisedRules unicode (head :: rest) = recognisedRules unicode rest := by
        unfold recognisedRules recognised
        rw [List.map_cons, List.filter_cons_of_neg (by simpa using known)]
      rw [text, own, append_eq_iff_of_sublist (recognisedRules_sublist unicode rest), rules_unknownEntryLine_eq_nil_iff]
      exact ⟨fun harmless => ⟨fun _ => harmless.1, harmless.2⟩, fun harmless => ⟨harmless.1 known, harmless.2⟩⟩

theorem middleText_closed : Closed (middleText sandbox) := by
  change Closed (_ ++ (_ ++ "  deny capability sys_module,\n"))
  rw [← String.append_assoc]
  exact closed_of_ending rfl _

/-- The text has the profile's own rules and no others exactly if every pasted text is harmless. -/
theorem profileText_rules_eq_iff :
    rules (profileText unicode sandbox) = ownRules unicode sandbox ↔ HarmlessTexts unicode sandbox := by
  have front : Closed frontText := closed_of_ending rfl _
  have name : Closed s!"# Profile: {sandbox.name}\n" := closed_of_ending rfl _
  have description : Closed s!"# Description: {sandbox.description}\n" := closed_of_ending rfl _
  have entries := List.Sublist.append (recognisedRules_sublist unicode sandbox.entries)
    (List.Sublist.refl (rules (backText sandbox)))
  have middle := List.Sublist.append (List.Sublist.refl (rules (middleText sandbox))) entries
  have described := middle.trans (List.sublist_append_right (rules s!"# Description: {sandbox.description}\n") _)
  rw [profileText_eq, rules_append front, rules_append name, rules_append description,
    rules_append (middleText_closed sandbox), rules_append (entriesText_closed unicode sandbox.entries), ownRules,
    List.append_cancel_left_eq, append_eq_iff_of_sublist described, append_eq_iff_of_sublist middle,
    List.append_cancel_left_eq, List.append_cancel_right_eq, rules_name_eq_nil_iff, rules_description_eq_nil_iff,
    entries_rules_eq_iff]
  exact ⟨fun harmless => ⟨harmless.1, harmless.2.1, harmless.2.2⟩,
    fun harmless => ⟨harmless.name, harmless.description, harmless.entries⟩⟩

/-! ## Two profiles with the same settings -/

/-- The profiles differ in their names, descriptions and unknown entries only, as far as the generator
reads them. -/
structure AgreeOnSettings (unicode : Unicode) (profile other : SandboxProfile) : Prop where
  profileId : profile.profileId = other.profileId
  isolationKind : profile.isolationKind = other.isolationKind
  networkPosture : profile.networkPosture = other.networkPosture
  gpuPolicy : profile.gpuPolicy = other.gpuPolicy
  recognised : recognised unicode profile.entries = recognised unicode other.entries

theorem AgreeOnSettings.ownRules {unicode : Unicode} {profile other : SandboxProfile}
    (agree : AgreeOnSettings unicode profile other) : ownRules unicode profile = ownRules unicode other := by
  unfold Profile.ownRules middleText backText recognisedRules
  rw [agree.profileId, agree.isolationKind, agree.networkPosture, agree.gpuPolicy, agree.recognised]

end

namespace AppArmorProfileGenerator

variable (self : AppArmorProfileGenerator) (unicode : Unicode)

/-- The rules of the profile that is generated. -/
def generatedRules (sandbox : SandboxProfile) : Option (List (List Char)) :=
  (self.generateProfile unicode sandbox).map fun generated => rules generated.content

/-- The text is not truncated. -/
def Fits (sandbox : SandboxProfile) : Prop := (profileText unicode sandbox).utf8ByteSize ≤ self.maxProfileBytes

/-- No text is written, or none that is pasted into it injects a line. -/
def InjectionFree (sandbox : SandboxProfile) : Prop :=
  writesText sandbox.isolationKind = true → HarmlessTexts unicode sandbox

theorem generatedRules_of_fits {sandbox : SandboxProfile} (fits : self.Fits unicode sandbox) :
    self.generatedRules unicode sandbox =
      some (if writesText sandbox.isolationKind then rules (profileText unicode sandbox) else []) := by
  unfold generatedRules generateProfile truncateIfNeeded
  rw [if_neg (Nat.not_lt.mpr fits)]
  split_ifs <;> rfl

/-! ## An example -/

/-- The mapping on texts that are in lower case already. -/
def exampleUnicode : Unicode := ⟨id⟩

/-- A strict profile under a name. -/
def named (name : String) : SandboxProfile := .newStrict ⟨"sbx_0"⟩ name "A test"

/-- The text of a named profile after its name. -/
def textAfterName : String :=
  "# Description: " ++ "A test" ++ "\n" ++
    (middleText (named "") ++ (entriesText exampleUnicode [] ++ backText (named "")))

theorem named_fits {name : String} (short : name.utf8ByteSize ≤ 100) :
    Fits ⟨DEFAULT_MAX_PROFILE_BYTES⟩ exampleUnicode (named name) := by
  have sizes : frontText.utf8ByteSize + textAfterName.utf8ByteSize ≤ 4000 := by decide +kernel
  have text : profileText exampleUnicode (named name) = frontText ++
    (("# Profile: " ++ name ++ "\n") ++ textAfterName) :=
    profileText_eq exampleUnicode (named name)
  have line : ("# Profile: " ++ name ++ "\n").utf8ByteSize = 12 + name.utf8ByteSize := by
    rw [String.utf8ByteSize_append, String.utf8ByteSize_append, show "# Profile: ".utf8ByteSize = 11 by decide,
      show "\n".utf8ByteSize = 1 by decide]
    omega
  unfold Fits DEFAULT_MAX_PROFILE_BYTES
  rw [text, String.utf8ByteSize_append, String.utf8ByteSize_append, line]
  dsimp only
  omega

def injectingName : String := "x\n  capability sys_admin,"

/-- A line feed in the name adds a rule to the profile. -/
theorem injectingName_addsRule : AgreeOnSettings exampleUnicode (named "x") (named injectingName) ∧
    Fits ⟨DEFAULT_MAX_PROFILE_BYTES⟩ exampleUnicode (named "x") ∧
    Fits ⟨DEFAULT_MAX_PROFILE_BYTES⟩ exampleUnicode (named injectingName) ∧
    generatedRules ⟨DEFAULT_MAX_PROFILE_BYTES⟩ exampleUnicode (named "x") ≠
      generatedRules ⟨DEFAULT_MAX_PROFILE_BYTES⟩ exampleUnicode (named injectingName) := by
  have agree : AgreeOnSettings exampleUnicode (named "x") (named injectingName) := ⟨rfl, rfl, rfl, rfl, rfl⟩
  have fits : Fits ⟨DEFAULT_MAX_PROFILE_BYTES⟩ exampleUnicode (named "x") := named_fits (by decide)
  have fits' : Fits ⟨DEFAULT_MAX_PROFILE_BYTES⟩ exampleUnicode (named injectingName) := named_fits (by decide)
  refine ⟨agree, fits, fits', ?_⟩
  rw [generatedRules_of_fits _ _ fits, generatedRules_of_fits _ _ fits']
  intro same
  have plain : HarmlessTexts exampleUnicode (named "x") :=
    ⟨by unfold Harmless; decide, by unfold Harmless; decide, fun _ missing => absurd missing List.not_mem_nil⟩
  have injecting : HarmlessTexts exampleUnicode (named injectingName) := by
    rw [← profileText_rules_eq_iff, ← agree.ownRules, ← (profileText_rules_eq_iff _ _).mpr plain]
    exact (Option.some.inj same).symm
  exact absurd injecting.name (by unfold Harmless; decide)

/-- Two profiles with the same settings, one of them free of injections, generate the same rules exactly if
the other is free of them as well. -/
theorem generatedRules_eq_iff {profile other : SandboxProfile} (agree : AgreeOnSettings unicode profile other)
    (fits : self.Fits unicode profile) (fits' : self.Fits unicode other)
    (one : InjectionFree unicode profile ∨ InjectionFree unicode other) :
    self.generatedRules unicode profile = self.generatedRules unicode other ↔
      InjectionFree unicode profile ∧ InjectionFree unicode other := by
  rw [self.generatedRules_of_fits unicode fits, self.generatedRules_of_fits unicode fits', Option.some_inj,
    agree.isolationKind]
  unfold InjectionFree at one ⊢
  rw [agree.isolationKind] at one ⊢
  by_cases written : writesText other.isolationKind = true
  · simp only [written, if_true, forall_const] at one ⊢
    rw [← profileText_rules_eq_iff, ← profileText_rules_eq_iff, agree.ownRules] at one ⊢
    constructor
    · intro same
      rw [same] at one ⊢
      have own := or_self_iff.mp one
      exact ⟨own, own⟩
    · rintro ⟨own, own'⟩
      exact own.trans own'.symm
  · simp [written]

/-- Another harmless name does not change the rules. -/
theorem generatedRules_eq_iff_example :
    generatedRules ⟨DEFAULT_MAX_PROFILE_BYTES⟩ exampleUnicode (named "x") =
      generatedRules ⟨DEFAULT_MAX_PROFILE_BYTES⟩ exampleUnicode (named "y\n# z") := by
  have harmless : InjectionFree exampleUnicode (named "x") := fun _ =>
    ⟨by unfold Harmless; decide, by unfold Harmless; decide, fun _ missing => absurd missing List.not_mem_nil⟩
  have harmless' : InjectionFree exampleUnicode (named "y\n# z") := fun _ =>
    ⟨by unfold Harmless; decide, by unfold Harmless; decide, fun _ missing => absurd missing List.not_mem_nil⟩
  have fits : Fits ⟨DEFAULT_MAX_PROFILE_BYTES⟩ exampleUnicode (named "x") := named_fits (by decide)
  have fits' : Fits ⟨DEFAULT_MAX_PROFILE_BYTES⟩ exampleUnicode (named "y\n# z") := named_fits (by decide)
  have agree : AgreeOnSettings exampleUnicode (named "x") (named "y\n# z") := ⟨rfl, rfl, rfl, rfl, rfl⟩
  exact (generatedRules_eq_iff _ _ agree fits fits' (.inl harmless)).mpr ⟨harmless, harmless'⟩

end AppArmorProfileGenerator

end Aios.Profile
