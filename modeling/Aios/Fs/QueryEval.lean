import Aios.Fs.Query
import Aios.Fs.Records
import Aios.Lib.Glob
import Mathlib.Data.List.TakeWhile

/-! # Evaluating a query

One object is judged by its record, its current version, its pointer and the class of its namespace. The parser of
timestamps is third-party code.
-/

namespace Aios.Fs

open Aios.Rust

/-! ## Tokens -/

inductive NamespaceClass where
  | system | systemApps | systemAgents | systemPolicy | systemCapabilities | systemEvidence | systemVault
  | systemRuntime | systemRecovery | systemBoot | systemFirstboot | systemGovernance | systemIdentity
  | systemKernel | systemHardware | systemDrivers | systemFirmware | systemNetwork | systemSgr | systemUnits
  | systemRunbooks | systemThemes | systemRenderers | systemWeb | systemDistribution | groups | group
  | groupApps | groupAgents | groupUsers | groupShared | groupProjects | groupDatasets | groupInbox
  | groupPolicy | groupEvidence | groupVault | groupAudit | groupServices | groupSystem | user | userHome
  | userAgents | userPrefs | userDesktop | userInbox | userOutbox | userDrafts | userTrust | userApps
  | userRuntime | userExports
  deriving DecidableEq, Repr

def namespaceClassToken : NamespaceClass → String
  | .system => "SYSTEM"
  | .systemApps => "SYSTEM_APPS"
  | .systemAgents => "SYSTEM_AGENTS"
  | .systemPolicy => "SYSTEM_POLICY"
  | .systemCapabilities => "SYSTEM_CAPABILITIES"
  | .systemEvidence => "SYSTEM_EVIDENCE"
  | .systemVault => "SYSTEM_VAULT"
  | .systemRuntime => "SYSTEM_RUNTIME"
  | .systemRecovery => "SYSTEM_RECOVERY"
  | .systemBoot => "SYSTEM_BOOT"
  | .systemFirstboot => "SYSTEM_FIRSTBOOT"
  | .systemGovernance => "SYSTEM_GOVERNANCE"
  | .systemIdentity => "SYSTEM_IDENTITY"
  | .systemKernel => "SYSTEM_KERNEL"
  | .systemHardware => "SYSTEM_HARDWARE"
  | .systemDrivers => "SYSTEM_DRIVERS"
  | .systemFirmware => "SYSTEM_FIRMWARE"
  | .systemNetwork => "SYSTEM_NETWORK"
  | .systemSgr => "SYSTEM_SGR"
  | .systemUnits => "SYSTEM_UNITS"
  | .systemRunbooks => "SYSTEM_RUNBOOKS"
  | .systemThemes => "SYSTEM_THEMES"
  | .systemRenderers => "SYSTEM_RENDERERS"
  | .systemWeb => "SYSTEM_WEB"
  | .systemDistribution => "SYSTEM_DISTRIBUTION"
  | .groups => "GROUPS"
  | .group => "GROUP"
  | .groupApps => "GROUP_APPS"
  | .groupAgents => "GROUP_AGENTS"
  | .groupUsers => "GROUP_USERS"
  | .groupShared => "GROUP_SHARED"
  | .groupProjects => "GROUP_PROJECTS"
  | .groupDatasets => "GROUP_DATASETS"
  | .groupInbox => "GROUP_INBOX"
  | .groupPolicy => "GROUP_POLICY"
  | .groupEvidence => "GROUP_EVIDENCE"
  | .groupVault => "GROUP_VAULT"
  | .groupAudit => "GROUP_AUDIT"
  | .groupServices => "GROUP_SERVICES"
  | .groupSystem => "GROUP_SYSTEM"
  | .user => "USER"
  | .userHome => "USER_HOME"
  | .userAgents => "USER_AGENTS"
  | .userPrefs => "USER_PREFS"
  | .userDesktop => "USER_DESKTOP"
  | .userInbox => "USER_INBOX"
  | .userOutbox => "USER_OUTBOX"
  | .userDrafts => "USER_DRAFTS"
  | .userTrust => "USER_TRUST"
  | .userApps => "USER_APPS"
  | .userRuntime => "USER_RUNTIME"
  | .userExports => "USER_EXPORTS"

def namespaceClassForObject (object : Object) : NamespaceClass :=
  match object.scopeBinding.scopeKind with
  | .system => .system
  | .group => .group
  | .user => .user

def objectKindToken : ObjectKind → String
  | .project => "PROJECT"
  | .application => "APPLICATION"
  | .file => "FILE"
  | .memory => "MEMORY"
  | .policy => "POLICY"
  | .model => "MODEL"
  | .package => "PACKAGE"
  | .evidenceRef => "EVIDENCE_REF"
  | .workspace => "WORKSPACE"
  | .config => "CONFIG"

def privacyClassToken : PrivacyClass → String
  | .public => "PUBLIC"
  | .internal => "INTERNAL"
  | .sensitive => "SENSITIVE"
  | .secretBearing => "SECRET_BEARING"
  | .classified => "CLASSIFIED"

def lifecycleStateToken : LifecycleState → String
  | .active => "ACTIVE"
  | .retired => "RETIRED"
  | .purged => "PURGED"

def versionStateToken (state : VersionState) : String := state.label

def pointerKindToken (kind : PointerKind) : String := kind.label

/-! ## Fields -/

structure QueryEvalContext where
  object : Object
  version : Version
  pointer : Pointer
  namespaceClass : Option NamespaceClass

inductive FieldValue where
  | str (text : String)
  | strList (items : List String)
  | time (at_ : DateTime)
  | absent
  deriving DecidableEq, Repr

def FieldValue.typeName : FieldValue → String
  | .str _ => "string"
  | .strList _ => "string-list"
  | .time _ => "timestamp"
  | .absent => "absent"

def resolveFieldValue (field : QueryField) (ctx : QueryEvalContext) : FieldValue :=
  match field with
  | .objectKind => .str (objectKindToken ctx.object.kind)
  | .objectPrivacyClass => .str (privacyClassToken ctx.object.privacyClass)
  | .objectLifecycleState => .str (lifecycleStateToken ctx.object.lifecycleState)
  | .objectMetadataName => .str ctx.object.metadata.name
  | .objectPolicyTags => .strList ctx.object.policyTags
  | .versionState => .str (versionStateToken ctx.version.state)
  | .versionCreatedAt => .time ctx.version.createdAt
  | .versionCreatedBy =>
    match ctx.version.createdByActionId with
    | some id => .str id
    | none =>
      match ctx.version.createdByTransactionId with
      | some id => .str id
      | none => .absent
  | .pointerKind => .str (pointerKindToken ctx.pointer.kind)
  | .namespaceClass =>
    match ctx.namespaceClass with
    | some class_ => .str (namespaceClassToken class_)
    | none => .absent

/-! ## Predicates -/

inductive QueryEvalError where
  | typeMismatch (field op expectedValueType actualValueType : String)
  | unsupportedOperator (field op : String)
  | invalidTimestamp (field value : String)
  deriving DecidableEq, Repr

def unsupportedOperator (predicate : QueryPredicate) : QueryEvalError :=
  .unsupportedOperator predicate.field.asDotted predicate.op.asStr

/-- The error of the last arm of each match on the types. -/
def typeMismatch (predicate : QueryPredicate) (actual : FieldValue) : QueryEvalError :=
  .typeMismatch predicate.field.asDotted predicate.op.asStr actual.typeName predicate.rhs.typeName

/-- The comparison an operator makes, by `==` and `<` of the values; `<=` is the converse of `>`. -/
def comparesBy (equal less greater : Bool) : QueryOperator → Bool
  | .eq => equal
  | .neq => !equal
  | .lt => less
  | .lte => !greater
  | .gt => greater
  | .gte => !less
  | .in | .contains | .matches => false

def compareStrings (left right : String) (op : QueryOperator) : Bool :=
  comparesBy (left == right) (left < right) (right < left) op

def compareTimes (left right : DateTime) (op : QueryOperator) : Bool :=
  comparesBy (left == right) (left < right) (right < left) op

/-- The part of the pattern before its first `*`. -/
def globFront (pattern : String) : List Char := pattern.toList.takeWhile (· != '*')

/-- The part of the pattern behind its first `*`. -/
def globBack (pattern : String) : List Char := (pattern.toList.dropWhile (· != '*')).tail

def globMatch (value pattern : String) : Bool :=
  if pattern = "*" then true
  else if '*' ∈ pattern.toList then
    (globFront pattern).isPrefixOf value.toList && (globBack pattern).isSuffixOf value.toList
  else value == pattern

section Predicates

variable (parseRfc3339 : String → Option DateTime)

variable (predicate : QueryPredicate) (ctx : QueryEvalContext)

def parseTimestamp (field : QueryField) (value : String) : Except QueryEvalError DateTime :=
  match parseRfc3339 value with
  | some timestamp => .ok timestamp
  | none => .error (.invalidTimestamp field.asDotted value)

def timeInRange (value : DateTime) (start finish : String) (field : QueryField) : Except QueryEvalError Bool := do
  let start ← parseTimestamp parseRfc3339 field start
  let finish ← parseTimestamp parseRfc3339 field finish
  return decide (start ≤ value) && decide (value ≤ finish)

def evalCompare : Except QueryEvalError Bool :=
  match resolveFieldValue predicate.field ctx, predicate.rhs with
  | .absent, _ => .ok false
  | .str left, .string right => .ok (compareStrings left right predicate.op)
  | .time left, .string right => do
    let right ← parseTimestamp parseRfc3339 predicate.field right
    return compareTimes left right predicate.op
  | .time left, .timeRange start finish =>
    match predicate.op with
    | .eq => timeInRange parseRfc3339 left start finish predicate.field
    | _ => .error (unsupportedOperator predicate)
  | .strList _, .string _ => .error (unsupportedOperator predicate)
  | actual, _ => .error (typeMismatch predicate actual)

def evalIn : Except QueryEvalError Bool :=
  match resolveFieldValue predicate.field ctx, predicate.rhs with
  | .absent, _ => .ok false
  | .str left, .stringList values => .ok (values.any fun right => right == left)
  | .strList left, .stringList values => .ok (values.any fun right => left.any fun item => item == right)
  | .time left, .timeRange start finish => timeInRange parseRfc3339 left start finish predicate.field
  | actual, _ => .error (typeMismatch predicate actual)

def evalContains : Except QueryEvalError Bool :=
  match resolveFieldValue predicate.field ctx, predicate.rhs with
  | .absent, _ => .ok false
  | .str left, .string needle => .ok (left.toList.tails.any needle.toList.isPrefixOf)
  | .strList left, .string needle => .ok (left.any fun item => item == needle)
  | actual, _ => .error (typeMismatch predicate actual)

def evalMatches : Except QueryEvalError Bool :=
  match resolveFieldValue predicate.field ctx, predicate.rhs with
  | .absent, _ => .ok false
  | .str left, .string pattern => .ok (globMatch left pattern)
  | actual, _ => .error (typeMismatch predicate actual)

def evaluatePredicate : Except QueryEvalError Bool :=
  match predicate.op with
  | .eq | .neq | .lt | .lte | .gt | .gte => evalCompare parseRfc3339 predicate ctx
  | .in => evalIn parseRfc3339 predicate ctx
  | .contains => evalContains predicate ctx
  | .matches => evalMatches predicate ctx

/-- The loop of `evaluate`; the first predicate that does not hold ends it. -/
def evaluateAll (ctx : QueryEvalContext) : List QueryPredicate → Except QueryEvalError Bool
  | [] => .ok true
  | predicate :: rest => do
    if ← evaluatePredicate parseRfc3339 predicate ctx then evaluateAll ctx rest else return false

def evaluate : Query → QueryEvalContext → Except QueryEvalError Bool
  | .and predicates, ctx => evaluateAll parseRfc3339 ctx predicates

end Predicates

variable {value pattern : String}

/-! ## What a pattern matches

The matcher looks for the part before the first star at the front and for the part behind it, read literally, at the
back. So it goes by the wildcards exactly if there is no star in the part behind and the parts share nothing.
-/

/-- The value splits along the pattern. -/
abbrev GlobMatches (value pattern : String) : Prop := Glob.Matches '*' pattern.toList value.toList

theorem star_notMem_globFront (pattern : String) : '*' ∉ globFront pattern := by
  intro member
  simpa using List.mem_takeWhile_imp member

/-- A pattern with a star is its two parts around it. -/
theorem toList_of_star (starred : '*' ∈ pattern.toList) :
    pattern.toList = globFront pattern ++ '*' :: globBack pattern := by
  have whole : globFront pattern ++ pattern.toList.dropWhile (· != '*') = pattern.toList :=
    List.takeWhile_append_dropWhile
  cases behind : pattern.toList.dropWhile (· != '*') with
  | nil =>
    rw [behind, List.append_nil] at whole
    exact absurd (whole ▸ starred) (star_notMem_globFront pattern)
  | cons first rest =>
    have isStar : first = '*' := by
      have stops := List.head?_dropWhile_not (· != '*') pattern.toList
      rw [behind] at stops
      simpa using stops
    rw [globBack, behind, List.tail_cons, ← isStar, ← behind]
    exact whole.symm

theorem star_of_globBack (several : '*' ∈ globBack pattern) : '*' ∈ pattern.toList :=
  (List.dropWhile_sublist _).subset (List.mem_of_mem_tail several)

theorem globMatch_of_star (starred : '*' ∈ pattern.toList) :
    globMatch value pattern = true ↔ globFront pattern <+: value.toList ∧ globBack pattern <:+ value.toList := by
  rw [globMatch, if_pos starred]
  split_ifs with single
  · rw [single]
    exact iff_of_true rfl ⟨List.nil_prefix, List.nil_suffix⟩
  · rw [Bool.and_eq_true, List.isPrefixOf_iff_prefix, List.isSuffixOf_iff_suffix]

/-- A pattern without a star. -/
theorem globMatch_of_plain (plain : '*' ∉ pattern.toList) :
    globMatch value pattern = true ↔ GlobMatches value pattern := by
  have other : pattern ≠ "*" := by
    rintro rfl
    exact plain (by decide)
  rw [globMatch, if_neg other, if_neg plain, beq_iff_eq, GlobMatches, Glob.matches_of_plain plain, String.toList_inj]

/-- A pattern with one star is misread on the values that lack the room for both of its parts. -/
theorem globMatch_single (starred : '*' ∈ pattern.toList) (plain : '*' ∉ globBack pattern) :
    (globMatch value pattern = true ↔ GlobMatches value pattern) ↔
      (globFront pattern <+: value.toList → globBack pattern <:+ value.toList →
        (globFront pattern).length + (globBack pattern).length ≤ value.toList.length) := by
  rw [globMatch_of_star starred, GlobMatches, toList_of_star starred,
    Glob.matches_single (star_notMem_globFront pattern) plain, Glob.exists_middle_iff]
  constructor
  · intro same starts ends
    exact (same.mp ⟨starts, ends⟩).2.2
  · intro room
    exact ⟨fun found => ⟨found.1, found.2, room found.1 found.2⟩, fun found => ⟨found.1, found.2.1⟩⟩

/-- A pattern with stars is read right on the values without its first part, and on those with room for it and for the
part behind as it is written. -/
theorem globMatch_of_room (starred : '*' ∈ pattern.toList)
    (room : globFront pattern <+: value.toList → globBack pattern <:+ value.toList ∧
      (globFront pattern).length + (globBack pattern).length ≤ value.toList.length) :
    globMatch value pattern = true ↔ GlobMatches value pattern := by
  rw [globMatch_of_star starred, GlobMatches, toList_of_star starred,
    Glob.matches_append_of_plain (star_notMem_globFront pattern)]
  constructor
  · rintro ⟨starts, ends⟩
    obtain ⟨middle, whole⟩ := Glob.exists_middle starts ends (room starts).2
    refine ⟨middle ++ globBack pattern, whole.trans (List.append_assoc _ _ _), ?_⟩
    exact Glob.matches_star_cons.mpr ⟨middle, _, rfl, Glob.matches_self '*' _⟩
  · rintro ⟨rest, whole, -⟩
    have starts : globFront pattern <+: value.toList := ⟨rest, whole.symm⟩
    exact ⟨starts, (room starts).1⟩

/-- A pattern with more stars misses the value in which all of them stand for nothing. -/
theorem globMatch_several (several : '*' ∈ globBack pattern) :
    ∃ value, ¬(globMatch value pattern = true ↔ GlobMatches value pattern) := by
  have starred := star_of_globBack several
  refine ⟨String.ofList (pattern.toList.filter (· ≠ '*')), fun same => ?_⟩
  have matched : GlobMatches (String.ofList (pattern.toList.filter (· ≠ '*'))) pattern := by
    rw [GlobMatches, String.toList_ofList]
    exact Glob.matches_erased '*' pattern.toList
  have ends := ((globMatch_of_star starred).mp (same.mpr matched)).2
  rw [String.toList_ofList] at ends
  simpa using ends.subset several

/-- The matcher goes by the wildcards of a pattern on every value exactly if there is no second star, and no part that
ends what is before the star and starts what is behind it; a pattern with one star is read right on the values with
room for both parts, and one with more stars on the values without its first part and on those with room for the rest as
it is written. -/
theorem globMatch_sound_iff (pattern : String) :
    ((∀ value, globMatch value pattern = true ↔ GlobMatches value pattern) ↔
      '*' ∉ globBack pattern ∧ ¬Glob.Overlap (globFront pattern) (globBack pattern)) ∧
    ∀ value,
      ('*' ∉ globBack pattern → ((globMatch value pattern = true ↔ GlobMatches value pattern) ↔
        ('*' ∈ pattern.toList → globFront pattern <+: value.toList → globBack pattern <:+ value.toList →
          (globFront pattern).length + (globBack pattern).length ≤ value.toList.length))) ∧
      ('*' ∈ globBack pattern →
        (globFront pattern <+: value.toList → globBack pattern <:+ value.toList ∧
          (globFront pattern).length + (globBack pattern).length ≤ value.toList.length) →
        (globMatch value pattern = true ↔ GlobMatches value pattern)) := by
  refine ⟨?_, fun value => ⟨fun plain => ?_, fun several => globMatch_of_room (star_of_globBack several)⟩⟩
  · by_cases several : '*' ∈ globBack pattern
    · obtain ⟨value, missed⟩ := globMatch_several several
      exact iff_of_false (fun same => missed (same value)) fun fits => fits.1 several
    rw [and_iff_right several]
    by_cases starred : '*' ∈ pattern.toList
    · rw [← Glob.forall_middle_iff]
      constructor
      · intro same text starts ends
        have room := (globMatch_single starred several).mp (same (String.ofList text))
        rw [String.toList_ofList] at room
        exact Glob.exists_middle starts ends (room starts ends)
      · intro decided value
        refine (globMatch_single starred several).mpr fun starts ends => ?_
        exact (Glob.exists_middle_iff.mp (decided value.toList starts ends)).2.2
    · refine iff_of_true (fun value => globMatch_of_plain starred) ?_
      rintro ⟨part, nonempty, -, starts⟩
      have empty : globBack pattern = [] := by
        rw [globBack, List.dropWhile_eq_nil_iff.mpr fun c member => by simpa using ne_of_mem_of_not_mem member starred]
        rfl
      rw [empty] at starts
      exact nonempty (List.prefix_nil.mp starts)
  · by_cases starred : '*' ∈ pattern.toList
    · rw [globMatch_single starred plain, forall_prop_of_true starred]
    · exact iff_of_true (globMatch_of_plain starred) fun here => absurd here starred

/-- A star behind the first one is read as a character, and parts that share a part need no room of their own. -/
theorem globMatch_misreads :
    ¬(globMatch "renderer-sdf-v2" "renderer*sdf*" = true ↔ GlobMatches "renderer-sdf-v2" "renderer*sdf*") ∧
      ¬(globMatch "aba" "ab*ba" = true ↔ GlobMatches "aba" "ab*ba") := by
  constructor
  · refine fun same => absurd (same.mpr ?_) (by decide)
    have behind : Glob.Matches '*' "sdf*".toList "sdf-v2".toList :=
      (@Glob.matches_append_of_plain _ _ '*' "sdf".toList _ _ (by decide)).mpr
        ⟨"-v2".toList, rfl, Glob.matches_star_cons.mpr ⟨"-v2".toList, [], rfl, rfl⟩⟩
    exact (@Glob.matches_append_of_plain _ _ '*' "renderer".toList _ _ (by decide)).mpr
      ⟨"-sdf-v2".toList, rfl, Glob.matches_star_cons.mpr ⟨"-".toList, _, rfl, behind⟩⟩
  · refine fun same => ?_
    obtain ⟨middle, split⟩ := (@Glob.matches_single _ _ '*' "ab".toList "ba".toList _ (by decide) (by decide)).mp
      (same.mp (by decide))
    have lengths := congrArg List.length split
    simp at lengths

end Aios.Fs
