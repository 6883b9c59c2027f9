import Mathlib.Data.List.Defs

/-! # The vocabulary of policy conditions

A condition is a conjunction of predicates over a closed set of fields. The `target` namespace is open: a
subpath that is no typed field is declared by an adapter.
-/

namespace Aios.Policy.Conditions

inductive CompareOp where
  | eq | neq | lt | lte | gt | gte
  deriving DecidableEq, Repr

def CompareOp.asStr : CompareOp → String
  | .eq => "="
  | .neq => "!="
  | .lt => "<"
  | .lte => "<="
  | .gt => ">"
  | .gte => ">="

inductive Namespace where
  | subject | request | target | object | time | system
  deriving DecidableEq, Repr

def Namespace.asStr : Namespace → String
  | .subject => "subject"
  | .request => "request"
  | .target => "target"
  | .object => "object"
  | .time => "time"
  | .system => "system"

def Namespace.fromToken (s : String) : Option Namespace :=
  match s with
  | "subject" => some .subject
  | "request" => some .request
  | "target" => some .target
  | "object" => some .object
  | "time" => some .time
  | "system" => some .system
  | _ => none

/-! ## Fields -/

inductive ClosedField where
  | subjectCanonicalSubjectId
  | subjectSubjectType
  | subjectGroups
  | subjectCapabilities
  | subjectSessionClass
  | subjectRecoveryMode
  | subjectIsAi
  | subjectPrimaryGroupId
  | subjectIsFirstBoot
  | subjectNetworkOutboundDirective
  | subjectAiExternalPosture
  | requestAction
  | requestEnvironment
  | requestRiskDestructive
  | requestRiskPrivileged
  | requestRiskNetworkExposure
  | requestRiskSecretAccess
  | requestRiskRecoveryPathAffected
  | requestDryRun
  | requestSandboxProfileId
  | targetScope
  | targetGroupId
  | targetUserId
  | targetReservedName
  | targetIsConstitutionalSubstrate
  | targetSurfaceKind
  | targetCompositionZone
  | targetGpuCapabilityClass
  | targetGpuDeviceKind
  | targetThemeKind
  | targetThemeId
  | targetExposureClass
  | targetDeviceClass
  | targetDeviceTrustClass
  | targetRemovable
  | targetDriverProvenance
  | targetFirmwareTrusted
  | targetAdapterDeclared (subpath : String)
  | objectPrivacyClass
  | objectPolicyTags
  | objectKind
  | objectLifecycleState
  | objectCreatedBy
  | timeRecoveryMode
  | timeWeekday
  | timeHourUtc
  | systemHostId
  | systemClusterId
  | systemReleaseChannel
  deriving DecidableEq, Repr

namespace ClosedField

def owningNamespace : ClosedField → Namespace
  | .subjectCanonicalSubjectId | .subjectSubjectType | .subjectGroups | .subjectCapabilities
  | .subjectSessionClass | .subjectRecoveryMode | .subjectIsAi | .subjectPrimaryGroupId | .subjectIsFirstBoot
  | .subjectNetworkOutboundDirective | .subjectAiExternalPosture => .subject
  | .requestAction | .requestEnvironment | .requestRiskDestructive | .requestRiskPrivileged
  | .requestRiskNetworkExposure | .requestRiskSecretAccess | .requestRiskRecoveryPathAffected | .requestDryRun
  | .requestSandboxProfileId => .request
  | .targetScope | .targetGroupId | .targetUserId | .targetReservedName | .targetIsConstitutionalSubstrate
  | .targetSurfaceKind | .targetCompositionZone | .targetGpuCapabilityClass | .targetGpuDeviceKind
  | .targetThemeKind | .targetThemeId | .targetExposureClass | .targetDeviceClass | .targetDeviceTrustClass
  | .targetRemovable | .targetDriverProvenance | .targetFirmwareTrusted | .targetAdapterDeclared _ => .target
  | .objectPrivacyClass | .objectPolicyTags | .objectKind | .objectLifecycleState | .objectCreatedBy => .object
  | .timeRecoveryMode | .timeWeekday | .timeHourUtc => .time
  | .systemHostId | .systemClusterId | .systemReleaseChannel => .system

/-- The typed fields of a namespace by subpath, in the order of the arms of `resolve`. -/
def typedFields : Namespace → List (String × ClosedField)
  | .subject =>
    [("canonical_subject_id", .subjectCanonicalSubjectId), ("subject_type", .subjectSubjectType),
    ("groups", .subjectGroups), ("capabilities", .subjectCapabilities),
    ("session_class", .subjectSessionClass), ("recovery_mode", .subjectRecoveryMode), ("is_ai", .subjectIsAi),
    ("primary_group_id", .subjectPrimaryGroupId), ("is_first_boot", .subjectIsFirstBoot),
    ("network_outbound_directive", .subjectNetworkOutboundDirective),
    ("ai_external_posture", .subjectAiExternalPosture)]
  | .request =>
    [("action", .requestAction), ("environment", .requestEnvironment),
    ("risk.destructive", .requestRiskDestructive), ("risk.privileged", .requestRiskPrivileged),
    ("risk.network_exposure", .requestRiskNetworkExposure), ("risk.secret_access", .requestRiskSecretAccess),
    ("risk.recovery_path_affected", .requestRiskRecoveryPathAffected), ("dry_run", .requestDryRun),
    ("sandbox_profile_id", .requestSandboxProfileId)]
  | .target =>
    [("scope", .targetScope), ("group_id", .targetGroupId), ("user_id", .targetUserId),
    ("reserved_name", .targetReservedName), ("is_constitutional_substrate", .targetIsConstitutionalSubstrate),
    ("surface_kind", .targetSurfaceKind), ("composition_zone", .targetCompositionZone),
    ("gpu_capability_class", .targetGpuCapabilityClass), ("gpu_device_kind", .targetGpuDeviceKind),
    ("theme_kind", .targetThemeKind), ("theme_id", .targetThemeId), ("exposure_class", .targetExposureClass),
    ("device_class", .targetDeviceClass), ("device_trust_class", .targetDeviceTrustClass),
    ("removable", .targetRemovable), ("driver_provenance", .targetDriverProvenance),
    ("firmware_trusted", .targetFirmwareTrusted)]
  | .object =>
    [("privacy_class", .objectPrivacyClass), ("policy_tags", .objectPolicyTags), ("kind", .objectKind),
    ("lifecycle_state", .objectLifecycleState), ("created_by", .objectCreatedBy)]
  | .time =>
    [("recovery_mode", .timeRecoveryMode), ("weekday", .timeWeekday), ("hour_utc", .timeHourUtc)]
  | .system =>
    [("host_id", .systemHostId), ("cluster_id", .systemClusterId), ("release_channel", .systemReleaseChannel)]

/-- Any other subpath of `target` is declared by an adapter; elsewhere it is no field. -/
def resolve (owner : Namespace) (subpath : String) : Option ClosedField :=
  match (typedFields owner).lookup subpath with
  | some field => some field
  | none => if owner = .target then some (.targetAdapterDeclared subpath) else none

def asDotted : ClosedField → String
  | .subjectCanonicalSubjectId => "subject.canonical_subject_id"
  | .subjectSubjectType => "subject.subject_type"
  | .subjectGroups => "subject.groups"
  | .subjectCapabilities => "subject.capabilities"
  | .subjectSessionClass => "subject.session_class"
  | .subjectRecoveryMode => "subject.recovery_mode"
  | .subjectIsAi => "subject.is_ai"
  | .subjectPrimaryGroupId => "subject.primary_group_id"
  | .subjectIsFirstBoot => "subject.is_first_boot"
  | .subjectNetworkOutboundDirective => "subject.network_outbound_directive"
  | .subjectAiExternalPosture => "subject.ai_external_posture"
  | .requestAction => "request.action"
  | .requestEnvironment => "request.environment"
  | .requestRiskDestructive => "request.risk.destructive"
  | .requestRiskPrivileged => "request.risk.privileged"
  | .requestRiskNetworkExposure => "request.risk.network_exposure"
  | .requestRiskSecretAccess => "request.risk.secret_access"
  | .requestRiskRecoveryPathAffected => "request.risk.recovery_path_affected"
  | .requestDryRun => "request.dry_run"
  | .requestSandboxProfileId => "request.sandbox_profile_id"
  | .targetScope => "target.scope"
  | .targetGroupId => "target.group_id"
  | .targetUserId => "target.user_id"
  | .targetReservedName => "target.reserved_name"
  | .targetIsConstitutionalSubstrate => "target.is_constitutional_substrate"
  | .targetSurfaceKind => "target.surface_kind"
  | .targetCompositionZone => "target.composition_zone"
  | .targetGpuCapabilityClass => "target.gpu_capability_class"
  | .targetGpuDeviceKind => "target.gpu_device_kind"
  | .targetThemeKind => "target.theme_kind"
  | .targetThemeId => "target.theme_id"
  | .targetExposureClass => "target.exposure_class"
  | .targetDeviceClass => "target.device_class"
  | .targetDeviceTrustClass => "target.device_trust_class"
  | .targetRemovable => "target.removable"
  | .targetDriverProvenance => "target.driver_provenance"
  | .targetFirmwareTrusted => "target.firmware_trusted"
  | .targetAdapterDeclared subpath => "target." ++ subpath
  | .objectPrivacyClass => "object.privacy_class"
  | .objectPolicyTags => "object.policy_tags"
  | .objectKind => "object.kind"
  | .objectLifecycleState => "object.lifecycle_state"
  | .objectCreatedBy => "object.created_by"
  | .timeRecoveryMode => "time.recovery_mode"
  | .timeWeekday => "time.weekday"
  | .timeHourUtc => "time.hour_utc"
  | .systemHostId => "system.host_id"
  | .systemClusterId => "system.cluster_id"
  | .systemReleaseChannel => "system.release_channel"

end ClosedField

/-! ## Conditions -/

/-- A literal. A timestamp is kept as it is written. -/
inductive Value where
  | string (text : String)
  | identifier (name : String)
  | int (value : Int64)
  | bool (value : Bool)
  | timestamp (text : String)
  deriving DecidableEq, Repr

inductive Predicate where
  | compare (field : ClosedField) (op : CompareOp) (rhs : Value)
  | inValues (field : ClosedField) (values : List Value)
  | contains (field : ClosedField) (needle : String)
  | existsField (field : ClosedField)
  deriving DecidableEq, Repr

structure Condition where
  predicates : List Predicate
  deriving DecidableEq, Repr

def Condition.conjunction (predicates : List Predicate) : Condition := ⟨predicates⟩

end Aios.Policy.Conditions
