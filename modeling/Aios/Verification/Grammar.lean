import Aios.Rust.Basic
import Mathlib.Data.String.Basic

/-! # Verification expressions

The typed tree of the verification grammar: calls of primitives from a closed vocabulary, composed
by `all[...]`, `any[...]`, `not(...)` and `eventually(...)`.
-/

namespace Aios.Verification

open Aios.Rust

/-- The closed primitive vocabulary. -/
inductive VerificationPrimitive where
  | serviceActive
  | serviceInactive
  | packageInstalled
  | portOpen
  | portClosed
  | httpOk
  | fileExists
  | fileHash
  | repoExists
  | aiosfsPointer
  | policyDecision
  | evidenceExists
  | networkSubjectOutboundClass
  | networkActiveExposureClass
  | networkExternalModelCallBrokeredOnly
  | dnsResolverBackend
  | vpnTunnelActive
  | mdnsPosture
  | aiosfsPathInNamespace
  | surfaceInZone
  | treeContainsKind
  | treeMaxDepth
  | themeSatisfiesInvariants
  | themeConstitutionalIconsIntact
  | gpuBindingClass
  | webRendererBoundTo
  | webChromeZIndexAtLeast
  | aiosfsPathOwnerResolved
  | aiosfsPathRecoveryTreatmentSet
  | namespaceCatalogVersion
  | statusIndicatorVisible
  | subjectSessionFlagState
  | filesystemRootIntact
  | specConsumesTable
  | approvalBindingState
  | secretPatternMatch
  deriving DecidableEq, Repr

/-- `as_wire_str`. -/
def VerificationPrimitive.asWireStr : VerificationPrimitive → String
  | .serviceActive => "SERVICE_ACTIVE"
  | .serviceInactive => "SERVICE_INACTIVE"
  | .packageInstalled => "PACKAGE_INSTALLED"
  | .portOpen => "PORT_OPEN"
  | .portClosed => "PORT_CLOSED"
  | .httpOk => "HTTP_OK"
  | .fileExists => "FILE_EXISTS"
  | .fileHash => "FILE_HASH"
  | .repoExists => "REPO_EXISTS"
  | .aiosfsPointer => "AIOSFS_POINTER"
  | .policyDecision => "POLICY_DECISION"
  | .evidenceExists => "EVIDENCE_EXISTS"
  | .networkSubjectOutboundClass => "NETWORK_SUBJECT_OUTBOUND_CLASS"
  | .networkActiveExposureClass => "NETWORK_ACTIVE_EXPOSURE_CLASS"
  | .networkExternalModelCallBrokeredOnly => "NETWORK_EXTERNAL_MODEL_CALL_BROKERED_ONLY"
  | .dnsResolverBackend => "DNS_RESOLVER_BACKEND"
  | .vpnTunnelActive => "VPN_TUNNEL_ACTIVE"
  | .mdnsPosture => "MDNS_POSTURE"
  | .aiosfsPathInNamespace => "AIOSFS_PATH_IN_NAMESPACE"
  | .surfaceInZone => "SURFACE_IN_ZONE"
  | .treeContainsKind => "TREE_CONTAINS_KIND"
  | .treeMaxDepth => "TREE_MAX_DEPTH"
  | .themeSatisfiesInvariants => "THEME_SATISFIES_INVARIANTS"
  | .themeConstitutionalIconsIntact => "THEME_CONSTITUTIONAL_ICONS_INTACT"
  | .gpuBindingClass => "GPU_BINDING_CLASS"
  | .webRendererBoundTo => "WEB_RENDERER_BOUND_TO"
  | .webChromeZIndexAtLeast => "WEB_CHROME_Z_INDEX_AT_LEAST"
  | .aiosfsPathOwnerResolved => "AIOSFS_PATH_OWNER_RESOLVED"
  | .aiosfsPathRecoveryTreatmentSet => "AIOSFS_PATH_RECOVERY_TREATMENT_SET"
  | .namespaceCatalogVersion => "NAMESPACE_CATALOG_VERSION"
  | .statusIndicatorVisible => "STATUS_INDICATOR_VISIBLE"
  | .subjectSessionFlagState => "SUBJECT_SESSION_FLAG_STATE"
  | .filesystemRootIntact => "FILESYSTEM_ROOT_INTACT"
  | .specConsumesTable => "SPEC_CONSUMES_TABLE"
  | .approvalBindingState => "APPROVAL_BINDING_STATE"
  | .secretPatternMatch => "SECRET_PATTERN_MATCH"

/-- The primitives, in the order of the enumeration. -/
def VerificationPrimitive.variants : List VerificationPrimitive :=
  [.serviceActive, .serviceInactive, .packageInstalled, .portOpen, .portClosed, .httpOk,
   .fileExists, .fileHash, .repoExists, .aiosfsPointer, .policyDecision, .evidenceExists,
   .networkSubjectOutboundClass, .networkActiveExposureClass, .networkExternalModelCallBrokeredOnly,
   .dnsResolverBackend, .vpnTunnelActive, .mdnsPosture, .aiosfsPathInNamespace, .surfaceInZone,
   .treeContainsKind, .treeMaxDepth, .themeSatisfiesInvariants, .themeConstitutionalIconsIntact,
   .gpuBindingClass, .webRendererBoundTo, .webChromeZIndexAtLeast, .aiosfsPathOwnerResolved,
   .aiosfsPathRecoveryTreatmentSet, .namespaceCatalogVersion, .statusIndicatorVisible,
   .subjectSessionFlagState, .filesystemRootIntact, .specConsumesTable, .approvalBindingState,
   .secretPatternMatch]

/-- `Map::insert` on the fields of an object, which are kept in the order of the keys. -/
def insertField (fields : List (String × Json)) (key : String) (value : Json) : List (String × Json) :=
  fields.filter (·.1 < key) ++ (key, value) :: fields.filter (key < ·.1)

/-- A primitive call with its arguments, a JSON object. -/
structure PrimitiveInvocation where
  kind : VerificationPrimitive
  args : Json

inductive VerificationDurationUnit where
  | milliseconds
  | seconds
  | minutes
  | hours
  deriving DecidableEq, Repr

structure VerificationDuration where
  value : ℕ
  unit : VerificationDurationUnit
  deriving DecidableEq, Repr

/-- A parsed verification expression. -/
inductive VerificationGrammar where
  | primitive (invocation : PrimitiveInvocation)
  | all (terms : List VerificationGrammar)
  | any (terms : List VerificationGrammar)
  | not (term : VerificationGrammar)
  | eventually (term : VerificationGrammar) (maxDuration interval : VerificationDuration)

/-- Structural induction, with the hypothesis for every term of a composition. -/
@[induction_eliminator]
theorem VerificationGrammar.induction {motive : VerificationGrammar → Prop}
    (primitive : ∀ invocation, motive (.primitive invocation))
    (all : ∀ terms, (∀ term ∈ terms, motive term) → motive (.all terms))
    (any : ∀ terms, (∀ term ∈ terms, motive term) → motive (.any terms))
    (not : ∀ term, motive term → motive (.not term))
    (eventually : ∀ term maxDuration interval, motive term →
      motive (.eventually term maxDuration interval)) (grammar : VerificationGrammar) :
    motive grammar := by
  refine @VerificationGrammar.rec motive (fun terms => ∀ term ∈ terms, motive term)
    primitive all any not eventually ?_ ?_ grammar
  · intro term member
    cases member
  · intro head tail first rest term member
    rcases List.mem_cons.mp member with rfl | later
    · exact first
    · exact rest term later

/-! ## Rendering verification expressions

The `Display` implementations of the grammar. Argument values are rendered by `serde_json`, with its
escapes in string literals.
-/

/-- One character inside a string literal of `serde_json::to_string`. -/
def escapeJsonChar (c : Char) : List Char :=
  if c = '"' then ['\\', '"']
  else if c = '\\' then ['\\', '\\']
  else if c = '\n' then ['\\', 'n']
  else if c = '\r' then ['\\', 'r']
  else if c = '\t' then ['\\', 't']
  else if c.toNat = 0x8 then ['\\', 'b']
  else if c.toNat = 0xC then ['\\', 'f']
  else if c.toNat < 0x20 then ['\\', 'u', '0', '0', Nat.digitChar (c.toNat / 16),
    Nat.digitChar (c.toNat % 16)]
  else [c]

def jsonString (text : String) : List Char := '"' :: text.toList.flatMap escapeJsonChar ++ ['"']

mutual

/-- `serde_json::to_string`. -/
def jsonText : Json → List Char
  | .null => "null".toList
  | .bool value => (if value then "true" else "false").toList
  | .number literal => literal.toList
  | .string value => jsonString value
  | .array items => '[' :: jsonItems items ++ [']']
  | .object fields => '{' :: jsonFields fields ++ ['}']

def jsonItems : List Json → List Char
  | [] => []
  | item :: rest => jsonText item ++ (if rest.isEmpty then [] else [',']) ++ jsonItems rest

def jsonFields : List (String × Json) → List Char
  | [] => []
  | (key, value) :: rest =>
    jsonString key ++ ':' :: jsonText value ++ (if rest.isEmpty then [] else [',']) ++ jsonFields rest

end

def primitiveDisplayName (kind : VerificationPrimitive) : List Char := kind.asWireStr.toList.map Char.toLower

/-- The arguments after the first, each with the separator before it. -/
def displayMoreArgs : List (String × Json) → List Char
  | [] => []
  | (key, value) :: rest => ", ".toList ++ key.toList ++ '=' :: jsonText value ++ displayMoreArgs rest

def displayArgs : List (String × Json) → List Char
  | [] => []
  | (key, value) :: rest => key.toList ++ '=' :: jsonText value ++ displayMoreArgs rest

def PrimitiveInvocation.display (invocation : PrimitiveInvocation) : List Char :=
  primitiveDisplayName invocation.kind ++ '(' ::
    (match invocation.args with
      | .object args => displayArgs args
      | _ => []) ++ [')']

def VerificationDurationUnit.display : VerificationDurationUnit → List Char
  | .milliseconds => "ms".toList
  | .seconds => "s".toList
  | .minutes => "m".toList
  | .hours => "h".toList

def VerificationDuration.display (duration : VerificationDuration) : List Char :=
  (toString duration.value).toList ++ duration.unit.display

/-- `write_terms`, around the rendered terms. -/
def writeTerms (combinator : String) (terms : List Char) : List Char := combinator.toList ++ '[' :: terms ++ [']']

def displayNot (term : List Char) : List Char := "not".toList ++ '(' :: term ++ [')']

def separator : List Char := ", ".toList

/-- A labelled duration, with the separator before it. -/
def displayDuration (label : String) (duration : VerificationDuration) : List Char :=
  separator ++ label.toList ++ '=' :: duration.display

def displayEventually (term : List Char) (maxDuration interval : VerificationDuration) : List Char :=
  "eventually".toList ++ '(' :: term ++ displayDuration "max_duration" maxDuration ++
    displayDuration "interval" interval ++ [')']

mutual

def VerificationGrammar.display : VerificationGrammar → List Char
  | .primitive invocation => invocation.display
  | .all terms => writeTerms "all" (displayTerms terms)
  | .any terms => writeTerms "any" (displayTerms terms)
  | .not term => displayNot term.display
  | .eventually term maxDuration interval => displayEventually term.display maxDuration interval

def displayTerms : List VerificationGrammar → List Char
  | [] => []
  | term :: rest => term.display ++ displayMoreTerms rest

/-- The terms after the first, each with the separator before it. -/
def displayMoreTerms : List VerificationGrammar → List Char
  | [] => []
  | term :: rest => separator ++ term.display ++ displayMoreTerms rest

end

def VerificationGrammar.toString (grammar : VerificationGrammar) : String := String.ofList grammar.display

end Aios.Verification
