import Aios.Evidence.Receipt

/-! # The privacy ceiling and the wire of the log service

The embedding of `privacy.rs`: which receipts a caller may read, decided from the subject and the type of the
receipt.
-/

namespace Aios.Evidence

open Aios.Rust

structure PrivacyCeiling where
  subjectCanonicalId : String
  primaryGroup : Option String
  isAi : Bool
  isRecoveryMode : Bool
deriving DecidableEq, Repr

def isConstitutionallyPublicRecordType : RecordType → Bool
  | .policyDecision | .approvalRequested | .approvalGranted | .approvalDenied | .recoveryEvent
  | .chainCheckpoint | .emergencyOverrideGrant | .policyBundleLoad | .segmentSealed
  | .chainInconsistencyDetected | .tamperDetected | .systemAdminOperation | .crossGroupAccessDenied
  | .overrideRequested | .overrideQuorumReceived | .overrideGranted | .overrideConsumed | .overrideDenied
  | .overrideExpired | .overrideRevoked | .overrideReview | .recoveryBootEntered
  | .recoveryOperatorAuthenticated | .recoveryOperationPerformed | .recoveryTtlExpiredAutoReboot
  | .recoveryBootExited | .recoveryL5StartBlocked | .recoveryForensicAttachPerformed
  | .bootFailureAutoRecoveryTriggered | .firstBootStarted | .firstBootStageCompleted | .firstBootFailed
  | .firstBootComplete | .resetToFactoryInitiated | .invariantBundleLoaded | .identityBundleLoaded
  | .invariantBundleRejected | .policyBundleRejected | .identityBundleRejected | .capabilityBundleRejected
  | .sandboxBundleRejected | .firstBootOperation | .compactionApprovalRequired => true
  | _ => false

/-- `str::split_once` on one character. -/
def splitOnce (text : String) (mark : Char) : Option (String × String) :=
  match text.toList.span (· != mark) with
  | (_, []) => none
  | (before, _ :: after) => some (.ofList before, .ofList after)

/-- The group token of `<type>:<group>/<name>`. -/
def subjectPrimaryGroup (subjectCanonicalId : String) : Option String := do
  let (_, afterKind) ← splitOnce subjectCanonicalId ':'
  let (group, _) ← splitOnce afterKind '/'
  if group = "" then none else some group

def receiptSubjectIsSystem (subjectCanonicalId : String) : Bool := startsWith subjectCanonicalId "_system"

namespace PrivacyCeiling

variable (self : PrivacyCeiling)

/-- The bypass for callers that give no subject. -/
def isSystemCaller : Bool := self.subjectCanonicalId == ""

def admitsWire (receiptSubject : String) (recordType : RecordType) : Bool :=
  if self.isSystemCaller then true
  else if receiptSubject = self.subjectCanonicalId then true
  else
    let isPublicRecord := isConstitutionallyPublicRecordType recordType
    if isPublicRecord && !self.isAi then true
    else if self.isAi then isPublicRecord && receiptSubjectIsSystem receiptSubject
    else if self.primaryGroup.isSome && subjectPrimaryGroup receiptSubject == self.primaryGroup then true
    else self.isRecoveryMode && recordType.retentionClass == .forever

def admits (receipt : EvidenceReceipt) : Bool :=
  self.admitsWire receipt.subjectCanonicalId receipt.recordType

end PrivacyCeiling

/-! ## The wire of the log service

The embedding of `service/conversions.rs` and of the parts of the service that both backends have word for word: the
checks of an append request, the loop of a query, and the filters of a subscription. Fields of the messages that no
backend reads are left out.
-/

open Aios.Action (ActionId)

/-! ### Identifiers -/

/-- `aios_action::IdError`. -/
inductive IdError where
  | empty
  | wrongPrefix (expected got : String)
  | colonSeparatorForbidden (input : String)
  | invalidUlidBody (id detail : String)

/-- `Display`. -/
def IdError.toText : IdError → String
  | empty => "identifier is empty"
  | wrongPrefix expected got => "wrong id prefix: expected `" ++ expected ++ "`, got input `" ++ got ++ "`"
  | colonSeparatorForbidden input =>
    "colon-separated id forms are forbidden (Wave-11 §3.2 rule); got `" ++ input ++ "`"
  | invalidUlidBody id detail => "invalid ULID body in id `" ++ id ++ "`: " ++ detail

/-- Every prefix ends in an underscore, for which the forbidden form has a colon. -/
def validatePrefixedUlid (codec : Codec) (input expectedPrefix : String) : Except IdError String :=
  let colonForm := String.ofList (expectedPrefix.toList.dropLast ++ [':'])
  if input = "" then .error .empty
  else if startsWith input colonForm then .error (.colonSeparatorForbidden input)
  else if !startsWith input expectedPrefix then .error (.wrongPrefix expectedPrefix input)
  else
    match codec.ulidFromString (.ofList (input.toList.drop expectedPrefix.toList.length)) with
    | .ok () => .ok input
    | .error detail => .error (.invalidUlidBody input detail)

def parseActionId (codec : Codec) (input : String) : Except IdError ActionId := validatePrefixedUlid codec input "act_"

/-! ### Record types on the wire -/

/-- `proto::RecordType`, with no record type for `RECORD_TYPE_UNSPECIFIED`. -/
abbrev ProtoRecordType := Option RecordType

namespace ProtoRecordType

def asStrName : ProtoRecordType → String
  | none => "RECORD_TYPE_UNSPECIFIED"
  | some recordType => recordType.asWireStr

def fromStrName (name : String) : Option ProtoRecordType :=
  if name = "RECORD_TYPE_UNSPECIFIED" then some none
  else (RecordType.iter.find? fun recordType => recordType.asWireStr == name).map some

/-- `i32::from`. -/
def toI32 : ProtoRecordType → ℤ
  | none => 0
  | some recordType => recordType.wireId

/-- `TryFrom<i32>`. -/
def tryFrom (value : ℤ) : Option ProtoRecordType :=
  if value = 0 then some none
  else (RecordType.iter.find? fun recordType => (recordType.wireId : ℤ) == value).map some

end ProtoRecordType

def recordTypeToProto (recordType : RecordType) : ProtoRecordType :=
  (ProtoRecordType.fromStrName recordType.asWireStr).getD none

def recordTypeFromWireStr (name : String) : Except EvidenceError RecordType :=
  if name = "RECORD_TYPE_UNSPECIFIED" then
    .error (.encodingFailed "wire RecordType is RECORD_TYPE_UNSPECIFIED (proto3 default); rejecting")
  else
    match RecordType.iter.find? fun recordType => recordType.asWireStr == name with
    | some recordType => .ok recordType
    | none =>
      .error (.encodingFailed ("wire RecordType `" ++ name ++ "` is not part of the closed §29 vocabulary"))

def recordTypeFromProtoI32 (value : ℤ) : Except EvidenceError RecordType :=
  match ProtoRecordType.tryFrom value with
  | none => .error (.encodingFailed ("wire RecordType value " ++ toString value ++ " is outside the proto vocabulary"))
  | some proto => recordTypeFromWireStr proto.asStrName

/-! ### Receipts on the wire -/

/-- `prost_types::Timestamp`. -/
structure Timestamp where
  seconds : ℤ
  nanos : ℤ
deriving DecidableEq, Repr

def datetimeToTimestamp (dt : DateTime) : Timestamp := ⟨dt / 1000000000, dt % 1000000000⟩

def timestampToDatetime (codec : Codec) (timestamp : Timestamp) : DateTime :=
  (codec.timestampOpt timestamp.seconds timestamp.nanos.toNat).getD 0

/-- `proto::EvidenceReceipt`, without the payload that is always empty. -/
structure WireReceipt where
  receiptId : String
  recordedAt : Option Timestamp
  recordType : ℤ
  subject : String
  actionId : String
  policyDecisionId : String
  verificationId : String
  correlationId : String
  traceId : String
  segmentId : String
  sequenceNumber : ℕ
  payloadHash : String
  payloadRef : String
  redactionProfile : String
  previousReceiptHash : String
  simulated : Bool
deriving DecidableEq, Repr

def receiptToProto (receipt : EvidenceReceipt) : WireReceipt where
  receiptId := receipt.receiptId
  recordedAt := some (datetimeToTimestamp receipt.recordedAt)
  recordType := (recordTypeToProto receipt.recordType).toI32
  subject := receipt.subjectCanonicalId
  actionId := receipt.actionId.getD ""
  policyDecisionId := ""
  verificationId := ""
  correlationId := ""
  traceId := ""
  segmentId := ""
  sequenceNumber := 0
  payloadHash := receipt.contentHash
  payloadRef := ""
  redactionProfile := receipt.redactionProfile.asWireStr
  previousReceiptHash := receipt.previousReceiptHash.getD ""
  simulated := false

/-! ### Append -/

def DEFAULT_RETENTION : RetentionClass := .standard24M

structure AppendRequest where
  recordType : ℤ
  subject : String
  actionId : String

/-- The builder an append request asks for, after its checks. -/
def AppendRequest.builder (codec : Codec) (request : AppendRequest) : Except Status ReceiptBuilder := do
  let recordType ← (recordTypeFromProtoI32 request.recordType).mapError EvidenceError.toStatus
  if isBlank request.subject then
    .error ⟨.invalidArgument, "AppendRequest.subject must be non-empty (S5.1 canonical id)"⟩
  else
    let builder : ReceiptBuilder :=
      { recordType, retentionClass := DEFAULT_RETENTION, subjectCanonicalId := request.subject }
    if request.actionId = "" then .ok builder
    else
      match parseActionId codec request.actionId with
      | .ok actionId => .ok { builder with actionId := some actionId }
      | .error failure => .error ⟨.invalidArgument, "invalid action_id: " ++ failure.toText⟩

/-! ### Reads -/

structure ReadReceiptRequest where
  receiptId : String

/-- The first receipt with the id. -/
def findReceipt (receipts : List EvidenceReceipt) (id : String) : Option EvidenceReceipt :=
  receipts.find? fun receipt => receipt.receiptId == id

def receiptIdEmpty : Status := ⟨.invalidArgument, "ReadReceiptRequest.receipt_id must be non-empty"⟩

def receiptNotFound (id : String) : Status := ⟨.notFound, "no evidence receipt with id `" ++ id ++ "`"⟩

/-! ### Queries -/

def DEFAULT_QUERY_LIMIT : ℕ := 1000

def U64_MAX : ℕ := 18446744073709551615

structure QueryRequest where
  recordTypesFilter : List ℤ
  subjectFilter : String
  actionIdFilter : String
  fromTime : Option Timestamp
  toTime : Option Timestamp
  limit : ℕ
  subject : String
  callerPrimaryGroup : String
  callerIsAi : Bool
  callerIsRecoveryMode : Bool

structure QueryResponse where
  hits : List WireReceipt
  suppressedCount : ℕ
deriving DecidableEq, Repr

def optionalGroup (raw : String) : Option String := if raw = "" then none else some raw

namespace QueryRequest

variable (codec : Codec) (self : QueryRequest)

def ceiling : PrivacyCeiling :=
  ⟨self.subject, optionalGroup self.callerPrimaryGroup, self.callerIsAi, self.callerIsRecoveryMode⟩

def effectiveLimit : ℕ := if self.limit = 0 then DEFAULT_QUERY_LIMIT else self.limit

/-- The filters of a request, of which one that is empty passes everything. -/
def selects (self : QueryRequest) (recordFilter : List RecordType) (receipt : EvidenceReceipt) : Bool :=
  (self.actionIdFilter == "" || receipt.actionId == some self.actionIdFilter) &&
    (self.subjectFilter == "" || receipt.subjectCanonicalId == self.subjectFilter) &&
    (recordFilter.isEmpty || recordFilter.contains receipt.recordType) &&
    self.fromTime.all (fun start => decide (timestampToDatetime codec start ≤ receipt.recordedAt)) &&
    self.toTime.all fun stop => decide (receipt.recordedAt ≤ timestampToDatetime codec stop)

/-- The loop over the receipts, with the response so far. -/
def walk (selects admits : EvidenceReceipt → Bool) (limit : ℕ) : List EvidenceReceipt → QueryResponse → QueryResponse
  | [], response => response
  | receipt :: rest, response =>
    if !selects receipt then walk selects admits limit rest response
    else if !admits receipt then
      walk selects admits limit rest { response with suppressedCount := min (response.suppressedCount + 1) U64_MAX }
    else
      let response := { response with hits := response.hits ++ [receiptToProto receipt] }
      if limit ≤ min response.hits.length U32_MAX then response else walk selects admits limit rest response

/-- `query` over the receipts of the open segment. -/
def answer (self : QueryRequest) (receipts : List EvidenceReceipt) : Except Status QueryResponse := do
  let recordFilter ← (self.recordTypesFilter.mapM recordTypeFromProtoI32).mapError EvidenceError.toStatus
  pure (walk (self.selects codec recordFilter) self.ceiling.admits self.effectiveLimit receipts ⟨[], 0⟩)

end QueryRequest

variable (recordType : RecordType)

/-! ### Chain verification -/

structure VerifyChainResponse where
  consistent : Bool
  receiptsChecked : ℕ
  firstAnomalousReceiptId : String
  detectionMethod : String
deriving DecidableEq, Repr

/-- The response to a walk over the receipts; `walked` is what the backend calls a walk without a finding. -/
def verifyResponse (walked : String) (receipts : List EvidenceReceipt) :
    Except EvidenceError Unit → Except Status VerifyChainResponse
  | .ok () => .ok ⟨true, receipts.length, "", walked⟩
  | .error (.chainBroken index actual expected) =>
    .ok ⟨false, receipts.length, (receipts[index]?.map EvidenceReceipt.receiptId).getD "",
      "chain_broken_link_at_" ++ toString index ++ ": actual=`" ++ actual ++ "` expected=`" ++ expected ++ "`"⟩
  | .error failure => .error failure.toStatus

/-! ### Subscriptions -/

structure SubscribeRequest where
  recordTypesFilter : List ℤ
  subjectFilter : String
  correlationIdFilter : String
  resumeFromReceiptId : String
  callerSubject : String
  callerPrimaryGroup : String
  callerIsAi : Bool
  callerIsRecoveryMode : Bool

def SubscribeRequest.ceiling (self : SubscribeRequest) : PrivacyCeiling :=
  ⟨self.callerSubject, optionalGroup self.callerPrimaryGroup, self.callerIsAi, self.callerIsRecoveryMode⟩

def subscribeFiltersPass (wire : WireReceipt) (recordFilter : List RecordType)
    (subjectFilter correlationFilter : String) :
    Bool :=
  (recordFilter.isEmpty ||
      match recordTypeFromProtoI32 wire.recordType with
      | .ok recordType => recordFilter.contains recordType
      | .error _ => false) &&
    (subjectFilter == "" || wire.subject == subjectFilter) &&
    (correlationFilter == "" || wire.correlationId == correlationFilter)

/-! ### What the conversions keep -/

theorem asWireStr_ne_unspecified : recordType.asWireStr ≠ "RECORD_TYPE_UNSPECIFIED" := by
  have all : RecordType.iter.all (fun recordType => recordType.asWireStr != "RECORD_TYPE_UNSPECIFIED") = true := by
    decide +kernel
  exact bne_iff_ne.mp (List.all_eq_true.mp all recordType recordType.mem_iter)

theorem recordTypeToProto_eq : recordTypeToProto recordType = some recordType := by
  rw [recordTypeToProto, ProtoRecordType.fromStrName, if_neg (asWireStr_ne_unspecified recordType),
    Distinct.find?_of_injective RecordType.asWireStr_injective recordType.mem_iter]
  rfl

theorem recordTypeFromWireStr_asWireStr : recordTypeFromWireStr recordType.asWireStr = .ok recordType := by
  rw [recordTypeFromWireStr, if_neg (asWireStr_ne_unspecified recordType),
    Distinct.find?_of_injective RecordType.asWireStr_injective recordType.mem_iter]

/-- A record type is read back from the wire as it was written. -/
theorem recordTypeFromProtoI32_toI32 :
    recordTypeFromProtoI32 (recordTypeToProto recordType).toI32 = .ok recordType := by
  have positive := recordType.wireId_pos
  have wireIds : Function.Injective fun recordType : RecordType => (recordType.wireId : ℤ) :=
    fun _ _ same => RecordType.wireId_injective (Int.ofNat_inj.mp same)
  have written : (recordTypeToProto recordType).toI32 = (recordType.wireId : ℤ) := by
    rw [recordTypeToProto_eq]
    rfl
  have read : ProtoRecordType.tryFrom (recordType.wireId : ℤ) = some (some recordType) := by
    rw [ProtoRecordType.tryFrom, if_neg (by omega), Distinct.find?_of_injective wireIds recordType.mem_iter]
    rfl
  rw [recordTypeFromProtoI32, written, read]
  exact recordTypeFromWireStr_asWireStr recordType

/-- On the wire a receipt passes the ceiling as it does in the log. -/
theorem admitsWire_receiptToProto (ceiling : PrivacyCeiling) (receipt : EvidenceReceipt) :
    ceiling.admitsWire (receiptToProto receipt).subject receipt.recordType = ceiling.admits receipt := rfl

end Aios.Evidence
