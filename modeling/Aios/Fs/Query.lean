import Mathlib.Data.List.Defs

/-! # The vocabulary of filesystem queries

A query is a conjunction of predicates over a closed set of fields. The `chunk` namespace has no field.
-/

namespace Aios.Fs

inductive QueryNamespace where
  | object | version | pointer | chunk | namespace
  deriving DecidableEq, Repr

def QueryNamespace.asStr : QueryNamespace → String
  | .object => "object"
  | .version => "version"
  | .pointer => "pointer"
  | .chunk => "chunk"
  | .namespace => "namespace"

def QueryNamespace.fromToken (token : String) : Option QueryNamespace :=
  match token with
  | "object" => some .object
  | "version" => some .version
  | "pointer" => some .pointer
  | "chunk" => some .chunk
  | "namespace" => some .namespace
  | _ => none

inductive QueryField where
  | objectKind
  | objectPrivacyClass
  | objectLifecycleState
  | objectMetadataName
  | objectPolicyTags
  | versionState
  | versionCreatedAt
  | versionCreatedBy
  | pointerKind
  | namespaceClass
  deriving DecidableEq, Repr

namespace QueryField

def resolve (owner : QueryNamespace) (subpath : String) : Option QueryField :=
  match owner, subpath with
  | .object, "kind" => some .objectKind
  | .object, "privacy_class" => some .objectPrivacyClass
  | .object, "lifecycle_state" => some .objectLifecycleState
  | .object, "metadata.name" => some .objectMetadataName
  | .object, "policy_tags" => some .objectPolicyTags
  | .version, "state" => some .versionState
  | .version, "created_at" => some .versionCreatedAt
  | .version, "created_by" => some .versionCreatedBy
  | .pointer, "kind" => some .pointerKind
  | .namespace, "class" => some .namespaceClass
  | _, _ => none

/-- `QueryField::namespace`. -/
def owner : QueryField → QueryNamespace
  | .objectKind | .objectPrivacyClass | .objectLifecycleState | .objectMetadataName | .objectPolicyTags => .object
  | .versionState | .versionCreatedAt | .versionCreatedBy => .version
  | .pointerKind => .pointer
  | .namespaceClass => .namespace

def asDotted : QueryField → String
  | .objectKind => "object.kind"
  | .objectPrivacyClass => "object.privacy_class"
  | .objectLifecycleState => "object.lifecycle_state"
  | .objectMetadataName => "object.metadata.name"
  | .objectPolicyTags => "object.policy_tags"
  | .versionState => "version.state"
  | .versionCreatedAt => "version.created_at"
  | .versionCreatedBy => "version.created_by"
  | .pointerKind => "pointer.kind"
  | .namespaceClass => "namespace.class"

end QueryField

inductive QueryOperator where
  | eq | neq | lt | lte | gt | gte | «in» | contains | «matches»
  deriving DecidableEq, Repr

def QueryOperator.asStr : QueryOperator → String
  | .eq => "="
  | .neq => "!="
  | .lt => "<"
  | .lte => "<="
  | .gt => ">"
  | .gte => ">="
  | .in => "in"
  | .contains => "contains"
  | .matches => "matches"

inductive QueryValue where
  | string (text : String)
  | int (value : Int64)
  | bool (value : Bool)
  | stringList (values : List String)
  | timeRange (start finish : String)
  deriving DecidableEq, Repr

def QueryValue.typeName : QueryValue → String
  | .string _ => "string"
  | .int _ => "int"
  | .bool _ => "bool"
  | .stringList _ => "string-list"
  | .timeRange _ _ => "time-range"

structure QueryPredicate where
  owner : QueryNamespace
  field : QueryField
  op : QueryOperator
  rhs : QueryValue
  deriving DecidableEq, Repr

/-- A conjunction. -/
inductive Query where
  | and (predicates : List QueryPredicate)
  deriving DecidableEq, Repr

end Aios.Fs
