import Aios.Lib.Run
import Aios.Lib.Table
import Aios.Rust.Basic

/-! # The service graph

Units are registered under a signed manifest and declare dependencies on registered units. The store
keeps the units and, by source, the dependency edges in the order of their declaration.
-/

namespace Aios.Sgr

open Aios.Rust

abbrev UnitId := String

inductive DependencyKind where
  | requiresHealthy
  | requiresRunning
  | ordersAfter
  deriving DecidableEq, Repr

/-- A dependency declared in a manifest. -/
structure UnitDependency where
  unitId : UnitId
  kind : DependencyKind
  deriving DecidableEq, Repr

structure DependencyEdge where
  fromUnitId : UnitId
  toUnitId : UnitId
  kind : DependencyKind
  deriving DecidableEq, Repr

inductive UnitState where
  | draft
  | queued
  | starting
  | running
  | healthy
  | degraded
  | unhealthy
  | stopping
  | stopped
  | failed
  | retired
  deriving DecidableEq, Repr

inductive DesiredState where
  | running
  | stopped
  | restarted
  | reloaded
  deriving DecidableEq, Repr

/-- What the graph reads of a manifest; `signedBody` is the rest of what the signature covers. -/
structure UnitManifest where
  unitId : UnitId
  publisherRootId : String
  publisherSignature : List UInt8
  canonicalHash : String
  dependencies : List UnitDependency
  labels : Option Json
  desiredState : DesiredState
  signedBody : Json

structure ServiceUnit where
  unitId : UnitId
  manifest : UnitManifest
  state : UnitState
  lastTransitionAt : DateTime

inductive SgrError where
  | unitNotFound (unitId : UnitId)
  | unitAlreadyRegistered (unitId : UnitId)
  | dependencyCycleDetected (component : List UnitId)
  | manifestSignatureInvalid
  | manifestUnknownAuthority (authority : String)
  | dependencyTargetNotRegistered (unitId : UnitId)
  | invalidStateTransition (source target : UnitState)
  | evidenceEmitFailed (message : String)
  | internal (message : String)
  /-- Not an error of the evaluator: a loop ran longer than its bound. -/
  | outOfFuel
  deriving DecidableEq, Repr

/-- The digest of a manifest and the signature scheme over it. -/
structure ManifestCrypto where
  VerifyingKey : Type
  canonicalManifestDigest : UnitManifest → Except SgrError (List UInt8)
  toHex : List UInt8 → String
  verify : VerifyingKey → (digest signature : List UInt8) → Bool

structure InMemoryServiceGraph where
  units : Table UnitId ServiceUnit
  dependencies : Table UnitId (List DependencyEdge)

namespace InMemoryServiceGraph

def new : InMemoryServiceGraph := ⟨∅, ∅⟩

variable (graph : InMemoryServiceGraph)

/-! ## Registration -/

def verifyManifest (crypto : ManifestCrypto) (trustedAuthorities : Table String crypto.VerifyingKey)
    (manifest : UnitManifest) : Except SgrError Unit := do
  match trustedAuthorities.lookup manifest.publisherRootId with
  | none => throw (.manifestUnknownAuthority manifest.publisherRootId)
  | some verifyingKey =>
    if manifest.publisherSignature.length ≠ 64 then
      throw .manifestSignatureInvalid
    else
      let digest ← crypto.canonicalManifestDigest manifest
      if manifest.canonicalHash.toList ≠ (crypto.toHex digest).toList.take 32 then
        throw .manifestSignatureInvalid
      else if crypto.verify verifyingKey digest manifest.publisherSignature then
        return ()
      else
        throw .manifestSignatureInvalid

def declaredEdges (manifest : UnitManifest) : List DependencyEdge :=
  manifest.dependencies.map fun dependency => ⟨manifest.unitId, dependency.unitId, dependency.kind⟩

/-- The section of `register_unit` under the write lock of the units. -/
def insertUnit (unit : ServiceUnit) (declared : List DependencyEdge) : Except SgrError InMemoryServiceGraph :=
  if (graph.units.lookup unit.unitId).isSome then
    .error (.unitAlreadyRegistered unit.unitId)
  else
    match declared.find? fun edge => edge.toUnitId ≠ unit.unitId ∧ graph.units.lookup edge.toUnitId = none with
    | some edge => .error (.dependencyTargetNotRegistered edge.toUnitId)
    | none => .ok { graph with units := graph.units.insert unit.unitId unit }

/-- `entry(unit_id).or_default().extend(edges)`, the section under the write lock of the dependencies. -/
def extendDependencies (unitId : UnitId) (edges : List DependencyEdge) : InMemoryServiceGraph :=
  { graph with
    dependencies := graph.dependencies.insert unitId ((graph.dependencies.lookup unitId).getD [] ++ edges) }

/-- `register_unit`; `emitted` is what the evidence emitter answers. -/
def registerUnit (crypto : ManifestCrypto) (trustedAuthorities : Table String crypto.VerifyingKey)
    (manifest : UnitManifest) (now : DateTime) (emitted : Except SgrError Unit) :
    InMemoryServiceGraph × Except SgrError ServiceUnit :=
  match verifyManifest crypto trustedAuthorities manifest with
  | .error failure => (graph, .error failure)
  | .ok () =>
    let declared := declaredEdges manifest
    let unit : ServiceUnit := ⟨manifest.unitId, manifest, .queued, now⟩
    match graph.insertUnit unit declared with
    | .error failure => (graph, .error failure)
    | .ok graph =>
      let graph := if declared.isEmpty then graph else graph.extendDependencies manifest.unitId declared
      (graph, emitted.map fun () => unit)

def declareDependency (source target : UnitId) (kind : DependencyKind) (emitted : Except SgrError Unit) :
    InMemoryServiceGraph × Except SgrError DependencyEdge :=
  if (graph.units.lookup source).isNone then
    (graph, .error (.unitNotFound source))
  else if (graph.units.lookup target).isNone then
    (graph, .error (.dependencyTargetNotRegistered target))
  else
    let edge : DependencyEdge := ⟨source, target, kind⟩
    (graph.extendDependencies source [edge], emitted.map fun () => edge)

/-! ## Reading -/

/-- `list_units`, in the order the map is iterated in. -/
def listUnits (order : IterationOrder ServiceUnit) : List ServiceUnit := order.arrange graph.units.values

/-- The edges declared from a unit. -/
def edgesFrom (unitId : UnitId) : List DependencyEdge := (graph.dependencies.lookup unitId).getD []

def listDependencies (unitId : UnitId) : Except SgrError (List DependencyEdge) :=
  if (graph.units.lookup unitId).isNone then .error (.unitNotFound unitId) else .ok (graph.edgesFrom unitId)

/-! ## The dependency relation -/

def IsRegistered (unitId : UnitId) : Prop := (graph.units.lookup unitId).isSome

/-- The unit declares a dependency on the prerequisite. -/
def DependsOn (unitId prerequisite : UnitId) : Prop := ∃ edge ∈ graph.edgesFrom unitId, edge.toUnitId = prerequisite

/-- Units are stored under their ids, and edges under their source between registered units. -/
structure WellFormed : Prop where
  keyed : ∀ id unit, graph.units.lookup id = some unit → unit.unitId = id
  declared : ∀ id, ∀ edge ∈ graph.edgesFrom id,
    edge.fromUnitId = id ∧ graph.IsRegistered id ∧ graph.IsRegistered edge.toUnitId

variable {graph}

variable {crypto : ManifestCrypto} {unit : ServiceUnit} {declared : List DependencyEdge} {next : InMemoryServiceGraph}
  (trustedAuthorities : Table String crypto.VerifyingKey)

theorem wellFormed_new : WellFormed new where
  keyed := by simp [new]
  declared := by simp [new, edgesFrom]

theorem edgesFrom_extendDependencies (unitId id : UnitId) (edges : List DependencyEdge) :
    (graph.extendDependencies unitId edges).edgesFrom id =
      if id = unitId then graph.edgesFrom id ++ edges else graph.edgesFrom id := by
  rw [edgesFrom, extendDependencies, Table.lookup_insert_eq]
  split_ifs with same
  · subst same
    rfl
  · rfl

theorem WellFormed.extendDependencies (held : graph.WellFormed) {unitId : UnitId} {edges : List DependencyEdge}
    (declared : ∀ edge ∈ edges, edge.fromUnitId = unitId ∧ graph.IsRegistered unitId ∧
      graph.IsRegistered edge.toUnitId) :
    (graph.extendDependencies unitId edges).WellFormed where
  keyed := held.keyed
  declared id edge member := by
    rw [edgesFrom_extendDependencies] at member
    split_ifs at member with same
    · subst same
      exact (List.mem_append.mp member).elim (held.declared id edge) (declared edge)
    · exact held.declared id edge member

/-- What the first section of a registration does when it succeeds. -/
theorem insertUnit_eq_ok (inserted : graph.insertUnit unit declared = .ok next) :
    next = { graph with units := graph.units.insert unit.unitId unit } ∧
      ∀ edge ∈ declared, edge.toUnitId = unit.unitId ∨ graph.IsRegistered edge.toUnitId := by
  rw [insertUnit] at inserted
  split_ifs at inserted
  cases found : declared.find? fun edge => edge.toUnitId ≠ unit.unitId ∧ graph.units.lookup edge.toUnitId = none with
  | some edge =>
    rw [found] at inserted
    cases inserted
  | none =>
    rw [found] at inserted
    refine ⟨(Except.ok.inj inserted).symm, fun edge member => ?_⟩
    have known := List.find?_eq_none.mp found edge member
    rw [decide_eq_true_eq, not_and_or, not_not] at known
    exact known.imp id fun stored => Option.isSome_iff_ne_none.mpr stored

theorem WellFormed.insertUnit (held : graph.WellFormed) (inserted : graph.insertUnit unit declared = .ok next) :
    next.WellFormed ∧ next.IsRegistered unit.unitId ∧ ∀ edge ∈ declared, next.IsRegistered edge.toUnitId := by
  obtain ⟨rfl, known⟩ := insertUnit_eq_ok inserted
  have kept {id : UnitId} (registered : graph.IsRegistered id) :
      IsRegistered { graph with units := graph.units.insert unit.unitId unit } id := by
    rw [IsRegistered, Table.lookup_insert_eq]
    split_ifs
    · rfl
    · exact registered
  have new : IsRegistered { graph with units := graph.units.insert unit.unitId unit } unit.unitId := by
    rw [IsRegistered, Table.lookup_insert_eq, if_pos rfl]
    rfl
  refine ⟨⟨fun id stored read => ?_, fun id edge member => ?_⟩, new, fun edge member => ?_⟩
  · rw [Table.lookup_insert_eq] at read
    split_ifs at read with same
    · exact (congrArg ServiceUnit.unitId (Option.some.inj read)).symm.trans same.symm
    · exact held.keyed id stored read
  · obtain ⟨source, from', target⟩ := held.declared id edge member
    exact ⟨source, kept from', kept target⟩
  · rcases known edge member with same | registered
    · exact same ▸ new
    · exact kept registered

theorem WellFormed.registerUnit (held : graph.WellFormed) (crypto : ManifestCrypto)
    (trustedAuthorities : Table String crypto.VerifyingKey) (manifest : UnitManifest) (now : DateTime)
    (emitted : Except SgrError Unit) :
    (graph.registerUnit crypto trustedAuthorities manifest now emitted).1.WellFormed := by
  rw [InMemoryServiceGraph.registerUnit]
  cases verifyManifest crypto trustedAuthorities manifest with
  | error failure => exact held
  | ok verified =>
    dsimp only
    cases inserted : graph.insertUnit ⟨manifest.unitId, manifest, .queued, now⟩ (declaredEdges manifest) with
    | error failure => exact held
    | ok next =>
      obtain ⟨wellFormed, registered, targets⟩ := held.insertUnit inserted
      dsimp only
      split_ifs
      · exact wellFormed
      · refine wellFormed.extendDependencies fun edge member => ⟨?_, registered, targets edge member⟩
        obtain ⟨dependency, -, rfl⟩ := List.mem_map.mp member
        rfl

theorem WellFormed.declareDependency (held : graph.WellFormed) (source target : UnitId) (kind : DependencyKind)
    (emitted : Except SgrError Unit) : (graph.declareDependency source target kind emitted).1.WellFormed := by
  rw [InMemoryServiceGraph.declareDependency]
  split_ifs with noSource noTarget
  · exact held
  · exact held
  · rw [Option.isNone_iff_eq_none, ← ne_eq, ← Option.isSome_iff_ne_none] at noSource noTarget
    refine held.extendDependencies fun edge member => ?_
    rw [List.mem_singleton.mp member]
    exact ⟨rfl, noSource, noTarget⟩

/-! ## Runs -/

/-- A call that changes the graph, with what its surroundings answer. -/
inductive GraphOp (crypto : ManifestCrypto) where
  | register (manifest : UnitManifest) (now : DateTime) (emitted : Except SgrError Unit)
  | declare (source target : UnitId) (kind : DependencyKind) (emitted : Except SgrError Unit)

def step (trustedAuthorities : Table String crypto.VerifyingKey) (graph : InMemoryServiceGraph) :
    GraphOp crypto → InMemoryServiceGraph
  | .register manifest now emitted => (graph.registerUnit crypto trustedAuthorities manifest now emitted).1
  | .declare source target kind emitted => (graph.declareDependency source target kind emitted).1

theorem WellFormed.step (held : graph.WellFormed) (op : GraphOp crypto) :
    (graph.step trustedAuthorities op).WellFormed := by
  cases op with
  | register manifest now emitted => exact held.registerUnit crypto trustedAuthorities manifest now emitted
  | declare source target kind emitted => exact held.declareDependency source target kind emitted

/-- Every graph built by registrations and declarations is well formed. -/
theorem wellFormed_of_run (ops : List (GraphOp crypto)) : (StepRun.run (step trustedAuthorities) new ops).WellFormed :=
  StepRun.run_invariant WellFormed (fun _ op held => held.step trustedAuthorities op) wellFormed_new ops

end InMemoryServiceGraph

/-- A graph as registrations and declarations build it. -/
abbrev RegisteredGraph := { graph : InMemoryServiceGraph // graph.WellFormed }

end Aios.Sgr
