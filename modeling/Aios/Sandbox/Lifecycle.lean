import Aios.Lib.Stateful
import Aios.Sandbox.Tree

/-! # Capsule lifecycle over the sandbox tree

The embedding of `capsule_lifecycle.rs`. The manager keeps the lifecycle states in a map of its own,
next to the sandbox hierarchy, the isolation registry and the snapshot store. A failing call keeps
the state it has reached, so that it leaves the manager unchanged is a result and not a convention.
-/

namespace Aios.Sandbox

open Aios.Capability (CapRights)

/-! ## Isolation and snapshots -/

/-- The mechanism used to isolate a capsule from others. -/
inductive IsolationMechanism where
  | typeSafe
  | wasmBytecode
  | hardwareProcess
  | hardwareVM
deriving DecidableEq, Repr

structure ManagedIsolate where
  capsuleId : CapsuleId
  mechanism : IsolationMechanism
  channels : List String
  wasmImports : List String := []
  verified : Bool := false
deriving DecidableEq

structure IsolationRegistry where
  isolates : Table CapsuleId ManagedIsolate := ∅

def IsolationRegistry.register (self : IsolationRegistry) (isolate : ManagedIsolate) : IsolationRegistry :=
  ⟨self.isolates.insert isolate.capsuleId isolate⟩

abbrev SnapshotId := ℕ

inductive SnapshotPayload where
  | capsuleState (data : List UInt8) (mime : String)
  | metadata (namespaceBindings : List String) (capabilityIds : List ℕ) (rightsSnapshot : Option CapRights)
  | delta (baseSnapshotId : SnapshotId) (delta : List UInt8)
deriving DecidableEq

structure CapsuleSnapshot where
  id : SnapshotId
  capsuleId : CapsuleId
  label : String
  frozenAt : ℕ
  payload : SnapshotPayload
deriving DecidableEq

structure SnapshotStore where
  snapshots : Table CapsuleId (List CapsuleSnapshot) := ∅
  nextId : ℕ := 1

namespace SnapshotStore

def freeze (self : SnapshotStore) (capsuleId : CapsuleId) (label : String) (frozenAt : ℕ)
    (payload : SnapshotPayload) : SnapshotStore × CapsuleSnapshot :=
  let snapshot : CapsuleSnapshot := { id := self.nextId, capsuleId, label, frozenAt, payload }
  ({ snapshots := self.snapshots.insert capsuleId ((self.snapshots.lookup capsuleId).getD [] ++ [snapshot])
     nextId := self.nextId + 1 }, snapshot)

def deleteAllForCapsule (self : SnapshotStore) (capsuleId : CapsuleId) : SnapshotStore × ℕ :=
  ({ self with snapshots := self.snapshots.erase capsuleId },
    ((self.snapshots.lookup capsuleId).map List.length).getD 0)

end SnapshotStore

/-! ## The lifecycle manager -/

inductive CapsuleLifecycle where
  | created
  | configured
  | launching
  | running
  | paused
  | snapshotting
  | stopping
  | destroyed
deriving DecidableEq, Repr

namespace CapsuleLifecycle

def validTransitions : List (CapsuleLifecycle × CapsuleLifecycle) :=
  [(created, configured), (configured, launching), (configured, destroyed), (launching, running),
    (launching, destroyed), (running, paused), (running, snapshotting), (running, stopping), (paused, running),
    (paused, stopping), (paused, destroyed), (snapshotting, running), (stopping, destroyed)]

def canTransitionTo (self target : CapsuleLifecycle) : Bool :=
  validTransitions.any fun (source, goal) => source == self && goal == target

theorem ne_destroyed_of_canTransitionTo {self target : CapsuleLifecycle} (valid : self.canTransitionTo target = true) :
    self ≠ destroyed := by
  rintro rfl
  revert valid
  cases target <;> decide

end CapsuleLifecycle

structure CapsuleLifecycleState where
  capsuleId : CapsuleId
  state : CapsuleLifecycle
  mechanism : IsolationMechanism
  parentId : Option CapsuleId
  createdAt : ℕ
  lastTransition : ℕ
deriving DecidableEq

structure CapsuleLifecycleManager where
  capsules : Table CapsuleId CapsuleLifecycleState
  sandboxHierarchy : SandboxHierarchy
  isolationRegistry : IsolationRegistry
  snapshotStore : SnapshotStore

namespace CapsuleLifecycleManager

def new : CapsuleLifecycleManager where
  capsules := ∅
  sandboxHierarchy := (SandboxHierarchy.new.createRoot 0).1
  isolationRegistry := {}
  snapshotStore := {}

/-- A call on the manager: a value, or the message of the error. -/
abbrev Call (α : Type) := EStateM String CapsuleLifecycleManager α

def createCapsule (id : CapsuleId) (mechanism : IsolationMechanism) (parentId : Option CapsuleId) : Call Unit := do
  let self ← get
  if (self.capsules.lookup id).isSome then throw "capsule already exists"
  let parent := parentId.getD 0
  match self.sandboxHierarchy.createChild id parent with
  | none => throw "failed to create sandbox child"
  | some (hierarchy, _) =>
    modify fun self => { self with sandboxHierarchy := hierarchy }
    modify fun self =>
      { self with isolationRegistry := self.isolationRegistry.register { capsuleId := id, mechanism, channels := [] } }
    let state : CapsuleLifecycleState :=
      { capsuleId := id, state := .created, mechanism, parentId, createdAt := 0, lastTransition := 0 }
    modify fun self => { self with capsules := self.capsules.insert id state }

def setState (id : CapsuleId) (state : CapsuleLifecycle) : Call Unit :=
  modify fun self => { self with capsules := self.capsules.modify id ({ · with state }) }

/-- The opening of every call but `create_capsule`: find the capsule, check the transition, take it. -/
def enter (id : CapsuleId) (target : CapsuleLifecycle) : Call Unit := do
  match (← get).capsules.lookup id with
  | none => throw "capsule not found"
  | some state =>
    if !state.state.canTransitionTo target then throw "invalid transition"
    else setState id target

def configureCapsule (id : CapsuleId) (_caps : List CapRights) (_bindings : List String) : Call Unit :=
  enter id .configured

def launchCapsule (id : CapsuleId) : Call Unit := do
  enter id .launching
  setState id .running

def snapshotCapsule (id : CapsuleId) (label : String) : Call CapsuleSnapshot := do
  enter id .snapshotting
  let (store, snapshot) := (← get).snapshotStore.freeze id label 0 (.capsuleState [] "")
  modify fun self => { self with snapshotStore := store }
  setState id .running
  return snapshot

def stopCapsule (id : CapsuleId) : Call Unit := enter id .stopping

def destroyCapsule (id : CapsuleId) : Call Unit := do
  enter id .destroyed
  modify fun self => { self with sandboxHierarchy := self.sandboxHierarchy.step (.destroyCascade id) }
  modify fun self => { self with snapshotStore := (self.snapshotStore.deleteAllForCapsule id).1 }

end CapsuleLifecycleManager

/-! ## Runs -/

inductive CapsuleOp where
  | create (id : CapsuleId) (mechanism : IsolationMechanism) (parentId : Option CapsuleId)
  | configure (id : CapsuleId) (caps : List CapRights) (bindings : List String)
  | launch (id : CapsuleId)
  | snapshot (id : CapsuleId) (label : String)
  | stop (id : CapsuleId)
  | destroy (id : CapsuleId)

namespace CapsuleLifecycleManager

def call : CapsuleOp → Call Unit
  | .create id mechanism parentId => createCapsule id mechanism parentId
  | .configure id caps bindings => configureCapsule id caps bindings
  | .launch id => launchCapsule id
  | .snapshot id label => do let _ ← snapshotCapsule id label
  | .stop id => stopCapsule id
  | .destroy id => destroyCapsule id

/-- A call of a run; a failing one goes on from the state it leaves. -/
def step (self : CapsuleLifecycleManager) (op : CapsuleOp) : CapsuleLifecycleManager :=
  Stateful.finalState (call op self)

/-- The manager after a sequence of calls on a new one. -/
def runFrom (ops : List CapsuleOp) : CapsuleLifecycleManager := StepRun.run step new ops

/-! ## What a call does -/

variable {self : CapsuleLifecycleManager}

theorem lookup_modify_state {capsules : Table CapsuleId CapsuleLifecycleState} {id : CapsuleId}
    {capsule : CapsuleLifecycleState} (stored : capsules.lookup id = some capsule) (state : CapsuleLifecycle)
    (other : CapsuleId) :
    (capsules.modify id ({ · with state })).lookup other =
      if other = id then some { capsule with state } else capsules.lookup other := by
  rw [Table.lookup_modify, stored, Option.map_some]

theorem lookup_modify_twice {capsules : Table CapsuleId CapsuleLifecycleState} {id : CapsuleId}
    {capsule : CapsuleLifecycleState} (stored : capsules.lookup id = some capsule) (first state : CapsuleLifecycle)
    (other : CapsuleId) :
    ((capsules.modify id ({ · with state := first })).modify id ({ · with state })).lookup other =
      if other = id then some { capsule with state } else capsules.lookup other := by
  have between := lookup_modify_state stored first
  have reached := between id
  rw [if_pos rfl] at reached
  rw [lookup_modify_state reached state, between]
  split_ifs <;> rfl

/-- Entering a state fails without an effect or replaces the state of the capsule. -/
theorem enter_cases (self : CapsuleLifecycleManager) (id : CapsuleId) (target : CapsuleLifecycle) :
    (∃ message, enter id target self = .error message self) ∨
      ∃ capsule, self.capsules.lookup id = some capsule ∧ capsule.state.canTransitionTo target = true ∧
        enter id target self =
          .ok () { self with capsules := self.capsules.modify id ({ · with state := target }) } := by
  simp only [enter, Stateful.get_bind_apply]
  cases stored : self.capsules.lookup id with
  | none => exact .inl ⟨_, rfl⟩
  | some capsule =>
    cases valid : capsule.state.canTransitionTo target with
    | false => exact .inl ⟨"invalid transition", by simp only [valid]; rfl⟩
    | true => exact .inr ⟨capsule, rfl, valid, by simp only [valid]; rfl⟩

/-- The capsule gets a state of its life before destruction; the tree stays. -/
def Moves (before after : CapsuleLifecycleManager) : Prop :=
  after.sandboxHierarchy = before.sandboxHierarchy ∧
    ∃ id capsule state, before.capsules.lookup id = some capsule ∧ capsule.state ≠ .destroyed ∧ state ≠ .destroyed ∧
      ∀ other, after.capsules.lookup other =
        if other = id then some { capsule with state } else before.capsules.lookup other

/-- The capsule is new and has a new child sandbox. -/
def Creates (id : CapsuleId) (parentId : Option CapsuleId) (before after : CapsuleLifecycleManager) : Prop :=
  before.capsules.lookup id = none ∧
    (∃ child, before.sandboxHierarchy.createChild id (parentId.getD 0) = some (after.sandboxHierarchy, child)) ∧
    ∃ capsule : CapsuleLifecycleState, capsule.state = .created ∧ capsule.parentId = parentId ∧
      ∀ other, after.capsules.lookup other = if other = id then some capsule else before.capsules.lookup other

/-- The capsule is marked and its sandbox is destroyed with everything below. -/
def Destroys (id : CapsuleId) (before after : CapsuleLifecycleManager) : Prop :=
  after.sandboxHierarchy = before.sandboxHierarchy.step (.destroyCascade id) ∧
    ∃ capsule, before.capsules.lookup id = some capsule ∧ capsule.state.canTransitionTo .destroyed = true ∧
      ∀ other, after.capsules.lookup other =
        if other = id then some { capsule with state := .destroyed } else before.capsules.lookup other

theorem createCapsule_cases (self : CapsuleLifecycleManager) (id : CapsuleId) (mechanism : IsolationMechanism)
    (parentId : Option CapsuleId) :
    (∃ message, createCapsule id mechanism parentId self = .error message self) ∨
      ∃ after, createCapsule id mechanism parentId self = .ok () after ∧ Creates id parentId self after := by
  simp only [createCapsule, Stateful.get_bind_apply]
  cases stored : self.capsules.lookup id with
  | some capsule => exact .inl ⟨_, rfl⟩
  | none =>
    cases created : self.sandboxHierarchy.createChild id (parentId.getD 0) with
    | none =>
      refine .inl ⟨"failed to create sandbox child", ?_⟩
      simp only [Option.isSome_none, Bool.false_eq_true, if_false]
      rfl
    | some result =>
      refine .inr ⟨_, by simp only [Option.isSome_none, Bool.false_eq_true, if_false]; rfl, stored,
        ⟨result.2, created⟩, ⟨id, .created, mechanism, parentId, 0, 0⟩, rfl, rfl, fun other => ?_⟩
      exact Table.lookup_insert_eq _ _ _ _

/-- A call either fails and leaves the manager as it was, or does one of three things. -/
theorem call_cases (self : CapsuleLifecycleManager) (op : CapsuleOp) :
    (∃ message, call op self = .error message self) ∨
      ∃ after, call op self = .ok () after ∧
        ((∃ id mechanism parentId, op = .create id mechanism parentId ∧ Creates id parentId self after) ∨
          ((∀ id, op ≠ .destroy id) ∧ Moves self after) ∨ ∃ id, op = .destroy id ∧ Destroys id self after) := by
  cases op with
  | create id mechanism parentId =>
    obtain failed | ⟨after, ran, creates⟩ := createCapsule_cases self id mechanism parentId
    · exact .inl failed
    · exact .inr ⟨after, ran, .inl ⟨id, mechanism, parentId, rfl, creates⟩⟩
  | configure id caps bindings =>
    obtain failed | ⟨capsule, stored, valid, ran⟩ := enter_cases self id .configured
    · exact .inl failed
    · exact .inr ⟨_, ran, .inr (.inl ⟨by simp, rfl, id, capsule, .configured, stored,
        CapsuleLifecycle.ne_destroyed_of_canTransitionTo valid, by decide, lookup_modify_state stored .configured⟩)⟩
  | stop id =>
    obtain failed | ⟨capsule, stored, valid, ran⟩ := enter_cases self id .stopping
    · exact .inl failed
    · exact .inr ⟨_, ran, .inr (.inl ⟨by simp, rfl, id, capsule, .stopping, stored,
        CapsuleLifecycle.ne_destroyed_of_canTransitionTo valid, by decide, lookup_modify_state stored .stopping⟩)⟩
  | launch id =>
    obtain ⟨message, failed⟩ | ⟨capsule, stored, valid, ran⟩ := enter_cases self id .launching
    · exact .inl ⟨message, by simp only [call, launchCapsule, Stateful.bind_apply, failed]⟩
    · have launched : call (.launch id) self = .ok () { self with
          capsules := (self.capsules.modify id ({ · with state := .launching })).modify id
            ({ · with state := .running }) } := by
        simp only [call, launchCapsule, Stateful.bind_apply, ran]
        rfl
      refine .inr ⟨_, launched, .inr (.inl ⟨by simp, rfl, id, capsule, .running, stored,
        CapsuleLifecycle.ne_destroyed_of_canTransitionTo valid, by decide, fun other => ?_⟩)⟩
      exact lookup_modify_twice stored .launching .running other
  | snapshot id label =>
    obtain ⟨message, failed⟩ | ⟨capsule, stored, valid, ran⟩ := enter_cases self id .snapshotting
    · exact .inl ⟨message, by simp only [call, snapshotCapsule, Stateful.bind_apply, failed]⟩
    · have frozen : call (.snapshot id label) self = .ok () { self with
          capsules := (self.capsules.modify id ({ · with state := .snapshotting })).modify id
            ({ · with state := .running })
          snapshotStore := (self.snapshotStore.freeze id label 0 (.capsuleState [] "")).1 } := by
        simp only [call, snapshotCapsule, Stateful.bind_apply, ran]
        rfl
      refine .inr ⟨_, frozen, .inr (.inl ⟨by simp, rfl, id, capsule, .running, stored,
        CapsuleLifecycle.ne_destroyed_of_canTransitionTo valid, by decide, fun other => ?_⟩)⟩
      exact lookup_modify_twice stored .snapshotting .running other
  | destroy id =>
    obtain ⟨message, failed⟩ | ⟨capsule, stored, valid, ran⟩ := enter_cases self id .destroyed
    · exact .inl ⟨message, by simp only [call, destroyCapsule, Stateful.bind_apply, failed]⟩
    · have ended : call (.destroy id) self = .ok () { self with
          capsules := self.capsules.modify id ({ · with state := .destroyed })
          sandboxHierarchy := self.sandboxHierarchy.step (.destroyCascade id)
          snapshotStore := (self.snapshotStore.deleteAllForCapsule id).1 } := by
        simp only [call, destroyCapsule, Stateful.bind_apply, ran]
        rfl
      exact .inr ⟨_, ended, .inr (.inr ⟨id, rfl, rfl, capsule, stored, valid, lookup_modify_state stored .destroyed⟩)⟩

end CapsuleLifecycleManager

end Aios.Sandbox
