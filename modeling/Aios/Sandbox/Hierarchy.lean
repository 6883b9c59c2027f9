import Aios.Capability.TokenTree

/-! # The recursive sandbox hierarchy

The embedding of `recursive_sandbox.rs`: levels, capabilities, one sandbox, and the map of all
sandboxes with its operations. The recursion of `destroy_cascade` takes fuel; running out is `none`.
A child lies one level below its parent and levels stop at `MAX_DEPTH`, so a well-formed hierarchy
never needs more than `MAX_DEPTH + 1` nested calls.
-/

namespace Aios.Sandbox

open Aios.Capability (CapRight)

abbrev CapsuleId := ℕ

/-- Maximum recursion depth. -/
def MAX_DEPTH : ℕ := 8

/-- The depth of a sandbox in the recursive hierarchy. -/
structure SandboxLevel where
  depth : ℕ
  le_max : depth ≤ MAX_DEPTH
deriving DecidableEq

namespace SandboxLevel

def ROOT : SandboxLevel := ⟨0, Nat.zero_le _⟩

def new (level : ℕ) : Option SandboxLevel :=
  if fits : level ≤ MAX_DEPTH then some ⟨level, fits⟩ else none

/-- The next deeper level, or `none` at `MAX_DEPTH`. -/
def next (self : SandboxLevel) : Option SandboxLevel := new (self.depth + 1)

theorem next_of_lt {self : SandboxLevel} (shallow : self.depth < MAX_DEPTH) :
    self.next = some ⟨self.depth + 1, shallow⟩ := dif_pos shallow

end SandboxLevel

/-- The resource type that a capability grants access to. -/
inductive SandboxResource where
  | gpu
  | networkIn
  | networkOut
  | fileSystemRead
  | fileSystemWrite
  | ipcChannel (capsule : CapsuleId)
  | modelInference
  | custom (name : String)
deriving DecidableEq, Repr

/-- A capability that a parent sandbox grants to a child. -/
structure SandboxCapability where
  label : String
  resource : SandboxResource
  rights : List CapRight
  grantedBy : Option CapsuleId
deriving DecidableEq, Repr

structure RecursiveSandbox where
  capsuleId : CapsuleId
  level : SandboxLevel
  parentId : Option CapsuleId
  capabilities : List SandboxCapability
  children : List CapsuleId
deriving DecidableEq

namespace RecursiveSandbox

variable (self : RecursiveSandbox)

/-- A root sandbox: level 0, no parent. -/
def root (capsuleId : CapsuleId) : RecursiveSandbox :=
  { capsuleId, level := .ROOT, parentId := none, capabilities := [], children := [] }

/-- A child sandbox at the next level. -/
def child (capsuleId parentId : CapsuleId) (parentLevel : SandboxLevel) : RecursiveSandbox :=
  { capsuleId, level := parentLevel.next.getD .ROOT, parentId := some parentId, capabilities := [],
    children := [] }

def hasCapability (label : String) : Bool :=
  self.capabilities.any (·.label == label)

/-- Push the capability unless its label is present. -/
def grantCapability (cap : SandboxCapability) : RecursiveSandbox × Bool :=
  if self.capabilities.any (·.label == cap.label) then (self, false)
  else ({ self with capabilities := self.capabilities ++ [cap] }, true)

/-- Remove the capabilities of a label; the answer says whether there were any. -/
def revokeCapability (label : String) : RecursiveSandbox × Bool :=
  let kept := self.capabilities.filter (·.label != label)
  ({ self with capabilities := kept }, decide (kept.length < self.capabilities.length))

def addChild (childId : CapsuleId) : RecursiveSandbox :=
  if self.children.contains childId then self else { self with children := self.children ++ [childId] }

def removeChild (childId : CapsuleId) : RecursiveSandbox × Bool :=
  let kept := self.children.filter (· != childId)
  ({ self with children := kept }, decide (kept.length < self.children.length))

/-- The delegation check: some capability for the resource carries the `Grant` right. -/
def canDelegate (cap : SandboxCapability) : Bool :=
  self.capabilities.any fun held => held.resource == cap.resource && held.rights.contains .grant

end RecursiveSandbox

/-- All sandboxes, indexed by capsule id. -/
structure SandboxHierarchy where
  sandboxes : Table CapsuleId RecursiveSandbox := ∅

namespace SandboxHierarchy

variable (self : SandboxHierarchy)

def new : SandboxHierarchy := {}

def get (capsuleId : CapsuleId) : Option RecursiveSandbox :=
  self.sandboxes.lookup capsuleId

def sandboxCount : ℕ := self.sandboxes.entries.length

/-- Create the root sandbox, unless some sandbox is at the root level. -/
def createRoot (capsuleId : CapsuleId) : SandboxHierarchy × Bool :=
  if self.sandboxes.values.any (·.level == .ROOT) then (self, false)
  else (⟨self.sandboxes.insert capsuleId (.root capsuleId)⟩, true)

/-- Create a child sandbox underneath a parent; `none` leaves the hierarchy as it was. -/
def createChild (childId parentId : CapsuleId) : Option (SandboxHierarchy × RecursiveSandbox) :=
  if (self.get childId).isSome then none
  else do
    let parentLevel := (← self.get parentId).level
    if parentLevel.depth ≥ MAX_DEPTH then none
    else
      let child := RecursiveSandbox.child childId parentId parentLevel
      some (⟨Table.modify (self.sandboxes.insert childId child) parentId (·.addChild childId)⟩, child)

/-- `sandboxes.get(id).map(|s| s.children.clone()).unwrap_or_default()`. -/
def childrenOf (capsuleId : CapsuleId) : List CapsuleId :=
  (self.get capsuleId).elim [] (·.children)

/-- The stored parent link of an id. -/
def parentOf (capsuleId : CapsuleId) : Option CapsuleId :=
  (self.get capsuleId).bind (·.parentId)

/-- The end of a cascade: take the sandbox off its parent's list and out of the map. -/
def detach (capsuleId : CapsuleId) : SandboxHierarchy :=
  match self.parentOf capsuleId with
  | some parentId => ⟨(self.sandboxes.modify parentId (·.removeChild capsuleId |>.1)).erase capsuleId⟩
  | none => ⟨self.sandboxes.erase capsuleId⟩

/-- Destroy a sandbox and all of its descendants; the count includes the target, stored or not. -/
def destroyCascade : ℕ → SandboxHierarchy → CapsuleId → Option (SandboxHierarchy × ℕ)
  | 0, _, _ => none
  | fuel + 1, self, capsuleId => do
      let (emptied, count) ← (self.childrenOf capsuleId).foldlM
        (fun progress childId => do
          let (next, destroyed) ← destroyCascade fuel progress.1 childId
          some (next, progress.2 + destroyed))
        (self, 0)
      some (emptied.detach capsuleId, count + 1)

/-- Grant a capability from the parent of the sandbox. A sandbox without a parent is granted
whatever is asked for. -/
def grantCapability (childId : CapsuleId) (capability : SandboxCapability) : SandboxHierarchy × Bool :=
  let grant : SandboxHierarchy × Bool :=
    (⟨self.sandboxes.modify childId (·.grantCapability capability |>.1)⟩, true)
  match self.get childId with
  | none => (self, false)
  | some child =>
    match child.parentId with
    | none => grant
    | some parentId =>
      match self.get parentId with
      | none => (self, false)
      | some parent => if parent.canDelegate capability then grant else (self, false)

def revokeCapability (capsuleId : CapsuleId) (label : String) : SandboxHierarchy × Bool :=
  match self.get capsuleId with
  | none => (self, false)
  | some sandbox =>
      (⟨self.sandboxes.modify capsuleId (·.revokeCapability label |>.1)⟩, (sandbox.revokeCapability label).2)

end SandboxHierarchy

/-! ## Runs -/

inductive SandboxOp where
  | createRoot (capsuleId : CapsuleId)
  | createChild (childId parentId : CapsuleId)
  | grantCapability (childId : CapsuleId) (capability : SandboxCapability)
  | revokeCapability (capsuleId : CapsuleId) (label : String)
  | destroyCascade (capsuleId : CapsuleId)

namespace SandboxHierarchy

def step (self : SandboxHierarchy) : SandboxOp → SandboxHierarchy
  | .createRoot capsuleId => (self.createRoot capsuleId).1
  | .createChild childId parentId => ((self.createChild childId parentId).map Prod.fst).getD self
  | .grantCapability childId capability => (self.grantCapability childId capability).1
  | .revokeCapability capsuleId label => (self.revokeCapability capsuleId label).1
  | .destroyCascade capsuleId => ((self.destroyCascade (MAX_DEPTH + 1) capsuleId).map Prod.fst).getD self

/-- The hierarchy after a sequence of operations on a new one. -/
def runFrom (ops : List SandboxOp) : SandboxHierarchy := StepRun.run step new ops

end SandboxHierarchy

end Aios.Sandbox
