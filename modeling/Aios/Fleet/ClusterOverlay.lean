import Aios.Fleet.Membership
import Aios.Lib.Pairs
import Mathlib.Data.List.Destutter
import Mathlib.Data.String.Basic

/-! # The cluster overlay

The embedding of `cluster_overlay.rs`: the peers of a cluster, the election of a coordinator and the
three topologies that can be laid over the peers. The state sits behind a mutex, which a panic of a call
that holds it leaves poisoned. Clock readings, minted identifiers and the order in which a map is
iterated are arguments.
-/

namespace Aios.Fleet

open Aios.Rust

/-! ## Peers and connections -/

inductive ClusterOverlayMode where
  | hubAndSpoke
  | fullMesh
  | hybridRelayedMesh
deriving DecidableEq, Repr

inductive PeerState where
  | discovered
  | keyExchange
  | connected
  | heartbeatLost
  | disconnected
deriving DecidableEq, Repr

inductive OverlayRole where
  | coordinator
  | hub
  | spoke
  | meshMember
deriving DecidableEq, Repr

structure WireGuardKey where
  bytes : Vector UInt8 32
deriving DecidableEq

/-- A `SocketAddr`, as its canonical text. -/
abbrev SocketAddr := String

structure OverlayPeer where
  hostId : String
  publicKey : VerifyingKey
  wireguardKey : WireGuardKey
  endpoint : SocketAddr
  discoveredAt : DateTime
  lastSeen : DateTime
  state : PeerState
  role : OverlayRole
deriving DecidableEq

structure MeshConnection where
  peerA : String
  peerB : String
  establishedAt : DateTime
  tunnelId : Ulid
deriving DecidableEq

structure CoordinatorElection where
  electionId : Ulid
  candidates : List String
  winner : String
  timestamp : DateTime
  voteCount : ℕ
deriving DecidableEq

structure OverlayTopologySummary where
  mode : ClusterOverlayMode
  totalPeers : ℕ
  connectedPeers : ℕ
  coordinator : Option String
  meshEdges : ℕ
  healthStatus : String
deriving DecidableEq

inductive ClusterOverlayError where
  | noEnrolledMembers
  | electionFailed (reason : String)
  | noCoordinatorElected
  | peerNotFound (hostId : String)
  | peerInWrongState (hostId : String) (state : PeerState) (expected : List PeerState)
  | keyExchangeFailed (hostId reason : String)
  | topologyEstablishmentFailed (reason : String)
  | heartbeatFailed (hostId reason : String)
  | noPeersAvailable
  | coordinatorNotEnrolled (hostId : String)
deriving DecidableEq

inductive OverlayEvidence where
  | coordinatorElected (election : CoordinatorElection)
  | peerStateChanged (hostId : String) (oldState newState : PeerState)
  | topologyEstablished (summary : OverlayTopologySummary)
  | meshConnectionEstablished (connection : MeshConnection)
deriving DecidableEq

/-! ## The overlay -/

structure ClusterOverlayNetwork where
  mode : ClusterOverlayMode
  peers : Table String OverlayPeer
  coordinatorId : Option String
  meshConnections : Table (String × String) MeshConnection
  /-- What an attached emitter has recorded. -/
  emitted : Option (List OverlayEvidence)
  /-- A call has panicked with the lock in its hands. -/
  poisoned : Bool

namespace ClusterOverlayNetwork

variable {α : Type} (self : ClusterOverlayNetwork)

def new (mode : ClusterOverlayMode) : ClusterOverlayNetwork where
  mode := mode
  peers := ∅
  coordinatorId := none
  meshConnections := ∅
  emitted := none
  poisoned := false

/-- A call: a value or an error. -/
abbrev Call (α : Type) := EStateM ClusterOverlayError ClusterOverlayNetwork α

def emit (evidence : OverlayEvidence) : Call Unit :=
  modify fun self => { self with emitted := self.emitted.map (· ++ [evidence]) }

/-- `lock: {e}` for a poisoned lock. -/
def lockText : String := "lock: poisoned lock: another task failed inside"

/-- A call that needs the lock and reports that it cannot have it. -/
def locked (failure : ClusterOverlayError) (body : ClusterOverlayNetwork → Call α) : Call α := do
  let self ← get
  if self.poisoned then throw failure
  body self

/-! ### Coordinator election -/

/-- The identifiers of the enrolled members, sorted; `Vec::dedup` drops repetitions of the element before. -/
def candidatesOf (enrolled : List FleetMembership) : List String :=
  ((enrolled.map (·.hostId)).mergeSort fun one other => decide (one ≤ other)).destutter (· ≠ ·)

/-- A poisoned lock is passed over: the winner is returned all the same. -/
def electCoordinator (memberships : List FleetMembership) (electionId : Ulid) (now : DateTime) : Call String := do
  let enrolled := memberships.filter (·.state = .enrolled)
  if enrolled.isEmpty then throw .noEnrolledMembers
  let candidates := candidatesOf enrolled
  match candidates.head? with
  | none => throw (.electionFailed "no candidates after sort")
  | some winner =>
    if !(← get).poisoned then
      modify fun self => { self with coordinatorId := some winner }
      emit (.coordinatorElected ⟨electionId, candidates, winner, now, enrolled.length⟩)
    return winner

/-! ### Peer management -/

def addPeer (hostId : String) (publicKey : VerifyingKey) (wireguardKey : WireGuardKey) (endpoint : SocketAddr)
    (now : DateTime) : Call Unit :=
  locked (.topologyEstablishmentFailed lockText) fun self => do
    if (self.peers.lookup hostId).isNone then
      modify fun self => { self with
        peers := self.peers.insert hostId
          ⟨hostId, publicKey, wireguardKey, endpoint, now, now, .discovered, .spoke⟩ }

/-- What the calls on one peer share. -/
def onPeer (failure : ClusterOverlayError) (hostId : String) (next : OverlayPeer → Call α) : Call α :=
  locked failure fun self =>
    match self.peers.lookup hostId with
    | none => throw (.peerNotFound hostId)
    | some peer => next peer

def updatePeer (hostId : String) (update : OverlayPeer → OverlayPeer) : Call Unit :=
  modify fun self => { self with peers := self.peers.modify hostId update }

def peerKeyExchange (hostId : String) (now : DateTime) : Call Unit :=
  onPeer (.keyExchangeFailed hostId lockText) hostId fun peer => do
    if peer.state ∉ [.discovered, .keyExchange] then
      throw (.peerInWrongState hostId peer.state [.discovered, .keyExchange])
    updatePeer hostId fun peer => { peer with state := .connected, lastSeen := now }
    emit (.peerStateChanged hostId peer.state .connected)

def heartbeat (hostId : String) (now : DateTime) : Call Unit :=
  onPeer (.heartbeatFailed hostId lockText) hostId fun peer => do
    updatePeer hostId fun peer => { peer with lastSeen := now }
    if peer.state = .heartbeatLost then
      updatePeer hostId fun peer => { peer with state := .connected }
      emit (.peerStateChanged hostId peer.state .connected)

/-- `i64::MAX / 1000`, past which `Duration::try_seconds` gives nothing. -/
def maxSeconds : ℤ := 9223372036854775

/-- `Utc::now() - duration` is `checkedSub`; where it has no value the call panics and leaves the lock
poisoned, which `none` stands for. -/
def detectHeartbeatLost (checkedSub : DateTime → ℤ → Option DateTime) (hostId : String) (timeoutSeconds : ℤ)
    (now : DateTime) : Call (Option Bool) :=
  onPeer (.heartbeatFailed hostId lockText) hostId fun peer => do
    if peer.state ≠ .connected then return some false
    if timeoutSeconds < -maxSeconds ∨ maxSeconds < timeoutSeconds then
      throw (.heartbeatFailed hostId "invalid timeout duration")
    match checkedSub now (timeoutSeconds * 1000000000) with
    | none =>
      modify fun self => { self with poisoned := true }
      return none
    | some threshold =>
      if peer.lastSeen < threshold then
        updatePeer hostId fun peer => { peer with state := .heartbeatLost }
        emit (.peerStateChanged hostId peer.state .heartbeatLost)
        return some true
      return some false

def removePeer (hostId : String) : Call Unit :=
  locked (.topologyEstablishmentFailed lockText) fun self => do
    if (self.peers.lookup hostId).isNone then throw (.peerNotFound hostId)
    modify fun self => { self with
      peers := self.peers.erase hostId
      meshConnections := self.meshConnections.restrict fun key _ => key.1 != hostId && key.2 != hostId
      coordinatorId := if self.coordinatorId = some hostId then none else self.coordinatorId }

/-! ### Topology establishment -/

def healthStatus (total connected : ℕ) : String :=
  if total = 0 then "EMPTY"
  else if connected = total then
    match self.mode with
    | .hubAndSpoke => "HEALTHY_SPOKES_CONNECTED"
    | .fullMesh => "HEALTHY_FULL_MESH"
    | .hybridRelayedMesh => "HEALTHY_RELAYED_MESH"
  else if self.coordinatorId.isNone then "DEGRADED_NO_COORDINATOR"
  else "DEGRADED_PARTIAL_CONNECTIVITY"

def computeSummary : OverlayTopologySummary :=
  let total := self.peers.entries.length
  let connected := self.peers.count fun _ peer => peer.state = .connected
  { mode := self.mode
    totalPeers := total
    connectedPeers := connected
    coordinator := self.coordinatorId
    meshEdges := self.meshConnections.entries.length
    healthStatus := self.healthStatus total connected }

/-- Give every peer a role. -/
def assignRoles (peers : Table String OverlayPeer) (role : String → OverlayRole) : Table String OverlayPeer :=
  peers.keys.foldl (fun peers hostId => peers.modify hostId fun peer => { peer with role := role hostId }) peers

def announceTopology : Call Unit := do
  emit (.topologyEstablished (← get).computeSummary)

def establishHubAndSpoke (coordinatorId : String) : Call Unit :=
  locked (.topologyEstablishmentFailed lockText) fun self => do
    if self.mode ≠ .hubAndSpoke then throw (.topologyEstablishmentFailed "overlay mode is not HubAndSpoke")
    if self.peers.entries.isEmpty then throw .noPeersAvailable
    if (self.peers.lookup coordinatorId).isNone then throw (.coordinatorNotEnrolled coordinatorId)
    modify fun self => { self with
      peers := assignRoles self.peers fun hostId => if hostId = coordinatorId then .hub else .spoke
      meshConnections := ∅
      coordinatorId := some coordinatorId }
    announceTopology

/-- The connections of a full mesh, in the order of the double loop over the listed hosts. -/
def meshOf (hostIds : List String) (now : DateTime) (mint : ℕ → Ulid) : List MeshConnection :=
  (Pairs.pairs hostIds).mapIdx fun index pair => ⟨pair.1, pair.2, now, mint index⟩

/-- The hosts are listed in the order of the map, and each connection is keyed by the two in that order. -/
def establishFullMesh (order : IterationOrder String) (now : DateTime) (mint : ℕ → Ulid) : Call Unit :=
  locked (.topologyEstablishmentFailed lockText) fun self => do
    if self.mode ≠ .fullMesh then throw (.topologyEstablishmentFailed "overlay mode is not FullMesh")
    if self.peers.entries.isEmpty then throw .noPeersAvailable
    let connections := meshOf (order.arrange self.peers.keys) now mint
    modify fun self => { self with
      peers := assignRoles self.peers fun _ => .meshMember
      meshConnections := connections.foldl (fun mesh connection =>
        mesh.insert (connection.peerA, connection.peerB) connection) ∅
      emitted := self.emitted.map (· ++ connections.map .meshConnectionEstablished) }
    announceTopology

def establishHybridRelayedMesh : Call Unit :=
  locked (.topologyEstablishmentFailed lockText) fun self => do
    if self.mode ≠ .hybridRelayedMesh then
      throw (.topologyEstablishmentFailed "overlay mode is not HybridRelayedMesh")
    match self.coordinatorId with
    | none => throw .noCoordinatorElected
    | some coordId =>
      if (self.peers.lookup coordId).isNone then throw (.coordinatorNotEnrolled coordId)
      modify fun self => { self with
        peers := assignRoles self.peers fun hostId => if hostId = coordId then .coordinator else .spoke
        meshConnections := ∅ }
      announceTopology

/-! ### Coordinator re-election -/

def reElectOnCoordinatorLost (failedCoordinatorId : String) (remainingMemberships : List FleetMembership)
    (electionId : Ulid) (now : DateTime) : Call String :=
  locked (.electionFailed lockText) fun _ => do
    modify fun self => { self with
      peers := self.peers.modify failedCoordinatorId fun peer => { peer with state := .disconnected }
      coordinatorId := none }
    electCoordinator (remainingMemberships.filter fun member =>
      member.state = .enrolled ∧ member.hostId ≠ failedCoordinatorId) electionId now

end ClusterOverlayNetwork

/-! ## Runs -/

inductive OverlayOp where
  | withEmitter (attached : Bool)
  | electCoordinator (memberships : List FleetMembership) (electionId : Ulid) (now : DateTime)
  | addPeer (hostId : String) (publicKey : VerifyingKey) (wireguardKey : WireGuardKey) (endpoint : SocketAddr)
      (now : DateTime)
  | peerKeyExchange (hostId : String) (now : DateTime)
  | heartbeat (hostId : String) (now : DateTime)
  | detectHeartbeatLost (checkedSub : DateTime → ℤ → Option DateTime) (hostId : String) (timeoutSeconds : ℤ)
      (now : DateTime)
  | removePeer (hostId : String)
  | establishHubAndSpoke (coordinatorId : String)
  | establishFullMesh (order : IterationOrder String) (now : DateTime) (mint : ℕ → Ulid)
  | establishHybridRelayedMesh
  | reElectOnCoordinatorLost (failedCoordinatorId : String) (remainingMemberships : List FleetMembership)
      (electionId : Ulid) (now : DateTime)

namespace ClusterOverlayNetwork

def call : OverlayOp → Call Unit
  | .withEmitter attached => do
    if !(← get).poisoned then modify fun self => { self with emitted := if attached then some [] else none }
  | .electCoordinator memberships electionId now => do let _ ← electCoordinator memberships electionId now
  | .addPeer hostId publicKey wireguardKey endpoint now => addPeer hostId publicKey wireguardKey endpoint now
  | .peerKeyExchange hostId now => peerKeyExchange hostId now
  | .heartbeat hostId now => heartbeat hostId now
  | .detectHeartbeatLost checkedSub hostId timeoutSeconds now => do
    let _ ← detectHeartbeatLost checkedSub hostId timeoutSeconds now
  | .removePeer hostId => removePeer hostId
  | .establishHubAndSpoke coordinatorId => establishHubAndSpoke coordinatorId
  | .establishFullMesh order now mint => establishFullMesh order now mint
  | .establishHybridRelayedMesh => establishHybridRelayedMesh
  | .reElectOnCoordinatorLost failedCoordinatorId remainingMemberships electionId now => do
    let _ ← reElectOnCoordinatorLost failedCoordinatorId remainingMemberships electionId now

def step (self : ClusterOverlayNetwork) (op : OverlayOp) : ClusterOverlayNetwork :=
  Stateful.finalState (call op self)

/-- The overlay after a sequence of calls. -/
def runFrom (start : ClusterOverlayNetwork) (ops : List OverlayOp) : ClusterOverlayNetwork :=
  StepRun.run step start ops

end ClusterOverlayNetwork

end Aios.Fleet
