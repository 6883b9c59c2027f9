import Aios.Fleet.ClusterOverlay

/-! # The connections of a full mesh

A mesh connection is meant to be stored under its two peers with the alphabetically smaller one first.
`establish_full_mesh` takes the two in the order in which the map of peers is iterated.
-/

namespace Aios.Fleet

open Aios.Rust

/-- The connection is between two hosts, in either order. -/
def MeshConnection.Joins (connection : MeshConnection) (one other : String) : Prop :=
  connection.peerA = one ∧ connection.peerB = other ∨ connection.peerA = other ∧ connection.peerB = one

namespace ClusterOverlayNetwork

variable {self after : ClusterOverlayNetwork}

section

variable {hostIds : List String} {α β : Type} {part : ClusterOverlayNetwork → β} {failure : ClusterOverlayError}
  (hostId : String) (order : IterationOrder String) (now : DateTime)

variable (peers : Table String OverlayPeer)

def isPeer (self : ClusterOverlayNetwork) (host : String) : Bool := (self.peers.lookup host).isSome

/-! ## Well-formed meshes -/

/-- Each connection is stored under its two peers and joins two different ones, and no two connections
join the same peers. -/
structure WellFormed (overlay : ClusterOverlayNetwork) : Prop where
  keyed : ∀ key connection, overlay.meshConnections.lookup key = some connection →
    key = (connection.peerA, connection.peerB)
  joined : ∀ key connection, overlay.meshConnections.lookup key = some connection →
    overlay.isPeer connection.peerA = true ∧ overlay.isPeer connection.peerB = true ∧
      connection.peerA ≠ connection.peerB
  single : ∀ key key' connection connection', overlay.meshConnections.lookup key = some connection →
    overlay.meshConnections.lookup key' = some connection' →
    connection'.Joins connection.peerA connection.peerB → key' = key

/-- The first peer of each connection is the alphabetically smaller one. -/
def Canonical (self : ClusterOverlayNetwork) : Prop :=
  ∀ key connection, self.meshConnections.lookup key = some connection → connection.peerA < connection.peerB

/-- After a full mesh has been laid, exactly one connection joins any two peers. -/
def MeshComplete (self : ClusterOverlayNetwork) : OverlayOp → Prop
  | .establishFullMesh order now mint => ∀ after, establishFullMesh order now mint self = .ok () after →
      ∀ one other, after.isPeer one = true → after.isPeer other = true → one ≠ other →
        ∃! key, ∃ connection, after.meshConnections.lookup key = some connection ∧ connection.Joins one other
  | _ => True

/-- The call passes the checks of `establish_full_mesh` and takes the peers in an order. -/
def LaysMesh (self : ClusterOverlayNetwork) (op : OverlayOp) (order : IterationOrder String) : Prop :=
  self.poisoned = false ∧ self.mode = .fullMesh ∧ self.peers.entries.isEmpty = false ∧
    ∃ now mint, op = .establishFullMesh order now mint

/-- A full mesh is only laid over peers that come in ascending order. -/
def TakesAscending (self : ClusterOverlayNetwork) (op : OverlayOp) : Prop :=
  ∀ order, self.LaysMesh op order → (order.arrange self.peers.keys).Pairwise (· < ·)

/-! ## What a call does to the mesh -/

theorem isSome_lookup_modify {κ ν : Type} [DecidableEq κ] (table : Table κ ν) (key other : κ) (update : ν → ν) :
    ((table.modify key update).lookup other).isSome = (table.lookup other).isSome := by
  rw [Table.lookup_modify]
  split
  · next same => rw [Option.isSome_map, same]
  · rfl

theorem isSome_lookup_assignRoles (role : String → OverlayRole) (host : String) :
    ((assignRoles peers role).lookup host).isSome = (peers.lookup host).isSome := by
  rw [assignRoles]
  generalize peers.keys = hosts
  induction hosts generalizing peers with
  | nil => rfl
  | cons first rest ih => rw [List.foldl_cons, ih, isSome_lookup_modify]

/-- A connection that is there after a call was there before, and the call has left its peers. -/
def Spares (self after : ClusterOverlayNetwork) : Prop :=
  ∀ key connection, after.meshConnections.lookup key = some connection →
    self.meshConnections.lookup key = some connection ∧
      (self.isPeer key.1 = true → after.isPeer key.1 = true) ∧ (self.isPeer key.2 = true → after.isPeer key.2 = true)

/-- The peers and their connections. -/
def standing (self : ClusterOverlayNetwork) : (String → Bool) × Table (String × String) MeshConnection :=
  (self.isPeer, self.meshConnections)

theorem Spares.of_standing (same : after.standing = self.standing) : self.Spares after := by
  obtain ⟨peers, mesh⟩ := Prod.mk.inj same
  intro key connection stored
  rw [mesh] at stored
  rw [peers]
  exact ⟨stored, id, id⟩

theorem Spares.of_empty (empty : after.meshConnections = ∅) : self.Spares after := by
  intro key connection stored
  rw [empty] at stored
  cases stored

theorem WellFormed.of_spares (wellFormed : self.WellFormed) (spares : self.Spares after) : after.WellFormed := by
  refine ⟨fun key connection stored => wellFormed.keyed key connection (spares key connection stored).1,
    fun key connection stored => ?_, fun key key' connection connection' stored stored' => ?_⟩
  · obtain ⟨before, first, second⟩ := spares key connection stored
    obtain ⟨peerA, peerB, apart⟩ := wellFormed.joined key connection before
    obtain rfl := wellFormed.keyed key connection before
    exact ⟨first peerA, second peerB, apart⟩
  · exact wellFormed.single key key' connection connection' (spares key connection stored).1
      (spares key' connection' stored').1

theorem Canonical.of_spares (canonical : self.Canonical) (spares : self.Spares after) : after.Canonical :=
  fun key connection stored => canonical key connection (spares key connection stored).1

/-! ### Calls that lay no mesh -/

theorem emit_keeps_standing (evidence : OverlayEvidence) : Stateful.Keeps standing (emit evidence) :=
  Stateful.Keeps.of_modify fun _ => rfl

theorem updatePeer_keeps_standing (update : OverlayPeer → OverlayPeer) :
    Stateful.Keeps standing (updatePeer hostId update) := by
  apply Stateful.Keeps.of_modify
  intro state
  simp only [standing, Prod.mk.injEq, and_true]
  funext host
  exact isSome_lookup_modify state.peers hostId host update

theorem locked_keeps {body : ClusterOverlayNetwork → Call α} (rest : ∀ current, Stateful.Keeps part (body current)) :
    Stateful.Keeps part (locked failure body) := by
  refine .of_get fun current => ?_
  cases current.poisoned with
  | true => exact .of_throw _
  | false => exact rest current

theorem onPeer_keeps {hostId : String} {next : OverlayPeer → Call α} (rest : ∀ peer, Stateful.Keeps part (next peer)) :
    Stateful.Keeps part (onPeer failure hostId next) := by
  apply locked_keeps
  intro current
  cases current.peers.lookup hostId with
  | none => exact .of_throw _
  | some peer => exact rest peer

theorem electCoordinator_keeps_standing (memberships : List FleetMembership) (electionId : Ulid) (now : DateTime) :
    Stateful.Keeps standing (electCoordinator memberships electionId now) := by
  rw [electCoordinator]
  split
  · exact .of_throw _
  · dsimp only
    split
    · exact .of_throw _
    · refine .of_get fun current => ?_
      cases current.poisoned with
      | true => exact .of_pure _
      | false =>
        exact .bind (.of_modify fun _ => rfl) fun _ => .bind (emit_keeps_standing _) fun _ => .of_pure _

theorem peerKeyExchange_keeps_standing : Stateful.Keeps standing (peerKeyExchange hostId now) := by
  apply onPeer_keeps
  intro peer
  split
  · exact .of_throw _
  · exact .bind (updatePeer_keeps_standing _ _) fun _ => emit_keeps_standing _

theorem heartbeat_keeps_standing : Stateful.Keeps standing (heartbeat hostId now) := by
  apply onPeer_keeps
  intro peer
  refine .bind (updatePeer_keeps_standing _ _) fun _ => ?_
  split
  · exact .bind (updatePeer_keeps_standing _ _) fun _ => emit_keeps_standing _
  · exact .of_pure _

theorem detectHeartbeatLost_keeps_standing (checkedSub : DateTime → ℤ → Option DateTime) (hostId : String)
    (timeoutSeconds : ℤ) (now : DateTime) :
    Stateful.Keeps standing (detectHeartbeatLost checkedSub hostId timeoutSeconds now) := by
  apply onPeer_keeps
  intro peer
  split
  · exact .of_pure _
  · dsimp only
    split
    · exact .of_throw _
    · split
      · exact .bind (.of_modify fun _ => rfl) fun _ => .of_pure _
      · split
        · exact .bind (updatePeer_keeps_standing _ _) fun _ => .bind (emit_keeps_standing _) fun _ => .of_pure _
        · exact .of_pure _

theorem reElectOnCoordinatorLost_keeps_standing (failedCoordinatorId : String)
    (remainingMemberships : List FleetMembership) (electionId : Ulid) (now : DateTime) :
    Stateful.Keeps standing
      (reElectOnCoordinatorLost failedCoordinatorId remainingMemberships electionId now) := by
  apply locked_keeps
  intro _
  refine .bind (.of_modify fun state => ?_) fun _ => electCoordinator_keeps_standing _ electionId now
  simp only [standing, Prod.mk.injEq, and_true]
  funext host
  exact isSome_lookup_modify state.peers failedCoordinatorId host _

/-- What a call with the lock does: nothing where the lock is poisoned. -/
theorem locked_cases (failure : ClusterOverlayError) (body : ClusterOverlayNetwork → Call α)
    (self : ClusterOverlayNetwork) :
    (self.poisoned = false ∧ locked failure body self = body self self) ∨
      (self.poisoned = true ∧ locked failure body self = .error failure self) := by
  rw [locked, Stateful.get_bind_apply]
  cases self.poisoned with
  | true => exact .inr ⟨rfl, rfl⟩
  | false => exact .inl ⟨rfl, rfl⟩

theorem spares_addPeer (self : ClusterOverlayNetwork) (hostId : String) (publicKey : VerifyingKey)
    (wireguardKey : WireGuardKey) (endpoint : SocketAddr) (now : DateTime) :
    self.Spares (self.step (.addPeer hostId publicKey wireguardKey endpoint now)) := by
  rw [step, call, addPeer]
  obtain ⟨-, ran⟩ | ⟨-, ran⟩ := locked_cases _ _ self
  · rw [ran]
    cases stored : self.peers.lookup hostId with
    | some peer => exact .of_standing rfl
    | none =>
      have grown {host : String} (known : self.isPeer host = true) : ((self.peers.insert hostId
          ⟨hostId, publicKey, wireguardKey, endpoint, now, now, .discovered, .spoke⟩).lookup host).isSome = true := by
        rw [Table.lookup_insert_eq]
        split
        · rfl
        · exact known
      exact fun key connection kept => ⟨kept, grown, grown⟩
  · rw [ran]
    exact .of_standing rfl

theorem spares_removePeer (self : ClusterOverlayNetwork) (hostId : String) :
    self.Spares (self.step (.removePeer hostId)) := by
  rw [step, call, removePeer]
  obtain ⟨-, ran⟩ | ⟨-, ran⟩ := locked_cases _ _ self
  · rw [ran]
    cases stored : self.peers.lookup hostId with
    | none => exact .of_standing rfl
    | some peer =>
      intro key connection kept
      have left {host : String} (other : host ≠ hostId) (known : self.isPeer host = true) :
          ((self.peers.erase hostId).lookup host).isSome = true := by
        rw [Table.lookup_erase_eq, if_neg other]
        exact known
      obtain ⟨before, apart⟩ := Table.lookup_restrict_eq_some.mp kept
      rw [Bool.and_eq_true, bne_iff_ne, bne_iff_ne] at apart
      exact ⟨before, left apart.1, left apart.2⟩
  · rw [ran]
    exact .of_standing rfl

theorem spares_establishHubAndSpoke (self : ClusterOverlayNetwork) (coordinatorId : String) :
    self.Spares (self.step (.establishHubAndSpoke coordinatorId)) := by
  rw [step, call, establishHubAndSpoke]
  obtain ⟨-, ran⟩ | ⟨-, ran⟩ := locked_cases _ _ self
  · rw [ran]
    split
    · exact .of_standing rfl
    · dsimp only
      split
      · exact .of_standing rfl
      · split
        · exact .of_standing rfl
        · exact .of_empty rfl
  · rw [ran]
    exact .of_standing rfl

theorem spares_establishHybridRelayedMesh (self : ClusterOverlayNetwork) :
    self.Spares (self.step .establishHybridRelayedMesh) := by
  rw [step, call, establishHybridRelayedMesh]
  obtain ⟨-, ran⟩ | ⟨-, ran⟩ := locked_cases _ _ self
  · rw [ran]
    split
    · exact .of_standing rfl
    · cases elected : self.coordinatorId with
      | none => exact .of_standing rfl
      | some coordId =>
        dsimp only
        split
        · exact .of_standing rfl
        · exact .of_empty rfl
  · rw [ran]
    exact .of_standing rfl

/-! ### A full mesh -/

/-- The table of connections that a full mesh stores. -/
def meshTable (connections : List MeshConnection) : Table (String × String) MeshConnection :=
  connections.foldl (fun mesh connection => mesh.insert (connection.peerA, connection.peerB) connection) ∅

theorem establishFullMesh_cases (mint : ℕ → Ulid) (self : ClusterOverlayNetwork) :
    (self.LaysMesh (.establishFullMesh order now mint) order ∧
      ∃ after, establishFullMesh order now mint self = .ok () after ∧
        (∀ host, after.isPeer host = self.isPeer host) ∧
        after.meshConnections = meshTable (meshOf (order.arrange self.peers.keys) now mint)) ∨
    ((∀ other, ¬ self.LaysMesh (.establishFullMesh order now mint) other) ∧
      ∃ failure, establishFullMesh order now mint self = .error failure self) := by
  rw [establishFullMesh]
  obtain ⟨unlocked, ran⟩ | ⟨poisoned, ran⟩ := locked_cases _ _ self
  · rw [ran]
    by_cases mode : self.mode = .fullMesh
    · rw [if_neg (not_not.mpr mode)]
      cases empty : self.peers.entries.isEmpty with
      | true =>
        refine .inr ⟨fun other lays => ?_, _, rfl⟩
        rw [lays.2.2.1] at empty
        cases empty
      | false =>
        refine .inl ⟨⟨unlocked, mode, empty, now, mint, rfl⟩, _, rfl, fun host => ?_, rfl⟩
        exact isSome_lookup_assignRoles self.peers (fun _ => .meshMember) host
    · refine .inr ⟨fun other lays => mode lays.2.1, .topologyEstablishmentFailed "overlay mode is not FullMesh", ?_⟩
      rw [if_pos mode]
      rfl
  · rw [ran]
    refine .inr ⟨fun other lays => ?_, _, rfl⟩
    rw [lays.1] at poisoned
    cases poisoned

/-! ### The stored connections -/

theorem mem_meshOf {now : DateTime} {mint : ℕ → Ulid} {connection : MeshConnection}
    (member : connection ∈ meshOf hostIds now mint) : (connection.peerA, connection.peerB) ∈ Pairs.pairs hostIds := by
  obtain ⟨index, bound, rfl⟩ := List.mem_mapIdx.mp member
  exact List.getElem_mem bound

theorem exists_mem_meshOf {one other : String} (member : (one, other) ∈ Pairs.pairs hostIds) (now : DateTime)
    (mint : ℕ → Ulid) : ∃ connection ∈ meshOf hostIds now mint, connection.peerA = one ∧ connection.peerB = other := by
  obtain ⟨index, bound, same⟩ := List.mem_iff_getElem.mp member
  refine ⟨⟨one, other, now, mint index⟩, List.mem_mapIdx.mpr ⟨index, bound, ?_⟩, rfl, rfl⟩
  rw [same]

/-- The mesh over listed hosts has a connection under every pair of them and under nothing else. -/
theorem meshTable_meshOf (hostIds : List String) (now : DateTime) (mint : ℕ → Ulid) :
    (∀ key connection, (meshTable (meshOf hostIds now mint)).lookup key = some connection →
      key ∈ Pairs.pairs hostIds ∧ key = (connection.peerA, connection.peerB)) ∧
    ∀ key ∈ Pairs.pairs hostIds, ∃ connection, (meshTable (meshOf hostIds now mint)).lookup key = some connection := by
  refine ⟨fun key connection stored => ?_, fun ⟨one, other⟩ member => ?_⟩
  · obtain ⟨listed, member, rfl, rfl⟩ | impossible := Table.exists_of_lookup_foldl_insert stored
    · exact ⟨mem_meshOf member, rfl⟩
    · cases impossible
  · obtain ⟨connection, listed, rfl, rfl⟩ := exists_mem_meshOf member now mint
    exact Option.isSome_iff_exists.mp (Table.isSome_lookup_foldl_insert.mpr (.inl ⟨connection, listed, rfl⟩))

theorem nodup_arrange : (order.arrange peers.keys).Nodup :=
  (order.perm _).nodup_iff.mpr peers.nodupKeys

theorem mem_arrange_iff (self : ClusterOverlayNetwork) (host : String) :
    host ∈ order.arrange self.peers.keys ↔ self.isPeer host = true := by
  rw [(order.perm _).mem_iff, Table.mem_keys_iff, isPeer]

end

section Laid

variable {hostIds : List String} {now : DateTime} {mint : ℕ → Ulid}

/-- A mesh over the peers is well formed, whatever the order. -/
theorem WellFormed.of_laid (nodup : hostIds.Nodup) (peers : ∀ host, host ∈ hostIds ↔ after.isPeer host = true)
    (mesh : after.meshConnections = meshTable (meshOf hostIds now mint)) : after.WellFormed := by
  obtain ⟨stored_under, -⟩ := meshTable_meshOf hostIds now mint
  rw [← mesh] at stored_under
  refine ⟨fun key connection stored => (stored_under key connection stored).2, fun key connection stored => ?_,
    fun key key' connection connection' stored stored' joins => ?_⟩
  · obtain ⟨paired, rfl⟩ := stored_under key connection stored
    obtain ⟨first, second⟩ := Pairs.mem_of_mem_pairs paired
    exact ⟨(peers _).mp first, (peers _).mp second, Pairs.forall_pairs_iff.mpr nodup _ _ paired⟩
  · obtain ⟨paired, rfl⟩ := stored_under key connection stored
    obtain ⟨paired', rfl⟩ := stored_under key' connection' stored'
    obtain ⟨peerA, peerB⟩ | ⟨peerA, peerB⟩ := joins
    · rw [peerA, peerB]
    · rw [peerA, peerB] at paired'
      exact absurd paired' (Pairs.pairs_asymm nodup paired)

theorem complete_of_laid (nodup : hostIds.Nodup) (peers : ∀ host, host ∈ hostIds ↔ after.isPeer host = true)
    (mesh : after.meshConnections = meshTable (meshOf hostIds now mint)) {one other : String}
    (first : after.isPeer one = true) (second : after.isPeer other = true) (apart : one ≠ other) :
    ∃! key, ∃ connection, after.meshConnections.lookup key = some connection ∧ connection.Joins one other := by
  obtain ⟨stored_under, stored⟩ := meshTable_meshOf hostIds now mint
  rw [← mesh] at stored_under stored
  -- the two are visited in one order only, and stored under it
  have unique {a b : String} (paired : (a, b) ∈ Pairs.pairs hostIds)
      (both : ∀ connection : MeshConnection, connection.Joins one other ↔ connection.Joins a b) :
      ∃! key, ∃ connection, after.meshConnections.lookup key = some connection ∧ connection.Joins one other := by
    obtain ⟨connection, found⟩ := stored (a, b) paired
    obtain ⟨peerA, peerB⟩ := Prod.mk.inj (stored_under (a, b) connection found).2
    refine ⟨(a, b), ⟨connection, found, (both connection).mpr (.inl ⟨peerA.symm, peerB.symm⟩)⟩, ?_⟩
    rintro key ⟨connection', found', joins⟩
    obtain ⟨paired', rfl⟩ := stored_under key connection' found'
    obtain ⟨same, same'⟩ | ⟨swapped, swapped'⟩ := (both connection').mp joins
    · rw [same, same']
    · rw [swapped, swapped'] at paired'
      exact absurd paired' (Pairs.pairs_asymm nodup paired)
  obtain paired | paired := Pairs.pairs_total ((peers one).mpr first) ((peers other).mpr second) apart
  · exact unique paired fun connection => Iff.rfl
  · exact unique paired fun connection => or_comm

/-- The mesh is canonical exactly if the peers come in ascending order. -/
theorem canonical_of_laid (mesh : after.meshConnections = meshTable (meshOf hostIds now mint)) :
    after.Canonical ↔ hostIds.Pairwise (· < ·) := by
  obtain ⟨stored_under, stored⟩ := meshTable_meshOf hostIds now mint
  rw [← mesh] at stored_under stored
  rw [← Pairs.forall_pairs_iff]
  constructor
  · intro canonical one other paired
    obtain ⟨connection, found⟩ := stored (one, other) paired
    obtain ⟨rfl, rfl⟩ := Prod.mk.inj (stored_under (one, other) connection found).2
    exact canonical _ connection found
  · intro ascending key connection found
    obtain ⟨paired, rfl⟩ := stored_under key connection found
    exact ascending _ _ paired

end Laid

/-! ## Steps and runs -/

theorem spares_step (self : ClusterOverlayNetwork) {op : OverlayOp}
    (other : ∀ order now mint, op ≠ .establishFullMesh order now mint) : self.Spares (self.step op) := by
  cases op with
  | withEmitter attached =>
    apply Spares.of_standing
    rw [step, call, Stateful.get_bind_apply]
    cases self.poisoned with
    | true => rfl
    | false => rfl
  | electCoordinator memberships electionId now =>
    apply Spares.of_standing
    rw [step, call, Stateful.finalState_discard]
    exact electCoordinator_keeps_standing memberships electionId now self
  | addPeer hostId publicKey wireguardKey endpoint now =>
    exact spares_addPeer self hostId publicKey wireguardKey endpoint now
  | peerKeyExchange hostId now => exact .of_standing (peerKeyExchange_keeps_standing hostId now self)
  | heartbeat hostId now => exact .of_standing (heartbeat_keeps_standing hostId now self)
  | detectHeartbeatLost checkedSub hostId timeoutSeconds now =>
    apply Spares.of_standing
    rw [step, call, Stateful.finalState_discard]
    exact detectHeartbeatLost_keeps_standing checkedSub hostId timeoutSeconds now self
  | removePeer hostId => exact spares_removePeer self hostId
  | establishHubAndSpoke coordinatorId => exact spares_establishHubAndSpoke self coordinatorId
  | establishFullMesh order now mint => exact absurd rfl (other order now mint)
  | establishHybridRelayedMesh => exact spares_establishHybridRelayedMesh self
  | reElectOnCoordinatorLost failedCoordinatorId remainingMemberships electionId now =>
    apply Spares.of_standing
    rw [step, call, Stateful.finalState_discard]
    exact reElectOnCoordinatorLost_keeps_standing failedCoordinatorId remainingMemberships electionId now self

/-- A call lays a full mesh over the peers, or it spares the connections that stay. -/
theorem step_cases (self : ClusterOverlayNetwork) (op : OverlayOp) :
    (∃ order now mint, op = .establishFullMesh order now mint ∧ self.LaysMesh op order ∧
      (∀ host, host ∈ order.arrange self.peers.keys ↔ (self.step op).isPeer host = true) ∧
      (self.step op).meshConnections = meshTable (meshOf (order.arrange self.peers.keys) now mint)) ∨
    ((∀ order, ¬ self.LaysMesh op order) ∧ self.Spares (self.step op)) := by
  by_cases laying : ∃ order now mint, op = .establishFullMesh order now mint
  · obtain ⟨order, now, mint, rfl⟩ := laying
    rw [step, call]
    obtain ⟨lays, after, ran, peers, mesh⟩ | ⟨refused, failure, ran⟩ := establishFullMesh_cases order now mint self
    · rw [ran]
      refine .inl ⟨order, now, mint, rfl, lays, fun host => ?_, mesh⟩
      rw [mem_arrange_iff, Stateful.finalState, peers]
    · rw [ran]
      exact .inr ⟨refused, .of_standing rfl⟩
  · right
    refine ⟨?_, spares_step self fun order now mint same => laying ⟨order, now, mint, same⟩⟩
    rintro order ⟨-, -, -, now, mint, same⟩
    exact laying ⟨order, now, mint, same⟩

theorem wellFormed_step (wellFormed : self.WellFormed) (op : OverlayOp) : (self.step op).WellFormed := by
  obtain ⟨order, now, mint, -, -, peers, mesh⟩ | ⟨-, spares⟩ := step_cases self op
  · exact .of_laid (nodup_arrange order self.peers) peers mesh
  · exact wellFormed.of_spares spares

theorem canonical_step (canonical : self.Canonical) (op : OverlayOp) :
    (self.step op).Canonical ↔ self.TakesAscending op := by
  obtain ⟨order, now, mint, rfl, lays, -, mesh⟩ | ⟨lays, spares⟩ := step_cases self op
  · rw [canonical_of_laid mesh]
    constructor
    · rintro ascending other ⟨-, -, -, now', mint', same⟩
      obtain ⟨rfl, -, -⟩ := OverlayOp.establishFullMesh.inj same
      exact ascending
    · exact fun takes => takes order lays
  · exact iff_of_true (canonical.of_spares spares) fun order laid => absurd laid (lays order)

theorem meshComplete (self : ClusterOverlayNetwork) (op : OverlayOp) : self.MeshComplete op := by
  cases op with
  | establishFullMesh order now mint =>
    intro after ran one other first second apart
    obtain ⟨-, after', ran', peers, mesh⟩ | ⟨-, failure, refused⟩ := establishFullMesh_cases order now mint self
    · obtain ⟨-, rfl⟩ := EStateM.Result.ok.inj (ran.symm.trans ran')
      refine complete_of_laid (nodup_arrange order self.peers) (fun host => ?_) mesh first second apart
      rw [mem_arrange_iff, peers]
    · rw [ran] at refused
      cases refused
  | _ => trivial

theorem wellFormed_new (mode : ClusterOverlayMode) : (new mode).WellFormed := by
  refine ⟨fun _ _ stored => ?_, fun _ _ stored => ?_, fun _ _ _ _ stored => ?_⟩
  all_goals cases stored

/-- In every run the connections join two different peers, no two of them the same two, and a full mesh
joins them all; they are all canonical exactly if each full mesh takes the peers in ascending order. -/
theorem mesh_iff (mode : ClusterOverlayMode) (ops : List OverlayOp) :
    (∀ before, before <+: ops → (runFrom (new mode) before).WellFormed) ∧
      StepRun.Along step MeshComplete (new mode) ops ∧
      ((∀ before, before <+: ops → (runFrom (new mode) before).Canonical) ↔
        StepRun.Along step TakesAscending (new mode) ops) := by
  refine ⟨fun before _ => ?_, ?_, ?_⟩
  · exact StepRun.run_invariant WellFormed (fun _ op held => wellFormed_step held op) (wellFormed_new mode) before
  · rw [StepRun.along_iff_cut]
    exact fun before op _ _ => meshComplete _ op
  · rw [StepRun.along_iff_cut]
    refine StepRun.forall_prefix_iff_cut ?_ fun _ op _ _ canonical => canonical_step canonical op
    intro key connection stored
    cases stored

/-- Two peers that the map lists with the larger one first. -/
theorem not_canonical_descending :
    ¬ (runFrom (new .fullMesh) [.addPeer "a" "ka" ⟨.replicate 32 0⟩ "10.0.0.1:51820" 0,
      .addPeer "b" "kb" ⟨.replicate 32 0⟩ "10.0.0.2:51820" 0,
      .establishFullMesh (IterationOrder.stored _) 0 fun _ => "tunnel"]).Canonical := by
  intro canonical
  have ordered : "b" < "a" := canonical ("b", "a") ⟨"b", "a", 0, "tunnel"⟩ (by decide +kernel)
  exact absurd ordered (by decide)

end ClusterOverlayNetwork

end Aios.Fleet
