import Aios.Fleet.Membership

/-! # Federated identity resolution

The embedding of `identity_resolver.rs` with the parts of `federated_identity.rs` and
`trust_delegation.rs` it rests on. A resolved subject is cached with the delegation that caps it;
neither a change of its realm's status nor a new delegation takes it out of the cache. The order in
which the map of delegations is iterated is a parameter; minted identifiers and clock readings are
arguments.
-/

namespace Aios.Fleet

open Aios.Rust

/-! ## Subjects, realms and delegations -/

structure FederatedSubjectId where
  homeRealm : String
  localId : String
deriving DecidableEq

namespace FederatedSubjectId

def isLegacy (self : FederatedSubjectId) : Bool := self.homeRealm == "realm:default"

def isForeignRealm (self : FederatedSubjectId) : Bool := self.homeRealm != "realm:default"

end FederatedSubjectId

inductive RealmStatus where
  | active
  | suspended
  | revoked
deriving DecidableEq, Repr

structure RealmDescriptor where
  realm : String
  rootPubkey : String
  registeredAt : DateTime
  status : RealmStatus
deriving DecidableEq

def RealmDescriptor.new (realm rootPubkey : String) (now : DateTime) : RealmDescriptor where
  realm := realm
  rootPubkey := rootPubkey
  registeredAt := now
  status := .active

inductive TrustDelegationDirection where
  | inboundAccept
  | outboundVouch
  | bidirectional
deriving DecidableEq

structure CrossOrgTrustDelegation where
  delegationId : String
  fromRealm : String
  toRealm : String
  direction : TrustDelegationDirection
  forbidAiSubjects : Bool
  forbidAdminActions : Bool
  maxHops : ℕ
deriving DecidableEq

structure ResolvedSubject where
  federatedId : FederatedSubjectId
  localId : String
  isAdmin : Bool
  isAi : Bool
  delegationCeiling : Option CrossOrgTrustDelegation
deriving DecidableEq

def ResolvedSubject.new (federatedId : FederatedSubjectId) (isAdmin isAi : Bool)
    (delegationCeiling : Option CrossOrgTrustDelegation) : ResolvedSubject where
  federatedId := federatedId
  localId := federatedId.localId
  isAdmin := isAdmin
  isAi := isAi
  delegationCeiling := delegationCeiling

inductive IdentityResolverError where
  | realmNotRegistered (realm : String)
  | realmSuspended (realm : String)
  | realmRevoked (realm : String)
  | legacyIdCollision (legacyId homeRealm : String)
deriving DecidableEq

/-! ## The resolver -/

structure FederatedIdentityResolver where
  realmRegistry : Table String RealmDescriptor
  delegations : Table Ulid CrossOrgTrustDelegation
  subjectCache : Table FederatedSubjectId ResolvedSubject

namespace FederatedIdentityResolver

variable (self : FederatedIdentityResolver)

def new : FederatedIdentityResolver := ⟨∅, ∅, ∅⟩

/-- A request to the resolver: a value or an error. -/
abbrev Call (α : Type) := EStateM IdentityResolverError FederatedIdentityResolver α

def registerRealm (realm rootPubkey : String) (now : DateTime) : Call RealmDescriptor := do
  if ((← get).realmRegistry.lookup realm).isSome then
    throw (.realmNotRegistered ("realm '" ++ realm ++ "' already registered — use update_realm to modify"))
  let descriptor := RealmDescriptor.new realm rootPubkey now
  modify fun self => { self with realmRegistry := self.realmRegistry.insert realm descriptor }
  return descriptor

/-- What `suspend_realm` and `revoke_realm` share. -/
def setRealmStatus (realm : String) (status : RealmStatus) : Call Unit := do
  match (← get).realmRegistry.lookup realm with
  | none => throw (.realmNotRegistered realm)
  | some descriptor =>
    modify fun self => { self with realmRegistry := self.realmRegistry.insert realm { descriptor with status } }

def suspendRealm (realm : String) : Call Unit := setRealmStatus realm .suspended

def revokeRealm (realm : String) : Call Unit := setRealmStatus realm .revoked

def registerDelegation (id : Ulid) (delegation : CrossOrgTrustDelegation) : Call Ulid := do
  modify fun self => { self with delegations := self.delegations.insert id delegation }
  return id

def findDelegationForRealm (order : IterationOrder CrossOrgTrustDelegation) (targetRealm : String) :
    Option CrossOrgTrustDelegation :=
  (order.arrange self.delegations.values).find? fun delegation =>
    delegation.toRealm == targetRealm || delegation.fromRealm == targetRealm

/-- What `resolve` does for a subject that is not cached. -/
def hydrate (order : IterationOrder CrossOrgTrustDelegation) (federatedId : FederatedSubjectId) :
    Except IdentityResolverError ResolvedSubject :=
  match self.realmRegistry.lookup federatedId.homeRealm with
  | none => .error (.realmNotRegistered federatedId.homeRealm)
  | some descriptor =>
    match descriptor.status with
    | .suspended => .error (.realmSuspended federatedId.homeRealm)
    | .revoked => .error (.realmRevoked federatedId.homeRealm)
    | .active => .ok (.new federatedId (federatedId.isLegacy || !federatedId.isForeignRealm) false
        (self.findDelegationForRealm order federatedId.homeRealm))

def resolve (order : IterationOrder CrossOrgTrustDelegation) (federatedId : FederatedSubjectId) :
    Call ResolvedSubject := do
  let self ← get
  match self.subjectCache.lookup federatedId with
  | some cached => return cached
  | none =>
    match self.hydrate order federatedId with
    | .error failure => throw failure
    | .ok resolved =>
      modify fun self => { self with subjectCache := self.subjectCache.insert federatedId resolved }
      return resolved

/-- A legacy identifier of the default realm that reads as a realm itself. -/
def collides (legacyId homeRealm : String) : Bool :=
  homeRealm == "realm:default" && legacyId.toList.contains ':' &&
    legacyId.toList.takeWhile (· != ':') == ['r', 'e', 'a', 'l', 'm']

def resolveLegacy (order : IterationOrder CrossOrgTrustDelegation) (legacyId homeRealm : String) :
    Call ResolvedSubject := do
  if collides legacyId homeRealm then throw (.legacyIdCollision legacyId homeRealm)
  resolve order ⟨homeRealm, legacyId⟩

def clearCache : Call Unit := modify fun self => { self with subjectCache := ∅ }

end FederatedIdentityResolver

/-! ## Runs -/

inductive ResolverOp where
  | registerRealm (realm rootPubkey : String) (now : DateTime)
  | suspendRealm (realm : String)
  | revokeRealm (realm : String)
  | registerDelegation (id : Ulid) (delegation : CrossOrgTrustDelegation)
  | resolve (federatedId : FederatedSubjectId)
  | resolveLegacy (legacyId homeRealm : String)
  | clearCache

/-- What a request returns. -/
inductive ResolverReply where
  | realm (descriptor : RealmDescriptor)
  | done
  | delegation (id : Ulid)
  | subject (subject : ResolvedSubject)

namespace FederatedIdentityResolver

variable (order : IterationOrder CrossOrgTrustDelegation)

section

variable (self : FederatedIdentityResolver)

def call : ResolverOp → Call ResolverReply
  | .registerRealm realm rootPubkey now => .realm <$> registerRealm realm rootPubkey now
  | .suspendRealm realm => do suspendRealm realm; return .done
  | .revokeRealm realm => do revokeRealm realm; return .done
  | .registerDelegation id delegation => .delegation <$> registerDelegation id delegation
  | .resolve federatedId => .subject <$> resolve order federatedId
  | .resolveLegacy legacyId homeRealm => .subject <$> resolveLegacy order legacyId homeRealm
  | .clearCache => do clearCache; return .done

def step (op : ResolverOp) : FederatedIdentityResolver :=
  Stateful.finalState (call order op self)

/-- The resolver after a sequence of requests. -/
def runFrom (start : FederatedIdentityResolver) (ops : List ResolverOp) : FederatedIdentityResolver :=
  StepRun.run (step order) start ops

/-! ## The subject cache -/

/-- The same tables with nothing cached. -/
def withoutCache : FederatedIdentityResolver := { self with subjectCache := ∅ }

/-- What the caller sees of a request. -/
def reply (op : ResolverOp) : Except IdentityResolverError ResolverReply :=
  Stateful.outcome id (call order op self)

/-- The realm is registered and active. -/
def RealmActive (realm : String) : Prop :=
  ∃ descriptor, self.realmRegistry.lookup realm = some descriptor ∧ descriptor.status = .active

/-- The request is answered as without a cache, and no subject of an inactive realm resolves. -/
structure Transparent (resolver : FederatedIdentityResolver) (op : ResolverOp) : Prop where
  same : resolver.reply order op = resolver.withoutCache.reply order op
  barred : ∀ federatedId, op = .resolve federatedId → ¬ resolver.RealmActive federatedId.homeRealm →
    ∃ failure, resolver.reply order op = .error failure

/-- The subject that a request looks up. -/
def lookedUp : ResolverOp → Option FederatedSubjectId
  | .resolve federatedId => some federatedId
  | .resolveLegacy legacyId homeRealm => if collides legacyId homeRealm then none else some ⟨homeRealm, legacyId⟩
  | _ => none

/-- A subject found in the cache still has an active realm, and the delegation now found for the
realm is the one it was cached with. -/
def UpToDate (op : ResolverOp) : Prop :=
  ∀ federatedId subject, lookedUp op = some federatedId → self.subjectCache.lookup federatedId = some subject →
    self.RealmActive federatedId.homeRealm ∧
      self.findDelegationForRealm order federatedId.homeRealm = subject.delegationCeiling

end

variable {order} {self : FederatedIdentityResolver} {federatedId : FederatedSubjectId} {subject : ResolvedSubject}

/-- A subject as `resolve` makes it, under some ceiling. -/
def hydrated (federatedId : FederatedSubjectId) (ceiling : Option CrossOrgTrustDelegation) : ResolvedSubject :=
  .new federatedId (federatedId.isLegacy || !federatedId.isForeignRealm) false ceiling

theorem hydrate_of_active (active : self.RealmActive federatedId.homeRealm) :
    self.hydrate order federatedId =
      .ok (hydrated federatedId (self.findDelegationForRealm order federatedId.homeRealm)) := by
  obtain ⟨descriptor, registered, status⟩ := active
  simp only [hydrate, registered, status]
  rfl

theorem hydrate_of_inactive (order : IterationOrder CrossOrgTrustDelegation)
    (inactive : ¬ self.RealmActive federatedId.homeRealm) :
    ∃ failure, self.hydrate order federatedId = .error failure := by
  rw [hydrate]
  cases registered : self.realmRegistry.lookup federatedId.homeRealm with
  | none => exact ⟨_, rfl⟩
  | some descriptor =>
    cases status : descriptor.status with
    | active => exact absurd ⟨descriptor, registered, status⟩ inactive
    | suspended => exact ⟨.realmSuspended federatedId.homeRealm, by simp only [status]⟩
    | revoked => exact ⟨.realmRevoked federatedId.homeRealm, by simp only [status]⟩

theorem hydrate_eq_ok_iff (self : FederatedIdentityResolver) :
    self.hydrate order federatedId = .ok subject ↔
      self.RealmActive federatedId.homeRealm ∧
        subject = hydrated federatedId (self.findDelegationForRealm order federatedId.homeRealm) := by
  by_cases active : self.RealmActive federatedId.homeRealm
  · rw [hydrate_of_active active, Except.ok.injEq]
    exact ⟨fun same => ⟨active, same.symm⟩, fun ⟨_, same⟩ => same.symm⟩
  · obtain ⟨failure, refused⟩ := hydrate_of_inactive order active
    rw [refused]
    exact iff_of_false (fun impossible => nomatch impossible) fun ⟨held, _⟩ => active held

/-! ### What `resolve` does -/

theorem resolve_hit (cached : self.subjectCache.lookup federatedId = some subject) :
    resolve order federatedId self = .ok subject self := by
  rw [resolve, Stateful.get_bind_apply, cached]
  rfl

theorem resolve_miss (order : IterationOrder CrossOrgTrustDelegation)
    (absent : self.subjectCache.lookup federatedId = none) :
    (∃ failure, self.hydrate order federatedId = .error failure ∧
      resolve order federatedId self = .error failure self) ∨
      ∃ resolved, self.hydrate order federatedId = .ok resolved ∧
        resolve order federatedId self =
          .ok resolved { self with subjectCache := self.subjectCache.insert federatedId resolved } := by
  rw [resolve, Stateful.get_bind_apply, absent]
  cases self.hydrate order federatedId with
  | error failure => exact .inl ⟨failure, rfl, rfl⟩
  | ok resolved => exact .inr ⟨resolved, rfl, rfl⟩

/-- What the caller of `resolve` sees. -/
theorem outcome_resolve (self : FederatedIdentityResolver) :
    Stateful.outcome id (resolve order federatedId self) =
      match self.subjectCache.lookup federatedId with
      | some cached => .ok cached
      | none => self.hydrate order federatedId := by
  cases cached : self.subjectCache.lookup federatedId with
  | some subject => rw [resolve_hit cached]; rfl
  | none =>
    obtain ⟨failure, refused, ran⟩ | ⟨resolved, fresh, ran⟩ := resolve_miss order cached
    · rw [ran, refused]
      rfl
    · rw [ran, fresh]
      rfl

theorem reply_of_lookedUp (order : IterationOrder CrossOrgTrustDelegation) {op : ResolverOp}
    (looked : lookedUp op = some federatedId)
    (self : FederatedIdentityResolver) :
    self.reply order op = (Stateful.outcome id (resolve order federatedId self)).map .subject := by
  cases op with
  | resolve other =>
    obtain rfl : other = federatedId := Option.some.inj looked
    exact Stateful.outcome_map ResolverReply.subject (resolve order other) self
  | resolveLegacy legacyId homeRealm =>
    rw [lookedUp] at looked
    split at looked
    · cases looked
    · next unique =>
      obtain rfl := Option.some.inj looked
      rw [reply, call, Stateful.outcome_map, resolveLegacy, if_neg unique]
  | registerRealm realm rootPubkey now => cases looked
  | suspendRealm realm => cases looked
  | revokeRealm realm => cases looked
  | registerDelegation id delegation => cases looked
  | clearCache => cases looked

/-- A request that looks up no subject does not read the cache. -/
theorem reply_of_not_lookedUp {op : ResolverOp} (unlooked : lookedUp op = none) (self : FederatedIdentityResolver) :
    self.reply order op = self.withoutCache.reply order op := by
  have status_reply (realm : String) (status : RealmStatus) :
      Stateful.outcome id ((do setRealmStatus realm status; return .done : Call ResolverReply) self) =
        Stateful.outcome id ((do setRealmStatus realm status; return .done : Call ResolverReply)
          self.withoutCache) := by
    rw [Stateful.bind_apply, Stateful.bind_apply, setRealmStatus, Stateful.get_bind_apply, Stateful.get_bind_apply,
      withoutCache]
    cases self.realmRegistry.lookup realm with
    | none => rfl
    | some descriptor => rfl
  cases op with
  | registerRealm realm rootPubkey now =>
    rw [reply, reply, call, Stateful.outcome_map, Stateful.outcome_map, registerRealm, Stateful.get_bind_apply,
      Stateful.get_bind_apply,
      withoutCache]
    cases (self.realmRegistry.lookup realm).isSome with
    | true => rfl
    | false => rfl
  | suspendRealm realm => exact status_reply realm .suspended
  | revokeRealm realm => exact status_reply realm .revoked
  | registerDelegation id delegation => rfl
  | resolve federatedId => cases unlooked
  | resolveLegacy legacyId homeRealm =>
    rw [lookedUp] at unlooked
    split at unlooked
    · next collision =>
      rw [reply, reply, call, Stateful.outcome_map, Stateful.outcome_map, resolveLegacy, if_pos collision]
      rfl
    · cases unlooked
  | clearCache => rfl

/-! ### The cache holds hydrated subjects -/

/-- Every cached subject was made by `resolve` under its key. -/
def CacheHydrated (self : FederatedIdentityResolver) : Prop :=
  ∀ federatedId subject, self.subjectCache.lookup federatedId = some subject →
    subject = hydrated federatedId subject.delegationCeiling

theorem CacheHydrated.resolve (held : self.CacheHydrated) (order : IterationOrder CrossOrgTrustDelegation)
    (federatedId : FederatedSubjectId) : (Stateful.finalState (resolve order federatedId self)).CacheHydrated := by
  cases cached : self.subjectCache.lookup federatedId with
  | some subject =>
    rw [resolve_hit cached]
    exact held
  | none =>
    obtain ⟨failure, -, ran⟩ | ⟨resolved, fresh, ran⟩ := resolve_miss order cached
    · rw [ran]
      exact held
    · rw [ran]
      intro other subject found
      rw [Stateful.finalState, Table.lookup_insert_eq] at found
      split at found
      · next same =>
        obtain rfl := Option.some.inj found
        rw [same, ((hydrate_eq_ok_iff self).mp fresh).2]
        rfl
      · exact held other subject found

theorem CacheHydrated.step (held : self.CacheHydrated) (order : IterationOrder CrossOrgTrustDelegation)
    (op : ResolverOp) : (self.step order op).CacheHydrated := by
  have of_status (realm : String) (status : RealmStatus) :
      (Stateful.finalState ((do setRealmStatus realm status; return .done : Call ResolverReply)
        self)).CacheHydrated := by
    rw [Stateful.bind_apply, setRealmStatus, Stateful.get_bind_apply]
    cases self.realmRegistry.lookup realm with
    | none => exact held
    | some descriptor => exact held
  cases op with
  | registerRealm realm rootPubkey now =>
    rw [FederatedIdentityResolver.step, call, Stateful.finalState_map, registerRealm, Stateful.get_bind_apply]
    cases (self.realmRegistry.lookup realm).isSome with
    | true => exact held
    | false => exact held
  | suspendRealm realm => exact of_status realm .suspended
  | revokeRealm realm => exact of_status realm .revoked
  | registerDelegation id delegation => exact held
  | resolve federatedId =>
    rw [FederatedIdentityResolver.step, call, Stateful.finalState_map]
    exact held.resolve order federatedId
  | resolveLegacy legacyId homeRealm =>
    rw [FederatedIdentityResolver.step, call, Stateful.finalState_map, resolveLegacy]
    split
    · exact held
    · exact held.resolve order ⟨homeRealm, legacyId⟩
  | clearCache => exact fun _ _ found => nomatch found

theorem cacheHydrated_new : new.CacheHydrated := by
  intro federatedId subject found
  simp [new] at found

theorem runFrom_cacheHydrated (order : IterationOrder CrossOrgTrustDelegation) (ops : List ResolverOp) :
    (runFrom order new ops).CacheHydrated :=
  StepRun.run_invariant CacheHydrated (fun _ op held => held.step order op) cacheHydrated_new ops

/-! ### Transparency -/

/-- A cached answer is the fresh one exactly if realm and delegation are as they were. -/
theorem CacheHydrated.transparent_iff (held : self.CacheHydrated) (order : IterationOrder CrossOrgTrustDelegation)
    (op : ResolverOp) : self.Transparent order op ↔ self.UpToDate order op := by
  cases looked : lookedUp op with
  | none =>
    refine iff_of_true ⟨reply_of_not_lookedUp looked self, ?_⟩ fun _ _ found => ?_
    · rintro federatedId rfl
      cases looked
    · rw [looked] at found
      cases found
  | some federatedId =>
    have here := reply_of_lookedUp order looked self
    have fresh : self.withoutCache.reply order op = (self.hydrate order federatedId).map .subject := by
      rw [reply_of_lookedUp order looked, outcome_resolve]
      rfl
    rw [outcome_resolve] at here
    have own (other : FederatedSubjectId) (resolves : op = .resolve other) : other = federatedId := by
      subst resolves
      exact Option.some.inj looked
    cases cached : self.subjectCache.lookup federatedId with
    | none =>
      rw [cached] at here
      refine iff_of_true ⟨here.trans fresh.symm, fun other resolves inactive => ?_⟩ fun other subject found stored => ?_
      · obtain rfl := own other resolves
        obtain ⟨failure, refused⟩ := hydrate_of_inactive order inactive
        exact ⟨failure, by rw [here, refused]; rfl⟩
      · obtain rfl := Option.some.inj (looked.symm.trans found)
        rw [cached] at stored
        cases stored
    | some subject =>
      rw [cached] at here
      have exactly : self.hydrate order federatedId = .ok subject ↔
          self.RealmActive federatedId.homeRealm ∧
            self.findDelegationForRealm order federatedId.homeRealm = subject.delegationCeiling := by
        rw [hydrate_eq_ok_iff]
        refine and_congr_right fun _ => ⟨fun same => ?_, fun same => ?_⟩
        · rw [same]
          rfl
        · rw [same]
          exact held federatedId subject cached
      constructor
      · intro transparent other another found stored
        obtain rfl := Option.some.inj (looked.symm.trans found)
        obtain rfl := Option.some.inj (cached.symm.trans stored)
        apply exactly.mp
        have same := transparent.same
        rw [here, fresh] at same
        cases hydrates : self.hydrate order federatedId with
        | error failure =>
          rw [hydrates] at same
          cases same
        | ok resolved =>
          rw [hydrates] at same
          cases same
          rfl
      · intro current
        have active := current federatedId subject looked cached
        refine ⟨?_, fun other resolves inactive => ?_⟩
        · rw [here, fresh, exactly.mpr active, Except.map]
        · obtain rfl := own other resolves
          exact absurd active.1 inactive

/-- In a run the cache is transparent exactly if every cached subject that is looked up still has an
active realm and the same delegation. -/
theorem cacheTransparent_iff_upToDate (order : IterationOrder CrossOrgTrustDelegation) (ops : List ResolverOp) :
    StepRun.Along (step order) (Transparent order) new ops ↔ StepRun.Along (step order) (UpToDate order) new ops := by
  rw [StepRun.along_iff_cut, StepRun.along_iff_cut]
  exact forall₄_congr fun before op _ _ => (runFrom_cacheHydrated order before).transparent_iff order op

/-- A subject that was resolved before its realm was revoked resolves afterwards. -/
theorem not_transparent_revoked :
    ¬ StepRun.Along (step (IterationOrder.stored _)) (Transparent (IterationOrder.stored _)) new
      [.registerRealm "realm:gone" "pk" 0, .resolve ⟨"realm:gone", "user1"⟩, .revokeRealm "realm:gone",
        .resolve ⟨"realm:gone", "user1"⟩] := by
  rintro ⟨-, -, -, transparent, -⟩
  obtain ⟨failure, refused⟩ := transparent.barred ⟨"realm:gone", "user1"⟩ rfl (by
    rintro ⟨descriptor, registered, active⟩
    have revoked : descriptor = ⟨"realm:gone", "pk", 0, .revoked⟩ :=
      Option.some.inj (registered.symm.trans (by decide +kernel))
    rw [revoked] at active
    cases active)
  have resolved : Except.toBool (Except.error failure : Except IdentityResolverError ResolverReply) = true := by
    rw [← refused]
    decide +kernel
  cases resolved

end FederatedIdentityResolver

end Aios.Fleet
