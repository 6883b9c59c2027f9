import Aios.Lib.Run
import Aios.Policy.HardDeny
import Mathlib.Data.Set.Basic

/-! # The emergency-override boundary

The registry of override grants. A lookup walks a hash map, so the grant it returns depends on an
iteration order; whether it returns one does not, and `covers` states that condition.
-/

namespace Aios.Policy

open Aios.Rust

/-- Maximum lifetime of a single grant. -/
def MAX_OVERRIDE_TTL_SECONDS : ℕ := 24 * 60 * 60

structure OverrideScope where
  ruleId : String
  action : String
  subjects : List String := []
deriving DecidableEq, Repr

structure OverrideRequest where
  grantedBySubject : HydratedSubject
  scope : OverrideScope
  reason : String
  ttlSeconds : ℕ
  attemptedHardDeny : Option HardDenyClass := none

structure EmergencyOverride where
  overrideId : String
  grantedBySubjectId : String
  grantedAt : DateTime
  expiresAt : DateTime
  scope : OverrideScope
  reason : String
  revoked : Bool
deriving DecidableEq, Repr

def EmergencyOverride.isExpiredOrRevoked (self : EmergencyOverride) (now : DateTime) : Bool :=
  self.revoked || decide (self.expiresAt ≤ now)

/-- What is expired or revoked stays so. -/
theorem EmergencyOverride.isExpiredOrRevoked_later {grant : EmergencyOverride} {now later : DateTime}
    (after : now ≤ later) (expired : grant.isExpiredOrRevoked now = true) :
    grant.isExpiredOrRevoked later = true := by
  simp only [isExpiredOrRevoked, Bool.or_eq_true, decide_eq_true_eq] at expired ⊢
  exact expired.imp_right fun expiry => Int.le_trans expiry after

/-- The grant is live and its scope takes in the action and the subject. -/
def EmergencyOverride.applies (self : EmergencyOverride) (action subjectCanonicalId : String)
    (now : DateTime) : Bool :=
  !self.isExpiredOrRevoked now && self.scope.action == action &&
    (self.scope.subjects.isEmpty || self.scope.subjects.any (· == subjectCanonicalId))

inductive OverrideError where
  | hardDenyCannotBeOverridden (attempted : HardDenyClass)
  | humanOnly (grantedBy : String)
  | ttlExceeded (requested max : ℕ)
  | scopeInvalid
  | ttlZero
deriving DecidableEq, Repr

structure OverrideBoundary where
  grants : Table String EmergencyOverride := ∅

namespace OverrideBoundary

variable (self : OverrideBoundary)

/-- Issue a grant at `now`; `ulid` is the id body minted for it. -/
def requestOverrideAt (req : OverrideRequest) (now : DateTime) (ulid : String) :
    Except OverrideError EmergencyOverride × OverrideBoundary :=
  match req.attemptedHardDeny with
  | some attempted => (.error (.hardDenyCannotBeOverridden attempted), self)
  | none =>
    if req.grantedBySubject.isAi then (.error (.humanOnly req.grantedBySubject.canonicalSubjectId), self)
    else if req.ttlSeconds = 0 then (.error .ttlZero, self)
    else if MAX_OVERRIDE_TTL_SECONDS < req.ttlSeconds then
      (.error (.ttlExceeded req.ttlSeconds MAX_OVERRIDE_TTL_SECONDS), self)
    else if req.scope.action = "" then (.error .scopeInvalid, self)
    else
      let grant : EmergencyOverride :=
        { overrideId := "ovr_" ++ ulid
          grantedBySubjectId := req.grantedBySubject.canonicalSubjectId
          grantedAt := now
          expiresAt := now + seconds req.ttlSeconds
          scope := req.scope
          reason := req.reason
          revoked := false }
      (.ok grant, ⟨self.grants.insert grant.overrideId grant⟩)

/-- The first live grant in iteration order whose scope matches. -/
def isOverriddenAt (order : IterationOrder EmergencyOverride) (action subjectCanonicalId : String) (now : DateTime) :
    Option EmergencyOverride :=
  (order.arrange self.grants.values).find? (·.applies action subjectCanonicalId now)

/-- Some live grant covers the action for the subject. -/
def covers (action subjectCanonicalId : String) (now : DateTime) : Bool :=
  self.grants.values.any (·.applies action subjectCanonicalId now)

def revoke (overrideId : String) : Bool × OverrideBoundary :=
  match self.grants.lookup overrideId with
  | some grant =>
      if grant.revoked then (false, self)
      else (true, ⟨self.grants.insert overrideId { grant with revoked := true }⟩)
  | none => (false, self)

/-- Drop every grant; the count is the number dropped. -/
def invalidateForBundleFlip : ℕ × OverrideBoundary :=
  (self.grants.entries.length, ⟨∅⟩)

def pruneExpired (now : DateTime) : ℕ × OverrideBoundary :=
  let kept := self.grants.restrict fun _ grant => !grant.isExpiredOrRevoked now
  (self.grants.entries.length - kept.entries.length, ⟨kept⟩)

/-- Which grant is found depends on the order of iteration, whether one is found does not. -/
theorem isOverriddenAt_isSome (order : IterationOrder EmergencyOverride) (action subjectCanonicalId : String)
    (now : DateTime) :
    (self.isOverriddenAt order action subjectCanonicalId now).isSome =
      self.covers action subjectCanonicalId now :=
  order.find?_isSome _ _

end OverrideBoundary

/-! ## Runs of the override boundary

What a lookup returns is read off the calls before it: the request that issued the grant, and no
revocation of it and no invalidation since. A call to prune drops what no later lookup would find, so
it can be put anywhere before one.
-/

inductive OverrideCall where
  | requestOverrideAt (req : OverrideRequest) (now : DateTime) (ulid : String)
  | isOverriddenAt (action subjectCanonicalId : String) (now : DateTime)
  | revoke (overrideId : String)
  | pruneExpired (now : DateTime)
  | invalidateForBundleFlip

/-- The grant once it is revoked. -/
def EmergencyOverride.withdrawn (self : EmergencyOverride) : EmergencyOverride := { self with revoked := true }

namespace OverrideBoundary

variable {calls : List OverrideCall} {subjectCanonicalId overrideId action : String} {now : DateTime}
  {left right : OverrideBoundary} {grant : EmergencyOverride} (self : OverrideBoundary)

def new : OverrideBoundary := {}

/-- The registry after a call; a lookup leaves it as it is. -/
def step : OverrideCall → OverrideBoundary
  | .requestOverrideAt req now ulid => (self.requestOverrideAt req now ulid).2
  | .isOverriddenAt .. => self
  | .revoke overrideId => (self.revoke overrideId).2
  | .pruneExpired now => (self.pruneExpired now).2
  | .invalidateForBundleFlip => self.invalidateForBundleFlip.2

def run (calls : List OverrideCall) : OverrideBoundary := StepRun.run step self calls

/-- The answers a lookup may give, over the orders of iteration. -/
def answers (action subjectCanonicalId : String) (now : DateTime) : Set (Option EmergencyOverride) :=
  {answer | ∃ order, self.isOverriddenAt order action subjectCanonicalId now = answer}

/-! ### Requests -/

/-- The grant a request asks for. -/
def grantOf (req : OverrideRequest) (now : DateTime) (ulid : String) : EmergencyOverride where
  overrideId := "ovr_" ++ ulid
  grantedBySubjectId := req.grantedBySubject.canonicalSubjectId
  grantedAt := now
  expiresAt := now + seconds req.ttlSeconds
  scope := req.scope
  reason := req.reason
  revoked := false

/-- The request passes the checks. -/
structure Admitted (req : OverrideRequest) : Prop where
  addressable : req.attemptedHardDeny = none
  human : req.grantedBySubject.isAi = false
  positive : 0 < req.ttlSeconds
  bounded : req.ttlSeconds ≤ MAX_OVERRIDE_TTL_SECONDS
  targeted : req.scope.action ≠ ""

/-- A request is refused and changes nothing, or its grant is stored under its id. -/
theorem requestOverrideAt_cases (req : OverrideRequest) (now : DateTime) (ulid : String) :
    (∃ failure, self.requestOverrideAt req now ulid = (.error failure, self)) ∨
      Admitted req ∧ self.requestOverrideAt req now ulid =
        (.ok (grantOf req now ulid), ⟨self.grants.insert ("ovr_" ++ ulid) (grantOf req now ulid)⟩) := by
  unfold requestOverrideAt
  split
  · exact .inl ⟨_, rfl⟩
  · rename_i addressable
    split
    · exact .inl ⟨_, rfl⟩
    · rename_i human
      split
      · exact .inl ⟨_, rfl⟩
      · rename_i positive
        split
        · exact .inl ⟨_, rfl⟩
        · rename_i bounded
          split
          · exact .inl ⟨_, rfl⟩
          · rename_i targeted
            exact .inr ⟨⟨addressable, Bool.eq_false_iff.mpr human, Nat.pos_of_ne_zero positive, Nat.not_lt.mp bounded,
              targeted⟩, rfl⟩

theorem requestOverrideAt_of_admitted {req : OverrideRequest} (admitted : Admitted req) (self : OverrideBoundary)
    (now : DateTime) (ulid : String) : self.requestOverrideAt req now ulid =
      (.ok (grantOf req now ulid), ⟨self.grants.insert ("ovr_" ++ ulid) (grantOf req now ulid)⟩) := by
  have positive := Nat.ne_of_gt admitted.positive
  have bounded := Nat.not_lt.mpr admitted.bounded
  simp only [requestOverrideAt, admitted.addressable, admitted.human, Bool.false_eq_true, if_false, if_neg positive,
    if_neg bounded, if_neg admitted.targeted]
  rfl

/-! ### Revocation and pruning -/

theorem lookup_revoke (revokedId overrideId : String) :
    (self.revoke revokedId).2.grants.lookup overrideId =
      if overrideId = revokedId then (self.grants.lookup revokedId).map EmergencyOverride.withdrawn
      else self.grants.lookup overrideId := by
  unfold revoke
  cases held : self.grants.lookup revokedId with
  | none =>
    by_cases same : overrideId = revokedId
    · rw [if_pos same, same, held]
      rfl
    · rw [if_neg same]
  | some grant =>
    dsimp only
    cases already : grant.revoked with
    | true =>
      have marked : grant.withdrawn = grant := by rw [EmergencyOverride.withdrawn, ← already]
      by_cases same : overrideId = revokedId
      · rw [if_pos same, Option.map_some, marked, same]
        exact held
      · rw [if_neg same]
        rfl
    | false => exact Table.lookup_insert_eq _ _ _ _

theorem lookup_pruneExpired (now : DateTime) (overrideId : String) :
    (self.pruneExpired now).2.grants.lookup overrideId =
      (self.grants.lookup overrideId).filter (!·.isExpiredOrRevoked now) := Table.lookup_restrict _ _ _

/-! ### What the registry holds -/

/-- The grant has been issued under the id by one of the calls, and no invalidation has come since. If the
id has been revoked since, the grant says so. -/
def Issued (calls : List OverrideCall) (overrideId : String) (grant : EmergencyOverride) : Prop :=
  ∃ before req now ulid after, calls = before ++ .requestOverrideAt req now ulid :: after ∧ Admitted req ∧
    overrideId = "ovr_" ++ ulid ∧ .invalidateForBundleFlip ∉ after ∧
      (grant = grantOf req now ulid ∧ .revoke overrideId ∉ after ∨ grant = (grantOf req now ulid).withdrawn)

def Traced (calls : List OverrideCall) (self : OverrideBoundary) : Prop :=
  ∀ overrideId grant, self.grants.lookup overrideId = some grant → Issued calls overrideId grant

/-- A call that neither invalidates nor revokes the id leaves an issued grant as it is. -/
theorem Issued.later (issued : Issued calls overrideId grant) {call : OverrideCall}
    (keeps : call ≠ .invalidateForBundleFlip) (spares : call ≠ .revoke overrideId) :
    Issued (calls ++ [call]) overrideId grant := by
  obtain ⟨before, req, now, ulid, after, rfl, admitted, same, standing, held⟩ := issued
  refine ⟨before, req, now, ulid, after ++ [call], by simp, admitted, same, ?_, ?_⟩
  · rw [List.mem_append, List.mem_singleton]
    exact fun member => member.elim standing (Ne.symm keeps)
  · obtain ⟨live, unrevoked⟩ | revoked := held
    · refine .inl ⟨live, ?_⟩
      rw [List.mem_append, List.mem_singleton]
      exact fun member => member.elim unrevoked (Ne.symm spares)
    · exact .inr revoked

/-- A revocation marks the grant. -/
theorem Issued.revoke (issued : Issued calls overrideId grant) :
    Issued (calls ++ [.revoke overrideId]) overrideId grant.withdrawn := by
  obtain ⟨before, req, now, ulid, after, rfl, admitted, same, standing, held⟩ := issued
  refine ⟨before, req, now, ulid, after ++ [.revoke overrideId], by simp, admitted, same, ?_, .inr ?_⟩
  · simpa using standing
  · obtain ⟨rfl, -⟩ | rfl := held <;> rfl

theorem Traced.step {self : OverrideBoundary} (traced : Traced calls self) (call : OverrideCall) :
    Traced (calls ++ [call]) (self.step call) := by
  intro overrideId grant stored
  cases call with
  | requestOverrideAt req now ulid =>
    rw [OverrideBoundary.step] at stored
    have earlier (found : self.grants.lookup overrideId = some grant) :
        Issued (calls ++ [.requestOverrideAt req now ulid]) overrideId grant :=
      (traced overrideId grant found).later (fun same => (nomatch same)) (fun same => (nomatch same))
    obtain ⟨failure, refused⟩ | ⟨admitted, granted⟩ := requestOverrideAt_cases self req now ulid
    · rw [refused] at stored
      exact earlier stored
    · rw [granted] at stored
      dsimp only at stored
      rw [Table.lookup_insert_eq] at stored
      split at stored
      · rename_i same
        obtain rfl := Option.some.inj stored
        exact ⟨calls, req, now, ulid, [], rfl, admitted, same, List.not_mem_nil, .inl ⟨rfl, List.not_mem_nil⟩⟩
      · exact earlier stored
  | isOverriddenAt action subjectCanonicalId now =>
    exact (traced overrideId grant stored).later (fun same => (nomatch same)) (fun same => (nomatch same))
  | revoke revokedId =>
    rw [OverrideBoundary.step, lookup_revoke] at stored
    split at stored
    · rename_i same
      subst same
      obtain ⟨old, held, rfl⟩ := Option.map_eq_some_iff.mp stored
      exact (traced overrideId old held).revoke
    · rename_i apart
      refine (traced overrideId grant stored).later (fun clash => (nomatch clash)) ?_
      rintro clash
      cases clash
      exact apart rfl
  | pruneExpired now =>
    rw [OverrideBoundary.step, lookup_pruneExpired, Option.filter_eq_some_iff] at stored
    exact (traced overrideId grant stored.1).later (fun same => (nomatch same)) (fun same => (nomatch same))
  | invalidateForBundleFlip => cases stored

theorem traced_run (calls : List OverrideCall) : Traced calls (new.run calls) := by
  refine @StepRun.run_invariant_along _ _ step Traced new calls ?_ ?_ calls List.prefix_rfl
  · intro overrideId grant stored
    cases stored
  · exact fun before call rest _ traced => traced.step call

/-! ### Answers -/

theorem some_mem_answers_iff {self : OverrideBoundary} : some grant ∈ self.answers action subjectCanonicalId now ↔
      (∃ overrideId, self.grants.lookup overrideId = some grant) ∧
      grant.applies action subjectCanonicalId now = true := by
  rw [← Table.mem_values_iff]
  exact IterationOrder.exists_find?_eq_some_iff

theorem none_mem_answers_iff {self : OverrideBoundary} :
    none ∈ self.answers action subjectCanonicalId now ↔
      ∀ grant, some grant ∉ self.answers action subjectCanonicalId now := by
  have unfound : none ∈ self.answers action subjectCanonicalId now ↔
      ∀ grant ∈ self.grants.values, grant.applies action subjectCanonicalId now = false :=
    ⟨fun ⟨order, missed⟩ => order.find?_eq_none_iff.mp missed,
      fun missed => ⟨.stored _, (IterationOrder.stored _).find?_eq_none_iff.mpr missed⟩⟩
  rw [unfound]
  refine forall_congr' fun grant => ?_
  rw [some_mem_answers_iff, ← Table.mem_values_iff, not_and, Bool.not_eq_true]

/-- Two registries with the same grants, but for those that are expired or revoked at the time. -/
def Agree (now : DateTime) (left right : OverrideBoundary) : Prop :=
  ∀ overrideId, (left.grants.lookup overrideId).filter (!·.isExpiredOrRevoked now) =
    (right.grants.lookup overrideId).filter (!·.isExpiredOrRevoked now)

/-- What a call to prune drops is expired or revoked ever after. -/
theorem agree_pruneExpired {later : DateTime} (after : now ≤ later) (self : OverrideBoundary) :
    Agree later (self.pruneExpired now).2 self := by
  intro overrideId
  rw [lookup_pruneExpired, Option.filter_filter]
  refine congrArg (Option.filter · _) (funext fun grant => ?_)
  cases expired : grant.isExpiredOrRevoked now with
  | false => rw [Bool.not_false, Bool.true_and]
  | true =>
    rw [EmergencyOverride.isExpiredOrRevoked_later after expired]
    rfl

theorem Agree.step (agree : Agree now left right) (call : OverrideCall) :
    Agree now (left.step call) (right.step call) := by
  intro overrideId
  cases call with
  | requestOverrideAt req issuedAt ulid =>
    rw [OverrideBoundary.step, OverrideBoundary.step]
    by_cases admitted : Admitted req
    · rw [requestOverrideAt_of_admitted admitted, requestOverrideAt_of_admitted admitted]
      dsimp only
      rw [Table.lookup_insert_eq, Table.lookup_insert_eq]
      split
      · rfl
      · exact agree overrideId
    · obtain ⟨failure, refused⟩ | ⟨admits, -⟩ := requestOverrideAt_cases left req issuedAt ulid
      · obtain ⟨failure', refused'⟩ | ⟨admits, -⟩ := requestOverrideAt_cases right req issuedAt ulid
        · rw [refused, refused']
          exact agree overrideId
        · exact absurd admits admitted
      · exact absurd admits admitted
  | isOverriddenAt action subjectCanonicalId queriedAt => exact agree overrideId
  | revoke revokedId =>
    have dead (stored : Option EmergencyOverride) :
        (stored.map EmergencyOverride.withdrawn).filter (!·.isExpiredOrRevoked now) = none := by
      cases stored <;> rfl
    rw [OverrideBoundary.step, OverrideBoundary.step, lookup_revoke, lookup_revoke]
    split
    · rw [dead, dead]
    · exact agree overrideId
  | pruneExpired prunedAt =>
    have commute (stored : Option EmergencyOverride) :
        (stored.filter (!·.isExpiredOrRevoked prunedAt)).filter (!·.isExpiredOrRevoked now) =
          (stored.filter (!·.isExpiredOrRevoked now)).filter (!·.isExpiredOrRevoked prunedAt) := by
      simp only [Option.filter_filter, Bool.and_comm]
    rw [OverrideBoundary.step, OverrideBoundary.step, lookup_pruneExpired, lookup_pruneExpired, commute,
      agree overrideId,
      commute]
  | invalidateForBundleFlip => rfl

theorem Agree.run (agree : Agree now left right) (calls : List OverrideCall) :
    Agree now (left.run calls) (right.run calls) := by
  induction calls generalizing left right with
  | nil => exact agree
  | cons call rest ih => exact ih (agree.step call)

theorem Agree.answers (agree : Agree now left right) (action subjectCanonicalId : String) :
    left.answers action subjectCanonicalId now = right.answers action subjectCanonicalId now := by
  have found (grant : EmergencyOverride) : some grant ∈ left.answers action subjectCanonicalId now ↔
      some grant ∈ right.answers action subjectCanonicalId now := by
    rw [some_mem_answers_iff, some_mem_answers_iff]
    refine and_congr_left fun applies => exists_congr fun overrideId => ?_
    have live : (!grant.isExpiredOrRevoked now) = true := by
      rw [EmergencyOverride.applies, Bool.and_assoc, Bool.and_eq_true] at applies
      exact applies.1
    have kept (stored : Option EmergencyOverride) :
        stored = some grant ↔ stored.filter (!·.isExpiredOrRevoked now) = some grant := by
      rw [Option.filter_eq_some_iff]
      exact (and_iff_left live).symm
    rw [kept, agree overrideId, ← kept]
  ext answer
  cases answer with
  | some grant => exact found grant
  | none =>
    rw [none_mem_answers_iff, none_mem_answers_iff]
    exact forall_congr' fun grant => not_congr (found grant)

/-! ### Soundness -/

/-- The grant has been issued by one of the calls, on a request of a subject that is not an AI and with a lifetime in
the admitted range, it has not expired, its scope takes in the action and the subject, and since it was issued
neither has it been revoked nor have the grants been invalidated. -/
def SoundAnswer (calls : List OverrideCall) (action subjectCanonicalId : String) (now : DateTime)
    (grant : EmergencyOverride) : Prop :=
  ∃ before req issuedAt ulid after, calls = before ++ .requestOverrideAt req issuedAt ulid :: after ∧
    ((new.run before).requestOverrideAt req issuedAt ulid).1 = .ok grant ∧
    req.grantedBySubject.isAi = false ∧ (0 < req.ttlSeconds ∧ req.ttlSeconds ≤ MAX_OVERRIDE_TTL_SECONDS) ∧
    grant.expiresAt = issuedAt + seconds req.ttlSeconds ∧ now < grant.expiresAt ∧
    grant.scope = req.scope ∧ req.scope.action = action ∧
    (req.scope.subjects = [] ∨ subjectCanonicalId ∈ req.scope.subjects) ∧
    .revoke grant.overrideId ∉ after ∧ .invalidateForBundleFlip ∉ after

theorem soundAnswer_of_mem_answers (found : some grant ∈ (new.run calls).answers action subjectCanonicalId now) :
    SoundAnswer calls action subjectCanonicalId now grant := by
  obtain ⟨⟨overrideId, stored⟩, applies⟩ := some_mem_answers_iff.mp found
  rw [EmergencyOverride.applies, Bool.and_eq_true, Bool.and_eq_true, Bool.not_eq_true',
    EmergencyOverride.isExpiredOrRevoked,
    Bool.or_eq_false_iff, decide_eq_false_iff_not, Int.not_le, beq_iff_eq] at applies
  obtain ⟨⟨⟨standing, unexpired⟩, action_⟩, subject⟩ := applies
  obtain ⟨before, req, issuedAt, ulid, after, split, admitted, rfl, kept, ⟨rfl, unrevoked⟩ | rfl⟩ :=
    traced_run calls overrideId grant stored
  · refine ⟨before, req, issuedAt, ulid, after, split, by rw [requestOverrideAt_of_admitted admitted], admitted.human,
      ⟨admitted.positive, admitted.bounded⟩, rfl, unexpired, rfl, action_, ?_, unrevoked, kept⟩
    rw [Bool.or_eq_true, List.isEmpty_iff, List.any_eq_true] at subject
    refine subject.imp_right ?_
    rintro ⟨listed, member, same⟩
    exact beq_iff_eq.mp same ▸ member
  · cases standing

/-- What a lookup returns is sound, and a call to prune that is put in before it does not change its answers. -/
theorem override_grants_sound (calls : List OverrideCall) (action subjectCanonicalId : String) (now : DateTime) :
    (∀ order grant, (new.run calls).isOverriddenAt order action subjectCanonicalId now = some grant →
      SoundAnswer calls action subjectCanonicalId now grant) ∧
    ∀ before after prunedAt, calls = before ++ after → prunedAt ≤ now →
      (new.run (before ++ .pruneExpired prunedAt :: after)).answers action subjectCanonicalId now =
        (new.run calls).answers action subjectCanonicalId now := by
  constructor
  · exact fun order grant found => soundAnswer_of_mem_answers ⟨order, found⟩
  · rintro before after prunedAt rfl earlier
    rw [run, run, StepRun.run_append, StepRun.run_append]
    exact ((agree_pruneExpired earlier (new.run before)).run after).answers action subjectCanonicalId

end OverrideBoundary

end Aios.Policy
