import Aios.Distribution.InstallPipeline
import Aios.Lib.Run
import Aios.Lib.SlidingWindow

/-! # Mirrors

The embedding of `mirror_policy.rs`, `mirror_blacklist.rs` and `mirror_fetch.rs`: the order of the tiers, the
check of the bytes that a mirror serves, the blacklist of mirrors that served other bytes, and the walk over
the tiers. BLAKE3 is a parameter. A byte source may answer each attempt as it likes, so it is a function of the
position in the walk as well as of the endpoint. -/

namespace Aios.Distribution

open Aios.Rust

/-- What a content is hashed to, as `canonical::content_hash` prints it. -/
abbrev ContentHash := List UInt8 → String

structure MirrorEndpoint where
  url : String
  semantic : MirrorSemantic
deriving DecidableEq, Repr

/-- Local, then cached, then origin; within a tier as given. -/
def fetchOrder (endpoints : List MirrorEndpoint) : List MirrorEndpoint :=
  (endpoints.filter fun e => e.semantic = .local) ++ (endpoints.filter fun e => e.semantic = .cached) ++
    endpoints.filter fun e => e.semantic = .origin

def verifyMirrorBytes (contentHash : ContentHash) (manifest : PackageManifest) (fetchedBytes : List UInt8) :
    Except DistributionError Unit :=
  let computed := contentHash fetchedBytes
  if computed = manifest.contentHash then
    .ok ()
  else
    .error (.hashMismatch
      ("content hash mismatch: expected " ++ manifest.contentHash ++ ", computed " ++ computed))

theorem verifyMirrorBytes_of_ne {contentHash : ContentHash} {manifest : PackageManifest} {fetchedBytes : List UInt8}
    (other : contentHash fetchedBytes ≠ manifest.contentHash) :
    ∃ message, verifyMirrorBytes contentHash manifest fetchedBytes = .error (.hashMismatch message) :=
  ⟨_, if_neg other⟩

/-! ## The blacklist -/

/-- The mismatches of each mirror within the last window, and the mirrors that had too many. -/
structure MirrorBlacklist where
  window : ℤ
  threshold : ℕ
  mismatches : Table String (List UtcTime)
  blacklisted : Table String UtcTime

namespace MirrorBlacklist

variable (self : MirrorBlacklist)

def new (window : ℤ) (threshold : ℕ) : MirrorBlacklist := ⟨window, threshold, ∅, ∅⟩

def recordMismatch (mirrorUrl : String) (now : UtcTime) : Bool × MirrorBlacklist :=
  let cutoff := subSignedOrMin now self.window
  let timestamps := (((self.mismatches.lookup mirrorUrl).getD []) ++ [now]).filter fun ts => cutoff.val ≤ ts.val
  let self := { self with mismatches := self.mismatches.insert mirrorUrl timestamps }
  if self.threshold ≤ timestamps.length then
    (true, { self with blacklisted := self.blacklisted.insert mirrorUrl now })
  else
    (false, self)

def isBlacklisted (mirrorUrl : String) : Bool := (self.blacklisted.lookup mirrorUrl).isSome

def preReject (endpoint : MirrorEndpoint) (_now : UtcTime) : Except DistributionError Unit :=
  if self.isBlacklisted endpoint.url then
    .error (.mirrorBlacklisted
      ("mirror " ++ endpoint.url ++ " is blacklisted — pre-rejecting fetch per S11.1 §3.8"))
  else
    .ok ()

end MirrorBlacklist

/-! ## The walk over the tiers -/

/-- The answer to the attempt at each position of the walk. -/
abbrev MirrorByteSource := ℕ → MirrorEndpoint → Except DistributionError (List UInt8)

structure ResolvedBytes where
  endpoint : MirrorEndpoint
  bytes : List UInt8
deriving DecidableEq, Repr

/-- `DistributionError::code` is that of a hash mismatch. -/
def DistributionError.isHashMismatch : DistributionError → Bool
  | .hashMismatch _ => true
  | _ => false

section Walk

variable (contentHash : ContentHash) (manifest : PackageManifest) (source : MirrorByteSource) (now : UtcTime)

/-- The loop over the endpoints that are left. -/
def resolveFrom : ℕ → List MirrorEndpoint → Option DistributionError → MirrorBlacklist →
    Except DistributionError ResolvedBytes × MirrorBlacklist
  | _, [], lastError, blacklist =>
    (.error (lastError.getD (.internal "resolve_and_verify: all tiers exhausted with no error captured")), blacklist)
  | position, ep :: rest, _, blacklist =>
    match blacklist.preReject ep now with
    | .error e => resolveFrom (position + 1) rest (some e) blacklist
    | .ok () =>
      match source position ep with
      | .error e => resolveFrom (position + 1) rest (some e) blacklist
      | .ok bytes =>
        match verifyMirrorBytes contentHash manifest bytes with
        | .ok () => (.ok ⟨ep, bytes⟩, blacklist)
        | .error e =>
          if e.isHashMismatch && ep.semantic != .origin then
            resolveFrom (position + 1) rest (some e) (blacklist.recordMismatch ep.url now).2
          else
            resolveFrom (position + 1) rest (some e) blacklist

def resolveAndVerify (endpoints : List MirrorEndpoint) (blacklist : MirrorBlacklist) :
    Except DistributionError ResolvedBytes × MirrorBlacklist :=
  let ordered := fetchOrder endpoints
  if ordered.isEmpty then
    (.error (.internal "resolve_and_verify: no endpoints provided"), blacklist)
  else
    resolveFrom contentHash manifest source now 0 ordered none blacklist

end Walk

/-! ## Resolution of mirrors

A run of `resolve_and_verify` calls on one blacklist, told by what each attempt met. The mismatches recorded
so far decide which mirrors are barred: the pruned timestamps of the blacklist are what the window ending at
the last mismatch reaches, and a mirror is blacklisted once some window filled up.
-/

structure MirrorCall where
  manifest : PackageManifest
  endpoints : List MirrorEndpoint
  source : MirrorByteSource
  now : UtcTime

def MirrorCall.resolve (contentHash : ContentHash) (self : MirrorCall) (blacklist : MirrorBlacklist) :
    Except DistributionError ResolvedBytes × MirrorBlacklist :=
  resolveAndVerify contentHash self.manifest self.source self.now self.endpoints blacklist

/-- What an attempt met: the blacklist, an error of the transport, or bytes. -/
inductive Outcome where
  | rejected
  | failed (error : DistributionError)
  | served (bytes : List UInt8)
deriving DecidableEq, Repr

def Outcome.ofAnswer : Except DistributionError (List UInt8) → Outcome
  | .error e => failed e
  | .ok bytes => served bytes

structure Attempt where
  endpoint : MirrorEndpoint
  outcome : Outcome
deriving DecidableEq, Repr

/-- A mirror that served other bytes. -/
structure Mismatch where
  url : String
  time : UtcTime
deriving DecidableEq

def MirrorBlacklist.record (self : MirrorBlacklist) (mismatch : Mismatch) : MirrorBlacklist :=
  (self.recordMismatch mismatch.url mismatch.time).2

/-- When the mirror served other bytes. -/
def timesOf (url : String) (history : List Mismatch) : List UtcTime :=
  (history.filter fun mismatch => mismatch.url = url).map (·.time)

/-- The window that ends at `last` reaches back to `time`. -/
def within (window : ℤ) (last time : UtcTime) : Bool := last.val - window ≤ time.val

/-- At some recorded mismatch, `threshold` of the mirror's mismatches lay in the window that ends there. -/
def Barred (window : ℤ) (threshold : ℕ) (history : List Mismatch) (url : String) : Prop :=
  SlidingWindow.Filled (within window) threshold (timesOf url history)

section Attempts

variable (contentHash : ContentHash) (call : MirrorCall)

/-- The bytes of an attempt that ends the walk. -/
def Attempt.verified (attempt : Attempt) : Option (List UInt8) :=
  match attempt.outcome with
  | .served bytes => if contentHash bytes = call.manifest.contentHash then some bytes else none
  | _ => none

/-- The mismatch to record: other bytes were served, and not by an origin. -/
def Attempt.mismatch (attempt : Attempt) : Option Mismatch :=
  match attempt.outcome with
  | .served bytes =>
    if contentHash bytes ≠ call.manifest.contentHash ∧ attempt.endpoint.semantic ≠ .origin then
      some ⟨attempt.endpoint.url, call.now⟩
    else
      none
  | _ => none

def mismatchesOf (attempts : List Attempt) : List Mismatch := attempts.filterMap (Attempt.mismatch contentHash call)

/-- What the attempt at a position meets. -/
def MirrorCall.attemptAt (position : ℕ) (ep : MirrorEndpoint) (blacklist : MirrorBlacklist) : Attempt :=
  ⟨ep, if blacklist.isBlacklisted ep.url then .rejected else Outcome.ofAnswer (call.source position ep)⟩

/-- The blacklist after an attempt that does not end the walk. -/
def MirrorBlacklist.noted (blacklist : MirrorBlacklist) (attempt : Attempt) : MirrorBlacklist :=
  (attempt.mismatch contentHash call).elim blacklist blacklist.record

/-- The attempts of the loop over the endpoints that are left. -/
def MirrorCall.attemptsFrom : ℕ → List MirrorEndpoint → MirrorBlacklist → List Attempt
  | _, [], _ => []
  | position, ep :: rest, blacklist =>
    let attempt := call.attemptAt position ep blacklist
    attempt :: if (attempt.verified contentHash call).isSome then [] else
      MirrorCall.attemptsFrom (position + 1) rest (blacklist.noted contentHash call attempt)

def MirrorCall.attempts (blacklist : MirrorBlacklist) : List Attempt :=
  call.attemptsFrom contentHash 0 (fetchOrder call.endpoints) blacklist

end Attempts

/-- A call after the mismatches `history`, which turned the blacklist into `after`. -/
structure Resolved (contentHash : ContentHash) (window : ℤ) (threshold : ℕ) (history : List Mismatch)
    (call : MirrorCall) (before after : MirrorBlacklist) (result : Except DistributionError ResolvedBytes)
    (attempts : List Attempt) : Prop where
  /-- The endpoints are tried in the order of the tiers. -/
  inOrder : attempts.map (·.endpoint) <+: fetchOrder call.endpoints
  rejected : ∀ earlier attempt later, attempts = earlier ++ attempt :: later →
    Barred window threshold (history ++ mismatchesOf contentHash call earlier) attempt.endpoint.url →
      attempt.outcome = .rejected
  asked : ∀ earlier attempt later, attempts = earlier ++ attempt :: later →
    ¬ Barred window threshold (history ++ mismatchesOf contentHash call earlier) attempt.endpoint.url →
      attempt.outcome = Outcome.ofAnswer (call.source earlier.length attempt.endpoint)
  /-- The first bytes with the hash of the manifest are returned. -/
  returned : ∀ resolved, result = .ok resolved ↔
    ∃ earlier, attempts = earlier ++ [⟨resolved.endpoint, .served resolved.bytes⟩] ∧
      contentHash resolved.bytes = call.manifest.contentHash ∧
      ∀ attempt ∈ earlier, attempt.verified contentHash call = none
  failed : (∃ e, result = .error e) ↔
    attempts.map (·.endpoint) = fetchOrder call.endpoints ∧
      ∀ attempt ∈ attempts, attempt.verified contentHash call = none
  /-- Each mirror that served other bytes is recorded once for it, and nothing else changes. -/
  recorded : after = (mismatchesOf contentHash call attempts).foldl MirrorBlacklist.record before

section Runs

variable (contentHash : ContentHash) (window : ℤ) (threshold : ℕ)

def trackerAfter (calls : List MirrorCall) : MirrorBlacklist :=
  StepRun.run (fun blacklist call => (call.resolve contentHash blacklist).2) (MirrorBlacklist.new window threshold)
    calls

/-- The mismatches that a run records. -/
def historyAfter (calls : List MirrorCall) : List Mismatch :=
  (StepRun.trace (fun blacklist call => (call.resolve contentHash blacklist).2)
    (fun blacklist call => mismatchesOf contentHash call (call.attempts contentHash blacklist))
    (MirrorBlacklist.new window threshold) calls).flatMap (·.2)

/-- Each call resolves by what was recorded before it, and the blacklist is what was recorded by then. -/
structure ResolvedThroughout (calls : List MirrorCall) : Prop where
  resolved : ∀ before call after, calls = before ++ call :: after →
    Resolved contentHash window threshold (historyAfter contentHash window threshold before) call
      (trackerAfter contentHash window threshold before) (trackerAfter contentHash window threshold (before ++ [call]))
      (call.resolve contentHash (trackerAfter contentHash window threshold before)).1
      (call.attempts contentHash (trackerAfter contentHash window threshold before))
  blacklisted : ∀ url, (trackerAfter contentHash window threshold calls).isBlacklisted url = true ↔
    Barred window threshold (historyAfter contentHash window threshold calls) url

end Runs

/-! ### One walk -/

section Walk

variable {contentHash : ContentHash} {call : MirrorCall} {position : ℕ} {ep : MirrorEndpoint}
  {rest endpoints : List MirrorEndpoint} {lastError : Option DistributionError} {blacklist : MirrorBlacklist}

variable {bytes : List UInt8} {attempt : Attempt}

/-- The call after the endpoints before `position`. -/
def MirrorCall.resolveFrom (contentHash : ContentHash) (self : MirrorCall) :
    ℕ → List MirrorEndpoint → Option DistributionError → MirrorBlacklist →
      Except DistributionError ResolvedBytes × MirrorBlacklist :=
  Distribution.resolveFrom contentHash self.manifest self.source self.now

theorem verified_eq_some_iff :
    attempt.verified contentHash call = some bytes ↔
      attempt.outcome = .served bytes ∧ contentHash bytes = call.manifest.contentHash := by
  obtain ⟨endpoint, outcome⟩ := attempt
  cases outcome with
  | rejected => simp [Attempt.verified]
  | failed e => simp [Attempt.verified]
  | served bytes' =>
    simp only [Attempt.verified, Option.ite_none_right_eq_some, Option.some.injEq, Outcome.served.injEq]
    constructor
    · rintro ⟨same, rfl⟩
      exact ⟨rfl, same⟩
    · rintro ⟨rfl, same⟩
      exact ⟨same, rfl⟩

/-- Bytes that end the walk are not recorded. -/
theorem mismatch_of_verified (verified : attempt.verified contentHash call = some bytes) :
    attempt.mismatch contentHash call = none := by
  obtain ⟨served, same⟩ := verified_eq_some_iff.mp verified
  simp [Attempt.mismatch, served, same]

/-- The walk ends with the first bytes that have the hash of the manifest. -/
theorem resolveFrom_of_verified
    (verified : (call.attemptAt position ep blacklist).verified contentHash call = some bytes) :
    call.resolveFrom contentHash position (ep :: rest) lastError blacklist = (.ok ⟨ep, bytes⟩, blacklist) := by
  obtain ⟨served, same⟩ := verified_eq_some_iff.mp verified
  rw [MirrorCall.attemptAt] at served
  rw [MirrorCall.resolveFrom, Distribution.resolveFrom]
  split at served
  · cases served
  · next free =>
    rw [MirrorBlacklist.preReject, if_neg free]
    dsimp only
    cases answer : call.source position ep with
    | error e =>
      rw [answer] at served
      cases served
    | ok bytes' =>
      rw [answer] at served
      cases served
      simp [verifyMirrorBytes, same]

/-- Any other attempt is noted and the walk goes on. -/
theorem resolveFrom_of_unverified
    (unverified : (call.attemptAt position ep blacklist).verified contentHash call = none) :
    ∃ e, call.resolveFrom contentHash position (ep :: rest) lastError blacklist =
      call.resolveFrom contentHash (position + 1) rest (some e)
        (blacklist.noted contentHash call (call.attemptAt position ep blacklist)) := by
  rw [MirrorCall.resolveFrom, Distribution.resolveFrom, MirrorBlacklist.preReject]
  by_cases listed : blacklist.isBlacklisted ep.url = true
  · rw [if_pos listed]
    simp only [MirrorBlacklist.noted, MirrorCall.attemptAt, if_pos listed, Attempt.mismatch]
    exact ⟨_, rfl⟩
  · rw [if_neg listed]
    simp only [MirrorCall.attemptAt, if_neg listed] at unverified ⊢
    cases answer : call.source position ep with
    | error e =>
      refine ⟨e, ?_⟩
      simp only [MirrorBlacklist.noted, Outcome.ofAnswer, Attempt.mismatch]
      rfl
    | ok bytes =>
      have other : contentHash bytes ≠ call.manifest.contentHash := by
        intro same
        rw [answer] at unverified
        simp [Attempt.verified, Outcome.ofAnswer, same] at unverified
      obtain ⟨message, refused⟩ := verifyMirrorBytes_of_ne other
      refine ⟨.hashMismatch message, ?_⟩
      simp only [refused, DistributionError.isHashMismatch, Bool.true_and, MirrorBlacklist.noted, Outcome.ofAnswer,
        Attempt.mismatch]
      by_cases origin : ep.semantic = .origin
      · rw [if_neg (by simp [origin]), if_neg (by simp [origin])]
        rfl
      · rw [if_pos (by simp [origin]), if_pos ⟨other, origin⟩]
        rfl

theorem attemptsFrom_of_verified
    (verified : (call.attemptAt position ep blacklist).verified contentHash call = some bytes) :
    call.attemptsFrom contentHash position (ep :: rest) blacklist = [call.attemptAt position ep blacklist] := by
  rw [MirrorCall.attemptsFrom, verified]
  rfl

theorem attemptsFrom_of_unverified
    (unverified : (call.attemptAt position ep blacklist).verified contentHash call = none) :
    call.attemptsFrom contentHash position (ep :: rest) blacklist =
      call.attemptAt position ep blacklist :: call.attemptsFrom contentHash (position + 1) rest
        (blacklist.noted contentHash call (call.attemptAt position ep blacklist)) := by
  rw [MirrorCall.attemptsFrom, unverified]
  rfl

theorem foldl_mismatchesOf_cons (attempt : Attempt) (attempts : List Attempt) :
    (mismatchesOf contentHash call (attempt :: attempts)).foldl MirrorBlacklist.record blacklist =
      (mismatchesOf contentHash call attempts).foldl MirrorBlacklist.record
        (blacklist.noted contentHash call attempt) := by
  rw [MirrorBlacklist.noted]
  cases mismatch : attempt.mismatch contentHash call with
  | none => rw [mismatchesOf, mismatchesOf, List.filterMap_cons_none mismatch, Option.elim_none]
  | some caught => rw [mismatchesOf, mismatchesOf, List.filterMap_cons_some mismatch, Option.elim_some, List.foldl_cons]

/-- What the walk does to the blacklist. -/
theorem resolveFrom_blacklist :
    (call.resolveFrom contentHash position endpoints lastError blacklist).2 =
      (mismatchesOf contentHash call (call.attemptsFrom contentHash position endpoints blacklist)).foldl
        MirrorBlacklist.record blacklist := by
  induction endpoints generalizing position lastError blacklist with
  | nil => rfl
  | cons ep rest ih =>
    cases verified : (call.attemptAt position ep blacklist).verified contentHash call with
    | some bytes =>
      rw [resolveFrom_of_verified verified, attemptsFrom_of_verified verified, mismatchesOf,
        List.filterMap_cons_none (mismatch_of_verified verified)]
      rfl
    | none =>
      obtain ⟨e, walked⟩ := @resolveFrom_of_unverified _ _ _ _ rest lastError _ verified
      rw [walked, ih, attemptsFrom_of_unverified verified, foldl_mismatchesOf_cons]

/-- Each attempt is made at its position, with what the attempts before it left of the blacklist. -/
theorem attemptsFrom_cut {earlier later : List Attempt}
    (split : call.attemptsFrom contentHash position endpoints blacklist = earlier ++ attempt :: later) :
    attempt = call.attemptAt (position + earlier.length) attempt.endpoint
      ((mismatchesOf contentHash call earlier).foldl MirrorBlacklist.record blacklist) := by
  induction endpoints generalizing position blacklist earlier with
  | nil => simp [MirrorCall.attemptsFrom] at split
  | cons ep rest ih =>
    cases earlier with
    | nil =>
      rw [MirrorCall.attemptsFrom, List.nil_append] at split
      obtain ⟨rfl, -⟩ := List.cons.inj split
      rfl
    | cons first earlier =>
      cases verified : (call.attemptAt position ep blacklist).verified contentHash call with
      | some bytes =>
        rw [attemptsFrom_of_verified verified, List.cons_append] at split
        simp at split
      | none =>
        rw [attemptsFrom_of_unverified verified, List.cons_append] at split
        obtain ⟨rfl, tail⟩ := List.cons.inj split
        rw [foldl_mismatchesOf_cons, List.length_cons, Nat.add_comm earlier.length, ← Nat.add_assoc]
        exact ih tail

theorem attemptsFrom_inOrder :
    (call.attemptsFrom contentHash position endpoints blacklist).map (·.endpoint) <+: endpoints := by
  induction endpoints generalizing position blacklist with
  | nil => exact List.nil_prefix
  | cons ep rest ih =>
    cases verified : (call.attemptAt position ep blacklist).verified contentHash call with
    | some bytes =>
      rw [attemptsFrom_of_verified verified]
      exact ⟨rest, rfl⟩
    | none =>
      rw [attemptsFrom_of_unverified verified, List.map_cons]
      exact List.prefix_cons_inj _ |>.mpr ih

/-- A walk returns what its last attempt was served, or fails after all of them. -/
theorem resolveFrom_result :
    (∃ earlier endpoint bytes, call.attemptsFrom contentHash position endpoints blacklist =
        earlier ++ [⟨endpoint, .served bytes⟩] ∧ contentHash bytes = call.manifest.contentHash ∧
        (∀ attempt ∈ earlier, attempt.verified contentHash call = none) ∧
        (call.resolveFrom contentHash position endpoints lastError blacklist).1 = .ok ⟨endpoint, bytes⟩) ∨
      ((call.attemptsFrom contentHash position endpoints blacklist).map (·.endpoint) = endpoints ∧
        (∀ attempt ∈ call.attemptsFrom contentHash position endpoints blacklist,
          attempt.verified contentHash call = none) ∧
        ∃ e, (call.resolveFrom contentHash position endpoints lastError blacklist).1 = .error e) := by
  induction endpoints generalizing position lastError blacklist with
  | nil => exact .inr ⟨rfl, List.forall_mem_nil _, _, rfl⟩
  | cons ep rest ih =>
    cases verified : (call.attemptAt position ep blacklist).verified contentHash call with
    | some bytes =>
      obtain ⟨served, same⟩ := verified_eq_some_iff.mp verified
      refine .inl ⟨[], ep, bytes, ?_, same, List.forall_mem_nil _, ?_⟩
      · rw [attemptsFrom_of_verified verified, ← served]
        rfl
      · rw [resolveFrom_of_verified verified]
    | none =>
      obtain ⟨e, walked⟩ := @resolveFrom_of_unverified _ _ _ _ rest lastError _ verified
      rw [walked, attemptsFrom_of_unverified verified]
      obtain ⟨earlier, endpoint, bytes, attempts, same, none_before, result⟩ | ⟨all, none_verified, failed⟩ := ih
      · refine .inl ⟨_ :: earlier, endpoint, bytes, ?_, same, List.forall_mem_cons.mpr ⟨verified, none_before⟩, result⟩
        rw [attempts, List.cons_append]
      · exact .inr ⟨by rw [List.map_cons, all]; rfl, List.forall_mem_cons.mpr ⟨verified, none_verified⟩, failed⟩

theorem time_of_mem_mismatchesOf {attempts : List Attempt} {mismatch : Mismatch}
    (member : mismatch ∈ mismatchesOf contentHash call attempts) : mismatch.time = call.now := by
  obtain ⟨attempt, -, recorded⟩ := List.mem_filterMap.mp member
  rw [Attempt.mismatch] at recorded
  split at recorded
  · obtain ⟨-, same⟩ := Option.ite_none_right_eq_some.mp recorded
    cases same
    rfl
  · cases recorded

/-- Without endpoints the call fails before the walk. -/
theorem resolve_of_isEmpty (none_listed : fetchOrder call.endpoints = []) :
    ∃ e, call.resolve contentHash blacklist = (.error e, blacklist) := by
  rw [MirrorCall.resolve, resolveAndVerify, none_listed]
  exact ⟨_, rfl⟩

theorem resolve_of_ne (listed : fetchOrder call.endpoints ≠ []) :
    call.resolve contentHash blacklist = call.resolveFrom contentHash 0 (fetchOrder call.endpoints) none blacklist :=
  if_neg fun empty => listed (List.isEmpty_iff.mp empty)

theorem resolve_blacklist : (call.resolve contentHash blacklist).2 =
    (mismatchesOf contentHash call (call.attempts contentHash blacklist)).foldl MirrorBlacklist.record blacklist := by
  by_cases empty : fetchOrder call.endpoints = []
  · obtain ⟨e, failed⟩ := @resolve_of_isEmpty contentHash call blacklist empty
    rw [failed, MirrorCall.attempts, empty]
    rfl
  · rw [resolve_of_ne empty, resolveFrom_blacklist]
    rfl

/-- A call returns the first body that verifies, or has tried every endpoint and fails. -/
theorem resolve_result : (∃ earlier endpoint bytes, call.attempts contentHash blacklist =
      earlier ++ [⟨endpoint, .served bytes⟩] ∧ contentHash bytes = call.manifest.contentHash ∧
      (∀ attempt ∈ earlier, attempt.verified contentHash call = none) ∧
      (call.resolve contentHash blacklist).1 = .ok ⟨endpoint, bytes⟩) ∨
    ((call.attempts contentHash blacklist).map (·.endpoint) = fetchOrder call.endpoints ∧
      (∀ attempt ∈ call.attempts contentHash blacklist, attempt.verified contentHash call = none) ∧
      ∃ e, (call.resolve contentHash blacklist).1 = .error e) := by
  by_cases empty : fetchOrder call.endpoints = []
  · obtain ⟨e, failed⟩ := @resolve_of_isEmpty contentHash call blacklist empty
    refine .inr ⟨?_, ?_, e, by rw [failed]⟩ <;> rw [MirrorCall.attempts, empty, MirrorCall.attemptsFrom]
    · rfl
    · exact List.forall_mem_nil _
  · rw [resolve_of_ne empty]
    exact resolveFrom_result

end Walk

/-! ### What the blacklist has kept -/

section Tracking

variable {contentHash : ContentHash} {window : ℤ} {threshold : ℕ} {history : List Mismatch}
  {blacklist : MirrorBlacklist} {call : MirrorCall}

variable {mismatch : Mismatch} (before : List MirrorCall)

/-- The blacklist holds what the last window of each mirror reaches, and lists the mirrors that are barred. -/
structure Tracks (window : ℤ) (threshold : ℕ) (history : List Mismatch) (blacklist : MirrorBlacklist) : Prop where
  window_eq : blacklist.window = window
  threshold_eq : blacklist.threshold = threshold
  kept : ∀ url, (blacklist.mismatches.lookup url).getD [] =
    SlidingWindow.current (within window) (timesOf url history)
  barred : ∀ url, blacklist.isBlacklisted url = true ↔ Barred window threshold history url

theorem tracks_new : Tracks window threshold [] (MirrorBlacklist.new window threshold) where
  window_eq := rfl
  threshold_eq := rfl
  kept _ := rfl
  barred _ := iff_of_false (by simp [MirrorBlacklist.new, MirrorBlacklist.isBlacklisted])
    (SlidingWindow.not_filled_nil threshold)

theorem within_narrowing : SlidingWindow.Narrowing (within window) := by
  intro last later time before reached
  have later_reaches : later.val - window ≤ time.val := of_decide_eq_true reached
  have moved : last.val ≤ later.val := before
  exact decide_eq_true (Int.le_trans (Int.sub_le_sub_right moved window) later_reaches)

theorem timesOf_append_same (mismatch : Mismatch) :
    timesOf mismatch.url (history ++ [mismatch]) = timesOf mismatch.url history ++ [mismatch.time] := by
  simp [timesOf]

theorem timesOf_append_other {url : String} (other : url ≠ mismatch.url) :
    timesOf url (history ++ [mismatch]) = timesOf url history := by
  simp [timesOf, Ne.symm other]

/-- What is stored for the mirror of a mismatch: its times and the new one, those before the cutoff removed. -/
def timesKept (blacklist : MirrorBlacklist) (mismatch : Mismatch) : List UtcTime :=
  (((blacklist.mismatches.lookup mismatch.url).getD []) ++ [mismatch.time]).filter fun ts =>
    (subSignedOrMin mismatch.time blacklist.window).val ≤ ts.val

theorem record_bounds (blacklist : MirrorBlacklist) (mismatch : Mismatch) :
    (blacklist.record mismatch).window = blacklist.window ∧
      (blacklist.record mismatch).threshold = blacklist.threshold ∧
      (blacklist.record mismatch).mismatches =
        blacklist.mismatches.insert mismatch.url (timesKept blacklist mismatch) := by
  rw [MirrorBlacklist.record, MirrorBlacklist.recordMismatch]
  split <;> exact ⟨rfl, rfl, rfl⟩

/-- Recording lists the mirror of the mismatch if enough of its times are kept, and no other. -/
theorem isBlacklisted_record (blacklist : MirrorBlacklist) (mismatch : Mismatch) (url : String) :
    (blacklist.record mismatch).isBlacklisted url = true ↔
      blacklist.isBlacklisted url = true ∨
        url = mismatch.url ∧ blacklist.threshold ≤ (timesKept blacklist mismatch).length := by
  rw [MirrorBlacklist.record, MirrorBlacklist.recordMismatch, timesKept]
  dsimp only
  split
  · next reached =>
    simp only [MirrorBlacklist.isBlacklisted, Table.lookup_insert_eq]
    split
    · next same => exact iff_of_true rfl (.inr ⟨same, reached⟩)
    · next other => simp [other]
  · next unreached => exact (or_iff_left fun here => unreached here.2).symm

/-- The times that are kept are those of the current window, unless it starts past the last instant. -/
theorem Tracks.timesKept_eq (tracks : Tracks window threshold history blacklist)
    (ordered : ∀ time ∈ timesOf mismatch.url history, time ≤ mismatch.time)
    (fits : mismatch.time.val - window ≤ MAX_UTC) :
    timesKept blacklist mismatch =
      SlidingWindow.current (within window) (timesOf mismatch.url (history ++ [mismatch])) := by
  obtain ⟨rfl, rfl, kept, barred⟩ := tracks
  rw [timesOf_append_same, ← SlidingWindow.filter_current_append within_narrowing ordered, timesKept, kept]
  apply List.filter_congr
  intro time _
  exact decide_eq_decide.mpr (subSignedOrMin_le_iff fits)

/-- Recording a mismatch keeps track of it, unless the start of the window lies past the last instant. -/
theorem Tracks.record (tracks : Tracks window threshold history blacklist)
    (sorted : ∀ earlier ∈ history, earlier.time ≤ mismatch.time) (fits : mismatch.time.val - window ≤ MAX_UTC) :
    Tracks window threshold (history ++ [mismatch]) (blacklist.record mismatch) := by
  have ordered : ∀ time ∈ timesOf mismatch.url history, time ≤ mismatch.time := by
    intro time listed
    obtain ⟨earlier, member, rfl⟩ := List.mem_map.mp listed
    exact sorted earlier (List.mem_filter.mp member).1
  have kept_here := tracks.timesKept_eq ordered fits
  obtain ⟨rfl, rfl, kept, barred⟩ := tracks
  obtain ⟨sameWindow, sameThreshold, stored⟩ := record_bounds blacklist mismatch
  have filled := @SlidingWindow.filled_append_singleton _ _ (within blacklist.window) _ _ blacklist.threshold ordered
  rw [← timesOf_append_same] at filled
  refine ⟨sameWindow, sameThreshold, ?_, ?_⟩
  · intro url
    rw [stored, kept_here, Table.lookup_insert_eq]
    split
    · next same => rw [same, Option.getD_some]
    · next other => rw [timesOf_append_other other, kept]
  · intro url
    rw [isBlacklisted_record, kept_here, barred]
    by_cases same : url = mismatch.url
    · subst same
      rw [Barred, Barred, filled]
      exact or_congr_right (and_iff_right rfl)
    · rw [Barred, Barred, timesOf_append_other same]
      exact or_iff_left fun here => same here.1

/-- Mismatches of one moment. -/
theorem Tracks.foldl {mismatches : List Mismatch} {now : UtcTime} (tracks : Tracks window threshold history blacklist)
    (sorted : ∀ earlier ∈ history, earlier.time ≤ now) (at_now : ∀ mismatch ∈ mismatches, mismatch.time = now)
    (fits : now.val - window ≤ MAX_UTC) :
    Tracks window threshold (history ++ mismatches) (mismatches.foldl MirrorBlacklist.record blacklist) := by
  induction mismatches generalizing history blacklist with
  | nil => rwa [List.append_nil]
  | cons first rest ih =>
    obtain ⟨rfl, later⟩ := List.forall_mem_cons.mp at_now
    rw [List.append_cons, List.foldl_cons]
    refine ih (tracks.record sorted fits) ?_ later
    intro earlier member
    rcases List.mem_append.mp member with before | same
    · exact sorted earlier before
    · rw [List.mem_singleton.mp same]

/-- A call on a blacklist that has kept track resolves by what was recorded. -/
theorem Tracks.resolved (tracks : Tracks window threshold history blacklist)
    (sorted : ∀ earlier ∈ history, earlier.time ≤ call.now) (fits : call.now.val - window ≤ MAX_UTC) :
    Resolved contentHash window threshold history call blacklist (call.resolve contentHash blacklist).2
      (call.resolve contentHash blacklist).1 (call.attempts contentHash blacklist) := by
  have met : ∀ earlier attempt later, call.attempts contentHash blacklist = earlier ++ attempt :: later →
      attempt = call.attemptAt earlier.length attempt.endpoint
        ((mismatchesOf contentHash call earlier).foldl MirrorBlacklist.record blacklist) ∧
      Tracks window threshold (history ++ mismatchesOf contentHash call earlier)
        ((mismatchesOf contentHash call earlier).foldl MirrorBlacklist.record blacklist) := by
    intro earlier attempt later split
    have cut := attemptsFrom_cut split
    rw [Nat.zero_add] at cut
    exact ⟨cut, tracks.foldl sorted (fun _ => time_of_mem_mismatchesOf) fits⟩
  have outcomes := @resolve_result contentHash call blacklist
  refine ⟨attemptsFrom_inOrder, ?_, ?_, ?_, ?_, resolve_blacklist⟩
  · intro earlier attempt later split barred
    obtain ⟨here, tracked⟩ := met earlier attempt later split
    rw [here, MirrorCall.attemptAt, if_pos ((tracked.barred _).mpr barred)]
  · intro earlier attempt later split free
    obtain ⟨here, tracked⟩ := met earlier attempt later split
    have unlisted := fun listed => free ((tracked.barred _).mp listed)
    conv_lhs => rw [here, MirrorCall.attemptAt, if_neg unlisted]
  · intro resolved
    obtain ⟨earlier, endpoint, bytes, attempts, same, unverified, result⟩ | ⟨-, unverified, e, result⟩ := outcomes
    · rw [result, attempts]
      constructor
      · rintro ⟨⟩
        exact ⟨earlier, rfl, same, unverified⟩
      · rintro ⟨earlier', split, -, -⟩
        obtain ⟨-, last⟩ := List.append_inj' split rfl
        cases last
        rfl
    · rw [result]
      refine iff_of_false (by simp) ?_
      rintro ⟨earlier, split, same, -⟩
      have none_here := unverified ⟨resolved.endpoint, .served resolved.bytes⟩
        (by rw [split]; exact List.mem_concat_self)
      rw [verified_eq_some_iff.mpr ⟨rfl, same⟩] at none_here
      cases none_here
  · obtain ⟨earlier, endpoint, bytes, attempts, same, unverified, result⟩ | ⟨all, unverified, failed⟩ := outcomes
    · rw [result]
      refine iff_of_false (by simp) ?_
      rintro ⟨-, none_verified⟩
      have none_here := none_verified ⟨endpoint, .served bytes⟩ (by rw [attempts]; exact List.mem_concat_self)
      rw [verified_eq_some_iff.mpr ⟨rfl, same⟩] at none_here
      cases none_here
    · exact iff_of_true failed ⟨all, unverified⟩

theorem trackerAfter_append_singleton :
    trackerAfter contentHash window threshold (before ++ [call]) =
      (call.resolve contentHash (trackerAfter contentHash window threshold before)).2 := by
  rw [trackerAfter, StepRun.run_append]
  rfl

theorem historyAfter_append_singleton :
    historyAfter contentHash window threshold (before ++ [call]) =
      historyAfter contentHash window threshold before ++
        mismatchesOf contentHash call
          (call.attempts contentHash (trackerAfter contentHash window threshold before)) := by
  rw [historyAfter, StepRun.trace_append_singleton, List.flatMap_append, List.flatMap_singleton]
  rfl

/-- The steps of a run keep track of what it records. -/
theorem tracks_run {calls : List MirrorCall} (sorted : calls.Pairwise fun earlier later => earlier.now ≤ later.now)
    (fits : ∀ call ∈ calls, call.now.val - window ≤ MAX_UTC) : ∀ before, before <+: calls →
      Tracks window threshold (historyAfter contentHash window threshold before)
        (trackerAfter contentHash window threshold before) ∧
      ∀ mismatch ∈ historyAfter contentHash window threshold before, ∃ call ∈ before, mismatch.time = call.now := by
  apply StepRun.run_invariant_along fun before blacklist =>
    Tracks window threshold (historyAfter contentHash window threshold before) blacklist ∧
      ∀ mismatch ∈ historyAfter contentHash window threshold before, ∃ call ∈ before, mismatch.time = call.now
  · exact ⟨tracks_new, List.forall_mem_nil _⟩
  · rintro before call after split ⟨tracks, times⟩
    have ordered : ∀ earlier ∈ before, earlier.now ≤ call.now := by
      rw [split] at sorted
      exact fun earlier member => (List.pairwise_append.mp sorted).2.2 earlier member call List.mem_cons_self
    have earlier_times : ∀ mismatch ∈ historyAfter contentHash window threshold before, mismatch.time ≤ call.now := by
      intro mismatch member
      obtain ⟨earlier, listed, same⟩ := times mismatch member
      exact same ▸ ordered earlier listed
    have here : call.now.val - window ≤ MAX_UTC := by
      apply fits
      rw [split]
      exact List.mem_append_right before List.mem_cons_self
    rw [historyAfter_append_singleton]
    constructor
    · rw [resolve_blacklist]
      exact tracks.foldl earlier_times (fun _ => time_of_mem_mismatchesOf) here
    · intro mismatch member
      rcases List.mem_append.mp member with recorded | latest
      · obtain ⟨earlier, listed, same⟩ := times mismatch recorded
        exact ⟨earlier, List.mem_append_left _ listed, same⟩
      · exact ⟨call, List.mem_concat_self, time_of_mem_mismatchesOf latest⟩

end Tracking

/-- A run of calls in the order of time, none of which has a window that starts past the last instant,
resolves throughout by the mismatches recorded before. -/
theorem resolvedThroughout (contentHash : ContentHash) (window : ℤ) (threshold : ℕ) (calls : List MirrorCall)
    (sorted : calls.Pairwise fun earlier later => earlier.now ≤ later.now)
    (fits : ∀ call ∈ calls, call.now.val - window ≤ MAX_UTC) :
    ResolvedThroughout contentHash window threshold calls := by
  refine ⟨?_, (tracks_run sorted fits calls (List.prefix_refl calls)).1.barred⟩
  rintro before call after rfl
  have tracked := @tracks_run contentHash window threshold _ sorted fits before ⟨call :: after, rfl⟩
  rw [trackerAfter_append_singleton]
  apply tracked.1.resolved
  · intro mismatch member
    obtain ⟨earlier, listed, same⟩ := tracked.2 mismatch member
    exact same ▸ (List.pairwise_append.mp sorted).2.2 earlier listed call List.mem_cons_self
  · exact fits call (List.mem_append_right before List.mem_cons_self)

/-! #### A run -/

/-- The first 16 bytes of the BLAKE3 hash of no bytes. -/
def emptyContentHash : ContentHash := fun _ => "af1349b9f5f9a1a6a0404dea36dcc949"

/-- One mirror, which serves no bytes, for a manifest that names another hash. -/
def tamperedCall (now : UtcTime) : MirrorCall where
  manifest := InstallRequest.exampleManifest
  endpoints := [⟨"mirror", .local⟩]
  source _ _ := .ok []
  now := now

/-- Three mismatches within a day. -/
theorem resolvedThroughout_tampered : ResolvedThroughout emptyContentHash (seconds (24 * 3600)) 3
    [tamperedCall ⟨0, by decide⟩, tamperedCall ⟨seconds 3600, by decide⟩, tamperedCall ⟨seconds 3600, by decide⟩] :=
  resolvedThroughout emptyContentHash (seconds (24 * 3600)) 3 _ (by decide +kernel) (by decide +kernel)

/-- A window of minus one millisecond ends before it starts and holds nothing, but at the last instant its
start is out of range, all timestamps are kept, and the mirror is blacklisted. -/
theorem blacklisted_in_empty_window :
    ¬ ResolvedThroughout emptyContentHash (-1000000) 1 [tamperedCall ⟨MAX_UTC, by decide⟩] := by
  intro throughout
  have listed : (trackerAfter emptyContentHash (-1000000) 1 [tamperedCall ⟨MAX_UTC, by decide⟩]).isBlacklisted
      "mirror" = true := by decide +kernel
  obtain ⟨last, recorded, full⟩ := (throughout.blacklisted "mirror").mp listed
  have history : historyAfter emptyContentHash (-1000000) 1 [tamperedCall ⟨MAX_UTC, by decide⟩] =
      [⟨"mirror", ⟨MAX_UTC, by decide⟩⟩] := by decide +kernel
  rw [history] at recorded full
  obtain rfl := List.mem_singleton.mp recorded
  exact absurd full (by decide +kernel)

end Aios.Distribution
