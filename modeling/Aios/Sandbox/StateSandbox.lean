import Aios.Lib.LexicalPath
import Aios.Rust.Path
import Aios.Sandbox.Hierarchy

/-! # The state sandbox of a capsule

The embedding of `check_access` and what it rests on in `state_sandbox.rs`. A capsule owns the subtree
under its state root, less an explicit deny-list; containment is `Path::starts_with`, a comparison of
components as they are written.

What that comparison is for is stated in lexical places: the target, once its parents are taken, lies
under the root and under no denied path. The comparison does not take the parents, so `..` after the
root leads out of it and `..` on the way to a denied path leads past the deny-list.
`access_contained_iff` says for which requests the answer is right all the same.
-/

namespace Aios.Sandbox

open Aios.Rust LexicalPath

/-! ## Vocabulary -/

inductive FilePermission where
  | read
  | write
  | execute
deriving DecidableEq

inductive AccessMode where
  | readOnly
  | readWrite
  | deny
deriving DecidableEq

def AccessMode.label : AccessMode → String
  | readOnly => "read-only"
  | readWrite => "read-write"
  | deny => "deny"

/-- `Display for CapsuleId`. -/
def displayCapsule (capsuleId : CapsuleId) : String := s!"capsule-{capsuleId}"

/-- The private state root for a single capsule. -/
structure CapsuleStateRoot where
  capsuleId : CapsuleId
  rootPath : Path

namespace CapsuleStateRoot

/-- The convention `/capsule/{id}`. -/
def fromCapsuleId (id : CapsuleId) : CapsuleStateRoot := ⟨id, OsString.ofString s!"/capsule/{id}"⟩

def contains (self : CapsuleStateRoot) (path : Path) : Bool := path.startsWith self.rootPath

end CapsuleStateRoot

structure SandboxViolation where
  capsuleId : CapsuleId
  targetPath : String
  operation : FilePermission
  reason : String
  timestampSecs : ℕ
deriving DecidableEq

/-- A clock before the epoch counts as the epoch. -/
def SandboxViolation.new (capsuleId : CapsuleId) (targetPath : String) (operation : FilePermission)
    (reason : String) (now : DateTime) : SandboxViolation :=
  ⟨capsuleId, targetPath, operation, reason, (now / seconds 1).toNat⟩

structure StateSandbox where
  violations : List SandboxViolation
  stateRoot : Option CapsuleStateRoot
  deniedPaths : List Path

namespace StateSandbox

section

variable (self : StateSandbox)

/-! ## Operations -/

/-- `with_root`, which asserts that the root is the capsule's own. -/
def withRoot (capsuleId : CapsuleId) (stateRoot : CapsuleStateRoot) : Option StateSandbox :=
  if capsuleId = stateRoot.capsuleId then some ⟨[], some stateRoot, []⟩ else none

def denyPath (path : Path) : StateSandbox :=
  { self with deniedPaths := self.deniedPaths ++ [path] }

/-- Every refusal is returned and appended to the violation log. -/
def refuse (capsuleId : CapsuleId) (target : Path) (reason : String) (now : DateTime) :
    Except SandboxViolation Unit × StateSandbox :=
  let violation := SandboxViolation.new capsuleId (OsString.toStringLossy target) .read reason now
  (.error violation, { self with violations := self.violations ++ [violation] })

/-- Whether a path of the deny-list covers the target. -/
def isDenied (target : Path) : Bool :=
  self.deniedPaths.any fun denied => target.startsWith denied || target.same denied

def checkAccess (capsuleId : CapsuleId) (target : Path) (mode : AccessMode) (now : DateTime) :
    Except SandboxViolation Unit × StateSandbox :=
  let ownerId := (self.stateRoot.map CapsuleStateRoot.capsuleId).getD capsuleId
  if capsuleId ≠ ownerId then
    self.refuse capsuleId target
      ("cross-capsule access denied: capsule " ++ displayCapsule capsuleId ++ " attempted " ++ mode.label ++
        " access to " ++ target.display) now
  else if mode = .deny then
    self.refuse capsuleId target ("access denied by AccessMode::Deny for " ++ target.display) now
  else
    match self.stateRoot.filter (fun root => !root.contains target) with
    | some root =>
      self.refuse capsuleId target
        ("path " ++ target.display ++ " is outside capsule root " ++ root.rootPath.display) now
    | none =>
      if self.isDenied target then
        self.refuse capsuleId target ("path " ++ target.display ++ " is in explicit deny-list") now
      else (.ok (), self)

/-- The request passes the four tests, in the order in which they are made. -/
structure Passes (sandbox : StateSandbox) (root : CapsuleStateRoot) (capsuleId : CapsuleId) (target : Path)
    (mode : AccessMode) : Prop where
  owner : capsuleId = root.capsuleId
  asked : mode ≠ .deny
  inside : root.contains target = true
  allowed : sandbox.isDenied target = false

end

section Answers

variable {self : StateSandbox} {root : CapsuleStateRoot} {capsuleId : CapsuleId} {target : Path}
  {mode : AccessMode} {now : DateTime}

theorem checkAccess_of_passes (owned : self.stateRoot = some root) (passes : self.Passes root capsuleId target mode) :
    self.checkAccess capsuleId target mode now = (.ok (), self) := by
  simp [checkAccess, owned, passes.owner, passes.asked, passes.inside, passes.allowed, Option.filter]

/-- A request that fails a test is refused, and the log has grown by the violation that is returned. -/
theorem checkAccess_of_not_passes (owned : self.stateRoot = some root)
    (fails : ¬self.Passes root capsuleId target mode) (now : DateTime) :
    ∃ reason, self.checkAccess capsuleId target mode now = self.refuse capsuleId target reason now := by
  by_cases owner : capsuleId = root.capsuleId
  · by_cases asked : mode = .deny
    · exact ⟨_, by simp [checkAccess, owned, owner, asked]; rfl⟩
    · by_cases inside : root.contains target = true
      · have denied : self.isDenied target = true := by
          by_contra allowed
          exact fails ⟨owner, asked, inside, by simpa using allowed⟩
        exact ⟨_, by simp [checkAccess, owned, owner, asked, inside, denied, Option.filter]; rfl⟩
      · exact ⟨_, by simp [checkAccess, owned, owner, asked, inside, Option.filter]; rfl⟩
  · exact ⟨_, by simp [checkAccess, owned, owner]; rfl⟩

theorem checkAccess_eq_ok_iff (owned : self.stateRoot = some root) :
    (self.checkAccess capsuleId target mode now).1 = .ok () ↔ self.Passes root capsuleId target mode := by
  by_cases passes : self.Passes root capsuleId target mode
  · simp [checkAccess_of_passes owned passes, passes]
  · obtain ⟨reason, refused⟩ := checkAccess_of_not_passes owned passes now
    simp [refused, refuse, passes]

theorem Passes.elsewhere {sandbox : StateSandbox} (passes : sandbox.Passes root capsuleId target mode)
    {denied : Path} (listed : denied ∈ sandbox.deniedPaths) : target.startsWith denied = false := by
  have nowhere := List.any_eq_false.mp passes.allowed denied listed
  simp only [Bool.or_eq_true, not_or, Bool.not_eq_true] at nowhere
  exact nowhere.1

end Answers

end StateSandbox

section

variable {path target base : Path}

/-! ## Places of paths -/

/-- The turn a component takes; the root and a leading `.` take none. -/
def turn : Component → Option (Turn OsString)
  | .rootDir | .curDir => none
  | .parentDir => some .up
  | .normal name => some (.down name)

def turns (path : Path) : List (Turn OsString) := path.components.filterMap turn

/-- Where a path starts: the root, or the working directory. -/
def origin (path : Path) : Place OsString := ⟨if path.hasRoot then .root else .above 0, []⟩

/-- The place a path leads to, its lexical normal form. -/
def place (path : Path) : Place OsString := (origin path).walk (turns path)

theorem under_origin {upper : Place OsString} (under : (origin path).Under upper) : origin path = upper :=
  under.eq_of_names_eq_nil rfl

/-- A walk changes neither what is absolute nor what is relative. -/
theorem anchor_walk_eq_root_iff (start : Place OsString) (path : List (Turn OsString)) :
    (start.walk path).anchor = .root ↔ start.anchor = .root := by
  induction path generalizing start with
  | nil => rfl
  | cons first rest ih =>
    rw [Place.walk_cons, ih]
    cases first with
    | down name => rfl
    | up =>
      unfold Place.turn
      split_ifs with bare
      · cases start.anchor <;> simp [Anchor.parent]
      · rfl

theorem hasRoot_iff_place (path : Path) : path.hasRoot = true ↔ (place path).anchor = .root := by
  rw [place, anchor_walk_eq_root_iff, origin]
  split_ifs with absolute <;> simp [absolute]

/-- Only paths of one kind are under one another. -/
theorem hasRoot_eq_of_under {upper : Path} (under : (place path).Under (place upper)) :
    path.hasRoot = upper.hasRoot := by
  rw [Bool.eq_iff_iff, hasRoot_iff_place, hasRoot_iff_place, under.1]

/-! ## Paths without parents -/

theorem turns_of_startsWith (starts : path.startsWith base = true) : turns base <+: turns path := by
  obtain ⟨rest, whole⟩ := List.isPrefixOf_iff_prefix.mp starts
  exact ⟨rest.filterMap turn, by rw [turns, turns, ← List.filterMap_append, whole]⟩

def component : Turn OsString → Component
  | .up => .parentDir
  | .down name => .normal name

theorem parsed_eq_map (pieces : List OsString) :
    pieces.filterMap Path.parseComponent =
      ((pieces.filterMap Path.parseComponent).filterMap turn).map component := by
  induction pieces with
  | nil => rfl
  | cons piece pieces ih =>
    by_cases silent : piece = [] ∨ piece = [Path.DOT]
    · rw [List.filterMap_cons_none (by rw [Path.parseComponent, if_pos silent])]
      exact ih
    · by_cases parent : piece = [Path.DOT, Path.DOT]
      · rw [List.filterMap_cons_some (by rw [Path.parseComponent, if_neg silent, if_pos parent])]
        exact congrArg (Component.parentDir :: ·) ih
      · rw [List.filterMap_cons_some (by rw [Path.parseComponent, if_neg silent, if_neg parent])]
        exact congrArg (Component.normal piece :: ·) ih

/-- Of an absolute path, the turns are all there is. -/
theorem components_eq (absolute : path.hasRoot = true) : path.components = .rootDir :: (turns path).map component := by
  simp only [turns, Path.components, Path.leading, if_pos absolute, List.singleton_append, List.filterMap_cons, turn]
  rw [← parsed_eq_map]

theorem hasRoot_of_mem (member : .rootDir ∈ path.components) : path.hasRoot = true := by
  by_contra relative
  rw [Path.components, List.mem_append, Path.leading, if_neg relative, parsed_eq_map] at member
  rcases member with first | parsed
  · split_ifs at first <;> simp at first
  · obtain ⟨step, -, named⟩ := List.mem_map.mp parsed
    cases step <;> simp [component] at named

theorem startsWith_iff (absolute : path.hasRoot = true) (absolute' : base.hasRoot = true) :
    path.startsWith base = true ↔ turns base <+: turns path := by
  refine ⟨turns_of_startsWith, fun ⟨rest, whole⟩ => ?_⟩
  rw [Path.startsWith, List.isPrefixOf_iff_prefix, components_eq absolute, components_eq absolute', ← whole]
  exact ⟨rest.map component, by simp⟩

/-- Without parents the turns are names. -/
theorem exists_turns_eq (plain : .parentDir ∉ path.components) :
    ∃ names : List OsString, turns path = names.map .down := by
  unfold turns
  generalize path.components = written at plain
  induction written with
  | nil => exact ⟨[], rfl⟩
  | cons first rest ih =>
    obtain ⟨different, plain⟩ := not_or.mp (List.mem_cons.not.mp plain)
    obtain ⟨names, down⟩ := ih plain
    cases first with
    | rootDir => exact ⟨names, down⟩
    | curDir => exact ⟨names, down⟩
    | parentDir => exact absurd rfl different
    | normal name => exact ⟨name :: names, congrArg (Turn.down name :: ·) down⟩

/-- For two absolute paths without parents, the test is what it is for. -/
theorem under_iff_startsWith (absolute : path.hasRoot = true) (plain : .parentDir ∉ path.components)
    (plain' : .parentDir ∉ base.components) (absolute' : base.hasRoot = true) :
    (place path).Under (place base) ↔ path.startsWith base = true := by
  obtain ⟨names, down⟩ := exists_turns_eq plain
  obtain ⟨names', down'⟩ := exists_turns_eq plain'
  rw [startsWith_iff absolute absolute', place, place, down, down', Place.walk_map_down, Place.walk_map_down,
    origin, origin, absolute, absolute']
  simp [Place.Under, List.prefix_map_iff_of_injective fun _ _ => Turn.down.inj]

/-! ## Targets below the root and past the deny-list -/

/-- What the target names after the root leads back to the root, and never climbs above it from there
on. Mostly it has not left the root, and the way back is empty. -/
def StaysIn (root target : Path) : Prop :=
  target.hasRoot = root.hasRoot ∧ ∃ back after, turns target = turns root ++ back ++ after ∧
    (place root).walk back = place root ∧ staysBelow 0 after = true

/-- A first part of the target leads to the denied path without being written like it, and the rest never
climbs above it. -/
def Detours (denied target : Path) : Prop :=
  ∃ before after, target.components = before ++ after ∧ before ≠ denied.components ∧
    (origin target).walk (before.filterMap turn) = place denied ∧ staysBelow 0 (after.filterMap turn) = true

theorem place_under_root_iff {root : Path} (starts : target.startsWith root = true) :
    (place target).Under (place root) ↔ StaysIn root target := by
  obtain ⟨rest, whole⟩ := turns_of_startsWith starts
  have below (kind : target.hasRoot = root.hasRoot) : place target = (place root).walk rest := by
    rw [place, place, ← whole, Place.walk_append, origin, origin, kind]
  constructor
  · intro under
    have kind := hasRoot_eq_of_under under
    rw [below kind] at under
    obtain ⟨back, after, rfl, comes, stays⟩ := (Place.under_walk_iff fun _ => rfl).mp under
    exact ⟨kind, back, after, by rw [← whole, List.append_assoc], comes, stays⟩
  · rintro ⟨kind, back, after, split, comes, stays⟩
    have same : rest = back ++ after :=
      List.append_cancel_left (whole.trans (split.trans (List.append_assoc _ _ _)))
    rw [below kind]
    exact (Place.under_walk_iff fun _ => rfl).mpr ⟨back, after, same, comes, stays⟩

/-- A target that is not written below a denied path is below it by a detour. -/
theorem place_under_denied_iff {denied : Path} (elsewhere : target.startsWith denied = false) :
    (place target).Under (place denied) ↔ Detours denied target := by
  rw [place, Place.under_walk_iff under_origin]
  constructor
  · rintro ⟨before, after, split, comes, stays⟩
    obtain ⟨written, rest, whole, rfl, rfl⟩ := List.filterMap_eq_append_iff.mp split
    refine ⟨written, rest, whole, ?_, comes, stays⟩
    rintro rfl
    have starts : target.startsWith denied = true :=
      List.isPrefixOf_iff_prefix.mpr ⟨rest, whole.symm⟩
    exact absurd starts (by simp [elsewhere])
  · rintro ⟨before, after, whole, _, comes, stays⟩
    exact ⟨_, _, by rw [turns, whole, List.filterMap_append], comes, stays⟩

/-- The target lies under the root and under no denied path. -/
def Contained (root : CapsuleStateRoot) (deniedPaths : List Path) (target : Path) : Prop :=
  (place target).Under (place root.rootPath) ∧
    ∀ denied ∈ deniedPaths, ¬(place target).Under (place denied)

instance (root : CapsuleStateRoot) (deniedPaths : List Path) (target : Path) :
    Decidable (Contained root deniedPaths target) :=
  inferInstanceAs (Decidable (_ ∧ _))

end

namespace StateSandbox

/-- A request is answered rightly exactly when, if it passes the tests, its target stays in the root and
comes to no denied path by a detour. -/
theorem access_contained_iff (violations : List SandboxViolation) (root : CapsuleStateRoot)
    (deniedPaths : List Path) (capsuleId : CapsuleId) (target : Path) (mode : AccessMode) (now : DateTime) :
    ((checkAccess ⟨violations, some root, deniedPaths⟩ capsuleId target mode now).1 = .ok () →
        Contained root deniedPaths target) ↔
      (Passes ⟨violations, some root, deniedPaths⟩ root capsuleId target mode →
        StaysIn root.rootPath target ∧ ∀ denied ∈ deniedPaths, ¬Detours denied target) := by
  rw [checkAccess_eq_ok_iff rfl]
  refine forall_congr' fun passes => and_congr (place_under_root_iff passes.inside) ?_
  exact forall₂_congr fun denied listed => not_congr (place_under_denied_iff (passes.elsewhere listed))

/-- Capsule 7 reads a file of capsule 8, and one below a path that is denied to it. -/
theorem access_not_contained :
    ∃ sandbox : StateSandbox, withRoot 7 (.fromCapsuleId 7) = some sandbox ∧
      ((sandbox.checkAccess 7 (OsString.ofString "/capsule/7/../8/secrets.txt") .readOnly 0).1 = .ok () ∧
        ¬Contained (.fromCapsuleId 7) sandbox.deniedPaths (OsString.ofString "/capsule/7/../8/secrets.txt")) ∧
      (((sandbox.denyPath (OsString.ofString "/capsule/7/secrets")).checkAccess 7
          (OsString.ofString "/capsule/7/data/../secrets/key.pem") .readOnly 0).1 = .ok () ∧
        ¬Contained (.fromCapsuleId 7) (sandbox.denyPath (OsString.ofString "/capsule/7/secrets")).deniedPaths
          (OsString.ofString "/capsule/7/data/../secrets/key.pem")) :=
  ⟨_, rfl, by decide +kernel⟩

/-- Where nothing is written with a parent, an absolute root contains what is let through. -/
theorem contained_of_plain {sandbox : StateSandbox} {root : CapsuleStateRoot} {capsuleId : CapsuleId}
    {target : Path} {mode : AccessMode} {now : DateTime} (owned : sandbox.stateRoot = some root)
    (absolute : root.rootPath.hasRoot = true) (plain : .parentDir ∉ target.components)
    (deniedPlain : ∀ denied ∈ sandbox.deniedPaths, .parentDir ∉ denied.components)
    (granted : (sandbox.checkAccess capsuleId target mode now).1 = .ok ()) :
    Contained root sandbox.deniedPaths target := by
  have passes := (checkAccess_eq_ok_iff owned).mp granted
  have starts : root.rootPath.components <+: target.components := List.isPrefixOf_iff_prefix.mp passes.inside
  have targetAbsolute : target.hasRoot = true :=
    hasRoot_of_mem (starts.subset (by simp [components_eq absolute]))
  refine ⟨?_, ?_⟩
  · refine (under_iff_startsWith targetAbsolute plain (fun parent => ?_) absolute).mpr passes.inside
    exact plain (starts.subset parent)
  · intro denied listed under
    have deniedAbsolute := (hasRoot_eq_of_under under).symm.trans targetAbsolute
    have named := (under_iff_startsWith targetAbsolute plain (deniedPlain denied listed) deniedAbsolute).mp under
    exact absurd named (by simp [passes.elsewhere listed])

theorem contained_of_plain_file : Contained (.fromCapsuleId 7) [OsString.ofString "/capsule/7/secrets"]
    (OsString.ofString "/capsule/7/data") :=
  @contained_of_plain ⟨[], some (.fromCapsuleId 7), [_]⟩ _ 7 _ .readOnly 0 rfl (by decide +kernel)
    (by decide +kernel) (by decide +kernel) (by decide +kernel)

end StateSandbox

end Aios.Sandbox
