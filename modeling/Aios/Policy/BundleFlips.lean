import Aios.Lib.Succession
import Aios.Policy.Kernel
import Mathlib.Algebra.Order.Group.Multiset
import Mathlib.Data.List.Permutation
import Mathlib.Tactic.Abel

/-! # Flips of the active bundle under two locks

The active bundle and the rollback stack are behind locks of their own, and a call takes them one after
the other: `set_active_bundle` the slot and then the stack, `rollback_active_bundle` the stack and then
the slot. Calls whose second sections come in the order of their first ones, and no call of the other
kind between, have the effect of the same calls one after another.

The override grants are cleared last in each call, behind a third lock; that section touches neither the
slot nor the stack and is left out.
-/

namespace Aios.Policy

open Succession (Flip)

namespace PolicyKernel

variable (self : PolicyKernel)

/-- The active bundle and the bundles displaced. -/
def succession : Succession PolicyBundle := ⟨self.activeBundle, self.rollbackStack⟩

def flip : Flip PolicyBundle → PolicyKernel
  | .set bundle => (self.setActiveBundle bundle).2
  | .rollback => self.rollbackActiveBundle.2

/-- The kernel after calls that follow one another. -/
def flips (order : List (Flip PolicyBundle)) : PolicyKernel := StepRun.run flip self order

/-! ## Calls one after another -/

/-- Both ways of pushing drop the oldest bundle of a full stack. -/
theorem push_eq (capacity : ℕ) (stack : List PolicyBundle) (displaced : PolicyBundle) :
    (if capacity ≤ stack.length ∧ stack ≠ [] then stack.drop 1 else stack) ++ [displaced] =
      Succession.push capacity stack displaced := by
  cases stack with
  | nil => simp [Succession.push]
  | cons oldest rest => simp [Succession.push]

theorem succession_flip (flip : Flip PolicyBundle) :
    (self.flip flip).succession = self.succession.flip self.rollbackCapacity flip ∧
      (self.flip flip).rollbackCapacity = self.rollbackCapacity := by
  cases flip with
  | set bundle =>
    rw [PolicyKernel.flip, setActiveBundle]
    cases active : self.activeBundle with
    | none => simp [succession, Succession.flip, clearGrants, active]
    | some displaced => simp [succession, Succession.flip, clearGrants, active, ← push_eq]
  | rollback =>
    rw [PolicyKernel.flip, rollbackActiveBundle]
    cases top : self.rollbackStack.getLast? with
    | none => simp [succession, Succession.flip, top]
    | some restored => simp [succession, Succession.flip, clearGrants, top]

theorem succession_flips (order : List (Flip PolicyBundle)) :
    (self.flips order).succession = self.succession.run self.rollbackCapacity order := by
  induction order generalizing self with
  | nil => rfl
  | cons flip rest ih =>
    obtain ⟨flipped, capacity⟩ := self.succession_flip flip
    change ((self.flip flip).flips rest).succession = _
    rw [ih, flipped, capacity]
    rfl

/-! ## The sections -/

/-- `slot.replace(bundle)`. -/
def replaceActive (bundle : PolicyBundle) : PolicyKernel :=
    { self with activeBundle := some bundle }

/-- Push a displaced bundle. -/
def pushDisplaced (displaced : PolicyBundle) : PolicyKernel :=
  { self with
    rollbackStack := (if self.rollbackCapacity ≤ self.rollbackStack.length ∧ self.rollbackStack ≠ [] then
      self.rollbackStack.drop 1 else self.rollbackStack) ++ [displaced] }

/-- `stack.pop()`. -/
def popDisplaced : PolicyKernel := { self with rollbackStack := self.rollbackStack.dropLast }

/-- The bundle that a push drops. -/
def evicted : List PolicyBundle :=
  if self.rollbackCapacity ≤ self.rollbackStack.length ∧ self.rollbackStack ≠ [] then self.rollbackStack.take 1 else []

end PolicyKernel

/-- The second section of a call that has been through its first. -/
inductive HalfFlip where
  | push (previous : PolicyBundle)
  | install (restored : PolicyBundle)

def HalfFlip.bundle : HalfFlip → PolicyBundle
  | .push previous => previous
  | .install restored => restored

/-- A section behind one lock: the first of `set_active_bundle`, the first of `rollback_active_bundle`, or the
second of a call under way. -/
inductive FlipSection where
  | setSlot (bundle : PolicyBundle)
  | popStack
  | finish (call : ℕ)

/-- The call that a section begins. -/
def FlipSection.call? : FlipSection → Option (Flip PolicyBundle)
  | .setSlot bundle => some (.set bundle)
  | .popStack => some .rollback
  | .finish _ => none

/-- The bundle that a section brings in. -/
def FlipSection.bundle? : FlipSection → Option PolicyBundle
  | .setSlot bundle => some bundle
  | _ => none

/-- The kernel, the calls between their two sections from the oldest on, and the bundles that are gone:
dropped from a full stack or displaced by a rollback. -/
structure Flipping where
  kernel : PolicyKernel
  underWay : List HalfFlip
  gone : List PolicyBundle

namespace Flipping

variable {first slot : Option PolicyBundle} {calls : List (Flip PolicyBundle)} {bundles previous : List PolicyBundle}
  (kernel : PolicyKernel) (self : Flipping) (sections : List FlipSection)

def step : FlipSection → Flipping
  | .setSlot bundle =>
    match self.kernel.activeBundle with
    | none => { self with kernel := self.kernel.replaceActive bundle }
    | some previous =>
      { self with kernel := self.kernel.replaceActive bundle, underWay := self.underWay ++ [.push previous] }
  | .popStack =>
    match self.kernel.rollbackStack.getLast? with
    | none => self
    | some restored =>
      { self with kernel := self.kernel.popDisplaced, underWay := self.underWay ++ [.install restored] }
  | .finish call =>
    match self.underWay[call]? with
    | none => self
    | some (.push previous) =>
      ⟨self.kernel.pushDisplaced previous, self.underWay.eraseIdx call, self.gone ++ self.kernel.evicted⟩
    | some (.install restored) =>
      ⟨self.kernel.replaceActive restored, self.underWay.eraseIdx call, self.gone ++ self.kernel.activeBundle.toList⟩

def run (sections : List FlipSection) : Flipping := StepRun.run step ⟨kernel, [], []⟩ sections

/-- A call to set begins while no rollback is under way, a rollback that finds a bundle begins while no call to set
is, and the calls under way end in the order in which they began. -/
def InTurn : FlipSection → Prop
  | .setSlot _ => ∀ half ∈ self.underWay, ∃ previous, half = .push previous
  | .popStack => self.kernel.rollbackStack ≠ [] → ∀ half ∈ self.underWay, ∃ restored, half = .install restored
  | .finish call => self.underWay[call]? ≠ none → call = 0

/-- The sections of a call to set, one after the other, are the call. -/
theorem sections_eq_setActiveBundle (bundle : PolicyBundle) :
    (run kernel [.setSlot bundle, .finish 0]).underWay = [] ∧
      (run kernel [.setSlot bundle, .finish 0]).kernel.succession = (kernel.setActiveBundle bundle).2.succession := by
  unfold PolicyKernel.setActiveBundle
  simp only [run, StepRun.run_cons, StepRun.run_nil, step]
  cases active : kernel.activeBundle with
  | none => exact ⟨rfl, rfl⟩
  | some previous => exact ⟨rfl, rfl⟩

theorem sections_eq_rollbackActiveBundle :
    (run kernel [.popStack, .finish 0]).underWay = [] ∧
      (run kernel [.popStack, .finish 0]).kernel.succession = kernel.rollbackActiveBundle.2.succession := by
  unfold PolicyKernel.rollbackActiveBundle
  simp only [run, StepRun.run_cons, StepRun.run_nil, step]
  cases top : kernel.rollbackStack.getLast? with
  | none => exact ⟨rfl, rfl⟩
  | some restored => exact ⟨rfl, rfl⟩

/-! ## No bundle is lost or duplicated -/

/-- All bundles, wherever they are. -/
def present : List PolicyBundle :=
  self.kernel.activeBundle.toList ++ self.kernel.rollbackStack ++ self.underWay.map HalfFlip.bundle ++ self.gone

theorem pushDisplaced_perm (displaced : PolicyBundle) :
    ((kernel.pushDisplaced displaced).rollbackStack ++ kernel.evicted).Perm (displaced :: kernel.rollbackStack) := by
  unfold PolicyKernel.pushDisplaced PolicyKernel.evicted
  dsimp only
  split
  · rw [List.append_assoc, List.singleton_append]
    refine List.perm_middle.trans (List.Perm.cons displaced ?_)
    refine List.perm_append_comm.trans (.of_eq ?_)
    exact List.take_append_drop 1 _
  · rw [List.append_nil]
    exact List.perm_append_singleton _ _

theorem eraseIdx_perm {items : List HalfFlip} {index : ℕ} {item : HalfFlip} (found : items[index]? = some item) :
    (item.bundle :: (items.eraseIdx index).map HalfFlip.bundle).Perm (items.map HalfFlip.bundle) := by
  obtain ⟨inside, rfl⟩ := List.getElem?_eq_some_iff.mp found
  exact (List.getElem_cons_eraseIdx_perm inside).map HalfFlip.bundle

theorem coe_present : (self.present : Multiset PolicyBundle) =
    self.kernel.activeBundle.toList + self.kernel.rollbackStack + self.underWay.map HalfFlip.bundle + self.gone := by
  simp only [present, ← Multiset.coe_add]

theorem present_setSlot (bundle : PolicyBundle) :
    ((self.step (.setSlot bundle)).present : Multiset PolicyBundle) = self.present + {bundle} := by
  obtain ⟨kernel, underWay, gone⟩ := self
  rw [step, coe_present, coe_present]
  dsimp only
  cases active : kernel.activeBundle with
  | none =>
    simp only [PolicyKernel.replaceActive, Option.toList_none, Option.toList_some, Multiset.coe_nil,
      Multiset.coe_singleton]
    abel
  | some previous =>
    simp only [PolicyKernel.replaceActive, Option.toList_some, List.map_append, List.map_cons, List.map_nil,
      HalfFlip.bundle, ← Multiset.coe_add, Multiset.coe_singleton]
    abel

theorem present_popStack : ((self.step .popStack).present : Multiset PolicyBundle) = self.present := by
  obtain ⟨kernel, underWay, gone⟩ := self
  rw [step]
  dsimp only
  cases top : kernel.rollbackStack.getLast? with
  | none => rfl
  | some restored =>
    have split : (kernel.rollbackStack : Multiset PolicyBundle) = kernel.rollbackStack.dropLast + {restored} := by
      rw [← Multiset.coe_singleton, Multiset.coe_add, List.dropLast_append_getLast? restored top]
    rw [coe_present, coe_present, split]
    simp only [PolicyKernel.popDisplaced, List.map_append, List.map_cons, List.map_nil, HalfFlip.bundle,
      ← Multiset.coe_add, Multiset.coe_singleton]
    abel

theorem present_finish (call : ℕ) : ((self.step (.finish call)).present : Multiset PolicyBundle) = self.present := by
  obtain ⟨kernel, underWay, gone⟩ := self
  rw [step]
  dsimp only
  cases found : underWay[call]? with
  | none => rfl
  | some half =>
    have taken : ({half.bundle} : Multiset PolicyBundle) + (underWay.eraseIdx call).map HalfFlip.bundle =
        underWay.map HalfFlip.bundle := by
      rw [Multiset.singleton_add, Multiset.cons_coe]
      exact Multiset.coe_eq_coe.mpr (eraseIdx_perm found)
    cases half with
    | push previous =>
      have pushed : ((kernel.pushDisplaced previous).rollbackStack : Multiset PolicyBundle) + kernel.evicted =
          {previous} + kernel.rollbackStack := by
        rw [Multiset.coe_add, Multiset.singleton_add, Multiset.cons_coe]
        exact Multiset.coe_eq_coe.mpr (pushDisplaced_perm kernel previous)
      have slot : (kernel.pushDisplaced previous).activeBundle = kernel.activeBundle := rfl
      rw [coe_present, coe_present]
      dsimp only
      rw [slot]
      calc
        _ = (kernel.activeBundle.toList : Multiset PolicyBundle) +
            ((kernel.pushDisplaced previous).rollbackStack + kernel.evicted) +
            (underWay.eraseIdx call).map HalfFlip.bundle + gone := by
          rw [← Multiset.coe_add]
          abel
        _ = kernel.activeBundle.toList + kernel.rollbackStack +
            ({previous} + (underWay.eraseIdx call).map HalfFlip.bundle) + gone := by
          rw [pushed]
          abel
        _ = _ := congrArg (_ + · + _) taken
    | install restored =>
      rw [coe_present, coe_present]
      simp only [PolicyKernel.replaceActive, Option.toList_some, ← Multiset.coe_add, Multiset.coe_singleton]
      calc
        _ = (kernel.activeBundle.toList : Multiset PolicyBundle) + kernel.rollbackStack +
            ({restored} + (underWay.eraseIdx call).map HalfFlip.bundle) + gone := by abel
        _ = _ := congrArg (_ + · + _) taken

/-- Every section keeps the bundles, and adds the one it brings in. -/
theorem present_step (input : FlipSection) : (self.step input).present.Perm (self.present ++ input.bundle?.toList) := by
  rw [← Multiset.coe_eq_coe, ← Multiset.coe_add]
  cases input with
  | setSlot bundle => exact self.present_setSlot bundle
  | popStack => exact self.present_popStack.trans (add_zero _).symm
  | finish call => exact (self.present_finish call).trans (add_zero _).symm

theorem present_run :
    (run kernel sections).present.Perm
      (kernel.activeBundle.toList ++ kernel.rollbackStack ++ sections.filterMap FlipSection.bundle?) := by
  have kept (self : Flipping) : (StepRun.run step self sections).present.Perm
      (self.present ++ sections.filterMap FlipSection.bundle?) := by
    induction sections generalizing self with
    | nil => exact .of_eq (List.append_nil _).symm
    | cons input rest ih =>
      refine (ih (self.step input)).trans (((self.present_step input).append_right _).trans (.of_eq ?_))
      rw [List.append_assoc]
      cases given : input.bundle? <;> simp [given]
  refine (kept ⟨kernel, [], []⟩).trans (.of_eq ?_)
  simp [present]

/-! ## Serial orders -/

/-- The calls under way beside a serial order: calls to set whose bundles have replaced one another in the slot, still
to come in the order; or rollbacks that are in it, the bundle of the last one being due in the slot. -/
inductive Pending (serial : Succession PolicyBundle) (slot : Option PolicyBundle) (underWay : List HalfFlip)
    (pending : List (Flip PolicyBundle)) : Prop
  | sets (previous bundles : List PolicyBundle) (pushes : underWay = previous.map .push)
      (sets : pending = bundles.map .set)
      (chain : serial.active :: bundles.map some = previous.map some ++ [slot])
  | rollbacks (earlier : List PolicyBundle) (last : PolicyBundle)
      (installs : underWay = (earlier ++ [last]).map .install)
      (sets : pending = []) (due : serial.active = some last)

/-- The calls in a serial order, where a call to set comes when it pushes and a rollback when it pops. -/
def Serialized (calls : List (Flip PolicyBundle)) (self : Flipping) : Prop :=
  self.kernel.rollbackCapacity = kernel.rollbackCapacity ∧ ∃ order pending,
    (kernel.succession.run kernel.rollbackCapacity order).held = self.kernel.rollbackStack ∧
      Pending (kernel.succession.run kernel.rollbackCapacity order) self.kernel.activeBundle self.underWay pending ∧
      (order ++ pending).Perm calls

theorem run_append_flip (line : Succession PolicyBundle) (capacity : ℕ) (order : List (Flip PolicyBundle))
    (flip : Flip PolicyBundle) : line.run capacity (order ++ [flip]) = (line.run capacity order).flip capacity flip :=
  StepRun.run_append _ _ _ _

/-- With no call under way the slot is that of the serial order. -/
theorem Pending.active_eq {serial : Succession PolicyBundle} {pending : List (Flip PolicyBundle)}
    (none_ : Pending serial slot [] pending) : serial.active = slot ∧ pending = [] := by
  cases none_ with
  | sets previous bundles pushes sets chain =>
    obtain rfl := List.map_eq_nil_iff.mp pushes.symm
    rw [List.map_nil, List.nil_append, List.cons_eq_cons, List.map_eq_nil_iff] at chain
    obtain ⟨same, rfl⟩ := chain
    exact ⟨same, sets⟩
  | rollbacks earlier last installs sets due => simp at installs

/-- The chain of bundles that have replaced one another is as long as that of the replaced ones. -/
theorem length_of_chain (chain : first :: bundles.map some = previous.map some ++ [slot]) :
    bundles.length = previous.length := by
  have lengths := congrArg List.length chain
  simpa using lengths

theorem eq_nil_of_chain_none (chain : first :: bundles.map some = previous.map some ++ [none]) : bundles = [] := by
  obtain empty | ⟨earlier, last, rfl⟩ := List.eq_nil_or_concat bundles
  · exact empty
  · rw [List.concat_eq_append, List.map_append, ← List.cons_append, List.map_singleton] at chain
    have ends := (List.append_inj' chain rfl).2
    cases ends

theorem Serialized.setSlot {kernel : PolicyKernel} {self : Flipping} (serialized : Serialized kernel calls self)
    {bundle : PolicyBundle} (inTurn : self.InTurn (.setSlot bundle)) :
    Serialized kernel (calls ++ [.set bundle]) (self.step (.setSlot bundle)) := by
  obtain ⟨current, underWay, gone⟩ := self
  obtain ⟨capacity, order, pending, stack, halfway, perm⟩ := serialized
  dsimp only at capacity stack halfway
  cases halfway with
  | sets previous bundles pushes sets chain =>
    subst pushes sets
    rw [step]
    dsimp only
    cases active : current.activeBundle with
    | none =>
      -- a slot that is empty at the end of the chain has been so from its beginning
      rw [active] at chain
      obtain rfl := eq_nil_of_chain_none chain
      obtain rfl := List.length_eq_zero_iff.mp (length_of_chain chain).symm
      have empty : (kernel.succession.run kernel.rollbackCapacity order).active = none := List.head_eq_of_cons_eq chain
      refine ⟨capacity, order ++ [.set bundle], [], ?_, .sets [] [] rfl rfl ?_, ?_⟩
      · rw [run_append_flip, Succession.flip, empty]
        exact stack
      · rw [run_append_flip]
        rfl
      · rw [List.append_nil]
        exact (List.append_nil order ▸ perm).append_right _
    | some displaced =>
      rw [active] at chain
      refine ⟨capacity, order, (bundles ++ [bundle]).map .set, stack,
        .sets (previous ++ [displaced]) (bundles ++ [bundle]) (by simp) rfl ?_, ?_⟩
      · rw [List.map_append, List.map_append, ← List.cons_append, chain]
        rfl
      · rw [List.map_append, ← List.append_assoc]
        exact perm.append_right _
  | rollbacks earlier last installs sets due =>
    subst installs
    obtain ⟨previous, clash⟩ := inTurn (.install last) (by simp)
    cases clash

theorem Serialized.popStack {kernel : PolicyKernel} {self : Flipping} (serialized : Serialized kernel calls self)
    (inTurn : self.InTurn .popStack) : Serialized kernel (calls ++ [.rollback]) (self.step .popStack) := by
  obtain ⟨current, underWay, gone⟩ := self
  obtain ⟨capacity, order, pending, stack, halfway, perm⟩ := serialized
  dsimp only at capacity stack halfway
  rw [step]
  dsimp only
  have later : (order ++ [Flip.rollback] ++ pending).Perm (calls ++ [Flip.rollback]) := by
    rw [List.append_assoc, List.singleton_append]
    exact List.perm_middle.trans ((List.Perm.cons _ perm).trans (List.perm_append_singleton _ _).symm)
  cases top : current.rollbackStack.getLast? with
  | none =>
    have same : kernel.succession.run kernel.rollbackCapacity (order ++ [.rollback]) =
        kernel.succession.run kernel.rollbackCapacity order := by
      rw [run_append_flip, Succession.flip, stack, top]
      rfl
    exact ⟨capacity, order ++ [.rollback], pending, by rw [same]; exact stack, by rw [same]; exact halfway, later⟩
  | some restored =>
    have popped : kernel.succession.run kernel.rollbackCapacity (order ++ [.rollback]) =
        ⟨some restored, current.rollbackStack.dropLast⟩ := by
      rw [run_append_flip, Succession.flip, stack, top]
      rfl
    have installs := inTurn (by rintro empty; rw [empty] at top; cases top)
    cases halfway with
    | sets previous bundles pushes sets chain =>
      subst pushes
      obtain rfl : previous = [] := by
        cases previous with
        | nil => rfl
        | cons first rest =>
          obtain ⟨bundle, clash⟩ := installs (.push first) List.mem_cons_self
          cases clash
      obtain rfl := List.length_eq_zero_iff.mp (length_of_chain chain)
      refine ⟨capacity, order ++ [.rollback], [], by rw [popped]; rfl,
        .rollbacks [] restored rfl rfl (by rw [popped]), ?_⟩
      rw [sets] at later
      exact later
    | rollbacks earlier last all sets due =>
      subst all
      refine ⟨capacity, order ++ [.rollback], pending, by rw [popped]; rfl,
        .rollbacks (earlier ++ [last]) restored (by simp) sets (by rw [popped]), later⟩

theorem Serialized.finish {kernel : PolicyKernel} {self : Flipping} (serialized : Serialized kernel calls self)
    {call : ℕ} (inTurn : self.InTurn (.finish call)) : Serialized kernel calls (self.step (.finish call)) := by
  cases found : self.underWay[call]? with
  | none =>
    rw [step, found]
    exact serialized
  | some half =>
    obtain rfl : call = 0 := inTurn (by rw [found]; exact Option.some_ne_none half)
    obtain ⟨current, underWay, gone⟩ := self
    obtain ⟨capacity, order, pending, stack, halfway, perm⟩ := serialized
    dsimp only at capacity stack halfway found
    cases halfway with
    | sets previous bundles pushes sets chain =>
      subst pushes sets
      cases previous with
      | nil => cases found
      | cons displaced others =>
        obtain rfl : half = .push displaced := (Option.some.inj found).symm
        cases bundles with
        | nil => cases length_of_chain chain
        | cons bundle rest =>
          obtain ⟨active, tail⟩ := List.cons_eq_cons.mp chain
          have pushed : kernel.succession.run kernel.rollbackCapacity (order ++ [.set bundle]) =
              ⟨some bundle, (current.pushDisplaced displaced).rollbackStack⟩ := by
            rw [run_append_flip, Succession.flip, active, stack, PolicyKernel.pushDisplaced,
              PolicyKernel.push_eq, capacity]
            rfl
          refine ⟨capacity, order ++ [.set bundle], rest.map .set, by rw [pushed]; rfl,
            .sets others rest rfl rfl (by rw [pushed]; exact tail), ?_⟩
          rw [List.append_assoc]
          exact perm
    | rollbacks earlier last installs sets due =>
      subst installs
      cases earlier with
      | nil =>
        obtain rfl : half = .install last := (Option.some.inj found).symm
        refine ⟨capacity, order, pending, stack, .sets [] [] rfl sets ?_, perm⟩
        rw [due]
        rfl
      | cons first rest =>
        obtain rfl : half = .install first := (Option.some.inj found).symm
        exact ⟨capacity, order, pending, stack, .rollbacks rest last rfl sets due, perm⟩

theorem Serialized.step {kernel : PolicyKernel} {calls : List (Flip PolicyBundle)} {self : Flipping}
    (serialized : Serialized kernel calls self) {input : FlipSection} (inTurn : self.InTurn input) :
    Serialized kernel (calls ++ input.call?.toList) (self.step input) := by
  cases input with
  | setSlot bundle => exact serialized.setSlot inTurn
  | popStack => exact serialized.popStack inTurn
  | finish call =>
    rw [FlipSection.call?, Option.toList_none, List.append_nil]
    exact serialized.finish inTurn

theorem serialized_run {kernel : PolicyKernel} {sections : List FlipSection}
    (inTurn : ∀ before input after, sections = before ++ input :: after → (run kernel before).InTurn input) :
    Serialized kernel (sections.filterMap FlipSection.call?) (run kernel sections) := by
  refine @StepRun.run_invariant_along _ _ step (fun before => Serialized kernel (before.filterMap FlipSection.call?))
    ⟨kernel, [], []⟩ sections ?_ ?_ sections List.prefix_rfl
  · exact ⟨rfl, [], [], rfl, .sets [] [] rfl rfl rfl, List.Perm.nil⟩
  · intro before input after split serialized
    have next := serialized.step (inTurn before input after split)
    rw [List.filterMap_append]
    cases begun : input.call? <;> simpa [begun] using next

/-- Calls whose sections come in turn have the effect of the same calls in a serial order; and in whatever order the
sections come, every bundle is in the slot, on the stack, or gone by a full stack or a rollback. -/
theorem flips_linearizable
    (inTurn : ∀ before input after, sections = before ++ input :: after → (run kernel before).InTurn input)
    (ended : (run kernel sections).underWay = []) :
    (∃ order : List (Flip PolicyBundle), order.Perm (sections.filterMap FlipSection.call?) ∧
      (run kernel sections).kernel.activeBundle = (kernel.flips order).activeBundle ∧
      (run kernel sections).kernel.rollbackStack = (kernel.flips order).rollbackStack) ∧
    ((run kernel sections).kernel.activeBundle.toList ++ (run kernel sections).kernel.rollbackStack ++
        (run kernel sections).gone).Perm
      (kernel.activeBundle.toList ++ kernel.rollbackStack ++ sections.filterMap FlipSection.bundle?) := by
  constructor
  · obtain ⟨-, order, pending, stack, halfway, perm⟩ := serialized_run inTurn
    rw [ended] at halfway
    obtain ⟨active, rfl⟩ := halfway.active_eq
    rw [List.append_nil] at perm
    have serial := kernel.succession_flips order
    exact ⟨order, perm, active.symm.trans (congrArg Succession.active serial.symm),
      stack.symm.trans (congrArg Succession.held serial.symm)⟩
  · have kept := present_run kernel sections
    rw [present, ended, List.map_nil, List.append_nil] at kept
    exact kept

/-- A bundle with no more to it than its version. -/
def versioned (bundleVersion : String) : PolicyBundle := ⟨bundleVersion, bundleVersion, 0, ""⟩

/-- A kernel that has loaded one bundle. -/
def loadedOnce : PolicyKernel := { activeBundle := some (versioned "v1") }

/-- Two calls to set that overlap and push in turn, and a rollback after them. -/
def inOrder : List FlipSection :=
  [.setSlot (versioned "v2"), .setSlot (versioned "v3"), .finish 0, .finish 0, .popStack, .finish 0]

theorem flips_inOrder :
    (∃ order : List (Flip PolicyBundle), order.Perm (inOrder.filterMap FlipSection.call?) ∧
      (run loadedOnce inOrder).kernel.activeBundle = (loadedOnce.flips order).activeBundle ∧
      (run loadedOnce inOrder).kernel.rollbackStack = (loadedOnce.flips order).rollbackStack) ∧
    ((run loadedOnce inOrder).kernel.activeBundle.toList ++ (run loadedOnce inOrder).kernel.rollbackStack ++
        (run loadedOnce inOrder).gone).Perm
      (loadedOnce.activeBundle.toList ++ loadedOnce.rollbackStack ++ inOrder.filterMap FlipSection.bundle?) := by
  have inTurn : StepRun.Along step InTurn ⟨loadedOnce, [], []⟩ inOrder := by
    refine ⟨?_, ?_, fun _ => rfl, fun _ => rfl, ?_, fun _ => rfl, trivial⟩
    · intro half member
      cases member
    · intro half member
      obtain rfl := List.mem_singleton.mp member
      exact ⟨versioned "v1", rfl⟩
    · intro _ half member
      cases member
  exact flips_linearizable loadedOnce inOrder ((StepRun.along_iff_cut _ _ _ _).mp inTurn) rfl

/-- The two calls push in the order opposite to that in which they went through the slot. -/
def outOfOrder : List FlipSection := [.setSlot (versioned "v2"), .setSlot (versioned "v3"), .finish 1, .finish 0]

/-- The bundle displaced last lies below the one displaced before it, which no serial order does. -/
theorem flips_not_linearizable :
    ¬∀ (kernel : PolicyKernel) (sections : List FlipSection), (run kernel sections).underWay = [] →
      ∃ order : List (Flip PolicyBundle), order.Perm (sections.filterMap FlipSection.call?) ∧
        (run kernel sections).kernel.activeBundle = (kernel.flips order).activeBundle ∧
        (run kernel sections).kernel.rollbackStack = (kernel.flips order).rollbackStack := by
  intro linearizable
  obtain ⟨order, perm, -, stack⟩ := linearizable loadedOnce outOfOrder rfl
  obtain rfl | rfl := List.perm_pair.mp perm
  · exact absurd stack (by decide)
  · exact absurd stack (by decide)

end Flipping

end Aios.Policy
