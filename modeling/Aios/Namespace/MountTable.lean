import Aios.Capability.TokenTree
import Aios.Lib.Delimited
import Aios.Lib.Insertion
import Aios.Rust.Path

/-! # Namespace paths and the mount table

The embedding of `NamespacePath`: the canonical text of an absolute path, each component behind a slash,
and the empty text for the root. The prefix test compares the texts of two paths and the byte that comes
next; it holds exactly if the components of one are the first components of the other.
-/

namespace Aios.Namespace

open Aios.Rust

/-- A component is not empty, `.` or `..`. -/
def validComponent (component : List Char) : Bool := !(component == [] || component == ['.'] || component == ['.', '.'])

/-- The texts that `NamespacePath` stores. -/
def isCanonical : List Char → Bool
  | [] => true
  | c :: rest => c == '/' && (rest.splitOn '/').all validComponent

structure NamespacePath where
  text : String
  canonical : isCanonical text.toList = true
deriving DecidableEq

namespace NamespacePath

section

variable {raw : String} (self : NamespacePath)

def root : NamespacePath := ⟨"", rfl⟩

/-- One trailing slash is stripped. -/
def stripSuffix (raw : List Char) : List Char := if raw.getLast? = some '/' then raw.dropLast else raw

theorem exists_cons_of_absolute (absolute : startsWith raw "/" = true) : ∃ rest, raw.toList = '/' :: rest := by
  rw [startsWith] at absolute
  obtain ⟨rest, whole⟩ := List.isPrefixOf_iff_prefix.mp absolute
  exact ⟨rest, whole.symm⟩

/-- What is left of an absolute path still begins with a slash. -/
theorem isCanonical_stripSuffix (absolute : startsWith raw "/" = true) (nonempty : stripSuffix raw.toList ≠ [])
    (valid : (((stripSuffix raw.toList).drop 1).splitOn '/').all validComponent = true) :
    isCanonical (String.ofList (stripSuffix raw.toList)).toList = true := by
  obtain ⟨rest, whole⟩ := exists_cons_of_absolute absolute
  have slash : ∃ rest, stripSuffix raw.toList = '/' :: rest := by
    rw [whole] at nonempty ⊢
    unfold stripSuffix at nonempty ⊢
    split_ifs with trailing
    · rw [if_pos trailing] at nonempty
      cases rest with
      | nil => exact absurd rfl nonempty
      | cons next rest => exact ⟨(next :: rest).dropLast, rfl⟩
    · exact ⟨rest, rfl⟩
  obtain ⟨rest, stripped⟩ := slash
  rw [stripped] at valid
  rw [String.toList_ofList, stripped]
  exact valid

def new (raw : String) : Option NamespacePath :=
  if raw = "" then none
  else if absolute : startsWith raw "/" = true then
    if raw = "/" then some root
    else if nonempty : stripSuffix raw.toList = [] then none
    else if valid : (((stripSuffix raw.toList).drop 1).splitOn '/').all validComponent = true then
      some ⟨String.ofList (stripSuffix raw.toList), isCanonical_stripSuffix absolute nonempty valid⟩
    else none
  else none

def asStr : String := if self.text = "" then "/" else self.text

def components : List (List Char) :=
  if self.text = "" then [] else (self.text.toList.drop 1).splitOn '/'

def isPrefixOf (other : NamespacePath) : Bool :=
  if self.asStr = other.asStr then true
  else if self.asStr = "/" then true
  else startsWith other.asStr self.asStr &&
    (OsString.ofString other.asStr)[(OsString.ofString self.asStr).length]? == some Path.SEPARATOR

/-! ## Components -/

end

variable {self other : NamespacePath}

/-- The root, or components of which the first is behind a slash. -/
theorem text_cases (self : NamespacePath) :
    self = root ∨ ∃ rest, self.text.toList = '/' :: rest ∧ self.components = rest.splitOn '/' ∧
      (rest.splitOn '/').all validComponent = true := by
  have canonical := self.canonical
  cases whole : self.text.toList with
  | nil =>
    have empty : self.text = "" := String.toList_eq_nil_iff.mp whole
    left
    cases self
    cases empty
    rfl
  | cons c rest =>
    rw [whole] at canonical
    obtain ⟨slash, valid⟩ := Bool.and_eq_true_iff.mp canonical
    have nonempty : self.text ≠ "" := fun empty => by simp [empty] at whole
    refine .inr ⟨rest, by rw [beq_iff_eq.mp slash], ?_, valid⟩
    rw [components, if_neg nonempty, whole, List.drop_one, List.tail_cons]

/-- The text of a path is its components, each behind a slash. -/
theorem toList_text (self : NamespacePath) : self.text.toList = Delimited.led '/' self.components := by
  obtain rfl | ⟨rest, whole, pieces, -⟩ := text_cases self
  · rfl
  · rw [whole, pieces, Delimited.led_splitOn]

theorem validComponent_of_mem {component : List Char} (member : component ∈ self.components) :
    validComponent component = true := by
  obtain rfl | ⟨rest, -, pieces, valid⟩ := text_cases self
  · cases member
  · rw [pieces] at member
    exact List.all_eq_true.mp valid component member

theorem not_mem_component {component : List Char} (member : component ∈ self.components) : '/' ∉ component := by
  obtain rfl | ⟨rest, -, pieces, -⟩ := text_cases self
  · cases member
  · rw [pieces] at member
    exact (Delimited.mem_splitOn member).1

/-- A path other than the root begins with a slash and does not end in one. -/
theorem text_of_ne_root (nonroot : self ≠ root) :
    ∃ rest, self.text.toList = '/' :: rest ∧ self.components = rest.splitOn '/' ∧
      (rest.splitOn '/').all validComponent = true ∧ ¬ (rest = [] ∨ rest.getLast? = some '/') := by
  obtain same | ⟨rest, whole, pieces, valid⟩ := text_cases self
  · exact absurd same nonroot
  · refine ⟨rest, whole, pieces, valid, ?_⟩
    have allowed : [] ∉ rest.splitOn '/' := by
      rw [← pieces]
      exact fun empty => absurd (validComponent_of_mem empty) (by decide)
    rintro (rfl | trailing)
    · exact allowed List.mem_cons_self
    · obtain ⟨front, rfl⟩ := List.getLast?_eq_some_iff.mp trailing
      apply allowed
      rw [List.splitOn_append_cons_self]
      exact List.mem_append_right _ List.mem_cons_self

theorem asStr_eq_text (nonroot : self ≠ root) : self.asStr = self.text := by
  obtain ⟨rest, whole, -⟩ := text_of_ne_root nonroot
  have nonempty : self.text ≠ "" := fun empty => by simp [empty] at whole
  exact if_neg nonempty

/-- Only the root reads as a slash. -/
theorem asStr_eq_slash_iff : self.asStr = "/" ↔ self = root := by
  constructor
  · intro slash
    by_contra nonroot
    obtain ⟨rest, whole, -, -, longer⟩ := text_of_ne_root nonroot
    rw [← asStr_eq_text nonroot, slash] at whole
    exact longer (.inl (List.cons.inj whole).2.symm)
  · rintro rfl
    rfl

/-- `new` accepts every path as it is written. -/
theorem new_asStr (self : NamespacePath) : new self.asStr = some self := by
  by_cases nonroot : self = root
  · subst nonroot
    rfl
  · obtain ⟨rest, whole, -, valid, longer⟩ := text_of_ne_root nonroot
    have nonempty : self.text ≠ "" := fun empty => by simp [empty] at whole
    have absolute : startsWith self.text "/" = true := List.isPrefixOf_iff_prefix.mpr ⟨rest, whole.symm⟩
    have unslashed : self.text ≠ "/" := by
      rw [← asStr_eq_text nonroot, ne_eq, asStr_eq_slash_iff]
      exact nonroot
    have kept : stripSuffix self.text.toList = self.text.toList := by
      apply if_neg
      rw [whole]
      cases rest with
      | nil => exact fun _ => longer (.inl rfl)
      | cons c rest =>
        rw [List.getLast?_cons_cons]
        exact fun trailing => longer (.inr trailing)
    rw [asStr_eq_text nonroot, new, if_neg nonempty, dif_pos absolute, if_neg unslashed, dif_neg, dif_pos]
    · congr 1
      cases self
      congr 1
      rw [kept, String.ofList_toList]
    · rw [kept, whole]
      exact valid
    · rw [kept, whole]
      exact List.cons_ne_nil _ _

/-! ## The prefix test -/

/-- A byte with its top bit set is none of ASCII. -/
theorem or_ne_separator {lead : UInt8} (high : lead.toBitVec.getLsbD 7 = true) (byte : UInt8) :
    byte ||| lead ≠ Path.SEPARATOR := by
  intro same
  have top : (byte ||| lead).toBitVec.getLsbD 7 = true := by
    rw [UInt8.toBitVec_or, BitVec.getLsbD_or, high, Bool.or_true]
  rw [same] at top
  exact absurd top (by decide)

/-- A character whose first byte is a slash is a slash. -/
theorem head?_utf8EncodeChar_eq_separator {c : Char} :
    (String.utf8EncodeChar c).head? = some Path.SEPARATOR ↔ c = '/' := by
  constructor
  · intro first
    obtain one | two | three | four := c.utf8Size_eq
    · rw [String.utf8EncodeChar_eq_singleton one] at first
      have value : c.val.toUInt8 = 0x2F := Option.some.inj first
      have small : c.val.toNat ≤ 127 := UInt32.le_iff_toNat_le.mp (Char.utf8Size_eq_one_iff.mp one)
      have code : c.val.toNat % 256 = 0x2F := congrArg UInt8.toNat value
      rw [Nat.mod_eq_of_lt (by omega)] at code
      exact Char.ext (UInt32.toNat_inj.mp code)
    · rw [String.utf8EncodeChar_eq_cons_cons two] at first
      exact absurd (Option.some.inj first) (or_ne_separator (by decide) _)
    · rw [String.utf8EncodeChar_eq_cons_cons_cons three] at first
      exact absurd (Option.some.inj first) (or_ne_separator (by decide) _)
    · rw [String.utf8EncodeChar_eq_cons_cons_cons_cons four] at first
      exact absurd (Option.some.inj first) (or_ne_separator (by decide) _)
  · rintro rfl
    decide

theorem head?_ofString (c : Char) (text : List Char) :
    ((c :: text).flatMap String.utf8EncodeChar).head? = (String.utf8EncodeChar c).head? := by
  rw [List.flatMap_cons, List.head?_append_of_ne_nil _ String.utf8EncodeChar_ne_nil]

/-- The byte behind a start of a text is a slash exactly if the next character is one. -/
theorem byte_after_eq_separator_iff {base text : String} {rest : List Char}
    (split : base.toList ++ rest = text.toList) :
    (OsString.ofString text)[(OsString.ofString base).length]? = some Path.SEPARATOR ↔ rest.head? = some '/' := by
  have bytes : OsString.ofString text = OsString.ofString base ++ rest.flatMap String.utf8EncodeChar := by
    rw [OsString.ofString, ← split, List.flatMap_append]
    rfl
  rw [bytes, List.getElem?_append_right (Nat.le_refl _), Nat.sub_self, ← List.head?_eq_getElem?]
  cases rest with
  | nil => simp
  | cons c rest =>
    rw [head?_ofString, head?_utf8EncodeChar_eq_separator]
    simp

/-- The comparison of the texts finds a cut before a slash or at the end. -/
theorem sameOrFollowed_iff (base text : String) :
    (base = text ∨ startsWith text base = true ∧
        (OsString.ofString text)[(OsString.ofString base).length]? = some Path.SEPARATOR) ↔
      ∃ rest, Delimited.AtMark '/' rest ∧ base.toList ++ rest = text.toList := by
  constructor
  · rintro (rfl | ⟨starts, slash⟩)
    · exact ⟨[], nofun, List.append_nil _⟩
    · obtain ⟨rest, split⟩ := List.isPrefixOf_iff_prefix.mp starts
      refine ⟨rest, ?_, split⟩
      intro c found
      rw [(byte_after_eq_separator_iff split).mp slash] at found
      exact (Option.some.inj found).symm
  · rintro ⟨rest, stops, split⟩
    cases rest with
    | nil =>
      rw [List.append_nil] at split
      exact .inl (String.toList_inj.mp split)
    | cons c rest =>
      obtain rfl : c = '/' := stops c rfl
      exact .inr ⟨List.isPrefixOf_iff_prefix.mpr ⟨_, split⟩, (byte_after_eq_separator_iff split).mpr rfl⟩

/-- The prefix test on the texts compares whole components. -/
theorem isPrefixOf_iff (self other : NamespacePath) :
    self.isPrefixOf other = true ↔ self.components <+: other.components := by
  by_cases rooted : self = root
  · subst rooted
    have whole : root.isPrefixOf other = true := by
      unfold isPrefixOf
      split_ifs with same slash
      · rfl
      · rfl
      · exact absurd rfl slash
    exact iff_of_true whole List.nil_prefix
  · have cut : self.isPrefixOf other = true ↔
        ∃ rest, Delimited.AtMark '/' rest ∧ self.text.toList ++ rest = other.asStr.toList := by
      have unslashed : self.asStr ≠ "/" := fun slash => rooted (asStr_eq_slash_iff.mp slash)
      rw [← sameOrFollowed_iff, ← asStr_eq_text rooted, isPrefixOf, if_neg unslashed]
      split_ifs with same
      · exact iff_of_true rfl (.inl same)
      · rw [Bool.and_eq_true_iff, beq_iff_eq, or_iff_right same]
    rw [cut]
    by_cases rooted' : other = root
    · subst rooted'
      obtain ⟨rest, whole, pieces, -, longer⟩ := text_of_ne_root rooted
      apply iff_of_false
      · rintro ⟨more, -, split⟩
        rw [whole] at split
        exact longer (.inl (List.append_eq_nil_iff.mp (List.cons.inj split).2).1)
      · intro start
        have none : self.components = [] := List.prefix_nil.mp start
        exact List.splitOn_ne_nil '/' rest (pieces.symm.trans none)
    · rw [asStr_eq_text rooted', toList_text, toList_text]
      exact Delimited.led_append_eq_led_iff (fun _ => not_mem_component) (fun _ => not_mem_component)

end NamespacePath

/-! ## The mount table of a capsule

The embedding of `CapsuleNamespace`: one list of bindings for all targets, which `bind` changes by
retaining, pushing and inserting. What the table is for is a list of bindings for each target, on which
only the calls for that target act. `bind` refuses the root as source and as target.
-/

open Aios.Capability (CapRights)

abbrev CapsuleId := UInt64

inductive MountFlag where
  | regular
  | before
  | after
  | replace
  | cache
deriving DecidableEq

/-- Whether a regular bind keeps the binding. -/
def MountFlag.isUnion : MountFlag → Bool
  | before | after => true
  | _ => false

structure NamespaceBinding where
  source : NamespacePath
  target : NamespacePath
  flag : MountFlag
  capsuleId : CapsuleId
  accessRights : CapRights
deriving DecidableEq

namespace NamespaceBinding

def targets (self : NamespaceBinding) (path : NamespacePath) : Bool := self.target == path

def covers (self : NamespaceBinding) (path : NamespacePath) : Bool := self.target.isPrefixOf path

end NamespaceBinding

structure CapsuleNamespace where
  capsuleId : CapsuleId
  bindings : List NamespaceBinding := []

namespace CapsuleNamespace

variable (self : CapsuleNamespace)

def new (capsuleId : CapsuleId) : CapsuleNamespace := { capsuleId }

def bind (source target : NamespacePath) (flag : MountFlag) (accessRights : CapRights) : CapsuleNamespace × Bool :=
  if target.asStr = "/" ∨ source.asStr = "/" then (self, false)
  else
    let binding : NamespaceBinding := { source, target, flag, capsuleId := self.capsuleId, accessRights }
    let bindings :=
      match flag with
      | .replace => self.bindings.filter (fun b => !b.targets target) ++ [binding]
      | .regular => self.bindings.filter (fun b => !b.targets target || b.flag.isUnion) ++ [binding]
      | .before => Insertion.insertBeforeFirst (fun b => b.targets target) binding self.bindings
      | .after => Insertion.insertAfterLast (fun b => b.targets target) binding self.bindings
      | .cache => self.bindings ++ [binding]
    ({ self with bindings }, true)

/-- The table without the bindings at a target, and how many they were. -/
def unbind (target : NamespacePath) : CapsuleNamespace × ℕ :=
  let bindings := self.bindings.filter fun b => !b.targets target
  ({ self with bindings }, self.bindings.length - bindings.length)

def resolve (path : NamespacePath) : List NamespaceBinding :=
  self.bindings.filter fun b => b.covers path

def exactResolve (path : NamespacePath) : List NamespaceBinding :=
  self.bindings.filter fun b => b.targets path

end CapsuleNamespace

/-! ### Calls -/

inductive NamespaceCall where
  | bind (source target : NamespacePath) (flag : MountFlag) (accessRights : CapRights)
  | unbind (target : NamespacePath)

namespace NamespaceCall

def target : NamespaceCall → NamespacePath
  | bind _ target _ _ => target
  | unbind target => target

/-- `bind` refuses the root on either side. -/
def accepted : NamespaceCall → Bool
  | bind source target _ _ => source != .root && target != .root
  | unbind _ => true

/-- What a call does to the list of its target. -/
def attach (capsuleId : CapsuleId) (entries : List NamespaceBinding) : NamespaceCall → List NamespaceBinding
  | bind source target flag accessRights =>
    let binding : NamespaceBinding := { source, target, flag, capsuleId, accessRights }
    match flag with
    | .replace => [binding]
    | .regular => entries.filter (fun b => b.flag.isUnion) ++ [binding]
    | .before => binding :: entries
    | .after | .cache => entries ++ [binding]
  | unbind _ => []

end NamespaceCall

/-- The list of a target after the calls for it. -/
def targetList (capsuleId : CapsuleId) (calls : List NamespaceCall) (path : NamespacePath) :
    List NamespaceBinding :=
  (calls.filter fun call => call.target == path).foldl (NamespaceCall.attach capsuleId) []

namespace CapsuleNamespace

def step (self : CapsuleNamespace) : NamespaceCall → CapsuleNamespace
  | .bind source target flag accessRights => (self.bind source target flag accessRights).1
  | .unbind target => (self.unbind target).1

/-! ### One call -/

variable {self : CapsuleNamespace} {call : NamespaceCall} {path : NamespacePath}

variable (target : NamespacePath) (bindings : List NamespaceBinding)

theorem rooted_iff {source target : NamespacePath} {flag : MountFlag} {accessRights : CapRights} :
    (target.asStr = "/" ∨ source.asStr = "/") ↔
      (NamespaceCall.bind source target flag accessRights).accepted = false := by
  rw [NamespacePath.asStr_eq_slash_iff, NamespacePath.asStr_eq_slash_iff]
  simp only [NamespaceCall.accepted, Bool.and_eq_false_iff, bne_eq_false_iff_eq]
  exact or_comm

/-- A refused call changes nothing. -/
theorem step_refused (refused : call.accepted = false) : self.step call = self := by
  cases call with
  | bind source target flag accessRights =>
    rw [step, bind, if_pos (rooted_iff.mpr refused)]
  | unbind target => cases refused

theorem capsuleId_step (self : CapsuleNamespace) (call : NamespaceCall) :
    (self.step call).capsuleId = self.capsuleId := by
  cases call with
  | bind source target flag accessRights =>
    rw [step, bind]
    split_ifs <;> rfl
  | unbind target => rfl

/-- What is retained of a table has lost nothing at another target. -/
theorem filter_retain {keep : NamespaceBinding → Bool} {target : NamespacePath} (other : target ≠ path)
    (keeps : ∀ b, b.targets target = false → keep b = true) (bindings : List NamespaceBinding) :
    (bindings.filter keep).filter (fun b => b.targets path) = bindings.filter fun b => b.targets path := by
  rw [List.filter_filter]
  apply List.filter_congr
  intro b _
  cases here : b.targets path with
  | false => rfl
  | true =>
    have elsewhere : b.targets target = false := by
      rw [NamespaceBinding.targets, beq_eq_false_iff_ne, beq_iff_eq.mp here]
      exact other.symm
    rw [keeps b elsewhere]
    rfl

/-- A call leaves the list of every other target. -/
theorem exactResolve_step_other (other : call.target ≠ path) :
    (self.step call).exactResolve path = self.exactResolve path := by
  cases call with
  | bind source target flag accessRights =>
    let binding : NamespaceBinding := { source, target, flag, capsuleId := self.capsuleId, accessRights }
    have apart : binding.targets path = false := beq_eq_false_iff_ne.mpr other
    have pushed (bindings : List NamespaceBinding) :
        (bindings ++ [binding]).filter (fun b => b.targets path) = bindings.filter fun b => b.targets path :=
      Insertion.filter_append_of_not (fun b => b.targets path) apart bindings
    rw [step, bind]
    split_ifs with rooted
    · rfl
    · cases flag with
      | replace =>
        refine (pushed _).trans (filter_retain other ?_ self.bindings)
        exact fun b elsewhere => Bool.not_eq_true' _ ▸ elsewhere
      | regular =>
        refine (pushed _).trans (filter_retain other ?_ self.bindings)
        exact fun b elsewhere => Bool.or_eq_true_iff.mpr (.inl (Bool.not_eq_true' _ ▸ elsewhere))
      | before => exact Insertion.filter_insertBeforeFirst_of_not (fun b => b.targets path) _ apart self.bindings
      | after => exact Insertion.filter_insertAfterLast_of_not (fun b => b.targets path) _ apart self.bindings
      | cache => exact pushed self.bindings
  | unbind target => exact filter_retain other (fun b elsewhere => Bool.not_eq_true' _ ▸ elsewhere) self.bindings

theorem filter_removed : (bindings.filter fun b => !b.targets target).filter (fun b => b.targets target) = [] := by
  rw [List.filter_filter, List.filter_eq_nil_iff]
  intro b _
  cases b.targets target <;> exact Bool.false_ne_true

/-- At the target itself, a regular bind retains the union bindings. -/
theorem filter_replaced :
    (bindings.filter fun b => !b.targets target || b.flag.isUnion).filter (fun b => b.targets target) =
      (bindings.filter fun b => b.targets target).filter fun b => b.flag.isUnion := by
  rw [List.filter_filter, List.filter_filter]
  apply List.filter_congr
  intro b _
  cases b.targets target <;> simp

/-- An accepted call does to the list of its target what it is meant to do. -/
theorem exactResolve_step_target (accepted : call.accepted = true) :
    (self.step call).exactResolve call.target = call.attach self.capsuleId (self.exactResolve call.target) := by
  cases call with
  | bind source target flag accessRights =>
    let binding : NamespaceBinding := { source, target, flag, capsuleId := self.capsuleId, accessRights }
    have inside : binding.targets target = true := beq_self_eq_true target
    have pushed (bindings : List NamespaceBinding) :
        (bindings ++ [binding]).filter (fun b => b.targets target) =
          (bindings.filter fun b => b.targets target) ++ [binding] :=
      Insertion.filter_append_of_mem (fun b => b.targets target) inside bindings
    have unrooted : ¬ (target.asStr = "/" ∨ source.asStr = "/") := by
      rw [rooted_iff, accepted]
      exact nofun
    rw [step, bind, if_neg unrooted]
    cases flag with
    | replace =>
      refine (pushed _).trans ?_
      rw [filter_removed target self.bindings]
      rfl
    | regular =>
      refine (pushed _).trans ?_
      rw [filter_replaced target self.bindings]
      rfl
    | before => exact Insertion.filter_insertBeforeFirst (fun b => b.targets target) inside self.bindings
    | after => exact Insertion.filter_insertAfterLast (fun b => b.targets target) inside self.bindings
    | cache => exact pushed self.bindings
  | unbind target => exact filter_removed target self.bindings

/-- `resolve` compares whole components. -/
theorem resolve_eq (self : CapsuleNamespace) (path : NamespacePath) :
    self.resolve path = self.bindings.filter fun b => b.target.components.isPrefixOf path.components := by
  apply List.filter_congr
  intro b _
  rw [NamespaceBinding.covers, Bool.eq_iff_iff, NamespacePath.isPrefixOf_iff, List.isPrefixOf_iff_prefix]

/-! ### Runs -/

/-- The table after a list of calls on a new namespace. -/
def runCalls (capsuleId : CapsuleId) (calls : List NamespaceCall) : CapsuleNamespace :=
  StepRun.run step (new capsuleId) calls

/-- From any table on, a target has the list that the accepted calls for it make. -/
theorem exactResolve_run (self : CapsuleNamespace) (calls : List NamespaceCall) (path : NamespacePath) :
    (StepRun.run step self calls).exactResolve path =
      ((calls.filter NamespaceCall.accepted).filter fun call => call.target == path).foldl
        (NamespaceCall.attach self.capsuleId) (self.exactResolve path) := by
  induction calls generalizing self with
  | nil => rfl
  | cons call rest ih =>
    rw [StepRun.run_cons, ih (self.step call), capsuleId_step]
    cases accepted : call.accepted with
    | false => rw [step_refused accepted, List.filter_cons, accepted, if_neg Bool.false_ne_true]
    | true =>
      rw [List.filter_cons, accepted, if_pos rfl, List.filter_cons]
      by_cases same : call.target = path
      · subst same
        rw [beq_self_eq_true, if_pos rfl, List.foldl_cons, exactResolve_step_target accepted]
      · rw [beq_eq_false_iff_ne.mpr same, if_neg Bool.false_ne_true, exactResolve_step_other same]

/-- After every sequence of calls, a target has the list that the accepted calls for it make, whatever
the calls for other targets in between; a path resolves to the bindings whose target's components are the
first of its own; and a call that is not accepted changes nothing. -/
theorem refinesTargetLists (capsuleId : CapsuleId) (calls : List NamespaceCall) (path : NamespacePath) :
    (runCalls capsuleId calls).exactResolve path =
        targetList capsuleId (calls.filter NamespaceCall.accepted) path ∧
      (runCalls capsuleId calls).resolve path =
        (runCalls capsuleId calls).bindings.filter
          (fun binding => binding.target.components.isPrefixOf path.components) ∧
      ∀ call, call.accepted = false → (runCalls capsuleId calls).step call = runCalls capsuleId calls :=
  ⟨exactResolve_run (new capsuleId) calls path, resolve_eq _ path, fun _ refused => step_refused refused⟩

/-- A bind of the root is refused, although it stands among the calls for its target. -/
theorem not_refinesTargetLists_rootBind :
    ¬ ∀ (capsuleId : CapsuleId) (calls : List NamespaceCall) (path : NamespacePath),
      (runCalls capsuleId calls).exactResolve path = targetList capsuleId calls path := by
  intro refines
  have here := refines 1 [.bind .root ⟨"/a", rfl⟩ .replace .full] ⟨"/a", rfl⟩
  have lengths := congrArg List.length here
  exact absurd lengths (by decide)

end CapsuleNamespace

end Aios.Namespace
