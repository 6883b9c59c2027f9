import Aios.Lib.Fallible
import Aios.Vault.Override
import Mathlib.Data.List.Perm.Subperm

/-! # The quorum behind an override

A binding of a class is meant to rest on as many people as the class asks for. The checks of a grant
count the entries of the list and look each of them up; they compare no entry with another and do not
read the `is_ai` mark, so one person named twice passes for two.
-/

namespace Aios.Vault

open Aios.Rust

variable {catalog : IdentityCatalog} {mint : ℕ ↪ String}

section

variable (class' : OverrideClass) (subjects : List Subject)

/-! ## What the checks establish -/

theorem lookupSubject_ok_iff (catalog : IdentityCatalog) (reference : SubjectRef) (subject : Subject) :
    catalog.lookupSubject reference = .ok subject ↔ catalog.lookup reference = some subject := by
  rw [IdentityCatalog.lookupSubject]
  cases catalog.lookup reference with
  | none => simp
  | some found => simp

theorem lookupGrantingSubjects_ok_iff (catalog : IdentityCatalog) (references : List SubjectRef)
    (subjects : List Subject) :
    lookupGrantingSubjects catalog references = .ok subjects ↔ references.map catalog.lookup = subjects.map some := by
  rw [lookupGrantingSubjects]
  induction references generalizing subjects with
  | nil => cases subjects <;> simp [pure, Except.pure]
  | cons reference rest ih =>
    rw [List.mapM_cons, List.map_cons]
    cases stored : catalog.lookup reference with
    | none =>
      have refused : catalog.lookupSubject reference = .error (.subjectNotFound reference) := by
        rw [IdentityCatalog.lookupSubject, stored]
      rw [refused]
      cases subjects <;> simp [bind, Except.bind]
    | some subject =>
      rw [(lookupSubject_ok_iff catalog reference subject).mpr stored]
      cases looked : rest.mapM catalog.lookupSubject with
      | error failure =>
        cases subjects with
        | nil => simp [bind, Except.bind]
        | cons first others => simp [bind, Except.bind, ← ih, looked]
      | ok found =>
        cases subjects with
        | nil => simp [bind, Except.bind, pure, Except.pure]
        | cons first others => simp [bind, Except.bind, pure, Except.pure, ← ih, looked]

theorem rejectAiGrantingSubjects_ok_iff :
    rejectAiGrantingSubjects subjects = .ok () ↔
      ∀ subject ∈ subjects, subject.subjectType ≠ .agent ∧ subject.subjectType ≠ .application := by
  rw [rejectAiGrantingSubjects]
  split
  · next subject found =>
    refine iff_of_false (fun impossible => nomatch impossible) fun none_ai => ?_
    have barred : subject.subjectType = .agent ∨ subject.subjectType = .application := by
      simpa using List.find?_some found
    have apart := none_ai subject (List.mem_of_find?_eq_some found)
    exact barred.elim apart.1 apart.2
  · next none_found =>
    refine iff_of_true rfl fun subject member => ?_
    have apart := List.find?_eq_none.mp none_found subject member
    simpa using apart

theorem validateHumanApprovers_ok_iff :
    validateHumanApprovers class' subjects = .ok () ↔ ∀ subject ∈ subjects, subject.subjectType = .human := by
  rw [validateHumanApprovers]
  split
  · next none_found =>
    refine iff_of_true rfl fun subject member => ?_
    simpa using List.filter_eq_nil_iff.mp (List.map_eq_nil_iff.mp (List.isEmpty_iff.mp none_found)) subject member
  · next some_found =>
    refine iff_of_false (fun impossible => nomatch impossible) fun human => some_found ?_
    rw [List.isEmpty_iff, List.map_eq_nil_iff, List.filter_eq_nil_iff]
    intro subject member
    simpa using human subject member

theorem validateApproverCount_ok_iff (found : ℕ) :
    validateApproverCount class' found = .ok () ↔ found = expectedApproverCount class' := by
  have small : expectedApproverCount class' ≤ 3 := by cases class' <;> decide
  have exactly : countToU32 found = expectedApproverCount class' ↔ found = expectedApproverCount class' := by
    rw [countToU32]
    split
    · exact Iff.rfl
    · next large =>
      rw [U32_MAX] at large ⊢
      omega
  rw [validateApproverCount, ← exactly]
  split
  · next same => exact iff_of_true rfl same
  · next differ => exact iff_of_false (fun impossible => nomatch impossible) differ

/-- The checks pass exactly if the list has as many entries as the class asks for, each of them the
reference of a registered human subject. -/
theorem checkGrant_ok_iff (catalog : IdentityCatalog) (request : GrantOverrideRequest) :
    checkGrant catalog request = .ok () ↔
      request.grantedBy.length = expectedApproverCount request.class' ∧
        ∀ reference ∈ request.grantedBy, ∃ subject, catalog.lookup reference = some subject ∧
          subject.subjectType = .human := by
  rw [checkGrant, Fallible.then_eq_ok_iff, Fallible.bind_eq_ok_iff]
  simp only [Fallible.then_eq_ok_iff, validateApproverCount_ok_iff, rejectAiGrantingSubjects_ok_iff,
    validateHumanApprovers_ok_iff, lookupGrantingSubjects_ok_iff]
  refine and_congr_right fun _ => ⟨?_, fun registered => ?_⟩
  · rintro ⟨subjects, looked, -, human⟩ reference member
    have found : catalog.lookup reference ∈ subjects.map some := looked ▸ List.mem_map_of_mem member
    obtain ⟨subject, listed, same⟩ := List.mem_map.mp found
    exact ⟨subject, same.symm, human subject listed⟩
  · have : Nonempty Subject := ⟨⟨"", .human, false⟩⟩
    choose! subjectOf stored human using registered
    refine ⟨request.grantedBy.map subjectOf, ?_, ?_, ?_⟩
    · rw [List.map_map]
      exact List.map_congr_left stored
    · intro subject listed
      obtain ⟨reference, member, rfl⟩ := List.mem_map.mp listed
      rw [human reference member]
      decide
    · intro subject listed
      obtain ⟨reference, member, rfl⟩ := List.mem_map.mp listed
      exact human reference member

/-! ## The quorum -/

/-- The reference of a registered human subject that is not an AI. -/
def HumanApprover (catalog : IdentityCatalog) (reference : SubjectRef) : Prop :=
  ∃ subject, catalog.lookup reference = some subject ∧ subject.subjectType = .human ∧ subject.isAi = false

/-- One, two or three people. -/
def requiredApprovers : OverrideClass → ℕ
  | .strongSolo => 1
  | .dualHuman => 2
  | .tripleHuman => 3

/-- The binding was granted by enough pairwise distinct human approvers. -/
def QuorumMet (catalog : IdentityCatalog) (binding : OverrideBinding) : Prop :=
  ∃ approvers : List SubjectRef, approvers.Nodup ∧ requiredApprovers binding.class' ≤ approvers.length ∧
    ∀ approver ∈ approvers, approver ∈ binding.grantedBy ∧ HumanApprover catalog approver

/-- The granting subjects are named once each, and none carries the `is_ai` mark. -/
def Distinct (catalog : IdentityCatalog) (grantedBy : List SubjectRef) : Prop :=
  grantedBy.Nodup ∧ ∀ reference ∈ grantedBy, ∀ subject, catalog.lookup reference = some subject → subject.isAi = false

/-- A grant that passes the checks has its quorum exactly if its subjects are distinct and no AI. -/
theorem quorumMet_iff_distinct {request : GrantOverrideRequest} (passed : checkGrant catalog request = .ok ())
    (bindingId : String) (now : DateTime) :
    QuorumMet catalog (OverrideStore.grantedBinding request bindingId now) ↔ Distinct catalog request.grantedBy := by
  obtain ⟨counted, registered⟩ := (checkGrant_ok_iff catalog request).mp passed
  have required : requiredApprovers request.class' = expectedApproverCount request.class' := by
    cases request.class' <;> rfl
  constructor
  · rintro ⟨approvers, distinct, enough, approves⟩
    have within : approvers ⊆ request.grantedBy := fun approver member => (approves approver member).1
    -- as many distinct approvers as entries: the entries are those approvers in some order
    have all : approvers.Perm request.grantedBy := by
      apply (List.subperm_of_subset distinct within).perm_of_length_le
      rw [counted, ← required]
      exact enough
    refine ⟨all.nodup_iff.mp distinct, fun reference member subject stored => ?_⟩
    obtain ⟨-, approver, found, -, human⟩ := approves reference (all.mem_iff.mpr member)
    obtain rfl := Option.some.inj (stored.symm.trans found)
    exact human
  · rintro ⟨distinct, unmarked⟩
    refine ⟨request.grantedBy, distinct, ?_, fun reference member => ⟨member, ?_⟩⟩
    · exact (required.trans counted.symm).le
    · obtain ⟨subject, stored, human⟩ := registered reference member
      exact ⟨subject, stored, human, unmarked reference member subject stored⟩

/-! ## Every run -/

end

namespace OverrideStore

/-- Every stored binding has its quorum. -/
def AllQuorate (catalog : IdentityCatalog) (store : OverrideStore mint) : Prop :=
  ∀ bindingId binding, store.lookup bindingId = some binding → QuorumMet catalog binding

/-- A grant that passes the checks names distinct subjects that are no AI. -/
def GrantsDistinct (catalog : IdentityCatalog) : OverrideOp → Prop
  | .grantOverride request _ _ => checkGrant catalog request = .ok () → Distinct catalog request.grantedBy
  | _ => True

/-- Whether every binding has its quorum hangs on the grants alone. -/
theorem allQuorate_step {store : OverrideStore mint} (quorate : store.AllQuorate catalog) (op : OverrideOp) :
    (step catalog store op).AllQuorate catalog ↔ GrantsDistinct catalog op := by
  constructor
  · intro after
    cases op with
    | grantOverride request now emitFailure =>
      intro passed
      have added := step_grantOverride passed now emitFailure store
      have stored : (step catalog store (.grantOverride request now emitFailure)).lookup store.nextKey =
          some (grantedBinding request store.nextKey now) := by
        rw [added, Ledger.lookup_add, if_pos rfl]
      exact (quorumMet_iff_distinct passed _ _).mp (after _ _ stored)
    | consumeOverride bindingId now emitFailure => trivial
    | revokeOverride bindingId emitFailure => trivial
    | lookupOverride bindingId now => trivial
    | listOverrides now => trivial
    | listOverridesForSubject subject now => trivial
    | isOverriddenAt action now clock => trivial
  · intro distinct bindingId binding stored
    cases before : store.lookup bindingId with
    | some old =>
      obtain ⟨state, kept, -⟩ := step_lookup before catalog op
      obtain rfl := Option.some.inj (stored.symm.trans kept)
      exact quorate bindingId old before
    | none =>
      obtain ⟨request, now, emitFailure, rfl, passed, rfl⟩ := step_lookup_new before stored
      exact (quorumMet_iff_distinct passed bindingId now).mpr (distinct passed)

theorem allQuorate_empty (catalog : IdentityCatalog) : AllQuorate catalog (Ledger.empty mint OverrideBinding) := by
  intro bindingId binding stored
  simp at stored

/-- A human subject may be named twice for two. -/
theorem exists_unquorate (mint : ℕ ↪ String) {reference : SubjectRef} {subject : Subject}
    (stored : catalog.lookup reference = some subject)
    (human : subject.subjectType = .human) :
    ∃ op, ¬ (step catalog (Ledger.empty mint OverrideBinding) op).AllQuorate catalog := by
  refine ⟨.grantOverride ⟨.dualHuman, [reference, reference], none, 0⟩ 0 none, fun quorate => ?_⟩
  have passed : checkGrant catalog ⟨.dualHuman, [reference, reference], none, 0⟩ = .ok () := by
    rw [checkGrant_ok_iff]
    refine ⟨rfl, fun other member => ?_⟩
    obtain rfl : other = reference := by simpa using member
    exact ⟨subject, stored, human⟩
  have distinct := (allQuorate_step (allQuorate_empty catalog) _).mp quorate passed
  simpa using distinct.1

/-- In a run every stored binding has its quorum in every state exactly if every grant that passes the
checks names distinct subjects that are no AI; in all runs over a catalog exactly if no human is in it. -/
theorem allQuorate_iff (catalog : IdentityCatalog) :
    (∀ ops, (∀ before, before <+: ops →
      (runFrom catalog (Ledger.empty mint OverrideBinding) before).AllQuorate catalog) ↔
      ∀ op ∈ ops, GrantsDistinct catalog op) ∧
    ((∀ ops, (runFrom catalog (Ledger.empty mint OverrideBinding) ops).AllQuorate catalog) ↔
      ∀ reference subject, catalog.lookup reference = some subject → subject.subjectType ≠ .human) := by
  have exactly (ops : List OverrideOp) :
      (∀ before, before <+: ops → (runFrom catalog (Ledger.empty mint OverrideBinding) before).AllQuorate catalog) ↔
        ∀ op ∈ ops, GrantsDistinct catalog op := by
    have cuts : (∀ before, before <+: ops →
        (runFrom catalog (Ledger.empty mint OverrideBinding) before).AllQuorate catalog) ↔
          ∀ before op rest, ops = before ++ op :: rest → GrantsDistinct catalog op :=
      @StepRun.forall_prefix_iff_cut _ _ _ _ (fun _ op => GrantsDistinct catalog op) _ _ (allQuorate_empty catalog)
        fun _ op _ _ quorate => allQuorate_step quorate op
    rw [cuts]
    constructor
    · intro fits op member
      obtain ⟨before, rest, split⟩ := List.append_of_mem member
      exact fits before op rest split
    · intro fits before op rest split
      exact fits op (by simp [split])
  refine ⟨exactly, fun quorate reference subject stored human => ?_, fun nobody ops => ?_⟩
  · obtain ⟨op, broken⟩ := exists_unquorate mint stored human
    exact broken (quorate [op])
  · refine (exactly ops).mpr (fun op _ => ?_) ops (List.prefix_refl ops)
    cases op with
    | grantOverride request now emitFailure =>
      intro passed
      obtain ⟨counted, registered⟩ := (checkGrant_ok_iff catalog request).mp passed
      have filled : 0 < request.grantedBy.length := by
        rw [counted]
        cases request.class' <;> decide
      obtain ⟨reference, member⟩ := List.exists_mem_of_length_pos filled
      obtain ⟨subject, stored, human⟩ := registered reference member
      exact absurd human (nobody reference subject stored)
    | consumeOverride bindingId now emitFailure => trivial
    | revokeOverride bindingId emitFailure => trivial
    | lookupOverride bindingId now => trivial
    | listOverrides now => trivial
    | listOverridesForSubject subject now => trivial
    | isOverriddenAt action now clock => trivial

/-- A supply of binding identifiers. -/
def exampleMint : ℕ ↪ String where
  toFun index := String.ofList (List.replicate index 'x')
  inj' one other same := by
    have lengths := congrArg (fun text : String => text.toList.length) same
    simpa using lengths

/-- A catalog with one person. -/
def aliceCatalog : IdentityCatalog := (∅ : IdentityCatalog).insert "family:alice" ⟨"family:alice", .human, false⟩

/-- One person named twice is taken for two. -/
theorem not_allQuorate_repeated :
    ¬ (runFrom aliceCatalog (Ledger.empty exampleMint OverrideBinding)
      [.grantOverride ⟨.dualHuman, ["family:alice", "family:alice"], none, 10⟩ 0 none]).AllQuorate aliceCatalog := by
  intro quorate
  obtain ⟨approvers, distinct, enough, approves⟩ :=
    quorate "" ⟨"", .dualHuman, ["family:alice", "family:alice"], 0, 10, none, .granted⟩ rfl
  have alone : ∀ approver ∈ approvers, approver = "family:alice" := by
    intro approver member
    have named : approver ∈ ["family:alice", "family:alice"] := (approves approver member).1
    simpa using named
  match approvers with
  | [] => exact absurd enough (by decide)
  | [_] => exact absurd enough (Nat.not_succ_le_self 1)
  | first :: second :: _ =>
    obtain rfl := alone first List.mem_cons_self
    obtain rfl := alone second (List.mem_cons_of_mem _ List.mem_cons_self)
    simp at distinct

end OverrideStore

end Aios.Vault
