import Aios.Evidence.Receipt
import Aios.Lib.Linked
import Aios.Lib.Run

/-! # The receipt chain

The embedding of `chain.rs`: an append checks the new receipt against the last one, and `verify_integrity` walks
all neighbours again. Both come down to one property of the list, that it is linked backwards by link hashes.
-/

namespace Aios.Evidence

open Aios.Rust

structure ReceiptChain where
  receipts : List EvidenceReceipt

namespace ReceiptChain

variable (codec : Codec) (ed25519 : Ed25519)

variable (self : ReceiptChain)

def new : ReceiptChain := ⟨[]⟩

/-- The match of `append`, whose arms fail or go on to the push. -/
def checkAppend (receipt : EvidenceReceipt) : Except EvidenceError Unit :=
  match self.receipts.getLast?, receipt.previousReceiptHash with
  | none, none => .ok ()
  | some _, none => .error .duplicateGenesis
  | none, some _ => .error .genesisMissing
  | some prior, some claimedLink => do
    let expected ← prior.linkHash codec
    if expected ≠ claimedLink then .error (.chainBroken self.receipts.length claimedLink expected) else .ok ()

def append (receipt : EvidenceReceipt) : EStateM EvidenceError ReceiptChain Unit := do
  let self ← get
  match self.checkAppend codec receipt with
  | .error failure => throw failure
  | .ok () => set (⟨self.receipts ++ [receipt]⟩ : ReceiptChain)

/-- The pair the walk is at; the position of `curr` is one more than that of `prev`. -/
def checkLink (position : ℕ) (prev curr : EvidenceReceipt) : Except EvidenceError Unit :=
  match curr.previousReceiptHash with
  | none => do
    let expected ← prev.linkHash codec
    .error (.chainBroken (position + 1) "<missing previous_receipt_hash>" expected)
  | some claimed => do
    let expected ← prev.linkHash codec
    if expected ≠ claimed then .error (.chainBroken (position + 1) claimed expected) else .ok ()

def verifyIntegrity : Except EvidenceError Unit :=
  match self.receipts with
  | [] => .error .emptyChain
  | genesis :: _ =>
    if genesis.previousReceiptHash.isSome then .error .genesisMissing
    else Linked.walk (checkLink codec) 0 self.receipts

end ReceiptChain

/-! ## Links -/

namespace EvidenceReceipt

variable {codec : Codec} {prior self : EvidenceReceipt}

def IsGenesis (self : EvidenceReceipt) : Prop := self.previousReceiptHash = none

/-- The receipt carries the link hash of the one before it. -/
def LinksTo (codec : Codec) (prior self : EvidenceReceipt) : Prop :=
  ∃ link, self.previousReceiptHash = some link ∧ prior.linkHash codec = .ok link

/-- The receipts of a chain link backwards to a genesis receipt. -/
abbrev Chained (codec : Codec) : List EvidenceReceipt → Prop := Linked.Holds IsGenesis (LinksTo codec)

/-- The receipt carries the link that the next receipt must carry. -/
abbrev FitsChain (codec : Codec) : List EvidenceReceipt → EvidenceReceipt → Prop :=
  Linked.Fits IsGenesis (LinksTo codec)

theorem linksTo_iff {link : String} (claimed : self.previousReceiptHash = some link) :
    LinksTo codec prior self ↔ prior.linkHash codec = .ok link := by
  rw [LinksTo, claimed]
  simp

theorem not_linksTo (missing : self.previousReceiptHash = none) : ¬LinksTo codec prior self := by
  rintro ⟨link, claimed, -⟩
  rw [missing] at claimed
  cases claimed

/-- A seal against the last receipt makes a receipt that fits. -/
theorem fitsChain_of_sealed {builder : ReceiptBuilder} {receipts : List EvidenceReceipt} {stamp : Stamp}
    {receipt : EvidenceReceipt} (made : builder.Sealed codec receipts.getLast? stamp receipt) :
    FitsChain codec receipts receipt := by
  have link := made.link
  cases ends : receipts.getLast? with
  | none =>
    rw [ends] at link
    rw [FitsChain, Linked.Fits, ends]
    exact (Except.ok.inj link).symm
  | some prior =>
    rw [ends, Option.mapM_some] at link
    cases hashed : linkHash codec prior with
    | error failure =>
      rw [hashed] at link
      cases link
    | ok expected =>
      rw [hashed] at link
      exact (Linked.fits_of_getLast? ends).mpr ⟨expected, (Except.ok.inj link).symm, hashed⟩

end EvidenceReceipt

namespace ReceiptChain

variable {codec : Codec}

variable {self after : ReceiptChain} {receipt : EvidenceReceipt}

/-! ## What the two operations check -/

theorem checkAppend_eq_ok_iff :
    self.checkAppend codec receipt = .ok () ↔ EvidenceReceipt.FitsChain codec self.receipts receipt := by
  rw [checkAppend, EvidenceReceipt.FitsChain]
  cases ends : self.receipts.getLast? with
  | none =>
    rw [Linked.Fits, ends]
    cases claimed : receipt.previousReceiptHash with
    | none => exact iff_of_true rfl claimed
    | some link => exact iff_of_false (by simp) fun genesis => by cases claimed.symm.trans genesis
  | some prior =>
    rw [Linked.fits_of_getLast? ends]
    cases claimed : receipt.previousReceiptHash with
    | none => exact iff_of_false (by simp) (EvidenceReceipt.not_linksTo claimed)
    | some link =>
      rw [EvidenceReceipt.linksTo_iff claimed]
      simp only [Fallible.bind_eq_ok_iff, Fallible.guard_eq_ok_iff, not_not, and_true]
      constructor
      · rintro ⟨expected, hashed, rfl⟩
        exact hashed
      · exact fun hashed => ⟨link, hashed, rfl⟩

/-- An append fails in its check, or adds the receipt alone. -/
theorem append_apply (self : ReceiptChain) (receipt : EvidenceReceipt) :
    append codec receipt self = match self.checkAppend codec receipt with
      | .error failure => .error failure self
      | .ok () => .ok () ⟨self.receipts ++ [receipt]⟩ := by
  rw [append, Stateful.get_bind_apply]
  cases self.checkAppend codec receipt <;> rfl

theorem append_ok_iff :
    append codec receipt self = .ok () after ↔
      EvidenceReceipt.FitsChain codec self.receipts receipt ∧ after = ⟨self.receipts ++ [receipt]⟩ := by
  rw [append_apply, ← checkAppend_eq_ok_iff]
  cases self.checkAppend codec receipt with
  | error failure => simp
  | ok value => simp [eq_comm]

theorem append_error {failure : EvidenceError} (failed : append codec receipt self = .error failure after) :
    after = self := by
  rw [append_apply] at failed
  cases checked : self.checkAppend codec receipt with
  | error found =>
    rw [checked] at failed
    cases failed
    rfl
  | ok value =>
    rw [checked] at failed
    cases failed

theorem append_appends :
    Linked.Appends EvidenceReceipt.IsGenesis (EvidenceReceipt.LinksTo codec) ReceiptChain.receipts (append codec) where
  accepts self receipt := by
    simp only [append_ok_iff]
    exact ⟨fun ⟨after, fits, _⟩ => fits, fun fits => ⟨_, fits, rfl⟩⟩
  pushes self receipt after returned := by rw [(append_ok_iff.mp returned).2]

/-- A chain of its own is built from the chained lists of receipts. -/
theorem collect_eq_ok_iff {receipts : List EvidenceReceipt} {chain : ReceiptChain} :
    Linked.collect (append codec) new receipts = .ok chain ↔
      EvidenceReceipt.Chained codec receipts ∧ chain = ⟨receipts⟩ := by
  have empty : new.receipts = [] := rfl
  constructor
  · intro collected
    have listed := append_appends.entriesOf_collect collected
    rw [empty, List.nil_append] at listed
    refine ⟨(append_appends.collect_iff empty).mp ⟨chain, collected, listed⟩, ?_⟩
    cases chain
    exact congrArg ReceiptChain.mk listed
  · rintro ⟨chained, rfl⟩
    obtain ⟨after, collected, listed⟩ := (append_appends.collect_iff empty).mpr chained
    cases after
    subst listed
    exact collected

theorem checkLink_eq_ok_iff (position : ℕ) (prev curr : EvidenceReceipt) :
    checkLink codec position prev curr = .ok () ↔ EvidenceReceipt.LinksTo codec prev curr := by
  rw [checkLink]
  cases claimed : curr.previousReceiptHash with
  | none =>
    simp only [Fallible.bind_eq_ok_iff, reduceCtorEq, and_false, exists_false, false_iff]
    exact EvidenceReceipt.not_linksTo claimed
  | some link =>
    rw [EvidenceReceipt.linksTo_iff claimed]
    simp only [Fallible.bind_eq_ok_iff, Fallible.guard_eq_ok_iff, not_not, and_true]
    exact ⟨fun ⟨expected, hashed, same⟩ => same ▸ hashed, fun hashed => ⟨link, hashed, rfl⟩⟩

/-- The walk accepts the chained lists with at least one receipt. -/
theorem verifyIntegrity_eq_ok_iff :
    self.verifyIntegrity codec = .ok () ↔ self.receipts ≠ [] ∧ EvidenceReceipt.Chained codec self.receipts := by
  rw [verifyIntegrity]
  cases listed : self.receipts with
  | nil => simp
  | cons genesis rest =>
    simp only [ne_eq, reduceCtorEq, not_false_eq_true, true_and]
    cases first : genesis.previousReceiptHash with
    | some link =>
      simp only [Option.isSome_some, if_true, reduceCtorEq, false_iff]
      rintro ⟨opens, -⟩
      cases first.symm.trans (opens genesis rfl)
    | none =>
      simp only [Option.isSome_none, Bool.false_eq_true, if_false]
      rw [Linked.walk_eq_ok_iff checkLink_eq_ok_iff]
      exact ⟨fun chain => ⟨fun _ opens => Option.some.inj opens ▸ first, chain⟩, fun linked => linked.chain⟩

/-! ## Runs -/

/-- The chain after an append, which may have failed. -/
def afterAppend (codec : Codec) (self : ReceiptChain) (receipt : EvidenceReceipt) : ReceiptChain :=
  Stateful.finalState (append codec receipt self)

/-- The chain after the receipts have been offered to it one by one. -/
def afterAppends (codec : Codec) (receipts : List EvidenceReceipt) : ReceiptChain :=
  StepRun.run (afterAppend codec) new receipts

theorem afterAppend_chained (chained : EvidenceReceipt.Chained codec self.receipts) (receipt : EvidenceReceipt) :
    EvidenceReceipt.Chained codec (afterAppend codec self receipt).receipts := by
  rw [afterAppend]
  cases ran : append codec receipt self with
  | ok value after =>
    obtain ⟨fits, rfl⟩ := append_ok_iff.mp ran
    exact Linked.holds_append_singleton.mpr ⟨chained, fits⟩
  | error failure after =>
    rw [append_error ran]
    exact chained

theorem afterAppends_chained (receipts : List EvidenceReceipt) :
    EvidenceReceipt.Chained codec (afterAppends codec receipts).receipts := by
  apply StepRun.run_invariant (fun self : ReceiptChain => EvidenceReceipt.Chained codec self.receipts)
  · exact fun self receipt chained => afterAppend_chained chained receipt
  · exact Linked.holds_nil

/-- A receipt sealed against the tail of a chain is accepted by it. -/
theorem append_sealed {builder : ReceiptBuilder} {stamp : Stamp}
    (made : builder.Sealed codec self.receipts.getLast? stamp receipt) :
    append codec receipt self = .ok () ⟨self.receipts ++ [receipt]⟩ :=
  append_ok_iff.mpr ⟨EvidenceReceipt.fitsChain_of_sealed made, rfl⟩

/-- Whatever receipts have been offered, in whatever order: a refused receipt leaves the chain alone, an accepted one
is added to it alone, a chain with a receipt in it verifies, and what a seal against its tail returns is accepted. -/
theorem append_only (codec : Codec) (ed25519 : Ed25519) (offered : List EvidenceReceipt) :
    let chain := afterAppends codec offered
    (∀ receipt failure after, append codec receipt chain = .error failure after → after = chain) ∧
    (∀ receipt after, append codec receipt chain = .ok () after → after.receipts = chain.receipts ++ [receipt]) ∧
    (chain.receipts ≠ [] → chain.verifyIntegrity codec = .ok ()) ∧
    (∀ builder stamp receipt, ReceiptBuilder.seal codec builder chain.receipts.getLast? stamp = .ok receipt →
      append codec receipt chain = .ok () ⟨chain.receipts ++ [receipt]⟩) ∧
    (∀ builder signingKey stamp receipt,
      ReceiptBuilder.sealSigned codec ed25519 builder chain.receipts.getLast? signingKey stamp = .ok receipt →
      append codec receipt chain = .ok () ⟨chain.receipts ++ [receipt]⟩) := by
  refine ⟨?_, ?_, ?_, ?_, ?_⟩
  · exact fun receipt failure after failed => append_error failed
  · intro receipt after returned
    rw [(append_ok_iff.mp returned).2]
  · exact fun filled => verifyIntegrity_eq_ok_iff.mpr ⟨filled, afterAppends_chained offered⟩
  · exact fun builder stamp receipt returned => append_sealed (ReceiptBuilder.sealInner_eq_ok returned).1
  · exact fun builder key stamp receipt returned => append_sealed (ReceiptBuilder.sealSigned_eq_ok returned).1

/-- The new chain does not verify: there is nothing in it to walk. -/
theorem new_not_verified :
    ¬∀ (codec : Codec) (offered : List EvidenceReceipt),
      (afterAppends codec offered).verifyIntegrity codec = .ok () := by
  intro verified
  cases verified blankCodec []

end ReceiptChain

/-! ## Tampering with a chain

One receipt of a chain is replaced by another. The walk of `verify_integrity` recomputes the link of every receipt
but the last, and recomputes no content hash: what the last receipt says may be changed freely as long as it still
names the receipt before it.
-/

/-- The libraries tell two receipts apart: chrono their times, JCS their values, and the truncated BLAKE3 their
canonical texts. -/
structure ToldApart (codec : Codec) (receipt other : EvidenceReceipt) : Prop where
  times : receipt.TimesTold codec other
  jcs : codec.JcsTells (Serialize.toValue codec receipt) (Serialize.toValue codec other)
  blake3 : ∀ canonical canonical', codec.jcs (Serialize.toValue codec receipt) = .ok canonical →
    codec.jcs (Serialize.toValue codec other) = .ok canonical' →
    blake3Truncated codec canonical = blake3Truncated codec canonical' → canonical = canonical'

/-- Receipts that are told apart have different link hashes. -/
theorem ToldApart.eq_of_linkHash {codec : Codec} {receipt other : EvidenceReceipt} {link : String}
    (apart : ToldApart codec receipt other) (hashed : receipt.linkHash codec = .ok link)
    (hashed' : other.linkHash codec = .ok link) : receipt = other := by
  obtain ⟨canonical, written, digest⟩ := EvidenceReceipt.linkHash_eq_ok_iff.mp hashed
  obtain ⟨canonical', written', digest'⟩ := EvidenceReceipt.linkHash_eq_ok_iff.mp hashed'
  obtain rfl := apart.blake3 canonical canonical' written written' (digest.symm.trans digest')
  exact EvidenceReceipt.eq_of_toValue_eq apart.times (apart.jcs canonical written written')

namespace EvidenceReceipt

variable {codec : Codec} {before after : List EvidenceReceipt} {old new : EvidenceReceipt}

/-- In the place of a receipt fits exactly what names the same previous receipt. -/
theorem fitsChain_congr (fits : FitsChain codec before old) :
    FitsChain codec before new ↔ new.previousReceiptHash = old.previousReceiptHash := by
  cases ends : before.getLast? with
  | none =>
    rw [FitsChain, Linked.Fits, ends] at fits ⊢
    rw [show old.previousReceiptHash = none from fits]
    exact Iff.rfl
  | some prior =>
    obtain ⟨link, claimed, hashed⟩ := (Linked.fits_of_getLast? ends).mp fits
    rw [FitsChain, Linked.fits_of_getLast? ends, claimed]
    constructor
    · rintro ⟨link', claimed', hashed'⟩
      rw [claimed', Except.ok.inj (hashed'.symm.trans hashed)]
    · exact fun claimed' => ⟨link, claimed', hashed⟩

/-- A receipt with a successor can be replaced by no other. -/
theorem eq_of_linksTo {next : EvidenceReceipt} (apart : ToldApart codec old new) (linked : LinksTo codec old next)
    (linked' : LinksTo codec new next) : old = new := by
  obtain ⟨link, claimed, hashed⟩ := linked
  exact apart.eq_of_linkHash hashed ((linksTo_iff claimed).mp linked')

/-- A chain stays one under a change exactly if the last receipt is changed, and names the same previous one. -/
theorem chained_replace_iff (chained : Chained codec (before ++ old :: after)) (changed : new ≠ old)
    (apart : ToldApart codec old new) :
    Chained codec (before ++ new :: after) ↔
      after = [] ∧ new.previousReceiptHash = old.previousReceiptHash := by
  obtain ⟨-, fits, rest⟩ := Linked.holds_append_cons.mp chained
  refine (Linked.Holds.replace_iff chained).trans ?_
  rw [and_comm]
  refine and_congr ?_ (fitsChain_congr fits)
  cases after with
  | nil => simp
  | cons next after =>
    simp only [List.head?_cons, Option.mem_def, Option.some.injEq, forall_eq', reduceCtorEq, iff_false]
    exact fun linked => changed (eq_of_linksTo apart (List.isChain_cons_cons.mp rest).1 linked).symm

end EvidenceReceipt

namespace ReceiptChain

variable {codec : Codec}

theorem verifyIntegrity_fails_iff {self : ReceiptChain} :
    (∃ failure, self.verifyIntegrity codec = .error failure) ↔ ¬self.verifyIntegrity codec = .ok () := by
  cases self.verifyIntegrity codec <;> simp

/-- A change of one receipt is reported exactly if the receipt is not the last one or the change is to its link. -/
theorem tampering_reported_iff (codec : Codec) (offered : List EvidenceReceipt) (index : ℕ)
    (old new : EvidenceReceipt) (stored : (afterAppends codec offered).receipts[index]? = some old)
    (changed : new ≠ old) (apart : ToldApart codec old new) :
    (∃ failure, verifyIntegrity codec ⟨(afterAppends codec offered).receipts.set index new⟩ = .error failure) ↔
      index + 1 < (afterAppends codec offered).receipts.length ∨
        new.previousReceiptHash ≠ old.previousReceiptHash := by
  have chained : EvidenceReceipt.Chained codec (afterAppends codec offered).receipts := afterAppends_chained offered
  generalize (afterAppends codec offered).receipts = receipts at *
  obtain ⟨inside, found⟩ := List.getElem?_eq_some_iff.mp stored
  have cut : ∃ before after, receipts = before ++ receipts[index] :: after ∧ before.length = index ∧
      receipts.set index new = before ++ new :: after := List.exists_of_set inside
  obtain ⟨before, after, split, length, replaced⟩ := cut
  rw [found] at split
  rw [split] at chained
  have tail : index + 1 < receipts.length ↔ after ≠ [] := by
    rw [split, List.length_append, List.length_cons, length, ← List.length_pos_iff]
    omega
  rw [verifyIntegrity_fails_iff, verifyIntegrity_eq_ok_iff, replaced, tail,
    EvidenceReceipt.chained_replace_iff chained changed apart]
  simp only [ne_eq, List.append_eq_nil_iff, reduceCtorEq, and_false, not_false_eq_true, true_and]
  tauto

/-! ### A chain of one receipt -/

/-- A receipt as the builder seals it. -/
def sealedStep : EvidenceReceipt where
  receiptId := "evr_01ARZ3NDEKTSV4RRFFQ69G5FAV"
  recordedAt := 0
  recordType := .actionReceived
  retentionClass := .standard24M
  subjectCanonicalId := "human:operator-1"
  actionId := none
  previousReceiptHash := none
  contentHash := "f594fd086c244db68bbaaaa260a520d010e66fa3b72ae911d254a63a253bef8e"
  payload := .object [("step", .number "0")]
  redactionProfile := .default
  signature := none

/-- The payload is rewritten, and no longer has the content hash. -/
def rewrittenStep : EvidenceReceipt := { sealedStep with payload := .object [("step", .number "999")] }

def stepDigests : List (String × String) :=
  [(writeJson sealedStep.payload, sealedStep.contentHash),
   (writeJson (Serialize.toValue blankCodec sealedStep),
     "3d21a58ad00461368b0c044d032eb497bc7491f3377e48b0ab4ceb2994d742dd"),
   (writeJson (Serialize.toValue blankCodec rewrittenStep),
     "862fb59f4b75a4e90598d823c6482e8932fe51473e0049d9b0279544a3cf8f34")]

def stepCodec : Codec := tableCodec stepDigests (by decide +kernel)

theorem rewrittenStep_ne : rewrittenStep ≠ sealedStep := by
  intro same
  simp [rewrittenStep, sealedStep] at same

theorem steps_toldApart : ToldApart stepCodec sealedStep rewrittenStep where
  times _ := rfl
  jcs canonical written written' := by
    have differ : stepCodec.jcs (Serialize.toValue stepCodec sealedStep) ≠
        stepCodec.jcs (Serialize.toValue stepCodec rewrittenStep) := by decide +kernel
    exact absurd (written.trans written'.symm) differ
  blake3 canonical canonical' written written' same := by
    obtain rfl := Except.ok.inj written
    obtain rfl := Except.ok.inj written'
    have differ : blake3Truncated stepCodec (writeJson (Serialize.toValue stepCodec sealedStep)) ≠
        blake3Truncated stepCodec (writeJson (Serialize.toValue stepCodec rewrittenStep)) := by decide +kernel
    exact absurd same differ

theorem rewritten_tail_unreported :
    ¬∃ failure, verifyIntegrity stepCodec ⟨(afterAppends stepCodec [sealedStep]).receipts.set 0 rewrittenStep⟩ =
      .error failure := by
  rw [tampering_reported_iff stepCodec [sealedStep] 0 sealedStep rewrittenStep rfl rewrittenStep_ne steps_toldApart]
  exact fun reported => reported.elim (fun tail => absurd tail (by decide)) fun link => link rfl

/-- A change of the last receipt may go unreported. -/
theorem tail_tampering_missed :
    ¬∀ (codec : Codec) (offered : List EvidenceReceipt) (index : ℕ) (old new : EvidenceReceipt),
      (afterAppends codec offered).receipts[index]? = some old → new ≠ old → ToldApart codec old new →
      ∃ failure, verifyIntegrity codec ⟨(afterAppends codec offered).receipts.set index new⟩ = .error failure := by
  intro reported
  obtain ⟨failure, found⟩ := reported stepCodec
    [sealedStep] 0 sealedStep rewrittenStep rfl rewrittenStep_ne steps_toldApart
  have passes : verifyIntegrity stepCodec ⟨[rewrittenStep]⟩ = .ok () := rfl
  cases passes.symm.trans found

end ReceiptChain

end Aios.Evidence
