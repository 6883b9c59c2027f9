import Aios.Fs.Integrity

/-! # Moves of the CURRENT pointer

A write to an existing object records a compare-and-swap move of its CURRENT pointer. The expectation
it records is the version that the pointer targets when the write runs, not one that the client has
named, and the parents that the client names are only checked to be versions of the object. So the move
is one over a version the client has seen exactly if the parents happen to name it.
-/

namespace Aios.Fs

open Aios.Rust

variable {prims : Primitives}

namespace State

variable {store : State prims}

variable {write : ObjectWriteRequest} {context : FsContext} {now : DateTime} {result : ObjectWriteResult}

/-- Every move that the transaction of a write has recorded expects a parent of the new version. -/
def MovesSeen (store : State prims) (result : ObjectWriteResult) : Prop :=
  ∀ transaction, store.transactions.lookup result.transactionId = some transaction →
    ∀ move ∈ transaction.pointerMoves, ∃ version, store.versions.lookup result.versionId = some version ∧
      move.expectedCurrentVersionId ∈ version.parentVersionIds

/-- A write that returns has made its change and emitted its evidence. -/
theorem writeObject_ok_cases (keyed : store.Keyed) {emitFailure : Option String} {after : State prims}
    (written : writeObject write context now emitFailure store = .ok result after) :
    emitFailure = none ∧ result.versionId = store.versions.nextKey ∧ result.transactionId = store.transactions.nextKey ∧
      (store.Enabled (.created write context now) ∧ after = store.apply (.created write context now) ∨
        ∃ objectId pointerId replaced, store.Enabled (.extended write context now objectId pointerId replaced) ∧
          after = store.apply (.extended write context now objectId pointerId replaced)) := by
  have emitted : emitFailure = none := by
    cases emitFailure with
    | none => rfl
    | some failure =>
      rw [writeObject, thenEmit, Stateful.bind_apply] at written
      cases ran : writeLocked write context now store <;> rw [ran] at written <;> cases written
  subst emitted
  have ran : writeLocked write context now store = .ok result after := by
    rw [writeObject, thenEmit, Stateful.bind_apply] at written
    cases ran : writeLocked write context now store with
    | ok result' after' =>
      rw [ran] at written
      exact written
    | error failure after' =>
      rw [ran] at written
      cases written
  refine ⟨rfl, ?_⟩
  obtain ⟨failure, failed⟩ | ⟨change, enabled, makes, result', ran'⟩ := writeLocked_cases keyed write context now
  · rw [failed] at ran
    cases ran
  · cases change with
    | created write' context' now' =>
      obtain ⟨rfl, rfl, rfl⟩ := makes none
      rw [writeLocked_create now enabled] at ran
      cases ran
      exact ⟨rfl, rfl, .inl ⟨enabled, rfl⟩⟩
    | extended write' context' now' objectId pointerId replaced =>
      obtain ⟨rfl, rfl, rfl⟩ := makes none
      rw [writeLocked_extend now enabled] at ran
      cases ran
      exact ⟨rfl, rfl, .inr ⟨objectId, pointerId, replaced, enabled, rfl⟩⟩
    | _ => exact (makes none).elim

theorem movesSeen_created (write : ObjectWriteRequest) (context : FsContext) (now : DateTime)
    (transaction : result.transactionId = store.transactions.nextKey) :
    (store.apply (.created write context now)).MovesSeen result := by
  intro recorded stored move member
  change (store.transactions.add _).lookup result.transactionId = some recorded at stored
  rw [Ledger.lookup_add, if_pos transaction] at stored
  obtain rfl := Option.some.inj stored
  cases member

/-- The move of an extending write expects the version that it replaces. -/
theorem movesSeen_extended_iff {objectId : ObjectId} {pointerId : PointerId} {replaced : VersionId}
    (version : result.versionId = store.versions.nextKey)
    (transaction : result.transactionId = store.transactions.nextKey) :
    (store.apply (.extended write context now objectId pointerId replaced)).MovesSeen result ↔
      replaced ∈ write.parentVersionIds := by
  have recorded : (store.apply (.extended write context now objectId pointerId replaced)).transactions.lookup
      result.transactionId = some (newTransaction write context now objectId store.versions.nextKey
        store.transactions.nextKey (some ⟨pointerId, replaced, store.versions.nextKey⟩)) :=
    (Ledger.lookup_add _ _ _).trans (if_pos transaction)
  have created : (store.apply (.extended write context now objectId pointerId replaced)).versions.lookup
      result.versionId = some (newVersion prims write context now objectId store.versions.nextKey
        store.transactions.nextKey) := (Ledger.lookup_add _ _ _).trans (if_pos version)
  constructor
  · intro seen
    obtain ⟨held, found, parent⟩ := seen _ recorded _ (List.mem_singleton_self _)
    obtain rfl := Option.some.inj (created.symm.trans found)
    exact parent
  · intro parent other stored move member
    obtain rfl := Option.some.inj (recorded.symm.trans stored)
    obtain rfl := List.mem_singleton.mp member
    exact ⟨_, created, parent⟩

/-- Every successful write of a run moves CURRENT over a version it names as a parent, exactly if every write to
an existing object that passes its checks names the version that CURRENT then targets. -/
theorem no_lost_update_iff (prims : Primitives) (ops : List FsOp) :
    (∀ before write context now emitFailure rest result after,
      ops = before ++ .write write context now emitFailure :: rest →
        writeObject write context now emitFailure ((new prims).run before) = .ok result after →
          after.MovesSeen result) ↔
    ∀ before write context now rest objectId pointerId replaced, ops = before ++ .write write context now none :: rest →
      ((new prims).run before).Enabled (.extended write context now objectId pointerId replaced) →
        replaced ∈ write.parentVersionIds := by
  constructor
  · intro seen before write context now rest objectId pointerId replaced split enabled
    have written : writeObject write context now none ((new prims).run before) = .ok _ _ :=
      Stateful.bind_of_ok (writeLocked_extend now enabled)
    exact (movesSeen_extended_iff rfl rfl).mp (seen before write context now none rest _ _ split written)
  · intro named before write context now emitFailure rest result after split written
    obtain ⟨rfl, version, transaction, ⟨-, rfl⟩ | ⟨objectId, pointerId, replaced, enabled, rfl⟩⟩ :=
      writeObject_ok_cases (keyed_run prims before) written
    · exact movesSeen_created write context now transaction
    · exact (movesSeen_extended_iff version transaction).mpr
        (named before write context now rest objectId pointerId replaced split enabled)

/-- Two clients that have read the first version write one after the other. -/
def overwritten : List FsOp :=
  [.write (writeOf none [] ["c"]) aliceContext 0 none, .write (writeOf (some "o") ["v"] ["d"]) aliceContext 1 none,
    .write (writeOf (some "o") ["v"] ["e"]) aliceContext 2 none]

/-- The second one moves CURRENT over the version of the first. -/
theorem update_lost :
    ¬∀ (prims : Primitives) (ops : List FsOp) before write context now emitFailure rest result after,
      ops = before ++ .write write context now emitFailure :: rest →
        writeObject write context now emitFailure ((new prims).run before) = .ok result after →
          after.MovesSeen result := by
  intro seen
  have enabled : ((new tallied).run (overwritten.take 2)).Enabled
      (.extended (writeOf (some "o") ["v"] ["e"]) aliceContext 2 "o" "p" "vv") :=
    ⟨rfl, rfl, rfl, _, _, rfl, rfl, rfl, rfl⟩
  have written : writeObject (writeOf (some "o") ["v"] ["e"]) aliceContext 2 none
      ((new tallied).run (overwritten.take 2)) = .ok _ _ := Stateful.bind_of_ok (writeLocked_extend 2 enabled)
  have parent : "vv" ∈ (writeOf (some "o") ["v"] ["e"]).parentVersionIds :=
    (movesSeen_extended_iff rfl rfl).mp (seen tallied overwritten _ _ _ _ none [] _ _ rfl written)
  exact absurd parent (by decide)

end State

end Aios.Fs
