import Aios.Lib.Run
import Mathlib.Data.List.Nodup

/-! # From a replay to a live stream

A publisher pushes an item to its log in one step and sends it to the subscribers in another; a subscriber takes a
replay of the log in one step and registers for what is sent in another. Whatever the order of the steps of many
appends and one subscription, the subscriber has been given what it asked for, each item once and in the order of the
log, as long as it registers and is sent to in turn; and it is only then.
-/

namespace Handover

variable {σ ι κ α : Type*}

/-- A publisher with its log: a push that goes through adds one item, whose key it mints. -/
structure Publisher (σ ι κ α : Type*) where
  push : ι → σ → Option α × σ
  log : σ → List α
  key : α → κ
  mints : ι → κ
  pushes : ∀ input state, ((push input state).1 = none ∧ log (push input state).2 = log state) ∨
    ∃ item, key item = mints input ∧ (push input state).1 = some item ∧ log (push input state).2 = log state ++ [item]

/-- What a subscriber asks for: of a log, and of an item that it is sent. -/
structure Subscription (publisher : Publisher σ ι κ α) where
  replay : σ → List α
  passes : α → Bool
  wanted : List α → List α
  replay_eq : ∀ state, replay state = wanted (publisher.log state)
  wanted_sublist : ∀ log, (wanted log).Sublist log
  wanted_passes : ∀ log, ∀ item ∈ wanted log, passes item = true
  wanted_push : ∀ log item, wanted (log ++ [item]) = wanted log ∨ wanted (log ++ [item]) = wanted log ++ [item]

/-- A subscriber that has registered keeps what it has been sent apart from its replay. -/
inductive Subscriber (α : Type*) where
  | absent
  | replayed (replay : List α)
  | live (replay received : List α)
deriving DecidableEq

/-- The log of a publisher, the items it has pushed and not yet sent, and the subscriber. -/
structure Feed (σ α : Type*) where
  publisher : σ
  unsent : List α
  subscriber : Subscriber α

/-- The steps of the appends and of the subscription. The appends that have pushed are counted from the oldest. -/
inductive Move (ι : Type*) where
  | push (input : ι)
  | send (sender : ℕ)
  | snapshot
  | register

def Subscriber.receive (passes : α → Bool) (item : α) : Subscriber α → Subscriber α
  | .live replay received => .live replay (if passes item then received ++ [item] else received)
  | subscriber => subscriber

def Move.keys (publisher : Publisher σ ι κ α) : Move ι → List κ
  | .push input => [publisher.mints input]
  | .send _ | .snapshot | .register => []

/-- The keys of the log and those that the pushes mint are all different. -/
def Publisher.Fresh (publisher : Publisher σ ι κ α) (state : σ) (moves : List (Move ι)) : Prop :=
  ((publisher.log state).map publisher.key ++ moves.flatMap (Move.keys publisher)).Nodup

namespace Feed

variable {publisher : Publisher σ ι κ α} (subscription : Subscription publisher)

def start (state : σ) : Feed σ α := ⟨state, [], .absent⟩

def step (feed : Feed σ α) : Move ι → Feed σ α
  | .push input =>
    match publisher.push input feed.publisher with
    | (none, state) => { feed with publisher := state }
    | (some item, state) => { feed with publisher := state, unsent := feed.unsent ++ [item] }
  | .send sender =>
    match feed.unsent[sender]? with
    | none => feed
    | some item =>
      { feed with
        unsent := feed.unsent.eraseIdx sender
        subscriber := feed.subscriber.receive subscription.passes item }
  | .snapshot =>
    match feed.subscriber with
    | .absent => { feed with subscriber := .replayed (subscription.replay feed.publisher) }
    | _ => feed
  | .register =>
    match feed.subscriber with
    | .replayed replay => { feed with subscriber := .live replay [] }
    | _ => feed

def run (state : σ) (moves : List (Move ι)) : Feed σ α := StepRun.run (step subscription) (start state) moves

/-- What the subscriber asks for of the log as it stands. -/
def wanted (feed : Feed σ α) : List α := subscription.wanted (publisher.log feed.publisher)

end Feed

/-! ## What any order of the steps keeps -/

/-- The replay of a subscriber is an initial part of what it wants, and it has received what has been sent. -/
def Subscriber.Fits (wanted log unsent : List α) : Subscriber α → Prop
  | .absent => True
  | .replayed replay => replay <+: wanted
  | .live replay received => replay <+: wanted ∧ received ⊆ log ∧ ∀ item ∈ received, item ∉ unsent

namespace Feed

variable {publisher : Publisher σ ι κ α} {subscription : Subscription publisher} {feed : Feed σ α}

variable {state : σ} {sender : ℕ} {moves : List (Move ι)} {item : α}

/-- The items pushed differ in their keys, and those to be sent are among them. -/
structure Sound (subscription : Subscription publisher) (feed : Feed σ α) : Prop where
  distinct : ((publisher.log feed.publisher).map publisher.key).Nodup
  once : feed.unsent.Nodup
  pushed : feed.unsent ⊆ publisher.log feed.publisher
  fits : feed.subscriber.Fits (feed.wanted subscription) (publisher.log feed.publisher) feed.unsent

/-- A push that goes through adds its item to the log and to the items to be sent. -/
theorem step_push (subscription : Subscription publisher) (feed : Feed σ α) (input : ι) :
    (∃ state, feed.step subscription (.push input) = { feed with publisher := state } ∧
      publisher.log state = publisher.log feed.publisher) ∨
    ∃ item state, publisher.key item = publisher.mints input ∧
      feed.step subscription (.push input) = { feed with publisher := state, unsent := feed.unsent ++ [item] } ∧
      publisher.log state = publisher.log feed.publisher ++ [item] := by
  rw [step]
  obtain ⟨refused, kept⟩ | ⟨item, minted, added, grown⟩ := publisher.pushes input feed.publisher
  · cases ran : publisher.push input feed.publisher with
    | mk result state =>
      rw [ran] at refused kept
      subst refused
      exact .inl ⟨state, rfl, kept⟩
  · cases ran : publisher.push input feed.publisher with
    | mk result state =>
      rw [ran] at added grown
      subst added
      exact .inr ⟨item, state, minted, rfl, grown⟩

theorem wanted_prefix_push (log : List α) (item : α) :
    subscription.wanted log <+: subscription.wanted (log ++ [item]) := by
  obtain same | added := subscription.wanted_push log item
  · exact ⟨[], by rw [same, List.append_nil]⟩
  · exact ⟨_, added.symm⟩

theorem Sound.wanted_nodup (sound : feed.Sound subscription) : (feed.wanted subscription).Nodup :=
  (subscription.wanted_sublist _).nodup sound.distinct.of_map

/-- Taking an item out of those to be sent. -/
theorem Sound.taken (sound : feed.Sound subscription) (found : feed.unsent[sender]? = some item) (other : α) :
    other ∈ feed.unsent.eraseIdx sender ↔ other ∈ feed.unsent ∧ other ≠ item := by
  classical
  obtain ⟨bound, rfl⟩ := List.getElem?_eq_some_iff.mp found
  rw [← sound.once.erase_getElem sender bound, sound.once.mem_erase_iff, and_comm]

theorem Sound.refused (sound : feed.Sound subscription) (kept : publisher.log state = publisher.log feed.publisher) :
    Sound subscription { feed with publisher := state } := by
  obtain ⟨distinct, once, pushed, fits⟩ := sound
  rw [wanted] at fits
  rw [← kept] at distinct pushed fits
  exact ⟨distinct, once, pushed, fits⟩

/-- A fresh item is in none of the lists. -/
theorem Sound.push (sound : feed.Sound subscription)
    (fresh : publisher.key item ∉ (publisher.log feed.publisher).map publisher.key)
    (grown : publisher.log state = publisher.log feed.publisher ++ [item]) :
    Sound subscription { feed with publisher := state, unsent := feed.unsent ++ [item] } where
  distinct := by
    rw [grown, List.map_append, List.map_singleton, ← List.concat_eq_append]
    exact sound.distinct.concat fresh
  once := by
    rw [← List.concat_eq_append]
    exact sound.once.concat fun waiting => fresh (List.mem_map_of_mem (sound.pushed waiting))
  pushed := by
    rw [grown]
    exact List.append_subset.mpr ⟨List.Subset.trans sound.pushed (List.subset_append_left _ _),
      List.subset_append_right _ _⟩
  fits := by
    have fits := sound.fits
    rw [wanted] at fits ⊢
    rw [grown]
    cases ran : feed.subscriber with
    | absent => trivial
    | replayed replay =>
      rw [ran] at fits
      exact fits.trans (wanted_prefix_push _ _)
    | live replay received =>
      rw [ran] at fits
      obtain ⟨initial, inside, gone⟩ := fits
      refine ⟨initial.trans (wanted_prefix_push _ _), List.Subset.trans inside (List.subset_append_left _ _), ?_⟩
      intro other earlier waiting
      obtain waiting | same := List.mem_append.mp waiting
      · exact gone other earlier waiting
      · rw [List.mem_singleton] at same
        exact fresh (List.mem_map_of_mem (same ▸ inside earlier))

theorem Sound.send (sound : feed.Sound subscription) (found : feed.unsent[sender]? = some item) :
    Sound subscription { feed with
      unsent := feed.unsent.eraseIdx sender
      subscriber := feed.subscriber.receive subscription.passes item } where
  distinct := sound.distinct
  once := sound.once.sublist (List.eraseIdx_sublist ..)
  pushed _ waiting := sound.pushed ((sound.taken found _).mp waiting).1
  fits := by
    have fits := sound.fits
    have taken := sound.taken found
    have listed : item ∈ publisher.log feed.publisher := sound.pushed (List.mem_of_getElem? found)
    cases ran : feed.subscriber with
    | absent => trivial
    | replayed replay =>
      rw [ran] at fits
      exact fits
    | live replay received =>
      rw [ran] at fits
      obtain ⟨initial, inside, gone⟩ := fits
      have gone' : ∀ other ∈ received, other ∉ feed.unsent.eraseIdx sender :=
        fun other earlier waiting => gone other earlier ((taken other).mp waiting).1
      rw [Subscriber.receive]
      split_ifs
      · refine ⟨initial, List.append_subset.mpr ⟨inside, List.cons_subset.mpr ⟨listed, List.nil_subset _⟩⟩, ?_⟩
        intro other earlier waiting
        obtain earlier | same := List.mem_append.mp earlier
        · exact gone' other earlier waiting
        · exact ((taken other).mp waiting).2 (List.mem_singleton.mp same)
      · exact ⟨initial, inside, gone'⟩

/-- A step keeps the feed sound where it pushes with a fresh key. -/
theorem Sound.step (sound : feed.Sound subscription) {move : Move ι}
    (fresh : ∀ key ∈ move.keys publisher, key ∉ (publisher.log feed.publisher).map publisher.key) :
    (feed.step subscription move).Sound subscription ∧
      (publisher.log (feed.step subscription move).publisher).map publisher.key ⊆
        (publisher.log feed.publisher).map publisher.key ++ move.keys publisher := by
  cases move with
  | push input =>
    obtain ⟨state, moved, kept⟩ | ⟨item, state, minted, moved, grown⟩ := step_push subscription feed input
    · rw [moved]
      exact ⟨sound.refused kept, kept ▸ List.subset_append_left _ _⟩
    · rw [moved]
      refine ⟨sound.push (minted ▸ fresh _ (List.mem_singleton_self _)) grown, ?_⟩
      rw [grown, List.map_append, List.map_singleton, minted, Move.keys]
      exact List.Subset.refl _
  | send sender =>
    rw [Move.keys, List.append_nil, Feed.step]
    cases found : feed.unsent[sender]? with
    | none => exact ⟨sound, List.Subset.refl _⟩
    | some item => exact ⟨sound.send found, List.Subset.refl _⟩
  | snapshot =>
    rw [Move.keys, List.append_nil, Feed.step]
    cases ran : feed.subscriber with
    | absent =>
      refine ⟨⟨sound.distinct, sound.once, sound.pushed, ?_⟩, List.Subset.refl _⟩
      rw [subscription.replay_eq]
      exact List.prefix_refl _
    | replayed replay => exact ⟨sound, List.Subset.refl _⟩
    | live replay received => exact ⟨sound, List.Subset.refl _⟩
  | register =>
    rw [Move.keys, List.append_nil, Feed.step]
    cases ran : feed.subscriber with
    | replayed replay =>
      have fits := sound.fits
      rw [ran] at fits
      exact ⟨⟨sound.distinct, sound.once, sound.pushed, fits, List.nil_subset _, List.forall_mem_nil _⟩,
        List.Subset.refl _⟩
    | absent => exact ⟨sound, List.Subset.refl _⟩
    | live replay received => exact ⟨sound, List.Subset.refl _⟩

/-- The keys of a push are not among those before it. -/
theorem keys_fresh {before rest : List (Move ι)} {move : Move ι} (fresh : publisher.Fresh state moves)
    (split : moves = before ++ move :: rest) :
    ∀ key ∈ move.keys publisher,
      key ∉ (publisher.log state).map publisher.key ++ before.flatMap (Move.keys publisher) := by
  rw [Publisher.Fresh, split, List.flatMap_append, List.flatMap_cons, ← List.append_assoc] at fresh
  intro key minted listed
  exact (List.nodup_append.mp fresh).2.2 key listed key (List.mem_append_left _ minted) rfl

theorem sound_run (fresh : publisher.Fresh state moves) :
    ∀ before, before <+: moves → (run subscription state before).Sound subscription ∧
      (publisher.log (run subscription state before).publisher).map publisher.key ⊆
        (publisher.log state).map publisher.key ++ before.flatMap (Move.keys publisher) := by
  refine StepRun.run_invariant_along (fun before (feed : Feed σ α) => feed.Sound subscription ∧
    (publisher.log feed.publisher).map publisher.key ⊆
      (publisher.log state).map publisher.key ++ before.flatMap (Move.keys publisher)) ⟨?_, ?_⟩ ?_
  · exact ⟨(List.nodup_append.mp fresh).1, List.nodup_nil, List.nil_subset _, trivial⟩
  · exact List.subset_append_left _ _
  rintro before move rest split ⟨sound, listed⟩
  obtain ⟨sound', listed'⟩ := sound.step fun key minted earlier => keys_fresh fresh split key minted (listed earlier)
  refine ⟨sound', List.Subset.trans listed' ?_⟩
  rw [List.flatMap_append, List.flatMap_singleton, ← List.append_assoc]
  exact List.append_subset.mpr ⟨List.Subset.trans listed (List.subset_append_left _ _), List.subset_append_right _ _⟩

end Feed

/-! ## Items in step -/

section

variable [DecidableEq α]

/-- Of what is wanted, an initial part has been delivered, each item once and in order, and the rest is to be sent. -/
structure InStep (wanted delivered unsent : List α) : Prop where
  ordered : delivered.filter (· ∈ wanted) <+: wanted
  complete : ∀ item ∈ wanted, item ∉ unsent → item ∈ delivered

namespace InStep

variable {wanted delivered unsent : List α}

/-- An item is pushed that nothing has delivered. -/
theorem push (inStep : InStep wanted delivered unsent) {item : α} (fresh : item ∉ delivered) :
    InStep (wanted ++ [item]) delivered (unsent ++ [item]) where
  ordered := by
    have same : delivered.filter (· ∈ wanted ++ [item]) = delivered.filter (· ∈ wanted) := by
      apply List.filter_congr
      intro other inside
      have different : other ≠ item := fun same => fresh (same ▸ inside)
      simp [different]
    rw [same]
    exact inStep.ordered.trans (List.prefix_append _ _)
  complete other asked sent := by
    rw [List.mem_append, not_or] at sent
    obtain asked | added := List.mem_append.mp asked
    · exact inStep.complete other asked sent.1
    · exact absurd added sent.2

theorem mono {unsent' : List α} (inStep : InStep wanted delivered unsent) (more : unsent ⊆ unsent') :
    InStep wanted delivered unsent' :=
  ⟨inStep.ordered, fun item asked sent => inStep.complete item asked fun waiting => sent (more waiting)⟩

/-- A subscriber is in step when it registers if what is wanted beyond its replay is still to be sent. -/
theorem register_iff {replay awaited : List α} (once : (replay ++ awaited).Nodup) :
    InStep (replay ++ awaited) replay unsent ↔ ∀ item ∈ awaited, item ∈ unsent := by
  constructor
  · intro inStep item asked
    by_contra sent
    have again := inStep.complete item (List.mem_append_right _ asked) sent
    exact (List.nodup_append.mp once).2.2 item again item asked rfl
  · intro waiting
    refine ⟨?_, fun item asked sent => ?_⟩
    · rw [List.filter_eq_self.mpr fun item inside => decide_eq_true (List.mem_append_left _ inside)]
      exact List.prefix_append _ _
    · obtain inside | asked := List.mem_append.mp asked
      · exact inside
      · exact absurd (waiting item asked) sent

variable {item : α} {unsent' : List α}

/-- An item is sent that is not wanted. -/
theorem send_unwanted {delivered' : List α} (inStep : InStep wanted delivered unsent) (unasked : item ∉ wanted)
    (taken : ∀ other, other ∈ unsent' ↔ other ∈ unsent ∧ other ≠ item)
    (adds : delivered' = delivered ∨ delivered' = delivered ++ [item]) : InStep wanted delivered' unsent' where
  ordered := by
    obtain rfl | rfl := adds
    · exact inStep.ordered
    · rw [List.filter_append, List.filter_cons_of_neg (by simpa using unasked), List.filter_nil, List.append_nil]
      exact inStep.ordered
  complete other asked sent := by
    have different : other ≠ item := fun same => unasked (same ▸ asked)
    have sent' : other ∉ unsent := fun waiting => sent ((taken other).mpr ⟨waiting, different⟩)
    have inside := inStep.complete other asked sent'
    obtain rfl | rfl := adds
    · exact inside
    · exact List.mem_append_left _ inside

/-- A wanted item is sent in step exactly if it is the first of those beyond the replay that are still to be sent. -/
theorem send_iff {replay received awaited : List α} (once : (replay ++ awaited).Nodup)
    (gone : ∀ other ∈ received, other ∉ unsent) (taken : ∀ other, other ∈ unsent' ↔ other ∈ unsent ∧ other ≠ item)
    (asked : item ∈ replay ++ awaited) (inStep : InStep (replay ++ awaited) (replay ++ received) unsent) :
    InStep (replay ++ awaited) (replay ++ (received ++ [item])) unsent' ↔
      awaited.find? (· ∈ unsent) = some item := by
  have kept : replay.filter (· ∈ replay ++ awaited) = replay :=
    List.filter_eq_self.mpr fun other inside => decide_eq_true (List.mem_append_left _ inside)
  have ordered := inStep.ordered
  rw [List.filter_append, kept, List.prefix_append_right_inj] at ordered
  generalize shown : received.filter (· ∈ replay ++ awaited) = early at ordered
  obtain ⟨rest, rfl⟩ := ordered
  -- what has been received of the awaited items comes first, and all the rest is to be sent
  have waiting : ∀ other ∈ rest, other ∈ unsent := by
    intro other later
    have inside : other ∈ early ++ rest := List.mem_append_right _ later
    by_contra sent
    obtain before | before := List.mem_append.mp (inStep.complete other (List.mem_append_right _ inside) sent)
    · exact (List.nodup_append.mp once).2.2 other before other inside rfl
    · have listed : other ∈ early :=
        shown ▸ List.mem_filter.mpr ⟨before, decide_eq_true (List.mem_append_right _ inside)⟩
      exact (List.nodup_append.mp (List.nodup_append.mp once).2.1).2.2 other listed other later rfl
  have found : (early ++ rest).find? (· ∈ unsent) = rest.head? := by
    have none : early.find? (· ∈ unsent) = none := by
      simp only [List.find?_eq_none, decide_eq_true_eq]
      exact fun other listed => gone other (List.mem_filter.mp (shown ▸ listed)).1
    rw [List.find?_append, none, Option.none_or]
    cases rest with
    | nil => rfl
    | cons first rest => exact List.find?_cons_of_pos (decide_eq_true (waiting first List.mem_cons_self))
  have single : [item].filter (· ∈ replay ++ (early ++ rest)) = [item] := List.filter_cons_of_pos (decide_eq_true asked)
  have due : (replay ++ (received ++ [item])).filter (· ∈ replay ++ (early ++ rest)) <+: replay ++ (early ++ rest) ↔
      rest.head? = some item := by
    rw [List.filter_append, List.filter_append, single, kept, shown, List.prefix_append_right_inj,
      List.prefix_append_right_inj]
    cases rest with
    | nil => simp
    | cons first rest => simp [eq_comm]
  rw [found, ← due]
  refine ⟨InStep.ordered, fun ordered => ⟨ordered, fun other wanted sent => ?_⟩⟩
  rw [← List.append_assoc, List.mem_append, List.mem_singleton]
  by_cases same : other = item
  · exact .inr same
  · exact .inl (inStep.complete other wanted fun waits => sent ((taken other).mpr ⟨waits, same⟩))

end InStep

/-! ## Steps in turn -/

namespace Feed

variable {publisher : Publisher σ ι κ α} (subscription : Subscription publisher)

/-- What has been pushed since the replay was taken, of what the subscriber wants. -/
def awaited (feed : Feed σ α) : List α :=
  match feed.subscriber with
  | .absent => feed.wanted subscription
  | .replayed replay | .live replay _ => (feed.wanted subscription).drop replay.length

/-- A subscriber that has registered has been delivered what it wants in step. -/
def Delivers (feed : Feed σ α) : Prop :=
  match feed.subscriber with
  | .absent | .replayed _ => True
  | .live replay received => InStep (feed.wanted subscription) (replay ++ received) feed.unsent

/-- A subscriber registers while all it awaits is to be sent, and a wanted item is sent to it only if it is the first
of those awaited that are to be sent. -/
def InTurn (feed : Feed σ α) : Move ι → Prop
  | .push _ | .snapshot => True
  | .register =>
    match feed.subscriber with
    | .replayed _ => ∀ item ∈ feed.awaited subscription, item ∈ feed.unsent
    | .absent | .live .. => True
  | .send sender =>
    match feed.subscriber with
    | .live .. => ∀ item ∈ feed.wanted subscription, feed.unsent[sender]? = some item →
        (feed.awaited subscription).find? (· ∈ feed.unsent) = some item
    | .absent | .replayed _ => True

variable {subscription} {feed : Feed σ α}

/-- A push leaves a subscriber in step: what it adds to what is wanted is to be sent. -/
theorem Sound.delivers_push (sound : feed.Sound subscription) (delivers : feed.Delivers subscription) {input : ι}
    (fresh : publisher.mints input ∉ (publisher.log feed.publisher).map publisher.key) :
    (feed.step subscription (.push input)).Delivers subscription := by
  obtain ⟨state, moved, kept⟩ | ⟨item, state, minted, moved, grown⟩ := step_push subscription feed input
  · rw [moved]
    rw [Delivers, wanted] at delivers ⊢
    rw [kept]
    exact delivers
  · have fits := sound.fits
    rw [moved]
    rw [Delivers] at delivers ⊢
    cases ran : feed.subscriber with
    | absent => trivial
    | replayed replay => trivial
    | live replay received =>
      rw [ran] at fits delivers
      obtain ⟨initial, inside, -⟩ := fits
      have undelivered : item ∉ replay ++ received := by
        intro early
        have listed : item ∈ publisher.log feed.publisher := by
          obtain early | early := List.mem_append.mp early
          · exact (subscription.wanted_sublist _).subset (initial.subset early)
          · exact inside early
        exact fresh (minted ▸ List.mem_map_of_mem listed)
      rw [wanted] at delivers ⊢
      dsimp only
      rw [grown]
      obtain same | added := subscription.wanted_push (publisher.log feed.publisher) item
      · rw [same]
        exact delivers.mono (List.subset_append_left _ _)
      · rw [added]
        exact delivers.push undelivered

/-- A send is in turn exactly if it leaves the subscriber in step. -/
theorem Sound.delivers_send_iff (sound : feed.Sound subscription) (delivers : feed.Delivers subscription) (sender : ℕ) :
    (feed.step subscription (.send sender)).Delivers subscription ↔ feed.InTurn subscription (.send sender) := by
  have fits := sound.fits
  rw [Feed.step]
  cases found : feed.unsent[sender]? with
  | none =>
    refine iff_of_true delivers ?_
    rw [InTurn, found]
    cases feed.subscriber with
    | absent => trivial
    | replayed replay => trivial
    | live replay received => exact fun item asked sent => absurd sent (Option.some_ne_none item).symm
  | some item =>
    rw [Delivers] at delivers ⊢
    rw [InTurn, found, awaited]
    cases ran : feed.subscriber with
    | absent => exact Iff.rfl
    | replayed replay => exact Iff.rfl
    | live replay received =>
      rw [ran] at fits delivers
      obtain ⟨⟨awaited, split⟩, -, gone⟩ := fits
      have once := sound.wanted_nodup
      dsimp only
      rw [Subscriber.receive]
      dsimp only
      change InStep (feed.wanted subscription) _ (feed.unsent.eraseIdx sender) ↔ _
      rw [← split] at delivers once ⊢
      rw [List.drop_left]
      by_cases asked : item ∈ replay ++ awaited
      · rw [if_pos (subscription.wanted_passes _ item (split ▸ asked)),
          InStep.send_iff once gone (sound.taken found) asked delivers]
        exact ⟨fun due other _ same => Option.some.inj same ▸ due, fun due => due item asked rfl⟩
      · refine iff_of_true (delivers.send_unwanted asked (sound.taken found) ?_) ?_
        · split_ifs
          · exact .inr (List.append_assoc ..).symm
          · exact .inl rfl
        · rintro other wanted same
          exact absurd (Option.some.inj same ▸ wanted) asked

/-- A subscriber registers in turn exactly if it is in step then. -/
theorem Sound.delivers_register_iff (sound : feed.Sound subscription) (delivers : feed.Delivers subscription) :
    (feed.step subscription .register).Delivers subscription ↔ feed.InTurn subscription .register := by
  have fits := sound.fits
  rw [Feed.step, InTurn, awaited]
  cases ran : feed.subscriber with
  | absent => exact iff_of_true delivers trivial
  | live replay received => exact iff_of_true delivers trivial
  | replayed replay =>
    rw [ran] at fits
    obtain ⟨awaited, split⟩ := fits
    have once := sound.wanted_nodup
    change InStep (feed.wanted subscription) (replay ++ []) feed.unsent ↔ _
    dsimp only
    rw [← split] at once ⊢
    rw [List.append_nil, List.drop_left]
    exact InStep.register_iff once

/-- A step leaves the subscriber in step exactly if it is in turn. -/
theorem Sound.delivers_step_iff (sound : feed.Sound subscription) (delivers : feed.Delivers subscription)
    {move : Move ι}
    (fresh : ∀ key ∈ move.keys publisher, key ∉ (publisher.log feed.publisher).map publisher.key) :
    (feed.step subscription move).Delivers subscription ↔ feed.InTurn subscription move := by
  cases move with
  | push input => exact iff_of_true (sound.delivers_push delivers (fresh _ (List.mem_singleton_self _))) trivial
  | send sender => exact sound.delivers_send_iff delivers sender
  | register => exact sound.delivers_register_iff delivers
  | snapshot =>
    refine iff_of_true ?_ trivial
    rw [Feed.step]
    cases ran : feed.subscriber with
    | absent => trivial
    | replayed replay => exact delivers
    | live replay received => exact delivers

/-- In every state of a run the subscriber is in step exactly if every step of the run is in turn. -/
theorem delivers_iff (subscription : Subscription publisher) (state : σ) (moves : List (Move ι))
    (fresh : publisher.Fresh state moves) :
    (∀ before, before <+: moves → (run subscription state before).Delivers subscription) ↔
      ∀ before move rest, moves = before ++ move :: rest →
        (run subscription state before).InTurn subscription move := by
  have initial : (start state : Feed σ α).Delivers subscription := trivial
  refine StepRun.forall_prefix_iff_cut initial fun before move rest split delivers => ?_
  obtain ⟨sound, listed⟩ := sound_run fresh before ⟨move :: rest, split.symm⟩
  exact sound.delivers_step_iff delivers fun key minted earlier => keys_fresh fresh split key minted (listed earlier)

end Feed

end

end Handover
