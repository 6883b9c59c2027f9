import Aios.Sgr.GraphCalls

/-! # Readiness is not reported early

What an evaluation that answers true says about the units its unit requires. The hard edges it lists are
each found running or healthy while it goes on; that it lists all the edges of the manifest depends on
the registration of the unit being over by then. The invariant follows the manifest of each unit to the
edges in the graph, or to the registration that has still to add them.
-/

namespace Aios.Sgr

open Aios.Rust

namespace ServiceGraphHost

variable {crypto : ManifestCrypto} {trustedAuthorities : Table String crypto.VerifyingKey} {host : ServiceGraphHost}
  {events : List GraphEvent}

variable {unitId : UnitId} {evaluation : Evaluation} {call : Call} {P : UnitManifest → Prop} {unit : ServiceUnit}

/-- The unit is inserted and its declared edges are not. -/
def Registering (host : ServiceGraphHost) (unitId : UnitId) : Prop :=
  ∃ declared, Call.registering unitId declared ∈ host.calls

/-- The unit is registered and its state is accepted. -/
def Met (accepted : UnitState → Bool) (host : ServiceGraphHost) (unitId : UnitId) : Prop :=
  (host.graph.units.lookup unitId).any (fun unit => accepted unit.state) = true

instance (accepted : UnitState → Bool) (host : ServiceGraphHost) (unitId : UnitId) :
    Decidable (host.Met accepted unitId) := inferInstanceAs (Decidable (_ = true))

/-- An evaluation that answers true is right about every hard dependency of the manifest: at some moment
of the call its target was in an accepted state. Excused are the units that are `excused` when the call
lists their edges. -/
def ReadyOnTime (accepted : DependencyKind → UnitState → Bool) (excused : ServiceGraphHost → UnitId → Prop)
    (trustedAuthorities : Table String crypto.VerifyingKey) (events : List GraphEvent) : Prop :=
  ∀ moment event evaluation unit, events[moment]? = some event →
    (hostAt trustedAuthorities events moment).reply trustedAuthorities event = some (.readiness evaluation true) →
    (hostAt trustedAuthorities events moment).graph.units.lookup evaluation.unitId = some unit →
    ¬ excused (hostAt trustedAuthorities events evaluation.listed) evaluation.unitId →
    ∀ dependency ∈ unit.manifest.dependencies, dependency.kind.isHard = true →
      ∃ during, evaluation.begun ≤ during ∧ during ≤ moment + 1 ∧
        (hostAt trustedAuthorities events during).Met (accepted dependency.kind) dependency.unitId

/-! ## What stays known of a manifest -/

/-- The unit is registered, under a manifest with the property. -/
def ManifestHas (host : ServiceGraphHost) (unitId : UnitId) (P : UnitManifest → Prop) : Prop :=
  ∃ unit, host.graph.units.lookup unitId = some unit ∧ P unit.manifest

theorem ManifestHas.mono {Q : UnitManifest → Prop} (has : host.ManifestHas unitId P)
    (weaker : ∀ manifest, P manifest → Q manifest) : host.ManifestHas unitId Q := by
  obtain ⟨unit, stored, holds⟩ := has
  exact ⟨unit, stored, weaker unit.manifest holds⟩

theorem units_advance (call : Call) (graph : InMemoryServiceGraph) (moment : ℕ) :
    (call.advance graph moment).1.units = graph.units := by
  cases call with
  | registering unitId declared => rfl
  | declaring edge => rfl
  | listing unitId begun => rfl
  | checking evaluation edge rest =>
    rw [Call.advance]
    cases graph.getUnit edge.toUnitId <;> rfl

/-- A registered unit stays registered, under the manifest it has. -/
theorem ManifestHas.step (has : host.ManifestHas unitId P) (event : GraphEvent) :
    (host.step trustedAuthorities event).ManifestHas unitId P := by
  obtain ⟨unit, stored, holds⟩ := has
  obtain ⟨position, rfl⟩ | first := firstSection trustedAuthorities host event
  · refine ⟨unit, ?_, holds⟩
    cases found : host.calls[position]? with
    | none => rw [step_advance_none found, stored]
    | some call => rw [step_advance_some found, units_advance, stored]
  · have kept {manifest : UnitManifest} {inserted : ServiceUnit}
        (fresh : host.graph.units.lookup manifest.unitId = none) :
        (host.graph.units.insert manifest.unitId inserted).lookup unitId = some unit := by
      rw [Table.lookup_insert_eq]
      split_ifs with own
      · rw [own, fresh] at stored
        cases stored
      · exact stored
    rw [ManifestHas, ServiceGraphHost.step]
    generalize host.runSection trustedAuthorities event = result at first
    cases first with
    | ends reply plain => exact ⟨unit, stored, holds⟩
    | declares edge => exact ⟨unit, stored, holds⟩
    | lists listed registered => exact ⟨unit, stored, holds⟩
    | inserts manifest now fresh free => exact ⟨unit, kept fresh, holds⟩
    | registers manifest now fresh => exact ⟨unit, kept fresh, holds⟩
    | moves moved old state now present =>
      dsimp only
      rw [Table.lookup_insert_eq]
      split_ifs with own
      · rw [own, present] at stored
        obtain rfl := Option.some.inj stored
        exact ⟨_, rfl, holds⟩
      · exact ⟨unit, stored, holds⟩

/-! ## Calls under way -/

/-- Of the edges the manifest declares, each hard one is still to be looked at or has been found stable,
if the edges were listed after the registration of the unit. -/
def Checks (trustedAuthorities : Table String crypto.VerifyingKey) (events : List GraphEvent)
    (host : ServiceGraphHost) (evaluation : Evaluation) (remaining : List DependencyEdge) : Prop :=
  evaluation.begun ≤ host.moment ∧
    host.ManifestHas evaluation.unitId fun manifest =>
      ¬ (hostAt trustedAuthorities events evaluation.listed).Registering evaluation.unitId →
      ∀ edge ∈ InMemoryServiceGraph.declaredEdges manifest, edge.kind.isHard = true →
        edge ∈ remaining ∨ ∃ during, evaluation.begun ≤ during ∧ during ≤ host.moment ∧
          (hostAt trustedAuthorities events during).Met isRunningStable edge.toUnitId

/-- What holds of a call between two of its sections. -/
def CallSound (trustedAuthorities : Table String crypto.VerifyingKey) (events : List GraphEvent)
    (host : ServiceGraphHost) : Call → Prop
  | .registering unitId declared =>
    host.ManifestHas unitId fun manifest => InMemoryServiceGraph.declaredEdges manifest = declared
  | .declaring _ => True
  | .listing unitId begun => begun ≤ host.moment ∧ host.graph.IsRegistered unitId
  | .checking evaluation edge rest => Checks trustedAuthorities events host evaluation (edge :: rest)

/-- The edges that a manifest declares are in the graph, or its registration is under way; and every call
under way is sound. -/
structure Sound (trustedAuthorities : Table String crypto.VerifyingKey) (events : List GraphEvent)
    (host : ServiceGraphHost) : Prop where
  here : hostAt trustedAuthorities events host.moment = host
  covered : ∀ unitId unit, host.graph.units.lookup unitId = some unit →
    host.Registering unitId ∨
      ∀ edge ∈ InMemoryServiceGraph.declaredEdges unit.manifest, edge ∈ host.graph.edgesFrom unitId
  calls : ∀ call ∈ host.calls, CallSound trustedAuthorities events host call

theorem moment_step (event : GraphEvent) : (host.step trustedAuthorities event).moment = host.moment + 1 := rfl

theorem isRegistered_step (registered : host.graph.IsRegistered unitId) (event : GraphEvent) :
    (host.step trustedAuthorities event).graph.IsRegistered unitId := by
  obtain ⟨unit, stored⟩ := Option.isSome_iff_exists.mp registered
  have has : host.ManifestHas unitId fun _ => True := ⟨unit, stored, trivial⟩
  obtain ⟨after, kept, -⟩ := has.step event
  exact Option.isSome_iff_exists.mpr ⟨after, kept⟩

theorem Checks.step {remaining : List DependencyEdge}
    (checks : Checks trustedAuthorities events host evaluation remaining) (event : GraphEvent) :
    Checks trustedAuthorities events (host.step trustedAuthorities event) evaluation remaining := by
  obtain ⟨begun, known⟩ := checks
  refine ⟨Nat.le_succ_of_le begun, (known.step event).mono fun manifest found clear edge declared hard => ?_⟩
  obtain ahead | ⟨during, since, before, met⟩ := found clear edge declared hard
  · exact .inl ahead
  · exact .inr ⟨during, since, Nat.le_succ_of_le before, met⟩

theorem CallSound.step (sound : CallSound trustedAuthorities events host call) (event : GraphEvent) :
    CallSound trustedAuthorities events (host.step trustedAuthorities event) call := by
  cases call with
  | registering unitId declared =>
    have has : host.ManifestHas unitId fun manifest => InMemoryServiceGraph.declaredEdges manifest = declared := sound
    exact has.step event
  | declaring edge => trivial
  | listing unitId begun => exact ⟨Nat.le_succ_of_le sound.1, isRegistered_step sound.2 event⟩
  | checking evaluation edge rest => exact Checks.step sound event

/-- Passing over the edges that are not hard. -/
theorem resume_cases (evaluation : Evaluation) (edges : List DependencyEdge) :
    (resume evaluation edges = .inr (.readiness evaluation true) ∧ ∀ edge ∈ edges, edge.kind.isHard = false) ∨
    ∃ next rest, resume evaluation edges = .inl (.checking evaluation next rest) ∧
      ∀ edge ∈ edges, edge.kind.isHard = true → edge ∈ next :: rest := by
  induction edges with
  | nil => exact .inl ⟨rfl, fun edge member => absurd member List.not_mem_nil⟩
  | cons edge rest ih =>
    rw [resume]
    cases hard : edge.kind.isHard with
    | true => exact .inr ⟨edge, rest, rfl, fun _ member _ => member⟩
    | false =>
      obtain ⟨done, soft⟩ | ⟨next, later, goesOn, kept⟩ := ih
      · refine .inl ⟨done, fun other member => ?_⟩
        obtain rfl | later := List.mem_cons.mp member
        · exact hard
        · exact soft other later
      · refine .inr ⟨next, later, goesOn, fun other member hard' => ?_⟩
        obtain rfl | rest := List.mem_cons.mp member
        · rw [hard] at hard'
          cases hard'
        · exact kept other rest hard'

/-- What the section of a call under way can do: add edges, or end without an answer, or go on with an
evaluation that has been sound so far. -/
theorem advance_cases (sound : Sound trustedAuthorities events host) (member : call ∈ host.calls) :
    (∃ unitId edges, call.advance host.graph host.moment = (host.graph.extendDependencies unitId edges, .inr .done) ∧
      ∀ other declared, call = .registering other declared → other = unitId ∧ declared = edges) ∨
    (∀ unitId declared, call ≠ .registering unitId declared) ∧
      ((∃ reply, call.advance host.graph host.moment = (host.graph, .inr reply) ∧
          ∀ evaluation, reply ≠ .readiness evaluation true) ∨
        ∃ evaluation remaining, call.advance host.graph host.moment = (host.graph, resume evaluation remaining) ∧
          Checks trustedAuthorities events host evaluation remaining) := by
  have callSound := sound.calls call member
  cases call with
  | registering unitId declared =>
    refine .inl ⟨unitId, declared, rfl, fun other edges same => ?_⟩
    cases same
    exact ⟨rfl, rfl⟩
  | declaring edge => exact .inl ⟨edge.fromUnitId, [edge], rfl, fun _ _ same => by cases same⟩
  | listing unitId begun =>
    obtain ⟨since, registered⟩ := callSound
    obtain ⟨unit, stored⟩ := Option.isSome_iff_exists.mp registered
    refine .inr ⟨fun _ _ same => (by cases same), .inr ⟨⟨unitId, begun, host.moment⟩, _, rfl, since, unit, stored, ?_⟩⟩
    intro clear edge declared _
    rw [sound.here] at clear
    obtain registering | inGraph := sound.covered unitId unit stored
    · exact absurd registering clear
    · exact .inl (inGraph edge declared)
  | checking evaluation edge rest =>
    refine .inr ⟨fun _ _ same => (by cases same), ?_⟩
    rw [Call.advance, InMemoryServiceGraph.getUnit]
    cases stored : host.graph.units.lookup edge.toUnitId with
    | none => exact .inl ⟨_, rfl, fun _ same => by cases same⟩
    | some dependency =>
      dsimp only
      cases stable : isRunningStable dependency.state with
      | false => exact .inl ⟨_, rfl, fun _ same => by cases same⟩
      | true =>
        obtain ⟨since, known⟩ := callSound
        have met : (hostAt trustedAuthorities events host.moment).Met isRunningStable edge.toUnitId := by
          rw [sound.here, Met, stored]
          exact stable
        refine .inr ⟨evaluation, rest, rfl, since, known.mono fun manifest found clear other declared hard => ?_⟩
        obtain ahead | earlier := found clear other declared hard
        · obtain rfl | later := List.mem_cons.mp ahead
          · exact .inr ⟨host.moment, since, le_rfl, met⟩
          · exact .inl later
        · exact .inr earlier

/-! ## Every section keeps them sound -/

/-- The first section of a call leaves the edges and the calls under way alone. -/
theorem firstSection_frame {event : GraphEvent} (first : FirstSection host (host.runSection trustedAuthorities event)) :
    (host.step trustedAuthorities event).graph.dependencies = host.graph.dependencies ∧
      ∀ call ∈ host.calls, call ∈ (host.step trustedAuthorities event).calls := by
  rw [step]
  generalize host.runSection trustedAuthorities event = result at first
  cases first with
  | ends reply plain => exact ⟨rfl, fun _ member => member⟩
  | declares edge => exact ⟨rfl, fun _ member => List.mem_append_left _ member⟩
  | lists unitId registered => exact ⟨rfl, fun _ member => List.mem_append_left _ member⟩
  | inserts manifest now fresh free => exact ⟨rfl, fun _ member => member⟩
  | registers manifest now fresh => exact ⟨rfl, fun _ member => List.mem_append_left _ member⟩
  | moves unitId unit state now stored => exact ⟨rfl, fun _ member => member⟩

/-- Whatever section runs, the declared edges of a registered unit do not get lost. -/
theorem Sound.covered_step (sound : Sound trustedAuthorities events host)
    (stored : host.graph.units.lookup unitId = some unit) (event : GraphEvent) :
    (host.step trustedAuthorities event).Registering unitId ∨
      ∀ edge ∈ InMemoryServiceGraph.declaredEdges unit.manifest,
        edge ∈ (host.step trustedAuthorities event).graph.edgesFrom unitId := by
  obtain ⟨position, rfl⟩ | first := firstSection trustedAuthorities host event
  · cases found : host.calls[position]? with
    | none =>
      rw [step_advance_none found]
      exact sound.covered unitId unit stored
    | some call =>
      have member : call ∈ host.calls := List.mem_of_getElem? found
      rw [step_advance_some found]
      have still {other : Call} (pending : other ∈ host.calls) (different : other ≠ call) :
          other ∈ host.calls.eraseIdx position := by
        obtain ⟨index, place⟩ := List.mem_iff_getElem?.mp pending
        refine List.mem_eraseIdx_iff_getElem?.mpr ⟨index, ?_, place⟩
        rintro rfl
        exact different (Option.some.inj (place.symm.trans found))
      obtain ⟨source, added, advanced, own⟩ | ⟨other, unchanged⟩ := advance_cases sound member
      · rw [advanced, InMemoryServiceGraph.edgesFrom_extendDependencies]
        obtain ⟨declared, pending⟩ | inGraph := sound.covered unitId unit stored
        · by_cases same : Call.registering unitId declared = call
          · -- the registration that ends here is the one of the unit
            obtain ⟨rfl, rfl⟩ := own unitId declared same.symm
            obtain ⟨known, present, declares⟩ := sound.calls _ pending
            obtain rfl := Option.some.inj (stored.symm.trans present)
            refine .inr fun edge member => ?_
            rw [if_pos rfl]
            exact List.mem_append_right _ (declares ▸ member)
          · exact .inl ⟨declared, List.mem_append_left _ (still pending same)⟩
        · refine .inr fun edge member => ?_
          split_ifs
          · exact List.mem_append_left _ (inGraph edge member)
          · exact inGraph edge member
      · have graph : (call.advance host.graph host.moment).1 = host.graph := by
          obtain ⟨reply, advanced, -⟩ | ⟨evaluation, remaining, advanced, -⟩ := unchanged
          · rw [advanced]
          · rw [advanced]
        rw [graph]
        obtain ⟨declared, pending⟩ | inGraph := sound.covered unitId unit stored
        · exact .inl ⟨declared, List.mem_append_left _ (still pending (other unitId declared).symm)⟩
        · exact .inr inGraph
  · obtain ⟨edges, calls⟩ := firstSection_frame first
    obtain ⟨declared, pending⟩ | inGraph := sound.covered unitId unit stored
    · exact .inl ⟨declared, calls _ pending⟩
    · refine .inr fun edge member => ?_
      rw [InMemoryServiceGraph.edgesFrom, edges]
      exact inGraph edge member

/-- The call that a first section leaves under way is sound. -/
theorem firstSection_calls {event : GraphEvent} (first : FirstSection host (host.runSection trustedAuthorities event)) :
    ∀ call ∈ (host.step trustedAuthorities event).calls,
      call ∈ host.calls ∨ CallSound trustedAuthorities events (host.step trustedAuthorities event) call := by
  rw [step]
  generalize host.runSection trustedAuthorities event = result at first
  intro call member
  cases first with
  | ends reply plain => exact .inl member
  | declares edge =>
    obtain old | new := List.mem_append.mp member
    · exact .inl old
    · obtain rfl := List.mem_singleton.mp new
      exact .inr trivial
  | lists unitId registered =>
    obtain old | new := List.mem_append.mp member
    · exact .inl old
    · obtain rfl := List.mem_singleton.mp new
      exact .inr ⟨Nat.le_succ _, registered⟩
  | inserts manifest now fresh free => exact .inl member
  | registers manifest now fresh =>
    obtain old | new := List.mem_append.mp member
    · exact .inl old
    · obtain rfl := List.mem_singleton.mp new
      refine .inr ⟨⟨manifest.unitId, manifest, .queued, now⟩, ?_, rfl⟩
      rw [Table.lookup_insert_eq, if_pos rfl]
  | moves unitId unit state now stored => exact .inl member

/-- A call that is under way after a section was so before, or is sound from its first section on. -/
theorem Sound.calls_step (sound : Sound trustedAuthorities events host) (event : GraphEvent) :
    ∀ call ∈ (host.step trustedAuthorities event).calls,
      call ∈ host.calls ∨ CallSound trustedAuthorities events (host.step trustedAuthorities event) call := by
  obtain ⟨position, rfl⟩ | first := firstSection trustedAuthorities host event
  · cases found : host.calls[position]? with
    | none =>
      rw [step_advance_none found]
      exact fun _ member => .inl member
    | some call =>
      have member : call ∈ host.calls := List.mem_of_getElem? found
      intro other pending
      rw [step_advance_some found] at pending
      obtain old | new := List.mem_append.mp pending
      · exact .inl (List.mem_of_mem_eraseIdx old)
      · obtain ⟨source, added, advanced, -⟩ | ⟨-, ⟨reply, advanced, -⟩ | ⟨evaluation, remaining, advanced, checks⟩⟩ :=
          advance_cases sound member
        · rw [advanced] at new
          exact absurd new List.not_mem_nil
        · rw [advanced] at new
          exact absurd new List.not_mem_nil
        · rw [advanced] at new
          obtain ⟨done, -⟩ | ⟨next, rest, goesOn, kept⟩ := resume_cases evaluation remaining
          · rw [done] at new
            exact absurd new List.not_mem_nil
          · rw [goesOn] at new
            obtain rfl := List.mem_singleton.mp new
            obtain ⟨since, known⟩ := checks.step (.advance position)
            refine .inr ⟨since, known.mono fun manifest settled clear edge declared hard => ?_⟩
            exact (settled clear edge declared hard).imp (fun ahead => kept edge ahead hard) id
  · exact firstSection_calls first

/-- A unit that is new after a section declares no edge, or its registration is under way. -/
theorem covered_new (absent : host.graph.units.lookup unitId = none) {event : GraphEvent}
    (stored : (host.step trustedAuthorities event).graph.units.lookup unitId = some unit) :
    (host.step trustedAuthorities event).Registering unitId ∨
      InMemoryServiceGraph.declaredEdges unit.manifest = [] := by
  have impossible (same : host.graph.units.lookup unitId = some unit) : False := by
    rw [absent] at same
    cases same
  obtain ⟨position, rfl⟩ | first := firstSection trustedAuthorities host event
  · cases found : host.calls[position]? with
    | none =>
      rw [step_advance_none found] at stored
      exact (impossible stored).elim
    | some call =>
      rw [step_advance_some found, units_advance] at stored
      exact (impossible stored).elim
  · rw [step] at stored ⊢
    generalize host.runSection trustedAuthorities event = result at first stored
    cases first with
    | ends reply plain => exact (impossible stored).elim
    | declares edge => exact (impossible stored).elim
    | lists listed registered => exact (impossible stored).elim
    | inserts manifest now fresh free =>
      dsimp only at stored
      rw [Table.lookup_insert_eq] at stored
      split_ifs at stored
      · obtain rfl := Option.some.inj stored
        exact .inr free
      · exact (impossible stored).elim
    | registers manifest now fresh =>
      dsimp only at stored
      rw [Table.lookup_insert_eq] at stored
      split_ifs at stored with own
      · subst own
        exact .inl ⟨_, List.mem_append_right _ (List.mem_singleton_self _)⟩
      · exact (impossible stored).elim
    | moves moved old state now present =>
      dsimp only at stored
      rw [Table.lookup_insert_eq] at stored
      split_ifs at stored with own
      · rw [own, present] at absent
        cases absent
      · exact (impossible stored).elim

theorem Sound.step (sound : Sound trustedAuthorities events host) {event : GraphEvent}
    (taken : events[host.moment]? = some event) :
    Sound trustedAuthorities events (host.step trustedAuthorities event) where
  here := by
    rw [moment_step, hostAt, StepRun.stateAt_succ taken]
    exact congrArg (ServiceGraphHost.step trustedAuthorities · event) sound.here
  covered := by
    intro unitId unit stored
    cases before : host.graph.units.lookup unitId with
    | some old =>
      have has : host.ManifestHas unitId (· = old.manifest) := ⟨old, before, rfl⟩
      obtain ⟨kept, present, manifest⟩ := has.step event
      obtain rfl := Option.some.inj (present.symm.trans stored)
      rw [manifest]
      exact sound.covered_step before event
    | none =>
      obtain registering | free := covered_new before stored
      · exact .inl registering
      · exact .inr fun edge member => absurd (free ▸ member) List.not_mem_nil
  calls := by
    intro call pending
    obtain old | new := sound.calls_step event call pending
    · exact (sound.calls call old).step event
    · exact new

theorem sound_new : Sound trustedAuthorities events new where
  here := rfl
  covered _ _ stored := by cases stored
  calls _ pending := absurd pending List.not_mem_nil

/-- In every run, at each of its moments. -/
theorem sound_hostAt (trustedAuthorities : Table String crypto.VerifyingKey) {events : List GraphEvent} {moment : ℕ}
    (bound : moment ≤ events.length) :
    (hostAt trustedAuthorities events moment).moment = moment ∧
      Sound trustedAuthorities events (hostAt trustedAuthorities events moment) := by
  rw [hostAt]
  refine StepRun.stateAt_invariant
    (fun moment host => host.moment = moment ∧ Sound trustedAuthorities events host) ⟨rfl, sound_new⟩ ?_ bound
  rintro count event taken ⟨clock, sound⟩
  refine ⟨congrArg (· + 1) clock, sound.step ?_⟩
  rw [clock]
  exact taken

/-! ## What an evaluation that answers true has seen -/

/-- Only a section of an evaluation under way answers for it. -/
theorem reply_readiness {event : GraphEvent} {ready : Bool}
    (answered : host.reply trustedAuthorities event = some (.readiness evaluation ready)) :
    ∃ call ∈ host.calls, (call.advance host.graph host.moment).2 = .inr (.readiness evaluation ready) := by
  obtain ⟨position, rfl⟩ | first := firstSection trustedAuthorities host event
  · rw [reply, runSection] at answered
    cases found : host.calls[position]? with
    | none =>
      rw [found] at answered
      cases answered
    | some call =>
      rw [found] at answered
      dsimp only at answered
      refine ⟨call, List.mem_of_getElem? found, ?_⟩
      split at answered
      · cases answered
      · next advanced =>
        rw [advanced]
        exact congrArg _ (Option.some.inj answered)
  · rw [reply] at answered
    generalize host.runSection trustedAuthorities event = result at first answered
    cases first with
    | ends reply plain => exact absurd (Option.some.inj answered) (plain evaluation ready)
    | declares edge => cases answered
    | lists unitId registered => cases answered
    | inserts manifest now fresh free => cases answered
    | registers manifest now fresh => cases answered
    | moves unitId unit state now stored => cases answered

/-- For every interleaving of the sections, an evaluation that answers true found each hard dependency of
the manifest running or healthy at some moment of the call, unless it listed the edges of its unit while
the registration of that unit was under way. -/
theorem evaluateReadiness_onTime (trustedAuthorities : Table String crypto.VerifyingKey) (events : List GraphEvent) :
    ReadyOnTime (fun _ => isRunningStable) Registering trustedAuthorities events := by
  intro moment event evaluation unit taken answered stored clear dependency member hard
  obtain ⟨bound, -⟩ := List.getElem?_eq_some_iff.mp taken
  obtain ⟨clock, sound⟩ := sound_hostAt trustedAuthorities (Nat.le_of_lt bound)
  obtain ⟨call, pending, ends⟩ := reply_readiness answered
  obtain ⟨source, added, advanced, -⟩ | ⟨-, ⟨reply, advanced, other⟩ | ⟨checked, remaining, advanced, checks⟩⟩ :=
    advance_cases sound pending
  · rw [advanced] at ends
    cases ends
  · rw [advanced] at ends
    exact absurd (Sum.inr.inj ends) (other evaluation)
  · rw [advanced] at ends
    obtain ⟨done, soft⟩ | ⟨next, rest, goesOn, -⟩ := resume_cases checked remaining
    · rw [done] at ends
      cases ends
      obtain ⟨-, known, present, settled⟩ := checks
      obtain rfl := Option.some.inj (stored.symm.trans present)
      obtain ahead | ⟨during, since, before, met⟩ := settled clear _ (List.mem_map.mpr ⟨dependency, member, rfl⟩) hard
      · rw [soft _ ahead] at hard
        cases hard
      · refine ⟨during, since, ?_, met⟩
        rw [clock] at before
        exact Nat.le_succ_of_le before
    · rw [goesOn] at ends
      cases ends

/-! ## What is not so -/

/-- What a kind asks of its target by its own description. -/
def isMetBy : DependencyKind → UnitState → Bool
  | .requiresHealthy, state => state == .healthy
  | .requiresRunning, state => isRunningStable state
  | .ordersAfter, _ => true

/-- A scheme that accepts every signature. -/
def exampleCrypto : ManifestCrypto where
  VerifyingKey := Unit
  canonicalManifestDigest _ := .ok []
  toHex _ := ""
  verify _ _ _ := true

def exampleAuthorities : Table String exampleCrypto.VerifyingKey := (∅ : Table String Unit).insert "root" ()

def exampleManifest (unitId : UnitId) (dependencies : List UnitDependency) : UnitManifest where
  unitId := unitId
  publisherRootId := "root"
  publisherSignature := List.replicate 64 0
  canonicalHash := ""
  dependencies := dependencies
  labels := none
  desiredState := .running
  signedBody := .null

/-- The database runs and has not become healthy when the application that requires it healthy asks. -/
def runningIsEnough : List GraphEvent :=
  [.registerUnit (exampleManifest "db" []) 0, .setUnitState "db" .starting 0, .setUnitState "db" .running 0,
    .registerUnit (exampleManifest "app" [⟨"db", .requiresHealthy⟩]) 0, .advance 0,
    .evaluateReadiness "app", .advance 0, .advance 0]

/-- The application asks between the two sections of its registration. -/
def askedTooSoon : List GraphEvent :=
  [.registerUnit (exampleManifest "db" []) 0, .registerUnit (exampleManifest "app" [⟨"db", .requiresRunning⟩]) 0,
    .evaluateReadiness "app", .advance 1]

/-- A unit is reported ready though a dependency that has to be healthy only runs, and though one that has
to run is still queued. -/
theorem reportedReady_early :
    ¬ ReadyOnTime isMetBy (fun _ _ => False) exampleAuthorities runningIsEnough ∧
      ¬ ReadyOnTime isMetBy (fun _ _ => False) exampleAuthorities askedTooSoon := by
  constructor
  · intro onTime
    have early : ∀ during ≤ 8,
        ¬ (hostAt exampleAuthorities runningIsEnough during).Met (isMetBy .requiresHealthy) "db" := by
      decide +kernel
    obtain ⟨during, -, before, met⟩ := onTime 7 _ ⟨"app", 5, 6⟩ _ rfl (by decide +kernel) rfl id
      ⟨"db", .requiresHealthy⟩
      (List.mem_singleton_self _) rfl
    exact early during before met
  · intro onTime
    have early : ∀ during ≤ 4,
        ¬ (hostAt exampleAuthorities askedTooSoon during).Met (isMetBy .requiresRunning) "db" := by
      decide +kernel
    obtain ⟨during, -, before, met⟩ := onTime 3 _ ⟨"app", 2, 3⟩ _ rfl (by decide +kernel) rfl id
      ⟨"db", .requiresRunning⟩
      (List.mem_singleton_self _) rfl
    exact early during before met

end ServiceGraphHost

end Aios.Sgr
