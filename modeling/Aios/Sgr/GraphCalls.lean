import Aios.Sgr.ServiceGraph

/-! # Calls on the service graph

The calls of `in_memory_graph.rs` and `evaluate_readiness` of `evaluator.rs` as they run beside one
another. The units have one lock and the edges another, and a call holds neither from one section to
the next, so the sections of several calls may come in any order. `registerUnit` and `declareDependency`
are such a call run alone.
-/

namespace Aios.Sgr

open Aios.Rust

/-! ## Kinds and states -/

def DependencyKind.isHard : DependencyKind → Bool
  | .requiresHealthy | .requiresRunning => true
  | .ordersAfter => false

def isRunningStable : UnitState → Bool
  | .running | .healthy => true
  | _ => false

def isValidTransition (source target : UnitState) : Bool :=
  match source, target with
  | .draft, .queued | .draft, .retired | .stopped, .queued | .stopped, .retired => true
  | .queued, .starting | .queued, .retired | .failed, .starting | .failed, .retired => true
  | .starting, .running | .starting, .failed => true
  | .running, .healthy | .running, .stopped | .running, .failed => true
  | .healthy, .degraded | .healthy, .unhealthy | .healthy, .stopping => true
  | .degraded, .healthy | .degraded, .unhealthy | .degraded, .stopping => true
  | .unhealthy, .healthy | .unhealthy, .starting | .unhealthy, .failed | .unhealthy, .stopping => true
  | .stopping, .stopped | .stopping, .failed => true
  | _, _ => false

namespace InMemoryServiceGraph

variable (graph : InMemoryServiceGraph)

def getUnit (unitId : UnitId) : Except SgrError ServiceUnit :=
  match graph.units.lookup unitId with
  | none => .error (.unitNotFound unitId)
  | some unit => .ok unit

def setUnitState (unitId : UnitId) (newState : UnitState) (now : DateTime) :
    InMemoryServiceGraph × Except SgrError ServiceUnit :=
  match graph.units.lookup unitId with
  | none => (graph, .error (.unitNotFound unitId))
  | some unit =>
    if isValidTransition unit.state newState then
      let updated : ServiceUnit := { unit with state := newState, lastTransitionAt := now }
      ({ graph with units := graph.units.insert unitId updated }, .ok updated)
    else (graph, .error (.invalidStateTransition unit.state newState))

/-- The loop of `evaluate_readiness` over the edges it has listed. -/
def checkDependencies : List DependencyEdge → Except SgrError Bool
  | [] => .ok true
  | edge :: rest =>
    if edge.kind.isHard then
      match graph.getUnit edge.toUnitId with
      | .error failure => .error failure
      | .ok dependency => if isRunningStable dependency.state then checkDependencies rest else .ok false
    else checkDependencies rest

/-- `evaluate_readiness`, of a graph that nobody else changes. -/
def evaluateReadiness (unitId : UnitId) : Except SgrError Bool := do
  graph.checkDependencies (← graph.listDependencies unitId)

end InMemoryServiceGraph

section

variable (graph : InMemoryServiceGraph)

/-! ## Calls between their sections -/

/-- A readiness evaluation, with the moments at which it began and listed its edges. -/
structure Evaluation where
  unitId : UnitId
  begun : ℕ
  listed : ℕ
  deriving DecidableEq, Repr

/-- What a call that is not over does in its next section. -/
inductive Call where
  /-- `register_unit` adds the declared edges of the unit it has inserted. -/
  | registering (unitId : UnitId) (declared : List DependencyEdge)
  /-- `declare_dependency` adds the edge whose ends it has seen. -/
  | declaring (edge : DependencyEdge)
  /-- `list_dependencies` reads the edges of the unit it has seen. -/
  | listing (unitId : UnitId) (begun : ℕ)
  /-- `get_unit` of the target of a hard edge; the rest is still to be looked at. -/
  | checking (evaluation : Evaluation) (edge : DependencyEdge) (rest : List DependencyEdge)
  deriving DecidableEq, Repr

/-- How a call ends. -/
inductive Reply where
  | done
  | readiness (evaluation : Evaluation) (ready : Bool)
  | failed (failure : SgrError)
  deriving DecidableEq, Repr

/-- Edges that are not hard are passed over without a lock. -/
def resume (evaluation : Evaluation) : List DependencyEdge → Call ⊕ Reply
  | [] => .inr (.readiness evaluation true)
  | edge :: rest => if edge.kind.isHard then .inl (.checking evaluation edge rest) else resume evaluation rest

/-- The next section of a call at a moment: the graph after it, and what is left of the call. -/
def Call.advance (moment : ℕ) : Call → InMemoryServiceGraph × (Call ⊕ Reply)
  | .registering unitId declared => (graph.extendDependencies unitId declared, .inr .done)
  | .declaring edge => (graph.extendDependencies edge.fromUnitId [edge], .inr .done)
  | .listing unitId begun => (graph, resume ⟨unitId, begun, moment⟩ (graph.edgesFrom unitId))
  | .checking evaluation edge rest =>
    match graph.getUnit edge.toUnitId with
    | .error failure => (graph, .inr (.failed failure))
    | .ok dependency =>
      (graph, if isRunningStable dependency.state then resume evaluation rest else .inr (.readiness evaluation false))

/-- The answer of a readiness evaluation whose remaining sections find the graph as it is. -/
def answerAlone : Call ⊕ Reply → Except SgrError Bool
  | .inl (.listing unitId _) => graph.evaluateReadiness unitId
  | .inl (.checking _ edge rest) => graph.checkDependencies (edge :: rest)
  | .inl _ => .error .outOfFuel
  | .inr (.readiness _ ready) => .ok ready
  | .inr (.failed failure) => .error failure
  | .inr .done => .error .outOfFuel

theorem answerAlone_resume (evaluation : Evaluation) (edges : List DependencyEdge) :
    answerAlone graph (resume evaluation edges) = graph.checkDependencies edges := by
  induction edges with
  | nil => rfl
  | cons edge rest ih =>
    rw [resume]
    cases hard : edge.kind.isHard with
    | true => rfl
    | false =>
      rw [InMemoryServiceGraph.checkDependencies, hard]
      exact ih

/-- Run alone, the sections of an evaluation compute `evaluateReadiness`. -/
theorem answerAlone_listing {graph : InMemoryServiceGraph} {unitId : UnitId} (registered : graph.IsRegistered unitId)
    (begun moment : ℕ) :
    answerAlone graph ((Call.listing unitId begun).advance graph moment).2 = graph.evaluateReadiness unitId := by
  have found : ¬ (graph.units.lookup unitId).isNone = true := by
    rw [Option.isNone_iff_eq_none]
    exact Option.isSome_iff_ne_none.mp registered
  rw [Call.advance, answerAlone_resume, InMemoryServiceGraph.evaluateReadiness, InMemoryServiceGraph.listDependencies,
    if_neg found]
  rfl

/-! ## The graph and the calls on it -/

/-- The graph, the calls between two of their sections, and the number of sections that have run. -/
structure ServiceGraphHost where
  graph : InMemoryServiceGraph
  calls : List Call
  moment : ℕ

/-- The first section of a call, or the next one of a call that is not over. -/
inductive GraphEvent where
  | registerUnit (manifest : UnitManifest) (now : DateTime)
  | declareDependency (source target : UnitId) (kind : DependencyKind)
  | setUnitState (unitId : UnitId) (newState : UnitState) (now : DateTime)
  | evaluateReadiness (unitId : UnitId)
  | advance (position : ℕ)

end

namespace ServiceGraphHost

variable {crypto : ManifestCrypto} (trustedAuthorities : Table String crypto.VerifyingKey) (host : ServiceGraphHost)

def new : ServiceGraphHost := ⟨.new, [], 0⟩

/-- The section of an event: the graph after it, the calls that are then not over, and the reply of a
call that ends with it. -/
def runSection : GraphEvent → InMemoryServiceGraph × List Call × Option Reply
  | .registerUnit manifest now =>
    match InMemoryServiceGraph.verifyManifest crypto trustedAuthorities manifest with
    | .error failure => (host.graph, host.calls, some (.failed failure))
    | .ok () =>
      let declared := InMemoryServiceGraph.declaredEdges manifest
      match host.graph.insertUnit ⟨manifest.unitId, manifest, .queued, now⟩ declared with
      | .error failure => (host.graph, host.calls, some (.failed failure))
      | .ok graph =>
        if declared.isEmpty then (graph, host.calls, some .done)
        else (graph, host.calls ++ [.registering manifest.unitId declared], none)
  | .declareDependency source target kind =>
    if (host.graph.units.lookup source).isNone then
      (host.graph, host.calls, some (.failed (.unitNotFound source)))
    else if (host.graph.units.lookup target).isNone then
      (host.graph, host.calls, some (.failed (.dependencyTargetNotRegistered target)))
    else (host.graph, host.calls ++ [.declaring ⟨source, target, kind⟩], none)
  | .setUnitState unitId newState now =>
    match host.graph.setUnitState unitId newState now with
    | (graph, .error failure) => (graph, host.calls, some (.failed failure))
    | (graph, .ok _) => (graph, host.calls, some .done)
  | .evaluateReadiness unitId =>
    if (host.graph.units.lookup unitId).isNone then
      (host.graph, host.calls, some (.failed (.unitNotFound unitId)))
    else (host.graph, host.calls ++ [.listing unitId host.moment], none)
  | .advance position =>
    match host.calls[position]? with
    | none => (host.graph, host.calls, none)
    | some call =>
      match call.advance host.graph host.moment with
      | (graph, .inl next) => (graph, host.calls.eraseIdx position ++ [next], none)
      | (graph, .inr reply) => (graph, host.calls.eraseIdx position, some reply)

def step (event : GraphEvent) : ServiceGraphHost :=
  let (graph, calls, _) := host.runSection trustedAuthorities event
  ⟨graph, calls, host.moment + 1⟩

def reply (event : GraphEvent) : Option Reply := (host.runSection trustedAuthorities event).2.2

variable {trustedAuthorities host}

theorem step_advance_none {position : ℕ} (absent : host.calls[position]? = none) :
    host.step trustedAuthorities (.advance position) = ⟨host.graph, host.calls, host.moment + 1⟩ := by
  rw [step, runSection, absent]

theorem step_advance_some {position : ℕ} {call : Call} (found : host.calls[position]? = some call) :
    host.step trustedAuthorities (.advance position) =
      ⟨(call.advance host.graph host.moment).1,
        host.calls.eraseIdx position ++ (call.advance host.graph host.moment).2.elim (fun next => [next]) fun _ => [],
        host.moment + 1⟩ := by
  rw [step, runSection, found]
  dsimp only
  generalize call.advance host.graph host.moment = advanced
  obtain ⟨graph, next | reply⟩ := advanced
  · rfl
  · rw [Sum.elim_inr, List.append_nil]

/-- What the first section of a call can come to. -/
inductive FirstSection (host : ServiceGraphHost) : InMemoryServiceGraph × List Call × Option Reply → Prop
  | ends (reply : Reply) (plain : ∀ evaluation ready, reply ≠ .readiness evaluation ready) :
    FirstSection host (host.graph, host.calls, some reply)
  | declares (edge : DependencyEdge) : FirstSection host (host.graph, host.calls ++ [.declaring edge], none)
  | lists (unitId : UnitId) (registered : host.graph.IsRegistered unitId) :
    FirstSection host (host.graph, host.calls ++ [.listing unitId host.moment], none)
  | inserts (manifest : UnitManifest) (now : DateTime) (fresh : host.graph.units.lookup manifest.unitId = none)
    (free : InMemoryServiceGraph.declaredEdges manifest = []) :
    FirstSection host
      ({ host.graph with
        units := host.graph.units.insert manifest.unitId ⟨manifest.unitId, manifest, .queued, now⟩ }, host.calls,
        some .done)
  | registers (manifest : UnitManifest) (now : DateTime) (fresh : host.graph.units.lookup manifest.unitId = none) :
    FirstSection host
      ({ host.graph with
        units := host.graph.units.insert manifest.unitId ⟨manifest.unitId, manifest, .queued, now⟩ },
        host.calls ++ [.registering manifest.unitId (InMemoryServiceGraph.declaredEdges manifest)], none)
  | moves (unitId : UnitId) (unit : ServiceUnit) (state : UnitState) (now : DateTime)
    (stored : host.graph.units.lookup unitId = some unit) :
    FirstSection host
      ({ host.graph with
        units := host.graph.units.insert unitId { unit with state := state, lastTransitionAt := now } }, host.calls,
        some .done)

theorem firstSection (trustedAuthorities : Table String crypto.VerifyingKey) (host : ServiceGraphHost)
    (event : GraphEvent) :
    (∃ position, event = .advance position) ∨ FirstSection host (host.runSection trustedAuthorities event) := by
  have failed (failure : SgrError) : FirstSection host (host.graph, host.calls, some (.failed failure)) :=
    .ends _ fun _ _ same => by cases same
  cases event with
  | advance position => exact .inl ⟨position, rfl⟩
  | registerUnit manifest now =>
    right
    rw [runSection]
    cases InMemoryServiceGraph.verifyManifest crypto trustedAuthorities manifest with
    | error failure => exact failed failure
    | ok verified =>
      dsimp only
      cases inserted : host.graph.insertUnit ⟨manifest.unitId, manifest, .queued, now⟩
          (InMemoryServiceGraph.declaredEdges manifest) with
      | error failure => exact failed failure
      | ok graph =>
        obtain ⟨rfl, -⟩ := InMemoryServiceGraph.insertUnit_eq_ok inserted
        have fresh : host.graph.units.lookup manifest.unitId = none := by
          rw [InMemoryServiceGraph.insertUnit] at inserted
          split_ifs at inserted with registered
          exact Option.not_isSome_iff_eq_none.mp registered
        dsimp only
        split_ifs with free
        · exact .inserts manifest now fresh (List.isEmpty_iff.mp free)
        · exact .registers manifest now fresh
  | declareDependency source target kind =>
    right
    rw [runSection]
    split_ifs
    · exact failed _
    · exact failed _
    · exact .declares _
  | setUnitState unitId newState now =>
    right
    rw [runSection, InMemoryServiceGraph.setUnitState]
    cases stored : host.graph.units.lookup unitId with
    | none => exact failed _
    | some unit =>
      dsimp only
      split_ifs
      · exact .moves unitId unit newState now stored
      · exact failed _
  | evaluateReadiness unitId =>
    right
    rw [runSection]
    split_ifs with absent
    · exact failed _
    · exact .lists unitId (Option.isSome_iff_ne_none.mpr fun none => absent (Option.isNone_iff_eq_none.mpr none))

/-- A registration whose sections follow one another is `registerUnit`. -/
theorem registerUnit_alone (manifest : UnitManifest) (now : DateTime) (emitted : Except SgrError Unit) :
    ((host.step trustedAuthorities (.registerUnit manifest now)).step trustedAuthorities
        (.advance host.calls.length)).graph =
      (host.graph.registerUnit crypto trustedAuthorities manifest now emitted).1 := by
  have last : host.calls[host.calls.length]? = none := List.getElem?_eq_none le_rfl
  rw [step, step, runSection, InMemoryServiceGraph.registerUnit]
  cases InMemoryServiceGraph.verifyManifest crypto trustedAuthorities manifest with
  | error failure =>
    dsimp only
    rw [runSection, last]
  | ok verified =>
    dsimp only
    cases host.graph.insertUnit ⟨manifest.unitId, manifest, .queued, now⟩
      (InMemoryServiceGraph.declaredEdges manifest) with
    | error failure =>
      dsimp only
      rw [runSection, last]
    | ok graph =>
      dsimp only
      split_ifs
      · rw [runSection, last]
      · rw [runSection, List.getElem?_concat_length]
        rfl

/-- The host at a moment of a run. -/
def hostAt (trustedAuthorities : Table String crypto.VerifyingKey) (events : List GraphEvent) (moment : ℕ) :
    ServiceGraphHost :=
  StepRun.stateAt (step trustedAuthorities) new events moment

end ServiceGraphHost

end Aios.Sgr
