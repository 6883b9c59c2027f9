import Aios.Lib.Run
import Aios.Lib.Table
import Aios.Runtime.Lifecycle
import Mathlib.Logic.Function.Basic

/-! # The dispatch queue

Four bounded first-in first-out buckets. The per-subject token bucket computes in floating point
over a monotonic clock; whether it admits a call is a reading of that call. A refused enrolment
leaves the buckets unchanged.
-/

namespace Aios.Runtime

open Aios.Rust Aios.Action

def AGENT_PROPOSAL_CAP_NUM : ℕ := 1
def AGENT_PROPOSAL_CAP_DEN : ℕ := 2

/-- A class without a configured capacity has capacity zero. -/
structure DispatchQueue where
  queues : QueueClass → List ActionContext := fun _ => []
  capacityPerClass : QueueClass → ℕ

namespace DispatchQueue

variable (self : DispatchQueue)

def newWithDefaults : DispatchQueue where
  capacityPerClass
    | .interactive => 300
    | .agentProposal => 400
    | .background => 250
    | .recoveryPriority => 50

def capacityOf (queueClass : QueueClass) : ℕ := self.capacityPerClass queueClass

def totalCapacity : ℕ :=
  self.capacityPerClass .interactive + self.capacityPerClass .agentProposal +
    self.capacityPerClass .background + self.capacityPerClass .recoveryPriority

def depth (queueClass : QueueClass) : ℕ := (self.queues queueClass).length

def pushBack (context : ActionContext) : DispatchQueue :=
  { self with
    queues := Function.update self.queues context.queueClass (self.queues context.queueClass ++ [context]) }

/-- Enrol a context in the bucket of its class: rate limit, class capacity, the AI share of the
total, then the insertion at the back. -/
def enroll (context : ActionContext) (subjectId : String) (admitted : Bool) :
    Except RuntimeError (ActionContext × DispatchQueue) :=
  if !admitted then .error (.rateLimited subjectId)
  else if self.depth context.queueClass + 1 > self.capacityOf context.queueClass then
    .error (.queueFull context.queueClass)
  else if context.queueClass = .agentProposal ∧
      (self.depth .agentProposal + 1) * AGENT_PROPOSAL_CAP_DEN > self.totalCapacity * AGENT_PROPOSAL_CAP_NUM then
    .error (.queueFull .agentProposal)
  else .ok (context, self.pushBack context)

/-- The test behind the two capacity checks of `enroll`. -/
def hasRoom (queueClass : QueueClass) : Bool :=
  self.depth queueClass + 1 ≤ self.capacityOf queueClass &&
    !(queueClass = .agentProposal &&
      self.totalCapacity * AGENT_PROPOSAL_CAP_NUM < (self.depth .agentProposal + 1) * AGENT_PROPOSAL_CAP_DEN)

/-- An enrolment inserts the context or is refused for the rate or for the room. -/
theorem enroll_cases (context : ActionContext) (subjectId : String) (admitted : Bool) :
    (admitted = true ∧ self.hasRoom context.queueClass = true ∧
        self.enroll context subjectId admitted = .ok (context, self.pushBack context)) ∨
      (admitted = false ∨ self.hasRoom context.queueClass = false) ∧
        (self.enroll context subjectId admitted = .error (.rateLimited subjectId) ∨
          ∃ queueClass, self.enroll context subjectId admitted = .error (.queueFull queueClass)) := by
  unfold enroll hasRoom
  cases admitted with
  | false => simp
  | true =>
    simp only [Bool.not_true, Bool.false_eq_true, if_false]
    split_ifs with full saturated
    · right
      refine ⟨.inr ?_, .inr ⟨_, rfl⟩⟩
      have exceeds : ¬ self.depth context.queueClass + 1 ≤ self.capacityOf context.queueClass := by omega
      simp [exceeds]
    · right
      refine ⟨.inr ?_, .inr ⟨_, rfl⟩⟩
      simp [saturated.1, saturated.2]
    · left
      have fits : self.depth context.queueClass + 1 ≤ self.capacityOf context.queueClass := by omega
      refine ⟨trivial, ?_, rfl⟩
      simp only [not_and, Nat.not_lt] at saturated
      simp only [fits, decide_true, Bool.true_and, Bool.not_eq_true', Bool.and_eq_false_imp, decide_eq_true_eq,
        decide_eq_false_iff_not, Nat.not_lt]
      exact saturated

end DispatchQueue

/-! ## Admission to the dispatch queue

The dispatch queue over a table of configured capacities, with the arithmetic of `usize` (64 bits). The
sum of the capacities overflows for extreme tables: it panics in a build with overflow checks and wraps
in one without. A `VecDeque` of contexts grows to some number of them, at most `isize::MAX`, and a push
past that number panics. A call that panics does so before it stores anything. The sections of a call on
the buckets are under one write lock, so an interleaving of calls is a list of them.
-/

/-- `usize::MAX + 1`. -/
def USIZE_SIZE : ℕ := 18446744073709551616

def ISIZE_MAX : ℕ := 9223372036854775807

/-- `usize::saturating_mul`. -/
def saturatingMul (first second : ℕ) : ℕ := min (first * second) (USIZE_SIZE - 1)

/-- The queue with the capacities as they were configured. -/
structure ConfiguredQueue where
  queues : QueueClass → List ActionContext := fun _ => []
  capacityPerClass : Table QueueClass UInt64

/-- How an enrolment ends. -/
inductive EnrollReply where
  | enrolled (context : ActionContext)
  | refused (error : RuntimeError)
  | panicked
deriving DecidableEq

def EnrollReply.isEnrolled : EnrollReply → Bool
  | .enrolled _ => true
  | _ => false

namespace ConfiguredQueue

variable (self : ConfiguredQueue)

def newWithCapacities (capacities : Table QueueClass UInt64) : ConfiguredQueue := { capacityPerClass := capacities }

/-- A class that is not configured has capacity zero. -/
def capacityOf (queueClass : QueueClass) : ℕ :=
  ((self.capacityPerClass.lookup queueClass).getD 0).toNat

def depth (queueClass : QueueClass) : ℕ := (self.queues queueClass).length

/-- The capacities of all classes together. -/
def totalCapacity : ℕ := self.capacityPerClass.total fun _ capacity => capacity.toNat

/-- `self.capacity_per_class.values().sum()`. -/
def capacitySum (checks : Bool) (self : ConfiguredQueue) : Option ℕ :=
  if self.totalCapacity < USIZE_SIZE then some self.totalCapacity
  else if checks then none else some (self.totalCapacity % USIZE_SIZE)

/-- `push_back` on a bucket that holds up to `maxLen` contexts. -/
def pushBack (maxLen : ℕ) (self : ConfiguredQueue) (context : ActionContext) : ConfiguredQueue × EnrollReply :=
  if self.depth context.queueClass + 1 ≤ min maxLen ISIZE_MAX then
    ({ self with
       queues := Function.update self.queues context.queueClass (self.queues context.queueClass ++ [context]) },
      .enrolled context)
  else (self, .panicked)

def enroll (checks : Bool) (maxLen : ℕ) (self : ConfiguredQueue) (context : ActionContext) (subjectId : String)
    (admitted : Bool) : ConfiguredQueue × EnrollReply :=
  if !admitted then (self, .refused (.rateLimited subjectId))
  else if self.depth context.queueClass + 1 > self.capacityOf context.queueClass then
    (self, .refused (.queueFull context.queueClass))
  else if context.queueClass = .agentProposal then
    match self.capacitySum checks with
    | none => (self, .panicked)
    | some totalCapacity =>
      let agentAfter := min (self.depth .agentProposal + 1) (USIZE_SIZE - 1)
      if saturatingMul agentAfter AGENT_PROPOSAL_CAP_DEN > saturatingMul totalCapacity AGENT_PROPOSAL_CAP_NUM then
        (self, .refused (.queueFull .agentProposal))
      else self.pushBack maxLen context
  else self.pushBack maxLen context

def dequeue (queueClass : QueueClass) : ConfiguredQueue × Option ActionContext :=
  ({ self with queues := Function.update self.queues queueClass (self.queues queueClass).tail },
    (self.queues queueClass).head?)

/-- The queue without its machine arithmetic. -/
def unbounded : DispatchQueue where
  queues := self.queues
  capacityPerClass := self.capacityOf

end ConfiguredQueue

/-! ### Calls -/

inductive QueueCall where
  | enroll (context : ActionContext) (subjectId : String) (admitted : Bool)
  | dequeue (queueClass : QueueClass)
deriving DecidableEq

inductive QueueReply where
  | enroll (reply : EnrollReply)
  | dequeue (context : Option ActionContext)
deriving DecidableEq

namespace ConfiguredQueue

section

variable (checks : Bool) (maxLen : ℕ)

def step (self : ConfiguredQueue) : QueueCall → ConfiguredQueue
  | .enroll context subjectId admitted => (self.enroll checks maxLen context subjectId admitted).1
  | .dequeue queueClass => (self.dequeue queueClass).1

def reply (self : ConfiguredQueue) : QueueCall → QueueReply
  | .enroll context subjectId admitted => .enroll (self.enroll checks maxLen context subjectId admitted).2
  | .dequeue queueClass => .dequeue (self.dequeue queueClass).2

/-- The queue after an interleaving of calls on a new one. -/
def runCalls (capacities : Table QueueClass UInt64) (calls : List QueueCall) : ConfiguredQueue :=
  StepRun.run (step checks maxLen) (newWithCapacities capacities) calls

/-- The calls with their replies. -/
def answered (capacities : Table QueueClass UInt64) (calls : List QueueCall) : List (QueueCall × QueueReply) :=
  StepRun.trace (step checks maxLen) (reply checks maxLen) (newWithCapacities capacities) calls

end

/-- The context that a call has enrolled in a class. -/
def enrolledIn (queueClass : QueueClass) : QueueCall × QueueReply → Option ActionContext
  | (.enroll context _ _, .enroll (.enrolled _)) => if context.queueClass = queueClass then some context else none
  | _ => none

/-- The context that a call has taken from a class. -/
def dequeuedFrom (queueClass : QueueClass) : QueueCall × QueueReply → Option ActionContext
  | (.dequeue other, .dequeue context) => if other = queueClass then context else none
  | _ => none

/-! ### One call -/

variable {checks : Bool} {maxLen : ℕ} {self : ConfiguredQueue} {context : ActionContext} {subjectId : String}
  {admitted : Bool}

theorem totalCapacity_eq (self : ConfiguredQueue) : self.totalCapacity = self.unbounded.totalCapacity := by
  let classes : Finset QueueClass := {.interactive, .agentProposal, .background, .recoveryPriority}
  have inside : self.capacityPerClass.keys.toFinset ⊆ classes := by
    intro queueClass _
    cases queueClass <;> decide
  have weights : ∀ queueClass, (self.capacityPerClass.lookup queueClass).elim 0 (fun capacity => capacity.toNat) =
      self.capacityOf queueClass := by
    intro queueClass
    rw [capacityOf]
    cases self.capacityPerClass.lookup queueClass <;> rfl
  rw [totalCapacity, Table.total_eq_sum, Finset.sum_subset inside]
  · simp only [weights, classes]
    simp [DispatchQueue.totalCapacity, unbounded, Nat.add_assoc]
  · intro queueClass _ absent
    have missing : self.capacityPerClass.lookup queueClass = none := by
      rw [← Option.not_isSome_iff_eq_none, ← Table.mem_keys_iff]
      exact fun listed => absent (List.mem_toFinset.mpr listed)
    rw [missing]
    rfl

theorem capacitySum_lt {sum : ℕ} (summed : self.capacitySum checks = some sum) : sum < USIZE_SIZE := by
  unfold capacitySum at summed
  split_ifs at summed with small
  · rwa [← Option.some.inj summed]
  · rw [← Option.some.inj summed]
    exact Nat.mod_lt _ (by decide)

theorem capacitySum_le {sum : ℕ} (summed : self.capacitySum checks = some sum) : sum ≤ self.totalCapacity := by
  unfold capacitySum at summed
  split_ifs at summed with small
  · exact (Option.some.inj summed).ge
  · rw [← Option.some.inj summed]
    exact Nat.mod_le _ _

/-- The check of the AI share does not saturate where the bucket still has room for a context. -/
theorem aboveShare_iff {sum : ℕ} (room : self.depth .agentProposal + 1 ≤ min maxLen ISIZE_MAX)
    (word : sum < USIZE_SIZE) :
    saturatingMul (min (self.depth .agentProposal + 1) (USIZE_SIZE - 1)) AGENT_PROPOSAL_CAP_DEN >
        saturatingMul sum AGENT_PROPOSAL_CAP_NUM ↔
      (self.depth .agentProposal + 1) * AGENT_PROPOSAL_CAP_DEN > sum * AGENT_PROPOSAL_CAP_NUM := by
  have bytes : min maxLen ISIZE_MAX ≤ ISIZE_MAX := Nat.min_le_right _ _
  simp only [saturatingMul, AGENT_PROPOSAL_CAP_DEN, AGENT_PROPOSAL_CAP_NUM, USIZE_SIZE] at word ⊢
  simp only [ISIZE_MAX] at room bytes
  omega

/-- A successful push stores the context at the back of its bucket. -/
theorem pushBack_cases (maxLen : ℕ) (self : ConfiguredQueue) (context : ActionContext) :
    (self.depth context.queueClass + 1 ≤ min maxLen ISIZE_MAX ∧
        self.pushBack maxLen context =
          ({ self with
             queues := Function.update self.queues context.queueClass
               (self.queues context.queueClass ++ [context]) },
            .enrolled context)) ∨
      self.pushBack maxLen context = (self, .panicked) := by
  unfold pushBack
  split_ifs with room
  · exact .inl ⟨room, rfl⟩
  · exact .inr rfl

/-- The context goes to the back of its bucket within both caps, or nothing changes. -/
theorem enroll_cases (checks : Bool) (maxLen : ℕ) (self : ConfiguredQueue) (context : ActionContext)
    (subjectId : String) (admitted : Bool) :
    (self.depth context.queueClass + 1 ≤ self.capacityOf context.queueClass ∧
        (context.queueClass = .agentProposal →
          2 * (self.depth .agentProposal + 1) ≤ (self.capacitySum checks).getD 0) ∧
        self.enroll checks maxLen context subjectId admitted =
          ({ self with
             queues := Function.update self.queues context.queueClass
               (self.queues context.queueClass ++ [context]) },
            .enrolled context)) ∨
      ∃ reply, self.enroll checks maxLen context subjectId admitted = (self, reply) ∧ reply.isEnrolled = false := by
  unfold enroll
  split_ifs with rate full agent
  · exact .inr ⟨_, rfl, rfl⟩
  · exact .inr ⟨_, rfl, rfl⟩
  · cases summed : self.capacitySum checks with
    | none => exact .inr ⟨_, rfl, rfl⟩
    | some sum =>
      dsimp only
      split_ifs with above
      · exact .inr ⟨_, rfl, rfl⟩
      · obtain ⟨room, stored⟩ | refused := pushBack_cases maxLen self context
        · rw [agent] at room
          rw [aboveShare_iff room (capacitySum_lt summed), Nat.not_lt] at above
          refine .inl ⟨Nat.not_lt.mp full, fun _ => ?_, stored⟩
          simpa [AGENT_PROPOSAL_CAP_DEN, AGENT_PROPOSAL_CAP_NUM, Nat.mul_comm] using above
        · exact .inr ⟨_, refused, rfl⟩
  · obtain ⟨-, stored⟩ | refused := pushBack_cases maxLen self context
    · exact .inl ⟨Nat.not_lt.mp full, fun same => absurd same agent, stored⟩
    · exact .inr ⟨_, refused, rfl⟩

/-- Without overflow and with memory for one more context, the machine queue enrols as the unbounded one
does. -/
theorem enroll_unbounded (small : self.totalCapacity < USIZE_SIZE)
    (room : self.depth context.queueClass + 1 ≤ min maxLen ISIZE_MAX) :
    (∃ queue, self.enroll checks maxLen context subjectId admitted = (queue, .enrolled context) ∧
        self.unbounded.enroll context subjectId admitted = .ok (context, queue.unbounded)) ∨
      ∃ error, self.enroll checks maxLen context subjectId admitted = (self, .refused error) ∧
        self.unbounded.enroll context subjectId admitted = .error error := by
  have sum : self.capacitySum checks = some self.unbounded.totalCapacity := by
    rw [capacitySum, if_pos small, totalCapacity_eq]
  have stored : self.pushBack maxLen context =
      ({ self with
         queues := Function.update self.queues context.queueClass (self.queues context.queueClass ++ [context]) },
        .enrolled context) := if_pos room
  have depths : self.unbounded.depth = self.depth := rfl
  have capacities : self.unbounded.capacityOf = self.capacityOf := rfl
  unfold enroll DispatchQueue.enroll
  rw [depths, capacities, sum]
  by_cases agent : context.queueClass = .agentProposal
  · rw [agent] at room
    simp only [agent, true_and, if_true, aboveShare_iff room (capacitySum_lt sum)]
    split_ifs with rate full above
    · exact .inr ⟨_, rfl, rfl⟩
    · exact .inr ⟨_, rfl, rfl⟩
    · exact .inr ⟨_, rfl, rfl⟩
    · exact .inl ⟨_, stored, rfl⟩
  · simp only [agent, false_and, if_false]
    split_ifs with rate full
    · exact .inr ⟨_, rfl, rfl⟩
    · exact .inr ⟨_, rfl, rfl⟩
    · exact .inl ⟨_, stored, rfl⟩

theorem depth_dequeue_le (self : ConfiguredQueue) (queueClass other : QueueClass) :
    (self.dequeue queueClass).1.depth other ≤ self.depth other := by
  change (Function.update self.queues _ _ other).length ≤ (self.queues other).length
  by_cases same : other = queueClass
  · subst same
    rw [Function.update_self, List.length_tail]
    exact Nat.sub_le _ _
  · rw [Function.update_of_ne same]

/-! ### Runs -/

/-- What holds of the queue after the calls of a history. -/
structure AdmissionInvariant (checks : Bool) (capacities : Table QueueClass UInt64)
    (history : List (QueueCall × QueueReply)) (queue : ConfiguredQueue) : Prop where
  configured : queue.capacityPerClass = capacities
  classCap : ∀ queueClass, queue.depth queueClass ≤ queue.capacityOf queueClass
  agentCap : 2 * queue.depth .agentProposal ≤ (queue.capacitySum checks).getD 0
  inOrder : ∀ queueClass, history.filterMap (enrolledIn queueClass) =
    history.filterMap (dequeuedFrom queueClass) ++ queue.queues queueClass

variable {capacities : Table QueueClass UInt64} {history : List (QueueCall × QueueReply)}

theorem AdmissionInvariant.initial (checks : Bool) (capacities : Table QueueClass UInt64) :
    AdmissionInvariant checks capacities [] (newWithCapacities capacities) where
  configured := rfl
  classCap := fun _ => Nat.zero_le _
  agentCap := Nat.zero_le _
  inOrder := fun _ => rfl

/-- A call that neither stores nor takes a context leaves nothing to show. -/
theorem AdmissionInvariant.idle (holds : AdmissionInvariant checks capacities history self) {call : QueueCall}
    {reply : QueueReply} (silent : ∀ queueClass, enrolledIn queueClass (call, reply) = none)
    (keeps : ∀ queueClass, dequeuedFrom queueClass (call, reply) = none) :
    AdmissionInvariant checks capacities (history ++ [(call, reply)]) self := by
  refine ⟨holds.configured, holds.classCap, holds.agentCap, ?_⟩
  intro queueClass
  simpa [List.filterMap_append, silent queueClass, keeps queueClass] using holds.inOrder queueClass

theorem AdmissionInvariant.enroll (holds : AdmissionInvariant checks capacities history self)
    (context : ActionContext) (subjectId : String) (admitted : Bool) :
    AdmissionInvariant checks capacities
      (history ++ [(.enroll context subjectId admitted,
        .enroll (self.enroll checks maxLen context subjectId admitted).2)])
      (self.enroll checks maxLen context subjectId admitted).1 := by
  obtain ⟨room, share, stored⟩ | ⟨reply, unchanged, refused⟩ :=
    enroll_cases checks maxLen self context subjectId admitted
  · rw [stored]
    refine ⟨holds.configured, ?_, ?_, ?_⟩
    · intro queueClass
      change (Function.update self.queues _ _ queueClass).length ≤ self.capacityOf queueClass
      by_cases same : queueClass = context.queueClass
      · subst same
        rw [Function.update_self, List.length_append]
        exact room
      · rw [Function.update_of_ne same]
        exact holds.classCap queueClass
    · change 2 * (Function.update self.queues _ _ .agentProposal).length ≤ (self.capacitySum checks).getD 0
      by_cases same : .agentProposal = context.queueClass
      · rw [← same, Function.update_self, List.length_append]
        exact share same.symm
      · rw [Function.update_of_ne same]
        exact holds.agentCap
    · intro queueClass
      change _ = _ ++ Function.update self.queues _ _ queueClass
      rw [List.filterMap_append, List.filterMap_append, holds.inOrder queueClass]
      by_cases same : queueClass = context.queueClass
      · subst same
        simp [enrolledIn, dequeuedFrom]
      · have other : ¬ context.queueClass = queueClass := fun equal => same equal.symm
        simp [enrolledIn, dequeuedFrom, Function.update_of_ne same, other]
  · rw [unchanged]
    apply holds.idle
    · intro queueClass
      cases reply with
      | enrolled => cases refused
      | refused | panicked => rfl
    · intro queueClass
      rfl

theorem AdmissionInvariant.dequeue (holds : AdmissionInvariant checks capacities history self)
    (queueClass : QueueClass) :
    AdmissionInvariant checks capacities
      (history ++ [(.dequeue queueClass, .dequeue (self.dequeue queueClass).2)])
      (self.dequeue queueClass).1 := by
  refine ⟨holds.configured, ?_, ?_, ?_⟩
  · exact fun other => (depth_dequeue_le self queueClass other).trans (holds.classCap other)
  · exact (Nat.mul_le_mul_left 2 (depth_dequeue_le self queueClass _)).trans holds.agentCap
  · intro other
    change _ = _ ++ Function.update self.queues _ _ other
    rw [List.filterMap_append, List.filterMap_append, holds.inOrder other]
    by_cases same : other = queueClass
    · subst same
      rw [Function.update_self]
      cases waiting : self.queues other with
      | nil => simp [enrolledIn, dequeuedFrom, ConfiguredQueue.dequeue, waiting]
      | cons head rest => simp [enrolledIn, dequeuedFrom, ConfiguredQueue.dequeue, waiting]
    · have differs : ¬ queueClass = other := fun equal => same equal.symm
      simp [enrolledIn, dequeuedFrom, Function.update_of_ne same, differs]

/-- The invariant holds after every interleaving of calls. -/
theorem admissionInvariant_runCalls (checks : Bool) (maxLen : ℕ) (capacities : Table QueueClass UInt64)
    (calls : List QueueCall) :
    AdmissionInvariant checks capacities (answered checks maxLen capacities calls)
      (runCalls checks maxLen capacities calls) := by
  apply StepRun.run_invariant_along
    (fun before => AdmissionInvariant checks capacities (answered checks maxLen capacities before))
    (AdmissionInvariant.initial checks capacities) ?_ calls (List.prefix_refl calls)
  intro before call rest _ holds
  rw [answered, StepRun.trace_append_singleton]
  cases call with
  | enroll context subjectId admitted => exact holds.enroll context subjectId admitted
  | dequeue queueClass => exact holds.dequeue queueClass

theorem two_mul_depth_le_totalCapacity (holds : AdmissionInvariant checks capacities history self) :
    2 * self.depth .agentProposal ≤ self.totalCapacity := by
  cases summed : self.capacitySum checks with
  | none =>
    have share := holds.agentCap
    rw [summed] at share
    exact share.trans (Nat.zero_le _)
  | some sum =>
    have share := holds.agentCap
    rw [summed] at share
    exact share.trans (capacitySum_le summed)

/-- After every interleaving of calls, each class is within its capacity, `AGENT_PROPOSAL` holds at most
half of the total, an enrolment that fails changes nothing, and in each class the enrolled contexts are
those that were dequeued followed by those that wait. -/
theorem queueAdmission (checks : Bool) (maxLen : ℕ) (capacities : Table QueueClass UInt64) (calls : List QueueCall) :
    let queue := runCalls checks maxLen capacities calls
    let history := answered checks maxLen capacities calls
    (∀ queueClass, queue.depth queueClass ≤ ((capacities.lookup queueClass).getD 0).toNat) ∧
    2 * queue.depth .agentProposal ≤ capacities.total (fun _ capacity => capacity.toNat) ∧
    (∀ context subjectId admitted,
      (queue.enroll checks maxLen context subjectId admitted).2.isEnrolled = false →
        (queue.enroll checks maxLen context subjectId admitted).1 = queue) ∧
    ∀ queueClass, history.filterMap (enrolledIn queueClass) =
      history.filterMap (dequeuedFrom queueClass) ++ queue.queues queueClass := by
  intro queue history
  have holds : AdmissionInvariant checks capacities history queue :=
    admissionInvariant_runCalls checks maxLen capacities calls
  refine ⟨?_, ?_, ?_, holds.inOrder⟩
  · intro queueClass
    rw [← holds.configured]
    exact holds.classCap queueClass
  · rw [← holds.configured]
    exact two_mul_depth_le_totalCapacity holds
  · intro context subjectId admitted failed
    obtain ⟨-, -, stored⟩ | ⟨reply, unchanged, -⟩ := enroll_cases checks maxLen queue context subjectId admitted
    · rw [stored] at failed
      cases failed
    · rw [unchanged]

end ConfiguredQueue

end Aios.Runtime
