import Vortex.Core.Balance
import Vortex.Lib.Transition

/-!
# Interleavings of `forward_request`

After the rate limit, `forward_request` selects a backend, prepares a connection,
dispatches the request and reports the outcome to the backend's breaker.  An
execution that fails to connect reports without having dispatched; one whose
sender does not become ready returns without reporting.  Any number of
executions interleave, together with health probes and swaps of the table.  An
execution that is dropped after it has dispatched is not among them.
-/

namespace Vortex.Proxy

open Vortex.Core Lib

/-- Where an execution is, with the backend it has selected. -/
inductive Forward where
  | selected (backend : SharedBackend)
  | dispatched (backend : SharedBackend)
  deriving DecidableEq, Repr

/-- The backend selected by an execution. -/
def Forward.backend : Forward → SharedBackend
  | .selected backend => backend
  | .dispatched backend => backend

/-- The shared state and the executions in progress. -/
structure ForwardState where
  clock : ℕ
  heap : Heap
  table : List SharedBackend
  requests : ℕ → Option Forward

/-- Actions of the executions and of their surroundings. -/
inductive ForwardStep where
  /-- Time passes. -/
  | advance (elapsed : ℕ)
  /-- A health probe sets the flag of a backend. -/
  | setHealthy (backend : SharedBackend) (healthy : Bool)
  /-- The table is replaced. -/
  | updateBackends (table : List SharedBackend)
  /-- `select_best_backend` and `increment_active`. -/
  | select (request : ℕ)
  /-- `send_request` to the selected backend. -/
  | dispatch (request : ℕ) (backend : SharedBackend)
  /-- A response arrives: `record_success`, `observe_latency`. -/
  | succeed (request : ℕ) (backend : SharedBackend) (rttMs : ℚ)
  /-- Connecting, the handshake or the request fails: `record_failure`. -/
  | fail (request : ℕ) (backend : SharedBackend)
  /-- The sender is not ready: the execution returns without reporting. -/
  | abandon (request : ℕ) (backend : SharedBackend)
  deriving DecidableEq, Repr

namespace ForwardStep

/-- The action sends a request to the backend. -/
def dispatchesTo (backend : SharedBackend) : ForwardStep → Bool
  | .dispatch _ target => target == backend
  | _ => false

/-- The action records an outcome for the backend. -/
def reportsOn (backend : SharedBackend) : ForwardStep → Bool
  | .succeed _ target _ => target == backend
  | .fail _ target => target == backend
  | _ => false

end ForwardStep

namespace ForwardState

/-- Before the first request. -/
def initial (clock : ℕ) (heap : Heap) (table : List SharedBackend) : ForwardState where
  clock
  heap
  table
  requests := fun _ => none

/-- An execution in progress has selected the backend. -/
def Holds (state : ForwardState) (request : ℕ) (backend : SharedBackend) : Prop :=
  (state.requests request).map Forward.backend = some backend

/-- The backend's breaker is half open now. -/
def HalfOpen (state : ForwardState) (backend : SharedBackend) : Prop :=
  breakerState state.heap state.clock backend = .halfOpen

/-- Selection of a backend by a new execution. -/
def select (state : ForwardState) (request : ℕ) (backend : SharedBackend) : ForwardState :=
  { state with
    heap := state.heap.modify backend fun b => { b with ewma := b.ewma.incrementActive }
    requests := Function.update state.requests request (some (.selected backend)) }

/-- Dispatch of the request to the backend. -/
def dispatch (state : ForwardState) (request : ℕ) (backend : SharedBackend) : ForwardState :=
  { state with
    requests := Function.update state.requests request (some (.dispatched backend)) }

/-- The end of an execution, with its effect on the backend; its guard is
dropped. -/
def finish (state : ForwardState) (request : ℕ) (backend : SharedBackend)
    (report : Backend → Backend) : ForwardState :=
  { state with
    heap := state.heap.modify backend fun b =>
      { report b with ewma := (report b).ewma.dropGuard }
    requests := Function.update state.requests request none }

end ForwardState

/-- What a response reports to the backend. -/
def reportSuccess (rttMs : ℚ) (backend : Backend) : Backend :=
  { backend with
    circuitBreaker := backend.circuitBreaker.recordSuccess
    ewma := backend.ewma.observeLatency rttMs }

/-- What a failure reports to the backend. -/
def reportFailure (now : ℕ) (backend : Backend) : Backend :=
  { backend with circuitBreaker := backend.circuitBreaker.recordFailure now }

/-- One action. -/
def forwardStep (state : ForwardState) : ForwardStep → Option ForwardState
  | .advance elapsed => some { state with clock := state.clock + elapsed }
  | .setHealthy backend healthy =>
      some { state with heap := state.heap.modify backend fun b => { b with healthy } }
  | .updateBackends table => some { state with table }
  | .select request =>
      match state.requests request with
      | some _ => none
      | none =>
          match selectBestBackend state.heap state.clock state.table with
          | some backend => some (state.select request backend)
          -- `no_healthy_upstream`: the execution ends at once.
          | none => some state
  | .dispatch request backend =>
      if state.requests request = some (.selected backend) then
        some (state.dispatch request backend)
      else none
  | .succeed request backend rttMs =>
      if state.requests request = some (.dispatched backend) then
        some (state.finish request backend (reportSuccess rttMs))
      else none
  | .fail request backend =>
      if state.requests request = some (.selected backend) ∨
          state.requests request = some (.dispatched backend) then
        some (state.finish request backend (reportFailure state.clock))
      else none
  | .abandon request backend =>
      if state.requests request = some (.selected backend) then
        some (state.finish request backend id)
      else none

/-- Request forwarding as a transition system. -/
def forwardSystem : System ForwardState ForwardStep where
  step := forwardStep

/-! ## What one action can do -/

/-- The effects of an action that is enabled. -/
inductive ForwardEffect (state : ForwardState) : ForwardStep → ForwardState → Prop where
  | advanced (elapsed : ℕ) :
      ForwardEffect state (.advance elapsed) { state with clock := state.clock + elapsed }
  | healthSet (backend : SharedBackend) (healthy : Bool) :
      ForwardEffect state (.setHealthy backend healthy)
        { state with heap := state.heap.modify backend fun b => { b with healthy } }
  | tableUpdated (table : List SharedBackend) :
      ForwardEffect state (.updateBackends table) { state with table }
  | selected {request : ℕ} {backend : SharedBackend} (free : state.requests request = none)
      (chosen : selectBestBackend state.heap state.clock state.table = some backend) :
      ForwardEffect state (.select request) (state.select request backend)
  | refused (request : ℕ) : ForwardEffect state (.select request) state
  | dispatched {request : ℕ} {backend : SharedBackend}
      (holding : state.requests request = some (.selected backend)) :
      ForwardEffect state (.dispatch request backend) (state.dispatch request backend)
  | succeeded {request : ℕ} {backend : SharedBackend} (rttMs : ℚ)
      (holding : state.requests request = some (.dispatched backend)) :
      ForwardEffect state (.succeed request backend rttMs)
        (state.finish request backend (reportSuccess rttMs))
  | failed {request : ℕ} {backend : SharedBackend} (holding : state.Holds request backend) :
      ForwardEffect state (.fail request backend)
        (state.finish request backend (reportFailure state.clock))
  | abandoned {request : ℕ} {backend : SharedBackend}
      (holding : state.requests request = some (.selected backend)) :
      ForwardEffect state (.abandon request backend) (state.finish request backend id)

theorem forwardStep_effect {state next : ForwardState} {step : ForwardStep}
    (stepped : forwardStep state step = some next) : ForwardEffect state step next := by
  cases step with
  | advance elapsed =>
      cases stepped
      exact .advanced elapsed
  | setHealthy backend healthy =>
      cases stepped
      exact .healthSet backend healthy
  | updateBackends table =>
      cases stepped
      exact .tableUpdated table
  | select request =>
      simp only [forwardStep] at stepped
      split at stepped
      · cases stepped
      · next free =>
          split at stepped
          · next backend chosen =>
              cases stepped
              exact .selected free chosen
          · cases stepped
            exact .refused request
  | dispatch request backend =>
      simp only [forwardStep, Option.ite_none_right_eq_some] at stepped
      rcases stepped with ⟨holding, ⟨⟩⟩
      exact .dispatched holding
  | succeed request backend rttMs =>
      simp only [forwardStep, Option.ite_none_right_eq_some] at stepped
      rcases stepped with ⟨holding, ⟨⟩⟩
      exact .succeeded rttMs holding
  | fail request backend =>
      simp only [forwardStep, Option.ite_none_right_eq_some] at stepped
      rcases stepped with ⟨holding, ⟨⟩⟩
      apply ForwardEffect.failed
      rcases holding with selected | dispatched
      · simp [ForwardState.Holds, selected, Forward.backend]
      · simp [ForwardState.Holds, dispatched, Forward.backend]
  | abandon request backend =>
      simp only [forwardStep, Option.ite_none_right_eq_some] at stepped
      rcases stepped with ⟨holding, ⟨⟩⟩
      exact .abandoned holding

namespace ForwardEffect

variable {state next : ForwardState} {step : ForwardStep} {backend : SharedBackend}

/-- Only a recorded outcome changes a breaker. -/
theorem circuitBreaker_eq (effect : ForwardEffect state step next)
    (silent : step.reportsOn backend = false) :
    (next.heap backend).circuitBreaker = (state.heap backend).circuitBreaker := by
  cases effect with
  | advanced elapsed => rfl
  | healthSet target healthy => exact Heap.modify_keeps Backend.circuitBreaker rfl backend
  | tableUpdated table => rfl
  | selected free chosen => exact Heap.modify_keeps Backend.circuitBreaker rfl backend
  | refused request => rfl
  | dispatched holding => rfl
  | succeeded rttMs holding =>
      have different := beq_eq_false_iff_ne.mp silent
      simp [ForwardState.finish, Heap.modify, Function.update_of_ne different.symm]
  | failed holding =>
      have different := beq_eq_false_iff_ne.mp silent
      simp [ForwardState.finish, Heap.modify, Function.update_of_ne different.symm]
  | abandoned holding => exact Heap.modify_keeps Backend.circuitBreaker rfl backend

/-- Time does not go back. -/
theorem clock_le (effect : ForwardEffect state step next) : state.clock ≤ next.clock := by
  cases effect with
  | advanced elapsed => exact Nat.le_add_right _ _
  | _ => exact Nat.le_refl _

/-- Right after an outcome a breaker is not half open. -/
theorem not_halfOpen_of_reported (effect : ForwardEffect state step next)
    (reported : step.reportsOn backend = true) : ¬next.HalfOpen backend := by
  cases effect with
  | @succeeded request target rttMs holding =>
      have same : target = backend := beq_iff_eq.mp reported
      subst same
      simp [ForwardState.HalfOpen, breakerState, ForwardState.finish, Heap.modify, reportSuccess,
        CircuitBreaker.state_eq_halfOpen_iff, CircuitBreaker.recordSuccess, failureThreshold]
  | @failed request target holding =>
      have same : target = backend := beq_iff_eq.mp reported
      subst same
      simp only [ForwardState.HalfOpen, breakerState, ForwardState.finish, Heap.modify,
        Function.update_self, reportFailure]
      exact CircuitBreaker.recordFailure_state_ne_halfOpen _ _
  | _ => exact absurd reported Bool.false_ne_true

end ForwardEffect

/-! ## Requests that only arrive -/

namespace ForwardStep

/-- A new execution, or time passing before one. -/
def isArrival : ForwardStep → Bool
  | .advance _ => true
  | .select _ => true
  | _ => false

/-- The seconds at which executions select, from the clock at the start. -/
def selectTimes : ℕ → List ForwardStep → List ℕ
  | clock, .advance elapsed :: steps => selectTimes (clock + elapsed) steps
  | clock, .select _ :: steps => clock :: selectTimes clock steps
  | clock, _ :: steps => selectTimes clock steps
  | _, [] => []

end ForwardStep

/-- An execution that selects routes one request. -/
theorem forwardStep_select {state next : ForwardState} {request : ℕ}
    (stepped : forwardStep state (.select request) = some next) :
    next.clock = state.clock ∧ next.table = state.table ∧
      next.heap = routeNext state.table state.heap state.clock := by
  simp only [forwardStep] at stepped
  split at stepped
  · cases stepped
  · split at stepped
    · next backend chosen =>
        cases stepped
        simp [ForwardState.select, routeNext, chosen]
    · next chosen =>
        cases stepped
        simp [routeNext, chosen]

/-- Executions that arrive and do not complete route their requests one after
another. -/
theorem heap_of_arrivals {state final : ForwardState} {steps : List ForwardStep}
    (runs : forwardSystem.Runs (fun _ step => step.isArrival = true) state steps final) :
    final.heap =
      routeAll state.table state.heap (ForwardStep.selectTimes state.clock steps) := by
  induction runs with
  | nil state => rfl
  | @cons state next final step steps arrival stepped rest ih =>
      cases step with
      | advance elapsed =>
          cases stepped
          exact ih
      | select request =>
          rcases forwardStep_select stepped with ⟨clock, table, heap⟩
          rw [ih, clock, table, heap]
          rfl
      | _ => cases arrival

end Vortex.Proxy
