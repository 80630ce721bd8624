import Vortex.Lib.Trace
import Vortex.Proxy.ActiveRequests

/-!
# What an action does to a backend

Each action of the pipeline concerns at most one backend.  What it does to that backend is
an event, and a backend changes only by the events that concern it.
-/

namespace Vortex.Proxy

open Vortex.Core Lib

/-- What an action does to a backend. -/
inductive BackendEvent where
  /-- `set_healthy`. -/
  | probed (healthy : Bool)
  /-- `increment_active`. -/
  | entered
  /-- `record_failure`, and the guard is dropped. -/
  | failed (now : ℕ)
  /-- `record_success`. -/
  | succeeded
  /-- `observe_latency`, and the guard is dropped. -/
  | finished (rttMs : ℚ)
  /-- The guard is dropped. -/
  | left
  deriving DecidableEq, Repr

namespace BackendEvent

/-- The backend after the event. -/
def apply (backend : Backend) : BackendEvent → Backend
  | .probed healthy => { backend with healthy }
  | .entered => { backend with ewma := backend.ewma.incrementActive }
  | .failed now => { reportFailure now backend with ewma := backend.ewma.dropGuard }
  | .succeeded => recordSuccess backend
  | .finished rttMs => { backend with ewma := (backend.ewma.observeLatency rttMs).dropGuard }
  | .left => { backend with ewma := backend.ewma.dropGuard }

end BackendEvent

/-- The backend concerned by an action, with what the action does to it. -/
def PipelineState.event (state : PipelineState) :
    PipelineStep → Option (SharedBackend × BackendEvent)
  | .setHealthy backend healthy => some (backend, .probed healthy)
  | .select =>
      (selectBestBackend state.heap state.clock state.table).map fun backend =>
        (backend, .entered)
  | .connect request false => onRequest request (.failed state.clock)
  | .handshake request none => onRequest request (.failed state.clock)
  | .secondReady request false => onRequest request .left
  | .respond request (some _) => onRequest request .succeeded
  | .respond request none => onRequest request (.failed state.clock)
  | .finish request rttMs => onRequest request (.finished rttMs)
  | .cancel request => onRequest request .left
  | _ => none
where
  /-- An event on the backend that a request has selected. -/
  onRequest (request : ℕ) (event : BackendEvent) : Option (SharedBackend × BackendEvent) :=
    (state.requests request).map fun phase => (phase.backend, event)

/-- What an event says of the action that it is. -/
def BackendEvent.NotedAt (state : PipelineState) (step : PipelineStep) (backend : SharedBackend) :
    BackendEvent → Prop
  | .probed healthy => step = .setHealthy backend healthy
  | .entered => selectBestBackend state.heap state.clock state.table = some backend
  | .failed now => now = state.clock
  | _ => True

theorem event_notedAt {state : PipelineState} {step : PipelineStep} {backend : SharedBackend}
    {event : BackendEvent} (noted : state.event step = some (backend, event)) :
    event.NotedAt state step backend := by
  cases step with
  | advance elapsed | updateBackends table | close conn | pop request | checkPopped request
  | firstReady request ok | offer request | push request | relayed request => cases noted
  | setHealthy target healthy =>
      cases noted
      exact rfl
  | select =>
      rcases Option.map_eq_some_iff.mp noted with ⟨chosen, selected, ⟨⟩⟩
      exact selected
  | finish request rttMs | cancel request =>
      rcases Option.map_eq_some_iff.mp noted with ⟨_, _, ⟨⟩⟩
      exact trivial
  | connect request ok =>
      cases ok with
      | true => cases noted
      | false =>
          rcases Option.map_eq_some_iff.mp noted with ⟨_, _, ⟨⟩⟩
          exact rfl
  | secondReady request ok =>
      cases ok with
      | true => cases noted
      | false =>
          rcases Option.map_eq_some_iff.mp noted with ⟨_, _, ⟨⟩⟩
          exact trivial
  | handshake request conn =>
      cases conn with
      | some conn => cases noted
      | none =>
          rcases Option.map_eq_some_iff.mp noted with ⟨_, _, ⟨⟩⟩
          exact rfl
  | respond request hasBody =>
      cases hasBody with
      | some hasBody =>
          rcases Option.map_eq_some_iff.mp noted with ⟨_, _, ⟨⟩⟩
          exact trivial
      | none =>
          rcases Option.map_eq_some_iff.mp noted with ⟨_, _, ⟨⟩⟩
          exact rfl

/-- An event happens to its backend. -/
def applyEvent (heap : Heap) (entry : SharedBackend × BackendEvent) : Heap :=
  heap.modify entry.1 fun backend => entry.2.apply backend

/-- An action changes the heap by the event that it is. -/
theorem heap_pipelineStep {state next : PipelineState} {step : PipelineStep}
    (stepped : pipelineStep state step = some next) :
    next.heap = (state.event step).toList.foldl applyEvent state.heap := by
  cases step with
  | advance elapsed | setHealthy backend healthy | updateBackends table =>
      cases stepped
      rfl
  | close conn =>
      rcases Option.map_eq_some_iff.mp stepped with ⟨connection, _, rfl⟩
      rfl
  | select =>
      simp only [pipelineStep] at stepped
      split at stepped
      · next chosen =>
          cases stepped
          simp only [PipelineState.event, chosen]
          rfl
      · next chosen =>
          cases stepped
          simp only [PipelineState.event, chosen]
          rfl
  | pop request =>
      simp only [pipelineStep] at stepped
      split at stepped
      · split at stepped
        · cases stepped
          rfl
        · cases stepped
          rfl
      · cases stepped
  | checkPopped request | offer request =>
      simp only [pipelineStep] at stepped
      split at stepped
      · split at stepped
        · cases stepped
          rfl
        · cases stepped
          rfl
      · cases stepped
  | push request | relayed request =>
      simp only [pipelineStep] at stepped
      split at stepped
      · cases stepped
        rfl
      · cases stepped
  | firstReady request ok =>
      simp only [pipelineStep] at stepped
      split at stepped
      · cases ok <;> cases stepped <;> rfl
      · cases stepped
  | connect request ok | secondReady request ok =>
      simp only [pipelineStep] at stepped
      split at stepped
      · next running =>
          cases ok with
          | true =>
              cases stepped
              rfl
          | false =>
              cases stepped
              simp only [PipelineState.event, PipelineState.event.onRequest, running]
              rfl
      · cases stepped
  | handshake request conn =>
      simp only [pipelineStep] at stepped
      split at stepped
      · rcases Option.ite_none_right_eq_some.mp stepped with ⟨_, ⟨⟩⟩
        rfl
      · next running =>
          cases stepped
          simp only [PipelineState.event, PipelineState.event.onRequest, running]
          rfl
      · cases stepped
  | respond request hasBody =>
      simp only [pipelineStep] at stepped
      split at stepped
      · next running =>
          cases stepped
          simp only [PipelineState.event, PipelineState.event.onRequest, running]
          rfl
      · next running =>
          cases stepped
          simp only [PipelineState.event, PipelineState.event.onRequest, running]
          rfl
      · cases stepped
  | finish request rttMs =>
      simp only [pipelineStep] at stepped
      split at stepped
      · next running =>
          cases stepped
          simp only [PipelineState.event, PipelineState.event.onRequest, running]
          rfl
      · cases stepped
  | cancel request =>
      simp only [pipelineStep] at stepped
      split at stepped
      · next running =>
          rcases Option.ite_none_right_eq_some.mp stepped with ⟨_, ⟨⟩⟩
          simp only [PipelineState.event, PipelineState.event.onRequest, running]
          rfl
      · cases stepped

/-- The clock and the table after an action. -/
def surroundings (state : PipelineState) : PipelineStep → ℕ × List SharedBackend
  | .advance elapsed => (state.clock + elapsed, state.table)
  | .updateBackends table => (state.clock, table)
  | _ => (state.clock, state.table)

theorem surroundings_pipelineStep {state next : PipelineState} {step : PipelineStep}
    (stepped : pipelineStep state step = some next) :
    (next.clock, next.table) = surroundings state step := by
  cases step with
  | advance elapsed | setHealthy backend healthy | updateBackends table =>
      cases stepped
      rfl
  | close conn =>
      rcases Option.map_eq_some_iff.mp stepped with ⟨connection, _, rfl⟩
      rfl
  | select =>
      simp only [pipelineStep] at stepped
      split at stepped <;> cases stepped <;> rfl
  | pop request | checkPopped request | firstReady request ok | connect request ok
  | secondReady request ok | offer request | cancel request =>
      simp only [pipelineStep] at stepped
      split at stepped
      · split at stepped <;> cases stepped <;> rfl
      · cases stepped
  | push request | relayed request | finish request rttMs =>
      simp only [pipelineStep] at stepped
      split at stepped <;> cases stepped
      rfl
  | handshake request conn =>
      simp only [pipelineStep] at stepped
      split at stepped
      · rcases Option.ite_none_right_eq_some.mp stepped with ⟨_, ⟨⟩⟩
        rfl
      · cases stepped
        rfl
      · cases stepped
  | respond request hasBody =>
      simp only [pipelineStep] at stepped
      split at stepped <;> cases stepped <;> rfl

/-- Only the passing of time changes the clock. -/
theorem clock_pipelineStep {state next : PipelineState} {step : PipelineStep}
    (stepped : pipelineStep state step = some next) (instant : ∀ elapsed, step ≠ .advance elapsed) :
    next.clock = state.clock := by
  apply (congrArg Prod.fst (surroundings_pipelineStep stepped)).trans
  cases step with
  | advance elapsed => exact absurd rfl (instant elapsed)
  | _ => rfl

/-- Time does not go back. -/
theorem clock_le_pipelineStep {state next : PipelineState} {step : PipelineStep}
    (stepped : pipelineStep state step = some next) : state.clock ≤ next.clock := by
  cases step with
  | advance elapsed =>
      cases stepped
      exact Nat.le_add_right _ _
  | _ => exact (clock_pipelineStep stepped nofun).ge

/-- Only a swap changes the table. -/
theorem table_pipelineStep {state next : PipelineState} {step : PipelineStep}
    (stepped : pipelineStep state step = some next)
    (keeps : ∀ table, step ≠ .updateBackends table) : next.table = state.table := by
  apply (congrArg Prod.snd (surroundings_pipelineStep stepped)).trans
  cases step with
  | updateBackends table => exact absurd rfl (keeps table)
  | _ => rfl

/-! ## The events of one backend -/

/-- The events of a history that concern a backend. -/
def eventsOf {Event : Type} (backend : SharedBackend) (history : List (SharedBackend × Event)) :
    List Event :=
  history.filterMap fun entry => if entry.1 = backend then some entry.2 else none

/-- An event concerns the backend, or another. -/
theorem eventsOf_toList {Event : Type} (noted : Option (SharedBackend × Event))
    (backend : SharedBackend) :
    eventsOf backend noted.toList = [] ∨
      ∃ event, noted = some (backend, event) ∧ eventsOf backend noted.toList = [event] := by
  cases noted with
  | none => exact .inl rfl
  | some entry =>
      rcases entry with ⟨target, event⟩
      by_cases same : target = backend
      · subst same
        exact .inr ⟨event, rfl, by simp [eventsOf]⟩
      · exact .inl (by simp [eventsOf, same])

/-- No event changes another backend. -/
theorem foldl_modify {Event : Type} (apply : Backend → Event → Backend) (heap : Heap)
    (history : List (SharedBackend × Event)) (backend : SharedBackend) :
    history.foldl (fun heap entry => heap.modify entry.1 fun b => apply b entry.2) heap backend =
      (eventsOf backend history).foldl apply (heap backend) := by
  apply @foldl_filterMap_of_changes _ _ _ _ fun heap : Heap => heap backend
  intro heap entry
  rw [Heap.modify]
  split
  · next same =>
      rw [same, Function.update_self]
      rfl
  · next different =>
      rw [Function.update_of_ne (Ne.symm different)]
      rfl

/-- An action does not concern the backend, or is an event of it. -/
theorem heap_of_event {state next : PipelineState} {step : PipelineStep}
    (stepped : pipelineStep state step = some next) (backend : SharedBackend) :
    next.heap backend = state.heap backend ∨
      ∃ event, state.event step = some (backend, event) ∧
        next.heap backend = event.apply (state.heap backend) := by
  have heap : next.heap backend =
      (eventsOf backend (state.event step).toList).foldl BackendEvent.apply (state.heap backend) := by
    rw [heap_pipelineStep stepped]
    exact foldl_modify BackendEvent.apply _ _ _
  rcases eventsOf_toList (state.event step) backend with none | ⟨event, noted, own⟩
  · rw [none] at heap
    exact .inl heap
  · rw [own] at heap
    exact .inr ⟨event, noted, heap⟩

/-- A backend stays at its address. -/
theorem addr_pipelineStep {state next : PipelineState} {step : PipelineStep}
    (stepped : pipelineStep state step = some next) (backend : SharedBackend) :
    (next.heap backend).addr = (state.heap backend).addr := by
  rcases heap_of_event stepped backend with heap | ⟨event, _, heap⟩
  · rw [heap]
  · rw [heap]
    cases event <;> rfl

/-- New backends at one address, whatever the location. -/
def newBackends : Heap := fun _ => .new ⟨1⟩ ⟨.v4 ⟨⟨127, 0, 0, 1⟩⟩, 8080⟩

/-- The backends of a heap are as `Backend::new` makes them. -/
def AllNew (heap : Heap) : Prop :=
  ∀ backend, (heap backend).circuitBreaker = .new ∧ (heap backend).healthy = true ∧
    (heap backend).ewma = .new 50 (1 / 2)

end Vortex.Proxy
