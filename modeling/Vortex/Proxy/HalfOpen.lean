import Vortex.Proxy.Forwarding

/-!
# Test requests of a half-open breaker

`HalfOpen` is documented as the state in which a test request is allowed.  It is
computed from the counter and the clock, and neither changes when a request is
selected or dispatched, so every request that arrives before the first outcome
finds the backend still available.  One test request at a time is therefore a
property of the traffic: it holds when executions that selected a half-open
backend do not overlap.
-/

namespace Vortex.Proxy

open Vortex.Core Lib

namespace ForwardState

/-- At most one execution in progress has selected the backend. -/
def SingleHolder (state : ForwardState) (backend : SharedBackend) : Prop :=
  ∀ first second, state.Holds first backend → state.Holds second backend → first = second

variable {state next : ForwardState} {backend : SharedBackend}

theorem SingleHolder.mono (single : state.SingleHolder backend)
    (fewer : ∀ request, next.Holds request backend → state.Holds request backend) :
    next.SingleHolder backend := by
  intro first second firstHolds secondHolds
  exact single first second (fewer first firstHolds) (fewer second secondHolds)

/-- Who holds a backend after one execution has moved. -/
theorem holds_cases {request : ℕ} {point : Option Forward}
    (moved : next.requests = Function.update state.requests request point) {other : ℕ}
    (holds : next.Holds other backend) :
    other = request ∧ point.map Forward.backend = some backend ∨ state.Holds other backend := by
  unfold Holds at holds
  rw [moved] at holds
  rcases Decidable.eq_or_ne other request with same | different
  · rw [same, Function.update_self] at holds
    exact .inl ⟨same, holds⟩
  · rw [Function.update_of_ne different] at holds
    exact .inr holds

/-- An execution that ends releases its backend. -/
theorem holds_of_finish {request other : ℕ} {target : SharedBackend}
    {report : Backend → Backend}
    (holds : (state.finish request target report).Holds other backend) :
    state.Holds other backend :=
  (holds_cases rfl holds).resolve_left (by simp)

end ForwardState

/-- Executions do not overlap at a half-open backend: one is selected only while
no other execution holds it, and it becomes half open while at most one does. -/
def Spaced (state : ForwardState) : ForwardStep → Prop
  | .select _ =>
      ∀ backend, selectBestBackend state.heap state.clock state.table = some backend →
        state.HalfOpen backend → ∀ request, ¬state.Holds request backend
  | .advance elapsed =>
      ∀ backend, ¬state.HalfOpen backend →
        breakerState state.heap (state.clock + elapsed) backend = .halfOpen →
          state.SingleHolder backend
  | _ => True

section Step

variable {state next : ForwardState} {step : ForwardStep} {backend : SharedBackend}

/-- A half-open backend stays so until an outcome is recorded for it. -/
theorem halfOpen_stays (effect : ForwardEffect state step next)
    (silent : step.reportsOn backend = false) (halfOpen : state.HalfOpen backend) :
    next.HalfOpen backend := by
  have breaker := effect.circuitBreaker_eq silent
  unfold ForwardState.HalfOpen breakerState at halfOpen ⊢
  rw [breaker]
  exact CircuitBreaker.halfOpen_mono halfOpen effect.clock_le

/-- A backend becomes half open only by the passing of time. -/
theorem halfOpen_before (effect : ForwardEffect state step next)
    (sameClock : next.clock = state.clock) (halfOpen : next.HalfOpen backend) :
    state.HalfOpen backend := by
  cases reported : step.reportsOn backend with
  | true => exact absurd halfOpen (effect.not_halfOpen_of_reported reported)
  | false =>
      unfold ForwardState.HalfOpen breakerState at halfOpen ⊢
      rw [effect.circuitBreaker_eq reported, sameClock] at halfOpen
      exact halfOpen

/-- Spaced executions never share a half-open backend. -/
theorem singleHolder_step
    (single : ∀ backend, state.HalfOpen backend → state.SingleHolder backend)
    (spaced : Spaced state step) (stepped : forwardStep state step = some next) :
    ∀ backend, next.HalfOpen backend → next.SingleHolder backend := by
  intro backend halfOpen
  have before : next.clock = state.clock → state.HalfOpen backend :=
    fun sameClock => halfOpen_before (forwardStep_effect stepped) sameClock halfOpen
  cases forwardStep_effect stepped with
  | advanced elapsed =>
      rcases Decidable.em (breakerState state.heap state.clock backend = .halfOpen) with
        already | newly
      · exact single backend already
      · exact spaced backend newly halfOpen
  | healthSet target healthy =>
      exact single backend (before rfl)
  | tableUpdated table => exact single backend halfOpen
  | @selected request target free chosen =>
      rcases Decidable.eq_or_ne target backend with rfl | different
      · -- Nobody held the backend, so the new execution is the only one.
        intro first second firstHolds secondHolds
        have nobody := spaced target chosen (before rfl)
        rcases ForwardState.holds_cases rfl firstHolds with ⟨rfl, -⟩ | earlier
        · rcases ForwardState.holds_cases rfl secondHolds with ⟨rfl, -⟩ | earlier
          · rfl
          · exact absurd earlier (nobody second)
        · exact absurd earlier (nobody first)
      · apply (single backend (before rfl)).mono
        intro other holds
        rcases ForwardState.holds_cases rfl holds with ⟨-, same⟩ | earlier
        · exact absurd (Option.some.inj same) different
        · exact earlier
  | refused request => exact single backend halfOpen
  | @dispatched request target holding =>
      apply (single backend halfOpen).mono
      intro other holds
      rcases ForwardState.holds_cases rfl holds with ⟨rfl, same⟩ | earlier
      · rw [ForwardState.Holds, holding]
        exact same
      · exact earlier
  | succeeded rttMs holding =>
      apply (single backend (before rfl)).mono
      intro other
      exact ForwardState.holds_of_finish
  | failed holding =>
      apply (single backend (before rfl)).mono
      intro other
      exact ForwardState.holds_of_finish
  | abandoned holding =>
      apply (single backend (before rfl)).mono
      intro other
      exact ForwardState.holds_of_finish

/-- Moving an execution that is not waiting for this backend leaves those that
are. -/
theorem waiting_update {request moved : ℕ} {point : Option Forward}
    (waiting : state.requests request = some (.dispatched backend))
    (elsewhere : state.requests moved ≠ some (.dispatched backend)) :
    Function.update state.requests moved point request = some (.dispatched backend) := by
  have different : request ≠ moved := by
    intro same
    exact elsewhere (same ▸ waiting)
  rw [Function.update_of_ne different]
  exact waiting

/-- A dispatched request awaits its outcome. -/
theorem dispatched_stays (effect : ForwardEffect state step next)
    (silent : step.reportsOn backend = false) {request : ℕ}
    (waiting : state.requests request = some (.dispatched backend)) :
    next.requests request = some (.dispatched backend) := by
  cases effect with
  | advanced elapsed => exact waiting
  | healthSet target healthy => exact waiting
  | tableUpdated table => exact waiting
  | selected free chosen => exact waiting_update waiting (by simp [free])
  | refused request => exact waiting
  | dispatched holding => exact waiting_update waiting (by simp [holding])
  | succeeded rttMs holding =>
      have different := beq_eq_false_iff_ne.mp silent
      exact waiting_update waiting (by simp [holding, different])
  | failed holding =>
      apply waiting_update waiting
      intro same
      rw [ForwardState.Holds, same] at holding
      exact beq_eq_false_iff_ne.mp silent (Option.some.inj holding).symm
  | abandoned holding => exact waiting_update waiting (by simp [holding])

end Step

/-- Along a run of spaced executions from a half-open backend to before its first
outcome, at most one request is dispatched to it, and none if one is waiting. -/
theorem dispatches_of_runs {state final : ForwardState} {steps : List ForwardStep}
    {backend : SharedBackend} (runs : forwardSystem.Runs Spaced state steps final)
    (single : ∀ backend, state.HalfOpen backend → state.SingleHolder backend)
    (halfOpen : state.HalfOpen backend)
    (silent : ∀ step ∈ steps, step.reportsOn backend = false) :
    steps.countP (ForwardStep.dispatchesTo backend) ≤ 1 ∧
      ∀ request, state.requests request = some (.dispatched backend) →
        steps.countP (ForwardStep.dispatchesTo backend) = 0 := by
  induction runs with
  | nil state => simp
  | @cons state next final step steps spaced stepped rest ih =>
      have effect := forwardStep_effect stepped
      have silentStep := silent step (by simp)
      rcases ih (singleHolder_step single spaced stepped)
        (halfOpen_stays effect silentStep halfOpen)
        (fun later membership => silent later (by simp [membership])) with
        ⟨atMostOne, noneIfWaiting⟩
      cases dispatches : step.dispatchesTo backend with
      | false =>
          rw [List.countP_cons_of_neg (by simp [dispatches])]
          refine ⟨atMostOne, ?_⟩
          intro request waiting
          exact noneIfWaiting request (dispatched_stays effect silentStep waiting)
      | true =>
          rw [List.countP_cons_of_pos dispatches]
          cases effect with
          | @dispatched request target holding =>
              have same : target = backend := beq_iff_eq.mp dispatches
              subst same
              have noMore := noneIfWaiting request (Function.update_self ..)
              refine ⟨by rw [noMore], ?_⟩
              -- A second dispatch would need a second holder of the backend.
              intro other waiting
              have equal := single target halfOpen other request
                (by rw [ForwardState.Holds, waiting]; rfl)
                (by rw [ForwardState.Holds, holding]; rfl)
              rw [equal, holding] at waiting
              cases waiting
          | _ => exact absurd dispatches Bool.false_ne_true

/-- In every run whose executions do not overlap at a half-open backend, from any
moment at which a backend is half open up to the first outcome recorded for it,
at most one request is dispatched to it. -/
theorem single_test_request {clock : ℕ} {heap : Heap} {table : List SharedBackend}
    {earlier window : List ForwardStep} {state final : ForwardState}
    {backend : SharedBackend}
    (reached : forwardSystem.Runs Spaced (.initial clock heap table) earlier state)
    (halfOpen : state.HalfOpen backend)
    (runs : forwardSystem.Runs Spaced state window final)
    (silent : ∀ step ∈ window, step.reportsOn backend = false) :
    window.countP (ForwardStep.dispatchesTo backend) ≤ 1 := by
  have single : ∀ backend, state.HalfOpen backend → state.SingleHolder backend := by
    apply reached.invariant
    · intro state next step single spaced stepped
      exact singleHolder_step single spaced stepped
    · intro backend _ first second holds
      cases holds
  exact (dispatches_of_runs runs single halfOpen silent).1

/-- One request that arrives after the timeout meets the condition. -/
theorem single_test_request_alone :
    ∃ state final,
      forwardSystem.Runs Spaced (.initial 101 trippedHeap [0]) [.advance 30] state ∧
      state.HalfOpen 0 ∧
      forwardSystem.Runs Spaced state [.select 0, .dispatch 0 0] final ∧
      [ForwardStep.select 0, .dispatch 0 0].countP (ForwardStep.dispatchesTo 0) ≤ 1 := by
  have executed : ∃ state final,
      forwardSystem.Runs Spaced (.initial 101 trippedHeap [0]) [.advance 30] state ∧
        state.HalfOpen 0 ∧
        forwardSystem.Runs Spaced state [.select 0, .dispatch 0 0] final := by
    refine ⟨_, _, .cons ?_ rfl (.nil _), rfl, .cons ?_ rfl (.cons trivial rfl (.nil _))⟩
    · intro backend _ _ first second holds
      cases holds
    · intro backend _ _ request holds
      cases holds
  rcases executed with ⟨state, final, reached, halfOpen, window⟩
  exact ⟨state, final, reached, halfOpen, window,
    single_test_request reached halfOpen window (by decide)⟩

/-- Two requests that arrive within the second in which the breaker becomes half
open are both dispatched before either has an outcome. -/
theorem single_test_request_fails :
    ∃ state final, forwardSystem.run (.initial 130 trippedHeap [0]) [.advance 1] = some state ∧
      breakerState trippedHeap 130 0 = .opened ∧ state.HalfOpen 0 ∧
      forwardSystem.run state [.select 0, .select 1, .dispatch 0 0, .dispatch 1 0] = some final ∧
      (∀ step ∈ [ForwardStep.select 0, .select 1, .dispatch 0 0, .dispatch 1 0],
        step.reportsOn 0 = false) ∧
      ¬[ForwardStep.select 0, .select 1, .dispatch 0 0, .dispatch 1 0].countP
        (ForwardStep.dispatchesTo 0) ≤ 1 := by
  exact ⟨_, _, rfl, by decide, rfl, rfl, by decide, by decide⟩

end Vortex.Proxy
