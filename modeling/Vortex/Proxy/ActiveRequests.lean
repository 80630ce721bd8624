import Vortex.Lib.Counting
import Vortex.Proxy.PoolSafety

/-!
# Requests in flight and the count of active requests

`forward_request` holds a guard on `active_requests` of the backend it selected
until it returns.  The count therefore always is the number of executions that
have not returned.  A response whose body is still being relayed to its client
is no longer counted, so the count is the number of requests in flight only as
long as no response with a body is returned.
-/

namespace Vortex.Proxy

open Vortex.Core Lib

/-- The request has selected the backend and its execution has not returned. -/
def executesOn (backend : SharedBackend) (request : Option Phase) : Bool :=
  request.any fun phase => phase.executing && phase.backend == backend

/-- The request has selected the backend and is not over: it has not failed, it
has not been cancelled, and its response has not been relayed. -/
def isOn (backend : SharedBackend) (request : Option Phase) : Bool :=
  request.any fun phase => phase.backend == backend

namespace PipelineState

/-- The executions on a backend that have not returned. -/
def executions (state : PipelineState) (backend : SharedBackend) : ℕ :=
  countBelow (executesOn backend) state.started state.requests

/-- The requests in flight on a backend. -/
def inFlight (state : PipelineState) (backend : SharedBackend) : ℕ :=
  countBelow (isOn backend) state.started state.requests

/-- `active_requests` of a backend. -/
def activeRequests (state : PipelineState) (backend : SharedBackend) : ℕ :=
  (state.heap backend).ewma.activeRequests

end PipelineState

/-! ## The guards held -/

/-- Requests are numbered below `started`, and the count of active requests is
that of the executions that have not returned. -/
structure Counted (state : PipelineState) : Prop where
  numbered : ∀ request phase, state.requests request = some phase → request < state.started
  counted : ∀ backend, state.activeRequests backend = state.executions backend

section Counted

variable {state next : PipelineState} {request : ℕ} {before : Phase}

theorem Counted.initial (clock : ℕ) {heap : Heap} (table : List SharedBackend)
    (unused : ∀ backend, (heap backend).ewma.activeRequests = 0) :
    Counted (.initial clock heap table) where
  numbered := by simp [PipelineState.initial]
  counted := unused

/-- A running request has its guard. -/
theorem Counted.activeRequests_pos (counted : Counted state)
    (running : state.requests request = some before) (executing : before.executing = true) :
    0 < state.activeRequests before.backend := by
  rw [counted.counted]
  apply countBelow_pos (counted.numbered request before running)
  rw [running, executesOn, Option.any_some, executing, beq_self_eq_true]
  rfl

/-- A request moves on, and the count changes as it starts or stops executing. -/
theorem Counted.update (counted : Counted state) {after : Option Phase}
    (running : state.requests request = some before)
    (updated : next.requests = Function.update state.requests request after)
    (started : next.started = state.started)
    (active : ∀ backend,
      next.activeRequests backend + (executesOn backend (some before)).toNat =
        state.activeRequests backend + (executesOn backend after).toNat) : Counted next := by
  have inside := counted.numbered request before running
  constructor
  · rw [started]
    refine forall_running_update updated ?_ ?_
    · exact fun _ _ => inside
    · exact counted.numbered
  · intro backend
    have change := countBelow_update (executesOn backend) state.requests inside after
    have current := counted.counted backend
    have difference := active backend
    rw [running] at change
    rw [PipelineState.executions, started, updated]
    rw [PipelineState.executions] at current
    omega

/-- A request that executes on the same backend before and after. -/
theorem Counted.of_executing (counted : Counted state) {after : Phase}
    (running : state.requests request = some before)
    (updated : next.requests = Function.update state.requests request (some after))
    (started : next.started = state.started)
    (executing : after.executing = before.executing) (same : after.backend = before.backend)
    (active : ∀ backend, next.activeRequests backend = state.activeRequests backend) :
    Counted next := by
  apply counted.update running updated started
  intro backend
  rw [active, executesOn, executesOn, Option.any_some, Option.any_some, executing, same]

/-- An execution returns and drops its guard. -/
theorem Counted.settle (counted : Counted state) {report : Backend → Backend}
    {after : Option Phase} (running : state.requests request = some before)
    (executing : before.executing = true)
    (keeps : ∀ backend, kept (report backend) = kept backend)
    (returned : ∀ backend, executesOn backend after = false) :
    Counted (state.settle request before.backend report after) := by
  refine counted.update running rfl rfl ?_
  intro backend
  have reported := congrArg Prod.snd (keeps (state.heap before.backend))
  have held := counted.activeRequests_pos running executing
  rw [returned, executesOn, Option.any_some, executing]
  rcases Decidable.eq_or_ne backend before.backend with rfl | different
  · rw [beq_self_eq_true, PipelineState.activeRequests, PipelineState.settle_heap, Heap.modify,
      Function.update_self]
    change (report (state.heap before.backend)).ewma.activeRequests - 1 + 1 =
      state.activeRequests before.backend
    change (report (state.heap before.backend)).ewma.activeRequests =
      state.activeRequests before.backend at reported
    omega
  · rw [beq_false_of_ne different.symm, PipelineState.activeRequests, PipelineState.settle_heap,
      Heap.modify, Function.update_of_ne different]
    rfl

/-- A new execution takes its guard. -/
theorem Counted.start (counted : Counted state) (selected : SharedBackend) :
    Counted (state.start selected) := by
  constructor
  · refine forall_running_update rfl ?_ ?_
    · exact fun _ _ => Nat.lt_succ_self _
    · intro other phase running
      exact (counted.numbered other phase running).trans (Nat.lt_succ_self _)
  · intro backend
    have current := counted.counted backend
    have change : (state.start selected).executions backend =
        state.executions backend + (executesOn backend (some (.selected selected))).toNat :=
      countBelow_succ _ _ _
    rw [change, ← current, PipelineState.activeRequests, PipelineState.start_heap, executesOn,
      Option.any_some]
    rcases Decidable.eq_or_ne backend selected with rfl | different
    · rw [Heap.modify, Function.update_self]
      change state.activeRequests backend + 1 = _
      simp [Phase.executing, Phase.backend]
    · rw [Heap.modify, Function.update_of_ne different]
      simp [Phase.executing, Phase.backend, different.symm, PipelineState.activeRequests]

theorem Counted.step (counted : Counted state) {step : PipelineStep}
    (stepped : pipelineStep state step = some next) : Counted next := by
  cases pipelineStep_effect stepped with
  | ambient clock table keeps =>
      refine ⟨counted.numbered, ?_⟩
      intro backend
      exact (congrArg Prod.snd (keeps backend)).trans (counted.counted backend)
  | closed known => exact ⟨counted.numbered, counted.counted⟩
  | started backend => exact counted.start backend
  | moved running move keeps =>
      refine counted.of_executing running rfl rfl ?_ ?_ ?_
      · rw [move.executing_eq.1, move.executing_eq.2]
      · exact move.backend_eq
      · exact fun backend => congrArg Prod.snd (keeps backend)
  | took running queued => exact counted.of_executing running rfl rfl rfl rfl fun _ => rfl
  | opened running fresh => exact counted.of_executing running rfl rfl rfl rfl fun _ => rfl
  | offered running isOpen => exact counted.of_executing running rfl rfl rfl rfl fun _ => rfl
  | pushed running => exact counted.of_executing running rfl rfl rfl rfl fun _ => rfl
  | left running executing keeps => exact counted.settle running executing keeps fun _ => rfl
  | returned rttMs running => exact counted.settle running rfl (fun _ => rfl) fun _ => rfl
  | relayed running => exact counted.update running rfl rfl fun _ => rfl

theorem Counted.of_runs {clock : ℕ} {heap : Heap} {table : List SharedBackend}
    (unused : ∀ backend, (heap backend).ewma.activeRequests = 0)
    {guard : PipelineState → PipelineStep → Prop} {steps : List PipelineStep}
    (runs : pipelineSystem.Runs guard (.initial clock heap table) steps state) :
    Counted state := by
  apply runs.invariant _ (Counted.initial clock table unused)
  intro state next step counted _ stepped
  exact counted.step stepped

end Counted

/-- In every reachable state `active_requests` of a backend is the number of its
executions that have not returned. -/
theorem activeRequests_eq_executions {clock : ℕ} {heap : Heap} {table : List SharedBackend}
    (unused : ∀ backend, (heap backend).ewma.activeRequests = 0)
    {steps : List PipelineStep} {state : PipelineState}
    (executed : pipelineSystem.run (.initial clock heap table) steps = some state)
    (backend : SharedBackend) : state.activeRequests backend = state.executions backend :=
  (Counted.of_runs unused (.of_run executed)).counted backend

/-! ## The requests in flight -/

/-- The response that `forward_request` returns has no body. -/
def ReturnsBodiless (state : PipelineState) : PipelineStep → Prop
  | .finish request _ =>
      ∀ backend conn, state.requests request ≠ some (.returning backend conn true)
  | _ => True

/-- No response is being relayed. -/
def AllExecuting (state : PipelineState) : Prop :=
  ∀ request phase, state.requests request = some phase → phase.executing = true

section AllExecuting

variable {state next : PipelineState}

theorem AllExecuting.initial (clock : ℕ) (heap : Heap) (table : List SharedBackend) :
    AllExecuting (.initial clock heap table) := by
  rintro _ _ ⟨⟩

theorem AllExecuting.step (all : AllExecuting state) {step : PipelineStep}
    (bodiless : ReturnsBodiless state step) (stepped : pipelineStep state step = some next) :
    AllExecuting next := by
  cases pipelineStep_effect stepped with
  | ambient clock table keeps => exact all
  | closed known => exact all
  | moved running move keeps =>
      refine forall_running_update rfl ?_ all
      rintro _ ⟨⟩
      exact move.executing_eq.2
  | returned rttMs running => exact absurd running (bodiless _ _)
  | _ =>
      refine forall_running_update rfl ?_ all
      rintro _ ⟨⟩ <;> rfl

theorem AllExecuting.inFlight_eq (all : AllExecuting state) (backend : SharedBackend) :
    state.inFlight backend = state.executions backend := by
  have same : ∀ request, isOn backend (state.requests request) =
      executesOn backend (state.requests request) := by
    intro request
    cases running : state.requests request with
    | none => rfl
    | some phase => rw [isOn, executesOn, Option.any_some, Option.any_some, all _ _ running,
        Bool.true_and]
  simp only [PipelineState.inFlight, PipelineState.executions, countBelow, same]

end AllExecuting

/-- In every run in which no response with a body is returned, `active_requests` of
a backend is the number of its requests that have neither failed, nor been
cancelled, nor had their response relayed. -/
theorem activeRequests_eq_inFlight {clock : ℕ} {heap : Heap} {table : List SharedBackend}
    (unused : ∀ backend, (heap backend).ewma.activeRequests = 0)
    {steps : List PipelineStep} {state : PipelineState}
    (runs : pipelineSystem.Runs ReturnsBodiless (.initial clock heap table) steps state)
    (backend : SharedBackend) : state.activeRequests backend = state.inFlight backend := by
  have all : AllExecuting state := by
    refine runs.invariant ?_ (AllExecuting.initial clock heap table)
    intro state next step all bodiless stepped
    exact all.step bodiless stepped
  rw [all.inFlight_eq, (Counted.of_runs unused runs).counted]

/-- A first request is over when its response without a body has been returned;
the second is counted. -/
theorem activeRequests_eq_inFlight_bodiless :
    ∃ state, pipelineSystem.Runs ReturnsBodiless singleBackend
        (firstExchange false ++ [.finish 0 20, .select]) state ∧
      state.inFlight 0 = 1 ∧ state.activeRequests 0 = 1 := by
  obtain ⟨state, runs, one⟩ : ∃ state,
      pipelineSystem.Runs ReturnsBodiless singleBackend
          (firstExchange false ++ [.finish 0 20, .select]) state ∧
        state.inFlight 0 = 1 := by
    refine ⟨_, .cons trivial rfl (.cons trivial rfl (.cons trivial rfl (.cons trivial rfl
      (.cons trivial rfl (.cons trivial rfl (.cons trivial rfl (.cons trivial rfl
      (.cons ?_ rfl (.cons trivial rfl (.nil _)))))))))), ?_⟩
    · rintro _ _ ⟨⟩
    · decide
  exact ⟨state, runs, one, (activeRequests_eq_inFlight (fun _ => rfl) runs 0).trans one⟩

/-- A response with a body is returned, and its request is no longer counted while
the body is still being relayed. -/
theorem activeRequests_lt_inFlight :
    ∃ state, pipelineSystem.run singleBackend (firstExchange true ++ [.finish 0 20]) = some state ∧
      state.outstanding 0 = some 7 ∧ state.activeRequests 0 = 0 ∧ state.inFlight 0 = 1 :=
  ⟨_, rfl, rfl, rfl, by decide⟩

end Vortex.Proxy
