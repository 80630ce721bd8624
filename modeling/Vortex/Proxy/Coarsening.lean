import Vortex.Lib.Trace
import Vortex.Proxy.ActiveRequests

/-!
# The pipeline in coarse actions

The results on half-open breakers and on the watcher take `forward_request` in few actions:
select, dispatch, report.  Seen without its connections, the pipeline runs as they say, under
two conditions.  From the arrival of a response to the return of the function nothing happens
in between, since there the success and the latency are reported in one action.  And no
execution is dropped while it awaits its response, since there is no way out of a dispatch
without an outcome.
-/

namespace Vortex.Proxy

open Vortex.Core Lib

/-- Actions of the pipeline, with all from the arrival of a response to the return of the
function as one. -/
inductive CoarseStep where
  | single (step : PipelineStep)
  /-- `isOpen` says whether `push` finds the sender open. -/
  | complete (request : ℕ) (hasBody isOpen : Bool) (rttMs : ℚ)
  deriving DecidableEq, Repr

/-- The actions in their order. -/
def CoarseStep.steps : CoarseStep → List PipelineStep
  | .single step => [step]
  | .complete request hasBody isOpen rttMs =>
      .respond request (some hasBody) :: .offer request ::
        ((if isOpen then [.push request] else []) ++ [.finish request rttMs])

/-- A response is not taken apart, and an execution is not dropped while it awaits one. -/
def coarseAllows (state : PipelineState) : CoarseStep → Bool
  | .single (.respond _ (some _)) | .single (.offer _) | .single (.push _) => false
  | .single (.finish _ _) => false
  | .single (.cancel request) =>
      match state.requests request with
      | some (.sent _ _) => false
      | _ => true
  | _ => true

/-- The pipeline in coarse actions. -/
def coarseSystem : System PipelineState CoarseStep where
  step state step := if coarseAllows state step then pipelineSystem.run state step.steps else none

/-- The request without its connection; a response that is being relayed is over. -/
def Phase.forward : Phase → Option Forward
  | .selected backend | .connecting backend | .handshaking backend => some (.selected backend)
  | .popped backend _ | .trying backend _ | .holding backend _ => some (.selected backend)
  | .sent backend _ => some (.dispatched backend)
  | .answered backend _ _ | .offering backend _ _ => some (.dispatched backend)
  | .returning backend _ _ => some (.dispatched backend)
  | .relaying _ _ => none

namespace PipelineState

/-- The state without connections. -/
def toForward (state : PipelineState) : ForwardState where
  clock := state.clock
  heap := state.heap
  table := state.table
  requests := (Option.bind · Phase.forward) ∘ state.requests

/-- The action that a coarse action is without connections. -/
def forwardAction (state : PipelineState) : CoarseStep → Option ForwardStep
  | .single (.advance elapsed) => some (.advance elapsed)
  | .single (.setHealthy backend healthy) => some (.setHealthy backend healthy)
  | .single (.updateBackends table) => some (.updateBackends table)
  | .single .select => some (.select state.started)
  | .single (.connect request false) => onRequest request (.fail request)
  | .single (.handshake request none) => onRequest request (.fail request)
  | .single (.secondReady request true) => onRequest request (.dispatch request)
  | .single (.secondReady request false) => onRequest request (.abandon request)
  | .single (.respond request none) => onRequest request (.fail request)
  | .single (.cancel request) => onRequest request (.abandon request)
  | .complete request _ _ rttMs => onRequest request (.succeed request · rttMs)
  | _ => none
where
  /-- An action on the backend that a request has selected. -/
  onRequest (request : ℕ) (action : SharedBackend → ForwardStep) : Option ForwardStep :=
    (state.requests request).map fun phase => action phase.backend

end PipelineState

section Matching

variable {state next : PipelineState} {request : ℕ} {phase : Phase}

theorem toForward_requests (running : state.requests request = some phase) :
    state.toForward.requests request = phase.forward := by
  simp only [PipelineState.toForward, Function.comp_apply, running, Option.bind_some]

/-- A request that moves on and looks the same leaves the view as it is. -/
theorem run_forwardAction_unseen {step : CoarseStep} {after : Option Phase}
    (unseen : state.forwardAction step = none) (running : state.requests request = some phase)
    (same : after.bind Phase.forward = phase.forward)
    (updated : next.requests = Function.update state.requests request after)
    (clock : next.clock = state.clock) (heap : next.heap = state.heap)
    (table : next.table = state.table) :
    forwardSystem.run state.toForward (state.forwardAction step).toList = some next.toForward := by
  have requests : (Option.bind · Phase.forward) ∘ next.requests =
      (Option.bind · Phase.forward) ∘ state.requests := by
    rw [updated, Function.comp_update, same, ← toForward_requests running]
    exact Function.update_eq_self request _
  rw [unseen]
  simp only [PipelineState.toForward, clock, heap, table, requests]
  rfl

theorem toForward_settle (backend : SharedBackend) (report : Backend → Backend)
    {after : Option Phase} (ended : after.bind Phase.forward = none) :
    (state.settle request backend report after).toForward =
      state.toForward.finish request backend report := by
  simp only [PipelineState.toForward, PipelineState.settle, ForwardState.finish,
    Function.comp_update, ended]

theorem toForward_start (state : PipelineState) (backend : SharedBackend) :
    (state.start backend).toForward = state.toForward.select state.started backend := by
  simp only [PipelineState.toForward, PipelineState.start, ForwardState.select,
    Function.comp_update]
  rfl

theorem toForward_sent (state : PipelineState) (request : ℕ) (backend : SharedBackend)
    (conn : ConnId) :
    (state.move request (.sent backend conn)).toForward =
      state.toForward.dispatch request backend := by
  simp only [PipelineState.toForward, PipelineState.move, ForwardState.dispatch,
    Function.comp_update]
  rfl

/-- An execution that fails. -/
theorem forwardStep_fail (running : state.requests request = some phase)
    (executing : phase.executing = true) :
    forwardStep state.toForward (.fail request phase.backend) =
      some (state.settle request phase.backend (reportFailure state.clock) none).toForward := by
  have holding : state.toForward.requests request = some (.selected phase.backend) ∨
      state.toForward.requests request = some (.dispatched phase.backend) := by
    rw [toForward_requests running]
    cases phase with
    | relaying backend conn => cases executing
    | sent | answered | offering | returning => exact .inr rfl
    | _ => exact .inl rfl
  rw [forwardStep, if_pos holding, toForward_settle _ _ rfl]
  rfl

/-- An execution that returns without having dispatched. -/
theorem forwardStep_abandon (running : state.requests request = some phase)
    (early : phase.forward = some (.selected phase.backend)) :
    forwardStep state.toForward (.abandon request phase.backend) =
      some (state.settle request phase.backend id none).toForward := by
  rw [forwardStep, if_pos ((toForward_requests running).trans early), toForward_settle _ _ rfl]

/-- An action of a request that is seen. -/
theorem run_forwardAction_seen {step : CoarseStep} {action : SharedBackend → ForwardStep}
    (noted : state.forwardAction step = PipelineState.forwardAction.onRequest state request action)
    (running : state.requests request = some phase)
    (stepped : forwardStep state.toForward (action phase.backend) = some next.toForward) :
    forwardSystem.run state.toForward (state.forwardAction step).toList = some next.toForward := by
  rw [noted, PipelineState.forwardAction.onRequest, running]
  exact System.run_cons stepped []

theorem forwardStep_of_select (counted : Counted state)
    (stepped : pipelineStep state .select = some next) :
    forwardStep state.toForward (.select state.started) = some next.toForward := by
  have free : state.toForward.requests state.started = none := by
    cases running : state.requests state.started with
    | none => simp only [PipelineState.toForward, Function.comp_apply, running, Option.bind_none]
    | some phase => exact absurd (counted.numbered _ phase running) (Nat.lt_irrefl _)
  have same : selectBestBackend state.toForward.heap state.toForward.clock
      state.toForward.table = selectBestBackend state.heap state.clock state.table := rfl
  simp only [pipelineStep] at stepped
  split at stepped
  · next backend chosen =>
      cases stepped
      simp only [forwardStep, free, same, chosen, toForward_start]
  · next chosen =>
      cases stepped
      simp only [forwardStep, free, same, chosen]

theorem run_forwardAction_single (counted : Counted state) {step : PipelineStep}
    (allowed : coarseAllows state (.single step) = true)
    (stepped : pipelineStep state step = some next) :
    forwardSystem.run state.toForward (state.forwardAction (.single step)).toList =
      some next.toForward := by
  cases step with
  | advance elapsed | setHealthy backend healthy | updateBackends table =>
      cases stepped
      rfl
  | close conn =>
      rcases Option.map_eq_some_iff.mp stepped with ⟨connection, known, rfl⟩
      rfl
  | select => exact System.run_cons (forwardStep_of_select counted stepped) []
  | pop request | checkPopped request =>
      simp only [pipelineStep] at stepped
      split at stepped
      · next running =>
          split at stepped
          · cases stepped
            exact run_forwardAction_unseen rfl running rfl rfl rfl rfl rfl
          · cases stepped
            exact run_forwardAction_unseen rfl running rfl rfl rfl rfl rfl
      · cases stepped
  | firstReady request ok =>
      simp only [pipelineStep] at stepped
      split at stepped
      · next backend conn running =>
          cases ok with
          | true =>
              cases stepped
              exact run_forwardAction_unseen rfl running rfl rfl rfl rfl rfl
          | false =>
              cases stepped
              exact run_forwardAction_unseen rfl running rfl rfl rfl rfl rfl
      · cases stepped
  | connect request ok =>
      simp only [pipelineStep] at stepped
      split at stepped
      · next backend running =>
          cases ok with
          | true =>
              cases stepped
              exact run_forwardAction_unseen rfl running rfl rfl rfl rfl rfl
          | false =>
              cases stepped
              exact run_forwardAction_seen rfl running (forwardStep_fail running rfl)
      · cases stepped
  | handshake request conn =>
      simp only [pipelineStep] at stepped
      split at stepped
      · next backend conn running =>
          rcases Option.ite_none_right_eq_some.mp stepped with ⟨_, ⟨⟩⟩
          exact run_forwardAction_unseen rfl running rfl rfl rfl rfl rfl
      · next backend running =>
          cases stepped
          exact run_forwardAction_seen rfl running (forwardStep_fail running rfl)
      · cases stepped
  | secondReady request ok =>
      simp only [pipelineStep] at stepped
      split at stepped
      · next backend conn running =>
          cases ok with
          | true =>
              cases stepped
              refine run_forwardAction_seen rfl running ?_
              rw [toForward_sent]
              exact if_pos (toForward_requests running)
          | false =>
              cases stepped
              exact run_forwardAction_seen rfl running (forwardStep_abandon running rfl)
      · cases stepped
  | respond request hasBody =>
      simp only [pipelineStep] at stepped
      split at stepped
      · cases allowed
      · next backend conn running =>
          cases stepped
          exact run_forwardAction_seen rfl running (forwardStep_fail running rfl)
      · cases stepped
  | relayed request =>
      simp only [pipelineStep] at stepped
      split at stepped
      · next backend conn running =>
          cases stepped
          exact run_forwardAction_unseen rfl running rfl rfl rfl rfl rfl
      · cases stepped
  | cancel request =>
      simp only [pipelineStep] at stepped
      split at stepped
      · next phase running =>
          rcases Option.ite_none_right_eq_some.mp stepped with ⟨waits, ⟨⟩⟩
          refine run_forwardAction_seen rfl running (forwardStep_abandon running ?_)
          rw [coarseAllows, running] at allowed
          cases phase with
          | sent backend conn => cases allowed
          | trying | connecting | handshaking | holding => rfl
          | _ => cases waits
      · cases stepped
  | offer request | push request | finish request rttMs => cases allowed

theorem pipelineStep_respond {hasBody : Bool}
    (stepped : pipelineStep state (.respond request (some hasBody)) = some next) :
    ∃ backend conn, state.requests request = some (.sent backend conn) ∧
      next = { state with heap := state.heap.modify backend recordSuccess }.move request
        (.answered backend conn hasBody) := by
  simp only [pipelineStep] at stepped
  split at stepped
  · next backend conn _ running same =>
      cases same
      cases stepped
      exact ⟨backend, conn, running, rfl⟩
  · next impossible => cases impossible
  · cases stepped

theorem pipelineStep_finish {backend : SharedBackend} {conn : ConnId} {hasBody : Bool}
    (running : state.requests request = some (.returning backend conn hasBody)) (rttMs : ℚ) :
    pipelineStep state (.finish request rttMs) =
      some (state.settle request backend (observeLatency rttMs)
        (if hasBody then some (.relaying backend conn) else none)) := by
  simp only [pipelineStep, running]

/-- The function returns, from a state that differs only in its pool and in the request. -/
theorem toForward_of_finish {backend : SharedBackend} {conn : ConnId} {hasBody : Bool} {rttMs : ℚ}
    {pool : SocketAddr → List ConnId}
    (finished : pipelineStep
      { state with
        pool
        requests := Function.update state.requests request
          (some (.returning backend conn hasBody)) } (.finish request rttMs) = some next) :
    next.toForward = state.toForward.finish request backend (observeLatency rttMs) := by
  rw [pipelineStep_finish (Function.update_self request _ _)] at finished
  cases finished
  have ended : (if hasBody then some (.relaying backend conn) else none : Option Phase).bind
      Phase.forward = none := by
    cases hasBody <;> rfl
  rw [toForward_settle _ _ ended]
  simp only [ForwardState.finish, PipelineState.toForward, Function.comp_update,
    Function.update_idem]

/-- The sender goes back to the pool or is dropped, and the function returns. -/
theorem run_return {backend : SharedBackend} {conn : ConnId} {hasBody isOpen : Bool} {rttMs : ℚ}
    (running : state.requests request = some (.answered backend conn hasBody))
    (executed : pipelineSystem.run state
      (.offer request :: ((if isOpen then [.push request] else []) ++ [.finish request rttMs])) =
      some next) :
    next.toForward = state.toForward.finish request backend (observeLatency rttMs) := by
  rcases Option.bind_eq_some_iff.mp executed with ⟨offered, stepped, rest⟩
  simp only [pipelineSystem, pipelineStep, running] at stepped
  cases isOpen with
  | true =>
      rcases Option.bind_eq_some_iff.mp rest with ⟨pushed, queued, last⟩
      rcases Option.bind_eq_some_iff.mp last with ⟨final, finished, ⟨⟩⟩
      split at stepped
      · cases stepped
        simp only [pipelineSystem, pipelineStep, PipelineState.move, Function.update_self] at queued
        cases queued
      · cases stepped
        simp only [pipelineSystem, pipelineStep, PipelineState.move, Function.update_self] at queued
        cases queued
        simp only [PipelineState.put, Function.update_idem] at finished
        exact toForward_of_finish finished
  | false =>
      rcases Option.bind_eq_some_iff.mp rest with ⟨final, finished, ⟨⟩⟩
      split at stepped
      · cases stepped
        exact toForward_of_finish finished
      · cases stepped
        simp only [pipelineSystem, pipelineStep, PipelineState.move, Function.update_self]
          at finished
        cases finished

/-- What a response does from its arrival to the return of the function. -/
theorem run_complete {hasBody isOpen : Bool} {rttMs : ℚ}
    (executed : pipelineSystem.run state (CoarseStep.complete request hasBody isOpen rttMs).steps =
      some next) :
    ∃ backend conn, state.requests request = some (.sent backend conn) ∧
      next.toForward = state.toForward.finish request backend (reportSuccess rttMs) := by
  rcases Option.bind_eq_some_iff.mp executed with ⟨answered, responded, rest⟩
  rcases pipelineStep_respond responded with ⟨backend, conn, running, rfl⟩
  refine ⟨backend, conn, running, ?_⟩
  have returned := run_return (Function.update_self request _ _) rest
  rw [returned]
  simp only [ForwardState.finish, PipelineState.toForward, PipelineState.move, Heap.modify_modify,
    Function.comp_update, Function.update_idem]
  rfl

theorem run_forwardAction (counted : Counted state) {step : CoarseStep}
    (stepped : coarseSystem.step state step = some next) :
    forwardSystem.run state.toForward (state.forwardAction step).toList = some next.toForward := by
  rcases Option.ite_none_right_eq_some.mp stepped with ⟨allowed, executed⟩
  cases step with
  | single step =>
      rcases Option.bind_eq_some_iff.mp executed with ⟨_, performed, ⟨⟩⟩
      exact run_forwardAction_single counted allowed performed
  | complete request hasBody isOpen rttMs =>
      rcases run_complete executed with ⟨backend, conn, running, returned⟩
      refine @run_forwardAction_seen _ _ _ _ _ (.succeed request · rttMs) rfl running ?_
      rw [returned]
      exact if_pos (toForward_requests running)

end Matching

/-- The actions of a coarse run, one after the other. -/
theorem run_coarse_steps {state final : PipelineState} {steps : List CoarseStep}
    (executed : coarseSystem.run state steps = some final) :
    pipelineSystem.run state (steps.flatMap CoarseStep.steps) = some final := by
  induction steps generalizing state with
  | nil => exact executed
  | cons step steps ih =>
      rcases Option.bind_eq_some_iff.mp executed with ⟨next, stepped, rest⟩
      rcases Option.ite_none_right_eq_some.mp stepped with ⟨_, performed⟩
      rw [List.flatMap_cons, System.run_append, performed]
      exact ih rest

/-- **Without its connections the pipeline is request forwarding.** Every run of the pipeline
in coarse actions is one of its actions in a row, and what it does to the clock, the backends,
the table and the requests is a run of `forward_request` in its three steps. -/
theorem coarse_run_is_forward_run {clock : ℕ} {heap : Heap} {table : List SharedBackend}
    (unused : ∀ backend, (heap backend).ewma.activeRequests = 0) {steps : List CoarseStep}
    {final : PipelineState}
    (executed : coarseSystem.run (.initial clock heap table) steps = some final) :
    pipelineSystem.run (.initial clock heap table) (steps.flatMap CoarseStep.steps) = some final ∧
      forwardSystem.run (.initial clock heap table)
          (coarseSystem.observed PipelineState.forwardAction (.initial clock heap table) steps) =
        some final.toForward := by
  refine ⟨run_coarse_steps executed, ?_⟩
  refine @System.run_observed_of_invariant _ _ _ coarseSystem PipelineState.forwardAction _
    forwardSystem PipelineState.toForward Counted ?_ ?_ _ _ _
    (Counted.initial clock table unused) executed
  · intro state next step counted stepped
    rcases Option.ite_none_right_eq_some.mp stepped with ⟨_, performed⟩
    apply (System.Runs.of_run performed).invariant _ counted
    intro state next step counted _ moved
    exact counted.step moved
  · intro state next step counted stepped
    exact run_forwardAction counted stepped

/-- A request is answered over a new connection, and its response has a body. -/
def answeredOnce : List CoarseStep :=
  [.single .select, .single (.pop 0), .single (.connect 0 true), .single (.handshake 0 (some 7)),
    .single (.secondReady 0 true), .complete 0 true true 20]

theorem coarse_run_is_forward_run_answered :
    ∃ final, coarseSystem.run singleBackend answeredOnce = some final ∧
      forwardSystem.run singleBackend.toForward [.select 0, .dispatch 0 0, .succeed 0 0 20] =
        some final.toForward := by
  have performed : (coarseSystem.run singleBackend answeredOnce).isSome = true := by
    decide +kernel
  have seen : coarseSystem.observed PipelineState.forwardAction singleBackend answeredOnce =
      [.select 0, .dispatch 0 0, .succeed 0 0 20] := by
    decide +kernel
  rcases Option.isSome_iff_exists.mp performed with ⟨final, executed⟩
  have forwarded := (coarse_run_is_forward_run (fun _ => rfl) executed).2
  exact ⟨final, executed, seen ▸ forwarded⟩

end Vortex.Proxy
