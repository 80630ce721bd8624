import Vortex.Core.PeakEwma
import Vortex.Proxy.Undisturbed

/-!
# What a backend knows of its requests, access by access

Each atomic of a backend is determined by the writes to it: the average by the latencies in
the order of their exchanges, the flag by the latest probe, the count of failures by the
additions since it was last cleared, the time by the latest store.  The choice of an
undisturbed `select_best_backend` can therefore be stated in terms of what has happened so far.

A call on the breaker makes its writes one after the other.  Where the calls on a breaker do
not overlap, it is that of the outcomes reported, in order.
-/

namespace Vortex.Proxy

open Vortex.Core Lib

/-! ## Writes to one backend -/

namespace BackendWrite

/-- The latency that the write adds to the average. -/
def sample : BackendWrite → Option ℚ
  | .exchanged rttMs => some rttMs
  | _ => none

/-- The result of a probe. -/
def probe : BackendWrite → Option Bool
  | .probed healthy => some healthy
  | _ => none

/-- The time stored. -/
def time : BackendWrite → Option ℕ
  | .timed now => some now
  | _ => none

end BackendWrite

/-- The failures added since they were last cleared. -/
def additionsSince (writes : List BackendWrite) : ℕ :=
  (writes.rtakeWhile fun write => write != .cleared).count .added

theorem additionsSince_concat (writes : List BackendWrite) (write : BackendWrite) :
    additionsSince (writes ++ [write]) =
      if write = .cleared then 0 else additionsSince writes + [write].count .added := by
  rw [additionsSince, List.rtakeWhile_concat]
  by_cases cleared : write = .cleared
  · rw [if_pos cleared, cleared]
    rfl
  · rw [if_neg cleared, if_pos (bne_iff_ne.mpr cleared), List.count_append]
    rfl

theorem additionsSince_le (writes : List BackendWrite) :
    additionsSince writes ≤ writes.length :=
  List.count_le_length.trans (List.rtakeWhile_suffix _ _).length_le

/-- The latest time stored. -/
def latestTime (writes : List BackendWrite) : ℕ :=
  (writes.filterMap BackendWrite.time).getLast?.getD 0

section Fields

variable (writes : List BackendWrite) (backend : Backend)

theorem ewma_foldl_apply :
    (writes.foldl BackendWrite.apply backend).ewma.ewma =
      (writes.filterMap BackendWrite.sample).foldl (nextEwma backend.ewma.decayAlpha)
        backend.ewma.ewma := by
  -- The guards are left out of account, so that only samples change the tracker.
  have tracked := @foldl_filterMap_of_changes _ _ _ _
    (fun backend : Backend => { backend.ewma with activeRequests := 0 }) BackendWrite.apply
    BackendWrite.sample PeakEwma.observeLatency
    (by intro backend write; cases write <;> rfl) writes backend
  exact (congrArg PeakEwma.getEwma tracked).trans (getEwma_observeAll _ _)

theorem healthy_foldl_apply :
    (writes.foldl BackendWrite.apply backend).healthy =
      (writes.filterMap BackendWrite.probe).getLast?.getD backend.healthy := by
  rw [← foldl_replace]
  apply foldl_filterMap_of_changes
  intro backend write
  cases write <;> rfl

theorem lastFailureTime_foldl_apply :
    (writes.foldl BackendWrite.apply backend).circuitBreaker.lastFailureTime =
      (writes.filterMap BackendWrite.time).getLast?.getD
        backend.circuitBreaker.lastFailureTime := by
  rw [← foldl_replace]
  apply @foldl_filterMap_of_changes _ _ _ _ fun backend : Backend =>
    backend.circuitBreaker.lastFailureTime
  intro backend write
  cases write <;> rfl

variable {backend}

theorem failures_foldl_apply (zero : backend.circuitBreaker.failures = 0) :
    (writes.foldl BackendWrite.apply backend).circuitBreaker.failures =
      .ofNat (additionsSince writes) := by
  induction writes using List.reverseRecOn with
  | nil => exact zero
  | append_singleton writes write ih =>
      rw [List.foldl_append, additionsSince_concat, List.foldl_cons, List.foldl_nil]
      cases write with
      | cleared => rfl
      | added =>
          rw [if_neg nofun]
          change (writes.foldl BackendWrite.apply backend).circuitBreaker.failures + 1 = _
          rw [ih, List.count_singleton_self, UInt64.ofNat_add]
          rfl
      | _ => exact ih

end Fields

/-- The writes to a backend along a run. -/
def writesOf (start : AccessState) (steps : List AccessStep) (backend : SharedBackend) :
    List BackendWrite :=
  eventsOf backend (accessSystem.observed AccessState.write start steps)

/-- The latencies observed on a backend along a run, in the order of their exchanges. -/
def samplesOf (start : AccessState) (steps : List AccessStep) (backend : SharedBackend) : List ℚ :=
  (writesOf start steps backend).filterMap BackendWrite.sample

/-- The results of the probes of a backend along a run. -/
def probesOf (start : AccessState) (steps : List AccessStep) (backend : SharedBackend) :
    List Bool :=
  (writesOf start steps backend).filterMap BackendWrite.probe

/-- A backend after a run is what the writes to it made of it. -/
theorem heap_of_accesses {start final : AccessState} {steps : List AccessStep}
    (executed : accessSystem.run start steps = some final) (backend : SharedBackend) :
    final.pipeline.heap backend =
      (writesOf start steps backend).foldl BackendWrite.apply (start.pipeline.heap backend) := by
  have whole := @System.foldl_observed _ _ _ accessSystem AccessState.write _
    (fun state => state.pipeline.heap) applyWrite (fun stepped => heap_accessStep stepped) _ _ _
    executed
  rw [whole]
  exact foldl_modify BackendWrite.apply _ _ _

/-- An access does not write to the backend, or makes the first of its writes. -/
theorem writesOf_cons {start next : AccessState} {step : AccessStep}
    (stepped : accessStep start step = some next) (steps : List AccessStep)
    (backend : SharedBackend) :
    (writesOf start (step :: steps) backend = writesOf next steps backend ∧
        next.pipeline.heap backend = start.pipeline.heap backend) ∨
      ∃ write, start.write step = some (backend, write) ∧
        writesOf start (step :: steps) backend = write :: writesOf next steps backend ∧
        next.pipeline.heap backend = write.apply (start.pipeline.heap backend) := by
  have writes : writesOf start (step :: steps) backend =
      eventsOf backend (start.write step).toList ++ writesOf next steps backend := by
    rw [writesOf, System.observed_cons stepped, eventsOf, List.filterMap_append]
    rfl
  have heap : next.pipeline.heap backend =
      (eventsOf backend (start.write step).toList).foldl BackendWrite.apply
        (start.pipeline.heap backend) := by
    rw [heap_accessStep stepped]
    exact foldl_modify BackendWrite.apply _ _ _
  rcases eventsOf_toList (start.write step) backend with none | ⟨write, noted, own⟩
  · rw [none] at writes heap
    exact .inl ⟨writes, heap⟩
  · rw [own] at writes heap
    exact .inr ⟨write, noted, writes, heap⟩

/-- There are no more writes than accesses. -/
theorem length_writesOf_le (start : AccessState) (steps : List AccessStep)
    (backend : SharedBackend) : (writesOf start steps backend).length ≤ steps.length :=
  calc (writesOf start steps backend).length
      ≤ (accessSystem.observed AccessState.write start steps).length :=
      List.length_filterMap_le _ _
    _ ≤ steps.length := System.length_observed_le start steps

/-! ## Calls on one breaker -/

/-- The call on the breaker, if it is one. -/
def BackendCall.onBreaker : BackendCall → Option BreakerCall
  | .breaker call => some call
  | _ => none

/-- The outcome of a call on the breaker, when the access is its last. -/
def CallAccess.report (clock : ℕ) (breaker : CircuitBreaker) :
    Option BackendCall → CallAccess → Option BreakerReport
  | none, .fail =>
      if breaker.failures + 1 ≥ failureThreshold then none else some (.failure clock)
  | some (.breaker (.read now)), .storeTime => some (.failure now)
  | some (.breaker .cleared), .clearTime => some .success
  | _, _ => none

/-- The access is the first of a call on the breaker. -/
def CallAccess.begins : CallAccess → Bool
  | .fail | .respond _ => true
  | _ => false

namespace AccessState

/-- The call of a request on the breaker of a backend. -/
def callOn (state : AccessState) (backend : SharedBackend) (request : ℕ) : Option BreakerCall :=
  (state.locals.calls request).bind fun call =>
    if isOn backend (state.pipeline.requests request) then call.onBreaker else none

/-- No call on the breaker of the backend is in progress. -/
def Quiet (backend : SharedBackend) (state : AccessState) : Prop :=
  ∀ request < state.pipeline.started, state.callOn backend request = none

instance (backend : SharedBackend) (state : AccessState) : Decidable (state.Quiet backend) :=
  inferInstanceAs (Decidable (∀ request < state.pipeline.started,
    state.callOn backend request = none))

/-- The outcome of a call on the breaker of the backend, when the access is its last. -/
def report (backend : SharedBackend) (state : AccessState) : AccessStep → Option BreakerReport
  | .call request access =>
      if isOn backend (state.pipeline.requests request) then
        access.report state.pipeline.clock (state.pipeline.heap backend).circuitBreaker
          (state.locals.calls request)
      else none
  | _ => none

/-- The access begins a call on the breaker of the backend. -/
def begins (backend : SharedBackend) (state : AccessState) : AccessStep → Bool
  | .call request access => access.begins && isOn backend (state.pipeline.requests request)
  | _ => false

end AccessState

/-- The access begins no call on the breaker of the backend while another is in progress. -/
def Apart (backend : SharedBackend) (state : AccessState) (step : AccessStep) : Prop :=
  state.begins backend step = true → state.Quiet backend

instance (backend : SharedBackend) (state : AccessState) (step : AccessStep) :
    Decidable (Apart backend state step) :=
  inferInstanceAs (Decidable (state.begins backend step = true → state.Quiet backend))

/-- The outcomes reported to the breaker of a backend along a run, in the order in which the
calls returned. -/
def reportsOf (start : AccessState) (steps : List AccessStep) (backend : SharedBackend) :
    List BreakerReport :=
  accessSystem.observed (AccessState.report backend) start steps

/-- What a call in progress has done to the breaker. -/
inductive Halfway (base breaker : CircuitBreaker) : BreakerCall → Prop where
  | counted (added : breaker.failures = base.failures + 1)
      (reached : base.failures + 1 ≥ failureThreshold) : Halfway base breaker .counted
  | read (now : ℕ) (added : breaker.failures = base.failures + 1)
      (reached : base.failures + 1 ≥ failureThreshold) : Halfway base breaker (.read now)
  | cleared (zero : breaker.failures = 0) : Halfway base breaker .cleared

/-- The breaker is at `base`, or one call has set out from there. -/
inductive Follows (base breaker : CircuitBreaker) (calls : ℕ → Option BreakerCall) : Prop where
  | quiet (none : ∀ request, calls request = none) (same : breaker = base)
  | calling (request : ℕ) (call : BreakerCall)
      (alone : calls = Function.update (fun _ => none) request (some call))
      (halfway : Halfway base breaker call)

section Follows

variable {base breaker after : CircuitBreaker} {calls : ℕ → Option BreakerCall} {request : ℕ}

/-- The only call on the breaker is the one in progress. -/
theorem Follows.of_calling {call : BreakerCall} (follows : Follows base breaker calls)
    (own : calls request = some call) :
    calls = Function.update (fun _ => none) request (some call) ∧ Halfway base breaker call := by
  cases follows with
  | quiet none same => cases (none request).symm.trans own
  | calling caller current alone halfway =>
      rw [alone, Function.update_apply] at own
      split at own
      · next same =>
          cases own
          subst same
          exact ⟨alone, halfway⟩
      · cases own

theorem Follows.of_quiet (follows : Follows base breaker calls)
    (none : ∀ request, calls request = none) : breaker = base := by
  cases follows with
  | quiet _ same => exact same
  | calling caller current alone halfway =>
      have own := none caller
      rw [alone, Function.update_self] at own
      cases own

/-- A call begins. -/
theorem Follows.begin {call : BreakerCall} (none : ∀ request, calls request = none)
    (halfway : Halfway base after call) :
    Follows base after (Function.update calls request (some call)) := by
  have unoccupied : calls = fun _ => .none := funext none
  rw [unoccupied]
  exact .calling _ _ rfl halfway

/-- A call goes on. -/
theorem Follows.goOn {call next : BreakerCall} (follows : Follows base breaker calls)
    (own : calls request = some call)
    (continues : Halfway base breaker call → Halfway base after next) :
    Follows base after (Function.update calls request (some next)) := by
  rcases follows.of_calling own with ⟨alone, halfway⟩
  rw [alone, Function.update_idem]
  exact .calling _ _ rfl (continues halfway)

/-- A call returns. -/
theorem Follows.returns {call : BreakerCall} {result : CircuitBreaker}
    (follows : Follows base breaker calls) (own : calls request = some call)
    (completes : Halfway base breaker call → after = result) :
    Follows result after (Function.update calls request none) := by
  rcases follows.of_calling own with ⟨alone, halfway⟩
  rw [alone, Function.update_idem]
  refine .quiet ?_ (completes halfway)
  intro other
  rw [Function.update_apply]
  split <;> rfl

end Follows

section FollowsStep

variable {state next : AccessState} {backend : SharedBackend}

theorem callOn_running {request : ℕ} {phase : Phase}
    (running : state.pipeline.requests request = some phase) :
    state.callOn backend request =
      if phase.backend = backend then (state.locals.calls request).bind BackendCall.onBreaker
      else none := by
  rw [AccessState.callOn, running, isOn, Option.any_some]
  cases state.locals.calls request with
  | none => exact (ite_self none).symm
  | some call => simp only [Option.bind_some, beq_iff_eq]

/-- The call on the breaker after an access of a request. -/
theorem callOn_proceed {request : ℕ} {access : CallAccess} {phase : Phase} {result : Progress}
    (progresses : Progresses state.pipeline.clock (state.pipeline.heap phase.backend) phase
      (state.locals.calls request) access result) :
    (state.proceed request phase.backend result).callOn backend =
      Function.update (state.callOn backend) request
        (if phase.backend = backend then result.call.bind BackendCall.onBreaker else none) := by
  funext other
  rcases Decidable.eq_or_ne other request with rfl | different
  · rw [Function.update_self]
    rcases progresses.leaves_or_stays with ⟨_, left⟩ | ⟨after, moved, same, _⟩
    · rw [AccessState.callOn, AccessState.proceed_locals_calls, Function.update_self, left]
      exact (ite_self none).symm
    · have running : (state.proceed other phase.backend result).pipeline.requests other =
          some after := (Function.update_self _ _ _).trans moved
      rw [callOn_running running, same, AccessState.proceed_locals_calls, Function.update_self]
  · rw [Function.update_of_ne different, AccessState.callOn, AccessState.proceed_locals_calls,
      AccessState.proceed_pipeline_requests, Function.update_of_ne different,
      Function.update_of_ne different]
    rfl

theorem quiet_iff (steady : Steady state) :
    state.Quiet backend ↔ ∀ request, state.callOn backend request = none := by
  constructor
  · intro quiet request
    cases calling : state.locals.calls request with
    | none => rw [AccessState.callOn, calling, Option.bind_none]
    | some call =>
        rcases steady.calling request call calling with ⟨phase, running, _⟩
        exact quiet request (steady.counted.numbered request phase running)
  · exact fun none request _ => none request

/-- Other accesses leave the calls and the breakers alone. -/
theorem callOn_accessStep (steady : Steady state) {step : AccessStep}
    (stepped : accessStep state step = some next)
    (other : step.isCall = false) :
    next.callOn backend = state.callOn backend ∧
      (next.pipeline.heap backend).circuitBreaker =
        (state.pipeline.heap backend).circuitBreaker := by
  constructor
  · rcases steady.others stepped other with ⟨calls, requests⟩
    funext request
    rw [AccessState.callOn, AccessState.callOn, calls]
    cases calling : state.locals.calls request with
    | none => rfl
    | some call => rw [requests request call calling]
  · cases accessStep_effect stepped with
    | acted single free performed =>
        rw [heap_pipelineStep performed]
        cases noted : state.pipeline.event _ with
        | none => rfl
        | some entry =>
            refine @Heap.modify_keeps _ Backend.circuitBreaker _ _ (fun b => entry.2.apply b) ?_ _
            rcases event_isAccess single noted with ⟨healthy, same⟩ | same
            · rw [same]
              rfl
            · rw [same]
              rfl
    | began => rfl
    | loaded scan next known loads => rfl
    | entered answer known found =>
        cases answer with
        | none => rfl
        | some chosen => exact Heap.modify_keeps Backend.circuitBreaker rfl backend
    | called phase result running progresses noted => cases other

/-- A backend after an access of a request. -/
theorem heap_proceed (request : ℕ) (target : SharedBackend) (result : Progress) :
    (state.proceed request target result).pipeline.heap backend =
      if target = backend then
        result.write.toList.foldl BackendWrite.apply (state.pipeline.heap backend)
      else state.pipeline.heap backend := by
  rw [AccessState.proceed_pipeline_heap, foldl_applyWrite, Heap.modify, Function.update_apply]
  by_cases same : target = backend
  · rw [if_pos same, if_pos same.symm, same]
  · rw [if_neg same, if_neg (Ne.symm same)]

/-- An access that concerns no call on the breaker. -/
theorem Follows.same {base breaker : CircuitBreaker} {calls : ℕ → Option BreakerCall}
    (follows : Follows base breaker calls) {request : ℕ} (current : calls request = none) :
    Follows base breaker (Function.update calls request none) := by
  rw [Function.update_eq_self_iff.mpr current.symm]
  exact follows

/-- An access of a request to its backend. -/
theorem Follows.progress {base : CircuitBreaker} {clock : ℕ} {own : Backend} {phase : Phase}
    {call : Option BackendCall} {access : CallAccess} {result : Progress}
    (progresses : Progresses clock own phase call access result)
    {calls : ℕ → Option BreakerCall} {request : ℕ}
    (current : calls request = call.bind BackendCall.onBreaker)
    (apart : access.begins = true → ∀ request, calls request = none)
    (follows : Follows base own.circuitBreaker calls) :
    Follows ((access.report clock own.circuitBreaker call).toList.foldl CircuitBreaker.perform base)
      (result.write.toList.foldl BackendWrite.apply own).circuitBreaker
      (Function.update calls request (result.call.bind BackendCall.onBreaker)) := by
  cases progresses with
  | failed mayFail below =>
      have same := follows.of_quiet (apart rfl)
      rw [CallAccess.report, if_neg below]
      refine Follows.same (.quiet (apart rfl) ?_) current
      simp only [Option.toList_some, List.foldl_cons, List.foldl_nil, CircuitBreaker.perform,
        CircuitBreaker.recordFailure, ← same, if_neg below, BackendWrite.apply]
  | tripped mayFail reached =>
      have same := follows.of_quiet (apart rfl)
      rw [CallAccess.report, if_pos reached]
      exact .begin (apart rfl) (same ▸ .counted rfl reached)
  | clockRead =>
      refine follows.goOn current ?_
      intro halfway
      cases halfway with
      | counted added reached => exact .read _ added reached
  | timeStored now =>
      refine follows.returns current ?_
      intro halfway
      cases halfway with
      | read _ added reached =>
          simp only [CallAccess.report, Option.toList_some, List.foldl_cons, List.foldl_nil,
            CircuitBreaker.perform, CircuitBreaker.recordFailure, if_pos reached,
            BackendWrite.apply, added]
  | responded sent hasBody => exact .begin (apart rfl) (.cleared rfl)
  | timeCleared =>
      refine follows.returns current ?_
      intro halfway
      cases halfway with
      | cleared zero =>
          simp only [CallAccess.report, Option.toList_some, List.foldl_cons, List.foldl_nil,
            CircuitBreaker.perform, CircuitBreaker.recordSuccess, BackendWrite.apply, zero]
  | reloaded loaded rttMs => cases access <;> exact follows.same current
  | loaded | exchanged | dropped => exact follows.same current

theorem Follows.step {base : CircuitBreaker} {step : AccessStep} (steady : Steady state)
    (follows : Follows base (state.pipeline.heap backend).circuitBreaker (state.callOn backend))
    (apart : Apart backend state step) (stepped : accessStep state step = some next) :
    Follows ((state.report backend step).toList.foldl CircuitBreaker.perform base)
      (next.pipeline.heap backend).circuitBreaker (next.callOn backend) := by
  have others : step.isCall = false →
      Follows base (next.pipeline.heap backend).circuitBreaker (next.callOn backend) := by
    intro other
    rcases callOn_accessStep steady stepped other with ⟨calls, breaker⟩
    rw [calls, breaker]
    exact follows
  cases step with
  | call request access =>
      cases accessStep_effect stepped with
      | called phase result running progresses noted =>
          have current := @callOn_running state backend request phase running
          rw [callOn_proceed progresses, heap_proceed, AccessState.report, running, isOn,
            Option.any_some]
          by_cases same : phase.backend = backend
          · subst same
            rw [if_pos rfl] at current
            rw [if_pos rfl, if_pos rfl, if_pos (beq_self_eq_true _)]
            refine follows.progress progresses current ?_
            intro begins
            apply (quiet_iff steady).mp (apart _)
            rw [AccessState.begins, begins, running, isOn, Option.any_some, beq_self_eq_true]
            rfl
          · rw [if_neg same] at current
            rw [if_neg same, if_neg same, if_neg (mt beq_iff_eq.mp same)]
            exact follows.same current
  | _ => exact others rfl

end FollowsStep

/-- A breaker on which no calls overlap is that of the outcomes reported. -/
theorem circuitBreaker_of_apart {start final : AccessState} {steps : List AccessStep}
    {backend : SharedBackend} (steady : Steady start) (quiet : start.Quiet backend)
    (runs : accessSystem.Runs (Apart backend) start steps final) (ended : final.Quiet backend) :
    (final.pipeline.heap backend).circuitBreaker =
      (reportsOf start steps backend).foldl CircuitBreaker.perform
        (start.pipeline.heap backend).circuitBreaker := by
  have followed : Steady final ∧
      Follows ((reportsOf start steps backend).foldl CircuitBreaker.perform
        (start.pipeline.heap backend).circuitBreaker) (final.pipeline.heap backend).circuitBreaker
        (final.callOn backend) := by
    refine @System.Runs.foldl_observed _ _ _ accessSystem (AccessState.report backend) _ _
      (fun base state => Steady state ∧
        Follows base (state.pipeline.heap backend).circuitBreaker (state.callOn backend)) _ ?_
      _ _ _ runs _ ⟨steady, .quiet ((quiet_iff steady).mp quiet) rfl⟩
    intro state next step base holds apart stepped
    exact ⟨holds.1.step stepped, holds.2.step holds.1 apart stepped⟩
  exact followed.2.of_quiet ((quiet_iff followed.1).mp ended)

/-! ## From new backends -/

section FromNew

variable {clock : ℕ} {heap : Heap} {table : List SharedBackend}

theorem Steady.of_allNew (allNew : AllNew heap) : Steady (.initial clock heap table) := by
  apply Steady.initial
  intro backend
  rw [(allNew backend).2.2]
  rfl

section Fields

variable (allNew : AllNew heap) {steps : List AccessStep} {final : AccessState}
  (executed : accessSystem.run (.initial clock heap table) steps = some final)
  (backend : SharedBackend)

include allNew executed

theorem ewma_of_accesses :
    (final.pipeline.heap backend).ewma.ewma =
      (samplesOf (.initial clock heap table) steps backend).foldl (nextEwma (1 / 2)) 50 := by
  have written := ewma_foldl_apply (writesOf (.initial clock heap table) steps backend)
    (heap backend)
  rw [(allNew backend).2.2] at written
  rw [heap_of_accesses executed]
  exact written

theorem healthy_of_accesses :
    (final.pipeline.heap backend).healthy =
      (probesOf (.initial clock heap table) steps backend).getLast?.getD true := by
  have written := healthy_foldl_apply (writesOf (.initial clock heap table) steps backend)
    (heap backend)
  rw [(allNew backend).2.1] at written
  rw [heap_of_accesses executed]
  exact written

theorem failures_of_accesses :
    (final.pipeline.heap backend).circuitBreaker.failures =
      .ofNat (additionsSince (writesOf (.initial clock heap table) steps backend)) := by
  rw [heap_of_accesses executed]
  apply failures_foldl_apply
  change (heap backend).circuitBreaker.failures = 0
  rw [(allNew backend).1]
  rfl

theorem lastFailureTime_of_accesses :
    (final.pipeline.heap backend).circuitBreaker.lastFailureTime =
      latestTime (writesOf (.initial clock heap table) steps backend) := by
  have written := lastFailureTime_foldl_apply (writesOf (.initial clock heap table) steps backend)
    (heap backend)
  rw [(allNew backend).1] at written
  rw [heap_of_accesses executed]
  exact written

theorem activeRequests_of_accesses :
    (final.pipeline.heap backend).ewma.activeRequests = final.pipeline.executions backend :=
  (Steady.of_runs (.of_run executed) (.of_allNew allNew)).counted.counted backend

end Fields

/-- **A backend is what happened to it.** However the accesses of requests, probes and table
swaps interleave: the average of a backend is that of its latencies in the order of their
exchanges, its flag is the result of the latest probe, its active requests are the executions
that have not returned, its failures are those counted since they were last cleared, and its
time is the latest stored.  If no two calls on its breaker overlapped and none is in progress,
the breaker is that of the outcomes reported, in order. -/
theorem backend_state_of_history (allNew : AllNew heap) {steps : List AccessStep}
    {final : AccessState}
    (executed : accessSystem.run (.initial clock heap table) steps = some final)
    (backend : SharedBackend) :
    (final.pipeline.heap backend).ewma.ewma =
        (samplesOf (.initial clock heap table) steps backend).foldl (nextEwma (1 / 2)) 50 ∧
      (final.pipeline.heap backend).healthy =
        (probesOf (.initial clock heap table) steps backend).getLast?.getD true ∧
      (final.pipeline.heap backend).ewma.activeRequests = final.pipeline.executions backend ∧
      (final.pipeline.heap backend).circuitBreaker.failures =
        .ofNat (additionsSince (writesOf (.initial clock heap table) steps backend)) ∧
      (final.pipeline.heap backend).circuitBreaker.lastFailureTime =
        latestTime (writesOf (.initial clock heap table) steps backend) ∧
      (accessSystem.Runs (Apart backend) (.initial clock heap table) steps final →
        final.Quiet backend →
        (final.pipeline.heap backend).circuitBreaker =
          runReports (reportsOf (.initial clock heap table) steps backend)) := by
  refine ⟨ewma_of_accesses allNew executed backend, healthy_of_accesses allNew executed backend,
    activeRequests_of_accesses allNew executed backend,
    failures_of_accesses allNew executed backend,
    lastFailureTime_of_accesses allNew executed backend, ?_⟩
  intro apart ended
  have reported := circuitBreaker_of_apart (.of_allNew allNew) (fun _ _ => rfl) apart ended
  rw [reported, runReports]
  exact congrArg (List.foldl _ · _) (allNew backend).1

/-- The latest probe of a backend, if any, succeeded, and the failures counted since they were
last cleared are fewer than five or the latest time stored is more than 30 seconds ago. -/
def eligibleBy (start : AccessState) (steps : List AccessStep) (now : ℕ)
    (backend : SharedBackend) : Bool :=
  (probesOf start steps backend).getLast?.getD true &&
    !(decide (5 ≤ additionsSince (writesOf start steps backend)) &&
      decide (now ≤ latestTime (writesOf start steps backend) + 30))

theorem eligible_eq_eligibleBy (allNew : AllNew heap) {steps : List AccessStep}
    (fits : steps.length < 2 ^ 64) {final : AccessState}
    (executed : accessSystem.run (.initial clock heap table) steps = some final) (now : ℕ)
    (backend : SharedBackend) :
    eligible final.pipeline.heap now backend =
      eligibleBy (.initial clock heap table) steps now backend := by
  have few : additionsSince (writesOf (.initial clock heap table) steps backend) < 2 ^ 64 :=
    calc additionsSince (writesOf (.initial clock heap table) steps backend)
        ≤ (writesOf (.initial clock heap table) steps backend).length := additionsSince_le _
      _ ≤ steps.length := length_writesOf_le _ _ _
      _ < 2 ^ 64 := fits
  have reached : failureThreshold ≤ (final.pipeline.heap backend).circuitBreaker.failures ↔
      5 ≤ additionsSince (writesOf (.initial clock heap table) steps backend) := by
    rw [failures_of_accesses allNew executed, UInt64.le_iff_toNat_le,
      UInt64.toNat_ofNat_of_lt' few]
    rfl
  have opened : breakerState final.pipeline.heap now backend = .opened ↔
      5 ≤ additionsSince (writesOf (.initial clock heap table) steps backend) ∧
        now ≤ latestTime (writesOf (.initial clock heap table) steps backend) + 30 := by
    rw [breakerState, CircuitBreaker.state_eq_opened_iff, reached,
      lastFailureTime_of_accesses allNew executed]
    rfl
  rw [Bool.eq_iff_iff, eligible_iff, healthy_of_accesses allNew executed, ne_eq, opened,
    eligibleBy, Bool.and_eq_true, Bool.not_eq_true', Bool.and_eq_false_iff,
    decide_eq_false_iff_not, decide_eq_false_iff_not, not_and_or]

/-- **Routing follows the history.** After any interleaving of accesses, from new backends, a
selection that nobody disturbs comes to its end.  It goes to a backend of the current table
whose latest probe succeeded, and for which five failures counted since they were last cleared
are not both reached and timed at most 30 seconds ago; of these to the first with the least
product of its average over the latencies observed, plus one, and its executions in progress,
plus one. -/
theorem selection_follows_history (allNew : AllNew heap) {steps : List AccessStep}
    (fits : steps.length < 2 ^ 64) {final : AccessState}
    (executed : accessSystem.run (.initial clock heap table) steps = some final) :
    ∃ loads, accessSystem.run final
        (.snapshot :: (.replicate loads (.load final.locals.begun) ++
          [.enter final.locals.begun])) =
      some (final.begin.enter final.locals.begun
        ((final.pipeline.table.filter
            (eligibleBy (.initial clock heap table) steps final.pipeline.clock)).argmin
          fun backend =>
            ((samplesOf (.initial clock heap table) steps backend).foldl (nextEwma (1 / 2)) 50 + 1) *
              (final.pipeline.executions backend + 1))) := by
  have eligible : eligible final.pipeline.heap final.pipeline.clock =
      eligibleBy (.initial clock heap table) steps final.pipeline.clock := by
    funext backend
    exact eligible_eq_eligibleBy allNew fits executed _ backend
  have scores : score final.pipeline.heap = fun backend =>
      ((samplesOf (.initial clock heap table) steps backend).foldl (nextEwma (1 / 2)) 50 + 1) *
        (final.pipeline.executions backend + 1) := by
    funext backend
    rw [score, PeakEwma.calculateScore, activeRequests_of_accesses allNew executed,
      ewma_of_accesses allNew executed]
  rcases run_selection final with ⟨loads, selected⟩
  refine ⟨loads, ?_⟩
  rw [selected, selectBestBackend, eligible, scores]

end FromNew

/-- A request is refused while nobody else does anything. -/
def refusedAlone (request : ℕ) : List AccessStep :=
  [.snapshot, .load request, .load request, .enter request, .action (.pop request),
    .call request .fail, .call request .drop]

/-- The only backend refuses four requests, and then a fifth, which trips the breaker three
seconds after it has been counted. -/
def fiveRefused : List AccessStep :=
  (List.range 4).flatMap refusedAlone ++
    [.snapshot, .load 4, .load 4, .enter 4, .action (.pop 4), .call 4 .fail,
      .action (.advance 3), .call 4 .readClock, .call 4 .storeTime, .call 4 .drop]

/-- The breaker is that of the five reports. -/
theorem backend_state_of_history_refused :
    ∃ final, accessSystem.run (.initial 100 newBackends [0]) fiveRefused = some final ∧
      (final.pipeline.heap 0).circuitBreaker = { failures := 5, lastFailureTime := 103 } ∧
      (final.pipeline.heap 0).ewma.activeRequests = 0 := by
  have facts : ((accessSystem.restrict (Apart 0)).run (.initial 100 newBackends [0])
      fiveRefused).map (fun final => (decide (final.Quiet 0), final.pipeline.executions 0)) =
        some (true, 0) := by decide +kernel
  rcases Option.map_eq_some_iff.mp facts with ⟨final, restricted, known⟩
  have apart := System.Runs.of_run_restrict restricted
  have quiet : final.Quiet 0 := of_decide_eq_true (congrArg Prod.fst known)
  rcases backend_state_of_history (fun _ => ⟨rfl, rfl, rfl⟩) apart.run_eq 0 with
    ⟨_, _, active, _, _, breaker⟩
  exact ⟨final, apart.run_eq, (breaker apart quiet).trans (by decide +kernel),
    active.trans (congrArg Prod.snd known)⟩

/-- Then a second backend comes into the table. -/
def thenJoined : List AccessStep := fiveRefused ++ [.action (.updateBackends [0, 1])]

/-- The next request goes there. -/
theorem selection_follows_history_refused :
    ∃ final loads, accessSystem.run (.initial 100 newBackends [0]) thenJoined = some final ∧
      accessSystem.run final (.snapshot :: (.replicate loads (.load 5) ++ [.enter 5])) =
        some (final.begin.enter 5 (some 1)) := by
  have facts : (accessSystem.run (.initial 100 newBackends [0]) thenJoined).map (fun final =>
      (final.locals.begun, (final.pipeline.table.filter
          (eligibleBy (.initial 100 newBackends [0]) thenJoined final.pipeline.clock)).argmin
        fun backend =>
          ((samplesOf (.initial 100 newBackends [0]) thenJoined backend).foldl
            (nextEwma (1 / 2)) 50 + 1) * (final.pipeline.executions backend + 1))) =
      some (5, some 1) := by
    decide +kernel
  rcases Option.map_eq_some_iff.mp facts with ⟨final, executed, known⟩
  rcases Prod.mk.inj known with ⟨begun, chosen⟩
  rcases selection_follows_history (fun _ => ⟨rfl, rfl, rfl⟩) (by decide) executed with
    ⟨loads, selected⟩
  rw [chosen, begun] at selected
  exact ⟨final, loads, executed, selected⟩

end Vortex.Proxy
