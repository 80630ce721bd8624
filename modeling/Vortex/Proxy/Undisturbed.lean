import Vortex.Proxy.Accesses

/-!
# Accesses that nobody disturbs

The accesses of each action of the pipeline in a row, with none by others in between, are that
action.  So every run of the pipeline is a run of accesses, in which selections and calls are
not disturbed.
-/

namespace Vortex.Proxy

open Vortex.Core Lib

/-- The request whose failure the action reports. -/
def PipelineStep.fails : PipelineStep → Option ℕ
  | .connect request false | .handshake request none | .respond request none => some request
  | _ => none

/-- The accesses of an action, in their order. -/
inductive AccessesOf : PipelineStep → List AccessStep → Prop where
  | single {step : PipelineStep} (single : step.isAccess = true) :
      AccessesOf step [.action step]
  | selected (number loads : ℕ) :
      AccessesOf .select (.snapshot :: (.replicate loads (.load number) ++ [.enter number]))
  /-- `record_failure` below the threshold. -/
  | counted {step : PipelineStep} {request : ℕ} (fails : step.fails = some request) :
      AccessesOf step [.call request .fail, .call request .drop]
  /-- `record_failure` from the threshold on. -/
  | tripped {step : PipelineStep} {request : ℕ} (fails : step.fails = some request) :
      AccessesOf step [.call request .fail, .call request .readClock, .call request .storeTime,
        .call request .drop]
  /-- `record_success`. -/
  | responded (request : ℕ) (hasBody : Bool) :
      AccessesOf (.respond request (some hasBody))
        [.call request (.respond hasBody), .call request .clearTime]
  /-- `observe_latency`, with the first exchange successful, and the return. -/
  | finished (request : ℕ) (rttMs : ℚ) :
      AccessesOf (.finish request rttMs)
        [.call request (.observe rttMs), .call request .exchange, .call request .drop]

section InARow

variable {state : AccessState} {request : ℕ} {phase : Phase}

theorem accessStep_call {access : CallAccess} {result : Progress}
    (running : state.pipeline.requests request = some phase)
    (progressed : progress state.pipeline.clock (state.pipeline.heap phase.backend) phase
      (state.locals.calls request) access = some result) :
    accessStep state (.call request access) = some (state.proceed request phase.backend result) := by
  simp only [accessStep, AccessState.progressOf, running, Option.bind_some, progressed,
    Option.map_some]

/-- The loads of a scan that nobody disturbs come to the answer for the atomics as they
are. -/
theorem run_loads (scan : Scan) {number : ℕ}
    (known : state.locals.scans number = some scan) :
    ∃ loads last, accessSystem.run state (.replicate loads (.load number)) =
        some (state.goOn number last) ∧
      last.program.answered = some (scan.program.evaluate state.pipeline.atomics) := by
  rcases scan with ⟨snapshot, program, within⟩
  induction program generalizing state with
  | ends answer =>
      refine ⟨0, ⟨snapshot, .ends answer, within⟩, ?_, rfl⟩
      have same : Function.update state.locals.scans number
          (some ⟨snapshot, .ends answer, within⟩) = state.locals.scans := by
        rw [← known, Function.update_eq_self]
      simp only [AccessState.goOn, same]
      rfl
  | loads cell next ih =>
      let advanced : Scan :=
        { snapshot
          program := next (state.pipeline.atomics cell)
          within := fun answers => within ⟨state.pipeline.atomics, trivial, answers⟩ }
      have stepped : accessStep state (.load number) = some (state.goOn number advanced) := by
        rw [accessStep, known]
        rfl
      have current : (state.goOn number advanced).locals.scans number = some advanced :=
        Function.update_self number _ _
      rcases ih _ advanced.within current with ⟨loads, last, performed, ended⟩
      refine ⟨loads + 1, last, ?_, ended⟩
      rw [List.replicate_succ, System.run_cons stepped, performed]
      simp only [AccessState.goOn, Function.update_idem]

/-- `select_best_backend` and `increment_active` that nobody disturbs. -/
theorem run_selection (state : AccessState) :
    ∃ loads, accessSystem.run state
        (.snapshot :: (.replicate loads (.load state.locals.begun) ++
          [.enter state.locals.begun])) =
      some (state.begin.enter state.locals.begun
        (selectBestBackend state.pipeline.heap state.pipeline.clock state.pipeline.table)) := by
  have began : accessSystem.step state .snapshot = some state.begin := rfl
  have current : state.begin.locals.scans state.locals.begun =
      some (.begin state.pipeline.table) := Function.update_self _ _ _
  rcases run_loads _ current with ⟨loads, last, performed, ended⟩
  have chosen : (Scan.begin state.pipeline.table).program.evaluate state.pipeline.atomics =
      selectBestBackend state.pipeline.heap state.pipeline.clock state.pipeline.table :=
    evaluate_loadBestBackend _ _ _
  have found : last.program.answered = some (selectBestBackend state.pipeline.heap
      state.pipeline.clock state.pipeline.table) := ended.trans (congrArg some chosen)
  have entered : accessStep (state.begin.goOn state.locals.begun last)
      (.enter state.locals.begun) = some (state.begin.enter state.locals.begun
        (selectBestBackend state.pipeline.heap state.pipeline.clock state.pipeline.table)) := by
    simp only [accessStep, AccessState.goOn, AccessState.enter, Function.update_self,
      Function.update_idem, Option.bind_some, found, Option.map_some]
  refine ⟨loads, ?_⟩
  rw [System.run_cons began, System.run_append, performed, Option.bind_some,
    System.run_cons entered]
  rfl

/-- What is done to one backend, one change after the other. -/
theorem foldl_applyWrite (heap : Heap) (backend : SharedBackend) (writes : List BackendWrite) :
    (writes.map (Prod.mk backend)).foldl applyWrite heap =
      heap.modify backend fun b => writes.foldl BackendWrite.apply b := by
  induction writes generalizing heap with
  | nil => exact (Function.update_eq_self backend heap).symm
  | cons write writes ih =>
      rw [List.map_cons, List.foldl_cons, ih, applyWrite, Heap.modify_modify]
      rfl

end InARow

section Undisturbed

variable {state : PipelineState} {request : ℕ} {phase : Phase}

/-- The request has made some writes and is at some place of a call, and all else is as it
was. -/
@[simps] def PipelineState.during (state : PipelineState) (begun request : ℕ)
    (backend : SharedBackend) (writes : List BackendWrite) (phase : Option Phase)
    (call : Option BackendCall) : AccessState where
  pipeline :=
    { state with
      heap := state.heap.modify backend fun b => writes.foldl BackendWrite.apply b
      requests := Function.update state.requests request phase }
  locals := { Locals.idle begun with calls := Function.update (fun _ => none) request call }

theorem during_nil (begun : ℕ) (running : state.requests request = some phase)
    (backend : SharedBackend) :
    state.during begun request backend [] phase none = ⟨state, .idle begun⟩ := by
  have same : Function.update state.requests request (some phase) = state.requests := by
    rw [← running, Function.update_eq_self]
  have heap : state.heap.modify backend (fun b => [].foldl BackendWrite.apply b) = state.heap :=
    Function.update_eq_self backend state.heap
  simp only [PipelineState.during, same, heap, Locals.idle]
  rw [Function.update_eq_self_iff.mpr rfl]

theorem accessStep_during {begun : ℕ} {writes : List BackendWrite}
    {call : Option BackendCall} {access : CallAccess} {result : Progress}
    (progressed : progress state.clock (writes.foldl BackendWrite.apply (state.heap phase.backend))
      phase call access = some result) :
    accessStep (state.during begun request phase.backend writes phase call)
        (.call request access) =
      some (state.during begun request phase.backend (writes ++ result.write.toList) result.phase
        result.call) := by
  have stepped := @accessStep_call (state.during begun request phase.backend writes phase call)
    request phase access result (Function.update_self _ _ _) (by
      simp only [PipelineState.during, Function.update_self, Heap.modify]
      exact progressed)
  rw [stepped]
  simp only [AccessState.proceed, PipelineState.during, Function.update_idem, foldl_applyWrite,
    Heap.modify_modify, List.foldl_append]

/-- A request that has made all its writes. -/
theorem during_settled (begun : ℕ) {backend : SharedBackend} {writes : List BackendWrite}
    {report : Backend → Backend} (after : Option Phase)
    (written : writes.foldl BackendWrite.apply (state.heap backend) =
      { report (state.heap backend) with ewma := (report (state.heap backend)).ewma.dropGuard }) :
    state.during begun request backend writes after none =
      ⟨state.settle request backend report after, .idle begun⟩ := by
  simp only [PipelineState.during, PipelineState.settle, Heap.modify, written, Locals.idle]
  rw [Function.update_eq_self_iff.mpr rfl]

/-- A failure that nobody disturbs is reported in one action. -/
theorem run_failure (begun : ℕ) (step : PipelineStep) (fails : step.fails = some request)
    (running : state.requests request = some phase) (mayFail : phase.mayFail = true) :
    ∃ accesses, AccessesOf step accesses ∧ accessSystem.run ⟨state, .idle begun⟩ accesses =
      some ⟨state.settle request phase.backend (reportFailure state.clock) none, .idle begun⟩ := by
  have ends : phase.afterwards = none := by
    cases phase with
    | connecting | handshaking | sent => rfl
    | _ => cases mayFail
  rw [← during_nil begun running phase.backend]
  by_cases reached : (state.heap phase.backend).circuitBreaker.failures + 1 ≥ failureThreshold
  · have counted : progress state.clock (state.heap phase.backend) phase none .fail =
        some ⟨some .added, phase, some (.breaker .counted)⟩ := by
      rw [progress, if_pos mayFail, if_pos reached]
    refine ⟨_, .tripped fails, ?_⟩
    rw [System.run_cons (accessStep_during counted), System.run_cons (accessStep_during rfl),
      System.run_cons (accessStep_during rfl), System.run_cons (accessStep_during rfl), ends]
    apply congrArg some
    apply during_settled
    simp only [reportFailure, CircuitBreaker.recordFailure, if_pos reached]
    rfl
  · have counted : progress state.clock (state.heap phase.backend) phase none .fail =
        some ⟨some .added, phase, some .leaving⟩ := by
      rw [progress, if_pos mayFail, if_neg reached]
    refine ⟨_, .counted fails, ?_⟩
    rw [System.run_cons (accessStep_during counted), System.run_cons (accessStep_during rfl), ends]
    apply congrArg some
    apply during_settled
    simp only [reportFailure, CircuitBreaker.recordFailure, if_neg reached]
    rfl

/-- A response that nobody disturbs is reported in one action. -/
theorem run_response (begun : ℕ) {backend : SharedBackend} {conn : ConnId}
    (running : state.requests request = some (.sent backend conn)) (hasBody : Bool) :
    accessSystem.run ⟨state, .idle begun⟩
        [.call request (.respond hasBody), .call request .clearTime] =
      some ⟨{ state with heap := state.heap.modify backend recordSuccess }.move request
        (.answered backend conn hasBody), .idle begun⟩ := by
  rw [← during_nil begun running backend, System.run_cons (accessStep_during rfl),
    System.run_cons (accessStep_during rfl)]
  simp only [System.run, PipelineState.during, PipelineState.move, Locals.idle]
  rw [Function.update_eq_self_iff.mpr rfl]
  rfl

/-- A latency that nobody disturbs is observed in one action. -/
theorem run_finish (begun : ℕ) {backend : SharedBackend} {conn : ConnId} {hasBody : Bool}
    (running : state.requests request = some (.returning backend conn hasBody)) (rttMs : ℚ) :
    accessSystem.run ⟨state, .idle begun⟩
        [.call request (.observe rttMs), .call request .exchange, .call request .drop] =
      some ⟨state.settle request backend (observeLatency rttMs)
        (if hasBody then some (.relaying backend conn) else none), .idle begun⟩ := by
  have exchanged : progress state.clock (state.heap backend) (.returning backend conn hasBody)
      (some (.observing (state.heap backend).ewma.ewma rttMs)) .exchange =
        some ⟨some (.exchanged rttMs), some (.returning backend conn hasBody), some .leaving⟩ := by
    rw [progress, if_pos rfl]
  rw [← during_nil begun running backend, System.run_cons (accessStep_during rfl),
    System.run_cons (accessStep_during exchanged), System.run_cons (accessStep_during rfl)]
  apply congrArg some
  cases hasBody with
  | true => exact during_settled begun _ rfl
  | false => exact during_settled begun _ rfl

/-- `select_best_backend` and `increment_active`, as the pipeline has them. -/
theorem run_select {next : PipelineState} (stepped : pipelineStep state .select = some next)
    (begun : ℕ) :
    ∃ loads, accessSystem.run ⟨state, .idle begun⟩
        (.snapshot :: (.replicate loads (.load begun) ++ [.enter begun])) =
      some ⟨next, .idle (begun + 1)⟩ := by
  have routed : (selectBestBackend state.heap state.clock state.table).elim state state.start =
      next := by
    simp only [pipelineStep] at stepped
    split at stepped
    · next chosen =>
        rw [chosen]
        exact Option.some.inj stepped
    · next chosen =>
        rw [chosen]
        exact Option.some.inj stepped
  rcases run_selection ⟨state, .idle begun⟩ with ⟨loads, selected⟩
  refine ⟨loads, selected.trans (congrArg some ?_)⟩
  simp only [AccessState.enter, AccessState.begin, routed, Locals.idle, Function.update_idem]
  rw [Function.update_eq_self_iff.mpr rfl]

/-- The accesses of an action of the pipeline, in a row. -/
theorem accesses_of_pipelineStep {next : PipelineState} {step : PipelineStep}
    (stepped : pipelineStep state step = some next) (begun : ℕ) :
    ∃ accesses later, AccessesOf step accesses ∧
      accessSystem.run ⟨state, .idle begun⟩ accesses = some ⟨next, .idle later⟩ := by
  cases single : step.isAccess with
  | true =>
      refine ⟨[.action step], begun, .single single, ?_⟩
      have free : (step.request.bind (Locals.idle begun).calls).isNone = true := by
        cases step.request <;> rfl
      have acted : accessStep ⟨state, .idle begun⟩ (.action step) = some ⟨next, .idle begun⟩ := by
        rw [accessStep, single, free, stepped]
        rfl
      rw [System.run_cons acted]
      rfl
  | false =>
      cases step with
      | select =>
          rcases run_select stepped begun with ⟨loads, selected⟩
          exact ⟨_, begun + 1, .selected begun loads, selected⟩
      | connect request ok =>
          cases ok with
          | true => cases single
          | false =>
              simp only [pipelineStep] at stepped
              split at stepped
              · next backend running =>
                  cases stepped
                  rcases run_failure begun (.connect request false) rfl running rfl with
                    ⟨accesses, those, performed⟩
                  exact ⟨accesses, begun, those, performed⟩
              · cases stepped
      | handshake request conn =>
          cases conn with
          | some conn => cases single
          | none =>
              simp only [pipelineStep] at stepped
              split at stepped
              · next impossible => cases impossible
              · next backend running _ =>
                  cases stepped
                  rcases run_failure begun (.handshake request none) rfl running rfl with
                    ⟨accesses, those, performed⟩
                  exact ⟨accesses, begun, those, performed⟩
              · cases stepped
      | respond request hasBody =>
          simp only [pipelineStep] at stepped
          split at stepped
          · next backend conn hasBody running =>
              cases stepped
              exact ⟨_, begun, .responded request hasBody, run_response begun running hasBody⟩
          · next backend conn running =>
              cases stepped
              rcases run_failure begun (.respond request none) rfl running rfl with
                ⟨accesses, those, performed⟩
              exact ⟨accesses, begun, those, performed⟩
          · cases stepped
      | finish request rttMs =>
          simp only [pipelineStep] at stepped
          split at stepped
          · next backend conn hasBody running =>
              cases stepped
              exact ⟨_, begun, .finished request rttMs, run_finish begun running rttMs⟩
          · cases stepped
      | _ => cases single

end Undisturbed

/-- **The pipeline is the undisturbed case.** Every run of the pipeline is a run of accesses in
which those of each action come in a row. -/
theorem pipeline_run_is_access_run {start final : PipelineState} {steps : List PipelineStep}
    (executed : pipelineSystem.run start steps = some final) (begun : ℕ) :
    ∃ blocks later, List.Forall₂ AccessesOf steps blocks ∧
      accessSystem.run ⟨start, .idle begun⟩ blocks.flatten = some ⟨final, .idle later⟩ := by
  induction steps generalizing start begun with
  | nil =>
      cases executed
      exact ⟨[], begun, .nil, rfl⟩
  | cons step steps ih =>
      rcases Option.bind_eq_some_iff.mp executed with ⟨next, stepped, rest⟩
      rcases accesses_of_pipelineStep stepped begun with ⟨block, between, those, performed⟩
      rcases ih rest between with ⟨blocks, later, others, continued⟩
      refine ⟨block :: blocks, later, .cons those others, ?_⟩
      rw [List.flatten_cons, System.run_append, performed, Option.bind_some, continued]

/-- A request is answered over a new connection. -/
theorem pipeline_run_is_access_run_answered :
    ∃ final blocks later,
      pipelineSystem.run singleBackend (firstExchange true ++ [.finish 0 20]) = some final ∧
      List.Forall₂ AccessesOf (firstExchange true ++ [.finish 0 20]) blocks ∧
      accessSystem.run ⟨singleBackend, .idle 0⟩ blocks.flatten = some ⟨final, .idle later⟩ := by
  have performed : (pipelineSystem.run singleBackend
      (firstExchange true ++ [.finish 0 20])).isSome = true := by
    decide +kernel
  rcases Option.isSome_iff_exists.mp performed with ⟨final, executed⟩
  rcases pipeline_run_is_access_run executed 0 with ⟨blocks, later, those, continued⟩
  exact ⟨final, blocks, later, executed, those, continued⟩

end Vortex.Proxy
