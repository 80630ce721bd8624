import Vortex.Core.BreakerAtomics
import Vortex.Core.EwmaAtomics
import Vortex.Proxy.ConcurrentSelection

/-!
# The pipeline, access by access

An action of the pipeline may make several accesses to the atomics of a backend: a failure
is counted, timed and then the guard is dropped; a selection loads many atomics before
`increment_active`.  Between two of them other threads run.

Here every access is an action of its own.  What an execution has loaded is kept with it: a
selection in progress holds its snapshot and the loads still to come, and a request in the
middle of a call on its backend holds the place in that call.  The actions of the pipeline
that make no more than one access stay as they are.
-/

namespace Vortex.Proxy

open Vortex.Core Lib

/-! ## Writes -/

/-- A write to one atomic of a backend. -/
inductive BackendWrite where
  /-- `is_healthy.store`. -/
  | probed (healthy : Bool)
  /-- `active_requests.fetch_add(1)`. -/
  | entered
  /-- `active_requests.fetch_sub(1)`. -/
  | left
  /-- `failures.fetch_add(1)`. -/
  | added
  /-- `failures.store(0)`. -/
  | cleared
  /-- `last_failure_time.store`. -/
  | timed (now : ℕ)
  /-- A successful `compare_exchange_weak` of the average, for a latency. -/
  | exchanged (rttMs : ℚ)
  deriving DecidableEq, Repr

/-- The backend after the write. -/
def BackendWrite.apply (backend : Backend) : BackendWrite → Backend
  | .probed healthy => { backend with healthy }
  | .entered => { backend with ewma := backend.ewma.incrementActive }
  | .left => { backend with ewma := backend.ewma.dropGuard }
  | .added =>
      { backend with
        circuitBreaker.failures := backend.circuitBreaker.failures + 1 }
  | .cleared => { backend with circuitBreaker.failures := 0 }
  | .timed now => { backend with circuitBreaker.lastFailureTime := now }
  | .exchanged rttMs =>
      { backend with ewma.ewma := nextEwma backend.ewma.decayAlpha backend.ewma.ewma rttMs }

/-- The heap after a write. -/
def applyWrite (heap : Heap) (entry : SharedBackend × BackendWrite) : Heap :=
  heap.modify entry.1 fun backend => entry.2.apply backend

/-! ## Selections in progress -/

/-- A scan after its snapshot; whatever its loads see, it finds a backend of the snapshot or
none. -/
structure Scan where
  snapshot : List SharedBackend
  program : Loads (Option SharedBackend)
  within : ∀ {chosen : SharedBackend},
    program.Answers (fun _ => True) (some chosen) → chosen ∈ snapshot

/-- One backend more has passed and is the best, or the best remains. -/
theorem loadNext_answers {occurs : Atomics → Prop} {best next : Option SharedBackend}
    {backend : SharedBackend} (answers : (loadNext best backend).Answers occurs next) :
    next = best ∨ next = some backend ∧ SeenPassing occurs backend := by
  rcases Reader.answers_bind.mp answers with ⟨isEligible, tested, rest⟩
  cases isEligible with
  | false => exact .inl rest.symm
  | true =>
      have passed := loadEligible_true tested
      cases best with
      | none => exact .inr ⟨rest.symm, passed⟩
      | some best =>
          rcases Reader.answers_bind.mp rest with ⟨least, compared, found⟩
          rcases Reader.answers_bind.mp compared with ⟨scoreA, _, second⟩
          rcases Reader.answers_bind.mp second with ⟨scoreB, _, decided⟩
          cases found
          simp only [Reader.Answers] at decided
          split at decided
          · exact .inr ⟨congrArg some decided.symm, passed⟩
          · exact .inl (congrArg some decided.symm)

namespace Scan

/-- `select_best_backend` after `routing_table.snapshot()`. -/
def begin (table : List SharedBackend) : Scan where
  snapshot := table
  program := .foldl loadNext none table
  within := by
    intro chosen answers
    refine @Reader.Answers.foldl_induction _ _ _ _ _ _
      (fun past answer => ∀ chosen, answer = some chosen → chosen ∈ past) _ _ _ ?_ ?_ answers
      chosen rfl
    · intro chosen found
      cases found
    · intro past best backend next holds continued chosen found
      rcases loadNext_answers continued with same | ⟨last, _⟩
      · exact List.mem_append_left _ (holds chosen (same ▸ found))
      · cases last.symm.trans found
        exact List.mem_append_right _ List.mem_cons_self

/-- The next load of the scan. -/
def load (store : Atomics) : Scan → Option Scan
  | ⟨_, .ends _, _⟩ => none
  | ⟨snapshot, .loads cell next, within⟩ =>
      some
        { snapshot
          program := next (store cell)
          within := fun answers => within ⟨store, trivial, answers⟩ }

theorem snapshot_load {store : Atomics} {scan next : Scan} (loaded : scan.load store = some next) :
    next.snapshot = scan.snapshot := by
  rcases scan with ⟨snapshot, program, within⟩
  cases program with
  | ends answer => cases loaded
  | loads cell rest =>
      cases loaded
      rfl

/-- What a scan can answer after a load it could answer before. -/
theorem answers_load {occurs : Atomics → Prop} {store : Atomics} {scan next : Scan}
    (occurred : occurs store) (loaded : scan.load store = some next)
    {answer : Option SharedBackend} (answers : next.program.Answers occurs answer) :
    scan.program.Answers occurs answer := by
  rcases scan with ⟨snapshot, program, within⟩
  cases program with
  | ends own => cases loaded
  | loads cell rest =>
      cases loaded
      exact ⟨store, occurred, answers⟩

/-- A scan that has found a backend found it in its snapshot. -/
theorem mem_snapshot {scan : Scan} {chosen : SharedBackend}
    (found : scan.program.answered = some (some chosen)) : chosen ∈ scan.snapshot := by
  apply scan.within
  rw [Reader.eq_ends_of_answered found]
  rfl

end Scan

/-! ## Calls in progress -/

/-- A request in the middle of a call on its backend, or between its last call and its
return. -/
inductive BackendCall where
  | breaker (call : BreakerCall)
  /-- `observe_latency` has loaded the average. -/
  | observing (loaded rttMs : ℚ)
  /-- The function returns and has not yet dropped its guard. -/
  | leaving
  deriving DecidableEq, Repr

/-- An access of a request in a call on its backend. -/
inductive CallAccess where
  /-- An `await` has resolved to an error; `record_failure`: `failures.fetch_add(1)`. -/
  | fail
  /-- `record_failure`: `SystemTime::now()`. -/
  | readClock
  /-- `record_failure`: `last_failure_time.store(now)`. -/
  | storeTime
  /-- `send_request` has resolved to a response; `record_success`: `failures.store(0)`. -/
  | respond (hasBody : Bool)
  /-- `record_success`: `last_failure_time.store(0)`. -/
  | clearTime
  /-- `observe_latency`: `ewma.load`. -/
  | observe (rttMs : ℚ)
  /-- `observe_latency`: `compare_exchange_weak`. -/
  | exchange
  /-- `observe_latency`: `compare_exchange_weak` fails although nothing has changed. -/
  | failExchange
  /-- The guard is dropped as the function returns. -/
  | drop
  deriving DecidableEq, Repr

namespace Phase

/-- An error here is reported to the breaker. -/
def mayFail : Phase → Bool
  | .connecting _ | .handshaking _ | .sent _ _ => true
  | _ => false

/-- What is left of the request when its function has returned. -/
def afterwards : Phase → Option Phase
  | .returning backend conn true => some (.relaying backend conn)
  | _ => none

end Phase

/-- What an access writes, and where the request is after it. -/
structure Progress where
  write : Option BackendWrite
  phase : Option Phase
  call : Option BackendCall

/-- An access of a request that is in a phase and in a call, or in none. -/
def progress (clock : ℕ) (backend : Backend) (phase : Phase) :
    Option BackendCall → CallAccess → Option Progress
  | none, .fail =>
      if phase.mayFail then
        if backend.circuitBreaker.failures + 1 ≥ failureThreshold then
          some ⟨some .added, phase, some (.breaker .counted)⟩
        else some ⟨some .added, phase, some .leaving⟩
      else none
  | some (.breaker .counted), .readClock => some ⟨none, phase, some (.breaker (.read clock))⟩
  | some (.breaker (.read now)), .storeTime => some ⟨some (.timed now), phase, some .leaving⟩
  | none, .respond hasBody =>
      match phase with
      | .sent target conn =>
          some ⟨some .cleared, some (.answered target conn hasBody), some (.breaker .cleared)⟩
      | _ => none
  | some (.breaker .cleared), .clearTime => some ⟨some (.timed 0), phase, none⟩
  | none, .observe rttMs =>
      match phase with
      | .returning _ _ _ => some ⟨none, phase, some (.observing backend.ewma.ewma rttMs)⟩
      | _ => none
  | some (.observing loaded rttMs), .exchange =>
      if backend.ewma.ewma = loaded then some ⟨some (.exchanged rttMs), phase, some .leaving⟩
      else some ⟨none, phase, some (.observing backend.ewma.ewma rttMs)⟩
  | some (.observing _ rttMs), .failExchange =>
      some ⟨none, phase, some (.observing backend.ewma.ewma rttMs)⟩
  | some .leaving, .drop => some ⟨some .left, phase.afterwards, none⟩
  | _, _ => none

/-! ## The system -/

/-- What the threads hold between two accesses: the scans in progress, numbered in the order
of their snapshots, and the calls of the requests. -/
structure Locals where
  scans : ℕ → Option Scan
  begun : ℕ
  calls : ℕ → Option BackendCall

/-- Nobody is between two accesses. -/
def Locals.idle (begun : ℕ) : Locals where
  scans := fun _ => none
  begun
  calls := fun _ => none

/-- The pipeline with what its threads hold. -/
structure AccessState where
  pipeline : PipelineState
  locals : Locals

/-- Accesses of the executions, and actions of their surroundings. -/
inductive AccessStep where
  /-- An action of the pipeline that makes no more than one access. -/
  | action (step : PipelineStep)
  /-- `routing_table.snapshot()` of a new execution. -/
  | snapshot
  /-- The next load of a scan. -/
  | load (scan : ℕ)
  /-- The scan has ended; `increment_active` on the backend found. -/
  | enter (scan : ℕ)
  | call (request : ℕ) (access : CallAccess)
  deriving DecidableEq, Repr

/-- The access belongs to a call of a request. -/
def AccessStep.isCall : AccessStep → Bool
  | .call _ _ => true
  | _ => false

/-- The action makes no more than one access to the backends. -/
def PipelineStep.isAccess : PipelineStep → Bool
  | .select | .connect _ false | .handshake _ none | .respond _ _ | .finish _ _ => false
  | _ => true

namespace AccessState

/-- Before the first request. -/
def initial (clock : ℕ) (heap : Heap) (table : List SharedBackend) : AccessState where
  pipeline := .initial clock heap table
  locals := .idle 0

/-- A scan begins. -/
@[simps] def begin (state : AccessState) : AccessState where
  pipeline := state.pipeline
  locals :=
    { state.locals with
      scans := Function.update state.locals.scans state.locals.begun
        (some (.begin state.pipeline.table))
      begun := state.locals.begun + 1 }

/-- A scan goes on. -/
@[simps] def goOn (state : AccessState) (number : ℕ) (scan : Scan) : AccessState where
  pipeline := state.pipeline
  locals := { state.locals with scans := Function.update state.locals.scans number (some scan) }

/-- A scan ends, and the request enters the backend found. -/
@[simps] def enter (state : AccessState) (number : ℕ) (answer : Option SharedBackend) :
    AccessState where
  -- `no_healthy_upstream`: the execution ends at once.
  pipeline := answer.elim state.pipeline state.pipeline.start
  locals := { state.locals with scans := Function.update state.locals.scans number none }

/-- A request goes on in a call. -/
@[simps] def proceed (state : AccessState) (request : ℕ) (backend : SharedBackend)
    (progress : Progress) : AccessState where
  pipeline :=
    { state.pipeline with
      heap := (progress.write.toList.map (Prod.mk backend)).foldl applyWrite state.pipeline.heap
      requests := Function.update state.pipeline.requests request progress.phase }
  locals :=
    { state.locals with calls := Function.update state.locals.calls request progress.call }

/-- What an access of a request does, with the backend of the request. -/
def progressOf (state : AccessState) (request : ℕ) (access : CallAccess) :
    Option (SharedBackend × Progress) :=
  (state.pipeline.requests request).bind fun phase =>
    (progress state.pipeline.clock (state.pipeline.heap phase.backend) phase
      (state.locals.calls request) access).map (Prod.mk phase.backend)

end AccessState

/-- One access. -/
def accessStep (state : AccessState) : AccessStep → Option AccessState
  | .action step =>
      -- A request in the middle of a call does nothing else.
      if step.isAccess && (step.request.bind state.locals.calls).isNone then
        (pipelineStep state.pipeline step).map fun pipeline => { state with pipeline }
      else none
  | .snapshot => some state.begin
  | .load number =>
      (state.locals.scans number).bind fun scan =>
        (scan.load state.pipeline.atomics).map (state.goOn number)
  | .enter number =>
      (state.locals.scans number).bind fun scan => scan.program.answered.map (state.enter number)
  | .call request access =>
      (state.progressOf request access).map fun entry => state.proceed request entry.1 entry.2

/-- The accesses as a transition system. -/
def accessSystem : System AccessState AccessStep where
  step := accessStep

/-! ## What one access can do -/

/-- The cases of `progress`. -/
inductive Progresses (clock : ℕ) (backend : Backend) (phase : Phase) :
    Option BackendCall → CallAccess → Progress → Prop where
  | failed (mayFail : phase.mayFail = true)
      (below : ¬backend.circuitBreaker.failures + 1 ≥ failureThreshold) :
      Progresses clock backend phase none .fail ⟨some .added, phase, some .leaving⟩
  | tripped (mayFail : phase.mayFail = true)
      (reached : backend.circuitBreaker.failures + 1 ≥ failureThreshold) :
      Progresses clock backend phase none .fail ⟨some .added, phase, some (.breaker .counted)⟩
  | clockRead :
      Progresses clock backend phase (some (.breaker .counted)) .readClock
        ⟨none, phase, some (.breaker (.read clock))⟩
  | timeStored (now : ℕ) :
      Progresses clock backend phase (some (.breaker (.read now))) .storeTime
        ⟨some (.timed now), phase, some .leaving⟩
  | responded {target : SharedBackend} {conn : ConnId} (sent : phase = .sent target conn)
      (hasBody : Bool) :
      Progresses clock backend phase none (.respond hasBody)
        ⟨some .cleared, some (.answered target conn hasBody), some (.breaker .cleared)⟩
  | timeCleared :
      Progresses clock backend phase (some (.breaker .cleared)) .clearTime
        ⟨some (.timed 0), phase, none⟩
  | loaded (executing : phase.executing = true) (rttMs : ℚ) :
      Progresses clock backend phase none (.observe rttMs)
        ⟨none, phase, some (.observing backend.ewma.ewma rttMs)⟩
  | exchanged (rttMs : ℚ) :
      Progresses clock backend phase (some (.observing backend.ewma.ewma rttMs)) .exchange
        ⟨some (.exchanged rttMs), phase, some .leaving⟩
  | reloaded (loaded rttMs : ℚ) {access : CallAccess} :
      Progresses clock backend phase (some (.observing loaded rttMs)) access
        ⟨none, phase, some (.observing backend.ewma.ewma rttMs)⟩
  | dropped :
      Progresses clock backend phase (some .leaving) .drop ⟨some .left, phase.afterwards, none⟩

theorem progress_cases {clock : ℕ} {backend : Backend} {phase : Phase}
    {call : Option BackendCall} {access : CallAccess} {result : Progress}
    (progressed : progress clock backend phase call access = some result) :
    Progresses clock backend phase call access result := by
  unfold progress at progressed
  split at progressed
  · rcases Option.ite_none_right_eq_some.mp progressed with ⟨mayFail, counted⟩
    split at counted
    · next reached =>
        cases counted
        exact .tripped mayFail reached
    · next below =>
        cases counted
        exact .failed mayFail below
  · cases progressed
    exact .clockRead
  · cases progressed
    exact .timeStored _
  · split at progressed
    · cases progressed
      exact .responded rfl _
    · cases progressed
  · cases progressed
    exact .timeCleared
  · split at progressed
    · cases progressed
      exact .loaded rfl _
    · cases progressed
  · split at progressed
    · next same =>
        cases progressed
        subst same
        exact .exchanged _
    · cases progressed
      exact .reloaded _ _
  · cases progressed
    exact .reloaded _ _
  · cases progressed
    exact .dropped
  · cases progressed

/-- The effects of an access that is enabled. -/
inductive AccessEffect (state : AccessState) : AccessStep → AccessState → Prop where
  | acted {step : PipelineStep} {pipeline : PipelineState} (single : step.isAccess = true)
      (free : ∀ request, step.request = some request → state.locals.calls request = none)
      (stepped : pipelineStep state.pipeline step = some pipeline) :
      AccessEffect state (.action step) { state with pipeline }
  | began : AccessEffect state .snapshot state.begin
  | loaded {number : ℕ} (scan next : Scan) (known : state.locals.scans number = some scan)
      (loads : scan.load state.pipeline.atomics = some next) :
      AccessEffect state (.load number) (state.goOn number next)
  | entered {number : ℕ} {scan : Scan} (answer : Option SharedBackend)
      (known : state.locals.scans number = some scan)
      (found : scan.program.answered = some answer) :
      AccessEffect state (.enter number) (state.enter number answer)
  | called {request : ℕ} {access : CallAccess} (phase : Phase) (result : Progress)
      (running : state.pipeline.requests request = some phase)
      (progresses : Progresses state.pipeline.clock (state.pipeline.heap phase.backend) phase
        (state.locals.calls request) access result)
      (noted : state.progressOf request access = some (phase.backend, result)) :
      AccessEffect state (.call request access) (state.proceed request phase.backend result)

theorem accessStep_effect {state next : AccessState} {step : AccessStep}
    (stepped : accessStep state step = some next) : AccessEffect state step next := by
  cases step with
  | action step =>
      rcases Option.ite_none_right_eq_some.mp stepped with ⟨allowed, performed⟩
      rcases Option.map_eq_some_iff.mp performed with ⟨pipeline, taken, rfl⟩
      rcases (Bool.and_eq_true _ _).mp allowed with ⟨single, free⟩
      refine .acted single ?_ taken
      intro request own
      rw [own] at free
      exact Option.isNone_iff_eq_none.mp free
  | snapshot =>
      cases stepped
      exact .began
  | load number =>
      rcases Option.bind_eq_some_iff.mp stepped with ⟨scan, known, performed⟩
      rcases Option.map_eq_some_iff.mp performed with ⟨next, loaded, rfl⟩
      exact .loaded scan next known loaded
  | enter number =>
      rcases Option.bind_eq_some_iff.mp stepped with ⟨scan, known, performed⟩
      rcases Option.map_eq_some_iff.mp performed with ⟨answer, found, rfl⟩
      exact .entered answer known found
  | call request access =>
      rcases Option.map_eq_some_iff.mp stepped with ⟨⟨backend, result⟩, noted, rfl⟩
      rcases Option.bind_eq_some_iff.mp noted with ⟨phase, running, performed⟩
      rcases Option.map_eq_some_iff.mp performed with ⟨_, progressed, ⟨⟩⟩
      exact .called phase result running (progress_cases progressed) noted

/-! ## The writes of a run -/

/-- What an event of an action that makes no more than one access writes. -/
def BackendEvent.write : BackendEvent → Option BackendWrite
  | .probed healthy => some (.probed healthy)
  | .left => some .left
  | _ => none

/-- The write of an access, with the backend that it is to. -/
def AccessState.write (state : AccessState) : AccessStep → Option (SharedBackend × BackendWrite)
  | .action step =>
      (state.pipeline.event step).bind fun entry => entry.2.write.map (Prod.mk entry.1)
  | .snapshot | .load _ => none
  | .enter number =>
      (state.locals.scans number).bind fun scan =>
        scan.program.answered.join.map fun backend => (backend, .entered)
  | .call request access =>
      (state.progressOf request access).bind fun entry => entry.2.write.map (Prod.mk entry.1)

/-- Such an action probes, or drops a guard, or writes nothing. -/
theorem event_isAccess {state : PipelineState} {step : PipelineStep}
    (single : step.isAccess = true) {backend : SharedBackend} {event : BackendEvent}
    (noted : state.event step = some (backend, event)) :
    (∃ healthy, event = .probed healthy) ∨ event = .left := by
  cases step with
  | setHealthy target healthy =>
      cases noted
      exact .inl ⟨healthy, rfl⟩
  | cancel request =>
      rcases Option.map_eq_some_iff.mp noted with ⟨_, _, ⟨⟩⟩
      exact .inr rfl
  | secondReady request ok =>
      cases ok with
      | true => cases noted
      | false =>
          rcases Option.map_eq_some_iff.mp noted with ⟨_, _, ⟨⟩⟩
          exact .inr rfl
  | connect request ok =>
      cases ok with
      | true => cases noted
      | false => cases single
  | handshake request conn =>
      cases conn with
      | some conn => cases noted
      | none => cases single
  | select | respond request hasBody | finish request rttMs => cases single
  | _ => cases noted

/-- An access changes the heap by its write. -/
theorem heap_accessStep {state next : AccessState} {step : AccessStep}
    (stepped : accessStep state step = some next) :
    next.pipeline.heap = (state.write step).toList.foldl applyWrite state.pipeline.heap := by
  cases accessStep_effect stepped with
  | acted single free performed =>
      rw [heap_pipelineStep performed, AccessState.write]
      cases noted : state.pipeline.event _ with
      | none => rfl
      | some entry =>
          rcases event_isAccess single noted with ⟨healthy, same⟩ | same
          · rw [Option.bind_some, same]
            simp only [Option.toList_some, List.foldl_cons, applyEvent, same]
            rfl
          · rw [Option.bind_some, same]
            simp only [Option.toList_some, List.foldl_cons, applyEvent, same]
            rfl
  | began => rfl
  | loaded scan next known loads => rfl
  | entered answer known found =>
      rw [AccessState.write, known, Option.bind_some, found]
      cases answer with
      | none => rfl
      | some backend => rfl
  | called phase result running progresses noted =>
      rw [AccessState.write, noted, Option.bind_some, Option.toList_map]
      rfl

/-- Where a write to a backend comes from. -/
inductive WriteOrigin (state next : AccessState) (backend : SharedBackend) :
    BackendWrite → Prop where
  | probed (healthy : Bool) : WriteOrigin state next backend (.probed healthy)
  | left : WriteOrigin state next backend .left
  | entered {number : ℕ} {scan : Scan} (known : state.locals.scans number = some scan)
      (found : scan.program.answered = some (some backend))
      (after : next = state.enter number (some backend)) :
      WriteOrigin state next backend .entered
  | called {request : ℕ} {access : CallAccess} {phase : Phase} {result : Progress}
      {write : BackendWrite} (running : state.pipeline.requests request = some phase)
      (own : phase.backend = backend)
      (progresses : Progresses state.pipeline.clock (state.pipeline.heap phase.backend) phase
        (state.locals.calls request) access result)
      (written : result.write = some write) : WriteOrigin state next backend write

theorem write_origin {state next : AccessState} {step : AccessStep}
    (stepped : accessStep state step = some next) {backend : SharedBackend} {write : BackendWrite}
    (written : state.write step = some (backend, write)) :
    WriteOrigin state next backend write := by
  cases accessStep_effect stepped with
  | acted single free performed =>
      rcases Option.bind_eq_some_iff.mp written with ⟨⟨target, event⟩, noted, named⟩
      rcases Option.map_eq_some_iff.mp named with ⟨_, own, ⟨⟩⟩
      rcases event_isAccess single noted with ⟨healthy, rfl⟩ | rfl
      · cases own
        exact .probed healthy
      · cases own
        exact .left
  | began => cases written
  | loaded scan next known loads => cases written
  | entered answer known found =>
      rw [AccessState.write, known, Option.bind_some, found] at written
      cases answer with
      | none => cases written
      | some chosen =>
          cases written
          exact .entered known found rfl
  | called phase result running progresses noted =>
      rw [AccessState.write, noted, Option.bind_some] at written
      rcases Option.map_eq_some_iff.mp written with ⟨_, own, ⟨⟩⟩
      exact .called running rfl progresses own

/-! ## The guards held -/

/-- An access of a request drops its guard, or leaves the request on its backend and the count
of active requests alone. -/
theorem Progresses.leaves_or_stays {clock : ℕ} {backend : Backend} {phase : Phase}
    {call : Option BackendCall} {access : CallAccess} {result : Progress}
    (progresses : Progresses clock backend phase call access result) :
    (call = some .leaving ∧ result = ⟨some .left, phase.afterwards, none⟩) ∨
      ∃ after, result.phase = some after ∧ after.backend = phase.backend ∧
        after.executing = phase.executing ∧ ∀ write, result.write = some write →
          ∀ backend, (write.apply backend).ewma.activeRequests = backend.ewma.activeRequests := by
  cases progresses with
  | dropped => exact .inl ⟨rfl, rfl⟩
  | responded sent hasBody =>
      subst sent
      refine .inr ⟨_, rfl, rfl, rfl, ?_⟩
      intro write written
      cases written
      exact fun _ => rfl
  | _ =>
      refine .inr ⟨phase, rfl, rfl, rfl, ?_⟩
      intro write written
      cases written <;> exact fun _ => rfl

/-- A request stays on its backend. -/
theorem Progresses.backend_eq {clock : ℕ} {backend : Backend} {phase after : Phase}
    {call : Option BackendCall} {access : CallAccess} {result : Progress}
    (progresses : Progresses clock backend phase call access result)
    (moved : result.phase = some after) : after.backend = phase.backend := by
  rcases progresses.leaves_or_stays with ⟨_, left⟩ | ⟨stays, same, backend_eq, _⟩
  · subst left
    cases phase with
    | returning target conn hasBody =>
        cases hasBody with
        | true =>
            cases moved
            rfl
        | false => cases moved
    | _ => cases moved
  · cases same.symm.trans moved
    exact backend_eq

/-- A request in a call, or about to begin one, executes. -/
theorem Progresses.executing {clock : ℕ} {backend : Backend} {phase : Phase}
    {call : Option BackendCall} {access : CallAccess} {result : Progress}
    (progresses : Progresses clock backend phase call access result)
    (calling : ∀ current, call = some current → phase.executing = true) :
    phase.executing = true := by
  cases progresses with
  | failed mayFail | tripped mayFail =>
      cases phase with
      | relaying backend conn => cases mayFail
      | _ => rfl
  | responded sent hasBody =>
      subst sent
      rfl
  | loaded executing rttMs => exact executing
  | _ => exact calling _ rfl

/-- An action of another request, or of the surroundings, leaves a request alone. -/
theorem requests_of_other {state next : PipelineState} {step : PipelineStep} {request : ℕ}
    (other : step.request ≠ some request) (single : step.isAccess = true)
    (stepped : pipelineStep state step = some next) :
    next.requests request = state.requests request := by
  cases own : step.request with
  | none =>
      have notSelect : step ≠ .select := by
        intro select
        rw [select] at single
        cases single
      rw [requests_surroundings ⟨own, notSelect⟩ stepped]
  | some acting =>
      rcases (requests_pipelineStep own stepped).2 with ⟨after, updated⟩
      have different : request ≠ acting := by
        intro same
        exact other (own.trans (congrArg some same.symm))
      rw [updated, Function.update_of_ne different]

/-- The count of active requests is that of the executions, the requests in a call are among
these, and the selections in progress are among those begun. -/
structure Steady (state : AccessState) : Prop where
  counted : Counted state.pipeline
  calling : ∀ request call, state.locals.calls request = some call →
    ∃ phase, state.pipeline.requests request = some phase ∧ phase.executing = true
  scanning : ∀ number scan, state.locals.scans number = some scan → number < state.locals.begun

/-- What holds of every scan, after one of them has changed. -/
theorem forall_scans_update {scans : ℕ → Option Scan} {number : ℕ} {after : Option Scan}
    {property : ℕ → Scan → Prop} (own : ∀ scan, after = some scan → property number scan)
    (others : ∀ other scan, scans other = some scan → property other scan) :
    ∀ other scan, Function.update scans number after other = some scan → property other scan := by
  apply (Function.forall_update_iff scans fun other current =>
    ∀ scan, current = some scan → property other scan).mpr
  exact ⟨own, fun other _ => others other⟩

section Steady

variable {state next : AccessState}

theorem Steady.initial (clock : ℕ) {heap : Heap} (table : List SharedBackend)
    (unused : ∀ backend, (heap backend).ewma.activeRequests = 0) :
    Steady (.initial clock heap table) where
  counted := .initial clock table unused
  calling := by
    intro request call calling
    cases calling
  scanning := by
    intro number scan known
    cases known

theorem Steady.proceed (steady : Steady state) {request : ℕ} {access : CallAccess} {phase : Phase}
    {result : Progress} (running : state.pipeline.requests request = some phase)
    (progresses : Progresses state.pipeline.clock (state.pipeline.heap phase.backend) phase
      (state.locals.calls request) access result) :
    Steady (state.proceed request phase.backend result) := by
  have executing : phase.executing = true := by
    apply progresses.executing
    intro current calling
    rcases steady.calling request current calling with ⟨own, same, executing⟩
    cases running.symm.trans same
    exact executing
  constructor
  · rcases progresses.leaves_or_stays with ⟨_, left⟩ | ⟨after, moved, sameBackend, same, keeps⟩
    · subst left
      refine @Counted.settle _ _ _ steady.counted id _ running executing (fun _ => rfl) ?_
      intro backend
      cases phase with
      | returning target conn hasBody => cases hasBody <;> rfl
      | _ => rfl
    · have updated : (state.proceed request phase.backend result).pipeline.requests =
          Function.update state.pipeline.requests request (some after) := by
        rw [← moved]
        rfl
      refine steady.counted.of_executing running updated rfl same sameBackend ?_
      intro backend
      rw [PipelineState.activeRequests, AccessState.proceed_pipeline_heap]
      cases written : result.write with
      | none => rfl
      | some write =>
          exact @Heap.modify_keeps _ (fun b => b.ewma.activeRequests) _ _
            (fun b => write.apply b) (keeps write written _) backend
  · intro other call calling
    rcases Decidable.eq_or_ne other request with rfl | different
    · rw [AccessState.proceed_locals_calls, Function.update_self] at calling
      rw [AccessState.proceed_pipeline_requests, Function.update_self]
      rcases progresses.leaves_or_stays with ⟨_, left⟩ | ⟨after, moved, _, same, _⟩
      · rw [left] at calling
        cases calling
      · exact ⟨after, moved, same.trans executing⟩
    · rw [AccessState.proceed_locals_calls, Function.update_of_ne different] at calling
      rw [AccessState.proceed_pipeline_requests, Function.update_of_ne different]
      exact steady.calling other call calling
  · exact steady.scanning

/-- While a request is in a call, only its own accesses concern it. -/
theorem Steady.others (steady : Steady state) {step : AccessStep}
    (stepped : accessStep state step = some next)
    (other : step.isCall = false) :
    next.locals.calls = state.locals.calls ∧
      ∀ request call, state.locals.calls request = some call →
        next.pipeline.requests request = state.pipeline.requests request := by
  cases accessStep_effect stepped with
  | acted single free performed =>
      refine ⟨rfl, ?_⟩
      intro request call calling
      apply requests_of_other _ single performed
      intro own
      cases (free request own).symm.trans calling
  | began => exact ⟨rfl, fun _ _ _ => rfl⟩
  | loaded scan next known loads => exact ⟨rfl, fun _ _ _ => rfl⟩
  | entered answer known found =>
      refine ⟨rfl, ?_⟩
      cases answer with
      | none => exact fun _ _ _ => rfl
      | some backend =>
          intro request call calling
          rcases steady.calling request call calling with ⟨phase, running, _⟩
          exact Function.update_of_ne (steady.counted.numbered request phase running).ne _ _
  | called phase result running progresses noted => cases other

theorem Steady.of_other (steady : Steady state) {step : AccessStep}
    (stepped : accessStep state step = some next)
    (other : step.isCall = false) (counted : Counted next.pipeline)
    (scanning : ∀ number scan, next.locals.scans number = some scan →
      number < next.locals.begun) :
    Steady next := by
  rcases steady.others stepped other with ⟨calls, requests⟩
  refine ⟨counted, ?_, scanning⟩
  intro request call calling
  rw [calls] at calling
  rw [requests request call calling]
  exact steady.calling request call calling

theorem Steady.step (steady : Steady state) {step : AccessStep}
    (stepped : accessStep state step = some next) : Steady next := by
  cases accessStep_effect stepped with
  | acted single free performed =>
      exact steady.of_other stepped rfl (steady.counted.step performed) steady.scanning
  | began =>
      refine steady.of_other stepped rfl steady.counted (forall_scans_update ?_ ?_)
      · intro scan begun
        exact Nat.lt_succ_self _
      · intro other scan known
        exact (steady.scanning other scan known).trans (Nat.lt_succ_self _)
  | loaded scan next known loads =>
      refine steady.of_other stepped rfl steady.counted (forall_scans_update ?_ steady.scanning)
      intro _ _
      exact steady.scanning _ scan known
  | @entered number scan answer known found =>
      have scanning : ∀ other scan,
          Function.update state.locals.scans number none other = some scan →
            other < state.locals.begun := by
        refine forall_scans_update ?_ steady.scanning
        intro scan ended
        cases ended
      cases answer with
      | none => exact steady.of_other stepped rfl steady.counted scanning
      | some backend => exact steady.of_other stepped rfl (steady.counted.start backend) scanning
  | called phase result running progresses noted => exact steady.proceed running progresses

theorem Steady.of_runs {guard : AccessState → AccessStep → Prop} {steps : List AccessStep}
    (runs : accessSystem.Runs guard state steps next) (steady : Steady state) : Steady next := by
  apply runs.invariant _ steady
  intro state next step steady _ stepped
  exact steady.step stepped

end Steady

/-! ## Selections under way -/

/-- The selection goes through a table with the backend in it. -/
def mayFind (backend : SharedBackend) (scan : Option Scan) : Bool :=
  scan.any fun scan => decide (backend ∈ scan.snapshot)

/-- The selections in progress that go through a table with the backend in it. -/
def AccessState.underWay (state : AccessState) (backend : SharedBackend) : ℕ :=
  countBelow (mayFind backend) state.locals.begun state.locals.scans

end Vortex.Proxy
