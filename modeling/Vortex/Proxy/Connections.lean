import Vortex.Lib.Ownership
import Vortex.Proxy.BackendEvents

/-!
# Client connections

`start_server`, the task it spawns for each client, and the shutdown.  A task counts
itself in `active_connections` when it is first polled, and a guard takes it off the count
when the task is dropped, however that happens.  While it serves its connection it runs
one `forward_request` after the other, so its requests are those of the pipeline.

The loop stops once the receiver of the shutdown channel resolves: when the Ctrl+C task has
sent its message, and also when that task has failed, since its end drops the sender.

Of `hyper` it is assumed that a connection has one request at a time, up to the end of the
response body, and that the future of a request is dropped together with its connection.
The two seconds that `main` waits before it returns are left out.
-/

namespace Vortex.Proxy

open Vortex.Core Lib

/-- Where the task of a client connection is. -/
inductive ConnTask where
  /-- Not polled yet. -/
  | spawned
  /-- At `acceptor.accept(stream)`. -/
  | handshaking
  /-- At `serve_connection`, between requests. -/
  | idle
  /-- In `forward_request`, before a backend is selected. -/
  | admitting
  /-- In `forward_request`, or relaying its response. -/
  | busy (request : ℕ)
  /-- The service has returned an error. -/
  | closing
  deriving DecidableEq, Repr

namespace ConnTask

/-- The task has its guard. -/
def guarded : ConnTask → Bool
  | .spawned => false
  | _ => true

/-- The request that the task runs. -/
def request : ConnTask → Option ℕ
  | .busy request => some request
  | _ => none

end ConnTask

/-- The pipeline and the tasks, which are numbered as they are spawned. -/
structure ServerState where
  pipeline : PipelineState
  tasks : ℕ → Option ConnTask
  accepted : ℕ
  activeConnections : UInt64
  /-- The loop of `start_server` has not been left. -/
  listening : Bool
  /-- The shutdown channel resolves: the Ctrl+C task has sent its message, or is over and has
  dropped the sender. -/
  interrupted : Bool
  /-- `main` has returned, and the runtime drops the tasks. -/
  exiting : Bool

/-- Actions of the server and of its surroundings. -/
inductive ServerStep where
  /-- An action that is not one of a request. -/
  | surroundings (step : PipelineStep)
  /-- `listener.accept()` gives a stream, and its task is spawned. -/
  | accept
  /-- `listener.accept()` fails, and the loop continues. -/
  | acceptError
  /-- `ctrl_c()` resolves; if with success, the message is sent. -/
  | ctrlC (ok : Bool)
  /-- `shutdown_rx.recv()` resolves, and the loop is left. -/
  | stop
  /-- `main` returns. -/
  | exit
  /-- The first poll of a task. -/
  | begin (task : ℕ)
  /-- The runtime drops a task that was never polled. -/
  | abandon (task : ℕ)
  /-- The TLS handshake resolves. -/
  | handshake (task : ℕ) (ok : Bool)
  /-- A request arrives, and the service is called. -/
  | receive (task : ℕ)
  /-- The request is answered before a backend is selected. -/
  | reject (task : ℕ)
  /-- `select_best_backend` and `increment_active`. -/
  | select (task : ℕ)
  /-- An action of the request that the task runs. -/
  | proceed (task : ℕ) (step : PipelineStep)
  /-- The task ends or is dropped where it awaits. -/
  | close (task : ℕ)
  deriving DecidableEq, Repr

namespace ServerState

/-- Before the first client. -/
def initial (clock : ℕ) (heap : Heap) (table : List SharedBackend) : ServerState where
  pipeline := .initial clock heap table
  tasks := fun _ => none
  accepted := 0
  activeConnections := 0
  listening := true
  interrupted := false
  exiting := false

/-- The task moves on. -/
@[simps] def move (state : ServerState) (task : ℕ) (after : ConnTask) : ServerState :=
  { state with tasks := Function.update state.tasks task (some after) }

/-- The task is dropped, and with it its guard. -/
@[simps] def drop (state : ServerState) (task : ℕ) : ServerState :=
  { state with
    tasks := Function.update state.tasks task none
    activeConnections := state.activeConnections - 1 }

end ServerState

/-- One action; `tls` says whether there is a `tls_acceptor`. -/
def serverStep (tls : Bool) (state : ServerState) : ServerStep → Option ServerState
  | .surroundings step =>
      if step.request = none ∧ step ≠ .select then
        (pipelineStep state.pipeline step).map fun pipeline => { state with pipeline }
      else none
  | .accept =>
      if state.listening then
        some { state.move state.accepted .spawned with accepted := state.accepted + 1 }
      else none
  | .acceptError => if state.listening then some state else none
  | .ctrlC _ => if state.interrupted then none else some { state with interrupted := true }
  | .stop =>
      if state.listening ∧ state.interrupted then some { state with listening := false } else none
  | .exit => if state.listening then none else some { state with exiting := true }
  | .begin task =>
      match state.tasks task with
      | some .spawned =>
          some { state.move task (if tls then .handshaking else .idle) with
            activeConnections := state.activeConnections + 1 }
      | _ => none
  | .abandon task =>
      match state.tasks task with
      | some .spawned =>
          -- There is no guard yet.
          if state.exiting then some { state with tasks := Function.update state.tasks task none }
          else none
      | _ => none
  | .handshake task ok =>
      match state.tasks task with
      | some .handshaking => if ok then some (state.move task .idle) else some (state.drop task)
      | _ => none
  | .receive task =>
      match state.tasks task with
      | some .idle => some (state.move task .admitting)
      | _ => none
  | .reject task =>
      match state.tasks task with
      | some .admitting => some (state.move task .idle)
      | _ => none
  | .select task =>
      match state.tasks task with
      | some .admitting =>
          (pipelineStep state.pipeline .select).map fun pipeline =>
            { state with pipeline }.move task
              (if pipeline.started = state.pipeline.started then .idle
              else .busy state.pipeline.started)
      | _ => none
  | .proceed task step =>
      match state.tasks task with
      | some (.busy request) =>
          if step.request = some request ∧ step ≠ .cancel request then
            (pipelineStep state.pipeline step).map fun pipeline =>
              { state with pipeline }.move task
                -- `forward_request` returns an error only when the second `ready()` fails.
                (if step = PipelineStep.secondReady request false then .closing
                else if (pipeline.requests request).isNone then .idle
                else .busy request)
          else none
      | _ => none
  | .close task =>
      match state.tasks task with
      | some .handshaking | some .idle | some .admitting | some .closing => some (state.drop task)
      | some (.busy request) =>
          match state.pipeline.requests request with
          | some (.relaying _ _) =>
              (pipelineStep state.pipeline (.relayed request)).map fun pipeline =>
                { state with pipeline }.drop task
          | _ =>
              (pipelineStep state.pipeline (.cancel request)).map fun pipeline =>
                { state with pipeline }.drop task
      | _ => none

/-- The server as a transition system. -/
def serverSystem (tls : Bool) : System ServerState ServerStep where
  step := serverStep tls

/-- `get_stats`. -/
def getStats (state : ServerState) : UInt32 := state.activeConnections.toUInt32

/-! ## What an action of a request does to the requests -/

/-- The actions that end a request with nothing left of it. -/
theorem requests_eq_none {state next : PipelineState} {step : PipelineStep} {request : ℕ}
    (last : step = .secondReady request false ∨ step = .relayed request ∨ step = .cancel request)
    (stepped : pipelineStep state step = some next) : next.requests request = none := by
  rcases last with rfl | rfl | rfl <;> simp only [pipelineStep] at stepped <;> split at stepped
  · cases stepped
    exact Function.update_self _ _ _
  · cases stepped
  · cases stepped
    exact Function.update_self _ _ _
  · cases stepped
  · rcases Option.ite_none_right_eq_some.mp stepped with ⟨_, ⟨⟩⟩
    exact Function.update_self _ _ _
  · cases stepped

/-! ## What one action can do -/

/-- The weight of a task in the count. -/
def weight (task : Option ConnTask) : ℕ := (task.any ConnTask.guarded).toNat

/-- The request that a task runs. -/
def runBy (task : Option ConnTask) : Option ℕ := task.bind ConnTask.request

/-- The effects of an action that is enabled. -/
inductive ServerEffect (state next : ServerState) : Prop where
  /-- Neither a task nor a request changes. -/
  | ambient (tasks : next.tasks = state.tasks) (accepted : next.accepted = state.accepted)
      (counter : next.activeConnections = state.activeConnections)
      (requests : next.pipeline.requests = state.pipeline.requests)
  | accepted (tasks : next.tasks = Function.update state.tasks state.accepted (some .spawned))
      (accepted : next.accepted = state.accepted + 1)
      (counter : next.activeConnections = state.activeConnections)
      (requests : next.pipeline.requests = state.pipeline.requests)
  /-- A task goes from one place to another, or ends, and the request it runs goes on or
  ends with it. -/
  | moved {task : ℕ} {before : ConnTask} {after : Option ConnTask} {phase : Option Phase}
      (current : state.tasks task = some before)
      (tasks : next.tasks = Function.update state.tasks task after)
      (accepted : next.accepted = state.accepted)
      (counter : next.activeConnections + .ofNat (weight (some before)) =
        state.activeConnections + .ofNat (weight after))
      (requests : match before.request with
        | none => next.pipeline.requests = state.pipeline.requests ∧ runBy after = none
        | some request =>
            next.pipeline.requests = Function.update state.pipeline.requests request phase ∧
              runBy after = if phase.isSome then some request else none)
  /-- A task has a backend for its request. -/
  | selected {task : ℕ} {backend : SharedBackend} (current : state.tasks task = some .admitting)
      (tasks : next.tasks =
        Function.update state.tasks task (some (.busy state.pipeline.started)))
      (accepted : next.accepted = state.accepted)
      (counter : next.activeConnections = state.activeConnections)
      (pipeline : next.pipeline = state.pipeline.start backend)

variable {tls : Bool} {state next : ServerState}

/-- A task without a request that keeps its guard. -/
theorem ServerEffect.of_move {task : ℕ} {before after : ConnTask}
    (current : state.tasks task = some before) (guarded : after.guarded = before.guarded)
    (without : before.request = none) (without' : after.request = none) :
    ServerEffect state (state.move task after) := by
  refine @ServerEffect.moved _ _ task before (some after) none current rfl rfl ?_ ?_
  · simp only [weight, Option.any_some, guarded, ServerState.move]
  · rw [without]
    exact ⟨rfl, without'⟩

/-- A task without a request that drops its guard. -/
theorem ServerEffect.of_drop {task : ℕ} {before : ConnTask}
    (current : state.tasks task = some before) (guarded : before.guarded = true)
    (without : before.request = none) : ServerEffect state (state.drop task) := by
  refine @ServerEffect.moved _ _ task before none none current rfl rfl ?_ ?_
  · simp only [weight, Option.any_some, guarded, ServerState.drop]
    exact (UInt64.sub_add_cancel _ _).trans (UInt64.add_zero _).symm
  · rw [without]
    exact ⟨rfl, rfl⟩

/-- A task that is dropped while it runs a request. -/
theorem ServerEffect.of_drop_busy {task request : ℕ} {step : PipelineStep}
    {pipeline : PipelineState} (current : state.tasks task = some (.busy request))
    (own : step.request = some request)
    (last : step = .secondReady request false ∨ step = .relayed request ∨ step = .cancel request)
    (stepped : pipelineStep state.pipeline step = some pipeline) :
    ServerEffect state ({ state with pipeline }.drop task) := by
  rcases requests_pipelineStep own stepped with ⟨_, after, requests⟩
  have ended := requests_eq_none last stepped
  rw [requests, Function.update_self] at ended
  subst ended
  refine @ServerEffect.moved _ _ task (.busy request) none none current rfl rfl ?_ ?_
  · exact (UInt64.sub_add_cancel _ _).trans (UInt64.add_zero _).symm
  · exact ⟨requests, rfl⟩

theorem serverStep_effect {step : ServerStep} (stepped : serverStep tls state step = some next) :
    ServerEffect state next := by
  cases step with
  | surroundings step =>
      rcases Option.ite_none_right_eq_some.mp stepped with ⟨outside, moved⟩
      rcases Option.map_eq_some_iff.mp moved with ⟨pipeline, performed, rfl⟩
      exact .ambient rfl rfl rfl (requests_surroundings outside performed)
  | accept =>
      rcases Option.ite_none_right_eq_some.mp stepped with ⟨_, ⟨⟩⟩
      exact .accepted rfl rfl rfl rfl
  | acceptError | stop =>
      rcases Option.ite_none_right_eq_some.mp stepped with ⟨_, ⟨⟩⟩
      exact .ambient rfl rfl rfl rfl
  | ctrlC ok | exit =>
      rcases Option.ite_none_left_eq_some.mp stepped with ⟨_, ⟨⟩⟩
      exact .ambient rfl rfl rfl rfl
  | begin task =>
      simp only [serverStep] at stepped
      split at stepped
      · next current =>
          cases stepped
          refine @ServerEffect.moved _ _ task .spawned _ none current rfl rfl ?_ ?_
          · cases tls <;> exact UInt64.add_zero _
          · cases tls <;> exact ⟨rfl, rfl⟩
      · cases stepped
  | abandon task =>
      simp only [serverStep] at stepped
      split at stepped
      · next current =>
          rcases Option.ite_none_right_eq_some.mp stepped with ⟨_, ⟨⟩⟩
          exact @ServerEffect.moved _ _ task .spawned none none current rfl rfl rfl ⟨rfl, rfl⟩
      · cases stepped
  | handshake task ok =>
      simp only [serverStep] at stepped
      split at stepped
      · next current =>
          split at stepped <;> cases stepped
          · exact .of_move current rfl rfl rfl
          · exact .of_drop current rfl rfl
      · cases stepped
  | receive task | reject task =>
      simp only [serverStep] at stepped
      split at stepped
      · next current =>
          cases stepped
          exact .of_move current rfl rfl rfl
      · cases stepped
  | select task =>
      simp only [serverStep] at stepped
      split at stepped
      · next current =>
          rcases Option.map_eq_some_iff.mp stepped with ⟨pipeline, performed, rfl⟩
          simp only [pipelineStep] at performed
          split at performed
          · next backend chosen =>
              cases performed
              have grown : (state.pipeline.start backend).started ≠ state.pipeline.started :=
                Nat.succ_ne_self _
              rw [if_neg grown]
              exact .selected current rfl rfl rfl rfl
          · cases performed
            rw [if_pos rfl]
            exact .of_move current rfl rfl rfl
      · cases stepped
  | proceed task step =>
      simp only [serverStep] at stepped
      split at stepped
      · next request current =>
          rcases Option.ite_none_right_eq_some.mp stepped with ⟨⟨own, _⟩, moved⟩
          rcases Option.map_eq_some_iff.mp moved with ⟨pipeline, performed, rfl⟩
          rcases requests_pipelineStep own performed with ⟨_, phase, requests⟩
          have present : pipeline.requests request = phase := by
            rw [requests, Function.update_self]
          refine @ServerEffect.moved _ _ task (.busy request) _ phase current rfl rfl ?_ ?_
          · change state.activeConnections + _ = state.activeConnections + _
            split
            · rfl
            · split <;> rfl
          · refine ⟨requests, ?_⟩
            split
            · next failed =>
                rw [← present, requests_eq_none (.inl failed) performed]
                rfl
            · rw [present]
              cases phase <;> rfl
      · cases stepped
  | close task =>
      simp only [serverStep] at stepped
      split at stepped
      · next current =>
          cases stepped
          exact .of_drop current rfl rfl
      · next current =>
          cases stepped
          exact .of_drop current rfl rfl
      · next current =>
          cases stepped
          exact .of_drop current rfl rfl
      · next current =>
          cases stepped
          exact .of_drop current rfl rfl
      · next request current =>
          split at stepped
          · rcases Option.map_eq_some_iff.mp stepped with ⟨pipeline, performed, rfl⟩
            exact .of_drop_busy current rfl (.inr (.inl rfl)) performed
          · rcases Option.map_eq_some_iff.mp stepped with ⟨pipeline, performed, rfl⟩
            exact .of_drop_busy current rfl (.inr (.inr rfl)) performed
      · cases stepped

/-! ## The invariant -/

/-- The tasks that have been polled and are not over. -/
def ServerState.guardedTasks (state : ServerState) : ℕ :=
  countBelow (fun task => task.any ConnTask.guarded) state.accepted state.tasks

/-- The tasks that run a request. -/
def ServerState.busyTasks (state : ServerState) : ℕ :=
  countBelow Option.isSome state.accepted fun task => runBy (state.tasks task)

/-- The guards are counted, and each request in the pipeline is run by one task. -/
structure Served (state : ServerState) : Prop where
  numbered : ∀ task current, state.tasks task = some current → task < state.accepted
  counted : state.activeConnections = .ofNat state.guardedTasks
  owned : Owned state.pipeline.requests fun task => runBy (state.tasks task)

/-- What a task runs, after one task has changed. -/
theorem runBy_update (tasks : ℕ → Option ConnTask) (task : ℕ) (after : Option ConnTask) :
    (fun other => runBy (Function.update tasks task after other)) =
      Function.update (fun other => runBy (tasks other)) task (runBy after) := by
  funext other
  exact Function.apply_update (fun _ => runBy) tasks task after other

/-- The numbers and the count after one task has changed. -/
theorem Served.numbered_update (served : Served state) {task : ℕ} {before : ConnTask}
    {after : Option ConnTask} (current : state.tasks task = some before)
    (tasks : next.tasks = Function.update state.tasks task after)
    (accepted : next.accepted = state.accepted) :
    ∀ other current, next.tasks other = some current → other < next.accepted := by
  rw [accepted, tasks]
  intro other found known
  rcases Decidable.eq_or_ne other task with rfl | different
  · exact served.numbered other before current
  · rw [Function.update_of_ne different] at known
    exact served.numbered other found known

theorem Served.counted_update (served : Served state) {task : ℕ} {before : ConnTask}
    {after : Option ConnTask} (current : state.tasks task = some before)
    (tasks : next.tasks = Function.update state.tasks task after)
    (accepted : next.accepted = state.accepted)
    (counter : next.activeConnections + .ofNat (weight (some before)) =
      state.activeConnections + .ofNat (weight after)) :
    next.activeConnections = .ofNat next.guardedTasks := by
  have change : next.guardedTasks + weight (some before) = state.guardedTasks + weight after := by
    have counts := countBelow_update (fun task => task.any ConnTask.guarded) state.tasks
      (served.numbered task before current) after
    rw [current] at counts
    rw [ServerState.guardedTasks, tasks, accepted]
    exact counts
  apply (UInt64.add_left_inj (.ofNat (weight (some before)))).mp
  rw [counter, served.counted, ← UInt64.ofNat_add, ← UInt64.ofNat_add, change]

theorem Served.step (served : Served state) (counted : Counted state.pipeline)
    {step : ServerStep} (stepped : serverStep tls state step = some next) : Served next := by
  cases serverStep_effect stepped with
  | ambient tasks accepted counter requests =>
      constructor
      · rw [tasks, accepted]
        exact served.numbered
      · rw [counter, served.counted, ServerState.guardedTasks, ServerState.guardedTasks, tasks,
          accepted]
      · rw [tasks, requests]
        exact served.owned
  | accepted tasks accepted counter requests =>
      -- The new task has no guard and no request.
      have new : state.tasks state.accepted = none := by
        cases known : state.tasks state.accepted with
        | none => rfl
        | some current => exact absurd (served.numbered _ _ known) (Nat.lt_irrefl _)
      constructor
      · rw [tasks, accepted]
        intro other current known
        rcases Decidable.eq_or_ne other state.accepted with rfl | different
        · exact Nat.lt_succ_self _
        · rw [Function.update_of_ne different] at known
          exact (served.numbered other current known).trans (Nat.lt_succ_self _)
      · rw [counter, served.counted, ServerState.guardedTasks, ServerState.guardedTasks, tasks,
          accepted, countBelow_succ]
        rfl
      · have same : (runBy (some ConnTask.spawned)) = runBy (state.tasks state.accepted) := by
          rw [new]
          rfl
        rw [tasks, requests, runBy_update, same, Function.update_eq_self]
        exact served.owned
  | @moved task before after phase current tasks accepted counter requests =>
      refine ⟨served.numbered_update current tasks accepted,
        served.counted_update current tasks accepted counter, ?_⟩
      rw [tasks, runBy_update]
      have ran : runBy (state.tasks task) = before.request := by
        rw [current]
        rfl
      cases running : before.request with
      | none =>
          rw [running] at requests ran
          rw [requests.1, requests.2, ← ran, Function.update_eq_self]
          exact served.owned
      | some request =>
          rw [running] at requests ran
          rw [requests.1, requests.2]
          cases phase with
          | none => exact served.owned.release ran
          | some phase =>
              rw [Option.isSome_some, if_pos rfl, ← ran, Function.update_eq_self]
              exact served.owned.change ran phase
  | @selected task backend current tasks accepted counter pipeline =>
      refine ⟨served.numbered_update current tasks accepted,
        served.counted_update current tasks accepted ?_, ?_⟩
      · rw [counter]
        rfl
      · have new : state.pipeline.requests state.pipeline.started = none := by
          cases known : state.pipeline.requests state.pipeline.started with
          | none => rfl
          | some phase => exact absurd (counted.numbered _ _ known) (Nat.lt_irrefl _)
        have free : runBy (state.tasks task) = none := by
          rw [current]
          rfl
        rw [tasks, runBy_update, pipeline]
        exact served.owned.take free new _

/-! ## Runs of the server -/

/-- The action of the pipeline that an action is. -/
def ServerState.action (state : ServerState) : ServerStep → Option PipelineStep
  | .surroundings step => some step
  | .select _ => some .select
  | .proceed _ step => some step
  | .close task =>
      (runBy (state.tasks task)).map fun request =>
        match state.pipeline.requests request with
        | some (.relaying _ _) => .relayed request
        | _ => .cancel request
  | _ => none

/-- An action of the server is one of the pipeline, or none. -/
theorem pipeline_serverStep {step : ServerStep} (stepped : serverStep tls state step = some next) :
    pipelineSystem.run state.pipeline (state.action step).toList = some next.pipeline := by
  cases step with
  | surroundings step =>
      rcases Option.ite_none_right_eq_some.mp stepped with ⟨_, moved⟩
      rcases Option.map_eq_some_iff.mp moved with ⟨pipeline, performed, rfl⟩
      exact System.run_cons performed []
  | accept | acceptError | stop =>
      rcases Option.ite_none_right_eq_some.mp stepped with ⟨_, ⟨⟩⟩
      rfl
  | ctrlC ok | exit =>
      rcases Option.ite_none_left_eq_some.mp stepped with ⟨_, ⟨⟩⟩
      rfl
  | begin task | receive task | reject task =>
      simp only [serverStep] at stepped
      split at stepped <;> cases stepped
      rfl
  | abandon task =>
      simp only [serverStep] at stepped
      split at stepped
      · rcases Option.ite_none_right_eq_some.mp stepped with ⟨_, ⟨⟩⟩
        rfl
      · cases stepped
  | handshake task ok =>
      simp only [serverStep] at stepped
      split at stepped
      · split at stepped <;> cases stepped <;> rfl
      · cases stepped
  | select task =>
      simp only [serverStep] at stepped
      split at stepped
      · rcases Option.map_eq_some_iff.mp stepped with ⟨pipeline, performed, rfl⟩
        exact System.run_cons performed []
      · cases stepped
  | proceed task step =>
      simp only [serverStep] at stepped
      split at stepped
      · rcases Option.ite_none_right_eq_some.mp stepped with ⟨_, moved⟩
        rcases Option.map_eq_some_iff.mp moved with ⟨pipeline, performed, rfl⟩
        exact System.run_cons performed []
      · cases stepped
  | close task =>
      simp only [serverStep] at stepped
      split at stepped
      · next current =>
          cases stepped
          rw [ServerState.action, current]
          rfl
      · next current =>
          cases stepped
          rw [ServerState.action, current]
          rfl
      · next current =>
          cases stepped
          rw [ServerState.action, current]
          rfl
      · next current =>
          cases stepped
          rw [ServerState.action, current]
          rfl
      · next request current =>
          rw [ServerState.action, current]
          split at stepped
          · next relaying =>
              rcases Option.map_eq_some_iff.mp stepped with ⟨pipeline, performed, rfl⟩
              simp only [runBy, Option.bind_some, ConnTask.request, Option.map_some, relaying]
              exact System.run_cons performed []
          · next executing =>
              rcases Option.map_eq_some_iff.mp stepped with ⟨pipeline, performed, rfl⟩
              simp only [runBy, Option.bind_some, ConnTask.request, Option.map_some]
              exact System.run_cons performed []
      · cases stepped

/-- The invariant of the server together with that of its pipeline. -/
def Consistent (state : ServerState) : Prop := Served state ∧ Counted state.pipeline

theorem Consistent.step (consistent : Consistent state) {step : ServerStep}
    (stepped : serverStep tls state step = some next) : Consistent next := by
  refine ⟨consistent.1.step consistent.2 stepped, ?_⟩
  apply (System.Runs.of_run (pipeline_serverStep stepped)).invariant _ consistent.2
  intro state next step counted _ performed
  exact counted.step performed

theorem Consistent.of_run {clock : ℕ} {heap : Heap} {table : List SharedBackend}
    (unused : ∀ backend, (heap backend).ewma.activeRequests = 0)
    {steps : List ServerStep} {final : ServerState}
    (executed : (serverSystem tls).run (.initial clock heap table) steps = some final) :
    Consistent final := by
  apply (System.Runs.of_run executed).invariant
  · intro state next step consistent _ stepped
    exact consistent.step stepped
  · refine ⟨⟨nofun, rfl, ⟨?_, nofun⟩⟩, Counted.initial clock table unused⟩
    intro request
    exact ⟨nofun, nofun⟩

/-- **The connections are counted.** However the tasks interleave and whatever ends them,
`active_connections` is the number of tasks that have been polled and are not over, and
`get_stats` reports it; both wrap around at the width of their type. -/
theorem active_connections_eq_tasks {clock : ℕ} {heap : Heap} {table : List SharedBackend}
    (unused : ∀ backend, (heap backend).ewma.activeRequests = 0)
    {steps : List ServerStep} {final : ServerState}
    (executed : (serverSystem tls).run (.initial clock heap table) steps = some final) :
    final.activeConnections = .ofNat final.guardedTasks ∧
      getStats final = .ofNat final.guardedTasks := by
  have counted := (Consistent.of_run unused executed).1.counted
  refine ⟨counted, ?_⟩
  rw [getStats, counted]
  exact UInt64.toUInt32_ofNat' _

/-- Two clients over TLS: the handshake of the first fails, the second is being served. -/
def failedHandshake : List ServerStep :=
  [.accept, .accept, .begin 1, .begin 0, .handshake 1 true, .receive 1, .handshake 0 false,
    .select 1, .proceed 1 (.pop 0)]

theorem active_connections_eq_tasks_handshake :
    ∃ final, (serverSystem true).run (.initial 0 newBackends [0]) failedHandshake = some final ∧
      getStats final = 1 := by
  have ends : ((serverSystem true).run (.initial 0 newBackends [0]) failedHandshake).map
      ServerState.guardedTasks = some 1 := by
    decide +kernel
  rcases Option.map_eq_some_iff.mp ends with ⟨final, executed, one⟩
  refine ⟨final, executed, ?_⟩
  rw [(active_connections_eq_tasks (fun _ => rfl) executed).2, one]
  rfl

/-- A task with a request has its guard. -/
theorem busyTasks_le (state : ServerState) : state.busyTasks ≤ state.guardedTasks := by
  rw [ServerState.busyTasks, ServerState.guardedTasks, countBelow, countBelow]
  apply Finset.card_le_card
  apply Finset.monotone_filter_right
  intro task _ busy
  change (runBy (state.tasks task)).isSome = true at busy
  cases known : state.tasks task with
  | none =>
      rw [known] at busy
      cases busy
  | some current =>
      rw [known] at busy
      cases current with
      | busy request => rfl
      | _ => cases busy

/-- An execution is on one backend. -/
theorem sum_executions_le (state : PipelineState) (backends : Finset SharedBackend) :
    ∑ backend ∈ backends, state.executions backend ≤
      countBelow Option.isSome state.started state.requests := by
  apply sum_countBelow_le
  · intro backend request executes
    cases request with
    | none => cases executes
    | some phase => rfl
  · intro first second request onFirst onSecond
    rcases (Option.any_eq_true _ _).mp onFirst with ⟨phase, rfl, isFirst⟩
    rw [executesOn, Option.any_some, Bool.and_eq_true, beq_iff_eq] at onSecond
    rw [Bool.and_eq_true, beq_iff_eq] at isFirst
    exact isFirst.2.symm.trans onSecond.2

/-- Each request in the pipeline has its task. -/
theorem Served.requests_le (served : Served state) :
    countBelow Option.isSome state.pipeline.started state.pipeline.requests ≤ state.busyTasks := by
  apply served.owned.countBelow_le
  intro task request runs
  rcases Option.bind_eq_some_iff.mp runs with ⟨current, known, _⟩
  exact served.numbered task current known

/-- **Requests do not outnumber connections.** The active requests of all backends
together are at most the active connections. -/
theorem active_requests_le_connections {clock : ℕ} {heap : Heap} {table : List SharedBackend}
    (unused : ∀ backend, (heap backend).ewma.activeRequests = 0)
    {steps : List ServerStep} {final : ServerState}
    (executed : (serverSystem tls).run (.initial clock heap table) steps = some final)
    (fits : final.guardedTasks < UInt64.size) (backends : Finset SharedBackend) :
    ∑ backend ∈ backends, (final.pipeline.heap backend).ewma.activeRequests ≤
      final.activeConnections.toNat := by
  rcases Consistent.of_run unused executed with ⟨served, counted⟩
  have connections : final.activeConnections.toNat = final.guardedTasks := by
    rw [served.counted]
    exact UInt64.toNat_ofNat_of_lt' fits
  rw [connections]
  calc ∑ backend ∈ backends, (final.pipeline.heap backend).ewma.activeRequests
      = ∑ backend ∈ backends, final.pipeline.executions backend :=
        Finset.sum_congr rfl fun backend _ => counted.counted backend
    _ ≤ countBelow Option.isSome final.pipeline.started final.pipeline.requests :=
        sum_executions_le _ _
    _ ≤ final.busyTasks := served.requests_le
    _ ≤ final.guardedTasks := busyTasks_le final

/-- The one request of the second client. -/
theorem active_requests_le_connections_handshake :
    ∃ final, (serverSystem true).run (.initial 0 newBackends [0]) failedHandshake = some final ∧
      (final.pipeline.heap 0).ewma.activeRequests ≤ final.activeConnections.toNat := by
  have ends : ((serverSystem true).run (.initial 0 newBackends [0]) failedHandshake).map
      ServerState.guardedTasks = some 1 := by
    decide +kernel
  rcases Option.map_eq_some_iff.mp ends with ⟨final, executed, one⟩
  have fits : final.guardedTasks < UInt64.size := by
    rw [one]
    decide
  have bound := active_requests_le_connections (fun _ => rfl) executed fits {0}
  rw [Finset.sum_singleton] at bound
  exact ⟨final, executed, bound⟩

end Vortex.Proxy
