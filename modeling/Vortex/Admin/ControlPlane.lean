import Vortex.Admin.Watcher
import Vortex.Proxy.BackendEvents
import Vortex.Proxy.Coarsening

/-!
# The control plane and the pipeline

Two writers replace the routing table while requests are on their way: `reload_config` of the
admin service and the Kubernetes watcher.  Each makes new backends for its table, so the
backends of a table that has been replaced never come back.

The pipeline takes a replaced table as given.  Here the backends are made when the table is:
the locations below `allocated` are those that exist.  The admin service also replaces the
Wasm payload.
-/

namespace Vortex.Admin

open Vortex.Core Lib Proxy

/-- The proxy with its control plane. -/
structure ControlState where
  pipeline : PipelineState
  allocated : SharedBackend
  payload : List UInt8

namespace ControlState

/-- `update_backends` with new backends. -/
@[simps] def updateBackends (state : ControlState) (backends : List Backend) : ControlState :=
  { state with
    pipeline :=
      { state.pipeline with
        heap := state.pipeline.heap.allocate state.allocated backends
        table := List.range' state.allocated backends.length }
    allocated := state.allocated + backends.length }

end ControlState

/-! ## The admin service -/

/-- `ReloadConfigResponse`. -/
structure ReloadConfigResponse where
  success : Bool
  message : String
  deriving DecidableEq, Repr

/-- `UpdateWasmResponse`. -/
structure UpdateWasmResponse where
  success : Bool
  message : String
  deriving DecidableEq, Repr

/-- `127.0.0.1` with a port. -/
def localhost (port : UInt16) : SocketAddr := ⟨.v4 ⟨⟨127, 0, 0, 1⟩⟩, port⟩

/-- `reload_config`. The file is not read. -/
def reloadConfig (state : ControlState) (configPath : String) :
    ControlState × ReloadConfigResponse :=
  (state.updateBackends [.new ⟨99⟩ (localhost 9099)],
    { success := true
      message := "Successfully fully reloaded config from " ++ configPath ++
        " and swapped routing architecture atomically." })

/-- `update_wasm_plugin`. No writer panics while it holds the lock, so the lock is never
poisoned. -/
def updateWasmPlugin (state : ControlState) (wasmBinary : List UInt8) :
    ControlState × UpdateWasmResponse :=
  let newSize := wasmBinary.length
  if newSize = 0 then
    (state, { success := false, message := "Provided Wasm payload is empty." })
  else
    ({ state with payload := wasmBinary },
      { success := true
        message := "Successfully hot-swapped Wasm plugin. New size: " ++ toString newSize ++
          " bytes." })

/-- The watcher handles one event of its stream. -/
def applyRoute (parse : String → Option SocketAddr) (state : ControlState) :
    Except String VortexRouteSpec → ControlState
  | .error _ => state
  | .ok spec =>
      let newBackends := spec.build parse
      if newBackends.isEmpty then state else state.updateBackends newBackends

/-- Without connections this is the watcher of request forwarding, whose new backends go to the
first locations that do not exist. -/
theorem toForward_applyRoute (parse : String → Option SocketAddr) (state : ControlState)
    (event : Except String VortexRouteSpec) :
    (applyRoute parse state event).pipeline.toForward =
      handleEvent parse state.allocated state.pipeline.toForward event := by
  cases event with
  | error message => rfl
  | ok spec =>
      simp only [applyRoute, handleEvent]
      split
      · rfl
      · rfl

/-! ## All together -/

/-- Actions of the proxy and of its control plane. -/
inductive ControlStep where
  /-- An action of the requests, the health checker or the surroundings. -/
  | proxy (step : PipelineStep)
  /-- An event of the watch stream. -/
  | route (event : Except String VortexRouteSpec)
  | reloadConfig (configPath : String)
  | updateWasmPlugin (wasmBinary : List UInt8)

/-- The action of the pipeline, if it is one. -/
def ControlStep.ofProxy : ControlStep → Option PipelineStep
  | .proxy step => some step
  | _ => none

/-- The action does not swap the table, and a probe is of a backend that exists. -/
def touches (allocated : SharedBackend) : PipelineStep → Bool
  | .updateBackends _ => false
  | .setHealthy backend _ => decide (backend < allocated)
  | _ => true

/-- One action. -/
def controlStep (parse : String → Option SocketAddr) (state : ControlState) :
    ControlStep → Option ControlState
  | .proxy step =>
      if touches state.allocated step then
        (pipelineStep state.pipeline step).map fun pipeline => { state with pipeline }
      else none
  | .route event => some (applyRoute parse state event)
  | .reloadConfig configPath => some (reloadConfig state configPath).1
  | .updateWasmPlugin wasmBinary => some (updateWasmPlugin state wasmBinary).1

/-- The text of the filter with which the proxy starts. -/
def defaultWatFilter : String :=
  "\n        (module\n            (func (export \"execute\") (result i32)\n" ++
    "                i32.const 200\n            )\n        )\n    "

/-- `async_main` before the first request; a location that does not exist yet holds
anything. -/
def asyncMain (clock : ℕ) : ControlState where
  pipeline := .initial clock
    (Heap.allocate (fun _ => .new ⟨1⟩ (localhost 9090)) 0
      [.new ⟨1⟩ (localhost 9090), .new ⟨2⟩ (localhost 9091)]) [0, 1]
  allocated := 2
  payload := defaultWatFilter.toUTF8.data.toList

/-- What one action of the control plane can do. -/
inductive ControlEffect (state : ControlState) : ControlStep → ControlState → Prop where
  | proxied {step : PipelineStep} {pipeline : PipelineState}
      (allowed : touches state.allocated step = true)
      (stepped : pipelineStep state.pipeline step = some pipeline) :
      ControlEffect state (.proxy step) { state with pipeline }
  | swapped {step : ControlStep} {backends : List Backend} (other : step.ofProxy = none)
      (asNew : ∀ backend ∈ backends, acquired backend = acquiredByNew) :
      ControlEffect state step (state.updateBackends backends)
  | stored {step : ControlStep} {payload : List UInt8} (other : step.ofProxy = none) :
      ControlEffect state step { state with payload }

section Effects

variable {parse : String → Option SocketAddr} {state next : ControlState} {step : ControlStep}

theorem controlStep_effect (stepped : controlStep parse state step = some next) :
    ControlEffect state step next := by
  cases step with
  | proxy step =>
      rcases Option.ite_none_right_eq_some.mp stepped with ⟨allowed, performed⟩
      rcases Option.map_eq_some_iff.mp performed with ⟨pipeline, taken, rfl⟩
      exact .proxied allowed taken
  | route event =>
      cases stepped
      cases event with
      | error message => exact .stored rfl
      | ok spec =>
          simp only [applyRoute]
          split
          · exact .stored rfl
          · exact .swapped rfl fun backend built => acquired_build built
  | reloadConfig configPath =>
      cases stepped
      apply ControlEffect.swapped rfl
      intro backend built
      cases List.mem_singleton.mp built
      rfl
  | updateWasmPlugin wasmBinary =>
      cases stepped
      simp only [updateWasmPlugin]
      split
      · exact .stored rfl
      · exact .stored rfl

end Effects

/-! ## The backends that exist -/

/-- The table and the requests know only backends that exist. -/
structure Within (bound : SharedBackend) (state : PipelineState) : Prop where
  table : ∀ backend ∈ state.table, backend < bound
  requests : ∀ request phase, state.requests request = some phase → phase.backend < bound

/-- The request ran before, on the same backend, or the table has just given it its
backend. -/
def Continues (state : PipelineState) (request : ℕ) (phase : Phase) : Prop :=
  (∃ earlier, state.requests request = some earlier ∧ earlier.backend = phase.backend) ∨
    phase.backend ∈ state.table

section Continues

variable {state next : PipelineState}

theorem continues_same {request : ℕ} {phase : Phase}
    (running : state.requests request = some phase) : Continues state request phase :=
  .inl ⟨phase, running, rfl⟩

/-- A request that moves on stays on its backend. -/
theorem continues_moved {request : ℕ} {before after : Phase}
    (running : state.requests request = some before)
    (updated : next.requests = Function.update state.requests request (some after))
    (same : before.backend = after.backend) :
    ∀ other phase, next.requests other = some phase → Continues state other phase := by
  refine forall_running_update updated ?_ fun _ _ => continues_same
  intro phase moved
  cases moved
  exact .inl ⟨before, running, same⟩

theorem continues_ended {request : ℕ}
    (updated : next.requests = Function.update state.requests request none) :
    ∀ other phase, next.requests other = some phase → Continues state other phase := by
  refine forall_running_update updated ?_ fun _ _ => continues_same
  intro phase ended
  cases ended

theorem continues_pipelineStep {step : PipelineStep}
    (stepped : pipelineStep state step = some next) :
    ∀ request phase, next.requests request = some phase → Continues state request phase := by
  cases pipelineStep_effect stepped with
  | ambient clock table keeps => exact fun _ _ running => continues_same running
  | closed known => exact fun _ _ running => continues_same running
  | started backend =>
      refine forall_running_update rfl ?_ fun _ _ => continues_same
      intro phase same
      cases same
      simp only [pipelineStep] at stepped
      split at stepped
      · next chosen selected =>
          have routed := congrFun (congrArg PipelineState.requests (Option.some.inj stepped))
            state.started
          simp only [PipelineState.start_requests, Function.update_self] at routed
          cases routed
          exact .inr (selectBestBackend_mem selected)
      · have started := congrArg PipelineState.started (Option.some.inj stepped)
        exact absurd started (Nat.ne_of_lt (Nat.lt_succ_self _))
  | moved running move keeps => exact continues_moved running rfl move.backend_eq.symm
  | took running queued => exact continues_moved running rfl rfl
  | opened running fresh => exact continues_moved running rfl rfl
  | offered running isOpen => exact continues_moved running rfl rfl
  | pushed running => exact continues_moved running rfl rfl
  | left running executing keeps => exact continues_ended rfl
  | returned rttMs running => exact continues_moved running rfl rfl
  | relayed running => exact continues_ended rfl

end Continues

theorem table_of_touches {bound : SharedBackend} {state next : PipelineState}
    {step : PipelineStep} (allowed : touches bound step = true)
    (stepped : pipelineStep state step = some next) : next.table = state.table := by
  apply table_pipelineStep stepped
  intro table swap
  rw [swap] at allowed
  cases allowed

theorem Within.step {bound : SharedBackend} {state next : PipelineState} {step : PipelineStep}
    (within : Within bound state) (allowed : touches bound step = true)
    (stepped : pipelineStep state step = some next) : Within bound next := by
  refine ⟨table_of_touches allowed stepped ▸ within.table, ?_⟩
  intro request phase running
  rcases continues_pipelineStep stepped request phase running with earlier | routed
  · rcases earlier with ⟨earlier, before, same⟩
    exact same ▸ within.requests request earlier before
  · exact within.table _ routed

/-! ## Backends to come -/

section Splice

variable {bound backend : SharedBackend} {state next : PipelineState}

end Splice

section Runs

variable {parse : String → Option SocketAddr} {start final : ControlState}
  {steps : List ControlStep}

/-- The proxy and its control plane keep to the backends that exist. -/
def ControlState.Closed (state : ControlState) : Prop := Within state.allocated state.pipeline

theorem ControlState.Closed.updateBackends {state : ControlState} (closed : state.Closed)
    (backends : List Backend) : (state.updateBackends backends).Closed where
  table := by
    intro backend member
    exact (List.mem_range'_1.mp member).2
  requests := by
    intro request phase running
    exact (closed.requests request phase running).trans_le (Nat.le_add_right _ _)

theorem ControlState.Closed.step {state next : ControlState} (closed : state.Closed)
    {step : ControlStep} (stepped : controlStep parse state step = some next) : next.Closed := by
  cases controlStep_effect stepped with
  | proxied allowed performed => exact Within.step closed allowed performed
  | swapped other asNew => exact closed.updateBackends _
  | stored other => exact closed

/-- A heap that may stand for that of a state from the start: it agrees with it on what
exists, and elsewhere holds the same or a new backend. -/
structure Foresees (state : ControlState) (heap : Heap) : Prop where
  existing : ∀ backend, backend < state.allocated → heap backend = state.pipeline.heap backend
  coming : ∀ backend, state.allocated ≤ backend →
    heap backend = state.pipeline.heap backend ∨ acquired (heap backend) = acquiredByNew

end Runs

/-! ## From the start of the process -/

section Main

variable {parse : String → Option SocketAddr} {clock : ℕ} {start final : ControlState}
  {steps : List ControlStep}

theorem closed_asyncMain (clock : ℕ) : (asyncMain clock).Closed where
  table := by
    intro backend member
    change backend ∈ [0, 1] at member
    change backend < 2
    simp only [List.mem_cons, List.not_mem_nil, or_false] at member
    rcases member with rfl | rfl
    · exact Nat.zero_lt_two
    · exact Nat.one_lt_two
  requests := by
    intro request phase running
    cases running

/-- The backends that exist at the start are new. -/
theorem acquired_asyncMain (clock : ℕ) (backend : SharedBackend) :
    acquired ((asyncMain clock).pipeline.heap backend) = acquiredByNew := by
  rcases Nat.lt_or_ge backend 2 with inside | beyond
  · have made := Heap.allocate_mem (fun _ => .new ⟨1⟩ (localhost 9090)) (Nat.zero_le backend)
      (show backend < 0 + [Backend.new ⟨1⟩ (localhost 9090), .new ⟨2⟩ (localhost 9091)].length
        from inside)
    simp only [List.mem_cons, List.not_mem_nil, or_false] at made
    rcases made with same | same
    · exact congrArg acquired same
    · exact congrArg acquired same
  · exact congrArg acquired (Heap.allocate_beyond _ beyond)

theorem Foresees.allNew {heap : Heap} (foresees : Foresees (asyncMain clock) heap) :
    AllNew heap := by
  intro backend
  have asNew : acquired (heap backend) = acquiredByNew := by
    rcases Nat.lt_or_ge backend 2 with inside | outside
    · rw [foresees.existing backend inside]
      exact acquired_asyncMain clock backend
    · rcases foresees.coming backend outside with same | new
      · rw [same]
        exact acquired_asyncMain clock backend
      · exact new
  simp only [acquired, acquiredByNew, Prod.mk.injEq] at asNew
  exact ⟨asNew.2.1, asNew.1, asNew.2.2⟩

end Main

end Vortex.Admin
