import Vortex.Admin.ControlPlane
import Vortex.Proxy.Accesses

/-!
# Backends that have been replaced

A selection takes its snapshot of the table and only later increments the count of active
requests of the backend it has found.  If the table is swapped in between, a backend that is
no longer in the table still gets a request.

Here the control plane works beside the accesses of the requests.  A replaced backend does not
come back, and its active requests, together with the selections that go through a table in
which it still was, do not grow.
-/

namespace Vortex.Admin

open Vortex.Core Lib Proxy

/-- The proxy access by access, with its control plane. -/
structure LiveState where
  control : ControlState
  locals : Locals

/-- Accesses of the requests, and actions of the control plane. -/
inductive LiveStep where
  | access (step : AccessStep)
  | control (step : ControlStep)

/-- The access does not swap the table, and a probe is of a backend that exists. -/
def accessTouches (allocated : SharedBackend) : AccessStep → Bool
  | .action step => touches allocated step
  | _ => true

namespace LiveState

/-- The part that the requests work on. -/
abbrev access (state : LiveState) : AccessState := ⟨state.control.pipeline, state.locals⟩

/-- The requests have made an access. -/
def accessed (state : LiveState) (next : AccessState) : LiveState where
  control := { state.control with pipeline := next.pipeline }
  locals := next.locals

/-- `active_requests` of a backend. -/
def activeRequests (state : LiveState) (backend : SharedBackend) : ℕ :=
  state.control.pipeline.activeRequests backend

/-- The selections in progress that go through a table with the backend in it. -/
def underWay (state : LiveState) (backend : SharedBackend) : ℕ :=
  state.access.underWay backend

end LiveState

/-- One access of a request or action of the control plane. -/
def liveStep (parse : String → Option SocketAddr) (state : LiveState) :
    LiveStep → Option LiveState
  | .access step =>
      if accessTouches state.control.allocated step then
        (accessStep state.access step).map state.accessed
      else none
  | .control step =>
      if step.ofProxy.isNone then
        (controlStep parse state.control step).map fun control => { state with control }
      else none

/-- The proxy and its control plane, access by access, as a transition system. -/
def liveSystem (parse : String → Option SocketAddr) : System LiveState LiveStep where
  step := liveStep parse

/-- `async_main` before the first request. -/
def liveMain (clock : ℕ) : LiveState where
  control := asyncMain clock
  locals := .idle 0

/-- What one action can do. -/
inductive LiveEffect (state : LiveState) : LiveStep → LiveState → Prop where
  | accessed {step : AccessStep} {next : AccessState}
      (allowed : accessTouches state.control.allocated step = true)
      (stepped : accessStep state.access step = some next) :
      LiveEffect state (.access step) (state.accessed next)
  | swapped {step : ControlStep} (backends : List Backend)
      (asNew : ∀ backend ∈ backends, acquired backend = acquiredByNew) :
      LiveEffect state (.control step)
        { state with control := state.control.updateBackends backends }
  | stored {step : ControlStep} (payload : List UInt8) :
      LiveEffect state (.control step)
        { state with control := { state.control with payload } }

theorem liveStep_effect {parse : String → Option SocketAddr} {state next : LiveState}
    {step : LiveStep} (stepped : liveStep parse state step = some next) :
    LiveEffect state step next := by
  cases step with
  | access step =>
      rcases Option.ite_none_right_eq_some.mp stepped with ⟨allowed, performed⟩
      rcases Option.map_eq_some_iff.mp performed with ⟨next, taken, rfl⟩
      exact .accessed allowed taken
  | control step =>
      rcases Option.ite_none_right_eq_some.mp stepped with ⟨other, performed⟩
      rcases Option.map_eq_some_iff.mp performed with ⟨control, taken, rfl⟩
      cases controlStep_effect taken with
      | proxied allowed acted => cases other
      | swapped _ asNew => exact .swapped _ asNew
      | stored _ => exact .stored _

/-! ## What exists -/

/-- The guards are counted, and the table, the requests and the selections know only backends
that exist. -/
structure Sound (state : LiveState) : Prop where
  steady : Steady state.access
  within : Within state.control.allocated state.control.pipeline
  scans : ∀ number scan, state.locals.scans number = some scan →
    ∀ backend ∈ scan.snapshot, backend < state.control.allocated

section Sound

variable {state : LiveState}

theorem Sound.accessed (sound : Sound state) {step : AccessStep} {next : AccessState}
    (allowed : accessTouches state.control.allocated step = true)
    (stepped : accessStep state.access step = some next) : Sound (state.accessed next) := by
  have steady : Steady next := sound.steady.step stepped
  cases accessStep_effect stepped with
  | acted single free performed =>
      exact ⟨steady, sound.within.step allowed performed, sound.scans⟩
  | began =>
      refine ⟨steady, sound.within, forall_scans_update ?_ sound.scans⟩
      intro scan begun
      cases begun
      exact sound.within.table
  | loaded scan next known loads =>
      refine ⟨steady, sound.within, forall_scans_update ?_ sound.scans⟩
      intro scan loaded
      cases loaded
      rw [Scan.snapshot_load loads]
      exact sound.scans _ _ known
  | entered answer known found =>
      refine ⟨steady, ?_, ?_⟩
      · cases answer with
        | none => exact sound.within
        | some chosen =>
            refine ⟨sound.within.table, forall_running_update rfl ?_ sound.within.requests⟩
            intro phase selected
            cases selected
            exact sound.scans _ _ known chosen (Scan.mem_snapshot found)
      · refine forall_scans_update ?_ sound.scans
        intro scan ended
        cases ended
  | called phase result running progresses noted =>
      refine ⟨steady, ⟨sound.within.table, ?_⟩, sound.scans⟩
      refine forall_running_update rfl ?_ sound.within.requests
      intro after moved
      rw [progresses.backend_eq moved]
      exact sound.within.requests _ _ running

/-- Nobody executes on a backend that does not exist. -/
theorem Sound.executions_eq_zero (sound : Sound state) {backend : SharedBackend}
    (outside : state.control.allocated ≤ backend) :
    state.control.pipeline.executions backend = 0 := by
  apply Nat.le_zero.mp
  refine @countBelow_le _ (executesOn backend) _ 0 _ state.control.pipeline.requests ?_
  intro request executes
  cases running : state.control.pipeline.requests request with
  | none =>
      rw [running] at executes
      cases executes
  | some phase =>
      rw [running, executesOn, Option.any_some, Bool.and_eq_true, beq_iff_eq] at executes
      have inside := sound.within.requests request phase running
      rw [executes.2] at inside
      exact absurd inside outside.not_gt

theorem activeRequests_of_new {backend : Backend} (asNew : acquired backend = acquiredByNew) :
    backend.ewma.activeRequests = 0 := by
  simp only [acquired, acquiredByNew, Prod.mk.injEq] at asNew
  rw [asNew.2.2]
  rfl

theorem Sound.swapped (sound : Sound state) {backends : List Backend}
    (asNew : ∀ backend ∈ backends, acquired backend = acquiredByNew) :
    Sound { state with control := state.control.updateBackends backends } where
  steady :=
    { counted :=
        { numbered := sound.steady.counted.numbered
          counted := by
            intro backend
            have before := sound.steady.counted.counted backend
            change (state.control.pipeline.heap.allocate state.control.allocated backends
              backend).ewma.activeRequests = state.control.pipeline.executions backend
            rcases Nat.lt_or_ge backend state.control.allocated with inside | outside
            · rw [Heap.allocate_below _ _ inside]
              exact before
            · rcases Nat.lt_or_ge backend (state.control.allocated + backends.length) with
                made | beyond
              · rw [sound.executions_eq_zero outside]
                exact activeRequests_of_new (asNew _ (Heap.allocate_mem _ outside made))
              · rw [Heap.allocate_beyond _ beyond]
                exact before }
      calling := sound.steady.calling
      scanning := sound.steady.scanning }
  within := ControlState.Closed.updateBackends sound.within backends
  scans := by
    intro number scan known backend member
    exact (sound.scans number scan known backend member).trans_le (Nat.le_add_right _ _)

theorem Sound.step {parse : String → Option SocketAddr} {next : LiveState} {step : LiveStep}
    (sound : Sound state) (stepped : liveStep parse state step = some next) : Sound next := by
  cases liveStep_effect stepped with
  | accessed allowed performed => exact sound.accessed allowed performed
  | swapped backends asNew => exact sound.swapped asNew
  | stored payload => exact ⟨sound.steady, sound.within, sound.scans⟩

theorem sound_liveMain (clock : ℕ) : Sound (liveMain clock) where
  steady := by
    apply Steady.initial
    exact fun backend => activeRequests_of_new (acquired_asyncMain clock backend)
  within := closed_asyncMain clock
  scans := by
    intro number scan known
    cases known

end Sound

/-! ## Draining -/

section Draining

variable {state next : LiveState} {backend : SharedBackend}

theorem activeRequests_modify_le {heap : Heap} {target : SharedBackend}
    {change : Backend → Backend}
    (fewer : ∀ own, (change own).ewma.activeRequests ≤ own.ewma.activeRequests) :
    (heap.modify target change backend).ewma.activeRequests ≤
      (heap backend).ewma.activeRequests := by
  rw [Heap.modify, Function.update_apply]
  split
  · next same =>
      rw [same]
      exact fewer _
  · exact Nat.le_refl _

/-- An action that makes one access does not add to the active requests. -/
theorem activeRequests_acted_le {state next : PipelineState} {step : PipelineStep}
    (single : step.isAccess = true) (stepped : pipelineStep state step = some next) :
    next.activeRequests backend ≤ state.activeRequests backend := by
  rw [PipelineState.activeRequests, heap_pipelineStep stepped]
  cases noted : state.event step with
  | none => exact Nat.le_refl _
  | some entry =>
      refine @activeRequests_modify_le backend state.heap entry.1 (fun own => entry.2.apply own) ?_
      intro own
      rcases event_isAccess single noted with ⟨healthy, same⟩ | same
      · rw [same]
        exact Nat.le_refl _
      · rw [same]
        exact Nat.sub_le _ _

/-- Nor does an access of a request in a call. -/
theorem activeRequests_called_le {state : AccessState} {request : ℕ} {access : CallAccess}
    {phase : Phase} {result : Progress}
    (progresses : Progresses state.pipeline.clock (state.pipeline.heap phase.backend) phase
      (state.locals.calls request) access result) :
    (state.proceed request phase.backend result).pipeline.activeRequests backend ≤
      state.pipeline.activeRequests backend := by
  rw [PipelineState.activeRequests, AccessState.proceed_pipeline_heap]
  cases written : result.write with
  | none => exact Nat.le_refl _
  | some write =>
      refine @activeRequests_modify_le backend _ phase.backend (fun own => write.apply own) ?_
      intro own
      rcases progresses.leaves_or_stays with ⟨_, left⟩ | ⟨_, _, _, _, keeps⟩
      · rw [left] at written
        cases written
        exact Nat.sub_le _ _
      · exact (keeps write written own).le

theorem activeRequests_start (state : PipelineState) (chosen : SharedBackend) :
    (state.start chosen).activeRequests backend =
      state.activeRequests backend + (decide (backend = chosen)).toNat := by
  rw [PipelineState.activeRequests, PipelineState.start_heap, Heap.modify, Function.update_apply]
  by_cases same : backend = chosen
  · rw [if_pos same, decide_eq_true same, same]
    rfl
  · rw [if_neg same, decide_eq_false same]
    rfl

/-- The selection from which a request enters a backend was under way. -/
theorem Sound.entered_le (sound : Sound state) {number : ℕ} {scan : Scan}
    {answer : Option SharedBackend} (known : state.locals.scans number = some scan)
    (found : scan.program.answered = some answer) :
    (state.accessed (state.access.enter number answer)).activeRequests backend +
        (state.accessed (state.access.enter number answer)).underWay backend ≤
      state.activeRequests backend + state.underWay backend := by
  have scans : (state.accessed (state.access.enter number answer)).underWay backend +
      (mayFind backend (some scan)).toNat = state.underWay backend := by
    have change := countBelow_update (mayFind backend) state.locals.scans
      (sound.steady.scanning number scan known) none
    rw [known] at change
    exact change
  have active : (state.accessed (state.access.enter number answer)).activeRequests backend ≤
      state.activeRequests backend + (mayFind backend (some scan)).toNat := by
    cases answer with
    | none => exact Nat.le_add_right _ _
    | some chosen =>
        refine (activeRequests_start _ chosen).trans_le (Nat.add_le_add_left ?_ _)
        by_cases same : backend = chosen
        · have listed : backend ∈ scan.snapshot := same ▸ Scan.mem_snapshot found
          rw [mayFind, Option.any_some, decide_eq_true listed]
          exact Bool.toNat_le _
        · rw [decide_eq_false same]
          exact Nat.zero_le _
  omega

theorem Sound.accessed_le (sound : Sound state)
    (absent : backend ∉ state.control.pipeline.table) {step : AccessStep} {next : AccessState}
    (stepped : accessStep state.access step = some next) :
    (state.accessed next).activeRequests backend + (state.accessed next).underWay backend ≤
      state.activeRequests backend + state.underWay backend := by
  cases accessStep_effect stepped with
  | acted single free performed =>
      exact Nat.add_le_add_right (activeRequests_acted_le single performed) _
  | called phase result running progresses noted =>
      exact Nat.add_le_add_right (activeRequests_called_le progresses) _
  | began =>
      refine Nat.add_le_add_left ?_ _
      have fresh : mayFind backend (some (.begin state.control.pipeline.table)) = false :=
        decide_eq_false absent
      refine (countBelow_succ (mayFind backend) state.locals.scans _).trans_le ?_
      rw [fresh]
      exact Nat.le_refl _
  | loaded scan next known loads =>
      refine Nat.add_le_add_left ?_ _
      have change := countBelow_update (mayFind backend) state.locals.scans
        (sound.steady.scanning _ scan known) (some next)
      rw [known, mayFind, mayFind, Option.any_some, Option.any_some,
        Scan.snapshot_load loads] at change
      exact (Nat.add_right_cancel change).le
  | entered answer known found => exact sound.entered_le known found

theorem table_accessStep {allocated : SharedBackend} {state next : AccessState}
    {step : AccessStep} (allowed : accessTouches allocated step = true)
    (stepped : accessStep state step = some next) : next.pipeline.table = state.pipeline.table := by
  cases accessStep_effect stepped with
  | acted single free performed => exact table_of_touches allowed performed
  | entered answer known found => cases answer <;> rfl
  | _ => rfl

/-- The backend has been replaced, and its load is at most some number. -/
structure Replaced (backend : SharedBackend) (load : ℕ) (state : LiveState) : Prop where
  sound : Sound state
  known : backend < state.control.allocated
  absent : backend ∉ state.control.pipeline.table
  atMost : state.activeRequests backend + state.underWay backend ≤ load

theorem Replaced.step {parse : String → Option SocketAddr} {load : ℕ} {step : LiveStep}
    (replaced : Replaced backend load state) (stepped : liveStep parse state step = some next) :
    Replaced backend load next := by
  have sound := replaced.sound.step stepped
  cases liveStep_effect stepped with
  | accessed allowed performed =>
      refine ⟨sound, replaced.known, ?_, ?_⟩
      · exact table_accessStep allowed performed ▸ replaced.absent
      · exact (replaced.sound.accessed_le replaced.absent performed).trans replaced.atMost
  | swapped backends asNew =>
      refine ⟨sound, replaced.known.trans_le (Nat.le_add_right _ _), ?_, ?_⟩
      · intro member
        exact replaced.known.not_ge (List.mem_range'_1.mp member).1
      · have same : (state.control.updateBackends backends).pipeline.activeRequests backend =
            state.activeRequests backend := by
          rw [PipelineState.activeRequests, ControlState.updateBackends_pipeline_heap,
            Heap.allocate_below _ _ replaced.known]
          rfl
        exact (Nat.add_le_add_right same.le _).trans replaced.atMost
  | stored payload => exact ⟨sound, replaced.known, replaced.absent, replaced.atMost⟩

end Draining

section Main

variable {parse : String → Option SocketAddr} {clock : ℕ} {start final : LiveState}
  {earlier steps : List LiveStep}

theorem Sound.of_run (executed : (liveSystem parse).run start steps = some final)
    (sound : Sound start) : Sound final := by
  apply (System.Runs.of_run executed).invariant _ sound
  intro state next step sound _ stepped
  exact sound.step stepped

/-- **Replaced backends drain.** However accesses of requests, probes and the control plane
interleave after a backend has left the table: it does not come back, its active requests are
the executions on it, and together with the selections that still go through an earlier table
with it they do not grow. -/
theorem replaced_backend_drains {backend : SharedBackend}
    (reached : (liveSystem parse).run (liveMain clock) earlier = some start)
    (known : backend < start.control.allocated)
    (absent : backend ∉ start.control.pipeline.table)
    (executed : (liveSystem parse).run start steps = some final) :
    backend ∉ final.control.pipeline.table ∧
      final.activeRequests backend = final.control.pipeline.executions backend ∧
      final.activeRequests backend + final.underWay backend ≤
        start.activeRequests backend + start.underWay backend := by
  have sound := Sound.of_run reached (sound_liveMain clock)
  have replaced : Replaced backend (start.activeRequests backend + start.underWay backend)
      final := by
    apply (System.Runs.of_run executed).invariant
    · intro state next step replaced _ stepped
      exact replaced.step stepped
    · exact ⟨sound, known, absent, Nat.le_refl _⟩
  exact ⟨replaced.absent, replaced.sound.steady.counted.counted backend, replaced.atMost⟩

/-- A selection has taken its snapshot when the configuration is reloaded. -/
def reloadedMeanwhile : List LiveStep :=
  [.access .snapshot, .control (.reloadConfig "routes.yaml")]

/-- It goes on, and enters the first of the backends that have been replaced. -/
def enteredLate : List LiveStep :=
  .replicate 8 (.access (.load 0)) ++ [.access (.enter 0)]

/-- The count of active requests grows once more, and the selection is no longer under way. -/
theorem replaced_backend_drains_reloaded :
    ∃ start final, (liveSystem parseLocal).run (liveMain 0) reloadedMeanwhile = some start ∧
      (liveSystem parseLocal).run start enteredLate = some final ∧
      start.activeRequests 0 = 0 ∧ final.activeRequests 0 = 1 ∧
      final.activeRequests 0 + final.underWay 0 ≤
        start.activeRequests 0 + start.underWay 0 := by
  have facts : ((liveSystem parseLocal).run (liveMain 0) reloadedMeanwhile).map (fun start =>
      (start.control.allocated, start.control.pipeline.table, start.activeRequests 0,
        ((liveSystem parseLocal).run start enteredLate).map fun final =>
          final.activeRequests 0)) = some (3, [2], 0, some 1) := by
    decide +kernel
  rcases Option.map_eq_some_iff.mp facts with ⟨start, reached, known⟩
  simp only [Prod.mk.injEq, Option.map_eq_some_iff] at known
  rcases known with ⟨allocated, table, before, final, executed, after⟩
  have absent : 0 ∉ start.control.pipeline.table := by
    rw [table]
    decide
  have drains := replaced_backend_drains reached (allocated ▸ by decide) absent executed
  exact ⟨start, final, reached, executed, before, after, drains.2.2⟩

end Main

end Vortex.Admin
