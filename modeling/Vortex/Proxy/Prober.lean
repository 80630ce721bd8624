import Mathlib.Data.PNat.Defs
import Vortex.Proxy.BackendEvents

/-!
# Health probes

The task of `spawn_health_checker`, next to the pipeline with which it shares the table
and the backends.  At each tick of its interval it takes a snapshot of the table and
probes the backends in turn: a connection attempt under a timeout, a read of the flag
and, if the two differ, a write.  Between any two of these the pipeline goes on and the
table may be replaced.

The interval keeps its schedule when a sweep takes longer than a period: the next tick
is due one period after the last was due, not after it came.  Time is counted in
milliseconds on the timer of the runtime, which does not follow the wall clock of the
circuit breakers.
-/

namespace Vortex.Proxy

open Vortex.Core Lib

/-- How far the probe of a backend has come. -/
inductive ProbeStage where
  /-- At `TcpStream::connect`, under its timeout. -/
  | connecting
  /-- Before `backend.is_healthy()`. -/
  | decided (isHealthy : Bool)
  /-- The flag was different: before `backend.set_healthy(is_healthy)`. -/
  | differing (isHealthy : Bool)
  deriving DecidableEq, Repr

/-- Where the task is. -/
inductive Prober where
  /-- At `interval.tick()`. -/
  | waiting (since : ℕ)
  /-- In the loop, at a backend of the snapshot whose probe started at `since`, with the
  others still to come. -/
  | probing (since : ℕ) (stage : ProbeStage) (backend : SharedBackend)
      (rest : List SharedBackend)
  deriving DecidableEq, Repr

namespace Prober

/-- The head of the loop over the snapshot. -/
def next (nowMs : ℕ) : List SharedBackend → Prober
  | [] => .waiting nowMs
  | backend :: rest => .probing nowMs .connecting backend rest

/-- When the task arrived where it is. -/
def since : Prober → ℕ
  | .waiting since => since
  | .probing since _ _ _ => since

/-- The backend whose connection attempt is awaited. -/
def attempt : Prober → Option SharedBackend
  | .probing _ .connecting backend _ => some backend
  | _ => none

/-- A result that the flag does not show yet. -/
def result : Prober → Option (SharedBackend × Bool)
  | .probing _ (.decided isHealthy) backend _ => some (backend, isHealthy)
  | .probing _ (.differing isHealthy) backend _ => some (backend, isHealthy)
  | _ => none

/-- The backends of the snapshot without a result. -/
def remaining : Prober → List SharedBackend
  | .waiting _ => []
  | .probing _ .connecting backend rest => backend :: rest
  | .probing _ _ _ rest => rest

/-- The backends of the snapshot whose probe is not over. -/
def targets : Prober → List SharedBackend
  | .waiting _ => []
  | .probing _ _ backend rest => backend :: rest

section Next

variable (nowMs : ℕ) (rest : List SharedBackend)

@[simp] theorem since_next : (next nowMs rest).since = nowMs := by
  cases rest <;> rfl

@[simp] theorem result_next : (next nowMs rest).result = none := by
  cases rest <;> rfl

@[simp] theorem remaining_next : (next nowMs rest).remaining = rest := by
  cases rest <;> rfl

@[simp] theorem targets_next : (next nowMs rest).targets = rest := by
  cases rest <;> rfl

end Next

end Prober

/-- The pipeline and the task, with the time and the time of the next tick. -/
structure ProbedState where
  pipeline : PipelineState
  nowMs : ℕ
  due : ℕ
  prober : Prober

/-- Actions of the task and of its surroundings. -/
inductive ProberStep where
  /-- Time passes. -/
  | elapse (ms : ℕ)
  /-- `interval.tick()` resolves, and the snapshot is taken. -/
  | tick
  /-- The connection attempt ends before its timeout is noticed. -/
  | connected (ok : Bool)
  /-- The timeout ends the attempt. -/
  | timedOut
  /-- `backend.is_healthy()`, and the comparison. -/
  | compare
  /-- `backend.set_healthy(is_healthy)`. -/
  | store
  /-- An action of the pipeline. -/
  | traffic (step : PipelineStep)
  deriving DecidableEq, Repr

/-- The action is a write to a health flag. -/
def PipelineStep.setsHealth : PipelineStep → Bool
  | .setHealthy _ _ => true
  | _ => false

/-- The argument of `time::timeout`. -/
def probeTimeoutMs : ℕ := 1500

/-- The first, immediate tick is over. -/
def ProbedState.initial (intervalMs : ℕ+) (clock : ℕ) (heap : Heap) (table : List SharedBackend) :
    ProbedState where
  pipeline := .initial clock heap table
  nowMs := 0
  due := intervalMs
  prober := .waiting 0

/-- One action.  No one but the task writes to the flags. -/
def proberStep (intervalMs : ℕ+) (state : ProbedState) : ProberStep → Option ProbedState
  | .elapse ms => some { state with nowMs := state.nowMs + ms }
  | .tick =>
      match state.prober with
      | .waiting _ =>
          if state.due ≤ state.nowMs then
            some { state with
              due := state.due + intervalMs
              prober := .next state.nowMs state.pipeline.table }
          else none
      | _ => none
  | .connected ok =>
      match state.prober with
      | .probing since .connecting backend rest =>
          some { state with prober := .probing since (.decided ok) backend rest }
      | _ => none
  | .timedOut =>
      match state.prober with
      | .probing since .connecting backend rest =>
          if since + probeTimeoutMs ≤ state.nowMs then
            some { state with prober := .probing since (.decided false) backend rest }
          else none
      | _ => none
  | .compare =>
      match state.prober with
      | .probing since (.decided isHealthy) backend rest =>
          if isHealthy != (state.pipeline.heap backend).healthy then
            some { state with prober := .probing since (.differing isHealthy) backend rest }
          else some { state with prober := .next state.nowMs rest }
      | _ => none
  | .store =>
      match state.prober with
      | .probing _ (.differing isHealthy) backend rest =>
          (pipelineStep state.pipeline (.setHealthy backend isHealthy)).map fun pipeline =>
            { state with pipeline, prober := .next state.nowMs rest }
      | _ => none
  | .traffic step =>
      if step.setsHealth then none
      else (pipelineStep state.pipeline step).map fun pipeline => { state with pipeline }

/-- The task and the pipeline as a transition system. -/
def proberSystem (intervalMs : ℕ+) : System ProbedState ProberStep where
  step := proberStep intervalMs

/-! ## What one action can do -/

/-- The health flags. -/
def PipelineState.flags (state : PipelineState) (backend : SharedBackend) : Bool :=
  (state.heap backend).healthy

/-- Only a write to a health flag changes one. -/
theorem flags_pipelineStep {state next : PipelineState} {step : PipelineStep}
    (stepped : pipelineStep state step = some next) (ordinary : step.setsHealth = false) :
    next.flags = state.flags := by
  funext backend
  rw [PipelineState.flags, PipelineState.flags]
  rcases heap_of_event stepped backend with heap | ⟨event, noted, heap⟩
  · rw [heap]
  · rw [heap]
    cases event with
    | probed healthy =>
        rw [event_notedAt noted] at ordinary
        cases ordinary
    | _ => rfl

/-- The result that an action gives for a backend. -/
def ProbedState.outcome (state : ProbedState) : ProberStep → Option (SharedBackend × Bool)
  | .connected ok => state.prober.attempt.map fun backend => (backend, ok)
  | .timedOut => state.prober.attempt.map fun backend => (backend, false)
  | _ => none

/-- The change of a flag that an action makes, and logs. -/
def ProbedState.change (state : ProbedState) : ProberStep → Option (SharedBackend × Bool)
  | .store => state.prober.result
  | _ => none

/-- The effects of an action that is enabled. -/
inductive ProberEffect (intervalMs : ℕ+) (state : ProbedState) :
    ProberStep → ProbedState → Prop where
  | elapsed (ms : ℕ) :
      ProberEffect intervalMs state (.elapse ms) { state with nowMs := state.nowMs + ms }
  | ticked {since : ℕ} (waiting : state.prober = .waiting since) (due : state.due ≤ state.nowMs) :
      ProberEffect intervalMs state .tick
        { state with
          due := state.due + intervalMs
          prober := .next state.nowMs state.pipeline.table }
  | decided {step : ProberStep} {since : ℕ} {isHealthy : Bool} {backend : SharedBackend}
      {rest : List SharedBackend} (probing : state.prober = .probing since .connecting backend rest)
      (noted : state.outcome step = some (backend, isHealthy)) (other : step ≠ .tick)
      (quiet : state.change step = none) :
      ProberEffect intervalMs state step
        { state with prober := .probing since (.decided isHealthy) backend rest }
  | differed {since : ℕ} {isHealthy : Bool} {backend : SharedBackend} {rest : List SharedBackend}
      (probing : state.prober = .probing since (.decided isHealthy) backend rest)
      (differs : state.pipeline.flags backend ≠ isHealthy) :
      ProberEffect intervalMs state .compare
        { state with prober := .probing since (.differing isHealthy) backend rest }
  | agreed {since : ℕ} {isHealthy : Bool} {backend : SharedBackend} {rest : List SharedBackend}
      (probing : state.prober = .probing since (.decided isHealthy) backend rest)
      (same : state.pipeline.flags backend = isHealthy) :
      ProberEffect intervalMs state .compare { state with prober := .next state.nowMs rest }
  | stored {since : ℕ} {isHealthy : Bool} {backend : SharedBackend} {rest : List SharedBackend}
      {pipeline : PipelineState}
      (probing : state.prober = .probing since (.differing isHealthy) backend rest)
      (stepped : pipelineStep state.pipeline (.setHealthy backend isHealthy) = some pipeline)
      (flags : pipeline.flags = Function.update state.pipeline.flags backend isHealthy) :
      ProberEffect intervalMs state .store
        { state with pipeline, prober := .next state.nowMs rest }
  | traffic {step : PipelineStep} {pipeline : PipelineState}
      (stepped : pipelineStep state.pipeline step = some pipeline)
      (flags : pipeline.flags = state.pipeline.flags) :
      ProberEffect intervalMs state (.traffic step) { state with pipeline }

variable {intervalMs : ℕ+}

theorem proberStep_effect {state next : ProbedState} {step : ProberStep}
    (stepped : proberStep intervalMs state step = some next) :
    ProberEffect intervalMs state step next := by
  cases step with
  | elapse ms =>
      cases stepped
      exact .elapsed ms
  | tick =>
      simp only [proberStep] at stepped
      split at stepped
      · next waiting =>
          rcases Option.ite_none_right_eq_some.mp stepped with ⟨due, ⟨⟩⟩
          exact .ticked waiting due
      · cases stepped
  | connected ok =>
      simp only [proberStep] at stepped
      split at stepped
      · next probing =>
          cases stepped
          exact .decided probing (by rw [ProbedState.outcome, probing]; rfl) nofun rfl
      · cases stepped
  | timedOut =>
      simp only [proberStep] at stepped
      split at stepped
      · next probing =>
          rcases Option.ite_none_right_eq_some.mp stepped with ⟨_, ⟨⟩⟩
          exact .decided probing (by rw [ProbedState.outcome, probing]; rfl) nofun rfl
      · cases stepped
  | compare =>
      simp only [proberStep] at stepped
      split at stepped
      · next probing =>
          split at stepped
          · next differs =>
              cases stepped
              exact .differed probing (bne_iff_ne.mp differs).symm
          · next same =>
              cases stepped
              rw [bne_iff_ne, not_not] at same
              exact .agreed probing same.symm
      · cases stepped
  | store =>
      simp only [proberStep] at stepped
      split at stepped
      · next isHealthy backend rest probing =>
          cases stepped
          apply ProberEffect.stored probing rfl
          funext other
          simp only [PipelineState.flags, Heap.modify, Function.update_apply]
          split <;> rfl
      · cases stepped
  | traffic step =>
      simp only [proberStep] at stepped
      split at stepped
      · cases stepped
      · next ordinary =>
          rcases Option.map_eq_some_iff.mp stepped with ⟨pipeline, moved, rfl⟩
          exact .traffic moved (flags_pipelineStep moved (Bool.eq_false_iff.mpr ordinary))

/-! ## The flags show the latest probes -/

/-- The action of the pipeline that an action is. -/
def ProbedState.action (state : ProbedState) : ProberStep → Option PipelineStep
  | .store => state.prober.result.map fun entry => .setHealthy entry.1 entry.2
  | .traffic step => some step
  | _ => none

theorem action_proberStep {state next : ProbedState} {step : ProberStep}
    (stepped : proberStep intervalMs state step = some next) :
    pipelineSystem.run state.pipeline (state.action step).toList = some next.pipeline := by
  cases proberStep_effect stepped with
  | elapsed ms | ticked waiting due | differed probing differs | agreed probing same => rfl
  | decided probing noted other quiet =>
      cases step with
      | connected ok | timedOut => rfl
      | _ => cases noted
  | stored probing written flags =>
      rw [ProbedState.action, probing]
      exact System.run_cons written []
  | traffic moved flags => exact System.run_cons moved []

/-- The task does nothing to the backends but probes of the pipeline. -/
theorem run_action {start final : ProbedState} {steps : List ProberStep}
    (executed : (proberSystem intervalMs).run start steps = some final) :
    pipelineSystem.run start.pipeline
        ((proberSystem intervalMs).observed ProbedState.action start steps) =
      some final.pipeline :=
  System.run_observed action_proberStep executed

/-- A result for a backend. -/
def setFlag (flags : SharedBackend → Bool) (entry : SharedBackend × Bool) : SharedBackend → Bool :=
  Function.update flags entry.1 entry.2

/-- The flags, and the result that they do not show yet. -/
def ProbedState.believed (state : ProbedState) : SharedBackend → Bool :=
  state.prober.result.toList.foldl setFlag state.pipeline.flags

/-- The results along a run. -/
def outcomes (intervalMs : ℕ+) (start : ProbedState) (steps : List ProberStep) :
    List (SharedBackend × Bool) :=
  (proberSystem intervalMs).observed ProbedState.outcome start steps

/-- The results for one backend along a run. -/
def outcomesOf (intervalMs : ℕ+) (start : ProbedState) (steps : List ProberStep)
    (backend : SharedBackend) : List Bool :=
  (outcomes intervalMs start steps).filterMap fun entry =>
    if entry.1 = backend then some entry.2 else none

theorem believed_of_run {start final : ProbedState} {steps : List ProberStep}
    (executed : (proberSystem intervalMs).run start steps = some final) :
    final.believed = (outcomes intervalMs start steps).foldl setFlag start.believed := by
  apply System.foldl_observed _ executed
  intro state next step stepped
  cases proberStep_effect stepped with
  | elapsed ms => rfl
  | ticked waiting due => simp only [ProbedState.believed, waiting, Prober.result_next]; rfl
  | decided probing noted other quiet =>
      simp only [noted, ProbedState.believed, probing]
      rfl
  | differed probing differs =>
      simp only [ProbedState.believed, probing]
      rfl
  | agreed probing same =>
      simp only [ProbedState.believed, probing, Prober.result_next]
      exact (Function.update_eq_self_iff.mpr same.symm).symm
  | stored probing written flags =>
      simp only [ProbedState.believed, probing, Prober.result_next]
      exact flags
  | traffic moved flags =>
      simp only [ProbedState.believed, flags]
      rfl

theorem foldl_setFlag (flags : SharedBackend → Bool) (entries : List (SharedBackend × Bool))
    (backend : SharedBackend) :
    entries.foldl setFlag flags backend =
      (entries.filterMap fun entry =>
        if entry.1 = backend then some entry.2 else none).getLast?.getD (flags backend) := by
  rw [← foldl_replace]
  apply @foldl_filterMap_of_changes _ _ _ _ fun flags : SharedBackend → Bool => flags backend
  intro flags entry
  rw [setFlag]
  split
  · next same =>
      rw [← same, Function.update_self]
      rfl
  · next different =>
      rw [Function.update_of_ne (Ne.symm different)]
      rfl

/-- A flag that no result is waiting for. -/
theorem believed_of_settled {state : ProbedState} {backend : SharedBackend}
    (settled : ∀ isHealthy, state.prober.result ≠ some (backend, isHealthy)) :
    state.believed backend = state.pipeline.flags backend := by
  rw [ProbedState.believed]
  cases pending : state.prober.result with
  | none => rfl
  | some entry =>
      apply Function.update_of_ne
      intro same
      exact settled entry.2 (pending.trans (by rw [same]))

/-- **A flag is the latest result.** However the task and the pipeline interleave, what
they do together is a run of the pipeline with probes, and the flag of a backend is the
result of its latest connection attempt, whose result is not still being written; before
the first it is as it was. -/
theorem flag_is_latest_outcome {clock : ℕ} {heap : Heap} {table : List SharedBackend}
    {steps : List ProberStep} {final : ProbedState}
    (executed : (proberSystem intervalMs).run (.initial intervalMs clock heap table) steps =
      some final) :
    pipelineSystem.run (.initial clock heap table)
        ((proberSystem intervalMs).observed ProbedState.action
          (.initial intervalMs clock heap table) steps) = some final.pipeline ∧
      ∀ backend, (∀ isHealthy, final.prober.result ≠ some (backend, isHealthy)) →
        (final.pipeline.heap backend).healthy =
          (outcomesOf intervalMs (.initial intervalMs clock heap table) steps
            backend).getLast?.getD (heap backend).healthy := by
  refine ⟨run_action executed, fun backend settled => ?_⟩
  have believed := congrFun (believed_of_run executed) backend
  rw [believed_of_settled settled, foldl_setFlag] at believed
  exact believed

/-- Backend 0 accepts no connection; the probe of backend 1 is in progress. -/
def sweepOfTwo : List ProberStep :=
  [.elapse 5000, .tick, .connected false, .compare, .traffic .select, .store, .connected true]

/-- The flag of backend 0 is its one result, while the result for backend 1 is not written
yet. -/
theorem flag_is_latest_outcome_of_two :
    ∃ final, (proberSystem 5000).run (.initial 5000 0 newBackends [0, 1]) sweepOfTwo = some final ∧
      (final.pipeline.heap 0).healthy = false := by
  have ends : ((proberSystem 5000).run (.initial 5000 0 newBackends [0, 1]) sweepOfTwo).map
      (fun state => state.prober.result) = some (some (1, true)) := by
    decide +kernel
  rcases Option.map_eq_some_iff.mp ends with ⟨final, executed, current⟩
  refine ⟨final, executed, ?_⟩
  have pending : ∀ isHealthy, final.prober.result ≠ some (0, isHealthy) := by
    rw [current]
    exact nofun
  exact ((flag_is_latest_outcome executed).2 0 pending).trans (by decide +kernel)

/-! ## Only changes are written -/

/-- A result about to be written differs from the flag. -/
def Differs (state : ProbedState) : Prop :=
  ∀ {since : ℕ} {isHealthy : Bool} {backend : SharedBackend} {rest : List SharedBackend},
    state.prober = .probing since (.differing isHealthy) backend rest →
      state.pipeline.flags backend ≠ isHealthy

theorem Differs.step {state next : ProbedState} {step : ProberStep} (differs : Differs state)
    (stepped : proberStep intervalMs state step = some next) : Differs next := by
  intro since isHealthy backend rest probing
  cases proberStep_effect stepped with
  | elapsed ms => exact differs probing
  | ticked waiting due | agreed probed same | stored probed written flags =>
      have none := congrArg Prober.result probing
      rw [Prober.result_next] at none
      cases none
  | decided probed noted other quiet => cases probing
  | differed probed different =>
      cases probing
      exact different
  | traffic moved flags =>
      rw [flags]
      exact differs probing

/-- The changes of one flag along a run. -/
def changesOf (intervalMs : ℕ+) (start : ProbedState) (steps : List ProberStep)
    (backend : SharedBackend) : List Bool :=
  (proberSystem intervalMs).observed
    (fun state step => (state.change step).bind fun entry =>
      if entry.1 = backend then some entry.2 else none) start steps

/-- **Only changes are written.** The values written to a flag, each logged as a change,
alternate, and the first differs from what the flag was. -/
theorem written_flags_alternate {clock : ℕ} {heap : Heap} {table : List SharedBackend}
    {steps : List ProberStep} {final : ProbedState}
    (executed : (proberSystem intervalMs).run (.initial intervalMs clock heap table) steps =
      some final) (backend : SharedBackend) :
    List.IsChain (· ≠ ·)
      ((heap backend).healthy ::
        changesOf intervalMs (.initial intervalMs clock heap table) steps backend) := by
  have initially : Differs (.initial intervalMs clock heap table) := nofun
  apply @System.isChain_observed _ _ _ (proberSystem intervalMs) _
    (fun state => state.pipeline.flags backend) _ Differs
    (fun differs stepped => differs.step stepped) _ _ _ _ initially executed
  intro state next step differs stepped
  cases proberStep_effect stepped with
  | elapsed ms | ticked waiting due | differed probing different | agreed probing same => rfl
  | decided probing noted other quiet =>
      rw [quiet]
      rfl
  | traffic moved flags => exact congrFun flags backend
  | stored probing written flags =>
      simp only [ProbedState.change, probing, Prober.result, Option.bind_some]
      split
      · next none =>
          split at none
          · cases none
          · next different =>
              simp only [flags, Function.update_of_ne (Ne.symm different)]
      · next value some =>
          split at some
          · next same =>
              cases some
              subst same
              exact ⟨differs probing, by simp only [flags, Function.update_self]⟩
          · cases some

/-- A second sweep finds backend 0 reachable again. -/
def sweepsOfTwo : List ProberStep :=
  sweepOfTwo ++ [.compare, .elapse 5000, .tick, .connected true, .compare, .store]

/-- The flag of backend 0 is cleared by the first sweep and set by the second. -/
theorem written_flags_alternate_of_two :
    changesOf 5000 (.initial 5000 0 newBackends [0, 1]) sweepsOfTwo 0 = [false, true] ∧
      List.IsChain (· ≠ ·)
        (true :: changesOf 5000 (.initial 5000 0 newBackends [0, 1]) sweepsOfTwo 0) := by
  have enabled :
      ((proberSystem 5000).run (.initial 5000 0 newBackends [0, 1]) sweepsOfTwo).isSome := by
    decide +kernel
  rcases Option.isSome_iff_exists.mp enabled with ⟨final, executed⟩
  exact ⟨by decide +kernel, written_flags_alternate executed 0⟩

/-! ## One sweep -/

/-- Between two ticks each result is for the next backend of the snapshot. -/
theorem map_outcome_append_remaining {state next : ProbedState} {step : ProberStep}
    (other : step ≠ .tick) (stepped : proberStep intervalMs state step = some next) :
    (state.outcome step).toList.map Prod.fst ++ next.prober.remaining =
      state.prober.remaining := by
  cases proberStep_effect stepped with
  | elapsed ms | traffic moved flags => rfl
  | ticked waiting due => contradiction
  | decided probing noted other quiet =>
      rw [noted, probing]
      rfl
  | differed probing different =>
      rw [probing]
      rfl
  | agreed probing same | stored probing written flags =>
      rw [probing]
      exact Prober.remaining_next _ _

/-- A tick comes to a task that waits, and gives it the table. -/
theorem tick_effect {state next : ProbedState}
    (stepped : proberStep intervalMs state .tick = some next) :
    state.prober.result = none ∧ next.prober.remaining = state.pipeline.table := by
  cases proberStep_effect stepped with
  | ticked waiting due =>
      rw [waiting]
      exact ⟨rfl, Prober.remaining_next _ _⟩
  | decided probing noted other quiet => contradiction

/-- **A sweep probes the snapshot.** From one tick to the next wait, the task probes each
backend of the table as it was at the tick once, in order, whatever tables are installed
meanwhile; afterwards their flags are the results, and all other flags are as before. -/
theorem sweep_probes_snapshot {start final : ProbedState} {steps : List ProberStep} {since : ℕ}
    (executed : (proberSystem intervalMs).run start (.tick :: steps) = some final)
    (oneTick : .tick ∉ steps) (ended : final.prober = .waiting since) :
    (outcomes intervalMs start (.tick :: steps)).map Prod.fst = start.pipeline.table ∧
      ∀ backend, (final.pipeline.heap backend).healthy =
        (outcomesOf intervalMs start (.tick :: steps) backend).getLast?.getD
          (start.pipeline.heap backend).healthy := by
  rcases Option.bind_eq_some_iff.mp executed with ⟨ticked, stepped, rest⟩
  rcases tick_effect stepped with ⟨idle, snapshot⟩
  constructor
  · have runs := System.Runs.of_run_allowed rest fun step member (same : step = .tick) =>
      oneTick (same ▸ member)
    have swept := @System.map_observed_append_remaining _ _ _ _ ProbedState.outcome _ Prod.fst _
      (fun state => state.prober.remaining)
      (fun other stepped => map_outcome_append_remaining other stepped) _ _ _ runs
    rw [ended, snapshot, Prober.remaining, List.append_nil] at swept
    rw [outcomes, System.observed_cons stepped]
    exact swept
  · intro backend
    have believed := congrFun (believed_of_run executed) backend
    have idleAtStart : ∀ isHealthy, start.prober.result ≠ some (backend, isHealthy) := by
      rw [idle]
      exact nofun
    have idleAtEnd : ∀ isHealthy, final.prober.result ≠ some (backend, isHealthy) := by
      rw [ended]
      exact nofun
    rw [believed_of_settled idleAtEnd, foldl_setFlag, believed_of_settled idleAtStart] at believed
    exact believed

/-- The task waits for a tick that is due. -/
def aboutToSweep : ProbedState := ⟨.initial 0 newBackends [0, 1], 5000, 5000, .waiting 0⟩

/-- A sweep of two backends during which the table is replaced. -/
def sweepOfReplaced : List ProberStep :=
  [.connected false, .traffic (.updateBackends [2]), .compare, .store, .connected true, .compare]

/-- The backends probed are those of the table at the tick. -/
theorem sweep_probes_snapshot_replaced :
    ∃ final, (proberSystem 5000).run aboutToSweep (.tick :: sweepOfReplaced) = some final ∧
      (outcomes 5000 aboutToSweep (.tick :: sweepOfReplaced)).map Prod.fst = [0, 1] := by
  have ends : ((proberSystem 5000).run aboutToSweep (.tick :: sweepOfReplaced)).map
      ProbedState.prober = some (.waiting 5000) := by
    decide +kernel
  rcases Option.map_eq_some_iff.mp ends with ⟨final, executed, waits⟩
  exact ⟨final, executed, (sweep_probes_snapshot executed (by decide) waits).1⟩

/-! ## How soon a change is detected -/

/-- The longest time for one probe, when no `await` is resumed more than `latency` late. -/
def probeBudget (latency : ℕ) : ℕ := probeTimeoutMs + latency

/-- The latest end of the sweep in progress. -/
def Prober.sweepEnd (latency : ℕ) : Prober → ℕ
  | .waiting since => since
  | .probing since _ _ rest => since + probeBudget latency * (rest.length + 1)

theorem Prober.sweepEnd_next (latency nowMs : ℕ) (rest : List SharedBackend) :
    (Prober.next nowMs rest).sweepEnd latency = nowMs + probeBudget latency * rest.length := by
  cases rest <;> rfl

namespace ProbedState

/-- The latest time at which the task moves on. -/
def deadline (latency : ℕ) (state : ProbedState) : ℕ :=
  match state.prober with
  | .waiting since => max state.due since + latency
  | .probing since _ _ _ => since + probeBudget latency

/-- The latest time of the next tick. -/
def latestTick (latency : ℕ) (state : ProbedState) : ℕ :=
  max state.due (state.prober.sweepEnd latency) + latency

theorem deadline_le_latestTick (latency : ℕ) (state : ProbedState) :
    state.deadline latency ≤ state.latestTick latency := by
  rw [deadline, latestTick]
  cases state.prober with
  | waiting since => exact Nat.le_refl _
  | probing since stage backend rest =>
      have own : probeBudget latency ≤ probeBudget latency * (rest.length + 1) :=
        Nat.le_mul_of_pos_right _ (Nat.succ_pos _)
      simp only [Prober.sweepEnd]
      omega

end ProbedState

/-- Time does not pass beyond the point at which the task moves on. -/
def Prompt (latency : ℕ) (state : ProbedState) : ProberStep → Prop
  | .elapse ms => state.nowMs + ms ≤ state.deadline latency
  | _ => True

instance (latency : ℕ) (state : ProbedState) (step : ProberStep) :
    Decidable (Prompt latency state step) :=
  match step with
  | .elapse _ => Nat.decLe _ _
  | .tick | .connected _ | .timedOut | .compare | .store | .traffic _ => .isTrue trivial

/-- A backend that is reachable or not from a point in time on, and a bound on the number
of backends. -/
structure Reachability where
  changedAt : ℕ
  backend : SharedBackend
  reachable : Bool
  size : ℕ

namespace Reachability

variable (situation : Reachability)

/-- No table is larger than the bound; from the point in time on the backend is in the
table at each tick, and every attempt to connect to it that starts then ends as it
should. -/
structure Allows (state : ProbedState) (step : ProberStep) : Prop where
  size : step = .tick → state.pipeline.table.length ≤ situation.size
  present : step = .tick → situation.changedAt ≤ state.nowMs →
    situation.backend ∈ state.pipeline.table
  found : ∀ isHealthy, state.outcome step = some (situation.backend, isHealthy) →
    situation.changedAt ≤ state.prober.since → isHealthy = situation.reachable

instance (state : ProbedState) (step : ProberStep) : Decidable (situation.Allows state step) :=
  decidable_of_iff
    ((step = .tick → state.pipeline.table.length ≤ situation.size) ∧
      (step = .tick → situation.changedAt ≤ state.nowMs →
        situation.backend ∈ state.pipeline.table) ∧
      ∀ isHealthy, state.outcome step = some (situation.backend, isHealthy) →
        situation.changedAt ≤ state.prober.since → isHealthy = situation.reachable)
    ⟨fun allowed => ⟨allowed.1, allowed.2.1, allowed.2.2⟩,
      fun allowed => ⟨allowed.size, allowed.present, allowed.found⟩⟩

/-- The longest time for a sweep. -/
def sweepMs (latency : ℕ) : ℕ := probeBudget latency * situation.size

/-- The latest time of the first tick since the change. -/
def firstTick (intervalMs : ℕ+) (latency : ℕ) : ℕ :=
  situation.changedAt + max (intervalMs : ℕ) (situation.sweepMs latency) + latency

/-- The latest end of the first sweep since the change. -/
def detectedBy (intervalMs : ℕ+) (latency : ℕ) : ℕ :=
  situation.firstTick intervalMs latency + situation.sweepMs latency

/-- The task has arrived where it is on time, and with a true result, if it has one for the
backend. -/
structure OnTime (latency : ℕ) (state : ProbedState) : Prop where
  arrived : state.prober.since ≤ state.nowMs
  prompt : state.nowMs ≤ state.deadline latency
  truthful : ∀ isHealthy, state.prober.result = some (situation.backend, isHealthy) →
    situation.changedAt ≤ state.prober.since → isHealthy = situation.reachable

/-- How far the detection of the change has come. -/
inductive Detection (intervalMs : ℕ+) (latency : ℕ) (state : ProbedState) : Prop where
  /-- The first tick since the change is still to come. -/
  | awaited (bounded : state.latestTick latency ≤ situation.firstTick intervalMs latency)
  /-- The first sweep since the change has not come to the backend. -/
  | sweeping (started : situation.changedAt ≤ state.prober.since)
      (toCome : situation.backend ∈ state.prober.targets)
      (bounded : state.prober.sweepEnd latency ≤ situation.detectedBy intervalMs latency)
  /-- The flag is right. -/
  | detected (started : situation.changedAt ≤ state.prober.since)
      (flag : state.pipeline.flags situation.backend = situation.reachable)

variable {situation} {latency : ℕ} {state next : ProbedState} {step : ProberStep}

/-- The task goes on to the next backend, or to its next wait. -/
theorem OnTime.moved (arrived : state.nowMs = next.nowMs) {rest : List SharedBackend}
    (moved : next.prober = .next state.nowMs rest) : situation.OnTime latency next where
  arrived := by
    rw [moved, Prober.since_next, arrived]
  prompt := by
    rw [ProbedState.deadline, moved, arrived]
    cases rest with
    | nil => exact (Nat.le_max_right _ _).trans (Nat.le_add_right _ _)
    | cons backend rest => exact Nat.le_add_right _ _
  truthful := by
    rw [moved, Prober.result_next]
    exact nofun

theorem OnTime.preserved (onTime : situation.OnTime latency state) (prompt : Prompt latency state step)
    (allowed : situation.Allows state step)
    (stepped : proberStep intervalMs state step = some next) : situation.OnTime latency next := by
  cases proberStep_effect stepped with
  | elapsed ms => exact ⟨onTime.arrived.trans (Nat.le_add_right _ _), prompt, onTime.truthful⟩
  | ticked waiting due => exact .moved rfl rfl
  | decided probing noted other quiet =>
      rcases onTime with ⟨arrived, inTime, _⟩
      rw [ProbedState.deadline, probing] at inTime
      rw [probing] at arrived
      refine ⟨arrived, inTime, ?_⟩
      rintro isHealthy ⟨⟩ started
      exact allowed.found _ noted (by rw [probing]; exact started)
  | differed probing different =>
      rcases onTime with ⟨arrived, inTime, truthful⟩
      rw [ProbedState.deadline, probing] at inTime
      rw [probing] at arrived truthful
      exact ⟨arrived, inTime, truthful⟩
  | agreed probing same => exact .moved rfl rfl
  | stored probing written flags => exact .moved rfl rfl
  | traffic moved flags => exact ⟨onTime.arrived, onTime.prompt, onTime.truthful⟩

/-- A probe that is over has left its result in the flag of its backend. -/
theorem Detection.finished {since : ℕ} {stage : ProbeStage} {isHealthy : Bool}
    {backend : SharedBackend} {rest : List SharedBackend} {pipeline : PipelineState}
    (detection : situation.Detection intervalMs latency state)
    (onTime : situation.OnTime latency state)
    (probing : state.prober = .probing since stage backend rest)
    (known : state.prober.result = some (backend, isHealthy))
    (flags : pipeline.flags = Function.update state.pipeline.flags backend isHealthy) :
    situation.Detection intervalMs latency
      { state with pipeline, prober := .next state.nowMs rest } := by
  have ends : (Prober.next state.nowMs rest).sweepEnd latency ≤ state.prober.sweepEnd latency := by
    have inTime : state.nowMs ≤ since + probeBudget latency := by
      have prompt := onTime.prompt
      rw [ProbedState.deadline, probing] at prompt
      exact prompt
    rw [Prober.sweepEnd_next, probing, Prober.sweepEnd, Nat.mul_succ]
    omega
  -- A result for the backend itself is right if the probe started after the change.
  have own (same : backend = situation.backend) (started : situation.changedAt ≤ since) :
      pipeline.flags situation.backend = situation.reachable := by
    subst same
    rw [flags, Function.update_self]
    exact onTime.truthful isHealthy known (by rw [probing]; exact started)
  have later (started : situation.changedAt ≤ state.prober.since) :
      situation.changedAt ≤ (Prober.next state.nowMs rest).since := by
    rw [Prober.since_next]
    exact started.trans onTime.arrived
  cases detection with
  | awaited bounded =>
      apply Detection.awaited
      rw [ProbedState.latestTick] at bounded ⊢
      exact (Nat.add_le_add_right (max_le_max_left _ ends) _).trans bounded
  | sweeping started toCome bounded =>
      rw [probing] at toCome
      rcases List.mem_cons.mp toCome with same | member
      · exact .detected (later started) (own same.symm (by rw [probing] at started; exact started))
      · exact .sweeping (later started) (by rw [Prober.targets_next]; exact member)
          (ends.trans bounded)
  | detected started flag =>
      apply Detection.detected (later started)
      by_cases same : backend = situation.backend
      · exact own same (by rw [probing] at started; exact started)
      · rw [flags, Function.update_of_ne (Ne.symm same)]
        exact flag

theorem Detection.preserved (detection : situation.Detection intervalMs latency state)
    (onTime : situation.OnTime latency state) (allowed : situation.Allows state step)
    (stepped : proberStep intervalMs state step = some next) :
    situation.Detection intervalMs latency next := by
  cases proberStep_effect stepped with
  | elapsed ms =>
      cases detection with
      | awaited bounded => exact .awaited bounded
      | sweeping started toCome bounded => exact .sweeping started toCome bounded
      | detected started flag => exact .detected started flag
  | traffic moved flags =>
      cases detection with
      | awaited bounded => exact .awaited bounded
      | sweeping started toCome bounded => exact .sweeping started toCome bounded
      | detected started flag => exact .detected started (by rw [flags]; exact flag)
  | decided probing noted other quiet | differed probing different =>
      cases detection with
      | awaited bounded =>
          rw [ProbedState.latestTick, probing] at bounded
          exact .awaited bounded
      | sweeping started toCome bounded =>
          rw [probing] at started toCome bounded
          exact .sweeping started toCome bounded
      | detected started flag =>
          rw [probing] at started
          exact .detected started flag
  | agreed probing same =>
      apply detection.finished onTime probing (by rw [probing]; rfl)
      exact (Function.update_eq_self_iff.mpr same.symm).symm
  | stored probing written flags =>
      exact detection.finished onTime probing (by rw [probing]; rfl) flags
  | ticked waiting due =>
      have swept : probeBudget latency * state.pipeline.table.length ≤ situation.sweepMs latency :=
        Nat.mul_le_mul_left _ (allowed.size rfl)
      cases detection with
      | detected started flag =>
          refine .detected ?_ flag
          rw [Prober.since_next]
          exact started.trans onTime.arrived
      | sweeping started toCome bounded =>
          rw [waiting] at toCome
          cases toCome
      | awaited bounded =>
          have inTime := onTime.prompt.trans (state.deadline_le_latestTick latency)
          by_cases changed : situation.changedAt ≤ state.nowMs
          · apply Detection.sweeping
            · rw [Prober.since_next]
              exact changed
            · rw [Prober.targets_next]
              exact allowed.present rfl changed
            · rw [Prober.sweepEnd_next, detectedBy]
              exact Nat.add_le_add (inTime.trans bounded) swept
          · apply Detection.awaited
            simp only [ProbedState.latestTick, firstTick, Prober.sweepEnd_next]
            omega

end Reachability

/-- Once the time for it has passed, the flag is right. -/
theorem flag_of_late {latency : ℕ} {situation : Reachability} {clock : ℕ} {heap : Heap}
    {table : List SharedBackend} {steps : List ProberStep} {final : ProbedState}
    (runs : (proberSystem intervalMs).Runs
      (fun state step => Prompt latency state step ∧ situation.Allows state step)
      (.initial intervalMs clock heap table) steps final)
    (late : situation.detectedBy intervalMs latency < final.nowMs) :
    (final.pipeline.heap situation.backend).healthy = situation.reachable := by
  have kept : situation.OnTime latency final ∧ situation.Detection intervalMs latency final := by
    apply runs.invariant
    · intro state next step kept allowed stepped
      exact ⟨kept.1.preserved allowed.1 allowed.2 stepped,
        kept.2.preserved kept.1 allowed.2 stepped⟩
    · refine ⟨⟨Nat.le_refl _, Nat.zero_le _, nofun⟩, .awaited ?_⟩
      simp only [ProbedState.initial, ProbedState.latestTick, Prober.sweepEnd,
        Reachability.firstTick]
      omega
  rcases kept with ⟨onTime, detection⟩
  cases detection with
  | awaited bounded =>
      have inTime := onTime.prompt.trans (final.deadline_le_latestTick latency)
      rw [Reachability.detectedBy] at late
      omega
  | sweeping started toCome bounded =>
      have inTime := onTime.prompt
      rw [ProbedState.deadline] at inTime
      cases current : final.prober with
      | waiting since =>
          rw [current] at toCome
          cases toCome
      | probing since stage backend rest =>
          rw [current] at inTime bounded
          rw [Prober.sweepEnd, Nat.mul_succ] at bounded
          simp only at inTime
          omega
  | detected started flag => exact flag

/-- **Changes are detected in time.** Whatever the pipeline does meanwhile, a backend that
becomes unreachable, or reachable, has the right flag once a period and a sweep, or two
sweeps when they take longer than a period, have passed; an unreachable one is not
selected any more. -/
theorem reachability_is_detected {latency : ℕ} {situation : Reachability} {clock : ℕ} {heap : Heap}
    {table : List SharedBackend} {steps : List ProberStep} {final : ProbedState}
    (runs : (proberSystem intervalMs).Runs
      (fun state step => Prompt latency state step ∧ situation.Allows state step)
      (.initial intervalMs clock heap table) steps final)
    (late : situation.detectedBy intervalMs latency < final.nowMs) :
    (final.pipeline.heap situation.backend).healthy = situation.reachable ∧
      (situation.reachable = false →
        selectBestBackend final.pipeline.heap final.pipeline.clock final.pipeline.table ≠
          some situation.backend) := by
  have flag := flag_of_late runs late
  refine ⟨flag, fun unreachable selected => ?_⟩
  have healthy := (eligible_iff.mp (selectBestBackend_eligible selected)).1
  exact Bool.false_ne_true (unreachable.symm.trans (flag.symm.trans healthy))

/-- Backend 0 never accepts a connection. -/
def unreachableBackend : Reachability := ⟨0, 0, false, 1⟩

/-- Five seconds after the start the only backend is probed, in vain, and its flag is
written. -/
def probedInVain : List ProberStep :=
  [.elapse 5000, .tick, .elapse 1500, .timedOut, .compare, .store, .elapse 3500]

theorem reachability_is_detected_unreachable :
    ∃ final, (proberSystem 5000).Runs
        (fun state step => Prompt 0 state step ∧ unreachableBackend.Allows state step)
        (.initial 5000 0 newBackends [0]) probedInVain final ∧
      (final.pipeline.heap 0).healthy = false := by
  have ends : (((proberSystem 5000).restrict fun state step =>
      Prompt 0 state step ∧ unreachableBackend.Allows state step).run
        (.initial 5000 0 newBackends [0]) probedInVain).map ProbedState.nowMs = some 10000 := by
    decide +kernel
  rcases Option.map_eq_some_iff.mp ends with ⟨final, executed, time⟩
  have runs := System.Runs.of_run_restrict executed
  have late : unreachableBackend.detectedBy 5000 0 < final.nowMs := by
    rw [time]
    decide
  exact ⟨final, runs, (reachability_is_detected runs late).1⟩

end Vortex.Proxy
