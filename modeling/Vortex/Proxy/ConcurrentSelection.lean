import Vortex.Core.SelectScan
import Vortex.Proxy.BackendEvents

/-!
# Selection while others are served

The pipeline selects a backend in one action.  Here a new request goes through the table
load by load, beside the pipeline: between two of its loads other requests select, fail
and return, probes set flags, and the table may be replaced.
-/

namespace Vortex.Proxy

open Vortex.Core Lib

/-- The atomics in a state. -/
def PipelineState.atomics (state : PipelineState) : Atomics :=
  atomicsOf state.heap state.clock state.table

/-- The score in terms of the atomics. -/
theorem PipelineState.score_eq (state : PipelineState) (backend : SharedBackend) :
    score state.heap backend =
      (state.atomics.ewma backend + 1) * (state.atomics.activeRequests backend + 1) :=
  rfl

/-- The pipeline and a scan. -/
def scanSystem :
    System (PipelineState × Loads (Option SharedBackend)) (Option PipelineStep) :=
  pipelineSystem.beside PipelineState.atomics

/-- The pipeline is in the state at some moment of the scan. -/
def Passes (start : PipelineState) (steps : List (Option PipelineStep)) (state : PipelineState) :
    Prop :=
  pipelineSystem.Visits start steps.reduceOption state

/-- The atomics have these values at some moment of the scan. -/
def OccursDuring (start : PipelineState) (steps : List (Option PipelineStep)) (store : Atomics) :
    Prop :=
  ∃ state, Passes start steps state ∧ state.atomics = store

/-- **Selection is right up to what changes meanwhile.** Whatever the pipeline does during
a scan, the scan goes through the table of one moment.  If it finds nothing, each backend
of that table was unhealthy, or seen open, at some moment.  If it finds a backend, that
one was healthy, and seen closed or half open, at some moment, and its score exceeds that
of any backend that could not be stopped by at most the drift of the scores, times the
length of the table. -/
theorem concurrent_selection {start final : PipelineState} {steps : List (Option PipelineStep)}
    {answer : Option SharedBackend}
    (executed : scanSystem.run (start, loadBestBackend) steps = some (final, .ends answer))
    {low : SharedBackend → ℚ} {drift : ℚ} (drifts : Drift (OccursDuring start steps) low drift) :
    ∃ snapshot, Passes start steps snapshot ∧
      (answer = none → ∀ backend ∈ snapshot.table,
        SeenFailing (OccursDuring start steps) backend) ∧
      ∀ chosen, answer = some chosen →
        chosen ∈ snapshot.table ∧ SeenPassing (OccursDuring start steps) chosen ∧
          ∀ other ∈ snapshot.table, ¬SeenFailing (OccursDuring start steps) other →
            ∀ state later, Passes start steps state → Passes start steps later →
              score state.heap chosen ≤
                score later.heap other + drift * snapshot.table.length := by
  have answers := System.answers_of_beside executed
  rcases scanned_of_answers drifts answers with ⟨_, ⟨snapshot, visited, rfl⟩, scanned⟩
  refine ⟨snapshot, visited, ?_, ?_⟩
  · rintro rfl
    exact scanned
  · rintro chosen rfl
    refine ⟨scanned.listed, scanned.passed, ?_⟩
    intro other listed unstopped state later passes passesLater
    have near := scanned.near other listed unstopped
    have seen : OccursDuring start steps state.atomics := ⟨state, passes, rfl⟩
    have seenLater : OccursDuring start steps later.atomics := ⟨later, passesLater, rfl⟩
    have upper := drifts.upper chosen seen seen
    have lower := drifts.lower other seenLater seenLater
    rw [state.score_eq, later.score_eq]
    change low chosen ≤ low other + drift * ((snapshot.table.length : ℚ) - 1) at near
    linarith

/-- A scan of two backends; after its first three loads another request selects the
first of them. -/
def overtakenScan : List (Option PipelineStep) :=
  [none, none, none, some .select, none, none, none, none, none, none]

/-- During that scan every average is 50, and at most one request is in flight. -/
theorem overtakenScan_drift :
    Drift (OccursDuring (.initial 0 newBackends [0, 1]) overtakenScan) (fun _ => 51) 51 := by
  have seen : ∀ state, Passes (.initial 0 newBackends [0, 1]) overtakenScan state →
      ∀ backend, (state.heap backend).ewma.ewma = 50 ∧
        (state.heap backend).ewma.activeRequests ≤ 1 := by
    rintro state ⟨earlier, later, parts, reached⟩ backend
    have selects : overtakenScan.reduceOption = [.select] := rfl
    rw [selects] at parts
    cases earlier with
    | nil =>
        cases reached
        exact ⟨rfl, Nat.zero_le 1⟩
    | cons first rest =>
        rcases List.cons.inj parts with ⟨rfl, nothing⟩
        rw [(List.append_eq_nil_iff.mp nothing.symm).1] at reached
        have chosen : selectBestBackend newBackends 0 [0, 1] = some 0 := by decide +kernel
        have started : pipelineSystem.run (.initial 0 newBackends [0, 1]) [.select] =
            some ((PipelineState.initial 0 newBackends [0, 1]).start 0) := by
          simp only [System.run, pipelineSystem, pipelineStep, PipelineState.initial, chosen]
          rfl
        cases started.symm.trans reached
        rw [PipelineState.start_heap, Heap.modify, Function.update_apply]
        split
        · exact ⟨rfl, Nat.le_refl 1⟩
        · exact ⟨rfl, Nat.zero_le 1⟩
  constructor
  · rintro _ _ backend ⟨first, passes, rfl⟩ ⟨second, passesLater, rfl⟩
    have average : first.atomics.ewma backend = 50 := (seen first passes backend).1
    rw [average]
    have count : (0 : ℚ) ≤ second.atomics.activeRequests backend := Nat.cast_nonneg _
    linarith
  · rintro _ _ backend ⟨first, passes, rfl⟩ ⟨second, passesLater, rfl⟩
    have average : first.atomics.ewma backend = 50 := (seen first passes backend).1
    rw [average]
    have count : (second.atomics.activeRequests backend : ℚ) ≤ 1 := by
      exact_mod_cast (seen second passesLater backend).2
    linarith

/-- The request goes to the second backend. -/
theorem concurrent_selection_overtaken :
    ∃ final, scanSystem.run (.initial 0 newBackends [0, 1], loadBestBackend) overtakenScan =
        some (final, .ends (some 1)) ∧
      ∃ snapshot, Passes (.initial 0 newBackends [0, 1]) overtakenScan snapshot ∧
        1 ∈ snapshot.table := by
  have ends : (scanSystem.run (.initial 0 newBackends [0, 1], loadBestBackend)
      overtakenScan).map (fun state => state.2.answered) = some (some (some 1)) := by
    decide +kernel
  rcases Option.map_eq_some_iff.mp ends with ⟨⟨final, scan⟩, executed, ended⟩
  cases Reader.eq_ends_of_answered ended
  rcases concurrent_selection executed overtakenScan_drift with ⟨snapshot, passes, _, found⟩
  exact ⟨final, executed, snapshot, passes, (found 1 rfl).1⟩

end Vortex.Proxy
