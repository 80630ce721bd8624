import Vortex.Core.PeakEwma
import Vortex.Core.Routing
import Vortex.Lib.Transition

/-!
# The comparator of `select_healthy_backends` under concurrency

`sort_by` calls its comparator any number of times, on any pairs, and expects all
answers to fit one total order.  The comparator computes both scores afresh at every
call, from two atomics each, while other threads record latencies and count requests.

The answers of one sort fit one order as long as nothing the comparator has read is
changed before the sort ends.  A single latency recorded in between is enough to make
three of them contradict each other.
-/

namespace Vortex.Core

open Lib

/-! ## The model -/

/-- How far the current call of the comparator has come. -/
inductive Comparing where
  | idle
  | called (first second : SharedBackend)
  | readFirst (first second : SharedBackend) (ewma : ℚ)
  | scoredFirst (first second : SharedBackend) (scoreA : ℚ)
  | readSecond (first second : SharedBackend) (scoreA ewma : ℚ)
  deriving DecidableEq, Repr

/-- An answer of the comparator. -/
structure Answer where
  first : SharedBackend
  second : SharedBackend
  ordering : Ordering
  deriving DecidableEq, Repr

/-- A sort in progress: the shared backends, those being sorted, the current call of
the comparator and the answers so far. -/
structure SortState where
  heap : Heap
  sorted : List SharedBackend
  comparing : Comparing
  answers : List Answer

/-- The state in which a sort starts. -/
def SortState.start (heap : Heap) (sorted : List SharedBackend) : SortState where
  heap
  sorted
  comparing := .idle
  answers := []

/-- Atomic actions: the sort calls the comparator, the comparator loads its next
atomic, and what other threads do to the atomics. -/
inductive SortStep where
  | compare (first second : SharedBackend)
  | load
  | observeLatency (backend : SharedBackend) (rttMs : ℚ)
  | incrementActive (backend : SharedBackend)
  | dropGuard (backend : SharedBackend)
  deriving DecidableEq, Repr

/-- The score of a loaded average and a loaded count. -/
def scoreOf (ewma : ℚ) (active : ℕ) : ℚ := (ewma + 1) * (active + 1)

/-- Update the tracker of one backend. -/
def SortState.track (state : SortState) (backend : SharedBackend)
    (change : PeakEwma → PeakEwma) : SortState :=
  { state with
    heap := state.heap.modify backend fun shared => { shared with ewma := change shared.ewma } }

/-- The comparator loads its next atomic; after the last it answers. -/
def SortState.load (state : SortState) : Option SortState :=
  match state.comparing with
  | .idle => none
  | .called first second =>
      some { state with
        comparing := .readFirst first second (state.heap first).ewma.getEwma }
  | .readFirst first second ewma =>
      some { state with
        comparing := .scoredFirst first second
          (scoreOf ewma (state.heap first).ewma.activeRequests) }
  | .scoredFirst first second scoreA =>
      some { state with
        comparing := .readSecond first second scoreA (state.heap second).ewma.getEwma }
  | .readSecond first second scoreA ewma =>
      let scoreB := scoreOf ewma (state.heap second).ewma.activeRequests
      some { state with
        comparing := .idle
        answers := state.answers ++ [⟨first, second, compare scoreA scoreB⟩] }

/-- One atomic action. -/
def sortStep (state : SortState) : SortStep → Option SortState
  | .compare first second =>
      if state.comparing = .idle ∧ first ∈ state.sorted ∧ second ∈ state.sorted then
        some { state with comparing := .called first second }
      else none
  | .load => state.load
  | .observeLatency backend rttMs =>
      some (state.track backend fun tracker => tracker.observeLatency rttMs)
  | .incrementActive backend => some (state.track backend PeakEwma.incrementActive)
  | .dropGuard backend =>
      if 0 < (state.heap backend).ewma.activeRequests then
        some (state.track backend PeakEwma.dropGuard)
      else none

/-- A sort among other threads. -/
def sortSystem : System SortState SortStep := ⟨sortStep⟩

/-- The answers fit one total preorder on the backends being sorted. -/
def FitOneOrder (sorted : List SharedBackend) (answers : List Answer) : Prop :=
  ∃ le : SharedBackend → SharedBackend → Prop,
    (∀ first ∈ sorted, ∀ second ∈ sorted, le first second ∨ le second first) ∧
    (∀ first ∈ sorted, ∀ second ∈ sorted, ∀ third ∈ sorted,
      le first second → le second third → le first third) ∧
    ∀ answer ∈ answers,
      (answer.ordering ≠ .gt ↔ le answer.first answer.second) ∧
        (answer.ordering ≠ .lt ↔ le answer.second answer.first)

/-! ## What has been read -/

/-- The backends whose average the current call has loaded. -/
def Comparing.ewmasRead : Comparing → List SharedBackend
  | .idle => []
  | .called _ _ => []
  | .readFirst first _ _ => [first]
  | .scoredFirst first _ _ => [first]
  | .readSecond first second _ _ => [first, second]

/-- The backends whose count the current call has loaded. -/
def Comparing.countsRead : Comparing → List SharedBackend
  | .scoredFirst first _ _ => [first]
  | .readSecond first _ _ _ => [first]
  | _ => []

/-- The backends that have been compared. -/
def SortState.compared (state : SortState) : List SharedBackend :=
  state.answers.flatMap fun answer => [answer.first, answer.second]

/-- The backends whose average has been loaded in this sort. -/
def SortState.ewmasRead (state : SortState) : List SharedBackend :=
  state.compared ++ state.comparing.ewmasRead

/-- The backends whose count has been loaded in this sort. -/
def SortState.countsRead (state : SortState) : List SharedBackend :=
  state.compared ++ state.comparing.countsRead

/-- The action does not change an average or a count that the sort has loaded. -/
def LeavesRead (state : SortState) : SortStep → Prop
  | .observeLatency backend rttMs => backend ∈ state.ewmasRead →
      (state.heap backend).ewma.observeLatency rttMs = (state.heap backend).ewma
  | .incrementActive backend => backend ∉ state.countsRead
  | .dropGuard backend => backend ∉ state.countsRead
  | .compare _ _ => True
  | .load => True

/-! ## The invariant -/

/-- What the current call has loaded is what the atomics still hold. -/
def Comparing.Current (heap : Heap) : Comparing → Prop
  | .idle => True
  | .called _ _ => True
  | .readFirst first _ ewma => ewma = (heap first).ewma.ewma
  | .scoredFirst first _ scoreA => scoreA = score heap first
  | .readSecond first second scoreA ewma =>
      scoreA = score heap first ∧ ewma = (heap second).ewma.ewma

/-- Every answer is the comparison of the scores as they are now. -/
structure Frozen (state : SortState) : Prop where
  answers : ∀ answer ∈ state.answers,
    answer.ordering = compare (score state.heap answer.first) (score state.heap answer.second)
  comparing : state.comparing.Current state.heap

theorem frozen_start (heap : Heap) (sorted : List SharedBackend) :
    Frozen (.start heap sorted) where
  answers := by simp [SortState.start]
  comparing := trivial

theorem score_eq_scoreOf (heap : Heap) (backend : SharedBackend) :
    score heap backend = scoreOf (heap backend).ewma.ewma (heap backend).ewma.activeRequests :=
  rfl

/-- Answers that compare one scoring fit the order of the scores. -/
theorem Frozen.fitOneOrder {state : SortState} (frozen : Frozen state) :
    FitOneOrder state.sorted state.answers := by
  refine ⟨fun first second => score state.heap first ≤ score state.heap second, ?_, ?_, ?_⟩
  · intro first _ second _
    exact le_total _ _
  · intro first _ second _ third _
    exact le_trans
  · intro answer membership
    rw [frozen.answers answer membership]
    exact ⟨compare_le_iff_le, compare_ge_iff_ge⟩

theorem Frozen.load {state next : SortState} (frozen : Frozen state)
    (loaded : state.load = some next) : Frozen next := by
  have current := frozen.comparing
  cases progress : state.comparing with
  | idle => simp [SortState.load, progress] at loaded
  | called first second =>
      simp only [SortState.load, progress, Option.some.injEq] at loaded
      subst loaded
      exact ⟨frozen.answers, rfl⟩
  | readFirst first second ewma =>
      simp only [SortState.load, progress, Option.some.injEq] at loaded
      rw [progress] at current
      subst loaded
      refine ⟨frozen.answers, ?_⟩
      change scoreOf ewma _ = score state.heap first
      rw [current, score_eq_scoreOf]
  | scoredFirst first second scoreA =>
      simp only [SortState.load, progress, Option.some.injEq] at loaded
      rw [progress] at current
      subst loaded
      exact ⟨frozen.answers, current, rfl⟩
  | readSecond first second scoreA ewma =>
      simp only [SortState.load, progress, Option.some.injEq] at loaded
      rw [progress] at current
      rcases current with ⟨firstScore, secondEwma⟩
      subst loaded
      refine ⟨?_, trivial⟩
      intro answer membership
      rcases List.mem_append.mp membership with earlier | last
      · exact frozen.answers answer earlier
      · rw [List.mem_singleton.mp last]
        dsimp only
        rw [firstScore, secondEwma, ← score_eq_scoreOf]

/-! ## The other threads -/

section Track

variable {state : SortState} {backend : SharedBackend} {change : PeakEwma → PeakEwma}

theorem track_other {other : SharedBackend} (different : other ≠ backend) :
    (state.track backend change).heap other = state.heap other :=
  Function.update_of_ne different _ _

theorem track_self :
    ((state.track backend change).heap backend).ewma = change (state.heap backend).ewma := by
  simp [SortState.track, Heap.modify]

/-- A change that leaves a loaded average alone leaves all of them alone. -/
theorem ewma_track
    (kept : backend ∈ state.ewmasRead →
      (change (state.heap backend).ewma).ewma = (state.heap backend).ewma.ewma)
    {other : SharedBackend} (read : other ∈ state.ewmasRead) :
    ((state.track backend change).heap other).ewma.ewma = (state.heap other).ewma.ewma := by
  rcases Decidable.eq_or_ne other backend with rfl | different
  · rw [track_self, kept read]
  · rw [track_other different]

theorem activeRequests_track
    (kept : backend ∈ state.countsRead →
      (change (state.heap backend).ewma).activeRequests =
        (state.heap backend).ewma.activeRequests)
    {other : SharedBackend} (read : other ∈ state.countsRead) :
    ((state.track backend change).heap other).ewma.activeRequests =
      (state.heap other).ewma.activeRequests := by
  rcases Decidable.eq_or_ne other backend with rfl | different
  · rw [track_self, kept read]
  · rw [track_other different]

theorem Frozen.track (frozen : Frozen state)
    (ewmaKept : backend ∈ state.ewmasRead →
      (change (state.heap backend).ewma).ewma = (state.heap backend).ewma.ewma)
    (countKept : backend ∈ state.countsRead →
      (change (state.heap backend).ewma).activeRequests =
        (state.heap backend).ewma.activeRequests) :
    Frozen (state.track backend change) := by
  have scoreKept : ∀ {other}, other ∈ state.ewmasRead → other ∈ state.countsRead →
      score (state.track backend change).heap other = score state.heap other := by
    intro other ewmaRead countRead
    rw [score_eq_scoreOf, ewma_track ewmaKept ewmaRead, activeRequests_track countKept countRead,
      score_eq_scoreOf]
  constructor
  · intro answer membership
    have compared : ∀ other ∈ [answer.first, answer.second], other ∈ state.compared := by
      intro other either
      exact List.mem_flatMap.mpr ⟨answer, membership, either⟩
    have unchanged : ∀ other ∈ [answer.first, answer.second],
        score (state.track backend change).heap other = score state.heap other := by
      intro other either
      exact scoreKept (List.mem_append_left _ (compared other either))
        (List.mem_append_left _ (compared other either))
    rw [unchanged answer.first (by simp), unchanged answer.second (by simp)]
    exact frozen.answers answer membership
  · have current := frozen.comparing
    change state.comparing.Current (state.track backend change).heap
    -- What the current call has loaded is among what has been read.
    have ewmaRead : ∀ other ∈ state.comparing.ewmasRead, other ∈ state.ewmasRead := by
      intro other read
      exact List.mem_append_right _ read
    have countRead : ∀ other ∈ state.comparing.countsRead, other ∈ state.countsRead := by
      intro other read
      exact List.mem_append_right _ read
    cases progress : state.comparing with
    | idle => trivial
    | called first second => trivial
    | readFirst first second ewma =>
        rw [progress] at current ewmaRead
        exact current.trans (ewma_track ewmaKept (ewmaRead first List.mem_cons_self)).symm
    | scoredFirst first second scoreA =>
        rw [progress] at current ewmaRead countRead
        exact current.trans (scoreKept (ewmaRead first List.mem_cons_self)
          (countRead first List.mem_cons_self)).symm
    | readSecond first second scoreA ewma =>
        rw [progress] at current ewmaRead countRead
        refine ⟨current.1.trans ?_, current.2.trans ?_⟩
        · exact (scoreKept (ewmaRead first List.mem_cons_self)
            (countRead first List.mem_cons_self)).symm
        · exact (ewma_track ewmaKept (ewmaRead second (by simp [Comparing.ewmasRead]))).symm

end Track

/-- An action that changes nothing loaded keeps the invariant. -/
theorem Frozen.step {state next : SortState} {step : SortStep} (frozen : Frozen state)
    (leaves : LeavesRead state step) (stepped : sortStep state step = some next) :
    Frozen next := by
  cases step with
  | compare first second =>
      rw [sortStep] at stepped
      split at stepped
      · cases stepped
        exact ⟨frozen.answers, trivial⟩
      · cases stepped
  | load => exact frozen.load stepped
  | observeLatency backend rttMs =>
      cases stepped
      apply frozen.track
      · intro read
        exact congrArg PeakEwma.ewma (leaves read)
      · intro _
        rfl
  | incrementActive backend =>
      cases stepped
      exact frozen.track (fun _ => rfl) fun read => absurd read leaves
  | dropGuard backend =>
      rw [sortStep] at stepped
      split at stepped
      · cases stepped
        exact frozen.track (fun _ => rfl) fun read => absurd read leaves
      · cases stepped

/-- **One sort, one order.** In every run in which no action changes an average or a
count that the sort has already loaded, the answers of the comparator fit one total
preorder, whatever pairs the sort asks about. -/
theorem sort_answers_fit_one_order {heap : Heap} {sorted : List SharedBackend}
    {steps : List SortStep} {state : SortState}
    (runs : sortSystem.Runs LeavesRead (.start heap sorted) steps state) :
    FitOneOrder state.sorted state.answers :=
  (runs.invariant Frozen.step (frozen_start heap sorted)).fitOneOrder

/-- A call of the comparator without interference compares the two scores. -/
theorem run_compare {state : SortState} {first second : SharedBackend}
    (idle : state.comparing = .idle) (firstSorted : first ∈ state.sorted)
    (secondSorted : second ∈ state.sorted) :
    sortSystem.run state [.compare first second, .load, .load, .load, .load] =
      some { state with
        answers := state.answers ++
          [⟨first, second, compare (score state.heap first) (score state.heap second)⟩] } := by
  simp [System.run, sortSystem, sortStep, SortState.load, idle, firstSorted, secondSorted,
    score_eq_scoreOf, PeakEwma.getEwma]

/-- The comparator without interference is the one `select_healthy_backends` sorts
by. -/
theorem selectHealthyBackends_eq_compare (heap : Heap) (now : ℕ) (table : List SharedBackend) :
    selectHealthyBackends heap now table =
      (table.filter (eligible heap now)).mergeSort fun first second =>
        decide (compare (score heap first) (score heap second) ≠ .gt) := by
  simp only [compare_le_iff_le]
  rfl

/-! ## Three backends -/

/-- Three backends: two as new, with an average of 50, and one that has come down to
an average of 40. -/
def threeBackends : Heap
  | 2 => { Backend.new ⟨3⟩ ⟨.v4 ⟨⟨127, 0, 0, 1⟩⟩, 8082⟩ with ewma := .new 40 (1 / 2) }
  | _ => Backend.new ⟨1⟩ ⟨.v4 ⟨⟨127, 0, 0, 1⟩⟩, 8080⟩

/-- An insertion sort of the three, with a latency recorded for the third backend after
its first question and before the third is compared. -/
def insertionSort : List SortStep :=
  [.compare 1 0, .load, .load, .load, .load, .observeLatency 2 10,
    .compare 2 1, .load, .load, .load, .load, .compare 2 0, .load, .load, .load, .load]

/-- The latency is recorded for a backend the sort has not loaded yet, so its three
answers fit one order. -/
theorem sort_answers_fit_one_order_pair :
    ∃ state, sortSystem.Runs LeavesRead (.start threeBackends [0, 1, 2]) insertionSort state ∧
      FitOneOrder state.sorted state.answers := by
  have reached :
      ∃ state, sortSystem.Runs LeavesRead (.start threeBackends [0, 1, 2]) insertionSort
        state := by
    refine ⟨_, .cons trivial rfl <| .cons trivial rfl <| .cons trivial rfl <|
      .cons trivial rfl <| .cons trivial rfl <| .cons ?_ rfl <| .cons trivial rfl <|
      .cons trivial rfl <| .cons trivial rfl <| .cons trivial rfl <| .cons trivial rfl <|
      .cons trivial rfl <| .cons trivial rfl <| .cons trivial rfl <| .cons trivial rfl <|
      .cons trivial rfl <| .nil _⟩
    intro read
    exact absurd read (by decide)
  rcases reached with ⟨state, runs⟩
  exact ⟨state, runs, sort_answers_fit_one_order runs⟩

/-- What an insertion sort of the three asks, with one latency recorded before its
last question: the second is as good as the first, the third is better than the
second, and the third is worse than the first. -/
theorem sort_answers_contradict :
    ∃ state, sortSystem.run (.start threeBackends [0, 1, 2])
        [.compare 1 0, .load, .load, .load, .load, .compare 2 1, .load, .load, .load, .load,
          .observeLatency 0 10, .compare 2 0, .load, .load, .load, .load] = some state ∧
      ¬FitOneOrder state.sorted state.answers := by
  have reached : (sortSystem.run (.start threeBackends [0, 1, 2])
      [.compare 1 0, .load, .load, .load, .load, .compare 2 1, .load, .load, .load, .load,
        .observeLatency 0 10, .compare 2 0, .load, .load, .load, .load]).map
          (fun state => (state.sorted, state.answers)) =
        some ([0, 1, 2], [⟨1, 0, .eq⟩, ⟨2, 1, .lt⟩, ⟨2, 0, .gt⟩]) := by
    decide +kernel
  rcases Option.map_eq_some_iff.mp reached with ⟨state, executed, observed⟩
  refine ⟨state, executed, ?_⟩
  intro fits
  rw [(Prod.mk.inj observed).1, (Prod.mk.inj observed).2] at fits
  rcases fits with ⟨le, _, transitive, agree⟩
  have secondFirst : le 1 0 := (agree ⟨1, 0, .eq⟩ (by simp)).1.mp (by decide)
  have thirdSecond : le 2 1 := (agree ⟨2, 1, .lt⟩ (by simp)).1.mp (by decide)
  have thirdFirst := transitive 2 (by simp) 1 (by simp) 0 (by simp) thirdSecond secondFirst
  exact absurd rfl ((agree ⟨2, 0, .gt⟩ (by simp)).1.mpr thirdFirst)

end Vortex.Core
