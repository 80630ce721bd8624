import Vortex.Core.Routing
import Mathlib.Tactic.Linarith

/-!
# Greedy balance

Routing a request increments the in-flight count of the backend with the least
score, and the count is a factor of the score.  While requests only arrive, the
score a backend had before its last request is therefore at most the score any
other eligible backend has now.
-/

namespace Vortex.Core

open Lib

/-- `select_best_backend` followed by `increment_active` on the backend it
returns. -/
def routeNext (table : List SharedBackend) (heap : Heap) (now : ℕ) : Heap :=
  match selectBestBackend heap now table with
  | some backend => heap.modify backend fun b => { b with ewma := b.ewma.incrementActive }
  | none => heap

/-- One request after another, each at its own second; none completes. -/
def routeAll (table : List SharedBackend) (heap : Heap) (times : List ℕ) : Heap :=
  times.foldl (routeNext table) heap

/-- The latency estimate of a backend. -/
def latency (heap : Heap) (backend : SharedBackend) : ℚ := (heap backend).ewma.ewma

/-- The number of requests in flight to a backend. -/
def active (heap : Heap) (backend : SharedBackend) : ℕ := (heap backend).ewma.activeRequests

/-- A backend of the table that is eligible whenever a request arrives, with a
latency that is not negative, and that starts without a request in flight. -/
structure Contender (table : List SharedBackend) (heap : Heap) (times : List ℕ)
    (backend : SharedBackend) : Prop where
  listed : backend ∈ table
  eligible : ∀ now ∈ times, eligible heap now backend = true
  nonneg : 0 ≤ latency heap backend
  idle : active heap backend = 0

/-- The score of `first` before its last request is at most the score of
`second`. -/
def Balanced (heap : Heap) (first second : SharedBackend) : Prop :=
  (latency heap first + 1) * active heap first ≤
    (latency heap second + 1) * (active heap second + 1)

section Step

variable (table : List SharedBackend) (heap : Heap) (now : ℕ) (backend : SharedBackend)

theorem routeNext_apply :
    routeNext table heap now backend =
      if selectBestBackend heap now table = some backend then
        { heap backend with ewma := (heap backend).ewma.incrementActive }
      else heap backend := by
  unfold routeNext
  cases selectBestBackend heap now table with
  | none => simp
  | some chosen =>
      rcases Decidable.eq_or_ne backend chosen with rfl | different
      · simp [Heap.modify]
      · simp [Heap.modify, different, different.symm]

@[simp] theorem latency_routeNext :
    latency (routeNext table heap now) backend = latency heap backend := by
  rw [latency, routeNext_apply]
  split <;> rfl

theorem active_routeNext :
    active (routeNext table heap now) backend =
      if selectBestBackend heap now table = some backend then active heap backend + 1
      else active heap backend := by
  rw [active, routeNext_apply]
  split <;> rfl

@[simp] theorem eligible_routeNext (later : ℕ) :
    eligible (routeNext table heap now) later backend = eligible heap later backend := by
  rw [eligible, breakerState, routeNext_apply]
  split <;> rfl

variable {table heap now}

/-- The selected backend has the least score among the eligible ones. -/
theorem score_le_of_selected {chosen other : SharedBackend}
    (selected : selectBestBackend heap now table = some chosen) (listed : other ∈ table)
    (otherEligible : eligible heap now other = true) :
    (latency heap chosen + 1) * (active heap chosen + 1) ≤
      (latency heap other + 1) * (active heap other + 1) :=
  List.le_of_mem_argmin (List.mem_filter.mpr ⟨listed, otherEligible⟩) selected

/-- A backend that is not eligible receives nothing. -/
theorem routeNext_of_ineligible {backend : SharedBackend}
    (ineligible : eligible heap now backend = false) :
    routeNext table heap now backend = heap backend := by
  rw [routeNext_apply, if_neg]
  intro selected
  have chosenEligible := selectBestBackend_eligible selected
  rw [ineligible] at chosenEligible
  cases chosenEligible

/-- One request keeps two eligible backends balanced. -/
theorem Balanced.routeNext {first second : SharedBackend} (balanced : Balanced heap first second)
    (nonneg : 0 ≤ latency heap second) (listed : second ∈ table)
    (secondEligible : eligible heap now second = true) :
    Balanced (routeNext table heap now) first second := by
  have grows : active heap second ≤ active (Core.routeNext table heap now) second := by
    rw [active_routeNext]
    split <;> omega
  have wider : (latency heap second + 1) * (active heap second + 1) ≤
      (latency heap second + 1) * (active (Core.routeNext table heap now) second + 1) := by
    gcongr
  simp only [Balanced, latency_routeNext] at balanced ⊢
  refine le_trans ?_ wider
  rw [active_routeNext]
  split
  · next selected =>
      push_cast
      exact score_le_of_selected selected listed secondEligible
  · exact balanced

end Step

section Run

variable {table : List SharedBackend} {heap : Heap} {times : List ℕ}

@[simp] theorem latency_routeAll (backend : SharedBackend) :
    latency (routeAll table heap times) backend = latency heap backend := by
  induction times generalizing heap with
  | nil => rfl
  | cons now times ih =>
      rw [routeAll, List.foldl_cons, ← routeAll, ih, latency_routeNext]

theorem Balanced.routeAll {first second : SharedBackend} (balanced : Balanced heap first second)
    (nonneg : 0 ≤ latency heap second) (listed : second ∈ table)
    (secondEligible : ∀ now ∈ times, eligible heap now second = true) :
    Balanced (routeAll table heap times) first second := by
  induction times generalizing heap with
  | nil => exact balanced
  | cons now times ih =>
      apply ih (balanced.routeNext nonneg listed (secondEligible now List.mem_cons_self))
      · rwa [latency_routeNext]
      · intro later membership
        rw [eligible_routeNext]
        exact secondEligible later (List.mem_cons_of_mem _ membership)

theorem Contender.balanced {first second : SharedBackend}
    (firstContender : Contender table heap times first)
    (secondContender : Contender table heap times second) :
    Balanced (Core.routeAll table heap times) first second := by
  have nonneg := secondContender.nonneg
  apply Balanced.routeAll _ nonneg secondContender.listed secondContender.eligible
  rw [Balanced, firstContender.idle]
  push_cast
  rw [mul_zero]
  positivity

theorem routeAll_of_ineligible {backend : SharedBackend}
    (ineligible : ∀ now ∈ times, eligible heap now backend = false) :
    routeAll table heap times backend = heap backend := by
  induction times generalizing heap with
  | nil => rfl
  | cons now times ih =>
      have rest : ∀ later ∈ times, eligible (routeNext table heap now) later backend = false := by
        intro later membership
        rw [eligible_routeNext]
        exact ineligible later (List.mem_cons_of_mem _ membership)
      rw [routeAll, List.foldl_cons, ← routeAll, ih rest]
      exact routeNext_of_ineligible (ineligible now List.mem_cons_self)

end Run

/-- While requests only arrive, any two backends that stay eligible are balanced;
with equal latencies their counts differ by at most one; a backend that is never
eligible receives nothing. -/
theorem routing_balanced (table : List SharedBackend) (heap : Heap) (times : List ℕ) :
    (∀ first second, Contender table heap times first → Contender table heap times second →
        Balanced (routeAll table heap times) first second ∧
          (latency heap first = latency heap second →
            active (routeAll table heap times) first ≤
              active (routeAll table heap times) second + 1)) ∧
      ∀ backend, (∀ now ∈ times, eligible heap now backend = false) →
        routeAll table heap times backend = heap backend := by
  refine ⟨?_, fun _ => routeAll_of_ineligible⟩
  intro first second firstContender secondContender
  have balanced := firstContender.balanced secondContender
  refine ⟨balanced, ?_⟩
  intro same
  have positive : 0 < latency heap second + 1 := by linarith [secondContender.nonneg]
  rw [Balanced, latency_routeAll, latency_routeAll, same] at balanced
  exact_mod_cast le_of_mul_le_mul_left balanced positive

/-- Three requests one second after a backend has tripped: the two others share
them, and it receives none. -/
theorem routing_balanced_three :
    Balanced (routeAll [0, 1, 2] trippedHeap [101, 101, 101]) 1 2 ∧
      active (routeAll [0, 1, 2] trippedHeap [101, 101, 101]) 1 ≤
        active (routeAll [0, 1, 2] trippedHeap [101, 101, 101]) 2 + 1 ∧
      routeAll [0, 1, 2] trippedHeap [101, 101, 101] 0 = trippedHeap 0 := by
  rcases routing_balanced [0, 1, 2] trippedHeap [101, 101, 101] with ⟨pairs, excluded⟩
  have first : Contender [0, 1, 2] trippedHeap [101, 101, 101] 1 :=
    ⟨by decide, by decide, by decide +kernel, rfl⟩
  have second : Contender [0, 1, 2] trippedHeap [101, 101, 101] 2 :=
    ⟨by decide, by decide, by decide +kernel, rfl⟩
  rcases pairs 1 2 first second with ⟨balanced, counts⟩
  exact ⟨balanced, counts rfl, excluded 0 (by decide)⟩

end Vortex.Core
