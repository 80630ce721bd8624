import Mathlib.Algebra.Order.Ring.Rat
import Mathlib.Tactic.Linarith
import Vortex.Core.Routing
import Vortex.Lib.Reader

/-!
# `select_best_backend`, load by load

The selection goes once through a snapshot of the table.  Of each backend it loads the
flag and, as far as needed, the numbers of the breaker and the time; a backend that
passes is compared with the best so far, and for that the scores of both are computed
afresh, from two atomics each.  Other threads write to all of these meanwhile.

An undisturbed scan is the selection that the rest of the development uses.  A disturbed
one may take a backend that is not the best at any moment, but it is off by no more than
the scores moved during the scan, once for each comparison.
-/

namespace Vortex.Core

open Lib

/-- What the selection loads: the table, the atomics of a backend, and the clock. -/
inductive Atomic where
  | backends
  | healthy (backend : SharedBackend)
  | failures (backend : SharedBackend)
  | lastFailureTime (backend : SharedBackend)
  | systemTime
  | ewma (backend : SharedBackend)
  | activeRequests (backend : SharedBackend)
  deriving DecidableEq, Repr

/-- What an atomic holds. -/
abbrev Atomic.Value : Atomic → Type
  | .backends => List SharedBackend
  | .healthy _ => Bool
  | .failures _ => UInt64
  | .lastFailureTime _ => ℕ
  | .systemTime => ℕ
  | .ewma _ => ℚ
  | .activeRequests _ => ℕ

/-- The values of all atomics at one moment. -/
abbrev Atomics := ∀ atomic : Atomic, atomic.Value

namespace Atomics

variable (store : Atomics) (backend : SharedBackend)

abbrev backends : List SharedBackend := store .backends

abbrev healthy : Bool := store (.healthy backend)

abbrev failures : UInt64 := store (.failures backend)

abbrev lastFailureTime : ℕ := store (.lastFailureTime backend)

abbrev systemTime : ℕ := store .systemTime

abbrev ewma : ℚ := store (.ewma backend)

abbrev activeRequests : ℕ := store (.activeRequests backend)

end Atomics

/-- The atomics of a heap and a table, at a time. -/
def atomicsOf (heap : Heap) (now : ℕ) (table : List SharedBackend) : Atomics
  | .backends => table
  | .healthy backend => (heap backend).healthy
  | .failures backend => (heap backend).circuitBreaker.failures
  | .lastFailureTime backend => (heap backend).circuitBreaker.lastFailureTime
  | .systemTime => now
  | .ewma backend => (heap backend).ewma.ewma
  | .activeRequests backend => (heap backend).ewma.activeRequests

/-! ## The loads -/

/-- Code that loads atomics. -/
abbrev Loads := Reader Atomic Atomic.Value

/-- `is_healthy`. -/
def loadHealthy (backend : SharedBackend) : Loads Bool := .loads (.healthy backend) .ends

/-- `CircuitBreaker::state`. -/
def loadState (backend : SharedBackend) : Loads CircuitState :=
  .loads (.failures backend) fun failures : UInt64 =>
    if failures < failureThreshold then .ends .closed
    else
      .loads (.lastFailureTime backend) fun lastFailure : ℕ =>
        .loads .systemTime fun now : ℕ =>
          .ends (if now > lastFailure + resetTimeoutSecs then .halfOpen else .opened)

/-- The filter. -/
def loadEligible (backend : SharedBackend) : Loads Bool :=
  (loadHealthy backend).bind fun isHealthy =>
    if isHealthy then (loadState backend).bind fun state => .ends (state != .opened)
    else .ends false

/-- `calculate_score`. -/
def loadScore (backend : SharedBackend) : Loads ℚ :=
  .loads (.ewma backend) fun ewma : ℚ =>
    .loads (.activeRequests backend) fun active : ℕ => .ends ((ewma + 1) * (active + 1))

/-- The comparison of `min_by`, which keeps the first of two equals. -/
def loadMin (best backend : SharedBackend) : Loads SharedBackend :=
  (loadScore best).bind fun scoreA =>
    (loadScore backend).bind fun scoreB =>
      .ends (if compare scoreA scoreB = .gt then backend else best)

/-- `min_by` takes the first backend as it is and compares the others. -/
def loadLeast (best : Option SharedBackend) (backend : SharedBackend) :
    Loads (Option SharedBackend) :=
  match best with
  | none => .ends (some backend)
  | some first => (loadMin first backend).bind fun least => .ends (some least)

/-- One backend in the loop of `filter` and `min_by`. -/
def loadNext (best : Option SharedBackend) (backend : SharedBackend) :
    Loads (Option SharedBackend) :=
  (loadEligible backend).bind fun isEligible =>
    if isEligible then loadLeast best backend else .ends best

/-- `select_best_backend`. -/
def loadBestBackend : Loads (Option SharedBackend) :=
  .loads .backends fun table : List SharedBackend => .foldl loadNext none table

/-! ## Without interference -/

section Undisturbed

variable (heap : Heap) (now : ℕ) (table : List SharedBackend)

theorem evaluate_loadEligible (backend : SharedBackend) :
    (loadEligible backend).evaluate (atomicsOf heap now table) = eligible heap now backend := by
  have state : (loadState backend).evaluate (atomicsOf heap now table) =
      breakerState heap now backend := by
    rw [breakerState, CircuitBreaker.state]
    change Reader.evaluate _ (if (heap backend).circuitBreaker.failures < failureThreshold then _
      else _) = _
    split
    · rfl
    · rfl
  rw [loadEligible, Reader.evaluate_bind, eligible]
  change Reader.evaluate _ (if (heap backend).healthy = true then _ else _) = _
  cases (heap backend).healthy with
  | false => rfl
  | true =>
      rw [if_pos rfl, Reader.evaluate_bind, state, Bool.true_and]
      rfl

theorem evaluate_loadNext (best : Option SharedBackend) (backend : SharedBackend) :
    (loadNext best backend).evaluate (atomicsOf heap now table) =
      if eligible heap now backend then
        List.argAux (fun first second => score heap first < score heap second) best backend
      else best := by
  rw [loadNext, Reader.evaluate_bind, evaluate_loadEligible]
  cases eligible heap now backend with
  | false => rfl
  | true =>
      cases best with
      | none => rfl
      | some best =>
          rw [if_pos rfl, if_pos rfl, List.argAux]
          change some (if compare (score heap best) (score heap backend) = .gt then backend
            else best) = if score heap backend < score heap best then some backend else some best
          simp only [compare_gt_iff_gt, apply_ite some]

theorem evaluate_loadBestBackend :
    loadBestBackend.evaluate (atomicsOf heap now table) = selectBestBackend heap now table := by
  change Reader.evaluate _ (Reader.foldl loadNext none table) =
    (table.filter (eligible heap now)).foldl
      (List.argAux fun first second => score heap first < score heap second) none
  simp only [Reader.evaluate_foldl, evaluate_loadNext, List.foldl_filter]

end Undisturbed

/-- **A scan that nobody disturbs is the atomic selection.** -/
theorem undisturbed_scan (heap : Heap) (now : ℕ) (table : List SharedBackend)
    (answer : Option SharedBackend) :
    loadBestBackend.Answers (· = atomicsOf heap now table) answer ↔
      selectBestBackend heap now table = answer := by
  rw [Reader.answers_eq_iff, evaluate_loadBestBackend]

/-! ## Among other threads -/

section Disturbed

variable (occurs : Atomics → Prop)

/-- The filter can have let the backend pass. -/
structure SeenPassing (backend : SharedBackend) : Prop where
  flag : ∃ store, occurs store ∧ store.healthy backend = true
  breaker : (∃ counts, occurs counts ∧ counts.failures backend < failureThreshold) ∨
    ∃ times clocks, occurs times ∧ occurs clocks ∧
      times.lastFailureTime backend + resetTimeoutSecs < clocks.systemTime

/-- The filter can have stopped the backend. -/
inductive SeenFailing (backend : SharedBackend) : Prop where
  | unhealthy {store : Atomics} (occurred : occurs store) (flag : store.healthy backend = false)
  | opened {counts times clocks : Atomics} (counted : occurs counts) (timed : occurs times)
      (read : occurs clocks) (reached : failureThreshold ≤ counts.failures backend)
      (recent : clocks.systemTime ≤ times.lastFailureTime backend + resetTimeoutSecs)

/-- A score, wherever its two factors are loaded, is at least `low` and at most `drift`
more. -/
structure Drift (low : SharedBackend → ℚ) (drift : ℚ) : Prop where
  lower : ∀ {averages counts : Atomics} (backend : SharedBackend), occurs averages →
    occurs counts → low backend ≤ (averages.ewma backend + 1) * (counts.activeRequests backend + 1)
  upper : ∀ {averages counts : Atomics} (backend : SharedBackend), occurs averages →
    occurs counts →
      (averages.ewma backend + 1) * (counts.activeRequests backend + 1) ≤ low backend + drift

/-- The best of the backends so far: it can have passed, and it is at most one drift for
each comparison above any backend that cannot have been stopped. -/
structure NearBest (low : SharedBackend → ℚ) (drift : ℚ) (past : List SharedBackend)
    (chosen : SharedBackend) : Prop where
  listed : chosen ∈ past
  passed : SeenPassing occurs chosen
  near : ∀ other ∈ past, ¬SeenFailing occurs other →
    low chosen ≤ low other + drift * (past.length - 1)

/-- What the scan of some backends can have found. -/
def Scanned (low : SharedBackend → ℚ) (drift : ℚ) (past : List SharedBackend) :
    Option SharedBackend → Prop
  | none => ∀ backend ∈ past, SeenFailing occurs backend
  | some chosen => NearBest occurs low drift past chosen

variable {occurs} {low : SharedBackend → ℚ} {drift : ℚ} {backend : SharedBackend}

/-- What a state says of the loads that it was computed from. -/
theorem loadState_answers {state : CircuitState}
    (answers : (loadState backend).Answers occurs state) :
    (state ≠ .opened ∧ ∃ counts : Atomics, occurs counts ∧
        counts.failures backend < failureThreshold) ∨
      ∃ counts times clocks : Atomics, occurs counts ∧ occurs times ∧ occurs clocks ∧
        failureThreshold ≤ counts.failures backend ∧
        (state = .opened ↔
          clocks.systemTime ≤ times.lastFailureTime backend + resetTimeoutSecs) := by
  rcases answers with ⟨counts, counted, rest⟩
  beta_reduce at rest
  split at rest
  · next below =>
      cases rest
      exact .inl ⟨nofun, counts, counted, below⟩
  · next reached =>
      rcases rest with ⟨times, timed, clocks, read, rfl⟩
      refine .inr ⟨counts, times, clocks, counted, timed, read, UInt64.not_lt.mp reached, ?_⟩
      split
      · next late => exact ⟨nofun, fun recent => absurd recent (Nat.not_le.mpr late)⟩
      · next recent => exact ⟨fun _ => Nat.not_lt.mp recent, fun _ => rfl⟩

theorem loadEligible_true (answers : (loadEligible backend).Answers occurs true) :
    SeenPassing occurs backend := by
  rcases Reader.answers_bind.mp answers with ⟨isHealthy, ⟨store, occurred, flag⟩, rest⟩
  cases isHealthy with
  | false => cases rest
  | true =>
      rcases Reader.answers_bind.mp rest with ⟨state, loaded, decided⟩
      have passing : state ≠ .opened := bne_iff_ne.mp decided
      refine ⟨⟨store, occurred, flag⟩, ?_⟩
      rcases loadState_answers loaded with
        ⟨_, closed⟩ | ⟨counts, times, clocks, _, timed, read, _, state⟩
      · exact .inl closed
      · exact .inr ⟨times, clocks, timed, read, Nat.not_le.mp fun recent => passing (state.mpr recent)⟩

theorem loadEligible_false (answers : (loadEligible backend).Answers occurs false) :
    SeenFailing occurs backend := by
  rcases Reader.answers_bind.mp answers with ⟨isHealthy, ⟨store, occurred, flag⟩, rest⟩
  cases isHealthy with
  | false => exact .unhealthy occurred flag
  | true =>
      rcases Reader.answers_bind.mp rest with ⟨state, loaded, decided⟩
      have stopped : state = .opened := bne_eq_false_iff_eq.mp decided
      rcases loadState_answers loaded with
        ⟨passing, _⟩ | ⟨counts, times, clocks, counted, timed, read, reached, state⟩
      · exact absurd stopped passing
      · exact .opened counted timed read reached (state.mp stopped)

theorem Drift.nonneg (drifts : Drift occurs low drift) {store : Atomics}
    (occurred : occurs store) : 0 ≤ drift := by
  have bounds := (drifts.lower 0 occurred occurred).trans (drifts.upper 0 occurred occurred)
  linarith

/-- A loaded score is within the drift. -/
theorem Drift.loadScore (drifts : Drift occurs low drift) {score : ℚ}
    (answers : (loadScore backend).Answers occurs score) :
    low backend ≤ score ∧ score ≤ low backend + drift := by
  rcases answers with ⟨averages, averaged, counts, counted, rfl⟩
  exact ⟨drifts.lower backend averaged counted, drifts.upper backend averaged counted⟩

/-- The loser of a comparison is at most one drift better than the winner. -/
theorem Drift.loadMin (drifts : Drift occurs low drift) {best least : SharedBackend}
    (answers : (loadMin best backend).Answers occurs least) :
    least = best ∧ low best ≤ low backend + drift ∨
      least = backend ∧ low backend ≤ low best + drift := by
  rcases Reader.answers_bind.mp answers with ⟨scoreA, first, rest⟩
  rcases Reader.answers_bind.mp rest with ⟨scoreB, second, decided⟩
  rcases drifts.loadScore first with ⟨lowerA, upperA⟩
  rcases drifts.loadScore second with ⟨lowerB, upperB⟩
  simp only [Reader.Answers, compare_gt_iff_gt] at decided
  split at decided
  · next heavier => exact .inr ⟨decided.symm, by linarith⟩
  · next lighter => exact .inl ⟨decided.symm, by linarith⟩

/-- The best of some backends and one more. -/
theorem NearBest.concat {past : List SharedBackend} {best : SharedBackend}
    (listed : best ∈ past ++ [backend]) (passed : SeenPassing occurs best)
    (earlier : ∀ other ∈ past, ¬SeenFailing occurs other →
      low best ≤ low other + drift * past.length)
    (last : ¬SeenFailing occurs backend → low best ≤ low backend + drift * past.length) :
    NearBest occurs low drift (past ++ [backend]) best := by
  have comparisons : ((past ++ [backend]).length : ℚ) - 1 = past.length := by simp
  refine ⟨listed, passed, fun other member unstopped => ?_⟩
  rw [comparisons]
  rcases List.mem_append.mp member with inPast | isLast
  · exact earlier other inPast unstopped
  · cases List.mem_singleton.mp isLast
    exact last unstopped

/-- The filter stops the backend or lets it pass; then it is the first, or it is compared
with the best so far. -/
theorem Scanned.loadNext (drifts : Drift occurs low drift) {past : List SharedBackend}
    {best next : Option SharedBackend} (scanned : Scanned occurs low drift past best)
    (answers : (loadNext best backend).Answers occurs next) :
    Scanned occurs low drift (past ++ [backend]) next := by
  rcases Reader.answers_bind.mp answers with ⟨isEligible, tested, rest⟩
  cases best with
  | none =>
      cases isEligible with
      | false =>
          cases rest
          exact List.forall_mem_append.mpr
            ⟨scanned, List.forall_mem_singleton.mpr (loadEligible_false tested)⟩
      | true =>
          cases rest
          have passed := loadEligible_true tested
          rcases passed.flag with ⟨store, occurred, _⟩
          apply NearBest.concat (List.mem_append_right _ (List.mem_singleton_self _)) passed
          · intro other member unstopped
            exact absurd (scanned other member) unstopped
          · intro _
            have nonneg := mul_nonneg (drifts.nonneg occurred) (Nat.cast_nonneg past.length)
            linarith
  | some best =>
      rcases scanned.passed.flag with ⟨store, occurred, _⟩
      have nonneg : 0 ≤ drift := drifts.nonneg occurred
      have atLeastOne : drift ≤ drift * past.length := by
        apply le_mul_of_one_le_right nonneg
        exact_mod_cast List.length_pos_of_mem scanned.listed
      -- The best so far has one comparison less behind it.
      have near : ∀ other ∈ past, ¬SeenFailing occurs other →
          low best + drift ≤ low other + drift * past.length := by
        intro other member unstopped
        have bound := scanned.near other member unstopped
        linarith
      cases isEligible with
      | false =>
          cases rest
          apply NearBest.concat (List.mem_append_left _ scanned.listed) scanned.passed
          · intro other member unstopped
            linarith [near other member unstopped]
          · exact absurd (loadEligible_false tested)
      | true =>
          rcases Reader.answers_bind.mp rest with ⟨least, compared, rfl⟩
          rcases drifts.loadMin compared with ⟨rfl, better⟩ | ⟨rfl, better⟩
          · apply NearBest.concat (List.mem_append_left _ scanned.listed) scanned.passed
            · intro other member unstopped
              linarith [near other member unstopped]
            · intro _
              linarith
          · apply NearBest.concat (List.mem_append_right _ (List.mem_singleton_self _))
              (loadEligible_true tested)
            · intro other member unstopped
              linarith [near other member unstopped]
            · intro _
              linarith

/-- What a scan can answer, whatever the other threads do meanwhile. -/
theorem scanned_of_answers (drifts : Drift occurs low drift) {answer : Option SharedBackend}
    (answers : loadBestBackend.Answers occurs answer) :
    ∃ store : Atomics, occurs store ∧ Scanned occurs low drift store.backends answer := by
  rcases answers with ⟨store, occurred, rest⟩
  refine ⟨store, occurred, ?_⟩
  apply Reader.Answers.foldl_induction _ _ rest
  · exact List.forall_mem_nil _
  · intro past best backend next scanned stepped
    exact scanned.loadNext drifts stepped

end Disturbed

end Vortex.Core
