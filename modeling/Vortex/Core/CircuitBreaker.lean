import Mathlib.Algebra.Group.Nat.Defs
import Mathlib.Data.List.DropRight
import Mathlib.Data.Nat.Notation

/-!
# The circuit breaker

`CircuitBreaker` keeps a failure counter and the instant of the latest failure
that reached the threshold.  Its state is not stored: it is computed from the two
numbers and the clock whenever it is asked for.

The counter is a machine word and wraps.  Instants are whole seconds since the
epoch, so the sum with the timeout stays far from the width of a word and is
taken exactly.

The two numbers say of the calls made so far how many failures there have been
since the last success and, from the threshold on, when the latest one was.
-/

namespace Vortex.Core

/-- `FAILURE_THRESHOLD`. -/
def failureThreshold : UInt64 := 5

/-- `RESET_TIMEOUT_SECS`. -/
def resetTimeoutSecs : ℕ := 30

/-- `CircuitState`, with `opened` for `Open`. -/
inductive CircuitState where
  | closed
  | opened
  | halfOpen
  deriving DecidableEq, Repr

/-- `CircuitBreaker`. -/
structure CircuitBreaker where
  failures : UInt64
  lastFailureTime : ℕ
  deriving DecidableEq, Repr

namespace CircuitBreaker

/-- `CircuitBreaker::new`. -/
def new : CircuitBreaker where
  failures := 0
  lastFailureTime := 0

/-- `state`, with the clock reading `now`. -/
def state (breaker : CircuitBreaker) (now : ℕ) : CircuitState :=
  if breaker.failures < failureThreshold then .closed
  else if now > breaker.lastFailureTime + resetTimeoutSecs then .halfOpen
  else .opened

/-- `record_success`. -/
def recordSuccess (_breaker : CircuitBreaker) : CircuitBreaker where
  failures := 0
  lastFailureTime := 0

/-- `record_failure`, with the clock reading `now`. -/
def recordFailure (breaker : CircuitBreaker) (now : ℕ) : CircuitBreaker :=
  if breaker.failures + 1 ≥ failureThreshold then
    { failures := breaker.failures + 1, lastFailureTime := now }
  else
    { breaker with failures := breaker.failures + 1 }

/-- `failure_count`. -/
def failureCount (breaker : CircuitBreaker) : UInt64 := breaker.failures

/-- `is_open`, with the clock reading `now`. -/
def isOpen (breaker : CircuitBreaker) (now : ℕ) : Bool :=
  match breaker.state now with
  | .opened => true
  | _ => false

@[simp] theorem failureCount_recordSuccess (breaker : CircuitBreaker) :
    breaker.recordSuccess.failureCount = 0 := rfl

@[simp] theorem failureCount_recordFailure (breaker : CircuitBreaker) (now : ℕ) :
    (breaker.recordFailure now).failureCount = breaker.failureCount + 1 := by
  unfold recordFailure failureCount
  split <;> rfl

theorem lastFailureTime_recordFailure {breaker : CircuitBreaker}
    (reached : failureThreshold ≤ breaker.failureCount + 1) (now : ℕ) :
    (breaker.recordFailure now).lastFailureTime = now := by
  unfold recordFailure
  exact congrArg lastFailureTime (if_pos reached)

theorem isOpen_iff (breaker : CircuitBreaker) (now : ℕ) :
    breaker.isOpen now = true ↔ breaker.state now = .opened := by
  rw [isOpen]
  cases breaker.state now <;> decide

/-- The breaker is open from the threshold on, until the timeout has passed. -/
theorem state_eq_opened_iff (breaker : CircuitBreaker) (now : ℕ) :
    breaker.state now = .opened ↔
      failureThreshold ≤ breaker.failures ∧
        now ≤ breaker.lastFailureTime + resetTimeoutSecs := by
  unfold state
  split
  · rename_i below
    simp [UInt64.not_le.mpr below]
  · rename_i reached
    rw [UInt64.not_lt] at reached
    split <;> simp_all

/-- The breaker is half open from the threshold on, after the timeout. -/
theorem state_eq_halfOpen_iff (breaker : CircuitBreaker) (now : ℕ) :
    breaker.state now = .halfOpen ↔
      failureThreshold ≤ breaker.failures ∧
        breaker.lastFailureTime + resetTimeoutSecs < now := by
  unfold state
  split
  · rename_i below
    simp [UInt64.not_le.mpr below]
  · rename_i reached
    rw [UInt64.not_lt] at reached
    split <;> simp_all

/-- A breaker that has just recorded a failure is not half open. -/
theorem recordFailure_state_ne_halfOpen (breaker : CircuitBreaker) (now : ℕ) :
    (breaker.recordFailure now).state now ≠ .halfOpen := by
  rw [Ne, state_eq_halfOpen_iff]
  intro halfOpen
  rcases halfOpen with ⟨reached, late⟩
  unfold recordFailure at reached late
  split at late
  · exact absurd late (Nat.not_lt.mpr (Nat.le_add_right now resetTimeoutSecs))
  · rename_i below
    rw [if_neg below] at reached
    exact below reached

/-- Time does not close a half-open breaker. -/
theorem halfOpen_mono {breaker : CircuitBreaker} {now later : ℕ}
    (halfOpen : breaker.state now = .halfOpen) (order : now ≤ later) :
    breaker.state later = .halfOpen := by
  rw [state_eq_halfOpen_iff] at halfOpen ⊢
  exact ⟨halfOpen.1, Nat.lt_of_lt_of_le halfOpen.2 order⟩

end CircuitBreaker

/-! ## What the calls made so far mean -/

/-- A complete call, with the clock reading of a failure. -/
inductive BreakerReport where
  | success
  | failure (now : ℕ)
  deriving DecidableEq, Repr

namespace BreakerReport

/-- The call reports a failure. -/
def isFailure : BreakerReport → Bool
  | .success => false
  | .failure _ => true

/-- The clock reading of a failure. -/
def failureTime : BreakerReport → Option ℕ
  | .success => none
  | .failure now => some now

end BreakerReport

/-- Perform a call. -/
def CircuitBreaker.perform (breaker : CircuitBreaker) : BreakerReport → CircuitBreaker
  | .success => breaker.recordSuccess
  | .failure now => breaker.recordFailure now

/-- A new breaker after calls that do not overlap. -/
def runReports (reports : List BreakerReport) : CircuitBreaker :=
  reports.foldl CircuitBreaker.perform .new

/-- The failures since the last success, or since the start. -/
def failuresSince (reports : List BreakerReport) : ℕ :=
  (reports.rtakeWhile BreakerReport.isFailure).length

/-- The clock reading at the latest failure. -/
def latestFailure (reports : List BreakerReport) : Option ℕ :=
  (reports.filterMap BreakerReport.failureTime).getLast?

section History

variable (reports : List BreakerReport) (report : BreakerReport) (now : ℕ)

@[simp] theorem runReports_concat :
    runReports (reports ++ [report]) = (runReports reports).perform report := by
  simp [runReports]

@[simp] theorem failuresSince_concat :
    failuresSince (reports ++ [report]) =
      if report.isFailure then failuresSince reports + 1 else 0 := by
  rw [failuresSince, List.rtakeWhile_concat]
  split
  · rw [List.length_append]
    rfl
  · rfl

@[simp] theorem latestFailure_concat_failure :
    latestFailure (reports ++ [.failure now]) = some now := by
  simp [latestFailure, BreakerReport.failureTime]

/-- The counter is the number of failures since the last success, in a machine
word. -/
theorem failures_runReports :
    (runReports reports).failures = .ofNat (failuresSince reports) := by
  induction reports using List.reverseRecOn with
  | nil => rfl
  | append_singleton reports report ih =>
      rw [runReports_concat, failuresSince_concat]
      cases report with
      | success => rfl
      | failure now =>
          change ((runReports reports).recordFailure now).failureCount = _
          rw [CircuitBreaker.failureCount_recordFailure, CircuitBreaker.failureCount, ih]
          simp [BreakerReport.isFailure]

end History

section Fits

variable {reports : List BreakerReport}

theorem threshold_le_iff (fits : failuresSince reports < 2 ^ 64) :
    failureThreshold ≤ (runReports reports).failures ↔ 5 ≤ failuresSince reports := by
  rw [UInt64.le_iff_toNat_le, failures_runReports, UInt64.toNat_ofNat_of_lt' fits]
  rfl

/-- From the threshold on, the time kept is that of the latest failure. -/
theorem latestFailure_runReports (fits : failuresSince reports < 2 ^ 64)
    (reached : 5 ≤ failuresSince reports) :
    latestFailure reports = some (runReports reports).lastFailureTime := by
  have counted := (threshold_le_iff fits).mpr reached
  cases reports using List.reverseRecOn with
  | nil => cases reached
  | append_singleton reports report =>
      cases report with
      | success =>
          rw [failuresSince_concat] at reached
          cases reached
      | failure now =>
          rw [runReports_concat] at counted
          change failureThreshold ≤ ((runReports reports).recordFailure now).failureCount at counted
          rw [CircuitBreaker.failureCount_recordFailure] at counted
          rw [latestFailure_concat_failure, runReports_concat, CircuitBreaker.perform,
            CircuitBreaker.lastFailureTime_recordFailure counted]

end Fits

/-- After any calls that do not overlap, whatever the order of their clock
readings: the count is the number of failures since the last success, the breaker
is closed below five of them, and from five on it is open until 30 seconds after
the latest failure and half open later. -/
theorem breaker_computes_history {reports : List BreakerReport}
    (fits : failuresSince reports < 2 ^ 64) (now : ℕ) :
    (runReports reports).failureCount.toNat = failuresSince reports ∧
      (failuresSince reports < 5 → (runReports reports).state now = .closed) ∧
      (5 ≤ failuresSince reports → ∃ latest, latestFailure reports = some latest ∧
        (runReports reports).state now = if now ≤ latest + 30 then .opened else .halfOpen) ∧
      ((runReports reports).isOpen now = true ↔ (runReports reports).state now = .opened) := by
  refine ⟨?_, ?_, ?_, ?_⟩
  · rw [CircuitBreaker.failureCount, failures_runReports, UInt64.toNat_ofNat_of_lt' fits]
  · intro below
    rw [← Nat.not_le, ← threshold_le_iff fits, UInt64.not_le] at below
    rw [CircuitBreaker.state, if_pos below]
  · intro reached
    refine ⟨_, latestFailure_runReports fits reached, ?_⟩
    rw [← threshold_le_iff fits, ← UInt64.not_lt] at reached
    rw [CircuitBreaker.state, if_neg reached]
    split
    · next late => exact (if_neg (Nat.not_le.mpr late)).symm
    · next early => exact (if_pos (Nat.not_lt.mp early)).symm
  · exact CircuitBreaker.isOpen_iff _ _

/-- Four failures, a success, five failures with readings out of order: open up to
30 seconds after the last of them, then half open. -/
theorem breaker_computes_history_tripped :
    let reports : List BreakerReport :=
      [.failure 90, .failure 91, .failure 92, .failure 93, .success, .failure 107, .failure 106,
        .failure 105, .failure 104, .failure 100]
    failuresSince reports < 2 ^ 64 ∧ (runReports reports).failureCount.toNat = 5 ∧
      (∃ latest, latestFailure reports = some latest ∧
        (runReports reports).state 130 = if 130 ≤ latest + 30 then .opened else .halfOpen) ∧
      (runReports reports).state 130 = .opened ∧ (runReports reports).state 131 = .halfOpen := by
  intro reports
  have fits : failuresSince reports < 2 ^ 64 := by decide
  rcases breaker_computes_history fits 130 with ⟨count, _, tripped, _⟩
  exact ⟨fits, count, tripped (by decide), by decide, by decide⟩

end Vortex.Core
