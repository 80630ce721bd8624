import Vortex.Core.CircuitBreaker
import Vortex.Lib.Transition
import Mathlib.Logic.Function.Basic

/-!
# The circuit breaker under concurrency

`failures` and `last_failure_time` are separate atomics, and both
`record_failure` and `record_success` touch them one after the other.  Here each
atomic access and each clock reading is one action, any number of calls may be
halfway through, and all actions interleave.

Besides the two atomics a state remembers the second of the latest `fetch_add`
since `failures` was last set to zero.  The code keeps no such record; it is
what `last_failure_time` is meant to reflect once all calls have returned.
-/

namespace Vortex.Core

open Lib

/-- Where a call in progress is. -/
inductive BreakerCall where
  /-- `record_failure` has reached the threshold and not yet read the clock. -/
  | counted
  /-- `record_failure` is about to store the second it has read. -/
  | read (now : ℕ)
  /-- `record_success` has cleared `failures` and not yet the time. -/
  | cleared
  deriving DecidableEq, Repr

/-- The atomics, the clock, the calls in progress, and the second of the latest
`fetch_add` since `failures` was last set to zero. -/
structure BreakerState where
  clock : ℕ
  breaker : CircuitBreaker
  calls : ℕ → Option BreakerCall
  lastAdd : Option ℕ

/-- Atomic actions; each belongs to the call it names. -/
inductive BreakerStep where
  /-- Time passes. -/
  | advance (elapsed : ℕ)
  /-- `record_failure`: `failures.fetch_add(1)`. -/
  | fetchAdd (call : ℕ)
  /-- `record_failure`: `SystemTime::now()`. -/
  | readClock (call : ℕ)
  /-- `record_failure`: `last_failure_time.store(now)`. -/
  | storeTime (call : ℕ)
  /-- `record_success`: `failures.store(0)`. -/
  | clearFailures (call : ℕ)
  /-- `record_success`: `last_failure_time.store(0)`. -/
  | clearTime (call : ℕ)
  deriving DecidableEq, Repr

namespace BreakerState

/-- A new breaker, before the first call. -/
def initial (clock : ℕ) : BreakerState where
  clock
  breaker := .new
  calls := fun _ => none
  lastAdd := none

/-- No call is in progress. -/
def Quiescent (state : BreakerState) : Prop := ∀ call, state.calls call = none

/-- A call moves to its next point, or returns. -/
def moveCall (state : BreakerState) (call : ℕ) (point : Option BreakerCall) : BreakerState :=
  { state with calls := Function.update state.calls call point }

/-- `fetch_add`; below the threshold the call returns at once. -/
def fetchAdd (state : BreakerState) (call : ℕ) : BreakerState :=
  let counted : BreakerState :=
    { state with
      breaker := { state.breaker with failures := state.breaker.failures + 1 }
      lastAdd := some state.clock }
  if state.breaker.failures + 1 ≥ failureThreshold then counted.moveCall call (some .counted)
  else counted

/-- `last_failure_time.store(value)`, after which either kind of call returns. -/
def storeTime (state : BreakerState) (call value : ℕ) : BreakerState :=
  { state with breaker := { state.breaker with lastFailureTime := value } }.moveCall call none

/-- `failures.store(0)`. -/
def clearFailures (state : BreakerState) (call : ℕ) : BreakerState :=
  { state with
    breaker := { state.breaker with failures := 0 }
    lastAdd := none }.moveCall call (some .cleared)

end BreakerState

/-- One action of a call. -/
def breakerStep (state : BreakerState) : BreakerStep → Option BreakerState
  | .advance elapsed => some { state with clock := state.clock + elapsed }
  | .fetchAdd call =>
      match state.calls call with
      | none => some (state.fetchAdd call)
      | some _ => none
  | .readClock call =>
      match state.calls call with
      | some .counted => some (state.moveCall call (some (.read state.clock)))
      | _ => none
  | .storeTime call =>
      match state.calls call with
      | some (.read now) => some (state.storeTime call now)
      | _ => none
  | .clearFailures call =>
      match state.calls call with
      | none => some (state.clearFailures call)
      | some _ => none
  | .clearTime call =>
      match state.calls call with
      | some .cleared => some (state.storeTime call 0)
      | _ => none

/-- The breaker as a transition system. -/
def breakerSystem : System BreakerState BreakerStep where
  step := breakerStep

/-! ## Calls that run alone -/

/-- The actions of an undisturbed `record_failure`. -/
def failureSteps (breaker : CircuitBreaker) (call : ℕ) : List BreakerStep :=
  if breaker.failures + 1 ≥ failureThreshold then
    [.fetchAdd call, .readClock call, .storeTime call]
  else [.fetchAdd call]

/-- Undisturbed, the actions of `record_failure` perform it. -/
theorem run_failureSteps {state : BreakerState} {call : ℕ}
    (free : state.calls call = none) :
    ∃ next, breakerSystem.run state (failureSteps state.breaker call) = some next ∧
      next.breaker = state.breaker.recordFailure state.clock ∧ next.calls = state.calls := by
  unfold failureSteps CircuitBreaker.recordFailure
  split
  · rename_i reached
    refine ⟨((state.fetchAdd call).moveCall call (some (.read state.clock))).storeTime call
      state.clock, ?_, ?_, ?_⟩
    · simp [System.run, breakerSystem, breakerStep, free, BreakerState.fetchAdd, reached,
        BreakerState.moveCall]
    · simp [BreakerState.fetchAdd, reached, BreakerState.moveCall, BreakerState.storeTime]
    · simp [BreakerState.fetchAdd, reached, BreakerState.moveCall, BreakerState.storeTime,
        ← free]
  · rename_i below
    refine ⟨state.fetchAdd call, ?_, ?_, ?_⟩
    · simp [System.run, breakerSystem, breakerStep, free]
    · simp [BreakerState.fetchAdd, below]
    · simp [BreakerState.fetchAdd, below]

/-- Undisturbed, the actions of `record_success` perform it. -/
theorem run_successSteps {state : BreakerState} {call : ℕ}
    (free : state.calls call = none) :
    ∃ next, breakerSystem.run state [.clearFailures call, .clearTime call] = some next ∧
      next.breaker = state.breaker.recordSuccess ∧ next.calls = state.calls := by
  refine ⟨(state.clearFailures call).storeTime call 0, ?_, rfl, ?_⟩
  · simp [System.run, breakerSystem, breakerStep, free, BreakerState.clearFailures,
      BreakerState.moveCall]
  · simp [BreakerState.clearFailures, BreakerState.storeTime, BreakerState.moveCall, ← free]

/-! ## What one action can do -/

/-- The effects of an action that is enabled. -/
inductive BreakerEffect (state : BreakerState) : BreakerStep → BreakerState → Prop where
  | advanced (elapsed : ℕ) :
      BreakerEffect state (.advance elapsed) { state with clock := state.clock + elapsed }
  | added {call : ℕ} (free : state.calls call = none) :
      BreakerEffect state (.fetchAdd call) (state.fetchAdd call)
  | clockRead {call : ℕ} (counted : state.calls call = some .counted) :
      BreakerEffect state (.readClock call) (state.moveCall call (some (.read state.clock)))
  | timeStored {call now : ℕ} (read : state.calls call = some (.read now)) :
      BreakerEffect state (.storeTime call) (state.storeTime call now)
  | failuresCleared {call : ℕ} (free : state.calls call = none) :
      BreakerEffect state (.clearFailures call) (state.clearFailures call)
  | timeCleared {call : ℕ} (cleared : state.calls call = some .cleared) :
      BreakerEffect state (.clearTime call) (state.storeTime call 0)

theorem breakerStep_effect {state next : BreakerState} {step : BreakerStep}
    (stepped : breakerStep state step = some next) : BreakerEffect state step next := by
  cases step with
  | advance elapsed =>
      cases stepped
      exact .advanced elapsed
  | fetchAdd call =>
      simp only [breakerStep] at stepped
      split at stepped
      · next free =>
          cases stepped
          exact .added free
      · cases stepped
  | readClock call =>
      simp only [breakerStep] at stepped
      split at stepped
      · next counted =>
          cases stepped
          exact .clockRead counted
      · cases stepped
  | storeTime call =>
      simp only [breakerStep] at stepped
      split at stepped
      · next now read =>
          cases stepped
          exact .timeStored read
      · cases stepped
  | clearFailures call =>
      simp only [breakerStep] at stepped
      split at stepped
      · next free =>
          cases stepped
          exact .failuresCleared free
      · cases stepped
  | clearTime call =>
      simp only [breakerStep] at stepped
      split at stepped
      · next cleared =>
          cases stepped
          exact .timeCleared cleared
      · cases stepped

/-! ## Consistency of the two atomics -/

namespace BreakerState

/-- Storing this value would not hide the latest failure of a tripped breaker. -/
def Recent (state : BreakerState) (value : ℕ) : Prop :=
  failureThreshold ≤ state.breaker.failures → ∀ added ∈ state.lastAdd, added ≤ value

/-- Some `record_failure` in progress will store a second not before `added`. -/
def WillStore (state : BreakerState) (added : ℕ) : Prop :=
  ∃ call, state.calls call = some .counted ∨
    ∃ now, state.calls call = some (.read now) ∧ added ≤ now

end BreakerState

/-- A store to `last_failure_time` does not overwrite a tripped breaker with a
second that lies before its latest `fetch_add`. -/
def NoStaleStore (state : BreakerState) : BreakerStep → Prop
  | .storeTime call => ∀ now, state.calls call = some (.read now) → state.Recent now
  | .clearTime _ => state.Recent 0
  | _ => True

/-- A nonzero counter has a latest `fetch_add`, which lies in the past; once the
threshold is reached, the time of that failure is stored or about to be. -/
structure Consistent (state : BreakerState) : Prop where
  counted : state.breaker.failures ≠ 0 → state.lastAdd.isSome = true
  past : ∀ added ∈ state.lastAdd, added ≤ state.clock
  stored : failureThreshold ≤ state.breaker.failures → ∀ added ∈ state.lastAdd,
    added ≤ state.breaker.lastFailureTime ∨ state.WillStore added

theorem Consistent.initial (clock : ℕ) : Consistent (.initial clock) where
  counted := by simp [BreakerState.initial, CircuitBreaker.new]
  past := by simp [BreakerState.initial]
  stored := by simp [BreakerState.initial]

theorem Consistent.of_fetchAdd (state : BreakerState) (call : ℕ) :
    Consistent (state.fetchAdd call) := by
  have latest : (state.fetchAdd call).lastAdd = some (state.fetchAdd call).clock := by
    unfold BreakerState.fetchAdd
    dsimp only
    split <;> rfl
  constructor
  · intro _
    rw [latest]
    rfl
  · intro added isLatest
    rw [latest] at isLatest
    cases isLatest
    exact Nat.le_refl _
  · intro reached added _
    -- Reaching the threshold is what keeps the call in progress.
    unfold BreakerState.fetchAdd at reached ⊢
    dsimp only at reached ⊢
    split
    · exact .inr ⟨call, .inl (Function.update_self ..)⟩
    · rename_i below
      rw [if_neg below] at reached
      exact absurd reached below

/-- A stored value that is recent settles the invariant on its own. -/
theorem Consistent.storeTime {state : BreakerState} (inv : Consistent state)
    {value : ℕ} (recent : state.Recent value) (call : ℕ) :
    Consistent (state.storeTime call value) where
  counted := inv.counted
  past := inv.past
  stored := fun reached added latest => .inl (recent reached added latest)

theorem Consistent.step {state next : BreakerState} {step : BreakerStep}
    (inv : Consistent state) (recent : NoStaleStore state step)
    (stepped : breakerStep state step = some next) : Consistent next := by
  cases breakerStep_effect stepped with
  | advanced elapsed =>
      refine ⟨inv.counted, ?_, inv.stored⟩
      intro added latest
      exact Nat.le_trans (inv.past added latest) (Nat.le_add_right _ _)
  | added free => exact .of_fetchAdd state _
  | @clockRead call counted =>
      refine ⟨inv.counted, inv.past, ?_⟩
      intro reached added latest
      rcases inv.stored reached added latest with stored | ⟨witness, waiting⟩
      · exact .inl stored
      · refine .inr ⟨witness, ?_⟩
        rcases Decidable.eq_or_ne witness call with rfl | different
        · exact .inr ⟨state.clock, Function.update_self .., inv.past added latest⟩
        · simpa [BreakerState.moveCall, Function.update_of_ne different] using waiting
  | timeStored read => exact inv.storeTime (recent _ read) _
  | failuresCleared free =>
      constructor
      · intro nonzero
        exact absurd rfl nonzero
      · intro added latest
        cases latest
      · intro _ added latest
        cases latest
  | timeCleared cleared => exact inv.storeTime recent _

/-- In every run whose stores to `last_failure_time` never overwrite a tripped
breaker with a second before its latest `fetch_add`, once no call is in progress
and the counter has reached the threshold, `last_failure_time` is at least the
second of the latest `fetch_add` since the counter was last cleared, and the
breaker is open until thirty seconds after it. -/
theorem tripped_breaker_consistent {clock : ℕ} {steps : List BreakerStep}
    {state : BreakerState}
    (runs : breakerSystem.Runs NoStaleStore (.initial clock) steps state)
    (quiescent : state.Quiescent) (tripped : failureThreshold ≤ state.breaker.failures) :
    ∃ added, state.lastAdd = some added ∧ added ≤ state.breaker.lastFailureTime ∧
      ∀ now, now ≤ added + resetTimeoutSecs → state.breaker.state now = .opened := by
  have inv : Consistent state := by
    apply runs.invariant _ (Consistent.initial clock)
    intro state next step inv recent stepped
    exact inv.step recent stepped
  have nonzero : state.breaker.failures ≠ 0 := by
    intro zero
    rw [zero] at tripped
    exact absurd tripped (by decide)
  rcases Option.isSome_iff_exists.mp (inv.counted nonzero) with ⟨added, latest⟩
  have stored : added ≤ state.breaker.lastFailureTime := by
    rcases inv.stored tripped added latest with stored | ⟨call, waiting⟩
    · exact stored
    · simp [quiescent call] at waiting
  refine ⟨added, latest, stored, ?_⟩
  intro now within
  rw [CircuitBreaker.state_eq_opened_iff]
  exact ⟨tripped, Nat.le_trans within (Nat.add_le_add_right stored _)⟩

/-- Five failures; only the fifth reaches the threshold and stores its time. -/
def fiveFailures : List BreakerStep :=
  [.fetchAdd 1, .fetchAdd 2, .fetchAdd 3, .fetchAdd 4, .fetchAdd 5, .readClock 5, .storeTime 5]

/-- Five failures with nothing in between meet the condition and trip the
breaker for thirty seconds. -/
theorem tripped_breaker_consistent_five :
    ∃ state, breakerSystem.Runs NoStaleStore (.initial 100) fiveFailures state ∧
      state.Quiescent ∧ failureThreshold ≤ state.breaker.failures ∧
      ∃ added, state.lastAdd = some added ∧ added ≤ state.breaker.lastFailureTime ∧
        ∀ now, now ≤ added + resetTimeoutSecs → state.breaker.state now = .opened := by
  have reached : ∃ state, breakerSystem.Runs NoStaleStore (.initial 100) fiveFailures state ∧
      state.Quiescent ∧ failureThreshold ≤ state.breaker.failures := by
    refine ⟨_, .cons trivial rfl (.cons trivial rfl (.cons trivial rfl (.cons trivial rfl
      (.cons trivial rfl (.cons trivial rfl (.cons ?_ rfl (.nil _))))))), ?_, ?_⟩
    · intro now read _ added latest
      cases read
      cases latest
      exact Nat.le_refl _
    · intro call
      change Function.update (Function.update (Function.update (fun _ => none) 5 _) 5 _) 5 none
        call = none
      simp
    · decide
  rcases reached with ⟨state, runs, quiescent, tripped⟩
  exact ⟨state, runs, quiescent, tripped, tripped_breaker_consistent runs quiescent tripped⟩

/-- A `record_success` that is interrupted between its two stores by five
failures: its second store erases their time, and the breaker is half open in
the very second in which it tripped. -/
theorem tripped_breaker_erased :
    ∃ state, breakerSystem.run (.initial 100)
        (.clearFailures 0 :: fiveFailures ++ [.clearTime 0]) = some state ∧
      state.Quiescent ∧ failureThreshold ≤ state.breaker.failures ∧
      state.lastAdd = some 100 ∧ state.breaker.lastFailureTime = 0 ∧
      state.breaker.state 100 = .halfOpen := by
  refine ⟨_, rfl, ?_, by decide, rfl, rfl, by decide⟩
  intro call
  change Function.update (Function.update (Function.update (Function.update (Function.update
    (fun _ => none) 0 _) 5 _) 5 _) 5 none) 0 none call = none
  rcases Decidable.eq_or_ne call 0 with rfl | other
  · rfl
  · simp [Function.update_apply, other]

end Vortex.Core
