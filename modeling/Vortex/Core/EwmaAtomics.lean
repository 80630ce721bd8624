import Mathlib.Algebra.Field.Rat
import Vortex.Core.Backend
import Vortex.Lib.CompareExchange

/-!
# Latency observations under concurrency

`observe_latency` updates the moving average by a compare-exchange loop over the
bits of a floating-point number.  Nothing here depends on the number format: the
results hold for any arithmetic, rounded or exact, and any stored form from which
the numbers can be read back.
-/

namespace Vortex.Core

open Lib

/-- Numbers and the form in which an atomic stores them, as `f64` with `to_bits`
and `from_bits`. -/
structure StoredNumber (F B : Type*) where
  toBits : F → B
  fromBits : B → F
  fromBits_toBits : ∀ number, fromBits (toBits number) = number

/-- Rationals stored as they are. -/
def StoredNumber.exact : StoredNumber ℚ ℚ := ⟨id, id, fun _ => rfl⟩

section Observe

variable {F B : Type*} [LT F] [DecidableLT F] [Add F] [Sub F] [Mul F] [One F]

/-- The next average: jump to a sample above the current one, otherwise decay
towards the sample. -/
def nextEwma (decayAlpha current rttMs : F) : F :=
  if rttMs > current then rttMs
  else rttMs * (1 - decayAlpha) + current * decayAlpha

/-- The same on the stored form. -/
def nextBits (stored : StoredNumber F B) (decayAlpha : F) (currentBits : B) (rttMs : F) : B :=
  stored.toBits (nextEwma decayAlpha (stored.fromBits currentBits) rttMs)

variable [DecidableEq B] (stored : StoredNumber F B) (decayAlpha : F)

/-- Calls of `observe_latency` on one tracker; calls are numbered. -/
def observeSystem : System (Cell ℕ B F) (CellStep ℕ F) :=
  cellSystem (nextBits stored decayAlpha)

omit [DecidableEq B] in
/-- Updating the stored form one sample after another stores the sequential
result. -/
theorem foldl_nextBits (initial : F) (samples : List F) :
    samples.foldl (nextBits stored decayAlpha) (stored.toBits initial) =
      stored.toBits (samples.foldl (nextEwma decayAlpha) initial) := by
  induction samples generalizing initial with
  | nil => rfl
  | cons sample samples ih =>
      rw [List.foldl_cons, List.foldl_cons, ← ih, nextBits, stored.fromBits_toBits]

/-- In every reachable state the stored average is that of the exchanged samples
in their order; a call that has returned has exchanged its sample once, and any
other call has exchanged nothing. -/
theorem observations_linearized (initialLatencyMs : F) {final : Cell ℕ B F}
    {steps : List (CellStep ℕ F)}
    (executed : (observeSystem stored decayAlpha).run
      (.initial (stored.toBits initialLatencyMs)) steps = some final) :
    final.value = stored.toBits
        ((final.exchanged.map Prod.snd).foldl (nextEwma decayAlpha) initialLatencyMs) ∧
      (∀ call rttMs, final.calls call = .returned rttMs →
        final.exchanged.filter (fun entry => entry.1 = call) = [(call, rttMs)]) ∧
      ∀ call, (∀ rttMs, final.calls call ≠ .returned rttMs) →
        final.exchanged.filter (fun entry => entry.1 = call) = [] := by
  have linearized := linearized_of_run executed
  refine ⟨?_, ?_, ?_⟩
  · rw [linearized.value_eq, foldl_nextBits]
  · intro call rttMs returned
    rw [linearized.contributions, returned]
    rfl
  · intro call unfinished
    rw [linearized.contributions]
    cases point : final.calls call with
    | idle => rfl
    | running loaded rttMs => rfl
    | returned rttMs => exact absurd point (unfinished rttMs)

end Observe

/-- Two calls overlap: the first loses its exchange to the second, fails once more
for no reason, and then commits from what it has reloaded. A third has only
loaded. -/
def overlapping : List (CellStep ℕ ℚ) :=
  [.load 0 20, .load 1 200, .exchange 1, .exchange 0, .failExchange 0, .exchange 0, .load 2 30]

theorem observations_linearized_overlapping :
    ∃ final : Cell ℕ ℚ ℚ,
      (observeSystem .exact (1 / 2)).run (.initial 50) overlapping = some final ∧
        final.value = [200, 20].foldl (nextEwma (1 / 2)) 50 ∧
        final.exchanged.filter (fun entry => entry.1 = 0) = [(0, 20)] ∧
        final.exchanged.filter (fun entry => entry.1 = 2) = [] := by
  obtain ⟨final, executed, exchanged, returned, unfinished⟩ : ∃ final : Cell ℕ ℚ ℚ,
      (observeSystem .exact (1 / 2)).run (.initial 50) overlapping = some final ∧
        final.exchanged = [(1, 200), (0, 20)] ∧ final.calls 0 = .returned 20 ∧
        ∀ rttMs, final.calls 2 ≠ .returned rttMs :=
    ⟨_, rfl, rfl, rfl, fun _ => nofun⟩
  rcases observations_linearized .exact (1 / 2) 50 executed with ⟨value, once, nothing⟩
  rw [exchanged] at value
  exact ⟨final, executed, value, once 0 20 returned, nothing 2 unfinished⟩

/-! ## Calls that run alone -/

/-- Undisturbed, the actions of `observe_latency` perform it. -/
theorem run_observeLatency (tracker : PeakEwma) {cell : Cell ℕ ℚ ℚ}
    (holds : cell.value = tracker.ewma) {call : ℕ} (idle : cell.calls call = .idle) (rttMs : ℚ) :
    ∃ next, (observeSystem .exact tracker.decayAlpha).run cell
          [.load call rttMs, .exchange call] = some next ∧
        next.value = (tracker.observeLatency rttMs).ewma := by
  refine ⟨_, run_alone idle rttMs, ?_⟩
  rw [holds]
  rfl

end Vortex.Core
