import Mathlib.Data.List.Forall2
import Mathlib.Tactic.Linarith
import Mathlib.Tactic.Ring
import Vortex.Core.EwmaAtomics
import Vortex.Lib.Peak

/-!
# The Peak EWMA of a sequence of samples

`observe_latency` jumps to a sample above the current average and otherwise decays
towards it.  For a decay rate that is not negative both branches are one formula, the
greater of the sample and the plain exponential average.  The average of a whole
sequence is therefore the greatest of the plain averages that start at its initial
value or at one of its samples.

It is monotone in the initial value and in every sample, and a difference in the
initial value is forgotten geometrically.
-/

namespace Vortex.Core

open Lib

/-- `get_ewma`. -/
def PeakEwma.getEwma (tracker : PeakEwma) : ℚ := tracker.ewma

/-- Calls of `observe_latency`, one after another. -/
def PeakEwma.observeAll (tracker : PeakEwma) (samples : List ℚ) : PeakEwma :=
  samples.foldl observeLatency tracker

/-- One update of the plain exponential average. -/
def decayTowards (decayAlpha current rttMs : ℚ) : ℚ :=
  rttMs * (1 - decayAlpha) + current * decayAlpha

/-- The plain exponential average that starts at a value. -/
def plainAverage (decayAlpha start : ℚ) (samples : List ℚ) : ℚ :=
  samples.foldl (decayTowards decayAlpha) start

section Decay

variable {decayAlpha : ℚ} (nonneg : 0 ≤ decayAlpha)

include nonneg

theorem decayTowards_monotone (rttMs : ℚ) :
    Monotone fun current => decayTowards decayAlpha current rttMs := by
  intro first second ordered
  have scaled := mul_le_mul_of_nonneg_right ordered nonneg
  simp only [decayTowards]
  linarith

/-- Both branches of the update are the greater of the sample and the decayed
average. -/
theorem nextEwma_eq_peakStep (current rttMs : ℚ) :
    nextEwma decayAlpha current rttMs = peakStep (decayTowards decayAlpha) current rttMs := by
  have gap : decayTowards decayAlpha current rttMs = rttMs + (current - rttMs) * decayAlpha := by
    rw [decayTowards]
    ring
  rw [nextEwma, peakStep]
  split
  · next peak =>
      have below : (current - rttMs) * decayAlpha ≤ 0 :=
        mul_nonpos_of_nonpos_of_nonneg (by linarith) nonneg
      rw [gap, max_eq_left (by linarith)]
  · next noPeak =>
      have above : 0 ≤ (current - rttMs) * decayAlpha := mul_nonneg (by linarith) nonneg
      rw [max_eq_right (by linarith)]
      rfl

/-- Two updates by one sample move the averages closer by the decay rate. -/
theorem nextEwma_sub_mem_Icc {lower upper : ℚ} (rttMs : ℚ) (ordered : lower ≤ upper) :
    nextEwma decayAlpha upper rttMs - nextEwma decayAlpha lower rttMs ∈
      Set.Icc 0 (decayAlpha * (upper - lower)) := by
  have decayed := decayTowards_monotone nonneg rttMs ordered
  rw [nextEwma_eq_peakStep nonneg, nextEwma_eq_peakStep nonneg]
  refine ⟨sub_nonneg.mpr (peakStep_le_peakStep le_rfl decayed), ?_⟩
  apply (peakStep_sub_le decayed).trans_eq
  simp only [decayTowards]
  ring

section AtMostOne

variable (atMostOne : decayAlpha ≤ 1)

include atMostOne

/-- A rate of at most one makes the decay monotone in the sample as well. -/
theorem decayTowards_le_decayTowards {lower upper rttMs slowerMs : ℚ}
    (ordered : lower ≤ upper) (slower : rttMs ≤ slowerMs) :
    decayTowards decayAlpha lower rttMs ≤ decayTowards decayAlpha upper slowerMs := by
  have complement : 0 ≤ 1 - decayAlpha := by linarith
  exact add_le_add (mul_le_mul_of_nonneg_right slower complement)
    (mul_le_mul_of_nonneg_right ordered nonneg)

/-- So does the update, jumps included. -/
theorem nextEwma_le_nextEwma {lower upper rttMs slowerMs : ℚ}
    (ordered : lower ≤ upper) (slower : rttMs ≤ slowerMs) :
    nextEwma decayAlpha lower rttMs ≤ nextEwma decayAlpha upper slowerMs := by
  rw [nextEwma_eq_peakStep nonneg, nextEwma_eq_peakStep nonneg]
  apply peakStep_le_peakStep slower
  exact decayTowards_le_decayTowards nonneg atMostOne ordered slower

/-- The average stays between any bounds of the samples. -/
theorem decayTowards_mem_Icc {lower upper current rttMs : ℚ}
    (currentInside : current ∈ Set.Icc lower upper) (inside : rttMs ∈ Set.Icc lower upper) :
    decayTowards decayAlpha current rttMs ∈ Set.Icc lower upper := by
  have fixed : ∀ bound, decayTowards decayAlpha bound bound = bound := by
    intro bound
    rw [decayTowards]
    ring
  rcases currentInside with ⟨currentLower, currentUpper⟩
  rcases inside with ⟨sampleLower, sampleUpper⟩
  constructor
  · calc lower = decayTowards decayAlpha lower lower := (fixed lower).symm
      _ ≤ decayTowards decayAlpha current rttMs :=
        decayTowards_le_decayTowards nonneg atMostOne currentLower sampleLower
  · calc decayTowards decayAlpha current rttMs
        ≤ decayTowards decayAlpha upper upper :=
          decayTowards_le_decayTowards nonneg atMostOne currentUpper sampleUpper
      _ = upper := fixed upper

end AtMostOne

end Decay

theorem getEwma_observeAll (tracker : PeakEwma) (samples : List ℚ) :
    (tracker.observeAll samples).getEwma =
      samples.foldl (nextEwma tracker.decayAlpha) tracker.ewma := by
  induction samples generalizing tracker with
  | nil => rfl
  | cons rttMs samples ih => exact ih (tracker.observeLatency rttMs)

theorem isGreatest_getEwma {tracker : PeakEwma} (nonneg : 0 ≤ tracker.decayAlpha)
    (samples : List ℚ) :
    IsGreatest (restarts (decayTowards tracker.decayAlpha) (tracker.ewma :: samples))
      (tracker.observeAll samples).getEwma := by
  have steps : nextEwma tracker.decayAlpha = peakStep (decayTowards tracker.decayAlpha) := by
    funext current rttMs
    exact nextEwma_eq_peakStep nonneg current rttMs
  rw [getEwma_observeAll, steps]
  exact isGreatest_peak (decayTowards_monotone nonneg) tracker.ewma samples

/-- **Closed form.** After any samples the average is the greatest of the plain
averages that start at the initial value or at a sample.  It is never below the last
of these values nor below the plain average of all of them, and lies between their
bounds. -/
theorem peak_ewma_closed_form (tracker : PeakEwma) (nonneg : 0 ≤ tracker.decayAlpha)
    (atMostOne : tracker.decayAlpha ≤ 1) (samples : List ℚ) :
    IsGreatest { value | ∃ before start rest,
        tracker.ewma :: samples = before ++ start :: rest ∧
          value = plainAverage tracker.decayAlpha start rest }
        (tracker.observeAll samples).getEwma ∧
      (∀ last ∈ (tracker.ewma :: samples).getLast?,
        last ≤ (tracker.observeAll samples).getEwma) ∧
      plainAverage tracker.decayAlpha tracker.ewma samples ≤
        (tracker.observeAll samples).getEwma ∧
      ∀ lower upper, (∀ value ∈ tracker.ewma :: samples, lower ≤ value ∧ value ≤ upper) →
        lower ≤ (tracker.observeAll samples).getEwma ∧
          (tracker.observeAll samples).getEwma ≤ upper := by
  have greatest := isGreatest_getEwma nonneg samples
  refine ⟨greatest, ?_, ?_, ?_⟩
  · intro last isLast
    rcases List.getLast?_eq_some_iff.mp isLast with ⟨before, split⟩
    exact greatest.2 ⟨before, last, [], split, rfl⟩
  · exact greatest.2 ⟨[], tracker.ewma, samples, rfl, rfl⟩
  · -- The average is one of the plain averages, and each of them stays inside.
    intro lower upper bounds
    rcases greatest.1 with ⟨before, start, rest, split, value⟩
    rw [value]
    apply foldl_towards_mem_Icc
    · intro current rttMs currentInside inside
      exact decayTowards_mem_Icc nonneg atMostOne currentInside inside
    · exact bounds start (by simp [split])
    · intro rttMs membership
      exact bounds rttMs (by simp [split, membership])

/-- A fresh tracker that sees a spike and a recovery stays between 50 and 500. -/
theorem peak_ewma_closed_form_spike :
    (50 : ℚ) ≤ ((PeakEwma.new 50 (1 / 2)).observeAll [500, 100]).getEwma ∧
      ((PeakEwma.new 50 (1 / 2)).observeAll [500, 100]).getEwma ≤ 500 :=
  (peak_ewma_closed_form (PeakEwma.new 50 (1 / 2)) (by decide +kernel) (by decide +kernel)
    [500, 100]).2.2.2 50 500 (by decide +kernel)

/-! ## Two trackers of one decay rate -/

/-- At equal active counts the score is monotone in the average. -/
theorem calculateScore_le_calculateScore {first second : PeakEwma}
    (ordered : first.getEwma ≤ second.getEwma) (active : ℕ) :
    { first with activeRequests := active }.calculateScore ≤
      { second with activeRequests := active }.calculateScore := by
  have raised : first.ewma + 1 ≤ second.ewma + 1 := add_le_add_left ordered 1
  exact mul_le_mul_of_nonneg_right raised (by positivity)

/-- **Monotone and forgetful.** A tracker that starts no higher and sees samples that
are no higher has no higher an average, and no higher a score at any equal active
count, after every step.  Over the same samples a difference in the initial value
shrinks with a power of the decay rate. -/
theorem peak_ewma_monotone_and_forgets (first second : PeakEwma)
    (sameRate : first.decayAlpha = second.decayAlpha) (nonneg : 0 ≤ first.decayAlpha)
    (atMostOne : first.decayAlpha ≤ 1) (ordered : first.ewma ≤ second.ewma) :
    (∀ firstSamples secondSamples, List.Forall₂ (· ≤ ·) firstSamples secondSamples →
      ∀ steps,
        (first.observeAll (firstSamples.take steps)).getEwma ≤
            (second.observeAll (secondSamples.take steps)).getEwma ∧
          ∀ active,
            { first.observeAll (firstSamples.take steps) with
                activeRequests := active }.calculateScore ≤
              { second.observeAll (secondSamples.take steps) with
                activeRequests := active }.calculateScore) ∧
      ∀ samples,
        0 ≤ (second.observeAll samples).getEwma - (first.observeAll samples).getEwma ∧
          (second.observeAll samples).getEwma - (first.observeAll samples).getEwma ≤
            first.decayAlpha ^ samples.length * (second.ewma - first.ewma) := by
  constructor
  · intro firstSamples secondSamples samplesOrdered steps
    have averages : (first.observeAll (firstSamples.take steps)).getEwma ≤
        (second.observeAll (secondSamples.take steps)).getEwma := by
      rw [getEwma_observeAll, getEwma_observeAll, ← sameRate]
      refine List.rel_foldl ?_ ordered (List.forall₂_take steps samplesOrdered)
      intro lower upper currents rttMs slowerMs slower
      exact nextEwma_le_nextEwma nonneg atMostOne currents slower
    exact ⟨averages, calculateScore_le_calculateScore averages⟩
  · intro samples
    rw [getEwma_observeAll, getEwma_observeAll, ← sameRate]
    apply foldl_sub_mem_Icc nonneg _ ordered
    intro lower upper rttMs currents
    exact nextEwma_sub_mem_Icc nonneg rttMs currents

/-- Two trackers recover from 60 and from 100: the first stays below, also by its
score with three active requests, and after two samples the other is at most 10
higher. -/
theorem peak_ewma_monotone_and_forgets_recovery :
    { (PeakEwma.new 60 (1 / 2)).observeAll [20] with activeRequests := 3 }.calculateScore ≤
        { (PeakEwma.new 100 (1 / 2)).observeAll [25] with activeRequests := 3 }.calculateScore ∧
      ((PeakEwma.new 100 (1 / 2)).observeAll [20, 30]).getEwma -
          ((PeakEwma.new 60 (1 / 2)).observeAll [20, 30]).getEwma ≤
        (1 / 2) ^ 2 * (100 - 60) :=
  have compared := peak_ewma_monotone_and_forgets (PeakEwma.new 60 (1 / 2))
    (PeakEwma.new 100 (1 / 2)) rfl (by decide +kernel) (by decide +kernel) (by decide +kernel)
  ⟨(compared.1 [20, 30] [25, 30] (by decide +kernel) 1).2 3, (compared.2 [20, 30]).2⟩

end Vortex.Core
