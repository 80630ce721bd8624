import Mathlib.Algebra.Order.Group.MinMax
import Mathlib.Algebra.Order.Ring.Defs
import Mathlib.Data.List.Induction
import Mathlib.Order.Bounds.Image
import Mathlib.Order.Bounds.Lattice
import Vortex.Lib.History

/-!
# Averages that jump to a peak

A plain average moves from its current value towards each sample in turn.  A peak
average does the same, but jumps to a sample that lies above the result.  When the
plain step is monotone in the current value, a jump amounts to starting the plain
average afresh at the sample, so the peak average is the greatest of all the plain
averages that start at some value of the sequence.

A jump to a sample never moves two averages further apart, so two runs over the same
samples come together at least as fast as the plain averages do.
-/

namespace Vortex.Lib

variable {α : Type*}

/-- The results of the plain average over a sequence, started at any of its values. -/
def restarts (towards : α → α → α) (values : List α) : Set α :=
  { result | ∃ before start rest, values = before ++ start :: rest ∧
    result = rest.foldl towards start }

/-- One step of the peak average. -/
def peakStep [LinearOrder α] (towards : α → α → α) (current sample : α) : α :=
  max sample (towards current sample)

section Restarts

variable (towards : α → α → α)

theorem restarts_singleton (value : α) : restarts towards [value] = { value } := by
  ext result
  constructor
  · intro member
    rcases member with ⟨before, start, rest, split, rfl⟩
    rcases List.append_eq_singleton_iff.mp split.symm with ⟨rfl, same⟩ | ⟨_, impossible⟩
    · cases same
      rfl
    · cases impossible
  · intro same
    exact ⟨[], value, [], rfl, same⟩

/-- A further value continues every plain average and starts one of its own. -/
theorem restarts_concat (values : List α) (last : α) :
    restarts towards (values ++ [last]) =
      insert last (Set.image (fun current => towards current last) (restarts towards values)) := by
  ext result
  constructor
  · intro member
    rcases member with ⟨before, start, rest, split, rfl⟩
    rcases split_concat split with ⟨_, rfl, rfl⟩ | ⟨middle, rfl, shorter⟩
    · exact .inl rfl
    · exact .inr ⟨_, ⟨before, start, middle, shorter, rfl⟩, by simp⟩
  · intro member
    rcases member with rfl | ⟨_, ⟨before, start, rest, rfl, rfl⟩, rfl⟩
    · exact ⟨values, result, [], rfl, rfl⟩
    · exact ⟨before, start, rest ++ [last], by simp, by simp⟩

end Restarts

section Peak

variable [LinearOrder α] {towards : α → α → α}

/-- The peak average is the greatest of the plain averages. -/
theorem isGreatest_peak (monotone : ∀ sample, Monotone fun current => towards current sample)
    (initial : α) (samples : List α) :
    IsGreatest (restarts towards (initial :: samples))
      (samples.foldl (peakStep towards) initial) := by
  induction samples using List.reverseRecOn with
  | nil =>
      rw [restarts_singleton]
      exact isGreatest_singleton
  | append_singleton samples last ih =>
      rw [← List.cons_append, restarts_concat, List.foldl_append]
      exact ((monotone last).map_isGreatest ih).insert last

/-- Bounds that the plain step keeps are kept by the plain average. -/
theorem foldl_towards_mem_Icc {lower upper : α}
    (keeps : ∀ current sample, current ∈ Set.Icc lower upper → sample ∈ Set.Icc lower upper →
      towards current sample ∈ Set.Icc lower upper)
    {start : α} (startInside : start ∈ Set.Icc lower upper) {samples : List α}
    (inside : ∀ sample ∈ samples, sample ∈ Set.Icc lower upper) :
    samples.foldl towards start ∈ Set.Icc lower upper := by
  induction samples generalizing start with
  | nil => exact startInside
  | cons sample samples ih =>
      rcases List.forall_mem_cons.mp inside with ⟨first, rest⟩
      exact ih (keeps start sample startInside first) rest

/-- The peak step is monotone in the current value and in the sample when the plain
step is. -/
theorem peakStep_le_peakStep {lower upper sample higher : α} (samples : sample ≤ higher)
    (towardsOrdered : towards lower sample ≤ towards upper higher) :
    peakStep towards lower sample ≤ peakStep towards upper higher :=
  max_le_max samples towardsOrdered

end Peak

/-! ## Two runs over the same samples -/

/-- A jump moves two ordered values no further apart than the plain step. -/
theorem peakStep_sub_le [AddCommGroup α] [LinearOrder α] [IsOrderedAddMonoid α]
    {towards : α → α → α} {lower upper sample : α}
    (ordered : towards lower sample ≤ towards upper sample) :
    peakStep towards upper sample - peakStep towards lower sample ≤
      towards upper sample - towards lower sample := by
  have apart := max_sub_max_le_max sample (towards upper sample) sample (towards lower sample)
  rwa [sub_self, max_eq_right (sub_nonneg.mpr ordered)] at apart

/-- A step that keeps the order and shrinks the distance at some rate shrinks it by a
power of the rate over a whole run. -/
theorem foldl_sub_mem_Icc [Ring α] [LinearOrder α] [IsStrictOrderedRing α] {β : Type*}
    {step : α → β → α} {rate : α} (nonneg : 0 ≤ rate)
    (shrinks : ∀ lower upper sample, lower ≤ upper →
      step upper sample - step lower sample ∈ Set.Icc 0 (rate * (upper - lower)))
    {lower upper : α} (ordered : lower ≤ upper) (samples : List β) :
    samples.foldl step upper - samples.foldl step lower ∈
      Set.Icc 0 (rate ^ samples.length * (upper - lower)) := by
  induction samples generalizing lower upper with
  | nil => simpa using ordered
  | cons sample samples ih =>
      rcases shrinks lower upper sample ordered with ⟨stillOrdered, closer⟩
      rcases ih (sub_nonneg.mp stillOrdered) with ⟨nonnegative, bounded⟩
      refine ⟨nonnegative, bounded.trans ?_⟩
      calc rate ^ samples.length * (step upper sample - step lower sample)
          ≤ rate ^ samples.length * (rate * (upper - lower)) :=
            mul_le_mul_of_nonneg_left closer (pow_nonneg nonneg _)
        _ = rate ^ (samples.length + 1) * (upper - lower) := by rw [pow_succ, mul_assoc]

end Vortex.Lib
