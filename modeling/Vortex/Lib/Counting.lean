import Mathlib.Algebra.BigOperators.Group.Finset.Piecewise
import Mathlib.Logic.Function.Basic

/-!
# Counting places

How many of the first places of a family satisfy a test, and what changing the
value at one place does to that number.
-/

namespace Vortex.Lib

variable {α : Type*} (counts : α → Bool)

/-- The number of places below `bound` whose value satisfies the test. -/
def countBelow (bound : ℕ) (places : ℕ → α) : ℕ :=
  ((Finset.range bound).filter fun place => counts (places place) = true).card

theorem countBelow_eq_sum (bound : ℕ) (places : ℕ → α) :
    countBelow counts bound places =
      ∑ place ∈ Finset.range bound, (counts (places place)).toNat := by
  rw [countBelow, Finset.card_filter]
  apply Finset.sum_congr rfl
  intro place _
  cases counts (places place) with
  | false => rfl
  | true => rfl

variable {bound : ℕ} (places : ℕ → α)

/-- Changing the value at one place. -/
theorem countBelow_update {place : ℕ} (inside : place < bound) (value : α) :
    countBelow counts bound (Function.update places place value) + (counts (places place)).toNat =
      countBelow counts bound places + (counts value).toNat := by
  have membership := Finset.mem_range.mpr inside
  have others : ∀ other ∈ (Finset.range bound).erase place,
      (counts (Function.update places place value other)).toNat =
        (counts (places other)).toNat := by
    intro other elsewhere
    rw [Function.update_of_ne (Finset.ne_of_mem_erase elsewhere)]
  rw [countBelow_eq_sum, countBelow_eq_sum, ← Finset.add_sum_erase _ _ membership,
    Finset.sum_congr rfl others, ← Finset.add_sum_erase _ _ membership, Function.update_self]
  omega

/-- Adding a place. -/
theorem countBelow_succ (value : α) :
    countBelow counts (bound + 1) (Function.update places bound value) =
      countBelow counts bound places + (counts value).toNat := by
  have others : ∀ other ∈ Finset.range bound,
      (counts (Function.update places bound value other)).toNat =
        (counts (places other)).toNat := by
    intro other below
    rw [Function.update_of_ne (Finset.mem_range.mp below).ne]
  rw [countBelow_eq_sum, Finset.sum_range_succ, Finset.sum_congr rfl others, Function.update_self,
    countBelow_eq_sum]

variable {counts places} in
theorem countBelow_pos {place : ℕ} (inside : place < bound)
    (counted : counts (places place) = true) : 0 < countBelow counts bound places :=
  Finset.card_pos.mpr ⟨place, Finset.mem_filter.mpr ⟨Finset.mem_range.mpr inside, counted⟩⟩

/-- What is counted at places that are all counted elsewhere too is not more. -/
theorem countBelow_le {counts : α → Bool} {bound limit : ℕ} {places others : ℕ → α}
    (elsewhere : ∀ place, counts (places place) = true →
      place < limit ∧ counts (others place) = true) :
    countBelow counts bound places ≤ countBelow counts limit others := by
  apply Finset.card_le_card
  intro place member
  rcases elsewhere place (Finset.mem_filter.mp member).2 with ⟨inside, counted⟩
  exact Finset.mem_filter.mpr ⟨Finset.mem_range.mpr inside, counted⟩

/-- A test that implies another counts no more. -/
theorem countBelow_mono {test weaker : α → Bool}
    (implied : ∀ value, test value = true → weaker value = true) (bound : ℕ) (places : ℕ → α) :
    countBelow test bound places ≤ countBelow weaker bound places :=
  Finset.card_le_card (Finset.monotone_filter_right _ fun _ _ => implied _)

/-- A test that implies another and fails at a place where the other holds counts less. -/
theorem countBelow_lt {test weaker : α → Bool}
    (implied : ∀ value, test value = true → weaker value = true) {places : ℕ → α} {place : ℕ}
    (inside : place < bound) (fails : test (places place) = false)
    (holds : weaker (places place) = true) :
    countBelow test bound places < countBelow weaker bound places := by
  apply Finset.card_lt_card
  apply Finset.ssubset_iff_subset_ne.mpr ⟨Finset.monotone_filter_right _ fun _ _ => implied _, _⟩
  intro same
  have member : place ∈ (Finset.range bound).filter fun place => test (places place) = true := by
    rw [same]
    exact Finset.mem_filter.mpr ⟨Finset.mem_range.mpr inside, holds⟩
  rw [(Finset.mem_filter.mp member).2] at fails
  cases fails

/-- Tests that exclude each other count no more than one that they all imply. -/
theorem sum_countBelow_le {κ : Type*} [DecidableEq κ] {tests : κ → α → Bool} {test : α → Bool}
    (implied : ∀ {key : κ} {value : α}, tests key value = true → test value = true)
    (exclusive : ∀ {first second : κ} {value : α}, tests first value = true →
      tests second value = true → first = second)
    (keys : Finset κ) (bound : ℕ) (places : ℕ → α) :
    ∑ key ∈ keys, countBelow (tests key) bound places ≤ countBelow test bound places := by
  simp only [countBelow]
  rw [← Finset.card_biUnion]
  · apply Finset.card_le_card
    intro place member
    rcases Finset.mem_biUnion.mp member with ⟨key, _, counted⟩
    rcases Finset.mem_filter.mp counted with ⟨inside, passes⟩
    exact Finset.mem_filter.mpr ⟨inside, implied passes⟩
  · intro first _ second _ different
    apply Finset.disjoint_left.mpr
    intro place firstCounts secondCounts
    exact different (exclusive (Finset.mem_filter.mp firstCounts).2
      (Finset.mem_filter.mp secondCounts).2)

end Vortex.Lib
