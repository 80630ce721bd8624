import Vortex.Lib.Counting

/-!
# Ownership

Resources come and go, and each one that is present is held by exactly one holder.  The
three changes that keep this are: a holder takes a new resource, a held resource changes,
and a holder gives up its resource, which goes with it.
-/

namespace Vortex.Lib

/-- Each resource that is present has one holder, and nothing else is held. -/
structure Owned {Resource Holder Value : Type*} (present : Resource → Option Value)
    (holds : Holder → Option Resource) : Prop where
  held : ∀ resource, (present resource).isSome ↔ ∃ holder, holds holder = some resource
  distinct : ∀ {first second : Holder} {resource : Resource}, holds first = some resource →
    holds second = some resource → first = second

namespace Owned

section Changes

variable {Resource Holder Value : Type*} [DecidableEq Resource]
  {present : Resource → Option Value} {holds : Holder → Option Resource}
  {holder : Holder} {resource : Resource}

/-- A resource changes. -/
theorem change (owned : Owned present holds) (holding : holds holder = some resource)
    (value : Value) : Owned (Function.update present resource (some value)) holds where
  held other := by
    rcases Decidable.eq_or_ne other resource with rfl | different
    · rw [Function.update_self]
      exact ⟨fun _ => ⟨holder, holding⟩, fun _ => rfl⟩
    · rw [Function.update_of_ne different]
      exact owned.held other
  distinct := owned.distinct

variable [DecidableEq Holder]

/-- A holder gives up its resource. -/
theorem release (owned : Owned present holds) (holding : holds holder = some resource) :
    Owned (Function.update present resource none) (Function.update holds holder none) := by
  have elsewhere : ∀ {other : Holder} {held : Resource},
      Function.update holds holder none other = some held →
        other ≠ holder ∧ holds other = some held := by
    intro other held holdsIt
    rcases Decidable.eq_or_ne other holder with rfl | different
    · rw [Function.update_self] at holdsIt
      cases holdsIt
    · rw [Function.update_of_ne different] at holdsIt
      exact ⟨different, holdsIt⟩
  constructor
  · intro other
    rcases Decidable.eq_or_ne other resource with rfl | different
    · rw [Function.update_self]
      refine ⟨nofun, ?_⟩
      rintro ⟨another, holdsIt⟩
      exact absurd (owned.distinct (elsewhere holdsIt).2 holding) (elsewhere holdsIt).1
    · rw [Function.update_of_ne different, owned.held]
      constructor
      · rintro ⟨another, holdsIt⟩
        refine ⟨another, ?_⟩
        rw [Function.update_of_ne, holdsIt]
        rintro rfl
        exact different (Option.some_inj.mp (holdsIt.symm.trans holding))
      · rintro ⟨another, holdsIt⟩
        exact ⟨another, (elsewhere holdsIt).2⟩
  · intro first second held firstHolds secondHolds
    exact owned.distinct (elsewhere firstHolds).2 (elsewhere secondHolds).2

/-- A holder takes a new resource. -/
theorem take (owned : Owned present holds) (free : holds holder = none)
    (new : present resource = none) (value : Value) :
    Owned (Function.update present resource (some value))
      (Function.update holds holder (some resource)) := by
  have unheld : ∀ other, holds other ≠ some resource := by
    intro other holdsIt
    have known := (owned.held resource).mpr ⟨other, holdsIt⟩
    rw [new] at known
    cases known
  constructor
  · intro other
    rcases Decidable.eq_or_ne other resource with rfl | different
    · rw [Function.update_self]
      exact ⟨fun _ => ⟨holder, Function.update_self _ _ _⟩, fun _ => rfl⟩
    · rw [Function.update_of_ne different, owned.held]
      constructor
      · rintro ⟨another, holdsIt⟩
        refine ⟨another, ?_⟩
        rw [Function.update_of_ne, holdsIt]
        rintro rfl
        rw [free] at holdsIt
        cases holdsIt
      · rintro ⟨another, holdsIt⟩
        rcases Decidable.eq_or_ne another holder with rfl | elsewhere
        · rw [Function.update_self] at holdsIt
          exact absurd (Option.some_inj.mp holdsIt).symm different
        · rw [Function.update_of_ne elsewhere] at holdsIt
          exact ⟨another, holdsIt⟩
  · intro first second held firstHolds secondHolds
    rw [Function.update_apply] at firstHolds secondHolds
    split at firstHolds <;> split at secondHolds
    · next same same' => exact same.trans same'.symm
    · cases firstHolds
      exact absurd secondHolds (unheld _)
    · cases secondHolds
      exact absurd firstHolds (unheld _)
    · exact owned.distinct firstHolds secondHolds

end Changes

/-- There are no more resources than holders that have one. -/
theorem countBelow_le {Value : Type*} {present : ℕ → Option Value} {holds : ℕ → Option ℕ}
    (owned : Owned present holds) {holders : ℕ}
    (numbered : ∀ holder resource, holds holder = some resource → holder < holders)
    (resources : ℕ) :
    countBelow Option.isSome resources present ≤ countBelow Option.isSome holders holds := by
  apply Finset.card_le_card_of_surjOn fun holder => (holds holder).getD 0
  intro resource counted
  have known := (Finset.mem_filter.mp (Finset.mem_coe.mp counted)).2
  rcases (owned.held resource).mp known with ⟨holder, holding⟩
  refine ⟨holder, ?_, ?_⟩
  · have inside := Finset.mem_range.mpr (numbered holder resource holding)
    exact Finset.mem_coe.mpr (Finset.mem_filter.mpr ⟨inside, by rw [holding]; rfl⟩)
  · change (holds holder).getD 0 = resource
    rw [holding]
    rfl

end Owned

end Vortex.Lib
