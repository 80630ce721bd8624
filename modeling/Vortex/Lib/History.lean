import Mathlib.Data.List.Basic

/-!
# Histories

A history is a list of events with the oldest first.  Facts about it are proved
by adding the last event, so this module says what that does to the ways a
history can be split, and to the latest event that concerns a given matter.
-/

namespace Vortex.Lib

/-! ## Splitting a history -/

/-- A history that ends in `last` is split at `last` or inside the shorter one. -/
theorem split_concat {β : Type*} {items before after : List β} {item last : β}
    (split : items ++ [last] = before ++ item :: after) :
    (before = items ∧ item = last ∧ after = []) ∨
      ∃ middle, after = middle ++ [last] ∧ items = before ++ item :: middle := by
  rcases List.eq_nil_or_concat after with rfl | ⟨middle, final, rfl⟩
  · rcases List.append_inj' split rfl with ⟨rfl, same⟩
    cases same
    exact .inl ⟨rfl, rfl, rfl⟩
  · rw [List.concat_eq_append, ← List.cons_append, ← List.append_assoc] at split
    rcases List.append_inj' split rfl with ⟨shorter, same⟩
    cases same
    exact .inr ⟨middle, List.concat_eq_append, shorter⟩

/-- What holds of every element of a history that ends in `last`. -/
theorem forall_mem_concat {β : Type*} {property : β → Prop} {items : List β} {last : β} :
    (∀ item ∈ items ++ [last], property item) ↔
      (∀ item ∈ items, property item) ∧ property last := by
  rw [List.forall_mem_append, List.forall_mem_singleton]

/-- What holds at every element of a history after the elements before it. -/
theorem forall_split_concat {β : Type*} {property : List β → β → Prop} {items : List β}
    {last : β} :
    (∀ before item after, items ++ [last] = before ++ item :: after → property before item) ↔
      (∀ before item after, items = before ++ item :: after → property before item) ∧
        property items last := by
  constructor
  · intro holds
    refine ⟨?_, holds items last [] rfl⟩
    intro before item after split
    exact holds before item (after ++ [last]) (by simp [split])
  · intro conditions before item after split
    rcases conditions with ⟨earlier, here⟩
    rcases split_concat split with ⟨rfl, rfl, rfl⟩ | ⟨middle, rfl, shorter⟩
    · exact here
    · exact earlier before item middle shorter

/-! ## The latest event of a kind -/

variable {α : Type*} (concerns : α → Prop)

/-- `event` is the latest of the history that concerns the matter. -/
def Latest (history : List α) (event : α) : Prop :=
  ∃ before after, history = before ++ event :: after ∧ concerns event ∧
    ∀ later ∈ after, ¬concerns later

theorem not_latest_nil (event : α) : ¬Latest concerns [] event := by
  intro latest
  rcases latest with ⟨before, after, split, _⟩
  simp at split

variable {concerns}

/-- An event that concerns the matter becomes the latest. -/
theorem latest_concat_of_concerns {last : α} (related : concerns last) {history : List α}
    {event : α} : Latest concerns (history ++ [last]) event ↔ event = last := by
  constructor
  · intro latest
    rcases latest with ⟨before, after, split, _, silent⟩
    rcases split_concat split with ⟨_, same, _⟩ | ⟨middle, rfl, _⟩
    · exact same
    · exact absurd related (silent last (by simp))
  · rintro rfl
    exact ⟨history, [], rfl, related, by simp⟩

/-- An event that does not leaves the latest as it was. -/
theorem latest_concat_of_not_concerns {last : α} (unrelated : ¬concerns last) {history : List α}
    {event : α} : Latest concerns (history ++ [last]) event ↔ Latest concerns history event := by
  constructor
  · intro latest
    rcases latest with ⟨before, after, split, related, silent⟩
    rcases split_concat split with ⟨_, rfl, _⟩ | ⟨middle, rfl, shorter⟩
    · exact absurd related unrelated
    · refine ⟨before, middle, shorter, related, ?_⟩
      intro later membership
      exact silent later (List.mem_append_left _ membership)
  · intro latest
    rcases latest with ⟨before, after, rfl, related, silent⟩
    refine ⟨before, after ++ [last], by simp, related, ?_⟩
    intro later membership
    rcases List.mem_append.mp membership with earlier | final
    · exact silent later earlier
    · rw [List.mem_singleton.mp final]
      exact unrelated

end Vortex.Lib
