import Mathlib.Algebra.Order.Group.Unbundled.Basic
import Mathlib.Algebra.Order.BigOperators.Group.List
import Mathlib.Data.List.Induction
import Mathlib.Tactic.Linarith
import Vortex.Lib.History

/-!
# Virtual clocks of a work-conserving server

A server receives work in a fixed order and is busy until its *finishing time*:
new work starts when it arrives or when the backlog ends, whichever is later.
One number therefore stands for the whole history.

`finishTime_le_iff` says what that number decides.  The finishing time is at
most `deadline` exactly when, for every earlier arrival, that arrival's instant
plus all the work from it onwards is at most `deadline`.  `filter_total_le`
turns such segment bounds into a bound on the work inside a window.
-/

namespace Vortex.Lib.VirtualClock

variable {α : Type*}

/-- An amount of work together with the instant at which it arrives. -/
structure Arrival (α : Type*) where
  time : α
  work : α

/-- Total work of a list of arrivals. -/
def total [Add α] [Zero α] (arrivals : List (Arrival α)) : α :=
  (arrivals.map Arrival.work).sum

/-- Finishing time after one more arrival, given the previous one if any. -/
def serve [LinearOrder α] [Add α] (finish : Option α) (arrival : Arrival α) : α :=
  max (finish.getD arrival.time) arrival.time + arrival.work

/-- Finishing time of a whole history; `none` for a server that never worked. -/
def finishTime [LinearOrder α] [Add α] (arrivals : List (Arrival α)) : Option α :=
  arrivals.foldl (fun finish arrival => some (serve finish arrival)) none

/-- Every segment that reaches the end of the history is over by `deadline`
when its work is done without a pause from its first arrival onwards. -/
def SegmentsBy [LE α] [Add α] [Zero α] (deadline : α)
    (arrivals : List (Arrival α)) : Prop :=
  ∀ (before : List (Arrival α)) (first : Arrival α) (after : List (Arrival α)),
    arrivals = before ++ first :: after →
      first.time + total (first :: after) ≤ deadline

/-! ## Finishing times -/

@[simp] theorem finishTime_nil [LinearOrder α] [Add α] :
    finishTime ([] : List (Arrival α)) = none := rfl

@[simp] theorem finishTime_concat [LinearOrder α] [Add α]
    (arrivals : List (Arrival α)) (arrival : Arrival α) :
    finishTime (arrivals ++ [arrival]) =
      some (serve (finishTime arrivals) arrival) := by
  simp [finishTime]

theorem total_cons_concat [AddMonoid α] (first last : Arrival α) (middle : List (Arrival α)) :
    total (first :: (middle ++ [last])) = total (first :: middle) + last.work := by
  simp [total, add_assoc]

section OrderedGroup

variable [AddCommGroup α] [LinearOrder α] [IsOrderedAddMonoid α]

/-- One service step meets a deadline exactly when the new work alone does and
the old backlog leaves room for it. -/
theorem serve_le_iff (finish : Option α) (arrival : Arrival α) (deadline : α) :
    serve finish arrival ≤ deadline ↔
      arrival.time + arrival.work ≤ deadline ∧
        ∀ value ∈ finish, value ≤ deadline - arrival.work := by
  cases finish with
  | none => simp [serve]
  | some value =>
      simp only [serve, Option.getD_some, Option.mem_def, Option.some.injEq,
        forall_eq', ← le_sub_iff_add_le, max_le_iff]
      exact and_comm

/-- The segments of a history that ends in `last` are the singleton and the
segments of the shorter history, each extended by the new work. -/
theorem segmentsBy_concat (arrivals : List (Arrival α)) (last : Arrival α)
    (deadline : α) :
    SegmentsBy deadline (arrivals ++ [last]) ↔
      last.time + last.work ≤ deadline ∧
        SegmentsBy (deadline - last.work) arrivals := by
  constructor
  · intro segments
    constructor
    · simpa [total] using segments arrivals last [] rfl
    · intro before first after split
      have extended := segments before first (after ++ [last]) (by simp [split])
      rw [total_cons_concat, ← add_assoc] at extended
      exact le_sub_iff_add_le.mpr extended
  · intro conditions before first after split
    rcases conditions with ⟨alone, segments⟩
    rcases split_concat split with ⟨rfl, rfl, rfl⟩ | ⟨middle, rfl, shorter⟩
    · simpa [total] using alone
    · have extended := le_sub_iff_add_le.mp (segments before first middle shorter)
      rw [total_cons_concat, ← add_assoc]
      exact extended

/-- The finishing time is the latest end of any segment of the history. -/
theorem finishTime_le_iff (arrivals : List (Arrival α)) (deadline : α) :
    (∀ value ∈ finishTime arrivals, value ≤ deadline) ↔
      SegmentsBy deadline arrivals := by
  induction arrivals using List.reverseRecOn generalizing deadline with
  | nil => simp [SegmentsBy]
  | append_singleton arrivals last ih =>
      rw [segmentsBy_concat, ← ih (deadline - last.work), ← serve_le_iff]
      simp

/-- If every segment that starts and ends inside a window carries at most
`bound` work, then so does the window itself, whatever lies between. -/
theorem filter_total_le {β : Type*} (work : β → α) (inside : β → Bool)
    (nonnegative : ∀ item, 0 ≤ work item) {bound : α} (positive : 0 ≤ bound)
    (items : List β)
    (segments : ∀ before first middle last after,
      items = before ++ first :: middle ++ last :: after →
        inside first = true → inside last = true →
          ((first :: middle ++ [last]).map work).sum ≤ bound)
    (singles : ∀ item ∈ items, inside item = true → work item ≤ bound) :
    ((items.filter inside).map work).sum ≤ bound := by
  induction items using List.reverseRecOn with
  | nil => simpa using positive
  | append_singleton items last ih =>
      have shorter : ((items.filter inside).map work).sum ≤ bound := by
        apply ih
        · intro before first middle final after split
          exact segments before first middle final (after ++ [last]) (by simp [split])
        · intro item membership
          exact singles item (by simp [membership])
      by_cases lastInside : inside last = true
      · cases found : items.find? inside with
        | none =>
            have nothing : items.filter inside = [] := by
              simpa [List.filter_eq_nil_iff, List.find?_eq_none] using found
            simpa [List.filter_append, nothing, lastInside] using
              singles last (by simp) lastInside
        | some first =>
            -- The window starts at its first member; everything before it is outside.
            obtain ⟨firstInside, before, middle, split, outside⟩ :=
              List.find?_eq_some_iff_append.mp found
            have nothing : before.filter inside = [] := by
              simpa [List.filter_eq_nil_iff] using outside
            have segment := segments before first middle last []
              (by simp [split]) firstInside lastInside
            refine le_trans ?_ segment
            have trimmed : (items ++ [last]).filter inside =
                (first :: middle ++ [last]).filter inside := by
              simp [split, List.filter_append, nothing]
            rw [trimmed]
            apply List.Sublist.sum_le_sum (List.Sublist.map work List.filter_sublist)
            intro value membership
            rcases List.mem_map.mp membership with ⟨item, -, rfl⟩
            exact nonnegative item
      · simpa [List.filter_append, lastInside] using shorter

end OrderedGroup

end Vortex.Lib.VirtualClock
