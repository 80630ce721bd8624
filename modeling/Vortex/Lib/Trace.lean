import Mathlib.Data.List.Chain
import Mathlib.Data.List.Infix
import Vortex.Lib.Transition

/-!
# What a run shows

An observer of a transition system notes at most one event at each step, depending on
the state in which the step is taken.  Along a run this gives a list of events.  A part
of the state that changes only by the events noted is the result of applying them in
order, so it is determined by the list alone.
-/

namespace Vortex.Lib

universe u v w x

namespace System

variable {State : Type u} {Label : Type v} {Event : Type w}

/-- What is checked after each part of a list of labels holds of the states visited. -/
theorem Visits.of_inits {system : System State Label} {start state : State} {labels : List Label}
    {check : State → Bool}
    (checked : ∀ earlier ∈ labels.inits, (system.run start earlier).all check = true)
    (visits : system.Visits start labels state) : check state = true := by
  rcases visits with ⟨earlier, later, parts, reached⟩
  have passed := checked earlier ((List.mem_inits _ _).mpr ⟨later, parts.symm⟩)
  rw [reached] at passed
  exact passed

/-- The events noted along a run, up to the first step that is not enabled. -/
def observed (system : System State Label) (observe : State → Label → Option Event) :
    State → List Label → List Event
  | _, [] => []
  | state, label :: labels =>
      match system.step state label with
      | none => []
      | some next => (observe state label).toList ++ observed system observe next labels

variable {system : System State Label} {observe : State → Label → Option Event}

theorem observed_cons {state next : State} {label : Label}
    (stepped : system.step state label = some next) (labels : List Label) :
    system.observed observe state (label :: labels) =
      (observe state label).toList ++ system.observed observe next labels := by
  simp only [observed, stepped]

/-- There are no more events than steps. -/
theorem length_observed_le (state : State) (labels : List Label) :
    (system.observed observe state labels).length ≤ labels.length := by
  induction labels generalizing state with
  | nil => exact Nat.le_refl 0
  | cons label labels ih =>
      rw [observed]
      split
      · exact Nat.zero_le _
      · next next _ =>
          have rest := ih next
          cases observe state label with
          | none => exact Nat.le_succ_of_le rest
          | some event => exact Nat.succ_le_succ rest

/-- What changes only by the events noted is the result of all of them. -/
theorem foldl_observed {β : Type x} {field : State → β} {apply : β → Event → β}
    (changes : ∀ {state next : State} {label : Label}, system.step state label = some next →
      field next = (observe state label).toList.foldl apply (field state))
    {state final : State} {labels : List Label} (executed : system.run state labels = some final) :
    field final = (system.observed observe state labels).foldl apply (field state) := by
  induction labels generalizing state with
  | nil =>
      cases executed
      rfl
  | cons label labels ih =>
      rcases Option.bind_eq_some_iff.mp executed with ⟨next, stepped, rest⟩
      rw [observed_cons stepped, List.foldl_append, ← changes stepped]
      exact ih rest

/-- What is related to a value stays related to it, when the value changes by the events
noted. -/
theorem Runs.foldl_observed {β : Type x} {guard : State → Label → Prop}
    {related : β → State → Prop} {apply : β → Event → β}
    (changes : ∀ {state next : State} {label : Label} {value : β}, related value state →
      guard state label → system.step state label = some next →
      related ((observe state label).toList.foldl apply value) next)
    {state final : State} {labels : List Label} (runs : system.Runs guard state labels final)
    {value : β} (initial : related value state) :
    related ((system.observed observe state labels).foldl apply value) final := by
  induction runs generalizing value with
  | nil => exact initial
  | cons allowed stepped _ ih =>
      rw [observed_cons stepped, List.foldl_append]
      exact ih (changes initial allowed stepped)

/-- A system that keeps an invariant, and each of whose steps is then a step of another, or
none, on the part of the state that the other describes, runs as the other does. -/
theorem run_observed_of_invariant {View : Type x} {abstract : System View Event}
    {view : State → View} {inv : State → Prop}
    (preserved : ∀ {state next : State} {label : Label}, inv state →
      system.step state label = some next → inv next)
    (matched : ∀ {state next : State} {label : Label}, inv state →
      system.step state label = some next →
      abstract.run (view state) (observe state label).toList = some (view next))
    {state final : State} {labels : List Label} (initial : inv state)
    (executed : system.run state labels = some final) :
    abstract.run (view state) (system.observed observe state labels) = some (view final) := by
  induction labels generalizing state with
  | nil =>
      cases executed
      rfl
  | cons label labels ih =>
      rcases Option.bind_eq_some_iff.mp executed with ⟨next, stepped, rest⟩
      rw [observed_cons stepped, run_append, matched initial stepped, Option.bind_some]
      exact ih (preserved initial stepped) rest

/-- The same without an invariant. -/
theorem run_observed {View : Type x} {abstract : System View Event} {view : State → View}
    (matched : ∀ {state next : State} {label : Label}, system.step state label = some next →
      abstract.run (view state) (observe state label).toList = some (view next))
    {state final : State} {labels : List Label} (executed : system.run state labels = some final) :
    abstract.run (view state) (system.observed observe state labels) = some (view final) :=
  @run_observed_of_invariant _ _ _ system observe _ abstract view (fun _ => True)
    (fun _ _ => trivial) (fun _ => matched) _ _ _ trivial executed

/-- When a part of the state changes only to a value that is noted, and only to one
related to it, the values noted are related in a row. -/
theorem isChain_observed {field : State → Event} {related : Event → Event → Prop}
    {inv : State → Prop}
    (preserved : ∀ {state next : State} {label : Label}, inv state →
      system.step state label = some next → inv next)
    (changes : ∀ {state next : State} {label : Label}, inv state →
      system.step state label = some next →
        match observe state label with
        | none => field next = field state
        | some value => related (field state) value ∧ field next = value)
    {state final : State} {labels : List Label} (initial : inv state)
    (executed : system.run state labels = some final) :
    List.IsChain related (field state :: system.observed observe state labels) := by
  induction labels generalizing state with
  | nil => exact .singleton _
  | cons label labels ih =>
      rcases Option.bind_eq_some_iff.mp executed with ⟨next, stepped, rest⟩
      have changed := changes initial stepped
      have chain := ih (preserved initial stepped) rest
      rw [observed_cons stepped]
      cases noted : observe state label with
      | none =>
          rw [noted] at changed
          exact changed ▸ chain
      | some value =>
          rw [noted] at changed
          exact .cons_cons changed.1 (changed.2 ▸ chain)

/-- Work that is noted as it is done: what has been noted is what is no longer left. -/
theorem map_observed_append_remaining {Task : Type x} {task : Event → Task}
    {guard : State → Label → Prop} {remaining : State → List Task}
    (works : ∀ {state next : State} {label : Label}, guard state label →
      system.step state label = some next →
      (observe state label).toList.map task ++ remaining next = remaining state)
    {state final : State} {labels : List Label} (runs : system.Runs guard state labels final) :
    (system.observed observe state labels).map task ++ remaining final = remaining state := by
  induction runs with
  | nil => rfl
  | cons allowed stepped _ ih =>
      rw [observed_cons stepped, List.map_append, List.append_assoc, ih]
      exact works allowed stepped

end System

/-- The same for a part of what a list of events does, which only some of them
touch. -/
theorem foldl_filterMap_of_changes {α : Type u} {β : Type v} {Event : Type w} {Part : Type x}
    {field : α → β} {act : α → Event → α} {part : Event → Option Part} {apply : β → Part → β}
    (changes : ∀ value event, field (act value event) =
      (part event).toList.foldl apply (field value)) (events : List Event) (value : α) :
    field (events.foldl act value) = (events.filterMap part).foldl apply (field value) := by
  induction events generalizing value with
  | nil => rfl
  | cons event events ih =>
      rw [List.foldl_cons, ih, changes]
      cases selected : part event with
      | none => rw [List.filterMap_cons_none selected, Option.toList_none, List.foldl_nil]
      | some touched =>
          rw [List.filterMap_cons_some selected, Option.toList_some, List.foldl_cons,
            List.foldl_nil, List.foldl_cons]

/-- Values that replace each other leave the last. -/
theorem foldl_replace {α : Type u} (initial : α) (values : List α) :
    values.foldl (fun _ value => value) initial = values.getLast?.getD initial := by
  induction values generalizing initial with
  | nil => rfl
  | cons first values ih =>
      rw [List.foldl_cons, ih, List.getLast?_cons]
      rfl

end Vortex.Lib
