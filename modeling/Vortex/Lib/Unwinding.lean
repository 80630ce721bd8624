import Mathlib.Data.List.Basic

/-!
# Unwinding

A machine that many users share gives outputs as it takes its events.  A user cannot be
influenced by events that do not concern it when each such event leaves the user's part of
the state as it was and gives the user no output, and every other event acts alike on
states that agree on that part.  The events that do not concern the user can then be left
out of a run without the user noticing.
-/

namespace Vortex.Lib

universe u v w

variable {State : Type u} {Event : Type v} {Output : Type w}

/-- The state and the outputs after a list of events. -/
def runOutputs (step : State → Event → State × Option Output) :
    State → List Event → State × List Output
  | state, [] => (state, [])
  | state, event :: events =>
      let stepped := step state event
      let rest := runOutputs step stepped.1 events
      (rest.1, stepped.2.toList ++ rest.2)

variable {step : State → Event → State × Option Output}

theorem runOutputs_append (state : State) (earlier later : List Event) :
    runOutputs step state (earlier ++ later) =
      ((runOutputs step (runOutputs step state earlier).1 later).1,
        (runOutputs step state earlier).2 ++
          (runOutputs step (runOutputs step state earlier).1 later).2) := by
  induction earlier generalizing state with
  | nil => rfl
  | cons event earlier ih =>
      simp only [List.cons_append, runOutputs, ih, List.append_assoc]

/-- A machine whose every step is one of a second machine, for some event that is the same
once `forget` has removed what the first machine decides by itself, runs like the second. -/
theorem runOutputs_refines {Other : Type*} {Resolved : Type*} {forget : Resolved → Event}
    {other : Other → Resolved → Other × Option Output} {related : State → Other → Prop}
    (steps : ∀ {first second} event, related first second → ∃ resolved,
      forget resolved = event ∧ related (step first event).1 (other second resolved).1 ∧
        (step first event).2 = (other second resolved).2)
    {first : State} {second : Other} (start : related first second) (events : List Event) :
    ∃ resolved, resolved.map forget = events ∧
      related (runOutputs step first events).1 (runOutputs other second resolved).1 ∧
        (runOutputs step first events).2 = (runOutputs other second resolved).2 := by
  induction events generalizing first second with
  | nil => exact ⟨[], rfl, start, rfl⟩
  | cons event events ih =>
      rcases steps event start with ⟨resolved, same, next, output⟩
      rcases ih next with ⟨rest, sameRest, final, outputs⟩
      refine ⟨resolved :: rest, ?_, final, ?_⟩
      · rw [List.map_cons, same, sameRest]
      · simp only [runOutputs, output, outputs]

/-- Events that do not concern a user can be left out. -/
theorem runOutputs_filter {agree : State → State → Prop} {allowed : Event → Prop}
    {concerns : Event → Bool} {mine : Output → Bool}
    (ignored : ∀ {first second : State} {event : Event}, allowed event →
      concerns event = false → agree first second →
        agree (step first event).1 second ∧ (step first event).2.toList.filter mine = [])
    (shared : ∀ {first second : State} {event : Event}, allowed event →
      concerns event = true → agree first second →
        agree (step first event).1 (step second event).1 ∧
          (step first event).2 = (step second event).2)
    {first second : State} (agreeing : agree first second) {events : List Event}
    (allAllowed : ∀ event ∈ events, allowed event) :
    agree (runOutputs step first events).1
        (runOutputs step second (events.filter concerns)).1 ∧
      (runOutputs step first events).2.filter mine =
        (runOutputs step second (events.filter concerns)).2.filter mine := by
  induction events generalizing first second with
  | nil => exact ⟨agreeing, rfl⟩
  | cons event events ih =>
      have here := allAllowed event List.mem_cons_self
      have later : ∀ other ∈ events, allowed other := fun other member =>
        allAllowed other (List.mem_cons_of_mem _ member)
      cases concerned : concerns event with
      | false =>
          rcases ignored here concerned agreeing with ⟨still, silent⟩
          rcases ih still later with ⟨states, outputs⟩
          simp only [runOutputs, List.filter_append, silent, List.nil_append,
            List.filter_cons_of_neg (Bool.eq_false_iff.mp concerned)]
          exact ⟨states, outputs⟩
      | true =>
          rcases shared here concerned agreeing with ⟨still, same⟩
          rcases ih still later with ⟨states, outputs⟩
          simp only [List.filter_cons_of_pos concerned, runOutputs, List.filter_append, same,
            outputs]
          exact ⟨states, trivial⟩

end Vortex.Lib
