import Vortex.Lib.Outcome

/-!
# Programs that ask their host

A program that ends after finitely many questions to its host is a tree: it ends with a
result, or it asks and goes on with the answer.  The host handles a request by an answer,
with the effects it has on the way, or panics, which ends the program.

What the host does is determined by its replies to the requests that are made.
-/

namespace Vortex.Lib

universe u

/-- A program that asks its host. -/
inductive Dialogue (Request Answer Result : Type u) where
  | ends (result : Result)
  | asks (request : Request) (continuation : Answer → Dialogue Request Answer Result)

namespace Dialogue

variable {Request Answer Result Effect : Type u}

/-- Go on with the result of a program. -/
def bind {Next : Type u} (program : Dialogue Request Answer Result)
    (next : Result → Dialogue Request Answer Next) : Dialogue Request Answer Next :=
  match program with
  | .ends result => next result
  | .asks request continuation => .asks request fun answer => (continuation answer).bind next

/-- Run a program: how it ends, and the effects of the replies. -/
def run (handle : Request → Outcome (Answer × List Effect)) :
    Dialogue Request Answer Result → Outcome Result × List Effect
  | .ends result => (.returned result, [])
  | .asks request continuation =>
      match handle request with
      | .panicked => (.panicked, [])
      | .returned (answer, effects) =>
          let rest := run handle (continuation answer)
          (rest.1, effects ++ rest.2)

/-- The requests made, up to one that panics. -/
def requests (handle : Request → Outcome (Answer × List Effect)) :
    Dialogue Request Answer Result → List Request
  | .ends _ => []
  | .asks request continuation =>
      match handle request with
      | .panicked => [request]
      | .returned (answer, _) => request :: requests handle (continuation answer)

variable {handle other : Request → Outcome (Answer × List Effect)}

/-- Hosts that reply alike to the requests made cannot be told apart. -/
theorem run_congr {program : Dialogue Request Answer Result}
    (agree : ∀ request ∈ program.requests handle, other request = handle request) :
    program.run other = program.run handle := by
  induction program with
  | ends result => rfl
  | asks request continuation ih =>
      simp only [run, requests] at agree ⊢
      cases handled : handle request with
      | panicked =>
          rw [handled] at agree
          rw [agree request List.mem_cons_self, handled]
      | returned reply =>
          rw [handled] at agree
          rw [agree request List.mem_cons_self, handled]
          simp only
          rw [ih reply.1 fun later member => agree later (List.mem_cons_of_mem _ member)]

/-- A program is ended by a panic exactly when one of its requests panics. -/
theorem run_panicked_iff (program : Dialogue Request Answer Result) :
    (program.run handle).1 = .panicked ↔
      ∃ request ∈ program.requests handle, handle request = .panicked := by
  induction program with
  | ends result => exact ⟨nofun, nofun⟩
  | asks request continuation ih =>
      simp only [run, requests]
      cases handled : handle request with
      | panicked => exact ⟨fun _ => ⟨request, List.mem_cons_self, handled⟩, fun _ => rfl⟩
      | returned reply =>
          refine (ih reply.1).trans ?_
          constructor
          · rintro ⟨later, member, panics⟩
            exact ⟨later, List.mem_cons_of_mem _ member, panics⟩
          · rintro ⟨later, member, panics⟩
            rcases List.mem_cons.mp member with rfl | member
            · rw [handled] at panics
              cases panics
            · exact ⟨later, member, panics⟩

/-- The effects of a run are those of the replies to its requests. -/
theorem mem_effects_iff (program : Dialogue Request Answer Result) (effect : Effect) :
    effect ∈ (program.run handle).2 ↔
      ∃ request ∈ program.requests handle, ∃ reply, handle request = .returned reply ∧
        effect ∈ reply.2 := by
  induction program with
  | ends result => exact ⟨nofun, nofun⟩
  | asks request continuation ih =>
      simp only [run, requests]
      cases handled : handle request with
      | panicked =>
          refine ⟨nofun, ?_⟩
          rintro ⟨later, member, reply, replied, _⟩
          cases List.mem_singleton.mp member
          rw [handled] at replied
          cases replied
      | returned reply =>
          refine List.mem_append.trans ((or_congr_right (ih reply.1)).trans ?_)
          constructor
          · rintro (now | ⟨later, member, found⟩)
            · exact ⟨request, List.mem_cons_self, reply, handled, now⟩
            · exact ⟨later, List.mem_cons_of_mem _ member, found⟩
          · rintro ⟨later, member, found⟩
            rcases List.mem_cons.mp member with rfl | member
            · rcases found with ⟨again, replied, inside⟩
              rw [handled] at replied
              cases replied
              exact .inl inside
            · exact .inr ⟨later, member, found⟩

end Dialogue

end Vortex.Lib
