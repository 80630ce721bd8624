import Vortex.Lib.VirtualClock
import Vortex.Filters.RedisStore
import Mathlib.Tactic.FieldSimp

/-!
# Runs of the GCRA script on one key

The script stores one number per key.  Its meaning is the finishing time of a
server that is charged `emission_interval * cost` by every admitted call, so
the library's virtual clock says which histories of costs and gaps admit a
further call.

Key expiry is the only thing that can break this reading.  `ExpiryHarmless`
says of one call that it is not fooled by it: when the key is gone, the time it
held had already passed on the caller's clock.  On a single clock that is always
so, because the time-to-live is rounded up; across a fleet it is not.
-/

namespace Vortex.Filters

open Lib Lib.VirtualClock

variable {limit periodMs : ℕ}

/-- The slot of one key along a run, with the calls admitted so far. -/
structure KeyRun where
  slot : Option Entry
  admitted : List Invocation
  deriving DecidableEq, Repr

namespace KeyRun

/-- A key that was never written. -/
def fresh : KeyRun := { slot := none, admitted := [] }

/-- Record the outcome of one script execution. -/
def record (state : KeyRun) (call : Invocation)
    (outcome : Option Entry × Except RedisError LuaReply) : KeyRun where
  slot := outcome.1
  admitted :=
    if allowedReply outcome.2 then state.admitted ++ [call] else state.admitted

end KeyRun

/-- Execute the calls on one key, in order. -/
def runKey (limit periodMs : ℕ) (calls : List Invocation) : KeyRun :=
  calls.foldl
    (fun state call => state.record call (gcraScript limit periodMs state.slot call))
    .fresh

/-- The reply to a call made after `history`. -/
def replyAfter (limit periodMs : ℕ) (history : List Invocation)
    (call : Invocation) : Except RedisError LuaReply :=
  (gcraScript limit periodMs (runKey limit periodMs history).slot call).2

/-- The same script on a store whose keys never expire. -/
def runPersistent (limit periodMs : ℕ) (calls : List Invocation) : KeyRun :=
  calls.foldl
    (fun state call => state.record call
      (scriptBody limit periodMs (state.slot.map Entry.value) state.slot call))
    .fresh

/-- The reply to a call made after `history` when keys never expire. -/
def replyPersistent (limit periodMs : ℕ) (history : List Invocation)
    (call : Invocation) : Except RedisError LuaReply :=
  let slot := (runPersistent limit periodMs history).slot
  (scriptBody limit periodMs (slot.map Entry.value) slot call).2

/-- Total cost of a list of calls. -/
def totalCost (calls : List Invocation) : ℕ :=
  (calls.map Invocation.cost).sum

/-- Cost of the calls executed within `width` milliseconds of `start` on the
clock of the Redis server. -/
def costWithin (start width : ℚ) (calls : List Invocation) : ℕ :=
  totalCost (calls.filter fun call =>
    decide (start ≤ call.clock ∧ (call.clock : ℚ) ≤ start + width))

/-- A call as an arrival at the virtual server. -/
def charge (limit periodMs : ℕ) (call : Invocation) : Arrival ℚ where
  time := call.now
  work := emissionInterval limit periodMs * call.cost

/-- If the key has expired at this call, then the time it held is not later
than the caller's clock, so that no debt is forgotten. -/
def ExpiryHarmless (slot : Option Entry) (call : Invocation) : Prop :=
  ∀ entry ∈ slot, redisGet slot call.toMoment = none → entry.value ≤ call.now

instance (slot : Option Entry) (call : Invocation) :
    Decidable (ExpiryHarmless slot call) :=
  match slot with
  | none => isTrue (by simp [ExpiryHarmless])
  | some entry =>
      decidable_of_iff
        (redisGet (some entry) call.toMoment = none → entry.value ≤ call.now)
        (by simp [ExpiryHarmless])

/-- Every call of the run meets `ExpiryHarmless` in the state it starts from. -/
def HarmlessRun (limit periodMs : ℕ) (calls : List Invocation) : Prop :=
  ∀ history call rest, calls = history ++ call :: rest →
    ExpiryHarmless (runKey limit periodMs history).slot call

@[simp] theorem runKey_nil : runKey limit periodMs [] = .fresh := rfl

@[simp] theorem runKey_concat (history : List Invocation) (call : Invocation) :
    runKey limit periodMs (history ++ [call]) =
      (runKey limit periodMs history).record call
        (gcraScript limit periodMs (runKey limit periodMs history).slot call) := by
  simp [runKey]

@[simp] theorem runPersistent_concat (history : List Invocation)
    (call : Invocation) :
    runPersistent limit periodMs (history ++ [call]) =
      (runPersistent limit periodMs history).record call
        (scriptBody limit periodMs
          ((runPersistent limit periodMs history).slot.map Entry.value)
          (runPersistent limit periodMs history).slot call) := by
  simp [runPersistent]

/-- The admitted calls are calls of the run, in the same order. -/
theorem admitted_sublist (calls : List Invocation) :
    (runKey limit periodMs calls).admitted.Sublist calls := by
  induction calls using List.reverseRecOn with
  | nil => exact .slnil
  | append_singleton history call ih =>
      rw [runKey_concat, KeyRun.record]
      dsimp only
      split
      · exact ih.append (List.Sublist.refl [call])
      · exact ih.trans (List.sublist_append_left history [call])

/-- A run is harmless when it is so up to its last call and that call is. -/
theorem harmlessRun_concat {history : List Invocation} {call : Invocation} :
    HarmlessRun limit periodMs (history ++ [call]) ↔
      HarmlessRun limit periodMs history ∧
        ExpiryHarmless (runKey limit periodMs history).slot call :=
  forall_split_concat

/-! ## What one call sees -/

theorem newTat_eq_serve (stored : Option ℚ) (call : Invocation) :
    newTat limit periodMs stored call =
      serve stored (charge limit periodMs call) := rfl

/-- A harmless expiry does not change where the call starts from. -/
theorem startTat_of_harmless {slot : Option Entry} {call : Invocation}
    (harmless : ExpiryHarmless slot call) :
    startTat (redisGet slot call.toMoment) call.now =
      startTat (slot.map Entry.value) call.now := by
  cases slot with
  | none => rfl
  | some entry =>
      have passed := harmless entry rfl
      cases live : entry.live call.toMoment with
      | true => simp [redisGet, live]
      | false =>
          have past : entry.value ≤ call.now := passed (by simp [redisGet, live])
          simp [redisGet, live, startTat, past]

/-- The whole outcome of a call is the one a store without expiry would give. -/
theorem gcraScript_of_harmless {slot : Option Entry} {call : Invocation}
    (harmless : ExpiryHarmless slot call) :
    gcraScript limit periodMs slot call =
      scriptBody limit periodMs (slot.map Entry.value) slot call := by
  unfold gcraScript scriptBody newTat
  rw [startTat_of_harmless harmless]

/-! ## The stored number is a finishing time -/

/-- The slot holds the finishing time of the admitted calls. -/
def KeyRun.Tracks (limit periodMs : ℕ) (state : KeyRun) : Prop :=
  state.slot.map Entry.value =
    finishTime (state.admitted.map (charge limit periodMs))

/-- Every admitted call was within one burst of its own clock, counted from any
earlier admitted call. -/
def Conforming (limit periodMs : ℕ) (calls : List Invocation) : Prop :=
  ∀ history call rest, calls = history ++ call :: rest →
    SegmentsBy ((call.now : ℚ) + periodMs)
      ((history ++ [call]).map (charge limit periodMs))

theorem Conforming.concat {history : List Invocation} {call : Invocation}
    (conforming : Conforming limit periodMs history)
    (segments : SegmentsBy ((call.now : ℚ) + periodMs)
      ((history ++ [call]).map (charge limit periodMs))) :
    Conforming limit periodMs (history ++ [call]) :=
  forall_split_concat.mpr ⟨conforming, segments⟩

theorem Conforming.of_append {history later : List Invocation}
    (conforming : Conforming limit periodMs (history ++ later)) :
    Conforming limit periodMs history := by
  intro before call rest split
  apply conforming before call (rest ++ later)
  rw [split, List.append_assoc]
  rfl

/-- Work of a list of calls at the virtual server. -/
theorem total_charge (calls : List Invocation) :
    total (calls.map (charge limit periodMs)) =
      emissionInterval limit periodMs * totalCost calls := by
  induction calls with
  | nil => simp [total, totalCost]
  | cons call calls ih =>
      simp only [total, totalCost, List.map_cons, List.sum_cons, Nat.cast_add,
        mul_add] at ih ⊢
      rw [ih]
      rfl

/-- The segments of a history of calls, in terms of their costs. -/
theorem segmentsBy_charge_iff (calls : List Invocation) (deadline : ℚ) :
    SegmentsBy deadline (calls.map (charge limit periodMs)) ↔
      ∀ before first after, calls = before ++ first :: after →
        (first.now : ℚ) +
          emissionInterval limit periodMs * totalCost (first :: after) ≤ deadline := by
  constructor
  · intro segments before first after split
    have segment := segments (before.map (charge limit periodMs))
      (charge limit periodMs first) (after.map (charge limit periodMs))
      (by simp [split])
    rwa [← List.map_cons, total_charge] at segment
  · intro segments before first after split
    rcases List.map_eq_append_iff.mp split with ⟨before', rest, rfl, rfl, restEq⟩
    rcases List.map_eq_cons_iff.mp restEq with ⟨first', after', rfl, rfl, rfl⟩
    rw [← List.map_cons, total_charge]
    exact segments before' first' after' rfl

/-! ## What the stored number can be at most -/

/-- A server with more behind it finishes later. -/
theorem newTat_mono {stored : Option ℚ} {bound : Option ℚ} {call : Invocation}
    (within : ∀ value ∈ stored, ∃ finish ∈ bound, value ≤ finish) :
    newTat limit periodMs stored call ≤ serve bound (charge limit periodMs call) := by
  rw [newTat_eq_serve, serve, serve]
  apply add_le_add_left
  cases stored with
  | none => exact max_le (le_max_right _ _) (le_max_right _ _)
  | some value =>
      rcases within value rfl with ⟨finish, rfl, below⟩
      exact max_le_max_right _ below

/-- What `GET` answers is at most what bounds the slot. -/
theorem redisGet_within {slot : Option Entry} {bound : Option ℚ} {call : Invocation}
    (within : ∀ entry ∈ slot, ∃ finish ∈ bound, entry.value ≤ finish) :
    ∀ value ∈ redisGet slot call.toMoment, ∃ finish ∈ bound, value ≤ finish := by
  intro value answered
  rcases redisGet_eq_some answered with ⟨entry, stored, rfl⟩
  exact within entry stored

/-- Whatever expires and whoever is denied, the slot holds at most the finishing time of all
calls so far. -/
theorem runKey_slot_le_finishTime (calls : List Invocation) :
    ∀ entry ∈ (runKey limit periodMs calls).slot,
      ∃ finish ∈ finishTime (calls.map (charge limit periodMs)), entry.value ≤ finish := by
  induction calls using List.reverseRecOn with
  | nil => nofun
  | append_singleton history call ih =>
      intro entry left
      rw [runKey_concat, KeyRun.record] at left
      rw [List.map_append, List.map_singleton, finishTime_concat]
      refine ⟨_, rfl, ?_⟩
      rcases gcraScript_slot_cases left with stored | ⟨written, _⟩
      · rcases ih entry stored with ⟨finish, finished, below⟩
        rw [finished, serve]
        have work : 0 ≤ emissionInterval limit periodMs * call.cost := by
          rw [emissionInterval]
          positivity
        exact below.trans ((le_max_left _ _).trans (le_add_of_nonneg_right work))
      · rw [written]
        exact newTat_mono (redisGet_within ih)

/-- The slot holds at most one period more than the latest clock of a caller. -/
theorem runKey_slot_le {calls : List Invocation} {latest : ℚ}
    (byLatest : ∀ call ∈ calls, (call.now : ℚ) ≤ latest) :
    ∀ entry ∈ (runKey limit periodMs calls).slot, entry.value ≤ latest + periodMs := by
  induction calls using List.reverseRecOn with
  | nil => nofun
  | append_singleton history call ih =>
      intro entry left
      rcases forall_mem_concat.mp byLatest with ⟨earlier, here⟩
      rw [runKey_concat, KeyRun.record] at left
      rcases gcraScript_slot_cases left with stored | ⟨_, bounded⟩
      · exact ih earlier entry stored
      · exact bounded.trans (by linarith)

/-- A call that conforms together with all calls before it is not refused. -/
theorem gcraScript_of_conforming {history : List Invocation} {call : Invocation}
    (conforming : Conforming limit periodMs (history ++ [call])) :
    ∀ reply, (gcraScript limit periodMs (runKey limit periodMs history).slot call).2 =
      .ok reply → reply.allowed = 1 := by
  apply gcraScript_of_early
  have segments := (finishTime_le_iff _ _).mpr (conforming history call [] rfl)
  rw [List.map_append, List.map_singleton, finishTime_concat] at segments
  exact (newTat_mono (redisGet_within (runKey_slot_le_finishTime history))).trans
    (segments _ rfl)

variable (limitPos : 1 ≤ limit) (periodPos : 1 ≤ periodMs)

include limitPos periodPos

/-- Decision of one call in a state whose slot tracks its history. -/
theorem allowed_iff_segments {state : KeyRun} {call : Invocation}
    (costPos : 1 ≤ call.cost) (tracks : state.Tracks limit periodMs)
    (harmless : ExpiryHarmless state.slot call) :
    allowedReply (gcraScript limit periodMs state.slot call).2 = true ↔
      SegmentsBy ((call.now : ℚ) + periodMs)
        ((state.admitted ++ [call]).map (charge limit periodMs)) := by
  rw [gcraScript_of_harmless harmless,
    allowedReply_scriptBody (now_lt_newTat limitPos periodPos _ costPos),
    newTat_eq_serve, tracks, List.map_append, List.map_singleton,
    ← finishTime_le_iff, finishTime_concat]
  simp

/-- One call keeps the slot equal to the finishing time. -/
theorem KeyRun.Tracks.step {state : KeyRun} {call : Invocation}
    (costPos : 1 ≤ call.cost) (tracks : state.Tracks limit periodMs)
    (harmless : ExpiryHarmless state.slot call) :
    (state.record call
      (gcraScript limit periodMs state.slot call)).Tracks limit periodMs := by
  cases accepted : allowedReply (gcraScript limit periodMs state.slot call).2 with
  | false =>
      simpa [KeyRun.Tracks, KeyRun.record, accepted,
        gcraScript_slot_of_not_admitted accepted] using tracks
  | true =>
      have positive := now_lt_newTat limitPos periodPos
        (state.slot.map Entry.value) costPos
      rw [gcraScript_of_harmless harmless] at accepted ⊢
      have written : (scriptBody limit periodMs (state.slot.map Entry.value)
          state.slot call).1.map Entry.value =
            some (newTat limit periodMs (state.slot.map Entry.value) call) := by
        rw [scriptBody_allowed positive
          ((allowedReply_scriptBody positive).mp accepted)]
        rfl
      simp only [KeyRun.Tracks, KeyRun.record, accepted, if_true, written,
        List.map_append, List.map_singleton, finishTime_concat]
      rw [← tracks, newTat_eq_serve]

/-- Along every harmless run the slot is the finishing time of the admitted
calls, and these conform. -/
theorem runKey_tracks {calls : List Invocation}
    (costs : ∀ call ∈ calls, 1 ≤ call.cost)
    (harmless : HarmlessRun limit periodMs calls) :
    (runKey limit periodMs calls).Tracks limit periodMs ∧
      Conforming limit periodMs (runKey limit periodMs calls).admitted := by
  induction calls using List.reverseRecOn with
  | nil => exact ⟨rfl, by intro _ _ _ split; simp [KeyRun.fresh] at split⟩
  | append_singleton history call ih =>
      rcases harmlessRun_concat.mp harmless with ⟨earlier, here⟩
      rcases forall_mem_concat.mp costs with ⟨earlierCosts, costPos⟩
      rcases ih earlierCosts earlier with ⟨tracks, conforming⟩
      rw [runKey_concat]
      refine ⟨tracks.step limitPos periodPos costPos here, ?_⟩
      cases accepted : allowedReply
          (gcraScript limit periodMs (runKey limit periodMs history).slot call).2 with
      | false => simpa [KeyRun.record, accepted] using conforming
      | true =>
          have segments := (allowed_iff_segments limitPos periodPos costPos
            tracks here).mp accepted
          simpa [KeyRun.record, accepted] using conforming.concat segments

/-- Conforming calls keep every window of the Redis clock within the budget,
up to twice the distance between the callers' clocks and that clock. -/
theorem Conforming.costWithin_le {calls : List Invocation}
    (conforming : Conforming limit periodMs calls) {skew : ℚ} (skewNonneg : 0 ≤ skew)
    (synced : ∀ call ∈ calls, |(call.now : ℚ) - call.clock| ≤ skew)
    (start : ℚ) {width : ℚ} (widthNonneg : 0 ≤ width) :
    (costWithin start width calls : ℚ) ≤
      limit + (width + 2 * skew) * limit / periodMs := by
  have interval := emissionInterval_pos limitPos periodPos
  have periodPos' : (0 : ℚ) < periodMs := by exact_mod_cast periodPos
  have limitPos' : (0 : ℚ) < limit := by exact_mod_cast limitPos
  have weighted : emissionInterval limit periodMs * costWithin start width calls ≤
      periodMs + (width + 2 * skew) := by
    rw [costWithin, ← total_charge, total, List.map_map]
    apply filter_total_le
    · intro call
      exact mul_nonneg interval.le (Nat.cast_nonneg _)
    · positivity
    · intro before first middle last after split firstInside lastInside
      rw [decide_eq_true_eq] at firstInside lastInside
      have segment := (segmentsBy_charge_iff _ _).mp
        (conforming (before ++ first :: middle) last after split)
        before first (middle ++ [last]) (by simp)
      have firstSynced := abs_le.mp (synced first (by simp [split]))
      have lastSynced := abs_le.mp (synced last (by simp [split]))
      have work : ((first :: middle ++ [last]).map
          (Arrival.work ∘ charge limit periodMs)).sum =
            emissionInterval limit periodMs * totalCost (first :: (middle ++ [last])) := by
        rw [← List.map_map, ← total, total_charge]
        rfl
      rw [work]
      linarith [firstInside.1, lastInside.2]
    · intro call membership _
      rcases List.append_of_mem membership with ⟨before, after, split⟩
      have segment := (segmentsBy_charge_iff _ _).mp
        (conforming before call after split) before call [] rfl
      simp only [totalCost, List.map_cons, List.map_nil, List.sum_cons, List.sum_nil,
        Nat.add_zero] at segment
      simp only [Function.comp_apply, charge]
      linarith
  have budget : (limit : ℚ) + (width + 2 * skew) * limit / periodMs =
      (periodMs + (width + 2 * skew)) / emissionInterval limit periodMs := by
    rw [emissionInterval]
    field_simp
  rw [budget, le_div_iff₀ interval, mul_comm]
  exact weighted

end Vortex.Filters
