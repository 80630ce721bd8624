import Vortex.Filters.Gcra

/-!
# Exactness of GCRA admission on a single clock

When the callers' clock is also the clock that drives key expiry, the script
decides every call exactly as the full history of admitted calls demands.  The
time-to-live is rounded up, so an entry never disappears before the time it
holds has passed; expiry is then invisible, and so are denied calls.
-/

namespace Vortex.Filters

open Lib Lib.VirtualClock

variable {limit periodMs : ℕ}

/-! ## Denied calls leave no trace -/

/-- Replaying only the admitted calls of a run reproduces the run. -/
theorem runKey_admitted (history : List Invocation) :
    runKey limit periodMs (runKey limit periodMs history).admitted =
      runKey limit periodMs history := by
  induction history using List.reverseRecOn with
  | nil => rfl
  | append_singleton history call ih =>
      rw [runKey_concat]
      cases accepted : allowedReply
          (gcraScript limit periodMs (runKey limit periodMs history).slot call).2 with
      | false =>
          have unchanged : (runKey limit periodMs history).record call
              (gcraScript limit periodMs (runKey limit periodMs history).slot call) =
                runKey limit periodMs history := by
            simp [KeyRun.record, accepted, gcraScript_slot_of_not_admitted accepted]
          rw [unchanged, ih]
      | true =>
          have extended : ((runKey limit periodMs history).record call
              (gcraScript limit periodMs (runKey limit periodMs history).slot call)).admitted =
                (runKey limit periodMs history).admitted ++ [call] := by
            simp [KeyRun.record, accepted]
          rw [extended, runKey_concat, ih]

/-! ## Expiry is invisible -/

/-- Every stored time has passed by the end of its time-to-live. -/
def Outlives (slot : Option Entry) : Prop :=
  ∀ entry ∈ slot, entry.value ≤ entry.expiresAt

theorem Outlives.harmless {slot : Option Entry} (outlives : Outlives slot)
    {call : Invocation} (singleClock : call.now = call.clock) :
    ExpiryHarmless slot call := by
  intro entry stored gone
  cases stored
  have expired : entry.expiresAt ≤ call.now := by
    by_contra early
    have live : entry.live call.toMoment = true := by
      simp only [Entry.live, Bool.or_eq_true, decide_eq_true_eq]
      left
      omega
    simp [redisGet, live] at gone
  have passed := outlives entry rfl
  have expired' : (entry.expiresAt : ℚ) ≤ call.now := by exact_mod_cast expired
  exact passed.trans expired'

/-- Rounding the time-to-live up keeps the entry at least until its time. -/
theorem outlives_gcraScript (limitPos : 1 ≤ limit) (periodPos : 1 ≤ periodMs)
    {slot : Option Entry} (outlives : Outlives slot) {call : Invocation}
    (costPos : 1 ≤ call.cost) (singleClock : call.now = call.clock) :
    Outlives (gcraScript limit periodMs slot call).1 := by
  cases accepted : allowedReply (gcraScript limit periodMs slot call).2 with
  | false =>
      rw [gcraScript_slot_of_not_admitted accepted]
      exact outlives
  | true =>
      have positive := now_lt_newTat limitPos periodPos
        (redisGet slot call.toMoment) costPos
      unfold gcraScript at accepted ⊢
      rw [scriptBody_allowed positive ((allowedReply_scriptBody positive).mp accepted)]
      intro entry stored
      cases stored
      generalize newTat limit periodMs (redisGet slot call.toMoment) call = new at positive
      have roundedUp := Int.le_ceil (new - call.now)
      have timeToLive : ((⌈new - call.now⌉.toNat : ℕ) : ℚ) = ⌈new - call.now⌉ := by
        have nonneg : 0 ≤ ⌈new - call.now⌉ := Int.ceil_nonneg (by linarith)
        exact_mod_cast Int.toNat_of_nonneg nonneg
      push_cast
      rw [timeToLive, ← singleClock]
      linarith

section SingleClock

variable (limitPos : 1 ≤ limit) (periodPos : 1 ≤ periodMs)

include limitPos periodPos

theorem outlives_runKey {calls : List Invocation}
    (costs : ∀ call ∈ calls, 1 ≤ call.cost)
    (singleClock : ∀ call ∈ calls, call.now = call.clock) :
    Outlives (runKey limit periodMs calls).slot := by
  induction calls using List.reverseRecOn with
  | nil => simp [Outlives, KeyRun.fresh]
  | append_singleton history call ih =>
      rcases forall_mem_concat.mp costs with ⟨earlierCosts, costPos⟩
      rcases forall_mem_concat.mp singleClock with ⟨earlierClock, onClock⟩
      rw [runKey_concat]
      exact outlives_gcraScript limitPos periodPos (ih earlierCosts earlierClock) costPos onClock

theorem harmlessRun_of_singleClock {calls : List Invocation}
    (costs : ∀ call ∈ calls, 1 ≤ call.cost)
    (singleClock : ∀ call ∈ calls, call.now = call.clock) :
    HarmlessRun limit periodMs calls := by
  intro history call rest split
  subst split
  rcases List.forall_mem_append.mp costs with ⟨earlierCosts, _⟩
  rcases List.forall_mem_append.mp singleClock with ⟨earlierClock, fromHere⟩
  have outlives := outlives_runKey limitPos periodPos earlierCosts earlierClock
  exact outlives.harmless (List.forall_mem_cons.mp fromHere).1

omit limitPos periodPos in
theorem runPersistent_eq {calls : List Invocation}
    (harmless : HarmlessRun limit periodMs calls) :
    runPersistent limit periodMs calls = runKey limit periodMs calls := by
  induction calls using List.reverseRecOn with
  | nil => rfl
  | append_singleton history call ih =>
      rcases harmlessRun_concat.mp harmless with ⟨earlier, here⟩
      rw [runPersistent_concat, runKey_concat, ih earlier, gcraScript_of_harmless here]

/-! ## The decision of a call -/

/-- A call is admitted exactly when it fits one burst and, from every earlier
admitted call onwards, the charged cost fits one burst plus the time elapsed. -/
theorem allowed_iff_windows {history : List Invocation} {call : Invocation}
    (costs : ∀ other ∈ history ++ [call], 1 ≤ other.cost)
    (harmless : HarmlessRun limit periodMs (history ++ [call])) :
    allowedReply (replyAfter limit periodMs history call) = true ↔
      emissionInterval limit periodMs * call.cost ≤ periodMs ∧
        ∀ before first after,
          (runKey limit periodMs history).admitted = before ++ first :: after →
            emissionInterval limit periodMs * (totalCost (first :: after) + call.cost) ≤
              periodMs + ((call.now : ℚ) - first.now) := by
  rcases harmlessRun_concat.mp harmless with ⟨earlier, here⟩
  rcases forall_mem_concat.mp costs with ⟨earlierCosts, costPos⟩
  have tracks := (runKey_tracks limitPos periodPos earlierCosts earlier).1
  rw [replyAfter, allowed_iff_segments limitPos periodPos costPos tracks here,
    List.map_append, List.map_singleton, segmentsBy_concat, segmentsBy_charge_iff]
  constructor
  · intro conditions
    rcases conditions with ⟨alone, segments⟩
    refine ⟨by simp only [charge] at alone; linarith, ?_⟩
    intro before first after split
    have segment := segments before first after split
    simp only [charge] at segment
    linarith
  · intro conditions
    rcases conditions with ⟨alone, segments⟩
    refine ⟨by simp only [charge]; linarith, ?_⟩
    intro before first after split
    have segment := segments before first after split
    simp only [charge]
    linarith

/-- Every window of a run on one clock admits at most one burst plus its own
length at the sustained rate. -/
theorem costWithin_le_of_singleClock {calls : List Invocation}
    (costs : ∀ call ∈ calls, 1 ≤ call.cost)
    (singleClock : ∀ call ∈ calls, call.now = call.clock)
    (start : ℚ) {width : ℚ} (widthNonneg : 0 ≤ width) :
    (costWithin start width (runKey limit periodMs calls).admitted : ℚ) ≤
      limit + width * limit / periodMs := by
  have harmless := harmlessRun_of_singleClock limitPos periodPos costs singleClock
  have conforming := (runKey_tracks limitPos periodPos costs harmless).2
  have synced : ∀ call ∈ (runKey limit periodMs calls).admitted,
      |(call.now : ℚ) - call.clock| ≤ 0 := by
    intro call membership
    simp [singleClock call ((admitted_sublist calls).subset membership)]
  simpa using conforming.costWithin_le limitPos periodPos le_rfl synced start widthNonneg

/-- **Exactness.** In every run on one clock each call is decided by the
all-windows condition over the admitted calls before it; dropping the denied
calls, or expiry altogether, changes no reply; and every window of `width`
milliseconds admits at most `limit + width * limit / period_ms`. The order of
the clock readings is not needed. -/
theorem gcra_exact (calls : List Invocation)
    (costs : ∀ call ∈ calls, 1 ≤ call.cost)
    (singleClock : ∀ call ∈ calls, call.now = call.clock) :
    (∀ history call rest, calls = history ++ call :: rest →
      (allowedReply (replyAfter limit periodMs history call) = true ↔
        emissionInterval limit periodMs * call.cost ≤ periodMs ∧
          ∀ before first after,
            (runKey limit periodMs history).admitted = before ++ first :: after →
              emissionInterval limit periodMs *
                  (totalCost (first :: after) + call.cost) ≤
                periodMs + ((call.now : ℚ) - first.now)) ∧
        replyAfter limit periodMs (runKey limit periodMs history).admitted call =
          replyAfter limit periodMs history call ∧
        replyPersistent limit periodMs history call =
          replyAfter limit periodMs history call) ∧
      ∀ start width : ℚ, 0 ≤ width →
        (costWithin start width (runKey limit periodMs calls).admitted : ℚ) ≤
          limit + width * limit / periodMs := by
  have harmless := harmlessRun_of_singleClock limitPos periodPos costs singleClock
  constructor
  · intro history call rest split
    subst split
    have upTo : HarmlessRun limit periodMs (history ++ [call]) := by
      intro before other after split
      exact harmless before other (after ++ rest) (by
        rw [← List.singleton_append, ← List.append_assoc, split]
        simp)
    refine ⟨allowed_iff_windows limitPos periodPos ?_ upTo, ?_, ?_⟩
    · rcases List.forall_mem_append.mp costs with ⟨earlierCosts, fromHere⟩
      exact forall_mem_concat.mpr ⟨earlierCosts, (List.forall_mem_cons.mp fromHere).1⟩
    · rw [replyAfter, runKey_admitted, replyAfter]
    · rcases harmlessRun_concat.mp upTo with ⟨earlier, here⟩
      rw [replyPersistent, runPersistent_eq earlier, replyAfter, gcraScript_of_harmless here]
  · intro start width widthNonneg
    exact costWithin_le_of_singleClock limitPos periodPos costs singleClock start widthNonneg

end SingleClock

/-- The integration test's run: five calls a second, six at the same instant.
The sixth is denied, and the window holds exactly the limit. -/
theorem gcra_exact_six_at_once :
    let call : Invocation := { clock := 7, lingers := false, now := 7, cost := 1 }
    (allowedReply (replyAfter 5 1000 (List.replicate 5 call) call) = true ↔
      emissionInterval 5 1000 * (call.cost : ℚ) ≤ (1000 : ℕ) ∧
        ∀ before first after,
          (runKey 5 1000 (List.replicate 5 call)).admitted = before ++ first :: after →
            emissionInterval 5 1000 * (totalCost (first :: after) + call.cost) ≤
              (1000 : ℕ) + ((call.now : ℚ) - first.now)) ∧
      (costWithin 7 0 (runKey 5 1000 (List.replicate 6 call)).admitted : ℚ) ≤
        (5 : ℕ) + 0 * (5 : ℕ) / (1000 : ℕ) := by
  intro call
  have exact := @gcra_exact 5 1000 (by decide) (by decide)
    (List.replicate 6 call) (by decide) (by decide)
  exact ⟨(exact.1 (List.replicate 5 call) call [] (by decide)).1, exact.2 7 0 le_rfl⟩

end Vortex.Filters
