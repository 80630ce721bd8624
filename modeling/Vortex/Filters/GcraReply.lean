import Vortex.Filters.GcraExact

/-!
# What a reply promises

A reply says how much may still be spent at once, `remaining`, and after what time
the limit has fully reset, `reset_after`.  The two branches of the script compute
both numbers from different quantities, but always from the theoretical arrival time
the call leaves behind: charged when the call is admitted, uncharged when it is not.

`remaining` is exact.  `reset_after` would be, but Redis truncates it to whole
milliseconds on the way to the caller, while the time-to-live of the key is rounded
up.  Waiting for it is enough exactly when the time left behind is a whole number.
-/

namespace Vortex.Filters

open Lib

variable {limit periodMs : ℕ}

/-- The theoretical arrival time a call leaves behind. -/
def tatAfter (limit periodMs : ℕ) (stored : Option ℚ) (call : Invocation) : ℚ :=
  if newTat limit periodMs stored call ≤ call.now + periodMs then
    newTat limit periodMs stored call
  else startTat stored call.now

/-- The reply of the script, in terms of the time the call leaves behind. -/
def promise (limit periodMs : ℕ) (stored : Option ℚ) (call : Invocation) : LuaReply where
  allowed := if newTat limit periodMs stored call ≤ call.now + periodMs then 1 else 0
  remaining := remainingAt limit periodMs (tatAfter limit periodMs stored call) call.now
  resetAfterMs := tatAfter limit periodMs stored call - call.now

/-- One moment does not come before another on the clock of the server. -/
def Moment.NoEarlier (first second : Moment) : Prop :=
  first.clock < second.clock ∨
    first.clock = second.clock ∧ (second.lingers = true → first.lingers = true)

theorem Entry.live_of_noEarlier {entry : Entry} {first second : Moment}
    (later : first.NoEarlier second) (live : entry.live second = true) :
    entry.live first = true := by
  simp only [Entry.live, Bool.or_eq_true, Bool.and_eq_true, decide_eq_true_eq] at live ⊢
  rcases later with before | ⟨same, lingers⟩
  · left
    omega
  · rcases live with inside | ⟨last, atEnd⟩
    · left
      omega
    · right
      exact ⟨lingers last, same.trans atEnd⟩

/-! ## The time a call leaves behind -/

theorem now_le_tatAfter (limitPos : 1 ≤ limit) (periodPos : 1 ≤ periodMs) (stored : Option ℚ)
    {call : Invocation} (costPos : 1 ≤ call.cost) :
    (call.now : ℚ) ≤ tatAfter limit periodMs stored call := by
  rw [tatAfter]
  split
  · exact (now_lt_newTat limitPos periodPos stored costPos).le
  · exact now_le_startTat stored call.now

/-- A harmless expiry does not change the time left behind either. -/
theorem tatAfter_of_harmless {slot : Option Entry} {call : Invocation}
    (harmless : ExpiryHarmless slot call) :
    tatAfter limit periodMs (redisGet slot call.toMoment) call =
      tatAfter limit periodMs (slot.map Entry.value) call := by
  have start := startTat_of_harmless harmless
  have new : newTat limit periodMs (redisGet slot call.toMoment) call =
      newTat limit periodMs (slot.map Entry.value) call := by
    rw [newTat, start, newTat]
  rw [tatAfter, new, start, tatAfter]

section Positive

variable (limitPos : 1 ≤ limit) (periodPos : 1 ≤ periodMs)

include limitPos periodPos

theorem gcraScript_reply (slot : Option Entry) {call : Invocation} (costPos : 1 ≤ call.cost) :
    (gcraScript limit periodMs slot call).2 =
      .ok (promise limit periodMs (redisGet slot call.toMoment) call) := by
  rw [gcraScript]
  by_cases early : newTat limit periodMs (redisGet slot call.toMoment) call ≤
      call.now + periodMs
  · rw [scriptBody_allowed (now_lt_newTat limitPos periodPos _ costPos) early]
    simp only [promise, tatAfter, if_pos early]
  · rw [scriptBody_denied (not_le.mp early)]
    simp only [promise, tatAfter, if_neg early]

/-- A call is admitted exactly when its cost fits one burst above the time it
starts from. -/
theorem allowed_iff_start (slot : Option Entry) {call : Invocation} (costPos : 1 ≤ call.cost) :
    allowedReply (gcraScript limit periodMs slot call).2 = true ↔
      startTat (redisGet slot call.toMoment) call.now +
        emissionInterval limit periodMs * call.cost ≤ call.now + periodMs :=
  allowedReply_scriptBody (now_lt_newTat limitPos periodPos _ costPos)

/-- What a call leaves in the slot: its new time, until that time has passed, or
what was there. -/
theorem gcraScript_slot (slot : Option Entry) {call : Invocation} (costPos : 1 ≤ call.cost) :
    (∃ entry, (gcraScript limit periodMs slot call).1 = some entry ∧
        call.clock < entry.expiresAt ∧
        entry.value = tatAfter limit periodMs (redisGet slot call.toMoment) call) ∨
      (gcraScript limit periodMs slot call).1 = slot ∧
        tatAfter limit periodMs (redisGet slot call.toMoment) call =
          startTat (redisGet slot call.toMoment) call.now := by
  rw [gcraScript]
  by_cases early : newTat limit periodMs (redisGet slot call.toMoment) call ≤
      call.now + periodMs
  · have positive := now_lt_newTat limitPos periodPos (redisGet slot call.toMoment) costPos
    left
    rw [scriptBody_allowed positive early, tatAfter, if_pos early]
    refine ⟨_, rfl, ?_, rfl⟩
    have timeToLive : 0 < ⌈newTat limit periodMs (redisGet slot call.toMoment) call -
        call.now⌉ := by
      rw [Int.ceil_pos]
      linarith
    dsimp only
    omega
  · right
    rw [scriptBody_denied (not_le.mp early), tatAfter, if_neg early]
    exact ⟨rfl, rfl⟩

/-! ## Where the next call starts from -/

/-- A call at the same moment starts from the time left behind. -/
theorem startTat_same_moment {slot : Option Entry} {call next : Invocation}
    (costPos : 1 ≤ call.cost) (sameMoment : next.toMoment = call.toMoment) :
    startTat (redisGet (gcraScript limit periodMs slot call).1 next.toMoment) call.now =
      tatAfter limit periodMs (redisGet slot call.toMoment) call := by
  rw [sameMoment]
  rcases gcraScript_slot limitPos periodPos slot costPos with
    ⟨entry, written, alive, holds⟩ | ⟨untouched, left⟩
  · have live : entry.live call.toMoment = true := by simp [Entry.live, alive]
    have passed := now_le_tatAfter limitPos periodPos (redisGet slot call.toMoment) costPos
    have seen : redisGet (some entry) call.toMoment = some entry.value := if_pos live
    rw [written, seen, holds]
    exact max_eq_left passed
  · rw [untouched, left]

/-- On a single clock a later call starts from the time left behind, or from its own
clock once that has passed. -/
theorem startTat_of_later {slot : Option Entry} {call next : Invocation}
    (costPos : 1 ≤ call.cost) (later : call.now ≤ next.now)
    (harmless : ExpiryHarmless slot call)
    (harmlessNext : ExpiryHarmless (gcraScript limit periodMs slot call).1 next) :
    startTat (redisGet (gcraScript limit periodMs slot call).1 next.toMoment) next.now =
      max (tatAfter limit periodMs (redisGet slot call.toMoment) call) next.now := by
  rw [startTat_of_harmless harmlessNext]
  rcases gcraScript_slot limitPos periodPos slot costPos with
    ⟨entry, written, _, holds⟩ | ⟨untouched, left⟩
  · rw [written, ← holds]
    rfl
  · have later' : (call.now : ℚ) ≤ next.now := by exact_mod_cast later
    rw [untouched, left, startTat_of_harmless harmless]
    cases slot with
    | none => simp [startTat, later']
    | some entry => simp [startTat, max_assoc, later']

/-- Whatever the clocks, a call at no earlier moment starts no later than that. -/
theorem startTat_le_of_noEarlier {slot : Option Entry} {call next : Invocation}
    (costPos : 1 ≤ call.cost) (later : call.toMoment.NoEarlier next.toMoment) :
    startTat (redisGet (gcraScript limit periodMs slot call).1 next.toMoment) next.now ≤
      max (tatAfter limit periodMs (redisGet slot call.toMoment) call) next.now := by
  cases found : redisGet (gcraScript limit periodMs slot call).1 next.toMoment with
  | none => simp [startTat]
  | some value =>
      apply max_le_max_right
      rcases gcraScript_slot limitPos periodPos slot costPos with
        ⟨entry, written, _, holds⟩ | ⟨untouched, left⟩
      · rw [written, redisGet] at found
        split at found
        · cases found
          exact holds.le
        · cases found
      · rw [untouched] at found
        have seen : redisGet slot call.toMoment = some value := by
          cases slot with
          | none => cases found
          | some entry =>
              rw [redisGet] at found ⊢
              split at found
              · next live => rwa [if_pos (entry.live_of_noEarlier later live)]
              · cases found
        rw [left, seen]
        exact le_max_left _ _

/-! ## `remaining` -/

/-- `remaining` is the greatest cost that still fits one burst. -/
theorem le_remainingAt_iff {tat : ℚ} {now cost : ℕ} (costPos : 1 ≤ cost) :
    (cost : ℤ) ≤ remainingAt limit periodMs tat now ↔
      tat + emissionInterval limit periodMs * cost ≤ now + periodMs := by
  have clamp : (cost : ℤ) ≤ remainingAt limit periodMs tat now ↔
      (cost : ℤ) ≤ ⌊(periodMs - (tat - now)) / emissionInterval limit periodMs⌋ := by
    rw [remainingAt]
    split <;> omega
  rw [clamp, Int.le_floor, le_div_iff₀ (emissionInterval_pos limitPos periodPos), Int.cast_natCast]
  constructor <;> intro fits <;> linarith

omit periodPos in
theorem emissionInterval_mul_limit : emissionInterval limit periodMs * limit = periodMs := by
  have limitPos' : (0 : ℚ) < limit := by exact_mod_cast limitPos
  rw [emissionInterval, div_mul_cancel₀ _ limitPos'.ne']

/-- At most the limit remains once the clock is no later than the arrival time. -/
theorem remainingAt_le {tat : ℚ} {now : ℕ} (passed : (now : ℚ) ≤ tat) :
    remainingAt limit periodMs tat now ≤ limit := by
  by_contra more
  have fits := (le_remainingAt_iff limitPos periodPos (Nat.le_add_left 1 limit)).mp
    (show ((limit + 1 : ℕ) : ℤ) ≤ remainingAt limit periodMs tat now by push_cast; omega)
  have interval := emissionInterval_pos limitPos periodPos
  have burst : emissionInterval limit periodMs * limit = periodMs :=
    emissionInterval_mul_limit limitPos
  push_cast at fits
  linarith

end Positive

theorem remainingAt_nonneg (tat : ℚ) (now : ℕ) : 0 ≤ remainingAt limit periodMs tat now := by
  rw [remainingAt]
  split <;> omega

/-- A number that fits the reply's integers reaches the caller unchanged. -/
theorem decodeReply_remaining {reply : LuaReply} (nonneg : 0 ≤ reply.remaining)
    (fits : reply.remaining < 2 ^ 63) :
    ((decodeReply reply).remaining : ℤ) = reply.remaining := by
  change ((redisInteger reply.remaining % 2 ^ 64).toNat : ℤ) = reply.remaining
  rw [redisInteger_intCast]
  omega

theorem slot_runKey_concat (history : List Invocation) (call : Invocation) :
    (runKey limit periodMs (history ++ [call])).slot =
      (gcraScript limit periodMs (runKey limit periodMs history).slot call).1 := by
  rw [runKey_concat, KeyRun.record]

/-- On a single clock the next call of a run starts from the time the last one left
behind, or from its own clock once that has passed. -/
theorem startTat_of_singleClock (limitPos : 1 ≤ limit) (periodPos : 1 ≤ periodMs)
    {history : List Invocation} {call next : Invocation}
    (costs : ∀ other ∈ history ++ [call], 1 ≤ other.cost)
    (singleClock : ∀ other ∈ history ++ [call], other.now = other.clock)
    (nextClock : next.now = next.clock) (later : call.now ≤ next.now) :
    startTat (redisGet (runKey limit periodMs (history ++ [call])).slot next.toMoment)
        next.now =
      max (tatAfter limit periodMs
        (redisGet (runKey limit periodMs history).slot call.toMoment) call) next.now := by
  have harmless := harmlessRun_of_singleClock limitPos periodPos costs singleClock
  have outlives := outlives_runKey limitPos periodPos costs singleClock
  rw [slot_runKey_concat] at outlives ⊢
  exact startTat_of_later limitPos periodPos (forall_mem_concat.mp costs).2 later
    (harmlessRun_concat.mp harmless).2 (outlives.harmless nextClock)

/-- **`remaining` is exact.** After any run, a call that is answered `remaining`,
admitted or not, leaves room at its instant for exactly the costs up to it.  The two
calls see the same expiry of the key, or all calls are made on the server's own
clock. -/
theorem remaining_exact (limitPos : 1 ≤ limit) (periodPos : 1 ≤ periodMs)
    (history : List Invocation) (call : Invocation)
    (costs : ∀ other ∈ history ++ [call], 1 ≤ other.cost) :
    ∃ reply, replyAfter limit periodMs history call = .ok reply ∧
      (limit < 2 ^ 63 → ((decodeReply reply).remaining : ℤ) = reply.remaining) ∧
      ∀ next : Invocation, 1 ≤ next.cost → next.now = call.now → next.clock = call.clock →
        (next.lingers = call.lingers ∨ ∀ other ∈ history ++ [call], other.now = other.clock) →
        (allowedReply (replyAfter limit periodMs (history ++ [call]) next) = true ↔
          (next.cost : ℤ) ≤ reply.remaining) := by
  have costPos := (forall_mem_concat.mp costs).2
  refine ⟨_, gcraScript_reply limitPos periodPos _ costPos, ?_, ?_⟩
  · intro small
    apply decodeReply_remaining (remainingAt_nonneg _ _)
    have most := remainingAt_le limitPos periodPos (now_le_tatAfter limitPos periodPos
      (redisGet (runKey limit periodMs history).slot call.toMoment) costPos)
    rw [promise]
    dsimp only
    omega
  · intro next nextCost sameNow sameClock expiry
    have start : startTat (redisGet (runKey limit periodMs (history ++ [call])).slot
        next.toMoment) next.now =
          tatAfter limit periodMs (redisGet (runKey limit periodMs history).slot call.toMoment)
            call := by
      rcases expiry with sameExpiry | singleClock
      · rw [slot_runKey_concat, sameNow]
        apply startTat_same_moment limitPos periodPos costPos
        rw [Moment.mk.injEq]
        exact ⟨sameClock, sameExpiry, sameNow⟩
      · have onClock := (forall_mem_concat.mp singleClock).2
        rw [startTat_of_singleClock limitPos periodPos costs singleClock (by omega) sameNow.ge,
          sameNow]
        exact max_eq_left (now_le_tatAfter limitPos periodPos _ costPos)
    rw [replyAfter, allowed_iff_start limitPos periodPos _ nextCost, start, promise,
      le_remainingAt_iff limitPos periodPos nextCost, sameNow]

/-- With three calls per tenth of a second, one call leaves room for two more. -/
theorem remaining_exact_third :
    let call : Invocation := { clock := 7, lingers := false, now := 7, cost := 1 }
    let next : Invocation := { clock := 7, lingers := false, now := 7, cost := 2 }
    ∃ reply, replyAfter 3 100 [] call = .ok reply ∧
      ((decodeReply reply).remaining : ℤ) = reply.remaining ∧
      (allowedReply (replyAfter 3 100 [call] next) = true ↔ (2 : ℤ) ≤ reply.remaining) := by
  intro call next
  rcases @remaining_exact 3 100 (by decide) (by decide) [] call
    (by decide) with ⟨reply, answered, decoded, exact⟩
  exact ⟨reply, answered, decoded (by decide), exact next (by decide) rfl rfl (.inl rfl)⟩

/-! ## `reset_after` -/

/-- A whole number of milliseconds. -/
def Whole (number : ℚ) : Prop := (⌊number⌋ : ℚ) = number

instance (number : ℚ) : Decidable (Whole number) :=
  inferInstanceAs (Decidable ((⌊number⌋ : ℚ) = number))

theorem whole_intCast (number : ℤ) : Whole number := by
  rw [Whole, Int.floor_intCast]

theorem Whole.add {first second : ℚ} (wholeFirst : Whole first) (wholeSecond : Whole second) :
    Whole (first + second) := by
  rw [← wholeFirst, ← wholeSecond, ← Int.cast_add]
  exact whole_intCast _

theorem Whole.max {first second : ℚ} (wholeFirst : Whole first) (wholeSecond : Whole second) :
    Whole (max first second) := by
  rcases max_choice first second with larger | larger
  · rwa [larger]
  · rwa [larger]

/-- The time owed after the call is a whole number: what the slot holds, if it lies
in the future, with the call's own charge when that fits one burst. -/
def WholeDebt (limit periodMs : ℕ) (slot : Option Entry) (call : Invocation) : Prop :=
  let held : ℚ := max ((slot.map Entry.value).getD call.now) call.now
  let charged : ℚ := held + periodMs / limit * call.cost
  if charged ≤ call.now + periodMs then Whole charged else Whole held

theorem wholeDebt_iff {slot : Option Entry} {call : Invocation} :
    WholeDebt limit periodMs slot call ↔
      Whole (tatAfter limit periodMs (slot.map Entry.value) call) := by
  rw [tatAfter, apply_ite Whole]
  rfl

/-- The wait ends at the time left behind, rounded down. -/
theorem now_add_resetAfter {stored : Option ℚ} {call : Invocation}
    (passed : (call.now : ℚ) ≤ tatAfter limit periodMs stored call) :
    ((call.now + (decodeReply (promise limit periodMs stored call)).resetAfter : ℕ) : ℚ) =
      ⌊tatAfter limit periodMs stored call⌋ := by
  have truncated : (decodeReply (promise limit periodMs stored call)).resetAfter =
      (⌊tatAfter limit periodMs stored call⌋ - call.now).toNat := by
    change (max (redisInteger (tatAfter limit periodMs stored call - call.now)) 0).toNat = _
    rw [redisInteger, if_pos (sub_nonneg.mpr passed), Int.floor_sub_natCast]
    omega
  have floor : (call.now : ℤ) ≤ ⌊tatAfter limit periodMs stored call⌋ := Int.le_floor.mpr passed
  rw [truncated]
  have whole : ((call.now + (⌊tatAfter limit periodMs stored call⌋ - call.now).toNat : ℕ) : ℤ) =
      ⌊tatAfter limit periodMs stored call⌋ := by
    omega
  exact_mod_cast whole

section Waiting

variable (limitPos : 1 ≤ limit) (periodPos : 1 ≤ periodMs)

include limitPos periodPos

/-- A call that starts from its own clock is admitted up to the limit. -/
theorem allowed_of_start_le {slot : Option Entry} {call : Invocation} (costPos : 1 ≤ call.cost)
    (fits : call.cost ≤ limit)
    (start : startTat (redisGet slot call.toMoment) call.now ≤ call.now) :
    allowedReply (gcraScript limit periodMs slot call).2 = true := by
  rw [allowed_iff_start limitPos periodPos slot costPos]
  have burst : emissionInterval limit periodMs * limit = periodMs :=
    emissionInterval_mul_limit limitPos
  have charge : emissionInterval limit periodMs * call.cost ≤
      emissionInterval limit periodMs * limit := by
    apply mul_le_mul_of_nonneg_left _ (emissionInterval_pos limitPos periodPos).le
    exact_mod_cast fits
  linarith

/-- A call of the whole limit is admitted only from its own clock. -/
theorem start_le_of_allowed {slot : Option Entry} {call : Invocation}
    (cost : call.cost = limit)
    (allowed : allowedReply (gcraScript limit periodMs slot call).2 = true) :
    startTat (redisGet slot call.toMoment) call.now ≤ call.now := by
  rw [allowed_iff_start limitPos periodPos slot (cost ▸ limitPos), cost,
    emissionInterval_mul_limit limitPos] at allowed
  linarith

/-- On a single clock, waiting for `reset_after` is enough exactly when the time
owed is whole. -/
theorem waiting_suffices_iff {history : List Invocation} {call : Invocation}
    (costs : ∀ other ∈ history ++ [call], 1 ≤ other.cost)
    (singleClock : ∀ other ∈ history ++ [call], other.now = other.clock) :
    (∀ next : Invocation,
        next.now = call.now + (decodeReply (promise limit periodMs
          (redisGet (runKey limit periodMs history).slot call.toMoment) call)).resetAfter →
        next.now = next.clock → 1 ≤ next.cost → next.cost ≤ limit →
          allowedReply (replyAfter limit periodMs (history ++ [call]) next) = true) ↔
      WholeDebt limit periodMs (runKey limit periodMs history).slot call := by
  have harmless := (harmlessRun_concat.mp
    (harmlessRun_of_singleClock limitPos periodPos costs singleClock)).2
  rw [wholeDebt_iff, ← tatAfter_of_harmless harmless]
  have ends := now_add_resetAfter (now_le_tatAfter limitPos periodPos
    (redisGet (runKey limit periodMs history).slot call.toMoment) (forall_mem_concat.mp costs).2)
  generalize (decodeReply _).resetAfter = wait at ends ⊢
  constructor
  · intro enough
    have allowed := enough ⟨⟨call.now + wait, false, call.now + wait⟩, limit⟩ rfl rfl limitPos
      le_rfl
    have start := start_le_of_allowed limitPos periodPos rfl allowed
    rw [startTat_of_singleClock limitPos periodPos costs singleClock rfl (Nat.le_add_right _ _)]
      at start
    dsimp only at start
    rw [ends] at start
    exact le_antisymm (Int.floor_le _) ((le_max_left _ _).trans start)
  · intro whole next nextNow nextClock nextCost fits
    apply allowed_of_start_le limitPos periodPos nextCost fits
    rw [startTat_of_singleClock limitPos periodPos costs singleClock nextClock (by omega)]
    rw [nextNow, ends, whole, max_self]

/-! ## Limits that divide the period -/

/-- The slot holds a whole number. -/
def WholeSlot (slot : Option Entry) : Prop := ∀ entry ∈ slot, Whole entry.value

omit periodPos in
theorem whole_emissionInterval (divides : limit ∣ periodMs) :
    Whole (emissionInterval limit periodMs) := by
  rcases divides with ⟨quotient, rfl⟩
  have limitPos' : (0 : ℚ) < limit := by exact_mod_cast limitPos
  have interval : emissionInterval limit (limit * quotient) = ((quotient : ℤ) : ℚ) := by
    rw [emissionInterval, Nat.cast_mul, mul_div_cancel_left₀ _ limitPos'.ne', Int.cast_natCast]
  rw [interval]
  exact whole_intCast _

omit limitPos periodPos in
theorem WholeSlot.startTat {slot : Option Entry} (wholeSlot : WholeSlot slot)
    (call : Invocation) : Whole (startTat (redisGet slot call.toMoment) call.now) := by
  have clock : Whole call.now := whole_intCast call.now
  apply Whole.max _ clock
  cases slot with
  | none => exact clock
  | some entry =>
      cases live : entry.live call.toMoment with
      | true => simpa [redisGet, live] using wholeSlot entry rfl
      | false => simpa [redisGet, live] using clock

omit periodPos in
theorem WholeSlot.tatAfter (divides : limit ∣ periodMs) {slot : Option Entry}
    (wholeSlot : WholeSlot slot) (call : Invocation) :
    Whole (tatAfter limit periodMs (redisGet slot call.toMoment) call) := by
  rw [Filters.tatAfter]
  split
  · apply (wholeSlot.startTat call).add
    have interval := whole_emissionInterval limitPos divides
    rw [← interval, ← Int.cast_natCast, ← Int.cast_mul]
    exact whole_intCast _
  · exact wholeSlot.startTat call

/-- All times stored along a run are then whole, whatever the clocks. -/
theorem wholeSlot_runKey (divides : limit ∣ periodMs) {calls : List Invocation}
    (costs : ∀ call ∈ calls, 1 ≤ call.cost) :
    WholeSlot (runKey limit periodMs calls).slot := by
  induction calls using List.reverseRecOn with
  | nil => simp [WholeSlot, KeyRun.fresh]
  | append_singleton history call ih =>
      rcases forall_mem_concat.mp costs with ⟨earlierCosts, costPos⟩
      have earlier := ih earlierCosts
      rw [slot_runKey_concat]
      rcases gcraScript_slot limitPos periodPos (runKey limit periodMs history).slot costPos
        with ⟨entry, written, _, holds⟩ | ⟨untouched, _⟩
      · rw [written]
        intro other stored
        cases stored
        rw [holds]
        exact earlier.tatAfter limitPos divides call
      · rwa [untouched]

/-- Waiting is then enough at every moment the server has not passed yet. -/
theorem waiting_suffices_of_dvd (divides : limit ∣ periodMs) {history : List Invocation}
    {call next : Invocation} (costs : ∀ other ∈ history ++ [call], 1 ≤ other.cost)
    (nextNow : next.now = call.now + (decodeReply (promise limit periodMs
      (redisGet (runKey limit periodMs history).slot call.toMoment) call)).resetAfter)
    (later : call.toMoment.NoEarlier next.toMoment) (nextCost : 1 ≤ next.cost)
    (fits : next.cost ≤ limit) :
    allowedReply (replyAfter limit periodMs (history ++ [call]) next) = true := by
  rcases forall_mem_concat.mp costs with ⟨earlierCosts, costPos⟩
  have wholeSlot := wholeSlot_runKey limitPos periodPos divides earlierCosts
  have whole := wholeSlot.tatAfter limitPos divides call
  have ends := now_add_resetAfter (now_le_tatAfter limitPos periodPos
    (redisGet (runKey limit periodMs history).slot call.toMoment) costPos)
  apply allowed_of_start_le limitPos periodPos nextCost fits
  rw [slot_runKey_concat]
  apply (startTat_le_of_noEarlier limitPos periodPos costPos later).trans
  rw [nextNow, ends, whole, max_self]

end Waiting

/-- A limit whose interval is whole divides the period. -/
theorem dvd_of_whole (limitPos : 1 ≤ limit) (whole : Whole (emissionInterval limit periodMs)) :
    limit ∣ periodMs := by
  have burst : emissionInterval limit periodMs * limit = periodMs :=
    emissionInterval_mul_limit limitPos
  rw [← whole] at burst
  have quotient : ⌊emissionInterval limit periodMs⌋ * (limit : ℤ) = periodMs := by
    exact_mod_cast burst
  exact Int.natCast_dvd_natCast.mp (Dvd.intro_left _ quotient)

/-- **`reset_after` is rounded the wrong way.** Waiting for the advertised time, and
no other call meanwhile, makes room for every cost up to the limit exactly when the
time owed after the call is a whole number of milliseconds.  It always does, on any
clocks, exactly when the limit divides the period. -/
theorem reset_after_suffices_iff (limitPos : 1 ≤ limit) (periodPos : 1 ≤ periodMs) :
    (∀ history call, (∀ other ∈ history ++ [call], 1 ≤ other.cost) →
        (∀ other ∈ history ++ [call], other.now = other.clock) →
      ∃ result, decodeOutcome (replyAfter limit periodMs history call) = .ok result ∧
        ((∀ next : Invocation, next.now = call.now + result.resetAfter →
            next.now = next.clock → 1 ≤ next.cost → next.cost ≤ limit →
              allowedReply (replyAfter limit periodMs (history ++ [call]) next) = true) ↔
          WholeDebt limit periodMs (runKey limit periodMs history).slot call)) ∧
      ((∀ history call result, (∀ other ∈ history ++ [call], 1 ≤ other.cost) →
          (history ++ [call]).Pairwise (fun earlier later => earlier.now ≤ later.now) →
          decodeOutcome (replyAfter limit periodMs history call) = .ok result →
          ∀ next : Invocation, next.now = call.now + result.resetAfter →
            call.toMoment.NoEarlier next.toMoment → 1 ≤ next.cost → next.cost ≤ limit →
              allowedReply (replyAfter limit periodMs (history ++ [call]) next) = true) ↔
        limit ∣ periodMs) := by
  have decoded : ∀ (history : List Invocation) (call : Invocation), 1 ≤ call.cost →
      decodeOutcome (replyAfter limit periodMs history call) =
        .ok (decodeReply (promise limit periodMs
          (redisGet (runKey limit periodMs history).slot call.toMoment) call)) := by
    intro history call costPos
    rw [replyAfter, gcraScript_reply limitPos periodPos _ costPos]
    rfl
  refine ⟨?_, ?_, ?_⟩
  · intro history call costs singleClock
    exact ⟨_, decoded history call (forall_mem_concat.mp costs).2,
      waiting_suffices_iff limitPos periodPos costs singleClock⟩
  · -- One call on a fresh key owes exactly one emission interval.
    intro enough
    let call : Invocation := { clock := 0, lingers := true, now := 0, cost := 1 }
    have whole : WholeDebt limit periodMs none call := by
      apply (@waiting_suffices_iff _ _ limitPos periodPos [] call (by simp [call])
        (by simp [call])).mp
      intro next nextNow onClock nextCost fits
      apply enough [] call _ (by simp [call]) (by simp) (decoded [] call le_rfl) next nextNow _
        nextCost fits
      rcases Nat.eq_zero_or_pos next.clock with zero | positive
      · exact .inr ⟨zero.symm, fun _ => rfl⟩
      · exact .inl positive
    rw [wholeDebt_iff, tatAfter] at whole
    have first : newTat limit periodMs none call = emissionInterval limit periodMs := by
      simp [newTat, startTat, call]
    have early : newTat limit periodMs none call ≤ call.now + periodMs := by
      have interval := emissionInterval_pos limitPos periodPos
      have one : (1 : ℚ) ≤ limit := by exact_mod_cast limitPos
      have fits := le_mul_of_one_le_right interval.le one
      rw [emissionInterval_mul_limit limitPos] at fits
      simpa [first, call] using fits
    rw [Option.map_none, if_pos early, first] at whole
    exact dvd_of_whole limitPos whole
  · intro divides history call result costs _ answered next nextNow later nextCost fits
    rw [decoded history call (forall_mem_concat.mp costs).2] at answered
    cases answered
    exact waiting_suffices_of_dvd limitPos periodPos divides costs nextNow later nextCost fits

/-- At five calls a second one call owes 200 milliseconds, and waiting for them is
enough. -/
theorem reset_after_suffices_fifth :
    let call : Invocation := { clock := 7, lingers := false, now := 7, cost := 1 }
    ∃ result, decodeOutcome (replyAfter 5 1000 [] call) = .ok result ∧
      ∀ next : Invocation, next.now = call.now + result.resetAfter → next.now = next.clock →
        1 ≤ next.cost → next.cost ≤ 5 →
          allowedReply (replyAfter 5 1000 [call] next) = true := by
  intro call
  rcases (@reset_after_suffices_iff 5 1000 (by decide) (by decide)).1 [] call (by decide)
    (by decide) with ⟨result, answered, enough⟩
  exact ⟨result, answered, enough.mpr (wholeDebt_iff.mpr (by decide +kernel))⟩

/-- At three calls per tenth of a second one call owes 33 1/3 milliseconds; the reply
says 33, and a call of the whole limit made then is denied. -/
theorem reset_after_suffices_fails :
    let call : Invocation := { clock := 0, lingers := false, now := 0, cost := 1 }
    let next : Invocation := { clock := 33, lingers := false, now := 33, cost := 3 }
    decodeOutcome (replyAfter 3 100 [] call) =
        .ok { allowed := true, remaining := 2, resetAfter := 33 } ∧
      allowedReply (replyAfter 3 100 [call] next) = false := by
  decide +kernel

end Vortex.Filters
