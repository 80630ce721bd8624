import Mathlib.Data.Rat.Floor
import Mathlib.Logic.Function.Basic
import Mathlib.Tactic.Linarith
import Mathlib.Tactic.Positivity
import Mathlib.Tactic.Ring

/-!
# The Redis-backed GCRA store

This module embeds `redis_store.rs`: the Lua script that decides one call, and
`check_rate_limit` around it.  Lua numbers are exact rationals, so the script's
arithmetic is the arithmetic written in its text.

Two clocks are kept apart.  `now` is the `SystemTime` of the calling proxy,
passed as `ARGV[3]`; `clock` is the clock of the Redis server, which drives the
expiry of keys set with `PX`.  A key whose time-to-live ends exactly at `clock`
may or may not still answer, so `lingers` leaves that choice to the run.
-/

namespace Vortex.Filters

/-! ## Redis -/

/-- A string value with the instant of the server's clock at which its
time-to-live ends. -/
structure Entry where
  value : ℚ
  expiresAt : ℕ
  deriving DecidableEq, Repr

/-- The instant at which a script runs, on both clocks, in milliseconds. -/
structure Moment where
  clock : ℕ
  lingers : Bool
  now : ℕ
  deriving DecidableEq, Repr

/-- One execution of the script on a key, with the cost passed as `ARGV[4]`. -/
structure Invocation extends Moment where
  cost : ℕ
  deriving DecidableEq, Repr

/-- Errors raised by `redis.call`, which abort the script. -/
inductive RedisError where
  /-- `ERR invalid expire time in 'set' command`. -/
  | invalidExpireTime
  deriving DecidableEq, Repr

/-- Whether an entry still answers. It does before its time-to-live ends and
does not afterwards; the last instant is left open. -/
def Entry.live (entry : Entry) (moment : Moment) : Bool :=
  decide (moment.clock < entry.expiresAt) ||
    (moment.lingers && decide (moment.clock = entry.expiresAt))

/-- `redis.call("GET", key)` on the slot of one key. -/
def redisGet (slot : Option Entry) (moment : Moment) : Option ℚ :=
  match slot with
  | none => none
  | some entry => if entry.live moment then some entry.value else none

/-- `redis.call("SET", key, value, "PX", px)`: the time-to-live must be a
positive number of milliseconds. -/
def redisSetPx (value : ℚ) (px : ℤ) (moment : Moment) : Except RedisError Entry :=
  if px ≤ 0 then .error .invalidExpireTime
  else .ok { value, expiresAt := moment.clock + px.toNat }

/-! ## The Lua script -/

/-- The table returned by the script: `{allowed, remaining, reset_after_ms}`. -/
structure LuaReply where
  allowed : ℤ
  remaining : ℤ
  resetAfterMs : ℚ
  deriving DecidableEq, Repr

/-- `period_ms / limit`. -/
def emissionInterval (limit periodMs : ℕ) : ℚ := periodMs / limit

/-- The theoretical arrival time a call starts from: the stored one, or the
caller's clock when there is none or it lies in the past. -/
def startTat (stored : Option ℚ) (now : ℕ) : ℚ :=
  max (stored.getD now) now

/-- The theoretical arrival time after charging the call. -/
def newTat (limit periodMs : ℕ) (stored : Option ℚ) (call : Invocation) : ℚ :=
  startTat stored call.now + emissionInterval limit periodMs * call.cost

/-- The `remaining` computation shared by both branches, with its clamp. -/
def remainingAt (limit periodMs : ℕ) (tat : ℚ) (now : ℕ) : ℤ :=
  let remaining := ⌊(periodMs - (tat - now)) / emissionInterval limit periodMs⌋
  if remaining < 0 then 0 else remaining

/-- The script after its `GET` answered `stored`. A denied call and a rejected
`SET` leave the slot as it was. -/
def scriptBody (limit periodMs : ℕ) (stored : Option ℚ) (slot : Option Entry)
    (call : Invocation) : Option Entry × Except RedisError LuaReply :=
  let tat := startTat stored call.now
  let new := newTat limit periodMs stored call
  let burstOffset : ℚ := periodMs
  let allowAt := new - burstOffset
  if allowAt > call.now then
    (slot, .ok {
      allowed := 0
      remaining := remainingAt limit periodMs tat call.now
      resetAfterMs := tat - call.now })
  else
    match redisSetPx new ⌈new - call.now⌉ call.toMoment with
    | .error error => (slot, .error error)
    | .ok entry =>
        (some entry, .ok {
          allowed := 1
          remaining := remainingAt limit periodMs new call.now
          resetAfterMs := new - call.now })

/-- The GCRA script, executed atomically on the slot of its key. -/
def gcraScript (limit periodMs : ℕ) (slot : Option Entry) (call : Invocation) :
    Option Entry × Except RedisError LuaReply :=
  scriptBody limit periodMs (redisGet slot call.toMoment) slot call

/-- Whether a script execution answered `allowed = 1`. -/
def allowedReply : Except RedisError LuaReply → Bool
  | .ok reply => reply.allowed == 1
  | .error _ => false

/-! ## `check_rate_limit` -/

/-- The keys of one Redis database. -/
abbrev Keyspace := String → Option Entry

/-- `RateLimitResult`, with `reset_after` in milliseconds. -/
structure RateLimitResult where
  allowed : Bool
  remaining : ℕ
  resetAfter : ℕ
  deriving DecidableEq, Repr

/-- Failures of `check_rate_limit`: no connection, or an aborted script. -/
inductive CheckError where
  | unreachable
  | script (error : RedisError)
  deriving DecidableEq, Repr

/-- Redis converts a Lua number of the reply to an integer by truncation. -/
def redisInteger (number : ℚ) : ℤ :=
  if 0 ≤ number then ⌊number⌋ else ⌈number⌉

/-- Decoding of the reply vector of `i64` values. -/
def decodeReply (reply : LuaReply) : RateLimitResult where
  allowed := redisInteger reply.allowed == 1
  remaining := (redisInteger reply.remaining % 2 ^ 64).toNat
  resetAfter := (max (redisInteger reply.resetAfterMs) 0).toNat

/-- The script's outcome as the caller gets it: an aborted script is an error. -/
def decodeOutcome :
    Except RedisError LuaReply → Except CheckError RateLimitResult
  | .ok reply => .ok (decodeReply reply)
  | .error error => .error (.script error)

/-- `RedisStore::check_rate_limit`; `reachable` says whether the pool yields a
connection. -/
def checkRateLimit (keys : Keyspace) (reachable : Bool) (moment : Moment)
    (key : String) (limit periodMs cost : ℕ) :
    Keyspace × Except CheckError RateLimitResult :=
  if reachable then
    let outcome := gcraScript limit periodMs (keys key) { moment with cost }
    (Function.update keys key outcome.1, decodeOutcome outcome.2)
  else
    (keys, .error .unreachable)

/-! ## Specification lemmas -/

theorem emissionInterval_pos {limit periodMs : ℕ} (limitPos : 1 ≤ limit)
    (periodPos : 1 ≤ periodMs) : 0 < emissionInterval limit periodMs := by
  have limitPos' : (0 : ℚ) < limit := by exact_mod_cast limitPos
  have periodPos' : (0 : ℚ) < periodMs := by exact_mod_cast periodPos
  exact div_pos periodPos' limitPos'

theorem now_le_startTat (stored : Option ℚ) (now : ℕ) :
    (now : ℚ) ≤ startTat stored now :=
  le_max_right _ _

/-- Charging a positive cost moves the theoretical arrival time strictly past
the caller's clock, so the time-to-live of an admitted call is positive. -/
theorem now_lt_newTat {limit periodMs : ℕ} (limitPos : 1 ≤ limit)
    (periodPos : 1 ≤ periodMs) (stored : Option ℚ) {call : Invocation}
    (costPos : 1 ≤ call.cost) :
    (call.now : ℚ) < newTat limit periodMs stored call := by
  have costPos' : (0 : ℚ) < call.cost := by exact_mod_cast costPos
  have charge := mul_pos (emissionInterval_pos limitPos periodPos) costPos'
  have start := now_le_startTat stored call.now
  rw [newTat]
  linarith

theorem scriptBody_denied {limit periodMs : ℕ} {stored : Option ℚ}
    {slot : Option Entry} {call : Invocation}
    (late : (call.now : ℚ) + periodMs < newTat limit periodMs stored call) :
    scriptBody limit periodMs stored slot call =
      (slot, .ok {
        allowed := 0
        remaining := remainingAt limit periodMs (startTat stored call.now) call.now
        resetAfterMs := startTat stored call.now - call.now }) := by
  have branch : newTat limit periodMs stored call - periodMs > call.now := by
    linarith
  simp only [scriptBody, if_pos branch]

theorem scriptBody_allowed {limit periodMs : ℕ} {stored : Option ℚ}
    {slot : Option Entry} {call : Invocation}
    (positive : (call.now : ℚ) < newTat limit periodMs stored call)
    (early : newTat limit periodMs stored call ≤ call.now + periodMs) :
    scriptBody limit periodMs stored slot call =
      (some {
          value := newTat limit periodMs stored call
          expiresAt := call.clock +
            ⌈newTat limit periodMs stored call - call.now⌉.toNat },
        .ok {
          allowed := 1
          remaining :=
            remainingAt limit periodMs (newTat limit periodMs stored call) call.now
          resetAfterMs := newTat limit periodMs stored call - call.now }) := by
  have branch : ¬newTat limit periodMs stored call - periodMs > call.now := by
    linarith
  have timeToLive : ¬⌈newTat limit periodMs stored call - call.now⌉ ≤ 0 := by
    rw [not_le, Int.ceil_pos]
    linarith
  simp only [scriptBody, if_neg branch, redisSetPx, if_neg timeToLive]

/-- A call is admitted exactly when its new theoretical arrival time is at most
one burst ahead of the caller's clock. -/
theorem allowedReply_scriptBody {limit periodMs : ℕ} {stored : Option ℚ}
    {slot : Option Entry} {call : Invocation}
    (positive : (call.now : ℚ) < newTat limit periodMs stored call) :
    allowedReply (scriptBody limit periodMs stored slot call).2 = true ↔
      newTat limit periodMs stored call ≤ call.now + periodMs := by
  constructor
  · intro accepted
    by_contra late
    rw [scriptBody_denied (not_le.mp late)] at accepted
    simp [allowedReply] at accepted
  · intro early
    rw [scriptBody_allowed positive early]
    rfl

/-- A call with a positive cost is always answered: its `SET`, if any, carries
a positive time-to-live. -/
theorem gcraScript_answers {limit periodMs : ℕ} (limitPos : 1 ≤ limit)
    (periodPos : 1 ≤ periodMs) (slot : Option Entry) {call : Invocation}
    (costPos : 1 ≤ call.cost) :
    ∃ reply, (gcraScript limit periodMs slot call).2 = .ok reply := by
  have positive := now_lt_newTat limitPos periodPos
    (redisGet slot call.toMoment) costPos
  unfold gcraScript
  by_cases early : newTat limit periodMs (redisGet slot call.toMoment) call ≤
      call.now + periodMs
  · rw [scriptBody_allowed positive early]
    exact ⟨_, rfl⟩
  · rw [scriptBody_denied (not_le.mp early)]
    exact ⟨_, rfl⟩

/-- Only an admitted call writes. -/
theorem gcraScript_slot_of_not_admitted {limit periodMs : ℕ} {slot : Option Entry}
    {call : Invocation}
    (refused : allowedReply (gcraScript limit periodMs slot call).2 = false) :
    (gcraScript limit periodMs slot call).1 = slot := by
  unfold gcraScript scriptBody at refused ⊢
  dsimp only at refused ⊢
  split at refused <;> rename_i branch
  · rw [if_pos branch]
  · rw [if_neg branch]
    split at refused
    · rfl
    · simp [allowedReply] at refused

/-- A free call on an absent key asks for a time-to-live of zero, which `SET`
rejects. -/
theorem gcraScript_free_absent (limit periodMs : ℕ) {call : Invocation}
    (free : call.cost = 0) :
    gcraScript limit periodMs none call = (none, .error .invalidExpireTime) := by
  have unmoved : newTat limit periodMs none call = call.now := by
    simp [newTat, startTat, free]
  have branch : ¬(call.now : ℚ) - periodMs > call.now := by
    have nonneg : (0 : ℚ) ≤ periodMs := Nat.cast_nonneg periodMs
    linarith
  simp only [gcraScript, scriptBody, redisGet, unmoved, if_neg branch, sub_self,
    Int.ceil_zero, redisSetPx, le_refl, if_true]

/-- What the script leaves in a slot was there before, or is the new theoretical arrival
time of a call that it admits. -/
theorem gcraScript_slot_cases {limit periodMs : ℕ} {slot : Option Entry} {call : Invocation}
    {entry : Entry} (left : (gcraScript limit periodMs slot call).1 = some entry) :
    slot = some entry ∨
      entry.value = newTat limit periodMs (redisGet slot call.toMoment) call ∧
        entry.value ≤ call.now + periodMs := by
  simp only [gcraScript, scriptBody] at left
  split at left
  · exact .inl left
  · next inTime =>
      rw [redisSetPx] at left
      split at left
      · next error rejected => exact .inl left
      · next written accepted =>
          split at accepted
          · cases accepted
          · cases accepted
            cases left
            exact .inr ⟨rfl, by linarith [not_lt.mp inTime]⟩

/-- A call is not refused when its new theoretical arrival time is at most one burst ahead,
whatever it costs. -/
theorem gcraScript_of_early {limit periodMs : ℕ} {slot : Option Entry} {call : Invocation}
    (early : newTat limit periodMs (redisGet slot call.toMoment) call ≤ call.now + periodMs) :
    ∀ reply, (gcraScript limit periodMs slot call).2 = .ok reply → reply.allowed = 1 := by
  intro reply answered
  simp only [gcraScript, scriptBody] at answered
  split at answered
  · next late => exact absurd late (by linarith)
  · split at answered
    · cases answered
    · cases answered
      rfl

/-- What `GET` answers is what the slot holds. -/
theorem redisGet_eq_some {slot : Option Entry} {moment : Moment} {value : ℚ}
    (answered : redisGet slot moment = some value) :
    ∃ entry, slot = some entry ∧ entry.value = value := by
  cases slot with
  | none => cases answered
  | some entry =>
      rw [redisGet] at answered
      split at answered
      · cases answered
        exact ⟨entry, rfl, rfl⟩
      · cases answered

theorem redisInteger_intCast (number : ℤ) : redisInteger number = number := by
  rw [redisInteger]
  split
  · exact Int.floor_intCast number
  · exact Int.ceil_intCast number

/-- The flag survives the conversion of the reply. -/
theorem decodeReply_allowed (reply : LuaReply) :
    (decodeReply reply).allowed = allowedReply (.ok reply) := by
  simp only [decodeReply, redisInteger_intCast, allowedReply]

/-- The script reads and writes only its own key. -/
theorem checkRateLimit_other_key {keys : Keyspace} {reachable : Bool}
    {moment : Moment} {key other : String} {limit periodMs cost : ℕ}
    (different : other ≠ key) :
    (checkRateLimit keys reachable moment key limit periodMs cost).1 other =
      keys other := by
  cases reachable with
  | false => rfl
  | true => simp [checkRateLimit, different]

end Vortex.Filters
