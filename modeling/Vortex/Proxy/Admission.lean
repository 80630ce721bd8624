import Vortex.Filters.GcraExact
import Vortex.Core.Backend

/-!
# The rate-limit step of `forward_request`

Between the Wasm filter and the choice of a backend, `forward_request` reads the
AI headers, turns them into a cost and asks the rate store.  A refusal is
answered 429 and bans the client; an error of the store lets the request pass.

Header values and their conversion to text belong to the `http` crate and are
parameters here; `headers name` is the first value under a name.  The text of an
address, which only serves to build the key, is a parameter as well.
-/

namespace Vortex.Proxy

open Vortex.Core Filters Lib

/-! ## Header extraction -/

/-- `str::parse::<u64>`: an optional plus sign and at least one decimal digit,
with a value below `2 ^ 64`. -/
def parseU64 (text : String) : Option ℕ :=
  let digits := match text.toList with
    | '+' :: rest => rest
    | chars => chars
  if digits.isEmpty || !digits.all Char.isDigit then none
  else
    let value := digits.foldl (fun value digit => value * 10 + (digit.toNat - '0'.toNat)) 0
    if value < 2 ^ 64 then some value else none

section Headers

variable {HeaderValue : Type} (toStr : HeaderValue → Option String)

/-- The text of a header, if it is present and readable. -/
def headerText (headers : String → Option HeaderValue) (name : String) : Option String :=
  (headers name).bind toStr

/-- `extract_ai_metadata`. -/
def extractAiMetadata (headers : String → Option HeaderValue) : Option AiMetadata :=
  match headerText toStr headers "x-ai-model" with
  | none => none
  | some model =>
      some {
        model
        estimatedTokens :=
          ((headerText toStr headers "x-ai-estimated-tokens").bind parseU64).getD 1
        semanticHash := headerText toStr headers "x-ai-semantic-hash" }

/-- The cost charged to a request. -/
def requestCost (headers : String → Option HeaderValue) : ℕ :=
  match extractAiMetadata toStr headers with
  | some metadata => metadata.estimatedTokens
  | none => 1

/-- The request names a model and declares an estimate of zero tokens. -/
def DeclaresZeroTokens (headers : String → Option HeaderValue) : Prop :=
  (headerText toStr headers "x-ai-model").isSome = true ∧
    ∃ text, headerText toStr headers "x-ai-estimated-tokens" = some text ∧
      parseU64 text = some 0

/-- Declaring zero tokens is the only way to be charged nothing. -/
theorem requestCost_eq_zero_iff (headers : String → Option HeaderValue) :
    requestCost toStr headers = 0 ↔ DeclaresZeroTokens toStr headers := by
  unfold requestCost extractAiMetadata DeclaresZeroTokens
  cases headerText toStr headers "x-ai-model" with
  | none => simp
  | some model =>
      cases headerText toStr headers "x-ai-estimated-tokens" with
      | none => simp
      | some text => cases parsed : parseU64 text <;> simp [parsed]

end Headers

/-! ## The decision -/

/-- What the rate-limit step does with a request. -/
inductive Verdict where
  /-- Answer 429 after `ban_ip(ip, banSeconds)`. -/
  | tooManyRequests (ip : IpAddr) (banSeconds : ℕ) (response : Response)
  /-- Go on to select a backend. -/
  | proceed
  deriving DecidableEq, Repr

namespace Verdict

/-- Whether the request was not answered 429. -/
def passes : Verdict → Bool
  | .tooManyRequests .. => false
  | .proceed => true

end Verdict

/-- A request of the client as the rate-limit step meets it: its headers, the
instant, and whether the store is reachable then. -/
structure Request (HeaderValue : Type) where
  headers : String → Option HeaderValue
  moment : Moment
  reachable : Bool

section Client

variable {HeaderValue : Type} (toStr : HeaderValue → Option String)
variable (display : IpAddr → String) (clientIp : IpAddr)

/-- `format!("ip:{}", client_addr.ip())`. -/
def rateLimitKey : String := "ip:" ++ display clientIp

/-- The answer to a request that exceeds the limit. -/
def tooManyRequests (result : RateLimitResult) : Response where
  status := 429
  headers := [("X-RateLimit-Remaining", "0"),
    ("X-RateLimit-Reset", toString result.resetAfter)]
  body := "Rate limit exceeded\n"

/-- The rate-limit step of `forward_request`: 1000 units per 60 seconds, failing
open when the store reports an error. -/
def applyRateLimit (keys : Keyspace) (request : Request HeaderValue) :
    Keyspace × Verdict :=
  let outcome := checkRateLimit keys request.reachable request.moment
    (rateLimitKey display clientIp) 1000 60000 (requestCost toStr request.headers)
  (outcome.1,
    match outcome.2 with
    | .ok result =>
        if !result.allowed then
          .tooManyRequests clientIp 300 (tooManyRequests result)
        else .proceed
    | .error _ => .proceed)

/-- The store and the requests that were not answered 429 so far. -/
structure ClientRun (HeaderValue : Type) where
  keys : Keyspace
  passed : List (Request HeaderValue)

/-- Process one more request of the client. -/
def ClientRun.step (state : ClientRun HeaderValue) (request : Request HeaderValue) :
    ClientRun HeaderValue :=
  let outcome := applyRateLimit toStr display clientIp state.keys request
  { keys := outcome.1
    passed := if outcome.2.passes then state.passed ++ [request] else state.passed }

/-- Process the client's requests in order. -/
def serveClient (keys : Keyspace) (requests : List (Request HeaderValue)) :
    ClientRun HeaderValue :=
  requests.foldl (ClientRun.step toStr display clientIp) { keys, passed := [] }

/-- Number of requests within `width` milliseconds of `start`. -/
def countWithin (start width : ℚ) (requests : List (Request HeaderValue)) : ℕ :=
  (requests.filter fun request =>
    decide (start ≤ request.moment.clock ∧
      (request.moment.clock : ℚ) ≤ start + width)).length

/-- The script execution a request causes. -/
def toInvocation (request : Request HeaderValue) : Invocation :=
  { request.moment with cost := requestCost toStr request.headers }

@[simp] theorem serveClient_concat (keys : Keyspace) (requests : List (Request HeaderValue))
    (request : Request HeaderValue) :
    serveClient toStr display clientIp keys (requests ++ [request]) =
      (serveClient toStr display clientIp keys requests).step toStr display clientIp
        request := by
  simp [serveClient]

/-! ## Requests that are charged -/

variable {toStr display clientIp}

/-- With the store reachable, the client's slot is updated by the script. -/
theorem applyRateLimit_slot {keys : Keyspace} {request : Request HeaderValue}
    (reachable : request.reachable = true) :
    (applyRateLimit toStr display clientIp keys request).1
        (rateLimitKey display clientIp) =
      (gcraScript 1000 60000 (keys (rateLimitKey display clientIp))
        (toInvocation toStr request)).1 := by
  simp [applyRateLimit, checkRateLimit, reachable, toInvocation]

/-- A charged request passes exactly when the script admits it: its time-to-live
is positive, so the store never reports an error. -/
theorem applyRateLimit_passes {keys : Keyspace} {request : Request HeaderValue}
    (reachable : request.reachable = true)
    (charged : 1 ≤ (toInvocation toStr request).cost) :
    (applyRateLimit toStr display clientIp keys request).2.passes =
      allowedReply (gcraScript 1000 60000 (keys (rateLimitKey display clientIp))
        (toInvocation toStr request)).2 := by
  rcases gcraScript_answers (by decide : 1 ≤ 1000) (by decide : 1 ≤ 60000)
    (keys (rateLimitKey display clientIp)) charged with ⟨reply, answered⟩
  have outcome : (checkRateLimit keys request.reachable request.moment
      (rateLimitKey display clientIp) 1000 60000 (requestCost toStr request.headers)).2 =
        .ok (decodeReply reply) := by
    simp only [checkRateLimit, reachable, if_true]
    exact congrArg decodeOutcome answered
  simp only [applyRateLimit, outcome, answered, decodeReply_allowed]
  cases allowedReply (.ok reply) <;> rfl

/-- As long as every request is charged, the client's slot and the requests that
pass are those of the run of the script on the client's key. -/
theorem serveClient_eq_runKey {keys : Keyspace}
    (fresh : keys (rateLimitKey display clientIp) = none)
    {requests : List (Request HeaderValue)}
    (reachable : ∀ request ∈ requests, request.reachable = true)
    (charged : ∀ request ∈ requests, 1 ≤ (toInvocation toStr request).cost) :
    (serveClient toStr display clientIp keys requests).keys
        (rateLimitKey display clientIp) =
      (runKey 1000 60000 (requests.map (toInvocation toStr))).slot ∧
    (serveClient toStr display clientIp keys requests).passed.map (toInvocation toStr) =
      (runKey 1000 60000 (requests.map (toInvocation toStr))).admitted := by
  induction requests using List.reverseRecOn with
  | nil => exact ⟨fresh, rfl⟩
  | append_singleton requests request ih =>
      rcases ih (fun other membership => reachable other (by simp [membership]))
        (fun other membership => charged other (by simp [membership])) with ⟨slot, passed⟩
      have reachable := reachable request (by simp)
      have charged := charged request (by simp)
      rw [serveClient_concat, List.map_append, List.map_singleton, runKey_concat]
      simp only [ClientRun.step, KeyRun.record, applyRateLimit_slot reachable,
        applyRateLimit_passes reachable charged, slot, true_and]
      split <;> simp [passed]

/-- Every request that passes is one of the client's requests. -/
theorem passed_sublist (keys : Keyspace) (requests : List (Request HeaderValue)) :
    (serveClient toStr display clientIp keys requests).passed.Sublist requests := by
  induction requests using List.reverseRecOn with
  | nil => exact .slnil
  | append_singleton requests request ih =>
      rw [serveClient_concat, ClientRun.step]
      dsimp only
      split
      · exact ih.append (List.Sublist.refl [request])
      · exact ih.trans (List.sublist_append_left requests [request])

/-- Charged requests are at most as many as their total cost. -/
theorem countWithin_le_costWithin (start width : ℚ) {requests : List (Request HeaderValue)}
    (charged : ∀ request ∈ requests, 1 ≤ (toInvocation toStr request).cost) :
    countWithin start width requests ≤
      costWithin start width (requests.map (toInvocation toStr)) := by
  induction requests with
  | nil => simp [countWithin, costWithin, totalCost]
  | cons request requests ih =>
      have rest := ih fun other membership => charged other (by simp [membership])
      have here := charged request (by simp)
      simp only [countWithin, costWithin, totalCost, List.map_cons, List.filter_cons] at rest ⊢
      change _ ≤ List.sum (List.map Invocation.cost (if decide (start ≤
        (request.moment.clock : ℚ) ∧ (request.moment.clock : ℚ) ≤ start + width) = true
        then _ else _))
      split
      · simp only [List.length_cons, List.map_cons, List.sum_cons]
        omega
      · exact rest

/-! ## The key of the client -/

theorem rateLimitKey_inj {other : IpAddr}
    (same : rateLimitKey display other = rateLimitKey display clientIp) :
    display other = display clientIp :=
  (String.append_right_inj "ip:").mp same

/-- The store changes at most at the client's key. -/
theorem applyRateLimit_other_key {keys : Keyspace} {request : Request HeaderValue} {key : String}
    (different : key ≠ rateLimitKey display clientIp) :
    (applyRateLimit toStr display clientIp keys request).1 key = keys key :=
  checkRateLimit_other_key different

/-- The verdict and the client's slot depend only on the client's slot. -/
theorem applyRateLimit_congr {keys others : Keyspace} (request : Request HeaderValue)
    (same : keys (rateLimitKey display clientIp) = others (rateLimitKey display clientIp)) :
    (applyRateLimit toStr display clientIp keys request).2 =
        (applyRateLimit toStr display clientIp others request).2 ∧
      (applyRateLimit toStr display clientIp keys request).1 (rateLimitKey display clientIp) =
        (applyRateLimit toStr display clientIp others request).1
          (rateLimitKey display clientIp) := by
  cases reachable : request.reachable with
  | false =>
      simp only [applyRateLimit, checkRateLimit, reachable, Bool.false_eq_true, if_false]
      exact ⟨trivial, same⟩
  | true =>
      simp only [applyRateLimit, checkRateLimit, reachable, if_true, same, Function.update_self]
      exact ⟨trivial, trivial⟩

/-- A verdict names the client it is about. -/
theorem applyRateLimit_ip {keys : Keyspace} {request : Request HeaderValue} {ip : IpAddr}
    {banSeconds : ℕ} {response : Response}
    (refused : (applyRateLimit toStr display clientIp keys request).2 =
      .tooManyRequests ip banSeconds response) : ip = clientIp ∧ banSeconds = 300 := by
  simp only [applyRateLimit] at refused
  split at refused
  · split at refused
    · cases refused
      exact ⟨rfl, rfl⟩
    · cases refused
  · cases refused

/-- A request that finds the store unreachable changes nothing and passes. -/
theorem applyRateLimit_of_unreachable {keys : Keyspace} {request : Request HeaderValue}
    (unreachable : request.reachable = false) :
    applyRateLimit toStr display clientIp keys request = (keys, .proceed) := by
  simp only [applyRateLimit, checkRateLimit, unreachable, Bool.false_eq_true, if_false]

/-- A request passes unless the script answers that it is refused. -/
theorem applyRateLimit_of_allowed {keys : Keyspace} {request : Request HeaderValue}
    (allows : ∀ reply, (gcraScript 1000 60000 (keys (rateLimitKey display clientIp))
      (toInvocation toStr request)).2 = .ok reply → reply.allowed = 1) :
    (applyRateLimit toStr display clientIp keys request).2 = .proceed := by
  cases reachable : request.reachable with
  | false => rw [applyRateLimit_of_unreachable reachable]
  | true =>
      have decoded : (checkRateLimit keys request.reachable request.moment
          (rateLimitKey display clientIp) 1000 60000 (requestCost toStr request.headers)).2 =
          decodeOutcome (gcraScript 1000 60000 (keys (rateLimitKey display clientIp))
            (toInvocation toStr request)).2 := by
        simp only [checkRateLimit, reachable, if_true]
        rfl
      cases answered : (gcraScript 1000 60000 (keys (rateLimitKey display clientIp))
          (toInvocation toStr request)).2 with
      | error error => simp only [applyRateLimit, decoded, answered, decodeOutcome]
      | ok reply =>
          have allowed : (decodeReply reply).allowed = true := by
            rw [decodeReply_allowed, allowedReply, allows reply answered]
            rfl
          simp only [applyRateLimit, decoded, answered, decodeOutcome, allowed, Bool.not_true,
            Bool.false_eq_true, if_false]

/-! ## Requests that are free -/

/-- A free request of a client without a key fails open and leaves no trace. -/
theorem applyRateLimit_free {keys : Keyspace}
    (absent : keys (rateLimitKey display clientIp) = none)
    {request : Request HeaderValue} (reachable : request.reachable = true)
    (free : requestCost toStr request.headers = 0) :
    applyRateLimit toStr display clientIp keys request = (keys, .proceed) := by
  have rejected : gcraScript 1000 60000 none
      { request.moment with cost := requestCost toStr request.headers } =
        (none, .error .invalidExpireTime) := gcraScript_free_absent 1000 60000 free
  have unchanged : Function.update keys (rateLimitKey display clientIp) none = keys := by
    rw [← absent, Function.update_eq_self]
  simp only [applyRateLimit, checkRateLimit, reachable, if_true, absent, rejected,
    unchanged, decodeOutcome]

/-- However often it is repeated, a free request of such a client passes. -/
theorem serveClient_free {keys : Keyspace}
    (absent : keys (rateLimitKey display clientIp) = none)
    {request : Request HeaderValue} (reachable : request.reachable = true)
    (free : requestCost toStr request.headers = 0) (count : ℕ) :
    serveClient toStr display clientIp keys (List.replicate count request) =
      { keys, passed := List.replicate count request } := by
  induction count with
  | zero => rfl
  | succ count ih =>
      rw [List.replicate_succ', serveClient_concat, ih, ClientRun.step]
      simp only [applyRateLimit_free absent reachable free, Verdict.passes, if_true]

end Client

/-- In every sequence of requests from one client none of which names a model
together with a declared estimate of zero tokens, any window of `width`
milliseconds lets at most `1000 + width * 1000 / 60000` requests pass, whatever
their headers. -/
theorem client_within_limit {HeaderValue : Type} {toStr : HeaderValue → Option String}
    {display : IpAddr → String} {clientIp : IpAddr} {keys : Keyspace}
    (fresh : keys (rateLimitKey display clientIp) = none)
    (requests : List (Request HeaderValue))
    (reachable : ∀ request ∈ requests, request.reachable = true)
    (singleClock : ∀ request ∈ requests, request.moment.now = request.moment.clock)
    (nonzero : ∀ request ∈ requests, ¬DeclaresZeroTokens toStr request.headers)
    (start : ℚ) {width : ℚ} (widthNonneg : 0 ≤ width) :
    (countWithin start width
        (serveClient toStr display clientIp keys requests).passed : ℚ) ≤
      1000 + width * 1000 / 60000 := by
  have charged : ∀ request ∈ requests, 1 ≤ (toInvocation toStr request).cost := by
    intro request membership
    rw [Nat.one_le_iff_ne_zero]
    intro free
    exact nonzero request membership ((requestCost_eq_zero_iff toStr request.headers).mp free)
  have passedCharged : ∀ request ∈ (serveClient toStr display clientIp keys requests).passed,
      1 ≤ (toInvocation toStr request).cost := by
    intro request membership
    exact charged request ((passed_sublist keys requests).subset membership)
  have counted := countWithin_le_costWithin start width passedCharged
  rw [(serveClient_eq_runKey fresh reachable charged).2] at counted
  have bounded := @costWithin_le_of_singleClock 1000 60000 (by decide) (by decide)
    (requests.map (toInvocation toStr)) (by simpa using charged)
    (by simpa [toInvocation] using singleClock) start width widthNonneg
  have counted' : (countWithin start width
      (serveClient toStr display clientIp keys requests).passed : ℚ) ≤ _ :=
    Nat.cast_le.mpr counted
  exact_mod_cast counted'.trans bounded

/-- A request with the given AI headers, as the client chose them. -/
def aiRequest (model estimatedTokens : String) : Request String where
  headers name :=
    if name = "x-ai-model" then some model
    else if name = "x-ai-estimated-tokens" then some estimatedTokens
    else none
  moment := { clock := 7, lingers := false, now := 7 }
  reachable := true

/-- An estimate of seven hundred tokens is not the way out: of two such requests
one passes, within the bound. -/
theorem client_within_limit_heavy :
    (countWithin 7 0 (serveClient some (fun _ => "10.0.0.1") (.v4 ⟨⟨10, 0, 0, 1⟩⟩)
      (fun _ => none) (List.replicate 2 (aiRequest "gpt-4" "700"))).passed : ℚ) ≤
        1000 + 0 * 1000 / 60000 := by
  apply client_within_limit rfl (List.replicate 2 (aiRequest "gpt-4" "700")) (by simp [aiRequest])
    (by simp [aiRequest])
  · intro request membership
    rw [← requestCost_eq_zero_iff, List.eq_of_mem_replicate membership]
    decide
  · exact le_rfl

/-- A thousand and one requests at one instant, each declaring zero tokens, all
pass: the first window of length zero already exceeds its thousand. -/
theorem client_within_limit_fails :
    ¬(countWithin 7 0 (serveClient some (fun _ => "10.0.0.1") (.v4 ⟨⟨10, 0, 0, 1⟩⟩)
      (fun _ => none) (List.replicate 1001 (aiRequest "gpt-4" "0"))).passed : ℚ) ≤
        1000 + 0 * 1000 / 60000 := by
  rw [serveClient_free rfl rfl (by decide), countWithin, List.filter_replicate,
    if_pos (by decide +kernel), List.length_replicate]
  norm_num

end Vortex.Proxy
