import Vortex.Proxy.BanManager
import Vortex.Lib.Retain

/-!
# The ban manager in sequence

`BanManager` as the program text has it, for complete calls: `ban_ip`,
`is_ip_banned`, and one tick of the sweeper, which goes through `banned_ips` with
`retain`.  Every limiter call may fail and then leaves the limiter's set as it
was.

Run without interference, the actions of the concurrent model perform exactly
these calls.  Over any sequence of them the limiter's set and the keys of
`banned_ips` are the same.
-/

namespace Vortex.Proxy

open Ebpf Lib

/-- `BanManager`; the limiter is the set of addresses it blocks. -/
structure BanManager where
  limiter : Option (Finset IpAddr)
  bannedIps : AList fun _ : IpAddr => ℕ

namespace BanManager

/-- `BanManager::new`. -/
def new (limiter : Option (Finset IpAddr)) : BanManager where
  limiter
  bannedIps := ∅

/-- `ban_ip` at an instant; `succeeds` is the outcome of `block_ip`. -/
def banIp (manager : BanManager) (now : ℕ) (ip : IpAddr) (duration : ℕ) (succeeds : Bool) :
    BanManager :=
  match manager.limiter with
  | none => manager
  | some blocked =>
      if succeeds then
        { limiter := some (insert ip blocked)
          bannedIps := manager.bannedIps.insert ip (now + duration) }
      else manager

/-- `is_ip_banned` at an instant. -/
def isIpBanned (manager : BanManager) (now : ℕ) (ip : IpAddr) : Bool :=
  (match manager.limiter with
    | some blocked => mockXdpLimiter.isIpBlocked blocked ip
    | none => false) ||
  match manager.bannedIps.lookup ip with
  | some expiration => decide (expiration > now)
  | none => false

/-- The closure of the sweeper's `retain`; `fails` says which `unblock_ip` calls
fail in this tick. -/
def sweepEntry (now : ℕ) (fails : IpAddr → Bool) (blocked : Finset IpAddr) (ip : IpAddr)
    (expiration : ℕ) : Finset IpAddr × Bool :=
  if expiration ≤ now then
    -- A failed `unblock_ip` is retried on the next tick.
    if fails ip then (blocked, true) else (blocked.erase ip, false)
  else (blocked, true)

/-- One tick of the sweeper. -/
def tick (manager : BanManager) (now : ℕ) (fails : IpAddr → Bool) : BanManager :=
  match manager.limiter with
  -- Without a limiter no sweeper is spawned.
  | none => manager
  | some blocked =>
      let swept := retain (sweepEntry now fails) blocked manager.bannedIps
      { limiter := some swept.1, bannedIps := swept.2 }

/-- The addresses the limiter blocks. -/
def blocked (manager : BanManager) : Finset IpAddr := manager.limiter.getD ∅

end BanManager

/-- A complete call. -/
inductive BanCall where
  | ban (ip : IpAddr) (duration : ℕ) (succeeds : Bool)
  | tick (fails : IpAddr → Bool)

/-- Perform a call at an instant. -/
def BanManager.perform (manager : BanManager) (now : ℕ) : BanCall → BanManager
  | .ban ip duration succeeds => manager.banIp now ip duration succeeds
  | .tick fails => manager.tick now fails

/-- A new manager with a limiter after a sequence of calls, each at its
instant. -/
def runBans (history : List (ℕ × BanCall)) : BanManager :=
  history.foldl (fun manager event => manager.perform event.1 event.2) (.new (some ∅))

/-- The expiration recorded by a call, if it is a successful ban of the
address. -/
def BanCall.recorded (now : ℕ) (ip : IpAddr) : BanCall → Option ℕ
  | .ban target duration succeeds =>
      if target = ip ∧ succeeds = true then some (now + duration) else none
  | .tick _ => none

/-- The expiration recorded by the latest successful ban of an address. -/
def latestExpiration (history : List (ℕ × BanCall)) (ip : IpAddr) : Option ℕ :=
  history.foldl (fun latest event => event.2.recorded event.1 ip <|> latest) none

@[simp] theorem runBans_concat (history : List (ℕ × BanCall)) (event : ℕ × BanCall) :
    runBans (history ++ [event]) = (runBans history).perform event.1 event.2 := by
  simp [runBans]

@[simp] theorem latestExpiration_concat (history : List (ℕ × BanCall)) (event : ℕ × BanCall)
    (ip : IpAddr) :
    latestExpiration (history ++ [event]) ip =
      (event.2.recorded event.1 ip <|> latestExpiration history ip) := by
  simp [latestExpiration]

/-! ## One tick -/

section Tick

variable (now : ℕ) (fails : IpAddr → Bool)

/-- An entry stays when it has not expired or its address cannot be unblocked. -/
def stays (ip : IpAddr) (expiration : ℕ) : Bool :=
  decide (now < expiration) || fails ip

theorem sweepEntry_eq (blocked : Finset IpAddr) (ip : IpAddr) (expiration : ℕ) :
    BanManager.sweepEntry now fails blocked ip expiration =
      if stays now fails ip expiration then (blocked, true) else (blocked.erase ip, false) := by
  simp only [BanManager.sweepEntry, stays]
  rcases Nat.lt_or_ge now expiration with unexpired | expired
  · simp [unexpired]
  · simp [expired, expired.not_gt]

theorem sweepEntry_snd (blocked : Finset IpAddr) (ip : IpAddr) (expiration : ℕ) :
    (BanManager.sweepEntry now fails blocked ip expiration).2 = stays now fails ip expiration := by
  rw [sweepEntry_eq]
  cases stays now fails ip expiration with
  | false => rfl
  | true => rfl

/-- A sweep leaves an address blocked unless one of the entries visited is its
own and does not stay. -/
theorem mem_sweep (entries : List (Sigma fun _ : IpAddr => ℕ)) (blocked : Finset IpAddr)
    (ip : IpAddr) :
    ip ∈ entries.foldl
        (fun blocked entry => (BanManager.sweepEntry now fails blocked entry.1 entry.2).1) blocked ↔
      ip ∈ blocked ∧ ∀ entry ∈ entries, entry.1 = ip → stays now fails ip entry.2 = true := by
  induction entries generalizing blocked with
  | nil => simp
  | cons entry entries ih =>
      rw [List.foldl_cons, ih, sweepEntry_eq, List.forall_mem_cons, ← and_assoc]
      apply and_congr_left'
      cases kept : stays now fails entry.1 entry.2 with
      | true =>
          simp only [if_true, iff_self_and]
          rintro _ rfl
          exact kept
      | false =>
          simp only [Bool.false_eq_true, if_false, Finset.mem_erase]
          rw [and_comm]
          apply and_congr_right'
          constructor
          · intro different same
            exact absurd same.symm different
          · rintro unlessOwn rfl
            rw [unlessOwn rfl] at kept
            cases kept

end Tick

namespace BanManager

theorem tick_of_limiter {manager : BanManager} {blocked : Finset IpAddr}
    (limiter : manager.limiter = some blocked) (now : ℕ) (fails : IpAddr → Bool) :
    manager.tick now fails =
      { limiter := some (retain (sweepEntry now fails) blocked manager.bannedIps).1
        bannedIps := (retain (sweepEntry now fails) blocked manager.bannedIps).2 } := by
  simp only [tick, limiter]

end BanManager

/-! ## The two maps agree -/

/-- The limiter's set is the keys of `banned_ips`, and each entry is that of the
latest successful ban. -/
structure InStep (history : List (ℕ × BanCall)) (manager : BanManager) : Prop where
  limiter : manager.limiter = some manager.blocked
  agree : ∀ ip, ip ∈ manager.blocked ↔ ip ∈ manager.bannedIps
  recorded : ∀ ip expiration, manager.bannedIps.lookup ip = some expiration →
    latestExpiration history ip = some expiration

theorem InStep.initial : InStep [] (runBans []) where
  limiter := rfl
  agree := by simp [runBans, BanManager.new, BanManager.blocked]
  recorded := by simp [runBans, BanManager.new]

section Step

variable {history : List (ℕ × BanCall)} {manager : BanManager}

theorem InStep.mem_blocked (inStep : InStep history manager) (ip : IpAddr) :
    ip ∈ manager.blocked ↔ ∃ expiration, manager.bannedIps.lookup ip = some expiration := by
  rw [inStep.agree, ← AList.lookup_isSome, Option.isSome_iff_exists]

/-- After a tick the limiter holds the addresses whose entries stay. -/
theorem InStep.mem_tick (inStep : InStep history manager) (now : ℕ) (fails : IpAddr → Bool)
    (ip : IpAddr) :
    ip ∈ (manager.tick now fails).blocked ↔
      ∃ expiration, manager.bannedIps.lookup ip = some expiration ∧
        stays now fails ip expiration = true := by
  rw [BanManager.tick_of_limiter inStep.limiter]
  simp only [BanManager.blocked, Option.getD_some, retain_fst, mem_sweep]
  change ip ∈ manager.blocked ∧ _ ↔ _
  rw [inStep.mem_blocked]
  constructor
  · intro remains
    rcases remains with ⟨⟨expiration, entry⟩, visited⟩
    exact ⟨expiration, entry, visited ⟨ip, expiration⟩ (AList.mem_lookup_iff.mp entry) rfl⟩
  · intro remains
    rcases remains with ⟨expiration, entry, kept⟩
    refine ⟨⟨expiration, entry⟩, ?_⟩
    rintro ⟨_, other⟩ membership rfl
    have same := AList.mem_lookup_iff.mpr membership
    rw [Option.mem_def, entry] at same
    cases same
    exact kept

theorem InStep.lookup_tick (inStep : InStep history manager) (now : ℕ) (fails : IpAddr → Bool)
    (ip : IpAddr) :
    (manager.tick now fails).bannedIps.lookup ip =
      (manager.bannedIps.lookup ip).filter (stays now fails ip) := by
  rw [BanManager.tick_of_limiter inStep.limiter]
  exact lookup_retain (sweepEntry_snd now fails) _ _ _

theorem InStep.tick (inStep : InStep history manager) (now : ℕ) (fails : IpAddr → Bool) :
    InStep (history ++ [(now, .tick fails)]) (manager.tick now fails) where
  limiter := by
    rw [BanManager.tick_of_limiter inStep.limiter]
    rfl
  agree := by
    intro ip
    rw [inStep.mem_tick, ← AList.lookup_isSome, inStep.lookup_tick, Option.isSome_iff_exists]
    simp only [Option.filter_eq_some_iff]
  recorded := by
    intro ip expiration entry
    rw [inStep.lookup_tick, Option.filter_eq_some_iff] at entry
    simpa [BanCall.recorded] using inStep.recorded ip expiration entry.1

theorem InStep.banIp (inStep : InStep history manager) (now : ℕ) (ip : IpAddr) (duration : ℕ)
    (succeeds : Bool) :
    InStep (history ++ [(now, .ban ip duration succeeds)])
      (manager.banIp now ip duration succeeds) := by
  simp only [BanManager.banIp, inStep.limiter]
  cases succeeds with
  | false =>
      refine ⟨inStep.limiter, inStep.agree, ?_⟩
      intro other expiration entry
      simpa [BanCall.recorded] using inStep.recorded other expiration entry
  | true =>
      refine ⟨rfl, ?_, ?_⟩
      · intro other
        simp [BanManager.blocked, ← inStep.agree]
      · intro other expiration entry
        rw [latestExpiration_concat]
        rcases Decidable.eq_or_ne other ip with rfl | different
        · simpa [BanCall.recorded] using entry
        · simp only [if_true, AList.lookup_insert_ne different] at entry
          simpa [BanCall.recorded, different.symm] using inStep.recorded other expiration entry

theorem InStep.perform (inStep : InStep history manager) (now : ℕ) (call : BanCall) :
    InStep (history ++ [(now, call)]) (manager.perform now call) := by
  cases call with
  | ban ip duration succeeds => exact inStep.banIp now ip duration succeeds
  | tick fails => exact inStep.tick now fails

end Step

theorem inStep_runBans (history : List (ℕ × BanCall)) : InStep history (runBans history) := by
  induction history using List.reverseRecOn with
  | nil => exact .initial
  | append_singleton history event ih =>
      rw [runBans_concat]
      exact ih.perform event.1 event.2

/-- After every sequence of complete calls the limiter's set is the keys of
`banned_ips`; over a tick an address stays in both exactly when the expiration of
its latest successful ban is later or its `unblock_ip` fails; and `is_ip_banned`
holds of exactly these addresses. -/
theorem ban_lists_agree (history : List (ℕ × BanCall)) :
    (∀ ip, ip ∈ (runBans history).blocked ↔ ip ∈ (runBans history).bannedIps) ∧
      (∀ now fails ip,
        ip ∈ (runBans (history ++ [(now, .tick fails)])).blocked ∧
            ip ∈ (runBans (history ++ [(now, .tick fails)])).bannedIps ↔
          (ip ∈ (runBans history).blocked ∧ ip ∈ (runBans history).bannedIps) ∧
            ((∃ expiration, latestExpiration history ip = some expiration ∧ now < expiration) ∨
              fails ip = true)) ∧
      ∀ now ip,
        (runBans history).isIpBanned now ip = true ↔ ip ∈ (runBans history).blocked := by
  have inStep := inStep_runBans history
  refine ⟨inStep.agree, ?_, ?_⟩
  · intro now fails ip
    have after := inStep_runBans (history ++ [(now, .tick fails)])
    rw [← after.agree, ← inStep.agree, and_self, and_self, runBans_concat]
    change ip ∈ ((runBans history).tick now fails).blocked ↔ _
    rw [inStep.mem_tick, inStep.mem_blocked]
    constructor
    · intro remains
      rcases remains with ⟨expiration, entry, kept⟩
      refine ⟨⟨expiration, entry⟩, ?_⟩
      rw [stays, Bool.or_eq_true, decide_eq_true_eq] at kept
      rw [inStep.recorded ip expiration entry]
      exact kept.imp_left fun unexpired => ⟨expiration, rfl, unexpired⟩
    · intro remains
      rcases remains with ⟨⟨expiration, entry⟩, kept⟩
      refine ⟨expiration, entry, ?_⟩
      rw [inStep.recorded ip expiration entry] at kept
      simpa [stays] using kept
  · intro now ip
    simp only [BanManager.isIpBanned, inStep.limiter, mockXdpLimiter, Bool.or_eq_true,
      decide_eq_true_eq, or_iff_left_iff_imp]
    intro unexpired
    rw [inStep.mem_blocked]
    cases entry : (runBans history).bannedIps.lookup ip with
    | none =>
        rw [entry] at unexpired
        cases unexpired
    | some expiration => exact ⟨expiration, rfl⟩

/-! ## Complete calls of the concurrent model -/

/-- The concurrent state between calls. -/
def BanManager.atRest (manager : BanManager) (clock : ℕ) : BanState where
  clock
  blocked := manager.blocked
  bannedIps := fun ip => manager.bannedIps.lookup ip
  pending := fun _ => none
  sweeper := .idle

/-- The actions of the sweeper at one entry. -/
def visitSteps (now : ℕ) (fails : IpAddr → Bool) (entry : Sigma fun _ : IpAddr => ℕ) :
    List BanStep :=
  if now < entry.2 then [.visit entry.1 true]
  else if fails entry.1 then [.visit entry.1 false]
  else [.visit entry.1 true, .remove]

/-- The actions of a complete call. -/
def BanCall.steps (manager : BanManager) (now : ℕ) : BanCall → List BanStep
  | .ban ip duration true => [.block 0 ip duration true, .insert 0]
  | .ban ip duration false => [.block 0 ip duration false]
  | .tick fails => .tick :: (manager.bannedIps.entries.flatMap (visitSteps now fails) ++ [.finish])

/-- What the actions at one entry do. -/
def afterVisit (now : ℕ) (fails : IpAddr → Bool) (state : BanState)
    (entry : Sigma fun _ : IpAddr => ℕ) : BanState :=
  if stays now fails entry.1 entry.2 then state
  else
    { state with
      blocked := state.blocked.erase entry.1
      bannedIps := Function.update state.bannedIps entry.1 none }

section Visits

variable {now : ℕ} {fails : IpAddr → Bool} {state : BanState}
variable {entry : Sigma fun _ : IpAddr => ℕ} {entries : List (Sigma fun _ : IpAddr => ℕ)}

theorem run_visitSteps (sweeping : state.sweeper = .sweeping now)
    (present : state.bannedIps entry.1 = some entry.2) :
    banSystem.run state (visitSteps now fails entry) = some (afterVisit now fails state entry) := by
  simp only [visitSteps, afterVisit, stays]
  rcases Nat.lt_or_ge now entry.2 with unexpired | expired
  · simp [unexpired, System.run, banSystem, banStep, sweeping, present]
  · rcases Bool.eq_false_or_eq_true (fails entry.1) with failing | succeeding
    · simp [expired.not_gt, failing, System.run, banSystem, banStep, sweeping, present]
    · simp [expired, expired.not_gt, succeeding, System.run, banSystem, banStep, sweeping, present,
        BanState.unblockIp, BanState.removeBan]

theorem afterVisit_sweeper (entry : Sigma fun _ : IpAddr => ℕ) :
    (afterVisit now fails state entry).sweeper = state.sweeper := by
  unfold afterVisit
  split <;> rfl

theorem afterVisit_other {ip : IpAddr} (different : ip ≠ entry.1) :
    (afterVisit now fails state entry).bannedIps ip = state.bannedIps ip := by
  unfold afterVisit
  split
  · rfl
  · exact Function.update_of_ne different _ _

theorem afterVisit_own (present : state.bannedIps entry.1 = some entry.2) :
    (afterVisit now fails state entry).bannedIps entry.1 =
      (some entry.2).filter (stays now fails entry.1) := by
  unfold afterVisit
  split
  · next kept => rw [present, Option.filter_some, if_pos kept]
  · next dropped =>
      rw [Option.filter_some, if_neg dropped]
      exact Function.update_self ..

/-- The entries still to be visited are those of the map, apart from entries that
stay. -/
structure Remaining (now : ℕ) (fails : IpAddr → Bool) (state : BanState)
    (entries : List (Sigma fun _ : IpAddr => ℕ)) : Prop where
  distinct : entries.NodupKeys
  present : ∀ entry ∈ entries, state.bannedIps entry.1 = some entry.2
  covered : ∀ ip expiration, state.bannedIps ip = some expiration →
    stays now fails ip expiration = true ∨ ⟨ip, expiration⟩ ∈ entries

theorem Remaining.afterVisit (remaining : Remaining now fails state (entry :: entries)) :
    Remaining now fails (afterVisit now fails state entry) entries := by
  rcases List.nodupKeys_cons.mp remaining.distinct with ⟨fresh, distinct⟩
  refine ⟨distinct, ?_, ?_⟩
  · intro other membership
    have different : other.1 ≠ entry.1 := by
      intro same
      exact fresh (same ▸ List.mem_keys_of_mem membership)
    rw [afterVisit_other different]
    exact remaining.present other (List.mem_cons_of_mem _ membership)
  · intro ip expiration recorded
    rcases Decidable.eq_or_ne ip entry.1 with rfl | different
    · rw [afterVisit_own (remaining.present entry List.mem_cons_self)] at recorded
      rw [Option.filter_eq_some_iff] at recorded
      exact .inl recorded.2
    · rw [afterVisit_other different] at recorded
      rcases remaining.covered ip expiration recorded with kept | membership
      · exact .inl kept
      · rcases List.mem_cons.mp membership with same | later
        · exact absurd (congrArg Sigma.fst same) different
        · exact .inr later

/-- The visits of a whole sweep, one entry after the other. -/
theorem run_visits (remaining : Remaining now fails state entries)
    (sweeping : state.sweeper = .sweeping now) :
    banSystem.run state (entries.flatMap (visitSteps now fails)) =
      some (entries.foldl (Proxy.afterVisit now fails) state) := by
  induction entries generalizing state with
  | nil => rfl
  | cons entry entries ih =>
      have present := remaining.present entry List.mem_cons_self
      rw [List.flatMap_cons, System.run_append, run_visitSteps sweeping present,
        Option.bind_some, List.foldl_cons]
      apply ih remaining.afterVisit
      rw [afterVisit_sweeper, sweeping]

theorem Remaining.filter_afterVisit (remaining : Remaining now fails state (entry :: entries))
    (ip : IpAddr) :
    ((Proxy.afterVisit now fails state entry).bannedIps ip).filter (stays now fails ip) =
      (state.bannedIps ip).filter (stays now fails ip) := by
  rcases Decidable.eq_or_ne ip entry.1 with rfl | different
  · have present := remaining.present entry List.mem_cons_self
    rw [afterVisit_own present, present, Option.filter_filter]
    simp
  · rw [afterVisit_other different]

/-- A whole sweep unblocks and removes the entries that do not stay. -/
theorem foldl_afterVisit (remaining : Remaining now fails state entries) :
    entries.foldl (Proxy.afterVisit now fails) state =
      { state with
        blocked := entries.foldl
          (fun blocked entry => (BanManager.sweepEntry now fails blocked entry.1 entry.2).1)
          state.blocked
        bannedIps := fun ip => (state.bannedIps ip).filter (stays now fails ip) } := by
  induction entries generalizing state with
  | nil =>
      have unchanged : (fun ip => (state.bannedIps ip).filter (stays now fails ip)) =
          state.bannedIps := by
        funext ip
        cases recorded : state.bannedIps ip with
        | none => rfl
        | some expiration =>
            have kept := (remaining.covered ip expiration recorded).resolve_right List.not_mem_nil
            rw [Option.filter_some, if_pos kept]
      rw [unchanged]
      rfl
  | cons entry entries ih =>
      rw [List.foldl_cons, ih remaining.afterVisit, funext remaining.filter_afterVisit,
        List.foldl_cons, sweepEntry_eq, Proxy.afterVisit]
      split <;> rfl

end Visits

section Complete

variable {manager : BanManager} {blocked : Finset IpAddr}

theorem run_ban (limiter : manager.limiter = some blocked) (now : ℕ) (ip : IpAddr)
    (duration : ℕ) (succeeds : Bool) :
    banSystem.run (manager.atRest now) ((BanCall.ban ip duration succeeds).steps manager now) =
      some ((manager.banIp now ip duration succeeds).atRest now) := by
  cases succeeds with
  | false =>
      simp [BanCall.steps, System.run, banSystem, banStep, BanManager.atRest, BanManager.banIp,
        limiter]
  | true =>
      have inserted : Function.update (fun other => manager.bannedIps.lookup other) ip
          (some (now + duration)) =
            fun other => (manager.bannedIps.insert ip (now + duration)).lookup other := by
        funext other
        rcases Decidable.eq_or_ne other ip with rfl | different
        · simp
        · simp [different]
      simp [BanCall.steps, System.run, banSystem, banStep, BanManager.atRest, BanManager.banIp,
        limiter, BanState.blockIp, BanState.insertBan, BanState.locks, BanManager.blocked, inserted]

theorem run_tick (limiter : manager.limiter = some blocked) (now : ℕ) (fails : IpAddr → Bool) :
    banSystem.run (manager.atRest now) ((BanCall.tick fails).steps manager now) =
      some ((manager.tick now fails).atRest now) := by
  have remaining : Remaining now fails { manager.atRest now with sweeper := .sweeping now }
      manager.bannedIps.entries := by
    refine ⟨manager.bannedIps.nodupKeys, ?_, ?_⟩
    · intro entry membership
      exact AList.mem_lookup_iff.mpr membership
    · intro ip expiration recorded
      exact .inr (AList.mem_lookup_iff.mp recorded)
  change banSystem.run { manager.atRest now with sweeper := .sweeping now } (_ ++ _) = _
  rw [System.run_append, run_visits remaining rfl, foldl_afterVisit remaining,
    BanManager.tick_of_limiter limiter]
  simp [System.run, banSystem, banStep, BanManager.atRest, BanManager.blocked, limiter, retain_fst,
    lookup_retain (sweepEntry_snd now fails)]

/-- Run without interference, the actions of a complete call perform it. -/
theorem run_call (limiter : manager.limiter = some blocked) (now : ℕ) (call : BanCall) :
    banSystem.run (manager.atRest now) (call.steps manager now) =
      some ((manager.perform now call).atRest now) := by
  cases call with
  | ban ip duration succeeds => exact run_ban limiter now ip duration succeeds
  | tick fails => exact run_tick limiter now fails

end Complete

end Vortex.Proxy
