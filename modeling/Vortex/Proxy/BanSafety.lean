import Vortex.Proxy.BanManager

/-!
# Safety of the ban manager over all interleavings

Two invariants relate the limiter's set to `banned_ips`.  No ban leaks: every
blocked address is tracked by an entry or by a `ban_ip` call that is about to
insert one.  Conversely a recorded ban is enforced as long as the sweeper never
unblocks an address between the two halves of a `ban_ip` call on it; when it
does, the late insert records a ban that nothing enforces.
-/

namespace Vortex.Proxy

open Ebpf Lib

namespace BanState

variable {state : BanState} {call : ℕ}

/-- Starting a call adds it to the calls in flight. -/
theorem banning_blockIp {ip other : IpAddr} {duration : ℕ}
    (free : state.pending call = none) :
    (state.blockIp call ip duration).Banning other ↔ other = ip ∨ state.Banning other := by
  constructor
  · intro banning
    rcases banning with ⟨witness, ban, inFlight, sameIp⟩
    by_cases same : witness = call
    · subst same
      simp only [blockIp, Function.update_self, Option.some.injEq] at inFlight
      subst inFlight
      exact Or.inl sameIp.symm
    · right
      simp only [blockIp, Function.update_of_ne same] at inFlight
      exact ⟨witness, ban, inFlight, sameIp⟩
  · intro cases
    rcases cases with rfl | ⟨witness, ban, inFlight, sameIp⟩
    · exact ⟨call, { ip := other, duration }, by simp [blockIp], rfl⟩
    · refine ⟨witness, ban, ?_, sameIp⟩
      have different : witness ≠ call := by
        intro equal
        rw [equal, free] at inFlight
        cases inFlight
      simpa [blockIp, Function.update_of_ne different] using inFlight

/-- Completing a call leaves the calls on other addresses in flight. -/
theorem Banning.insertBan {ban : PendingBan} (inFlight : state.pending call = some ban)
    {other : IpAddr} (different : other ≠ ban.ip) (banning : state.Banning other) :
    (state.insertBan call ban).Banning other := by
  rcases banning with ⟨witness, found, foundInFlight, sameIp⟩
  refine ⟨witness, found, ?_, sameIp⟩
  have otherCall : witness ≠ call := by
    intro equal
    rw [equal, inFlight] at foundInFlight
    cases foundInFlight
    exact different sameIp.symm
  simpa [BanState.insertBan, Function.update_of_ne otherCall] using foundInFlight

/-- Completing a call adds none to the calls in flight. -/
theorem Banning.of_insertBan {ban : PendingBan} {other : IpAddr}
    (banning : (state.insertBan call ban).Banning other) : state.Banning other := by
  rcases banning with ⟨witness, found, foundInFlight, sameIp⟩
  by_cases same : witness = call
  · subst same
    simp [BanState.insertBan] at foundInFlight
  · simp only [BanState.insertBan, Function.update_of_ne same] at foundInFlight
    exact ⟨witness, found, foundInFlight, sameIp⟩

end BanState

/-! ## No ban leaks -/

/-- Every blocked address is tracked. While the sweeper is removing an entry,
the address can be blocked again only by a call in flight. -/
structure NoLeak (state : BanState) : Prop where
  tracked : ∀ ip ∈ state.blocked, state.bannedIps ip ≠ none ∨ state.Banning ip
  removing : ∀ now ip, state.sweeper = .removing now ip → ip ∈ state.blocked →
    state.Banning ip

theorem NoLeak.initial (clock : ℕ) : NoLeak (.initial clock) where
  tracked := by simp [BanState.initial]
  removing := by simp [BanState.initial]

theorem NoLeak.step {state next : BanState} {step : BanStep} (inv : NoLeak state)
    (stepped : banStep state step = some next) : NoLeak next := by
  cases banStep_effect stepped with
  | advanced elapsed => exact ⟨inv.tracked, inv.removing⟩
  | unchanged => exact inv
  | blocked ip duration free =>
      constructor
      · intro other membership
        rw [BanState.banning_blockIp free]
        rcases Finset.mem_insert.mp membership with equal | old
        · exact Or.inr (Or.inl equal)
        · exact (inv.tracked other old).imp_right Or.inr
      · intro now other removing membership
        rw [BanState.banning_blockIp free]
        rcases Finset.mem_insert.mp membership with equal | old
        · exact Or.inl equal
        · exact Or.inr (inv.removing now other removing old)
  | @inserted call ban inFlight unlocked =>
      constructor
      · intro other membership
        by_cases same : other = ban.ip
        · left
          simp [BanState.insertBan, same]
        · rcases inv.tracked other membership with entry | banning
          · left
            simpa [BanState.insertBan, Function.update_of_ne same] using entry
          · exact Or.inr (banning.insertBan inFlight same)
      · intro now other removing membership
        -- The visit holds the entry, so this insert is for another address.
        have different : other ≠ ban.ip := by
          intro equal
          change state.sweeper = .removing now other at removing
          simp [BanState.locks, removing, equal] at unlocked
        exact (inv.removing now other removing membership).insertBan inFlight different
  | ticked idle => exact ⟨inv.tracked, by simp⟩
  | unblocked sweeping entry expired =>
      constructor
      · intro other membership
        exact inv.tracked other (Finset.mem_of_mem_erase membership)
      · intro swept other removing membership
        cases removing
        simp [BanState.unblockIp] at membership
  | @removed now ip removing =>
      constructor
      · intro other membership
        by_cases same : other = ip
        · subst same
          exact Or.inr (inv.removing now other removing membership)
        · rcases inv.tracked other membership with entry | banning
          · left
            simpa [BanState.removeBan, Function.update_of_ne same] using entry
          · exact Or.inr banning
      · simp [BanState.removeBan]
  | finished sweeping => exact ⟨inv.tracked, by simp⟩

/-- **No ban leaks for ever.** In every state reached by any interleaving of
`ban_ip` calls and the sweeper, with any pattern of failing limiter calls, a
blocked address has an entry in `banned_ips` or a `ban_ip` call in progress that
has blocked it and not yet inserted its entry. -/
theorem no_ban_leaks {clock : ℕ} {steps : List BanStep} {state : BanState}
    (runs : banSystem.Runs (fun _ _ => True) (.initial clock) steps state) :
    ∀ ip ∈ state.blocked, state.bannedIps ip ≠ none ∨ state.Banning ip := by
  have inv : NoLeak state := by
    apply runs.invariant _ (NoLeak.initial clock)
    intro state next step inv _ stepped
    exact inv.step stepped
  exact inv.tracked

/-- An address for concrete runs. -/
def someIp : IpAddr := .v4 ⟨⟨203, 0, 113, 42⟩⟩

/-- While the sweeper is removing an expired entry whose address has just been
banned again, the address is blocked and its call is in progress. -/
theorem no_ban_leaks_removing :
    ∃ state, banSystem.run (.initial 0)
        [.block 0 someIp 10 true, .insert 0, .advance 10, .tick, .visit someIp true,
          .block 1 someIp 10 true, .remove] = some state ∧
      someIp ∈ state.blocked ∧
      (state.bannedIps someIp ≠ none ∨ state.Banning someIp) := by
  have executed : banSystem.run (.initial 0)
      [.block 0 someIp 10 true, .insert 0, .advance 10, .tick, .visit someIp true,
        .block 1 someIp 10 true, .remove] = some _ := rfl
  exact ⟨_, executed, by decide, no_ban_leaks (.of_run executed) someIp (by decide)⟩

/-! ## A recorded ban is enforced -/

/-- The sweeper does not unblock an address while a `ban_ip` call on it is
between `block_ip` and `insert`. -/
def NoOvertaking (state : BanState) : BanStep → Prop
  | .visit ip _ =>
      ∀ now expiration, state.sweeper = .sweeping now →
        state.bannedIps ip = some expiration → expiration ≤ now → ¬state.Banning ip
  | _ => True

/-- Unexpired entries and calls in flight have their address blocked, and the
instant a sweep works with lies in the past. -/
structure Enforced (state : BanState) : Prop where
  recorded : ∀ ip expiration, state.bannedIps ip = some expiration →
    state.clock < expiration → ip ∈ state.blocked
  inFlight : ∀ ip, state.Banning ip → ip ∈ state.blocked
  sweepPast : ∀ now, state.sweeper.now = some now → now ≤ state.clock

theorem Enforced.initial (clock : ℕ) : Enforced (.initial clock) where
  recorded := by simp [BanState.initial]
  inFlight := by simp [BanState.initial, BanState.Banning]
  sweepPast := by simp [BanState.initial, Sweeper.now]

theorem Enforced.step {state next : BanState} {step : BanStep} (inv : Enforced state)
    (separate : NoOvertaking state step) (stepped : banStep state step = some next) :
    Enforced next := by
  cases banStep_effect stepped with
  | advanced elapsed =>
      constructor
      · intro ip expiration entry unexpired
        exact inv.recorded ip expiration entry (Nat.lt_of_le_of_lt (by simp) unexpired)
      · exact inv.inFlight
      · intro now sweeping
        exact Nat.le_trans (inv.sweepPast now sweeping) (by simp)
  | unchanged => exact inv
  | blocked ip duration free =>
      constructor
      · intro other expiration entry unexpired
        exact Finset.mem_insert_of_mem (inv.recorded other expiration entry unexpired)
      · intro other banning
        rcases (BanState.banning_blockIp free).mp banning with equal | old
        · subst equal
          exact Finset.mem_insert_self _ _
        · exact Finset.mem_insert_of_mem (inv.inFlight other old)
      · exact inv.sweepPast
  | @inserted call ban inFlight unlocked =>
      constructor
      · intro other expiration entry unexpired
        by_cases same : other = ban.ip
        · rw [same]
          exact inv.inFlight ban.ip ⟨call, ban, inFlight, rfl⟩
        · simp only [BanState.insertBan, Function.update_of_ne same] at entry
          exact inv.recorded other expiration entry unexpired
      · intro other banning
        exact inv.inFlight other banning.of_insertBan
      · exact inv.sweepPast
  | ticked idle =>
      refine ⟨inv.recorded, inv.inFlight, ?_⟩
      intro now sweeping
      cases sweeping
      exact Nat.le_refl _
  | @unblocked now expiration ip sweeping entry expired =>
      constructor
      · intro other otherExpiration otherEntry unexpired
        change state.bannedIps other = some otherExpiration at otherEntry
        change state.clock < otherExpiration at unexpired
        -- The unblocked entry has expired, so this one belongs to another address.
        have different : other ≠ ip := by
          intro equal
          rw [equal, entry] at otherEntry
          cases otherEntry
          have past := inv.sweepPast now (by rw [sweeping]; rfl)
          omega
        exact Finset.mem_erase_of_ne_of_mem different
          (inv.recorded other otherExpiration otherEntry unexpired)
      · intro other banning
        have different : other ≠ ip := by
          intro equal
          subst equal
          exact separate now expiration sweeping entry expired banning
        exact Finset.mem_erase_of_ne_of_mem different (inv.inFlight other banning)
      · intro swept removing
        cases removing
        exact inv.sweepPast now (by rw [sweeping]; rfl)
  | @removed now ip removing =>
      constructor
      · intro other expiration entry unexpired
        by_cases same : other = ip
        · simp [BanState.removeBan, same] at entry
        · simp only [BanState.removeBan, Function.update_of_ne same] at entry
          exact inv.recorded other expiration entry unexpired
      · exact inv.inFlight
      · intro swept sweeping
        cases sweeping
        exact inv.sweepPast now (by rw [removing]; rfl)
  | finished sweeping => exact ⟨inv.recorded, inv.inFlight, by simp [Sweeper.now]⟩

/-- In every run whose sweeps never unblock an address between the two halves of
a `ban_ip` call on it, every entry of `banned_ips` that expires later than the
current time belongs to a blocked address. -/
theorem recorded_ban_enforced {clock : ℕ} {steps : List BanStep} {state : BanState}
    (runs : banSystem.Runs NoOvertaking (.initial clock) steps state) :
    ∀ ip expiration, state.bannedIps ip = some expiration → state.clock < expiration →
      ip ∈ state.blocked := by
  have inv : Enforced state := by
    apply runs.invariant _ (Enforced.initial clock)
    intro state next step inv separate stepped
    exact inv.step separate stepped
  exact inv.recorded

/-- A ban that is recorded, expires and is swept meets the condition, and the
ban recorded after it is enforced. -/
theorem recorded_ban_enforced_reban :
    ∃ state, banSystem.Runs NoOvertaking (.initial 0)
        [.block 0 someIp 10 true, .insert 0, .advance 10, .tick, .visit someIp true, .remove,
          .block 1 someIp 10 true, .insert 1] state ∧
      state.bannedIps someIp = some 20 ∧ state.clock < 20 ∧ someIp ∈ state.blocked := by
  have reached : ∃ state, banSystem.Runs NoOvertaking (.initial 0)
      [.block 0 someIp 10 true, .insert 0, .advance 10, .tick, .visit someIp true, .remove,
        .block 1 someIp 10 true, .insert 1] state ∧
      state.bannedIps someIp = some 20 ∧ state.clock < 20 := by
    refine ⟨_, .cons trivial rfl (.cons trivial rfl (.cons trivial rfl (.cons trivial rfl
      (.cons ?_ rfl (.cons trivial rfl (.cons trivial rfl (.cons trivial rfl (.nil _)))))))),
      rfl, ?_⟩
    · intro now expiration _ _ _ banning
      rcases banning with ⟨call, ban, inFlight, -⟩
      simp [BanState.insertBan, BanState.blockIp, BanState.initial] at inFlight
    · decide
  rcases reached with ⟨state, runs, entry, unexpired⟩
  exact ⟨state, runs, entry, unexpired, recorded_ban_enforced runs someIp 20 entry unexpired⟩

/-- A re-ban overtaken by the sweep of the previous ban: the sweeper unblocks
the address after the second call has blocked it and before that call inserts
its entry. The entry then promises ten more time units that nobody enforces. -/
theorem recorded_ban_overtaken :
    ∃ state, banSystem.run (.initial 0)
        [.block 0 someIp 10 true, .insert 0, .advance 10, .tick, .block 1 someIp 10 true,
          .visit someIp true, .remove, .insert 1] = some state ∧
      state.bannedIps someIp = some 20 ∧ state.clock < 20 ∧ someIp ∉ state.blocked :=
  ⟨_, rfl, rfl, by decide, by decide⟩

end Vortex.Proxy
