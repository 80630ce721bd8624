import Vortex.Lib.History
import Vortex.Proxy.BanSequence

/-!
# How long a ban lasts

`banned_ips` holds one expiration for each address, and `ban_ip` overwrites it.  A
ban therefore lasts at least its duration as long as no later ban of the same
address expires earlier; one that does takes the rest of the longer ban away at the
next tick.
-/

namespace Vortex.Proxy

open Ebpf Lib

/-- The table holds an expiration of the address at or after an instant. -/
def BanManager.BannedUntil (manager : BanManager) (ip : IpAddr) (instant : ℕ) : Prop :=
  ∃ expiration, manager.bannedIps.lookup ip = some expiration ∧ instant ≤ expiration

/-- A ban that succeeds does not expire before the one it overwrites. -/
def BanCall.NoShorter (manager : BanManager) (now : ℕ) : BanCall → Prop
  | .ban ip duration succeeds => succeeds = true →
      ∀ expiration, manager.bannedIps.lookup ip = some expiration → expiration ≤ now + duration
  | .tick _ => True

/-- Every call of the run is of this kind in the state it meets. -/
def NeverShortens (history : List (ℕ × BanCall)) : Prop :=
  ∀ before event after, history = before ++ event :: after →
    event.2.NoShorter (runBans before) event.1

theorem neverShortens_concat {history : List (ℕ × BanCall)} {event : ℕ × BanCall} :
    NeverShortens (history ++ [event]) ↔
      NeverShortens history ∧ event.2.NoShorter (runBans history) event.1 :=
  forall_split_concat

section Step

variable {history : List (ℕ × BanCall)} {manager : BanManager} {ip : IpAddr} {instant now : ℕ}

theorem BanManager.BannedUntil.blocked (banned : manager.BannedUntil ip instant)
    (inStep : InStep history manager) : ip ∈ manager.blocked := by
  rcases banned with ⟨expiration, entry, _⟩
  exact (inStep.mem_blocked ip).mpr ⟨expiration, entry⟩

theorem InStep.lookup_banIp (inStep : InStep history manager) (ip : IpAddr) (duration : ℕ) :
    (manager.banIp now ip duration true).bannedIps.lookup ip = some (now + duration) := by
  simp [BanManager.banIp, inStep.limiter]

/-- A call made before an instant leaves a ban until that instant in force. -/
theorem InStep.bannedUntil_perform (inStep : InStep history manager)
    (banned : manager.BannedUntil ip instant) (early : now < instant) {call : BanCall}
    (noShorter : call.NoShorter manager now) :
    (manager.perform now call).BannedUntil ip instant := by
  rcases banned with ⟨expiration, entry, reaches⟩
  cases call with
  | tick fails =>
      refine ⟨expiration, ?_, reaches⟩
      have kept : stays now fails ip expiration = true := by
        simp [stays, early.trans_le reaches]
      change (manager.tick now fails).bannedIps.lookup ip = some expiration
      rw [inStep.lookup_tick, entry, Option.filter_some, if_pos kept]
  | ban target duration succeeds =>
      change (manager.banIp now target duration succeeds).BannedUntil ip instant
      simp only [BanManager.banIp, inStep.limiter]
      cases succeeds with
      | false => exact ⟨expiration, entry, reaches⟩
      | true =>
          rcases Decidable.eq_or_ne ip target with rfl | different
          · refine ⟨now + duration, by simp, ?_⟩
            exact reaches.trans (noShorter rfl expiration entry)
          · exact ⟨expiration, by simp [different, entry], reaches⟩

end Step

/-- Calls that all come before the end of a ban, and never shorten one, leave it in
force. -/
theorem bannedUntil_runBans {before after : List (ℕ × BanCall)} {now : ℕ} {ip : IpAddr}
    {duration : ℕ} (never : NeverShortens (before ++ (now, .ban ip duration true) :: after))
    (early : ∀ event ∈ after, event.1 < now + duration) :
    (runBans (before ++ (now, .ban ip duration true) :: after)).BannedUntil ip
      (now + duration) := by
  induction after using List.reverseRecOn with
  | nil =>
      rw [runBans_concat]
      exact ⟨now + duration, (inStep_runBans before).lookup_banIp ip duration, le_rfl⟩
  | append_singleton after event ih =>
      rw [← List.cons_append, ← List.append_assoc] at never ⊢
      rcases neverShortens_concat.mp never with ⟨earlier, here⟩
      rw [runBans_concat]
      rcases forall_mem_concat.mp early with ⟨earlierCalls, lastCall⟩
      exact (inStep_runBans _).bannedUntil_perform (ih earlier earlierCalls) lastCall here

/-- An expiration in the table was promised by a ban of the run. -/
theorem promised_of_latestExpiration {history : List (ℕ × BanCall)} {ip : IpAddr}
    {expiration : ℕ} (latest : latestExpiration history ip = some expiration) :
    ∃ before now duration after, history = before ++ (now, .ban ip duration true) :: after ∧
      now + duration = expiration := by
  induction history using List.reverseRecOn with
  | nil => cases latest
  | append_singleton history event ih =>
      rcases event with ⟨now, call⟩
      have older : latestExpiration history ip = some expiration →
          ∃ before since duration after,
            history ++ [(now, call)] = before ++ (since, .ban ip duration true) :: after ∧
              since + duration = expiration := by
        intro shorter
        rcases ih shorter with ⟨before, since, duration, after, rfl, promised⟩
        exact ⟨before, since, duration, after ++ [(now, call)], by simp, promised⟩
      rw [latestExpiration_concat] at latest
      cases call with
      | tick fails => exact older latest
      | ban target duration succeeds =>
          simp only [BanCall.recorded] at latest
          split at latest
          · next own =>
              rcases own with ⟨rfl, rfl⟩
              cases latest
              exact ⟨history, now, duration, [], rfl, rfl⟩
          · exact older latest

/-- **A ban lasts as long as promised when no later ban of its address expires
earlier.** Then, at every moment before its end, the limiter has the address blocked.
Wherever a ban does shorten one, a tick at its own end breaks the promise of the
longer one. -/
theorem bans_last_unless_shortened (history : List (ℕ × BanCall)) :
    (NeverShortens history →
        ∀ before now ip duration after,
          history = before ++ (now, .ban ip duration true) :: after →
          (∀ event ∈ after, event.1 < now + duration) → ip ∈ (runBans history).blocked) ∧
      ∀ now ip duration,
        ¬(BanCall.ban ip duration true).NoShorter (runBans history) now →
          (∃ before since longer after,
            history = before ++ (since, .ban ip longer true) :: after ∧
              now + duration < since + longer) ∧
          ip ∉ (runBans (history ++ [(now, .ban ip duration true),
            (now + duration, .tick fun _ => false)])).blocked := by
  constructor
  · intro never before now ip duration after split early
    subst split
    exact (bannedUntil_runBans never early).blocked (inStep_runBans _)
  · intro now ip duration shortens
    simp only [BanCall.NoShorter, true_imp_iff, not_forall, not_le] at shortens
    rcases shortens with ⟨expiration, entry, sooner⟩
    constructor
    · rcases promised_of_latestExpiration
        ((inStep_runBans history).recorded ip expiration entry) with
        ⟨before, since, longer, after, split, rfl⟩
      exact ⟨before, since, longer, after, split, sooner⟩
    · intro blocked
      rw [List.append_cons, runBans_concat] at blocked
      rcases ((inStep_runBans _).mem_tick _ _ ip).mp blocked with ⟨shorter, recorded, kept⟩
      rw [runBans_concat, BanManager.perform, (inStep_runBans history).lookup_banIp] at recorded
      cases recorded
      simp [stays] at kept

/-- A ban of 100 seconds and, five seconds later, one of 200: both hold through a tick at
second 20. -/
theorem bans_last_unless_shortened_once :
    let ip : IpAddr := .v4 ⟨⟨10, 0, 0, 1⟩⟩
    ip ∈ (runBans [(0, .ban ip 100 true), (5, .ban ip 200 true),
      (20, .tick fun _ => false)]).blocked := by
  intro ip
  have longer : (BanCall.ban ip 200 true).NoShorter (runBans [(0, .ban ip 100 true)]) 5 := by
    intro _ expiration recorded
    rw [show (runBans [(0, .ban ip 100 true)]).bannedIps.lookup ip = some 100 by decide +kernel]
      at recorded
    cases recorded
    decide
  apply (bans_last_unless_shortened _).1 _ [] 0 ip 100
    [(5, .ban ip 200 true), (20, .tick fun _ => false)] rfl (by simp)
  apply (@neverShortens_concat [(0, .ban ip 100 true), (5, .ban ip 200 true)] _).mpr
  refine ⟨(@neverShortens_concat [(0, .ban ip 100 true)] _).mpr ⟨?_, longer⟩, trivial⟩
  refine (@neverShortens_concat [] _).mpr ⟨?_, ?_⟩
  · intro before event after split
    simp at split
  · intro _ expiration recorded
    cases recorded

/-- A ban of 100 seconds and, five seconds later, one of 10: the tick at second 20
unblocks the address. -/
theorem bans_last_fails :
    let ip : IpAddr := .v4 ⟨⟨10, 0, 0, 1⟩⟩
    ip ∈ (runBans [(0, .ban ip 100 true), (5, .ban ip 10 true)]).blocked ∧
      ip ∉ (runBans [(0, .ban ip 100 true), (5, .ban ip 10 true),
        (20, .tick fun _ => false)]).blocked := by
  decide +kernel

end Vortex.Proxy
