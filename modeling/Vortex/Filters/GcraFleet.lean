import Vortex.Filters.Gcra

/-!
# The GCRA limit across a fleet of proxies

Every proxy passes its own `SystemTime` to the script, while `PX` expiry runs on
the clock of the Redis server.  An admitted call rewrites the time-to-live as
`new_tat - now_ms` on the *caller's* clock, so a proxy that is ahead shortens
the life of debt booked by one that is behind.

As long as no call finds the key expired before the stored time has passed on
its own clock, skew costs at most `2 * D` once.  Otherwise the loss repeats with
every expiry and the bound fails.
-/

namespace Vortex.Filters

/-- In every run of a fleet within `skew` of the Redis clock whose calls never
meet a key that expired ahead of its time, any window of `width` milliseconds of
the Redis clock admits at most `limit + (width + 2 * skew) * limit / period_ms`. -/
theorem fleet_window_bound {limit periodMs : ℕ} (limitPos : 1 ≤ limit)
    (periodPos : 1 ≤ periodMs) {skew : ℚ} (skewNonneg : 0 ≤ skew)
    (calls : List Invocation) (costs : ∀ call ∈ calls, 1 ≤ call.cost)
    (synced : ∀ call ∈ calls, |(call.now : ℚ) - call.clock| ≤ skew)
    (harmless : HarmlessRun limit periodMs calls)
    (start : ℚ) {width : ℚ} (widthNonneg : 0 ≤ width) :
    (costWithin start width (runKey limit periodMs calls).admitted : ℚ) ≤
      limit + (width + 2 * skew) * limit / periodMs := by
  have conforming := (runKey_tracks limitPos periodPos costs harmless).2
  apply conforming.costWithin_le limitPos periodPos skewNonneg _ start widthNonneg
  intro call membership
  exact synced call ((admitted_sublist calls).subset membership)

/-- Two proxies, one millisecond behind and one ahead of the Redis clock, with
one unit every two milliseconds. Each pair of calls books four milliseconds of
debt under a time-to-live of two. -/
def skewedPairs : List Invocation :=
  [{ clock := 1, lingers := false, now := 0, cost := 1 },
    { clock := 1, lingers := false, now := 2, cost := 1 },
    { clock := 4, lingers := false, now := 3, cost := 1 },
    { clock := 4, lingers := false, now := 5, cost := 1 }]

/-- The bound holds for the first of those pairs, which meets no expiry. -/
theorem fleet_window_bound_one_pair :
    (costWithin 1 0 (runKey 1 2 (skewedPairs.take 2)).admitted : ℚ) ≤
      (1 : ℕ) + (0 + 2 * 1) * (1 : ℕ) / (2 : ℕ) := by
  have harmless : HarmlessRun 1 2 (skewedPairs.take 2) := by
    change HarmlessRun 1 2 ([] ++ [_] ++ [_])
    rw [harmlessRun_concat, harmlessRun_concat]
    refine ⟨⟨?_, by decide +kernel⟩, by decide +kernel⟩
    intro history call rest split
    simp at split
  exact fleet_window_bound (by decide) (by decide) (by norm_num) (skewedPairs.take 2)
    (by decide) (by decide +kernel) harmless 1 le_rfl

/-- Both pairs are admitted within three milliseconds: four units, where the
budget for clocks within one millisecond is three and a half. -/
theorem fleet_window_bound_fails :
    (∀ call ∈ skewedPairs, 1 ≤ call.cost) ∧
      skewedPairs.Pairwise (fun earlier later => earlier.clock ≤ later.clock) ∧
      (∀ call ∈ skewedPairs, |(call.now : ℚ) - call.clock| ≤ 1) ∧
      ¬(costWithin 1 3 (runKey 1 2 skewedPairs).admitted : ℚ) ≤
        (1 : ℕ) + (3 + 2 * 1) * (1 : ℕ) / (2 : ℕ) := by
  refine ⟨by decide, by decide, by decide +kernel, by decide +kernel⟩

end Vortex.Filters
