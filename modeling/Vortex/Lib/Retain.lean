import Mathlib.Data.List.AList
import Mathlib.Data.Set.Basic

/-!
# `retain` with a closure that has effects

A map's `retain` visits every entry once and keeps those for which the closure
answers `true`; the closure may change a state of its own on the way.  The order
of the visits is the order of the entries.
-/

namespace Vortex.Lib

variable {σ κ ν : Type*} (visit : σ → κ → ν → σ × Bool)

/-- Visit the entries one after the other. -/
def retainEntries : σ → List (Sigma fun _ : κ => ν) → σ × List (Sigma fun _ : κ => ν)
  | state, [] => (state, [])
  | state, entry :: entries =>
      let visited := visit state entry.1 entry.2
      let rest := retainEntries visited.1 entries
      (rest.1, if visited.2 then entry :: rest.2 else rest.2)

theorem retainEntries_sublist (state : σ) (entries : List (Sigma fun _ : κ => ν)) :
    (retainEntries visit state entries).2.Sublist entries := by
  induction entries generalizing state with
  | nil => exact .slnil
  | cons entry entries ih =>
      simp only [retainEntries]
      split
      · exact (ih _).cons_cons _
      · exact (ih _).cons _

/-- `retain` on a map. -/
def retain (state : σ) (map : AList fun _ : κ => ν) : σ × AList fun _ : κ => ν :=
  let visited := retainEntries visit state map.entries
  (visited.1, ⟨visited.2, map.nodupKeys.sublist (retainEntries_sublist visit state map.entries)⟩)

/-- The closure's state goes through the entries as a fold. -/
theorem retain_fst (state : σ) (map : AList fun _ : κ => ν) :
    (retain visit state map).1 =
      map.entries.foldl (fun state entry => (visit state entry.1 entry.2).1) state := by
  change (retainEntries visit state map.entries).1 = _
  induction map.entries generalizing state with
  | nil => rfl
  | cons entry entries ih => exact ih _

variable {visit} {keep : κ → ν → Bool}

/-- When the answer depends on the entry alone, `retain` filters. -/
theorem retainEntries_snd (answers : ∀ state key value, (visit state key value).2 = keep key value)
    (state : σ) (entries : List (Sigma fun _ : κ => ν)) :
    (retainEntries visit state entries).2 = entries.filter fun entry => keep entry.1 entry.2 := by
  induction entries generalizing state with
  | nil => rfl
  | cons entry entries ih =>
      simp only [retainEntries, answers, List.filter_cons]
      rw [ih]

theorem lookup_retain [DecidableEq κ]
    (answers : ∀ state key value, (visit state key value).2 = keep key value) (state : σ)
    (map : AList fun _ : κ => ν) (key : κ) :
    (retain visit state map).2.lookup key = (map.lookup key).filter (keep key) := by
  ext value
  rw [← Option.mem_def, AList.mem_lookup_iff, Option.filter_eq_some_iff, ← Option.mem_def,
    AList.mem_lookup_iff]
  simp only [retain]
  rw [retainEntries_snd answers, List.mem_filter]

/-! ## Closures whose answers depend on their state -/

/-- What is kept was there. -/
theorem lookup_of_retain [DecidableEq κ] {state : σ} {map : AList fun _ : κ => ν} {key : κ}
    {value : ν} (kept : (retain visit state map).2.lookup key = some value) :
    map.lookup key = some value := by
  rw [← Option.mem_def, AList.mem_lookup_iff] at kept ⊢
  exact (retainEntries_sublist visit state map.entries).subset kept

/-- An entry on which the closure always answers `true` is kept. -/
theorem lookup_retain_of_always [DecidableEq κ] {state : σ} {map : AList fun _ : κ => ν}
    {key : κ} {value : ν} (always : ∀ state, (visit state key value).2 = true)
    (entry : map.lookup key = some value) :
    (retain visit state map).2.lookup key = some value := by
  have kept : ∀ entries : List (Sigma fun _ : κ => ν), ⟨key, value⟩ ∈ entries →
      ∀ state, ⟨key, value⟩ ∈ (retainEntries visit state entries).2 := by
    intro entries
    induction entries with
    | nil => nofun
    | cons other entries ih =>
        intro member state
        simp only [retainEntries]
        rcases List.mem_cons.mp member with rfl | later
        · simp only [always, if_true, List.mem_cons_self]
        · split
          · exact List.mem_cons_of_mem _ (ih later _)
          · exact ih later _
  rw [← Option.mem_def, AList.mem_lookup_iff] at entry ⊢
  exact kept _ entry state

section Invariant

variable {Holds : σ → Set κ → Prop}
  (answers : ∀ state keys key value, key ∈ keys → Holds state keys →
    (visit state key value).2 = keep key value)
  (preserved : ∀ state keys key value, key ∈ keys → Holds state keys →
    Holds (visit state key value).1 {other | other ∈ keys ∧ (other = key → keep key value = true)})

include answers preserved

theorem retainEntries_of_invariant {state : σ} {keys : Set κ}
    {entries : List (Sigma fun _ : κ => ν)} (nodup : entries.NodupKeys)
    (present : ∀ entry ∈ entries, entry.1 ∈ keys) (holds : Holds state keys) :
    (retainEntries visit state entries).2 = entries.filter (fun entry => keep entry.1 entry.2) ∧
      Holds (retainEntries visit state entries).1
        {key | key ∈ keys ∧ ∀ entry ∈ entries, key = entry.1 → keep entry.1 entry.2 = true} := by
  induction entries generalizing state keys with
  | nil =>
      refine ⟨rfl, ?_⟩
      simpa [retainEntries, Set.ofPred_mem_eq] using holds
  | cons entry entries ih =>
      rcases List.nodupKeys_cons.mp nodup with ⟨fresh, nodup⟩
      have here := present entry List.mem_cons_self
      have others : ∀ other ∈ entries,
          other.1 ∈ {key | key ∈ keys ∧ (key = entry.1 → keep entry.1 entry.2 = true)} := by
        intro other member
        refine ⟨present other (List.mem_cons_of_mem _ member), ?_⟩
        intro same
        exact absurd (same ▸ List.mem_keys_of_mem member) fresh
      rcases ih nodup others (preserved _ _ _ entry.2 here holds) with ⟨kept, still⟩
      simp only [retainEntries, List.filter_cons, answers _ _ _ entry.2 here holds, kept]
      refine ⟨trivial, ?_⟩
      simpa only [Set.mem_ofPred_eq, List.forall_mem_cons, and_assoc] using still

/-- An invariant that ties the closure's state to the keys still in the map, and with that
fixes the closure's answers, holds after `retain`, which filters. -/
theorem retain_of_invariant [DecidableEq κ] {state : σ} {map : AList fun _ : κ => ν}
    (holds : Holds state {key | key ∈ map}) :
    Holds (retain visit state map).1 {key | key ∈ (retain visit state map).2} ∧
      ∀ key, (retain visit state map).2.lookup key = (map.lookup key).filter (keep key) := by
  have present : ∀ entry ∈ map.entries, entry.1 ∈ {key | key ∈ map} := by
    intro entry member
    exact AList.mem_keys.mpr (List.mem_keys_of_mem member)
  rcases retainEntries_of_invariant answers preserved map.nodupKeys present holds with
    ⟨kept, still⟩
  have filtered : ∀ key,
      (retain visit state map).2.lookup key = (map.lookup key).filter (keep key) := by
    intro key
    ext value
    rw [← Option.mem_def, AList.mem_lookup_iff, Option.filter_eq_some_iff, ← Option.mem_def,
      AList.mem_lookup_iff]
    simp only [retain]
    rw [kept, List.mem_filter]
  have remaining : {key | key ∈ (retain visit state map).2} =
      {key | key ∈ map ∧ ∀ entry ∈ map.entries, key = entry.1 → keep entry.1 entry.2 = true} := by
    ext key
    rw [Set.mem_ofPred_eq, Set.mem_ofPred_eq, ← AList.lookup_isSome, filtered,
      Option.isSome_iff_exists]
    simp only [Option.filter_eq_some_iff]
    constructor
    · intro remains
      rcases remains with ⟨value, entry, keeps⟩
      refine ⟨AList.lookup_isSome.mp (Option.isSome_of_eq_some entry), ?_⟩
      intro other member same
      have found := AList.mem_lookup_iff.mpr member
      rw [← same, Option.mem_def, entry] at found
      cases found
      rw [← same]
      exact keeps
    · intro remains
      rcases Option.isSome_iff_exists.mp (AList.lookup_isSome.mpr remains.1) with ⟨value, entry⟩
      exact ⟨value, entry, remains.2 ⟨key, value⟩ (AList.mem_lookup_iff.mp entry) rfl⟩
  rw [remaining]
  exact ⟨still, filtered⟩

end Invariant

end Vortex.Lib
