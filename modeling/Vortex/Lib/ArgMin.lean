import Mathlib.Data.List.MinMax

/-!
# The first least element of a list

`List.argmin` answers the first element of least weight, as an iterator's
`min_by` does.  Said as an order: one occurrence precedes another when it weighs
less, or weighs the same and comes earlier.  The answer is the element that no
other precedes.

It is also the head of the list sorted by weight, because the sort is stable.
-/

namespace Vortex.Lib

variable {α β : Type*} [LinearOrder β]

section FirstLeast

variable [DecidableEq α]

/-- `first` is preferred to `second`: it weighs less, or it weighs the same and
comes earlier in the list. -/
def Precedes (weight : α → β) (list : List α) (first second : α) : Prop :=
  weight first < weight second ∨
    weight first = weight second ∧ list.idxOf first < list.idxOf second

variable {weight : α → β} {list : List α}

/-- Nothing in the list precedes its first least element. -/
theorem not_precedes_argmin {least other : α} (chosen : list.argmin weight = some least)
    (membership : other ∈ list) : ¬Precedes weight list other least := by
  intro precedes
  rcases precedes with lighter | ⟨equal, earlier⟩
  · exact (List.le_of_mem_argmin membership chosen).not_gt lighter
  · exact (List.index_of_argmin chosen membership equal.le).not_gt earlier

/-- The first least element precedes every other one. -/
theorem argmin_precedes {least other : α} (chosen : list.argmin weight = some least)
    (membership : other ∈ list) (different : least ≠ other) :
    Precedes weight list least other := by
  rcases (List.le_of_mem_argmin membership chosen).lt_or_eq with lighter | equal
  · exact .inl lighter
  · have position := List.index_of_argmin chosen membership equal.ge
    refine .inr ⟨equal, position.lt_of_ne ?_⟩
    intro same
    exact different ((List.idxOf_inj (List.argmin_mem chosen)).mp same)

/-- The first least element is good exactly when every bad element is preceded
by a good one. -/
theorem argmin_good_iff (bad : α → Prop) :
    (∀ least, list.argmin weight = some least → ¬bad least) ↔
      ∀ element ∈ list, bad element →
        ∃ other ∈ list, ¬bad other ∧ Precedes weight list other element := by
  constructor
  · intro good element membership isBad
    cases chosen : list.argmin weight with
    | none =>
        rw [List.argmin_eq_none] at chosen
        simp [chosen] at membership
    | some least =>
        have leastGood := good least chosen
        refine ⟨least, List.argmin_mem chosen, leastGood, ?_⟩
        apply argmin_precedes chosen membership
        intro same
        exact leastGood (same ▸ isBad)
  · intro preceded least chosen isBad
    rcases preceded least (List.argmin_mem chosen) isBad with
      ⟨other, membership, _, precedes⟩
    exact not_precedes_argmin chosen membership precedes

omit [DecidableEq α] in
/-- A first element that is no heavier than the others is the answer. -/
theorem argmin_cons_of_least {first : α}
    (least : ∀ other ∈ list, weight first ≤ weight other) :
    (first :: list).argmin weight = some first := by
  rw [List.argmin_cons]
  cases chosen : list.argmin weight with
  | none => rfl
  | some other =>
      have lighter := (least other (List.argmin_mem chosen)).not_gt
      simp [lighter]

omit [DecidableEq α] in
/-- The answer splits the list: those before it are heavier, those after it are no
lighter. -/
theorem argmin_eq_some_iff {least : α} :
    list.argmin weight = some least ↔
      ∃ before after, list = before ++ least :: after ∧
        (∀ other ∈ before, weight least < weight other) ∧
        ∀ other ∈ after, weight least ≤ weight other := by
  constructor
  · intro chosen
    induction list with
    | nil => cases chosen
    | cons first rest ih =>
        rw [List.argmin_cons] at chosen
        cases restChosen : rest.argmin weight with
        | none =>
            rw [restChosen] at chosen
            cases chosen
            rw [List.argmin_eq_none.mp restChosen]
            exact ⟨[], [], rfl, by simp, by simp⟩
        | some candidate =>
            simp only [restChosen] at chosen
            split at chosen
            · next lighter =>
                cases chosen
                rcases ih restChosen with ⟨before, after, rfl, heavier, noLighter⟩
                exact ⟨first :: before, after, rfl,
                  List.forall_mem_cons.mpr ⟨lighter, heavier⟩, noLighter⟩
            · next noLighter =>
                cases chosen
                refine ⟨[], rest, rfl, by simp, ?_⟩
                intro other membership
                exact (not_lt.mp noLighter).trans (List.le_of_mem_argmin membership restChosen)
  · intro split
    rcases split with ⟨before, after, rfl, heavier, noLighter⟩
    induction before with
    | nil => exact argmin_cons_of_least noLighter
    | cons first before ih =>
        rcases List.forall_mem_cons.mp heavier with ⟨firstHeavier, restHeavier⟩
        rw [List.cons_append, List.argmin_cons, ih restHeavier]
        exact if_pos firstHeavier

omit [DecidableEq α] in
/-- The same for the elements that pass a test, split at the answer's place in the
whole list. -/
theorem argmin_filter_eq_some_iff {test : α → Bool} {least : α} :
    (list.filter test).argmin weight = some least ↔
      ∃ before after, list = before ++ least :: after ∧ test least = true ∧
        (∀ other ∈ before, test other = true → weight least < weight other) ∧
        ∀ other ∈ after, test other = true → weight least ≤ weight other := by
  rw [argmin_eq_some_iff]
  constructor
  · intro split
    rcases split with ⟨before, after, filtered, heavier, noLighter⟩
    rcases List.filter_eq_append_iff.mp filtered with ⟨front, back, rfl, rfl, backFiltered⟩
    rcases List.filter_eq_cons_iff.mp backFiltered with ⟨skipped, rest, rfl, fail, pass, rfl⟩
    refine ⟨front ++ skipped, rest, by simp, pass, ?_, ?_⟩
    · intro other membership passes
      rcases List.mem_append.mp membership with inFront | inSkipped
      · exact heavier other (List.mem_filter.mpr ⟨inFront, passes⟩)
      · exact absurd passes (fail other inSkipped)
    · intro other membership passes
      exact noLighter other (List.mem_filter.mpr ⟨membership, passes⟩)
  · intro split
    rcases split with ⟨before, after, rfl, pass, heavier, noLighter⟩
    refine ⟨before.filter test, after.filter test, ?_, ?_, ?_⟩
    · rw [List.filter_append, List.filter_cons_of_pos pass]
    · intro other membership
      rcases List.mem_filter.mp membership with ⟨inBefore, passes⟩
      exact heavier other inBefore passes
    · intro other membership
      rcases List.mem_filter.mp membership with ⟨inAfter, passes⟩
      exact noLighter other inAfter passes

end FirstLeast

/-! ## Sorting by weight -/

section Sorting

variable (weight : α → β) (list : List α)

/-- The comparison of weights that a sort uses. -/
def noHeavier (first second : α) : Bool := decide (weight first ≤ weight second)

theorem noHeavier_trans (first second third : α) (lower : noHeavier weight first second = true)
    (upper : noHeavier weight second third = true) : noHeavier weight first third = true :=
  decide_eq_true (le_trans (of_decide_eq_true lower) (of_decide_eq_true upper))

theorem noHeavier_total (first second : α) :
    (noHeavier weight first second || noHeavier weight second first) = true := by
  simpa [noHeavier] using le_total (weight first) (weight second)

/-- A stable sort by weight, least first. -/
def sortBy : List α := list.mergeSort (noHeavier weight)

theorem sortBy_perm : (sortBy weight list).Perm list :=
  List.mergeSort_perm _ _

theorem sortBy_pairwise :
    (sortBy weight list).Pairwise fun first second => weight first ≤ weight second :=
  (List.pairwise_mergeSort (noHeavier_trans weight) (noHeavier_total weight) list).imp
    of_decide_eq_true

/-- Elements of one weight keep their order. -/
theorem filter_sortBy (value : β) :
    (sortBy weight list).filter (fun element => weight element = value) =
      list.filter fun element => weight element = value := by
  -- The elements of one weight are sorted already, so they are a sublist of the
  -- result; the result has no others of that weight.
  have sorted : (list.filter fun element => weight element = value).Pairwise
      fun first second => noHeavier weight first second = true := by
    apply List.pairwise_iff_forall_sublist.mpr
    intro first second sublist
    have members := sublist.subset
    simp only [List.cons_subset, List.mem_filter, decide_eq_true_eq] at members
    rcases members with ⟨⟨_, firstValue⟩, ⟨_, secondValue⟩, _⟩
    exact decide_eq_true (firstValue.trans secondValue.symm).le
  have sublist := (List.sublist_mergeSort (noHeavier_trans weight) (noHeavier_total weight)
    sorted List.filter_sublist).filter fun element => weight element = value
  rw [List.filter_filter] at sublist
  simp only [Bool.and_self] at sublist
  symm
  apply sublist.eq_of_length
  exact ((sortBy_perm weight list).filter _).length_eq.symm

/-- The head of the sorted list is the first least element. -/
theorem head?_sortBy : (sortBy weight list).head? = list.argmin weight := by
  induction list with
  | nil => simp [sortBy]
  | cons element list ih =>
      rcases List.mergeSort_cons (noHeavier_trans weight) (noHeavier_total weight) element list
        with ⟨lighter, others, sorted, sortedTail, strict⟩
      rw [List.argmin_cons, ← ih]
      have ordered := sortBy_pairwise weight (element :: list)
      rw [sortBy, sorted] at ordered ⊢
      rw [sortBy, sortedTail]
      cases lighter with
      | cons least lighter =>
          have before := strict least List.mem_cons_self
          simp only [noHeavier, Bool.not_eq_true', decide_eq_false_iff_not, not_le] at before
          simp [before]
      | nil =>
          cases others with
          | nil => rfl
          | cons next others =>
              have after := List.rel_of_pairwise_cons ordered List.mem_cons_self
              simp [after.not_gt]

end Sorting

end Vortex.Lib
