import Mathlib.Data.List.Sort

/-!
# The first rows of an order

What a SELECT with an ORDER BY and a LIMIT reads: the rows in their order, cut off after so many. A row is among them as soon as few
enough come before it, and reading on after the last of them gives the rows that are left.
-/

namespace Rows

variable {α : Type} (r : α → α → Prop) [DecidableRel r]

/-- The first rows of an order. -/
def firstRows (n : Nat) (l : List α) : List α := (l.insertionSort r).take n

/-- The one row comes before the other and not the other way round. -/
def Before (a b : α) : Prop := r a b ∧ ¬ r b a

instance : DecidableRel (Before r) := fun _ _ => instDecidableAnd

variable {r}

/-- On the rows of a list the order leaves no two rows in one place. -/
def Strict (r : α → α → Prop) (l : List α) : Prop := ∀ a ∈ l, ∀ b ∈ l, r a b → r b a → a = b

theorem mem_of_mem_firstRows {n : Nat} {l : List α} {a : α} (h : a ∈ firstRows r n l) : a ∈ l :=
  (List.mem_insertionSort r).mp (List.mem_of_mem_take h)

/-- Where no row occurs twice, every row is among the first exactly when there are no more of them. -/
theorem all_firstRows_iff {n : Nat} {l : List α} (hnodup : l.Nodup) : (∀ a ∈ l, a ∈ firstRows r n l) ↔ l.length ≤ n := by
  have hperm := List.perm_insertionSort r l
  constructor
  · intro h
    have hsub := (List.subperm_of_subset hnodup h).length_le
    have htake : (firstRows r n l).length ≤ n := List.length_take_le n _
    omega
  · intro h a ha
    rw [firstRows, List.take_of_length_le (by rw [hperm.length_eq]; exact h)]
    exact hperm.mem_iff.mpr ha

section Ordered

variable [Std.Total r] [IsTrans α r]

variable {x y : List α} {a : α} {n : Nat} {b : α}

/-- A row of a list in order: those before it and those after it. -/
theorem countP_before {l : List α} (hstrict : Strict r l) (hnodup : l.Nodup)
    (h : l.insertionSort r = x ++ a :: y) : l.countP (fun b => Before r b a) = x.length := by
  have hperm := List.perm_insertionSort r l
  have hmem : ∀ b, b ∈ x ++ a :: y → b ∈ l := by
    intro b hb
    rw [← h] at hb
    exact hperm.mem_iff.mp hb
  have hsorted := List.pairwise_insertionSort r l
  have hnodup' := hperm.nodup_iff.mpr hnodup
  rw [h] at hsorted hnodup'
  obtain ⟨-, hrest, hbefore⟩ := List.pairwise_append.mp hsorted
  obtain ⟨hafter, -⟩ := List.pairwise_cons.mp hrest
  rw [← hperm.countP_eq, h, List.countP_append, List.countP_cons]
  have hx : x.countP (fun b => decide (Before r b a)) = x.length := by
    refine List.countP_eq_length.mpr ?_
    intro b hb
    refine decide_eq_true ⟨hbefore b hb a List.mem_cons_self, fun hba => ?_⟩
    have heq := hstrict b (hmem b (List.mem_append_left _ hb)) a (hmem a (List.mem_append_right _ List.mem_cons_self))
      (hbefore b hb a List.mem_cons_self) hba
    exact (List.nodup_append.mp hnodup').2.2 b hb a List.mem_cons_self heq
  have hy : y.countP (fun b => decide (Before r b a)) = 0 := by
    refine List.countP_eq_zero.mpr ?_
    intro b hb hbefore
    exact (of_decide_eq_true hbefore).2 (hafter b hb)
  have ha : decide (Before r a a) = false := decide_eq_false (fun h => h.2 h.1)
  rw [hx, hy, ha]
  rfl

/-- A row is among the first when few enough come before it. -/
theorem mem_firstRows_iff {l : List α} (hstrict : Strict r l) (hnodup : l.Nodup) (ha : a ∈ l) :
    a ∈ firstRows r n l ↔ l.countP (fun b => Before r b a) < n := by
  have hperm := List.perm_insertionSort r l
  obtain ⟨x, y, hsplit⟩ := List.append_of_mem (hperm.mem_iff.mpr ha)
  have hnodup' := hperm.nodup_iff.mpr hnodup
  rw [countP_before hstrict hnodup hsplit, firstRows, hsplit]
  rw [hsplit] at hnodup'
  obtain ⟨-, hrest, hapart⟩ := List.nodup_append.mp hnodup'
  constructor
  · intro h
    rw [← Nat.not_le]
    intro hle
    rw [List.take_append_of_le_length hle] at h
    exact hapart a (List.mem_of_mem_take h) a List.mem_cons_self rfl
  · intro h
    rw [List.take_append, List.take_of_length_le (Nat.le_of_lt h)]
    obtain ⟨k, hk⟩ : ∃ k, n - x.length = k + 1 := ⟨n - x.length - 1, by omega⟩
    rw [hk, List.take_succ_cons]
    exact List.mem_append_right _ List.mem_cons_self

/-! ## Reading on -/

/-- Selected rows are in the order in which they were among all. -/
theorem insertionSort_filter {l : List α} (hstrict : Strict r l) (p : α → Bool) :
    (l.filter p).insertionSort r = (l.insertionSort r).filter p := by
  have hperm := List.perm_insertionSort r l
  refine @List.Perm.eq_of_pairwise _ r _ _ ?_ (List.pairwise_insertionSort r _)
    ((List.pairwise_insertionSort r l).sublist List.filter_sublist) ?_
  · intro a b ha hb hab hba
    have ha' := List.mem_of_mem_filter ((List.mem_insertionSort r).mp ha)
    have hb' := (List.mem_insertionSort r).mp (List.mem_of_mem_filter hb)
    exact hstrict a ha' b hb' hab hba
  · exact (List.perm_insertionSort r _).trans (hperm.symm.filter p)

omit [Std.Total r] [IsTrans α r] in
/-- The rows after one of them. -/
theorem filter_after (hsorted : (x ++ a :: y).Pairwise r) (hstrict : Strict r (x ++ a :: y))
    (hnodup : (x ++ a :: y).Nodup) : (x ++ a :: y).filter (fun b => Before r a b) = y := by
  obtain ⟨-, hrest, hbefore⟩ := List.pairwise_append.mp hsorted
  obtain ⟨hafter, -⟩ := List.pairwise_cons.mp hrest
  obtain ⟨-, hrest', -⟩ := List.nodup_append.mp hnodup
  obtain ⟨hfresh, -⟩ := List.nodup_cons.mp hrest'
  have hx : x.filter (fun b => decide (Before r a b)) = [] := by
    refine List.filter_eq_nil_iff.mpr ?_
    intro b hb h
    exact (of_decide_eq_true h).2 (hbefore b hb a List.mem_cons_self)
  have hy : y.filter (fun b => decide (Before r a b)) = y := by
    refine List.filter_eq_self.mpr ?_
    intro b hb
    refine decide_eq_true ⟨hafter b hb, fun hba => ?_⟩
    have heq := hstrict a (List.mem_append_right _ List.mem_cons_self) b
      (List.mem_append_right _ (List.mem_cons_of_mem _ hb)) (hafter b hb) hba
    exact hfresh (heq ▸ hb)
  rw [List.filter_append, hx, List.filter_cons_of_neg (by simp [Before]), hy, List.nil_append]

/-! ## The first row of all -/

omit [DecidableRel r] [Std.Total r] [IsTrans α r] in
/-- One of two rows of a list stands before the other. -/
theorem pair_sublist_or {l : List α} (ha : a ∈ l) (hb : b ∈ l) (hne : a ≠ b) : List.Sublist [a, b] l ∨ List.Sublist [b, a] l := by
  induction l with
  | nil => exact absurd ha List.not_mem_nil
  | cons c l ih =>
    rcases List.mem_cons.mp ha with rfl | ha
    · have hb := (List.mem_cons.mp hb).resolve_left (Ne.symm hne)
      exact .inl (List.Sublist.cons_cons _ (List.singleton_sublist.mpr hb))
    · rcases List.mem_cons.mp hb with rfl | hb
      · have ha := (List.mem_cons.mp ‹a ∈ b :: l›).resolve_left hne
        exact .inr (List.Sublist.cons_cons _ (List.singleton_sublist.mpr ha))
      · exact (ih ha hb).imp (List.Sublist.cons _) (List.Sublist.cons _)

omit [DecidableRel r] [Std.Total r] [IsTrans α r] in
theorem not_pair_sublist {l : List α} (hnodup : l.Nodup) (h : List.Sublist [a, b] l) : ¬ List.Sublist [b, a] l := by
  intro h'
  induction l with
  | nil => cases h
  | cons c l ih =>
    obtain ⟨hfresh, hnodup⟩ := List.nodup_cons.mp hnodup
    cases h with
    | cons _ h =>
      cases h' with
      | cons _ h' => exact ih hnodup h h'
      | cons_cons _ h' => exact hfresh (h.subset (List.mem_cons_of_mem _ List.mem_cons_self))
    | cons_cons _ h =>
      cases h' with
      | cons _ h' => exact hfresh (h'.subset (List.mem_cons_of_mem _ List.mem_cons_self))
      | cons_cons _ h' => exact hfresh (h'.subset List.mem_cons_self)

/-- The first row is before all others, and where the order does not tell it from another it stands before it in the list. -/
theorem head?_insertionSort_iff {l : List α} (hnodup : l.Nodup) :
    (l.insertionSort r).head? = some a ↔ a ∈ l ∧ ∀ b ∈ l, b ≠ a → r a b ∧ (r b a → List.Sublist [a, b] l) := by
  have hperm := List.perm_insertionSort r l
  have hsorted := List.pairwise_insertionSort r l
  have hfirst : ∀ c, (l.insertionSort r).head? = some c → c ∈ l ∧ ∀ b ∈ l, b ≠ c → r c b ∧ (r b c → List.Sublist [c, b] l) := by
    intro c hc
    obtain ⟨rest, hrest⟩ : ∃ rest, l.insertionSort r = c :: rest := by
      cases hs : l.insertionSort r with
      | nil => rw [hs] at hc; cases hc
      | cons d rest => rw [hs] at hc; cases hc; exact ⟨rest, rfl⟩
    have hnodup' := hperm.nodup_iff.mpr hnodup
    rw [hrest] at hsorted hnodup'
    have hmem : c ∈ l := hperm.mem_iff.mp (by rw [hrest]; exact List.mem_cons_self)
    refine ⟨hmem, ?_⟩
    intro b hb hne
    have hb' : b ∈ rest := by
      have hin := hperm.mem_iff.mpr hb
      rw [hrest] at hin
      exact (List.mem_cons.mp hin).resolve_left hne
    refine ⟨(List.pairwise_cons.mp hsorted).1 b hb', ?_⟩
    intro hback
    refine (pair_sublist_or hmem hb (Ne.symm hne)).resolve_right ?_
    intro hsub
    -- the sort would have kept the other row before the first one
    have hkept := List.pair_sublist_insertionSort hback hsub
    rw [hrest] at hkept
    exact not_pair_sublist hnodup' hkept (List.Sublist.cons_cons _ (List.singleton_sublist.mpr hb'))
  refine ⟨hfirst a, ?_⟩
  rintro ⟨ha, hall⟩
  cases hc : (l.insertionSort r).head? with
  | none =>
    rw [List.head?_eq_none_iff] at hc
    have hin := hperm.mem_iff.mpr ha
    rw [hc] at hin
    exact absurd hin List.not_mem_nil
  | some c =>
    by_cases hca : c = a
    · rw [hca]
    · obtain ⟨hmem, hc⟩ := hfirst c hc
      obtain ⟨hac, hsub⟩ := hall c hmem hca
      obtain ⟨hcr, hsub'⟩ := hc a ha (Ne.symm hca)
      exact absurd (hsub' hac) (not_pair_sublist hnodup (hsub hcr))

/-! ## Rows that are added -/

/-- Among more rows the rows keep their order. -/
theorem insertionSort_sublist {l l' : List α} (h : l.Sublist l') : (l.insertionSort r).Sublist (l'.insertionSort r) := by
  induction h with
  | slnil => exact List.Sublist.refl _
  | cons a _ ih => exact ih.trans (List.sublist_orderedInsert _ _)
  | cons_cons a _ ih => exact List.Sublist.orderedInsert_sublist a ih (List.pairwise_insertionSort r _)

omit [DecidableRel r] [Std.Total r] [IsTrans α r] in
/-- What is among the first of more rows is among the first of them. -/
theorem mem_take_of_sublist {s s' : List α} (hsub : s.Sublist s') (hnodup : s'.Nodup) (ha : a ∈ s) (h : a ∈ s'.take n) :
    a ∈ s.take n := by
  induction hsub generalizing n with
  | slnil => exact absurd ha List.not_mem_nil
  | @cons s s' b hsub ih =>
    obtain ⟨hfresh, hnodup⟩ := List.nodup_cons.mp hnodup
    cases n with
    | zero => exact absurd h List.not_mem_nil
    | succ n =>
      rcases List.mem_cons.mp h with rfl | h
      · exact absurd (hsub.subset ha) hfresh
      · exact (List.take_sublist_take_left (Nat.le_succ n)).subset (ih hnodup ha h)
  | @cons_cons s s' b hsub ih =>
    obtain ⟨hfresh, hnodup⟩ := List.nodup_cons.mp hnodup
    cases n with
    | zero => exact absurd h List.not_mem_nil
    | succ n =>
      rcases List.mem_cons.mp h with rfl | hrest
      · exact List.mem_cons_self
      · have ha : a ∈ s := by
          refine (List.mem_cons.mp ha).resolve_left ?_
          rintro rfl
          exact hfresh (List.mem_of_mem_take hrest)
        exact List.mem_cons_of_mem _ (ih hnodup ha hrest)

section Added

variable {l l' : List α} {p : α → Bool} (hsub : l.Sublist l') (hnodup : l'.Nodup) (hown : ∀ a ∈ l', p a = true → a ∈ l)

include hsub hnodup hown

/-- Rows of which none is added are in one order among all rows. -/
theorem filter_insertionSort_eq : (l.insertionSort r).filter p = (l'.insertionSort r).filter p := by
  refine ((insertionSort_sublist hsub).filter p).eq_of_length ?_
  rw [((List.perm_insertionSort r l).filter p).length_eq, ((List.perm_insertionSort r l').filter p).length_eq]
  refine le_antisymm (hsub.filter p).length_le ?_
  refine (List.subperm_of_subset (hnodup.filter p) fun a ha => ?_).length_le
  obtain ⟨hmem, hp⟩ := List.mem_filter.mp ha
  exact List.mem_filter.mpr ⟨hown a hmem hp, hp⟩

theorem filter_firstRows_prefix (n : Nat) :
    (firstRows r n l).filter p <+: (l.insertionSort r).filter p ∧ (firstRows r n l').filter p <+: (l.insertionSort r).filter p := by
  refine ⟨(List.take_prefix n _).filter p, ?_⟩
  rw [filter_insertionSort_eq hsub hnodup hown]
  exact (List.take_prefix n _).filter p

/-- Such rows are the same among the first rows as soon as they are as many. -/
theorem filter_firstRows_eq_of_length {n : Nat} (h : ((firstRows r n l).filter p).length = ((firstRows r n l').filter p).length) :
    (firstRows r n l).filter p = (firstRows r n l').filter p := by
  obtain ⟨hleft, hright⟩ := filter_firstRows_prefix (r := r) hsub hnodup hown n
  exact (List.prefix_of_prefix_length_le hleft hright h.le).eq_of_length h

/-- They are the same exactly when each that was among the first still is. -/
theorem filter_firstRows_eq_iff {n : Nat} :
    (firstRows r n l).filter p = (firstRows r n l').filter p ↔ ∀ a ∈ firstRows r n l, p a = true → a ∈ firstRows r n l' := by
  constructor
  · intro h a ha hp
    have hmem : a ∈ (firstRows r n l').filter p := h ▸ List.mem_filter.mpr ⟨ha, hp⟩
    exact List.mem_of_mem_filter hmem
  · intro h
    have hnodupSort : (l'.insertionSort r).Nodup := (List.perm_insertionSort r l').nodup_iff.mpr hnodup
    have hnodupFirst : (firstRows r n l').Nodup := hnodupSort.sublist (List.take_sublist _ _)
    have hnodupLeft : (firstRows r n l).Nodup :=
      ((List.perm_insertionSort r l).nodup_iff.mpr (hnodup.sublist hsub)).sublist (List.take_sublist _ _)
    refine filter_firstRows_eq_of_length hsub hnodup hown (le_antisymm ?_ ?_)
    · refine (List.subperm_of_subset (hnodupLeft.filter p) fun a ha => ?_).length_le
      obtain ⟨hmem, hp⟩ := List.mem_filter.mp ha
      exact List.mem_filter.mpr ⟨h a hmem hp, hp⟩
    · refine (List.subperm_of_subset (hnodupFirst.filter p) fun a ha => ?_).length_le
      obtain ⟨hmem, hp⟩ := List.mem_filter.mp ha
      refine List.mem_filter.mpr ⟨?_, hp⟩
      refine mem_take_of_sublist (insertionSort_sublist hsub) hnodupSort ?_ hmem
      exact (List.mem_insertionSort r).mpr (hown a (mem_of_mem_firstRows hmem) hp)

end Added

end Ordered

end Rows
