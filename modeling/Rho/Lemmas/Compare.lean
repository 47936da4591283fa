import Rho.Store.Compare

/-!
# Helpers for the packages of a comparison

The map that is built of an array of packages, the entries of the difference of two such maps, and which versions of a package some order
of the array brings among the first 200.
-/

namespace Rho.Compare

/-! ## Maps of packages -/

abbrev Packages := List (String × String)

def names (l : Packages) : List String := l.map Prod.fst

variable {l : Packages} {n v n' : String} {x y : Option String} {j : Json} {leftMap rightMap : Packages}

theorem mem_names_iff : n ∈ names l ↔ ∃ v, (n, v) ∈ l := by
  simp [names]

theorem sortByName_perm (l : Packages) : (sortByName l).Perm l := List.perm_insertionSort _ _

instance total_name : Std.Total (fun a b : String × String => a.1 ≤ b.1) := ⟨fun a b => le_total a.1 b.1⟩

instance isTrans_name : IsTrans (String × String) (fun a b => a.1 ≤ b.1) := ⟨fun _ _ _ => le_trans⟩

/-- The sort keeps the entries of one package in their order. -/
theorem filter_sortByName (l : Packages) (n : String) : (sortByName l).filter (fun e => e.1 = n) = l.filter (fun e => e.1 = n) := by
  have hsorted : (l.filter (fun e => e.1 = n)).Pairwise (fun a b => a.1 ≤ b.1) := by
    refine List.pairwise_of_forall_mem_list ?_
    intro a ha b hb
    rw [of_decide_eq_true (List.mem_filter.mp ha).2, of_decide_eq_true (List.mem_filter.mp hb).2]
  have hsub := (List.sublist_insertionSort hsorted List.filter_sublist).filter (fun e => e.1 = n)
  rw [List.filter_filter, List.filter_congr (fun a _ => Bool.and_self _)] at hsub
  refine (hsub.eq_of_length ?_).symm
  exact ((sortByName_perm l).filter _).length_eq.symm

/-- The map of sorted entries is the map of the entries. -/
theorem ofList_sortByName (l : Packages) : OrdMap.ofList (sortByName l) = OrdMap.ofList l := by
  have hget : ∀ (l : Packages) (n : String), OrdMap.get l.reverse n = ((l.filter (fun e => e.1 = n)).reverse.head?).map (·.2) := by
    intro l n
    rw [OrdMap.get, ← List.filter_reverse, List.head?_filter]
  refine OrdMap.Sorted.ext (OrdMap.sorted_ofList _) (OrdMap.sorted_ofList _) fun n => ?_
  rw [OrdMap.get_ofList, OrdMap.get_ofList, hget, hget, filter_sortByName]

theorem get_ofList_eq_none_iff : OrdMap.get (OrdMap.ofList l) n = none ↔ n ∉ names l := by
  rw [OrdMap.get_ofList, OrdMap.get_eq_none_iff, names, List.map_reverse, List.mem_reverse]

theorem mem_of_get_ofList (h : OrdMap.get (OrdMap.ofList l) n = some v) : (n, v) ∈ l := by
  rw [OrdMap.get_ofList] at h
  exact List.mem_reverse.mp (OrdMap.mem_of_get h)

theorem get_ofList_append (l : Packages) (n v : String) : OrdMap.get (OrdMap.ofList (l ++ [(n, v)])) n = some v := by
  rw [OrdMap.get_ofList, List.reverse_append, List.reverse_singleton, List.singleton_append, OrdMap.get_cons, if_pos rfl]

/-! ## Differences of two maps -/

/-- The entry of a package, from its versions on both sides. -/
def entryOf (n : String) : Option String → Option String → Option Json
  | some v, none => some (packageDiffEntry n "removed" (.str v) .null)
  | some v, some w => if v ≠ w then some (packageDiffEntry n "version_changed" (.str v) (.str w)) else none
  | none, some w => some (packageDiffEntry n "added" .null (.str w))
  | none, none => none

/-- What is removed or changed, in the order of the names. -/
def changedEntries (leftMap rightMap : Packages) : List Json :=
  leftMap.filterMap (fun e => entryOf e.1 (some e.2) (OrdMap.get rightMap e.1))

/-- The packages that are only on the right side. -/
def addedPackages (leftMap rightMap : Packages) : Packages := rightMap.filter (fun e => (OrdMap.get leftMap e.1).isNone)

def addedEntry (e : String × String) : Json := packageDiffEntry e.1 "added" .null (.str e.2)

def entriesOf (leftMap rightMap : Packages) : List Json :=
  changedEntries leftMap rightMap ++ (addedPackages leftMap rightMap).map addedEntry

theorem diffPackages_eq (left right : Packages) :
    diffPackages left right = (entriesOf (OrdMap.ofList left) (OrdMap.ofList right)).take 200 := by
  have hadded : ∀ leftMap rightMap : Packages, (rightMap.filterMap fun e =>
      if (OrdMap.get leftMap e.1).isSome then none else some (packageDiffEntry e.1 "added" .null (.str e.2))) =
      (addedPackages leftMap rightMap).map addedEntry := by
    intro leftMap rightMap
    rw [addedPackages, ← List.filterMap_eq_map, List.filterMap_filter]
    refine List.filterMap_congr fun e _ => ?_
    cases OrdMap.get leftMap e.1 with
    | none => rfl
    | some v => rfl
  unfold diffPackages
  refine congrArg (List.take 200) (congrArg₂ _ (List.filterMap_congr fun e _ => ?_) (hadded _ _))
  cases OrdMap.get (OrdMap.ofList right) e.1 with
  | none => rfl
  | some w => rfl

/-- The entries that a comparison of two arrays shows. -/
def reported (left right : Packages) : List Json := diffPackages (sortByName (left.take 200)) (sortByName (right.take 200))

theorem reported_eq (left right : Packages) :
    reported left right = (entriesOf (OrdMap.ofList (left.take 200)) (OrdMap.ofList (right.take 200))).take 200 := by
  rw [reported, diffPackages_eq, ofList_sortByName, ofList_sortByName]

theorem packageDiffEntry_inj {change change' : String} {x x' y y' : Json}
    (h : packageDiffEntry n change x y = packageDiffEntry n' change' x' y') : n = n' ∧ change = change' ∧ x = x' ∧ y = y' := by
  simp only [packageDiffEntry, Json.obj.injEq, List.cons.injEq, Prod.mk.injEq, Json.str.injEq, true_and, and_true] at h
  exact ⟨h.2.2.1, h.1, h.2.1, h.2.2.2⟩

/-- An entry as it is written: the package, the change and the versions. -/
theorem entryOf_cases (h : entryOf n x y = some j) :
    (∃ v, x = some v ∧ y = none ∧ j = packageDiffEntry n "removed" (.str v) .null) ∨
    (∃ v w, x = some v ∧ y = some w ∧ v ≠ w ∧ j = packageDiffEntry n "version_changed" (.str v) (.str w)) ∨
    ∃ w, x = none ∧ y = some w ∧ j = addedEntry (n, w) := by
  cases x with
  | some v =>
    cases y with
    | none =>
      cases h
      exact .inl ⟨v, rfl, rfl, rfl⟩
    | some w =>
      rw [entryOf] at h
      split at h
      · rename_i hne
        cases h
        exact .inr (.inl ⟨v, w, rfl, rfl, hne, rfl⟩)
      · cases h
  | none =>
    cases y with
    | none => cases h
    | some w =>
      cases h
      exact .inr (.inr ⟨w, rfl, rfl, rfl⟩)

/-- An entry tells its package and the versions on both sides. -/
theorem entryOf_inj {x' y' : Option String} (h : entryOf n x y = some j)
    (h' : entryOf n' x' y' = some j) : n = n' ∧ x = x' ∧ y = y' := by
  rcases entryOf_cases h with ⟨v, rfl, rfl, rfl⟩ | ⟨v, w, rfl, rfl, -, rfl⟩ | ⟨w, rfl, rfl, rfl⟩
  all_goals
    rcases entryOf_cases h' with ⟨v', rfl, rfl, hj⟩ | ⟨v', w', rfl, rfl, -, hj⟩ | ⟨w', rfl, rfl, hj⟩
    all_goals
      obtain ⟨hn, hchange, hx, hy⟩ := packageDiffEntry_inj hj
      simp_all

theorem mem_changedEntries_iff (hleft : OrdMap.Sorted leftMap) : j ∈ changedEntries leftMap rightMap ↔
      ∃ n v, OrdMap.get leftMap n = some v ∧ entryOf n (some v) (OrdMap.get rightMap n) = some j := by
  rw [changedEntries, List.mem_filterMap]
  constructor
  · rintro ⟨⟨n, v⟩, he, hj⟩
    exact ⟨n, v, hleft.mem_iff_get.mp he, hj⟩
  · rintro ⟨n, v, he, hj⟩
    exact ⟨(n, v), hleft.mem_iff_get.mpr he, hj⟩

theorem mem_addedPackages_iff (hright : OrdMap.Sorted rightMap) {w : String} :
    (n, w) ∈ addedPackages leftMap rightMap ↔ OrdMap.get leftMap n = none ∧ OrdMap.get rightMap n = some w := by
  rw [addedPackages, List.mem_filter, hright.mem_iff_get, Option.isNone_iff_eq_none, And.comm]

/-- An entry is there for every package whose versions differ, and for no other. -/
theorem mem_entriesOf_iff (hleft : OrdMap.Sorted leftMap) (hright : OrdMap.Sorted rightMap) :
    j ∈ entriesOf leftMap rightMap ↔ ∃ n, entryOf n (OrdMap.get leftMap n) (OrdMap.get rightMap n) = some j := by
  rw [entriesOf, List.mem_append, mem_changedEntries_iff hleft, List.mem_map]
  constructor
  · rintro (⟨n, v, hn, hj⟩ | ⟨⟨n, w⟩, he, rfl⟩)
    · exact ⟨n, by rw [hn, hj]⟩
    · obtain ⟨hl, hr⟩ := (mem_addedPackages_iff hright).mp he
      exact ⟨n, by rw [hl, hr]; rfl⟩
  · rintro ⟨n, hj⟩
    cases hl : OrdMap.get leftMap n with
    | some v =>
      rw [hl] at hj
      exact .inl ⟨n, v, hl, hj⟩
    | none =>
      cases hr : OrdMap.get rightMap n with
      | none =>
        rw [hl, hr] at hj
        cases hj
      | some w =>
        rw [hl, hr] at hj
        exact .inr ⟨(n, w), (mem_addedPackages_iff hright).mpr ⟨hl, hr⟩, Option.some.inj hj⟩

/-! ## What a permutation can bring to the front -/

/-- The version that a comparison reads for a package. -/
def readVersion (l : Packages) (n : String) : Option String := OrdMap.get (OrdMap.ofList (l.take 200)) n

/-- Some order of the array makes the comparison read this version, or none. -/
def Reaches (l : Packages) (n : String) (x : Option String) : Prop := ∃ l' : Packages, l'.Perm l ∧ readVersion l' n = x

/-- Some 200 entries of the array do not have the package. -/
def Droppable (l : Packages) (n : String) : Prop := 200 + (names l).count n ≤ l.length

instance (l : Packages) (n : String) : Decidable (Droppable l n) := Nat.decLe _ _

theorem reaches_self (l : Packages) (n : String) : Reaches l n (readVersion l n) := ⟨l, List.Perm.refl l, rfl⟩

/-- Every entry is the last of its package that is read, in some order. -/
theorem reaches_of_mem (h : (n, v) ∈ l) : Reaches l n (some v) := by
  obtain ⟨rest, hrest⟩ : ∃ rest, l.erase (n, v) = rest := ⟨_, rfl⟩
  have hcons : l.Perm ((n, v) :: rest) := hrest ▸ List.perm_cons_erase h
  -- the entry is put behind 199 others, or behind all of them if they are fewer
  refine ⟨(rest.take 199 ++ [(n, v)]) ++ rest.drop 199, ?_, ?_⟩
  · refine (List.perm_append_comm.append_right _).trans ?_
    rw [List.append_assoc, List.take_append_drop]
    exact hcons.symm
  · have hread : ((rest.take 199 ++ [(n, v)]) ++ rest.drop 199).take 200 = rest.take 199 ++ [(n, v)] := by
      rcases Nat.lt_or_ge rest.length 199 with hshort | hlong
      · rw [List.drop_of_length_le (le_of_lt hshort), List.append_nil, List.take_of_length_le]
        rw [List.length_append, List.length_take, List.length_singleton]
        omega
      · rw [List.take_left']
        rw [List.length_append, List.length_take, List.length_singleton]
        omega
    rw [readVersion, hread, get_ofList_append]

/-- A package that some 200 entries do not have is not read in some order. -/
theorem reaches_of_droppable (h : Droppable l n) : Reaches l n none := by
  refine ⟨l.filter (fun e => e.1 ≠ n) ++ l.filter (fun e => !decide (e.1 ≠ n)), List.filter_append_perm _ l, ?_⟩
  have hcount : (names l).count n = (l.filter (fun e => !decide (e.1 ≠ n))).length := by
    rw [names, List.count, List.countP_map, List.countP_eq_length_filter]
    congr 1
    refine List.filter_congr fun e _ => ?_
    by_cases he : e.1 = n <;> simp [he]
  have hlength := (List.filter_append_perm (fun e : String × String => decide (e.1 ≠ n)) l).length_eq
  rw [List.length_append, ← hcount] at hlength
  have hlong : 200 ≤ (l.filter (fun e => e.1 ≠ n)).length := by
    rw [Droppable] at h
    omega
  rw [readVersion, get_ofList_eq_none_iff, List.take_append_of_le_length hlong]
  intro hmem
  obtain ⟨v, hv⟩ := mem_names_iff.mp hmem
  exact of_decide_eq_true (List.mem_filter.mp (List.mem_of_mem_take hv)).2 rfl

/-- A package that is in any 200 entries is read in every order. -/
theorem mem_names_take_of_not_droppable {l' : Packages} (hperm : l'.Perm l) (hmem : n ∈ names l) (h : ¬ Droppable l n) :
    n ∈ names (l'.take 200) := by
  by_contra hdropped
  have hsplit : (names l).count n = (names (l'.drop 200)).count n := by
    have hnames : (names l).Perm (names (l'.take 200) ++ names (l'.drop 200)) := by
      rw [names, names, names, ← List.map_append, List.take_append_drop]
      exact (hperm.map _).symm
    rw [hnames.count_eq, List.count_append, List.count_eq_zero_of_not_mem hdropped, Nat.zero_add]
  have hpos : 0 < (names l).count n := List.count_pos_iff.mpr hmem
  have hle : (names (l'.drop 200)).count n ≤ l'.length - 200 := by
    refine le_trans List.count_le_length ?_
    rw [names, List.length_map, List.length_drop]
  have hlength := hperm.length_eq
  rw [Droppable] at h
  omega

theorem reaches_none_iff : Reaches l n none ↔ n ∉ names l ∨ Droppable l n := by
  constructor
  · rintro ⟨l', hperm, hread⟩
    by_cases hmem : n ∈ names l
    · refine .inr ?_
      by_contra hkept
      exact get_ofList_eq_none_iff.mp hread (mem_names_take_of_not_droppable hperm hmem hkept)
    · exact .inl hmem
  · rintro (hmem | hdrop)
    · refine ⟨l, List.Perm.refl l, get_ofList_eq_none_iff.mpr fun h => hmem ?_⟩
      obtain ⟨v, hv⟩ := mem_names_iff.mp h
      exact mem_names_iff.mpr ⟨v, List.mem_of_mem_take hv⟩
    · exact reaches_of_droppable hdrop

theorem reaches_ofList (l : Packages) (n : String) : Reaches l n (OrdMap.get (OrdMap.ofList l) n) := by
  cases hget : OrdMap.get (OrdMap.ofList l) n with
  | none => exact reaches_none_iff.mpr (.inl (get_ofList_eq_none_iff.mp hget))
  | some v => exact reaches_of_mem (mem_of_get_ofList hget)

end Rho.Compare
