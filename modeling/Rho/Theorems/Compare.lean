import Rho.Lemmas.Compare

/-!
# The packages of a comparison

`extract_packages` reads the first 200 packages of a snapshot and `diff_packages` shows the first 200 differences; of several entries of
one package the last counts. So the difference of two long lists is that of two parts of them, and which parts depends on their order.
-/

namespace Rho.Compare

/-! ## A difference that is true -/

def Removed (left right : Packages) (n : String) : Prop := n ∈ names left ∧ n ∉ names right

def Added (left right : Packages) (n : String) : Prop := n ∉ names left ∧ n ∈ names right

/-- The package is on both sides, and not at the same versions. -/
def Changed (left right : Packages) (n : String) : Prop :=
  n ∈ names left ∧ n ∈ names right ∧ ¬ ∀ v, (n, v) ∈ left ↔ (n, v) ∈ right

/-- An entry names the package with the change. -/
def ListsChange (entries : List Json) (n change : String) : Prop := ∃ x y, packageDiffEntry n change x y ∈ entries

/-- Every package that was removed, added or changed is listed as such. -/
structure ListsAll (left right : Packages) (entries : List Json) : Prop where
  removed : ∀ n, Removed left right n → ListsChange entries n "removed"
  added : ∀ n, Added left right n → ListsChange entries n "added"
  changed : ∀ n, Changed left right n → ListsChange entries n "version_changed"

/-- The order of the arrays makes no difference. -/
def OrderFree (left right : Packages) : Prop :=
  ∀ left' right', left'.Perm left → right'.Perm right → reported left' right' = reported left right

structure DiffFaithful (left right : Packages) : Prop where
  same : reported left right = [] → ∀ p, p ∈ left ↔ p ∈ right
  listed : reported left right ≠ [] → ListsAll left right (reported left right)
  permuted : OrderFree left right

/-- The difference of the whole arrays. -/
def wholeDiff (left right : Packages) : List Json := entriesOf (OrdMap.ofList left) (OrdMap.ofList right)

/-- Every package has one version in the array. -/
def OneVersion (l : Packages) : Prop := ∀ n v w, (n, v) ∈ l → (n, w) ∈ l → v = w

/-- The arrays have few enough differences and no package at two versions, and any 200 entries of them have every package. On the left a
package may be missed if it is the same on both sides and there are 200 differences before the place where it would be shown as added. -/
structure DiffReadable (left right : Packages) : Prop where
  oneLeft : OneVersion left
  oneRight : OneVersion right
  few : (wholeDiff left right).length ≤ 200
  keptRight : ∀ n ∈ names right, ¬ Droppable right n
  keptLeft : ∀ n ∈ names left, Droppable left n → (∀ v, (n, v) ∈ left ↔ (n, v) ∈ right) ∧ (wholeDiff left right).length = 200 ∧
    ∀ m, Added left right m → m < n

theorem entryOf_self (n : String) (x : Option String) : entryOf n x x = none := by
  cases x with
  | none => rfl
  | some v => simp [entryOf]

theorem entryOf_of_ne (n : String) {x y : Option String} (h : x ≠ y) : ∃ j, entryOf n x y = some j := by
  cases x with
  | none =>
    cases y with
    | none => exact absurd rfl h
    | some w => exact ⟨_, rfl⟩
  | some v =>
    cases y with
    | none => exact ⟨_, rfl⟩
    | some w => exact ⟨_, if_pos fun heq => h (congrArg some heq)⟩

theorem nodup_entriesOf {leftMap rightMap : Packages} (hleft : OrdMap.Sorted leftMap) (hright : OrdMap.Sorted rightMap) :
    (entriesOf leftMap rightMap).Nodup := by
  have hnodup : ∀ {m : Packages}, OrdMap.Sorted m → m.Nodup := fun hm => hm.imp fun hlt heq => (heq ▸ hlt).ne rfl
  rw [entriesOf, List.nodup_append]
  refine ⟨?_, ?_, ?_⟩
  · refine (hnodup hleft).filterMap ?_
    rintro ⟨n, v⟩ ⟨n', v'⟩ j hj hj'
    obtain ⟨hn, hv, -⟩ := entryOf_inj (Option.mem_def.mp hj) (Option.mem_def.mp hj')
    exact Prod.ext hn (Option.some.inj hv)
  · refine ((hnodup hright).filter _).map ?_
    rintro ⟨n, v⟩ ⟨n', v'⟩ heq
    obtain ⟨hn, -, -, hv⟩ := packageDiffEntry_inj heq
    exact Prod.ext hn (Json.str.inj hv)
  · intro j hj j' hj' heq
    obtain ⟨n, v, -, hentry⟩ := (mem_changedEntries_iff hleft).mp hj
    obtain ⟨⟨n', w⟩, -, rfl⟩ := List.mem_map.mp hj'
    have hadded : entryOf n' none (some w) = some j := by rw [heq]; rfl
    have hversion := (entryOf_inj hentry hadded).2.1
    cases hversion

section Faithful

variable {left right : Packages}

variable {j : Json} {n v : String} {y x' y' : Option String} {left' : Packages}

/-- What is reported is what the versions that are read differ in. -/
theorem entryOf_of_mem_reported (h : j ∈ reported left right) :
    ∃ n, entryOf n (readVersion left n) (readVersion right n) = some j := by
  rw [reported_eq] at h
  exact (mem_entriesOf_iff (OrdMap.sorted_ofList _) (OrdMap.sorted_ofList _)).mp (List.mem_of_mem_take h)

/-- A change of a package that is read on the left is never cut off. -/
theorem mem_reported_of_left (hleft : readVersion left n = some v)
    (hj : entryOf n (some v) (readVersion right n) = some j) : j ∈ reported left right := by
  rw [reported_eq, entriesOf]
  have hchanged : j ∈ changedEntries (OrdMap.ofList (left.take 200)) (OrdMap.ofList (right.take 200)) :=
    (mem_changedEntries_iff (OrdMap.sorted_ofList _)).mpr ⟨n, v, hleft, hj⟩
  have hlength : (changedEntries (OrdMap.ofList (left.take 200)) (OrdMap.ofList (right.take 200))).length ≤ 200 := by
    refine le_trans (List.length_filterMap_le _ _) (le_trans (OrdMap.length_ofList_le _) ?_)
    rw [List.length_take]
    omega
  rw [List.take_append, List.take_of_length_le hlength]
  exact List.mem_append_left _ hchanged

/-- Where permutations change nothing, a reported entry says what is read in every order. -/
theorem reached_of_mem_reported (hpermuted : OrderFree left right)
    {x : Option String} (hj : entryOf n x y = some j) (hmem : j ∈ reported left right)
    (hx : Reaches left n x') (hy : Reaches right n y') : x' = x ∧ y' = y := by
  obtain ⟨left', hleft, rfl⟩ := hx
  obtain ⟨right', hright, rfl⟩ := hy
  rw [← hpermuted left' right' hleft hright] at hmem
  obtain ⟨n', hentry⟩ := entryOf_of_mem_reported hmem
  obtain ⟨rfl, hx, hy⟩ := entryOf_inj hentry hj
  exact ⟨hx, hy⟩

/-- A package on the left whose versions can differ has one version on each side. -/
theorem reached_of_ne (hpermuted : OrderFree left right)
    (hx : Reaches left n (some v)) (hy : Reaches right n y) (hne : y ≠ some v)
    (hx' : Reaches left n x') (hy' : Reaches right n y') : x' = some v ∧ y' = y := by
  obtain ⟨left', hleft, hreadLeft⟩ := id hx
  obtain ⟨right', hright, hreadRight⟩ := id hy
  obtain ⟨j, hj⟩ := entryOf_of_ne n (Ne.symm hne)
  have hmem := mem_reported_of_left hreadLeft (by rw [hreadRight]; exact hj)
  rw [hpermuted left' right' hleft hright] at hmem
  exact reached_of_mem_reported hpermuted hj hmem hx' hy'

/-- What a listed change says of its package. -/
theorem entryOf_of_listsChange {change : String} (h : ListsChange (reported left right) n change) :
    ∃ x y j, entryOf n x y = some j ∧ j ∈ reported left right ∧ (change = "added" → x = none ∧ y.isSome = true) := by
  obtain ⟨a, b, hmem⟩ := h
  obtain ⟨n', hentry⟩ := entryOf_of_mem_reported hmem
  rcases entryOf_cases hentry with ⟨v, hx, hy, hj⟩ | ⟨v, w, hx, hy, hne, hj⟩ | ⟨w, hx, hy, hj⟩
  · obtain ⟨rfl, rfl, -⟩ := packageDiffEntry_inj hj
    refine ⟨_, _, _, hentry, hmem, ?_⟩
    intro hadded
    exact absurd hadded (by decide)
  · obtain ⟨rfl, rfl, -⟩ := packageDiffEntry_inj hj
    refine ⟨_, _, _, hentry, hmem, ?_⟩
    intro hadded
    exact absurd hadded (by decide)
  · obtain ⟨rfl, -, -⟩ := packageDiffEntry_inj hj
    refine ⟨_, _, _, hentry, hmem, ?_⟩
    intro _
    rw [hx, hy]
    exact ⟨rfl, rfl⟩

/-- A faithful difference lists everything, also where it is empty. -/
theorem listsAll_of_faithful (h : DiffFaithful left right) : ListsAll left right (reported left right) := by
  by_cases hnil : reported left right = []
  · have hsame := h.same hnil
    have hnames : ∀ n, n ∈ names left ↔ n ∈ names right := by
      intro n
      rw [mem_names_iff, mem_names_iff]
      exact exists_congr fun v => hsame (n, v)
    refine ⟨?_, ?_, ?_⟩
    · rintro n ⟨hleft, hright⟩
      exact absurd ((hnames n).mp hleft) hright
    · rintro n ⟨hleft, hright⟩
      exact absurd ((hnames n).mpr hright) hleft
    · rintro n ⟨-, -, hdiff⟩
      exact absurd (fun v => hsame (n, v)) hdiff
  · exact h.listed hnil

/-- An added package is read at one version in every order. -/
theorem reached_of_added (h : DiffFaithful left right) (hadded : Added left right n) :
    ∃ w, ∀ y, Reaches right n y → y = some w := by
  obtain ⟨x, y, j, hj, hmem, hform⟩ := entryOf_of_listsChange ((listsAll_of_faithful h).added n hadded)
  obtain ⟨-, hsome⟩ := hform rfl
  obtain ⟨w, rfl⟩ := Option.isSome_iff_exists.mp hsome
  exact ⟨w, fun y' hy' => (reached_of_mem_reported h.permuted hj hmem (reaches_none_iff.mpr (.inl hadded.1)) hy').2⟩

theorem oneLeft_of_faithful (h : DiffFaithful left right) : OneVersion left := by
  intro n v w hv hw
  by_contra hne
  have hv' := reaches_of_mem hv
  have hw' := reaches_of_mem hw
  have hy := reaches_self right n
  by_cases hread : readVersion right n = some v
  · have hboth := reached_of_ne h.permuted hw' hy (by rw [hread]; exact fun heq => hne (Option.some.inj heq)) hv' hy
    exact hne (Option.some.inj hboth.1)
  · have hboth := reached_of_ne h.permuted hv' hy hread hw' hy
    exact hne (Option.some.inj hboth.1).symm

theorem oneRight_of_faithful (h : DiffFaithful left right) : OneVersion right := by
  intro n v w hv hw
  by_contra hne
  have hv' := reaches_of_mem hv
  have hw' := reaches_of_mem hw
  by_cases hmem : n ∈ names left
  · obtain ⟨u, hu⟩ := mem_names_iff.mp hmem
    have hu' := reaches_of_mem hu
    -- one of the two versions is not the one on the left
    by_cases heq : v = u
    · have hboth := reached_of_ne h.permuted hu' hw' (fun hsame => hne (heq.trans (Option.some.inj hsame).symm)) hu' hv'
      exact hne (Option.some.inj hboth.2)
    · have hboth := reached_of_ne h.permuted hu' hv' (fun hsame => heq (Option.some.inj hsame)) hu' hw'
      exact hne (Option.some.inj hboth.2).symm
  · obtain ⟨x, hx⟩ := reached_of_added h ⟨hmem, mem_names_iff.mpr ⟨v, hv⟩⟩
    exact hne (Option.some.inj ((hx _ hv').trans (hx _ hw').symm))

theorem keptRight_of_faithful (h : DiffFaithful left right) : ∀ n ∈ names right, ¬ Droppable right n := by
  intro n hmem hdrop
  obtain ⟨w, hw⟩ := mem_names_iff.mp hmem
  have hnone := reaches_of_droppable hdrop
  by_cases hleft : n ∈ names left
  · obtain ⟨u, hu⟩ := mem_names_iff.mp hleft
    have hboth := reached_of_ne h.permuted (reaches_of_mem hu) hnone nofun (reaches_of_mem hu) (reaches_of_mem hw)
    exact absurd hboth.2 nofun
  · obtain ⟨x, hx⟩ := reached_of_added h ⟨hleft, hmem⟩
    exact absurd (hx _ hnone) nofun

/-- A reported entry is one of the whole difference. -/
theorem mem_wholeDiff_of_mem_reported (h : DiffFaithful left right) (hmem : j ∈ reported left right) :
    j ∈ wholeDiff left right := by
  obtain ⟨n, hentry⟩ := entryOf_of_mem_reported hmem
  obtain ⟨hx, hy⟩ := reached_of_mem_reported h.permuted hentry hmem (reaches_ofList left n) (reaches_ofList right n)
  refine (mem_entriesOf_iff (OrdMap.sorted_ofList _) (OrdMap.sorted_ofList _)).mpr ⟨n, ?_⟩
  rw [hx, hy, hentry]

/-- The whole difference is reported. -/
theorem mem_reported_of_mem_wholeDiff (h : DiffFaithful left right) (hmem : j ∈ wholeDiff left right) :
    j ∈ reported left right := by
  obtain ⟨n, hentry⟩ := (mem_entriesOf_iff (OrdMap.sorted_ofList _) (OrdMap.sorted_ofList _)).mp hmem
  have hall := listsAll_of_faithful h
  have hlists : ∃ change, ListsChange (reported left right) n change := by
    rcases entryOf_cases hentry with ⟨v, hx, hy, -⟩ | ⟨v, w, hx, hy, hne, -⟩ | ⟨w, hx, hy, -⟩
    · exact ⟨_, hall.removed n ⟨mem_names_iff.mpr ⟨v, mem_of_get_ofList hx⟩, get_ofList_eq_none_iff.mp hy⟩⟩
    · refine ⟨_, hall.changed n ⟨mem_names_iff.mpr ⟨v, mem_of_get_ofList hx⟩, mem_names_iff.mpr ⟨w, mem_of_get_ofList hy⟩, ?_⟩⟩
      intro hsame
      exact hne (oneRight_of_faithful h n v w ((hsame v).mp (mem_of_get_ofList hx)) (mem_of_get_ofList hy))
    · exact ⟨_, hall.added n ⟨get_ofList_eq_none_iff.mp hx, mem_names_iff.mpr ⟨w, mem_of_get_ofList hy⟩⟩⟩
  obtain ⟨change, hlists⟩ := hlists
  obtain ⟨x, y, j', hj', hmem', -⟩ := entryOf_of_listsChange hlists
  obtain ⟨hx, hy⟩ := reached_of_mem_reported h.permuted hj' hmem' (reaches_ofList left n) (reaches_ofList right n)
  rw [hx, hy, hj'] at hentry
  exact Option.some.inj hentry ▸ hmem'

theorem length_reported_of_faithful (h : DiffFaithful left right) : (reported left right).length = (wholeDiff left right).length := by
  have hnodup : (reported left right).Nodup := by
    rw [reported_eq]
    exact (nodup_entriesOf (OrdMap.sorted_ofList _) (OrdMap.sorted_ofList _)).sublist (List.take_sublist _ _)
  have hwhole : (wholeDiff left right).Nodup := nodup_entriesOf (OrdMap.sorted_ofList _) (OrdMap.sorted_ofList _)
  refine ((List.perm_ext_iff_of_nodup hnodup hwhole).mpr fun j => ?_).length_eq
  exact ⟨mem_wholeDiff_of_mem_reported h, mem_reported_of_mem_wholeDiff h⟩

/-- A package that some order leaves out on the left is the same on the right, where it is shown as added behind everything else. -/
theorem keptLeft_of_faithful (h : DiffFaithful left right) : ∀ n ∈ names left, Droppable left n →
    (∀ v, (n, v) ∈ left ↔ (n, v) ∈ right) ∧ (wholeDiff left right).length = 200 ∧ ∀ m, Added left right m → m < n := by
  intro n hmem hdrop
  obtain ⟨v, hv⟩ := mem_names_iff.mp hmem
  have hnone := reaches_of_droppable hdrop
  have hright : ∀ y, Reaches right n y → y = some v := by
    intro y hy
    by_contra hne
    exact absurd (reached_of_ne h.permuted (reaches_of_mem hv) hy hne hnone hy).1 nofun
  have hread := hright _ (reaches_self right n)
  refine ⟨?_, ?_⟩
  · intro w
    constructor
    · intro hw
      rw [oneLeft_of_faithful h n w v hw hv]
      exact List.mem_of_mem_take (mem_of_get_ofList hread)
    · intro hw
      rw [Option.some.inj (hright _ (reaches_of_mem hw))]
      exact hv
  · -- the order that leaves the package out shows it as added, but only where it is cut off
    obtain ⟨left', hperm, hdropped⟩ := hnone
    have hsame := h.permuted left' right hperm (List.Perm.refl right)
    obtain ⟨leftMap, hleftMap⟩ : ∃ m, OrdMap.ofList (left'.take 200) = m := ⟨_, rfl⟩
    obtain ⟨rightMap, hrightMap⟩ : ∃ m, OrdMap.ofList (right.take 200) = m := ⟨_, rfl⟩
    have hsortedLeft : OrdMap.Sorted leftMap := hleftMap ▸ OrdMap.sorted_ofList _
    have hsortedRight : OrdMap.Sorted rightMap := hrightMap ▸ OrdMap.sorted_ofList _
    have hadded : (n, v) ∈ addedPackages leftMap rightMap :=
      (mem_addedPackages_iff hsortedRight).mpr ⟨hleftMap ▸ hdropped, hrightMap ▸ hread⟩
    have hcut : addedEntry (n, v) ∉ reported left right := by
      intro hin
      have hboth := reached_of_mem_reported h.permuted (y := some v) (x := none) rfl hin (reaches_of_mem hv) (reaches_self right n)
      exact absurd hboth.1 nofun
    rw [reported_eq, hleftMap, hrightMap, entriesOf, List.take_append, ← List.map_take] at hsame
    obtain ⟨k, hk⟩ : ∃ k, 200 - (changedEntries leftMap rightMap).length = k := ⟨_, rfl⟩
    rw [hk] at hsame
    have hbehind : (n, v) ∈ (addedPackages leftMap rightMap).drop k := by
      rw [← List.take_append_drop k (addedPackages leftMap rightMap)] at hadded
      refine (List.mem_append.mp hadded).resolve_left fun hin => hcut ?_
      rw [← hsame]
      exact List.mem_append_right _ (List.mem_map_of_mem hin)
    constructor
    · rw [← length_reported_of_faithful h, ← hsame, List.length_append, List.length_take, List.length_map, List.length_take]
      have hpos := List.length_pos_of_mem hbehind
      rw [List.length_drop] at hpos
      omega
    · intro m hm
      obtain ⟨x, y, j, hj, hin, hform⟩ := entryOf_of_listsChange ((listsAll_of_faithful h).added m hm)
      obtain ⟨rfl, hsome⟩ := hform rfl
      obtain ⟨w, rfl⟩ := Option.isSome_iff_exists.mp hsome
      have hj : addedEntry (m, w) = j := Option.some.inj hj
      rw [← hsame, List.mem_append] at hin
      have hfront : (m, w) ∈ (addedPackages leftMap rightMap).take k := by
        rcases hin with hin | hin
        · obtain ⟨n', v', -, hentry⟩ := (mem_changedEntries_iff hsortedLeft).mp (List.mem_of_mem_take hin)
          exact absurd (entryOf_inj hentry (show entryOf m none (some w) = some j from congrArg some hj)).2.1 nofun
        · obtain ⟨⟨m', w'⟩, hm', heq⟩ := List.mem_map.mp hin
          obtain ⟨hname, -, -, hver⟩ := packageDiffEntry_inj (hj.trans heq.symm)
          rwa [show (m, w) = (m', w') from Prod.ext hname (Json.str.inj hver)]
      have hsorted : (addedPackages leftMap rightMap).Pairwise (fun a b => a.1 < b.1) := hsortedRight.filter _
      rw [← List.take_append_drop k (addedPackages leftMap rightMap)] at hsorted
      exact (List.pairwise_append.mp hsorted).2.2 _ hfront _ hbehind

theorem readable_of_faithful (h : DiffFaithful left right) : DiffReadable left right where
  oneLeft := oneLeft_of_faithful h
  oneRight := oneRight_of_faithful h
  few := by
    rw [← length_reported_of_faithful h, reported_eq]
    exact List.length_take_le _ _
  keptRight := keptRight_of_faithful h
  keptLeft := keptLeft_of_faithful h

/-! ## Where the difference is read in full -/

/-- What is read in an order of an array is its version, or nothing. -/
theorem readVersion_of_perm {l l' : Packages} (hone : OneVersion l) (hperm : l'.Perm l) (n : String) :
    readVersion l' n = if n ∈ names (l'.take 200) then OrdMap.get (OrdMap.ofList l) n else none := by
  split
  · rename_i hmem
    cases hread : readVersion l' n with
    | none => exact absurd hmem (get_ofList_eq_none_iff.mp hread)
    | some v =>
      have hv : (n, v) ∈ l := hperm.mem_iff.mp (List.mem_of_mem_take (mem_of_get_ofList hread))
      cases hget : OrdMap.get (OrdMap.ofList l) n with
      | none => exact absurd (mem_names_iff.mpr ⟨v, hv⟩) (get_ofList_eq_none_iff.mp hget)
      | some w => rw [hone n v w hv (mem_of_get_ofList hget)]
  · rename_i hmem
    exact get_ofList_eq_none_iff.mpr hmem

theorem get_of_mem_of_oneVersion {l : Packages} (hone : OneVersion l) (h : (n, v) ∈ l) :
    OrdMap.get (OrdMap.ofList l) n = some v := by
  cases hget : OrdMap.get (OrdMap.ofList l) n with
  | none => exact absurd (mem_names_iff.mpr ⟨v, h⟩) (get_ofList_eq_none_iff.mp hget)
  | some w => rw [hone n w v (mem_of_get_ofList hget) h]

theorem filter_or_eq_append {α : Type} {p q : α → Bool} {l : List α} (h : l.Pairwise (fun a b => q a = true → p b = false))
    (hdisjoint : ∀ a ∈ l, p a = true → q a = false) : l.filter (fun a => p a || q a) = l.filter p ++ l.filter q := by
  induction l with
  | nil => rfl
  | cons a l ih =>
    obtain ⟨hfirst, hrest⟩ := List.pairwise_cons.mp h
    have ih := ih hrest fun b hb => hdisjoint b (List.mem_cons_of_mem _ hb)
    cases hp : p a with
    | true =>
      have hq := hdisjoint a List.mem_cons_self hp
      simp [hp, hq, ih]
    | false =>
      cases hq : q a with
      | false => simp [hp, hq, ih]
      | true =>
        have hnone : l.filter p = [] := List.filter_eq_nil_iff.mpr fun b hb => by rw [hfirst b hb hq]; exact Bool.false_ne_true
        rw [hnone, List.nil_append] at ih
        simp [hp, hq, ih, hnone]

/-- What an order leaves out of the left side is the same on the right. -/
theorem changedEntries_of_readable (h : DiffReadable left right) (hleft : left'.Perm left) :
    changedEntries (OrdMap.ofList (left'.take 200)) (OrdMap.ofList right) = changedEntries (OrdMap.ofList left) (OrdMap.ofList right) := by
  have hnodup : ∀ {m : Packages}, OrdMap.Sorted m → m.Nodup := fun hm => hm.imp fun hlt heq => (heq ▸ hlt).ne rfl
  have hpart : OrdMap.ofList (left'.take 200) = (OrdMap.ofList left).filter (fun e => e.1 ∈ names (left'.take 200)) := by
    refine OrdMap.Sorted.eq_of_perm (OrdMap.sorted_ofList _) ((OrdMap.sorted_ofList left).filter _) ?_
    refine (List.perm_ext_iff_of_nodup (hnodup (OrdMap.sorted_ofList _)) ((hnodup (OrdMap.sorted_ofList left)).filter _)).mpr ?_
    rintro ⟨n, v⟩
    rw [(OrdMap.sorted_ofList _).mem_iff_get, List.mem_filter, (OrdMap.sorted_ofList left).mem_iff_get]
    have hread := readVersion_of_perm h.oneLeft hleft n
    rw [readVersion] at hread
    rw [hread]
    by_cases hmem : n ∈ names (left'.take 200)
    · simp [hmem]
    · simp [hmem]
  rw [changedEntries, hpart, List.filterMap_filter, changedEntries]
  refine List.filterMap_congr ?_
  rintro ⟨n, v⟩ he
  dsimp only
  by_cases hmem : n ∈ names (left'.take 200)
  · rw [if_pos (decide_eq_true hmem)]
  · rw [if_neg (by simpa using hmem)]
    have hv : (n, v) ∈ left := OrdMap.mem_of_mem_ofList he
    have hdrop : Droppable left n := by
      by_contra hkept
      exact hmem (mem_names_take_of_not_droppable hleft (mem_names_iff.mpr ⟨v, hv⟩) hkept)
    have hboth := ((h.keptLeft n (mem_names_iff.mpr ⟨v, hv⟩) hdrop).1 v).mp hv
    rw [get_of_mem_of_oneVersion h.oneRight hboth, entryOf_self]

/-- What an order leaves out of the left side is shown as added behind what is added, if at all. -/
theorem addedPackages_of_readable (h : DiffReadable left right) (hleft : left'.Perm left) :
    ∃ behind, addedPackages (OrdMap.ofList (left'.take 200)) (OrdMap.ofList right) =
      addedPackages (OrdMap.ofList left) (OrdMap.ofList right) ++ behind ∧
        (behind = [] ∨ (wholeDiff left right).length = 200) := by
  have hread : ∀ n, OrdMap.get (OrdMap.ofList (left'.take 200)) n =
      if n ∈ names (left'.take 200) then OrdMap.get (OrdMap.ofList left) n else none := readVersion_of_perm h.oneLeft hleft
  have hmissed : ∀ n, n ∈ names left → n ∉ names (left'.take 200) → Droppable left n := by
    intro n hmem hdropped
    by_contra hkept
    exact hdropped (mem_names_take_of_not_droppable hleft hmem hkept)
  refine ⟨(OrdMap.ofList right).filter (fun e => decide (e.1 ∈ names left ∧ e.1 ∉ names (left'.take 200))), ?_, ?_⟩
  · rw [addedPackages, addedPackages, ← filter_or_eq_append]
    · refine List.filter_congr fun e _ => ?_
      rw [Bool.eq_iff_iff, Bool.or_eq_true, Option.isNone_iff_eq_none, Option.isNone_iff_eq_none, decide_eq_true_eq, hread,
        get_ofList_eq_none_iff]
      have hsub : e.1 ∈ names (left'.take 200) → e.1 ∈ names left := by
        intro hmem
        obtain ⟨v, hv⟩ := mem_names_iff.mp hmem
        exact mem_names_iff.mpr ⟨v, hleft.mem_iff.mp (List.mem_of_mem_take hv)⟩
      by_cases hmem : e.1 ∈ names (left'.take 200)
      · simp [hmem, hsub hmem, get_ofList_eq_none_iff]
      · by_cases hall : e.1 ∈ names left <;> simp [hmem, hall]
    · refine (OrdMap.sorted_ofList right).imp_of_mem ?_
      intro a b ha hb hlt hq
      obtain ⟨hmem, hdropped⟩ := of_decide_eq_true hq
      rw [Option.isNone_eq_false_iff, Option.isSome_iff_ne_none]
      intro hnone
      -- what is added comes before what is left out
      have hb' : b.1 ∈ names right := mem_names_iff.mpr ⟨b.2, OrdMap.mem_of_mem_ofList hb⟩
      have hbefore := (h.keptLeft a.1 hmem (hmissed a.1 hmem hdropped)).2.2 b.1 ⟨get_ofList_eq_none_iff.mp hnone, hb'⟩
      exact lt_asymm hlt hbefore
    · intro a _ hnone
      rw [Option.isNone_iff_eq_none, get_ofList_eq_none_iff] at hnone
      exact decide_eq_false fun hq => hnone hq.1
  · cases hbehind : (OrdMap.ofList right).filter (fun e => decide (e.1 ∈ names left ∧ e.1 ∉ names (left'.take 200))) with
    | nil => exact .inl rfl
    | cons e rest =>
      have he : e ∈ e :: rest := List.mem_cons_self
      rw [← hbehind] at he
      obtain ⟨hmem, hdropped⟩ := of_decide_eq_true (List.mem_filter.mp he).2
      exact .inr (h.keptLeft e.1 hmem (hmissed e.1 hmem hdropped)).2.1

/-- In every order of the arrays the whole difference is reported. -/
theorem reported_of_readable (h : DiffReadable left right) {right' : Packages} (hleft : left'.Perm left)
    (hright : right'.Perm right) : reported left' right' = wholeDiff left right := by
  have hmap : OrdMap.ofList (right'.take 200) = OrdMap.ofList right := by
    refine OrdMap.Sorted.ext (OrdMap.sorted_ofList _) (OrdMap.sorted_ofList _) fun n => ?_
    have hread := readVersion_of_perm h.oneRight hright n
    rw [readVersion] at hread
    rw [hread]
    split
    · rfl
    · rename_i hdropped
      refine (get_ofList_eq_none_iff.mpr fun hmem => ?_).symm
      exact hdropped (mem_names_take_of_not_droppable hright hmem (h.keptRight n hmem))
  obtain ⟨behind, hadded, hlast⟩ := addedPackages_of_readable h hleft
  rw [reported_eq, hmap, entriesOf, changedEntries_of_readable h hleft, hadded, List.map_append, ← List.append_assoc]
  show (wholeDiff left right ++ behind.map addedEntry).take 200 = wholeDiff left right
  rcases hlast with rfl | hlength
  · rw [List.map_nil, List.append_nil, List.take_of_length_le h.few]
  · rw [← hlength, List.take_left]

theorem faithful_of_readable (h : DiffReadable left right) : DiffFaithful left right := by
  have hself := reported_of_readable h (List.Perm.refl left) (List.Perm.refl right)
  have hentry : ∀ n j, entryOf n (OrdMap.get (OrdMap.ofList left) n) (OrdMap.get (OrdMap.ofList right) n) = some j →
      j ∈ wholeDiff left right :=
    fun n j hj => (mem_entriesOf_iff (OrdMap.sorted_ofList _) (OrdMap.sorted_ofList _)).mpr ⟨n, hj⟩
  refine ⟨?_, ?_, ?_⟩
  · intro hnil
    have hget : ∀ n, OrdMap.get (OrdMap.ofList left) n = OrdMap.get (OrdMap.ofList right) n := by
      intro n
      by_contra hne
      obtain ⟨j, hj⟩ := entryOf_of_ne n hne
      have hmem := hentry n j hj
      rw [← hself, hnil] at hmem
      exact List.not_mem_nil hmem
    rintro ⟨n, v⟩
    constructor
    · intro hv
      exact mem_of_get_ofList ((hget n).symm.trans (get_of_mem_of_oneVersion h.oneLeft hv))
    · intro hv
      exact mem_of_get_ofList ((hget n).trans (get_of_mem_of_oneVersion h.oneRight hv))
  · intro _
    rw [hself]
    refine ⟨?_, ?_, ?_⟩
    · rintro n ⟨hleft, hright⟩
      obtain ⟨v, hv⟩ := mem_names_iff.mp hleft
      refine ⟨.str v, .null, hentry n _ ?_⟩
      rw [get_of_mem_of_oneVersion h.oneLeft hv, get_ofList_eq_none_iff.mpr hright]
      rfl
    · rintro n ⟨hleft, hright⟩
      obtain ⟨w, hw⟩ := mem_names_iff.mp hright
      refine ⟨.null, .str w, hentry n _ ?_⟩
      rw [get_of_mem_of_oneVersion h.oneRight hw, get_ofList_eq_none_iff.mpr hleft]
      rfl
    · rintro n ⟨hleft, hright, hdiff⟩
      obtain ⟨v, hv⟩ := mem_names_iff.mp hleft
      obtain ⟨w, hw⟩ := mem_names_iff.mp hright
      refine ⟨.str v, .str w, hentry n _ ?_⟩
      rw [get_of_mem_of_oneVersion h.oneLeft hv, get_of_mem_of_oneVersion h.oneRight hw, entryOf, if_pos]
      rintro rfl
      refine hdiff fun u => ⟨fun hu => ?_, fun hu => ?_⟩
      · rwa [h.oneLeft n u v hu hv]
      · rwa [h.oneRight n u v hu hw]
  · intro left' right' hleft hright
    rw [hself, reported_of_readable h hleft hright]

theorem diff_faithful_iff (left right : Packages) : DiffFaithful left right ↔ DiffReadable left right :=
  ⟨readable_of_faithful, faithful_of_readable⟩

end Faithful

/-! ## The field of the response -/

/-- A snapshot whose installed packages are objects with a name and a version. -/
def ListsPackages (record : EnvironmentSnapshotRecord) (l : Packages) : Prop :=
  ∃ json installed, Json.fromText record.canonicalJson = some json ∧ (json.get "installed_packages").bind Json.asArray = some installed ∧
    installed.map (fun pkg => ((pkg.get "Package").bind Json.asStr, (pkg.get "Version").bind Json.asStr)) =
      l.map (fun e => (some e.1, some e.2))

/-- The field `package_diff` of a response. -/
def packageDiff (response : CompareRunsResponse) : Option CompareFieldEntry :=
  (response.sections.find? (fun s => s.id = "environment")).bind (fun s => s.fields.find? (fun f => f.field = "package_diff"))

/-- The entries of a field, as a reader of the response finds them. -/
def entriesShown (f : CompareFieldEntry) : List Json := ((f.leftValue.bind Json.fromText).bind Json.asArray).getD []

/-- A response says that the packages are the same only if they are, else it lists every change or says that it is cut off; and the order
of the arrays makes no difference. -/
structure ResponseFaithful (respond : EnvironmentSnapshotRecord → EnvironmentSnapshotRecord → CompareRunsResponse)
    (leftRecord rightRecord : EnvironmentSnapshotRecord) (left right : Packages) : Prop where
  same : ∀ f ∈ packageDiff (respond leftRecord rightRecord), f.state = .same → ∀ p, p ∈ left ↔ p ∈ right
  listed : ∀ f ∈ packageDiff (respond leftRecord rightRecord), f.state ≠ .same → ListsAll left right (entriesShown f) ∨
    ((respond leftRecord rightRecord).truncated = true ∧ (respond leftRecord rightRecord).truncationReasons ≠ [])
  permuted : ∀ leftRecord' rightRecord' left' right', ListsPackages leftRecord' left' → ListsPackages rightRecord' right' →
    left'.Perm left → right'.Perm right →
    packageDiff (respond leftRecord' rightRecord') = packageDiff (respond leftRecord rightRecord)

theorem extractPackages_of_lists {json : Json} {installed : List Json} {l : Packages}
    (hinstalled : (json.get "installed_packages").bind Json.asArray = some installed)
    (hall : installed.map (fun pkg => ((pkg.get "Package").bind Json.asStr, (pkg.get "Version").bind Json.asStr)) =
      l.map (fun e => (some e.1, some e.2))) : extractPackages json = sortByName (l.take 200) := by
  have hread := congrArg (fun found => (found.take 200).map (fun e : Option String × Option String => (e.1.getD "?", e.2.getD "?"))) hall
  simp only [← List.map_take, List.map_map] at hread
  rw [extractPackages, hinstalled]
  refine congrArg sortByName (hread.trans ?_)
  exact List.map_id _

/-- An entry is written and read back as it is. -/
theorem exact_of_mem_reported {left right : Packages} {j : Json} (h : j ∈ reported left right) :
    Json.Exact j ∧ Json.nesting j ≤ 1 ∧ Json.normalize j = j := by
  have hobject : ∀ n change (x y : Json), Json.Exact x → Json.Exact y → Json.nesting x = 0 → Json.nesting y = 0 → Json.normalize x = x →
      Json.normalize y = y → Json.Exact (packageDiffEntry n change x y) ∧ Json.nesting (packageDiffEntry n change x y) ≤ 1 ∧
        Json.normalize (packageDiffEntry n change x y) = packageDiffEntry n change x y := by
    intro n change x y hx hy hx' hy' hx'' hy''
    refine ⟨⟨trivial, hx, trivial, hy, trivial⟩, ?_, ?_⟩
    · simp [packageDiffEntry, Json.nesting, Json.nestingFields, hx', hy']
    · have h1 : ¬ "left_version" < "change" := by decide
      have h2 : ¬ "package" < "change" := by decide
      have h3 : ¬ "package" < "left_version" := by decide
      have h4 : ¬ "right_version" < "change" := by decide
      have h5 : ¬ "right_version" < "left_version" := by decide
      have h6 : ¬ "right_version" < "package" := by decide
      simp [packageDiffEntry, Json.normalize, Json.normalizeFields, OrdMap.ofList, OrdMap.insert, hx'', hy'', h1, h2, h3, h4, h5, h6]
  obtain ⟨n, hentry⟩ := entryOf_of_mem_reported h
  rcases entryOf_cases hentry with ⟨v, -, -, rfl⟩ | ⟨v, w, -, -, -, rfl⟩ | ⟨w, -, -, rfl⟩
  · exact hobject _ _ _ _ trivial trivial rfl rfl rfl rfl
  · exact hobject _ _ _ _ trivial trivial rfl rfl rfl rfl
  · exact hobject _ _ _ _ trivial trivial rfl rfl rfl rfl

theorem fromText_reported (left right : Packages) :
    Json.fromText (Json.toText (.arr (reported left right))) = some (.arr (reported left right)) := by
  have hexact : Json.Exact (.arr (reported left right)) := Json.exactList_of_forall fun j hj => (exact_of_mem_reported hj).1
  have hnesting : Json.nestingList (reported left right) ≤ 1 := Json.nestingList_le fun j hj => (exact_of_mem_reported hj).2.1
  have hdepth : Json.nesting (.arr (reported left right)) ≤ Json.maxNesting := by
    rw [Json.nesting, Json.maxNesting]
    omega
  rw [Json.fromText_toText hexact hdepth, Json.normalize, Json.normalizeList_eq_map]
  refine congrArg (fun l => some (Json.arr l)) ((List.map_congr_left fun j hj => ?_).trans (List.map_id _))
  exact (exact_of_mem_reported hj).2.2

def packageJson (e : String × String) : Json := .obj [("Package", .str e.1), ("Version", .str e.2)]

def snapshotJson (l : Packages) : Json := .obj [("installed_packages", .arr (l.map packageJson))]

/-- A snapshot that lists given packages. -/
def recordOf (l : Packages) : EnvironmentSnapshotRecord := ⟨(snapshotJson l).toText⟩

theorem normalize_packageJson (e : String × String) : (packageJson e).normalize = packageJson e := by
  have hnot : ¬ "Version" < "Package" := by decide
  simp [packageJson, Json.normalize, Json.normalizeFields, OrdMap.ofList, OrdMap.insert, hnot]

theorem lists_recordOf (l : Packages) : ListsPackages (recordOf l) l := by
  have hexact : Json.Exact (snapshotJson l) := by
    refine ⟨Json.exactList_of_forall ?_, trivial⟩
    intro v hv
    obtain ⟨e, -, rfl⟩ := List.mem_map.mp hv
    exact ⟨trivial, trivial, trivial⟩
  have hnesting : Json.nestingList (l.map packageJson) ≤ 1 := by
    refine Json.nestingList_le ?_
    intro v hv
    obtain ⟨e, -, rfl⟩ := List.mem_map.mp hv
    simp [packageJson, Json.nesting, Json.nestingFields]
  have hdepth : Json.nesting (snapshotJson l) ≤ Json.maxNesting := by
    simp only [snapshotJson, Json.nesting, Json.nestingFields, Json.maxNesting]
    omega
  have hnormalize : (snapshotJson l).normalize = snapshotJson l := by
    simp [snapshotJson, Json.normalize, Json.normalizeFields, OrdMap.ofList, OrdMap.insert, Json.normalizeList_eq_map,
      normalize_packageJson]
  refine ⟨snapshotJson l, l.map packageJson, ?_, ?_, ?_⟩
  · rw [recordOf, Json.fromText_toText hexact hdepth, hnormalize]
  · simp [snapshotJson, Json.get, OrdMap.get, Json.asArray]
  · rw [List.map_map]
    refine List.map_congr_left fun e _ => ?_
    simp [packageJson, Json.get, OrdMap.get, Json.asStr]

/-! ## Responses -/

section Responses

variable (host : Host) (projectRoot : String) (left right : RunDetail) (leftProblems rightProblems : List RunProblem)
  (leftArtifacts rightArtifacts : List ArtifactRecord)

/-- The response to two runs, as it depends on their snapshots. -/
def respond (leftRecord rightRecord : EnvironmentSnapshotRecord) : CompareRunsResponse :=
  compute host projectRoot left right leftProblems rightProblems (some leftRecord) (some rightRecord) leftArtifacts rightArtifacts

variable {leftRecord rightRecord : EnvironmentSnapshotRecord} {l r : Packages}

/-- The field of two arrays of packages. -/
def packageDiffField (l r : Packages) : CompareFieldEntry :=
  field "package_diff" (if reported l r = [] then .same else .different) (some (Json.toText (.arr (reported l r)))) none

theorem packageDiff_respond (hl : ListsPackages leftRecord l) (hr : ListsPackages rightRecord r) :
    packageDiff (respond host projectRoot left right leftProblems rightProblems leftArtifacts rightArtifacts leftRecord rightRecord) =
      some (packageDiffField l r) := by
  obtain ⟨lj, linstalled, hlj, hlarr, hlall⟩ := hl
  obtain ⟨rj, rinstalled, hrj, hrarr, hrall⟩ := hr
  have hleft := extractPackages_of_lists hlarr hlall
  have hright := extractPackages_of_lists hrarr hrall
  have hsection : packageDiff
      (respond host projectRoot left right leftProblems rightProblems leftArtifacts rightArtifacts leftRecord rightRecord) =
      (compareEnvironment ⟨left.environmentSnapshotId⟩ ⟨right.environmentSnapshotId⟩ (some leftRecord) (some rightRecord)).fields.find?
        (fun f => f.field = "package_diff") := by
    simp [packageDiff, respond, compute, compareIdentity, compareSource, compareEnvironment]
  rw [hsection]
  simp [compareEnvironment, hlj, hrj, compareSnapshots, hleft, hright, field, packageDiffField, reported]
  congr

/-- A response is faithful exactly where the arrays can be read in full. -/
theorem package_diff_faithful_iff (hl : ListsPackages leftRecord l) (hr : ListsPackages rightRecord r) :
    ResponseFaithful (respond host projectRoot left right leftProblems rightProblems leftArtifacts rightArtifacts) leftRecord rightRecord
      l r ↔ DiffReadable l r := by
  have hfield := packageDiff_respond host projectRoot left right leftProblems rightProblems leftArtifacts rightArtifacts hl hr
  have hshown : entriesShown (packageDiffField l r) = reported l r := by
    simp [entriesShown, packageDiffField, field, fromText_reported, Json.asArray]
  have hstate : ∀ l r : Packages, (packageDiffField l r).state = .same ↔ reported l r = [] := by
    intro l r
    by_cases hnil : reported l r = [] <;> simp [packageDiffField, field, hnil]
  rw [← diff_faithful_iff]
  constructor
  · intro h
    refine ⟨?_, ?_, ?_⟩
    · intro hnil
      exact h.same _ hfield ((hstate l r).mpr hnil)
    · intro hne
      rcases h.listed _ hfield (fun hsame => hne ((hstate l r).mp hsame)) with hall | ⟨htruncated, -⟩
      · rwa [hshown] at hall
      · exact absurd htruncated Bool.false_ne_true
    · intro l' r' hpermLeft hpermRight
      have hsame := h.permuted (recordOf l') (recordOf r') l' r' (lists_recordOf l') (lists_recordOf r') hpermLeft hpermRight
      rw [hfield, packageDiff_respond host projectRoot left right leftProblems rightProblems leftArtifacts rightArtifacts
        (lists_recordOf l') (lists_recordOf r')] at hsame
      have htext : Json.toText (.arr (reported l' r')) = Json.toText (.arr (reported l r)) :=
        Option.some.inj (congrArg CompareFieldEntry.leftValue (Option.some.inj hsame))
      have hread := congrArg Json.fromText htext
      rw [fromText_reported, fromText_reported] at hread
      exact Json.arr.inj (Option.some.inj hread)
  · intro h
    refine ⟨?_, ?_, ?_⟩
    · intro f hf hsame
      rw [hfield] at hf
      cases hf
      exact h.same ((hstate l r).mp hsame)
    · intro f hf hne
      rw [hfield] at hf
      cases hf
      rw [hshown]
      exact .inl (h.listed fun hnil => hne ((hstate l r).mpr hnil))
    · intro leftRecord' rightRecord' l' r' hl' hr' hpermLeft hpermRight
      rw [hfield, packageDiff_respond host projectRoot left right leftProblems rightProblems leftArtifacts rightArtifacts hl' hr',
        packageDiffField, packageDiffField, h.permuted l' r' hpermLeft hpermRight]

end Responses

/-! ## A package beyond the first 200 -/

namespace SampleCompare

/-- A run of project `/a`. -/
def run (runId : String) : RunDetail :=
  { runId := runId, projectRoot := "/a", origin := "user", status := "completed", startedAt := "2026-08-01T00:00:00+00:00",
    requestType := "workspace.execute", operationClass := "scientific", code := "1", argumentsJson := "\x7b\x7d" }

def host : Host := ⟨fun text => text, fun _ => none, "2026-08-02T00:00:00+00:00"⟩

/-- Two hundred packages and one more. -/
def packages (version : String) : Packages := (List.range 200).map (fun i => ("p" ++ toString i, "1.0")) ++ [("zoo", version)]

def respondTo (leftRecord rightRecord : EnvironmentSnapshotRecord) : CompareRunsResponse :=
  respond host "/a" (run "left") (run "right") [] [] [] [] leftRecord rightRecord

end SampleCompare

open SampleCompare

theorem oneVersion_singleton (e : String × String) : OneVersion [e] := by
  intro n v w hv hw
  exact congrArg Prod.snd ((List.mem_singleton.mp hv).trans (List.mem_singleton.mp hw).symm)

/-- One package at one version is read in full, in both snapshots. -/
theorem one_package_faithful :
    ResponseFaithful respondTo (recordOf [("dplyr", "1.1.4")]) (recordOf [("dplyr", "1.0.0")]) [("dplyr", "1.1.4")] [("dplyr", "1.0.0")] :=
  (package_diff_faithful_iff host "/a" (run "left") (run "right") [] [] [] [] (lists_recordOf [("dplyr", "1.1.4")])
    (lists_recordOf [("dplyr", "1.0.0")])).mpr
    { oneLeft := oneVersion_singleton _
      oneRight := oneVersion_singleton _
      few := by decide +kernel
      keptRight := by decide +kernel
      keptLeft := fun n _ hdrop => absurd (show 200 + (names [("dplyr", "1.1.4")]).count n ≤ 1 from hdrop) (by omega) }

/-- Two snapshots whose package number 201 is at different versions have the same packages, says the response. -/
theorem last_package_missed :
    packageDiff (respondTo (recordOf (packages "1.8")) (recordOf (packages "1.9"))) = some (field "package_diff" .same (some "[]") none) ∧
      ¬ ResponseFaithful respondTo (recordOf (packages "1.8")) (recordOf (packages "1.9")) (packages "1.8") (packages "1.9") := by
  have hread : ∀ version, (packages version).take 200 = (List.range 200).map (fun i => ("p" ++ toString i, "1.0")) := by
    intro version
    rw [packages, List.take_left']
    rw [List.length_map, List.length_range]
  have hself : ∀ m : Packages, OrdMap.Sorted m → entriesOf m m = [] := by
    intro m hm
    refine List.eq_nil_iff_forall_not_mem.mpr fun j hj => ?_
    obtain ⟨n, hn⟩ := (mem_entriesOf_iff hm hm).mp hj
    rw [entryOf_self] at hn
    cases hn
  have hnil : reported (packages "1.8") (packages "1.9") = [] := by
    rw [reported_eq, hread, hread, hself _ (OrdMap.sorted_ofList _)]
    rfl
  have hfield := packageDiff_respond host "/a" (run "left") (run "right") [] [] [] [] (lists_recordOf (packages "1.8"))
    (lists_recordOf (packages "1.9"))
  rw [packageDiffField, hnil, if_pos rfl] at hfield
  have hshown : packageDiff (respondTo (recordOf (packages "1.8")) (recordOf (packages "1.9"))) =
      some (field "package_diff" .same (some "[]") none) := hfield
  refine ⟨hshown, fun h => ?_⟩
  have hzoo := (h.same _ hshown rfl ("zoo", "1.8")).mp (by simp [packages])
  rcases List.mem_append.mp hzoo with hbase | hlast
  · obtain ⟨i, -, hi⟩ := List.mem_map.mp hbase
    exact absurd (show "1.0" = "1.8" from congrArg Prod.snd hi) (by decide)
  · exact absurd (List.mem_singleton.mp hlast) (by decide)

end Rho.Compare
