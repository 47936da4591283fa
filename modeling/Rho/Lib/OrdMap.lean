import Mathlib.Order.Lattice
import Mathlib.Data.List.Basic
import Mathlib.Data.List.Perm.Subperm

/-!
# Ordered maps as association lists

A map is a list of entries in increasing order of their keys. Building a map from entries keeps, of several with one key, the
last.
-/

namespace OrdMap

variable {κ β : Type*} [LinearOrder κ]

/-- The value of a key. -/
def get (m : List (κ × β)) (k : κ) : Option β := (m.find? (fun e => e.1 = k)).map (·.2)

/-- Insertion, in the place of the entry with the same key if there is one. -/
def insert (key : κ) (v : β) : List (κ × β) → List (κ × β)
  | [] => [(key, v)]
  | (k, w) :: m =>
    if key < k then (key, v) :: (k, w) :: m
    else if key = k then (key, v) :: m
    else (k, w) :: insert key v m

/-- The map that entries, read from left to right, build. -/
def ofList (entries : List (κ × β)) : List (κ × β) := entries.foldl (fun m e => insert e.1 e.2 m) []

@[simp] theorem ofList_nil : ofList ([] : List (κ × β)) = [] := rfl

theorem get_insert (key : κ) (v : β) (k : κ) : ∀ m : List (κ × β),
    get (insert key v m) k = if key = k then some v else get m k
  | [] => by by_cases h : key = k <;> simp [insert, get, h]
  | (k', w) :: m => by
    have ih := get_insert key v k m
    unfold insert
    split
    · by_cases h : key = k <;> simp [get, h]
    split
    · rename_i heq
      subst heq
      by_cases h : key = k <;> simp [get, h]
    · rename_i hne
      by_cases hk : k' = k
      · have hkey : key ≠ k := fun h => hne (h.trans hk.symm)
        simp [get, hk, hkey]
      · simp only [get] at ih ⊢
        rw [List.find?_cons_of_neg (by simpa using hk), List.find?_cons_of_neg (by simpa using hk), ih]

/-- The value of a key is that of its last entry. -/
theorem get_ofList (entries : List (κ × β)) (k : κ) : get (ofList entries) k = get entries.reverse k := by
  suffices h : ∀ (l m : List (κ × β)), get (l.foldl (fun m e => insert e.1 e.2 m) m) k = (get l.reverse k).or (get m k) by
    rw [ofList, h]
    simp [get]
  intro l
  induction l with
  | nil => intro m; simp [get]
  | cons e l ih =>
    intro m
    obtain ⟨key, v⟩ := e
    rw [List.foldl_cons, ih, get_insert, List.reverse_cons]
    simp only [get, List.find?_append]
    by_cases hk : key = k
    · cases l.reverse.find? (fun e => e.1 = k) <;> simp [hk]
    · cases l.reverse.find? (fun e => e.1 = k) <;> simp [hk]

/-! ## Order of the entries -/

/-- The keys are in increasing order, so each has one entry. -/
def Sorted (m : List (κ × β)) : Prop := m.Pairwise (fun a b => a.1 < b.1)

variable {key : κ} {v : β} {m : List (κ × β)} {e : κ × β} {m' : List (κ × β)}

theorem mem_insert (h : e ∈ insert key v m) : e = (key, v) ∨ e ∈ m := by
  induction m with
  | nil => exact Or.inl (List.mem_singleton.mp h)
  | cons f m ih =>
    unfold insert at h
    split at h
    · exact List.mem_cons.mp h
    · split at h
      · rcases List.mem_cons.mp h with h | h
        · exact Or.inl h
        · exact Or.inr (List.mem_cons_of_mem f h)
      · rcases List.mem_cons.mp h with h | h
        · exact Or.inr (h ▸ List.mem_cons_self)
        · exact (ih h).imp id (List.mem_cons_of_mem f)

theorem sorted_insert (key : κ) (v : β) (h : Sorted m) : Sorted (insert key v m) := by
  induction m with
  | nil => exact List.pairwise_singleton _ _
  | cons f m ih =>
    obtain ⟨hhead, htail⟩ := List.pairwise_cons.mp h
    unfold insert
    split
    · next hlt =>
      refine List.pairwise_cons.mpr ⟨?_, h⟩
      intro e he
      rcases List.mem_cons.mp he with rfl | he
      · exact hlt
      · exact hlt.trans (hhead e he)
    · next hge =>
      split
      · next heq =>
        refine List.pairwise_cons.mpr ⟨?_, htail⟩
        intro e he
        exact heq ▸ hhead e he
      · next hne =>
        refine List.pairwise_cons.mpr ⟨?_, ih htail⟩
        intro e he
        rcases mem_insert he with rfl | he
        · exact lt_of_le_of_ne (not_lt.mp hge) (Ne.symm hne)
        · exact hhead e he

theorem sorted_ofList (entries : List (κ × β)) : Sorted (ofList entries) := by
  suffices h : ∀ (l m : List (κ × β)), Sorted m → Sorted (l.foldl (fun m e => insert e.1 e.2 m) m) from
    h entries [] List.Pairwise.nil
  intro l
  induction l with
  | nil => exact fun _ h => h
  | cons e l ih => exact fun m h => ih _ (sorted_insert e.1 e.2 h)

theorem length_insert_le (key : κ) (v : β) (m : List (κ × β)) : (insert key v m).length ≤ m.length + 1 := by
  induction m with
  | nil => exact Nat.le_refl 1
  | cons f m ih =>
    unfold insert
    split
    · exact Nat.le_refl _
    · split
      · exact Nat.le_succ _
      · exact Nat.succ_le_succ ih

theorem length_ofList_le (entries : List (κ × β)) : (ofList entries).length ≤ entries.length := by
  suffices h : ∀ (l m : List (κ × β)), (l.foldl (fun m e => insert e.1 e.2 m) m).length ≤ l.length + m.length from h entries []
  intro l
  induction l with
  | nil => exact fun m => Nat.le_of_eq (Nat.zero_add _).symm
  | cons e l ih =>
    intro m
    have hstep := length_insert_le e.1 e.2 m
    have hrest := ih (insert e.1 e.2 m)
    rw [List.foldl_cons, List.length_cons]
    omega

theorem mem_of_mem_ofList {entries : List (κ × β)} (h : e ∈ ofList entries) : e ∈ entries := by
  suffices hall : ∀ (l m : List (κ × β)), e ∈ l.foldl (fun m e => insert e.1 e.2 m) m → e ∈ l ∨ e ∈ m by
    exact (hall entries [] h).resolve_right List.not_mem_nil
  intro l
  induction l with
  | nil => exact fun m hm => .inr hm
  | cons f l ih =>
    intro m hm
    rcases ih _ hm with hl | hm
    · exact .inl (List.mem_cons_of_mem _ hl)
    · rcases mem_insert hm with rfl | hm
      · exact .inl List.mem_cons_self
      · exact .inr hm

/-- A map with as many keys as are allowed, all of them allowed, has the allowed keys. -/
theorem keys_eq {keys : List κ} (hsorted : Sorted m) (hkeys : keys.Pairwise (· < ·))
    (hlength : m.length = keys.length) (hallowed : ∀ e ∈ m, e.1 ∈ keys) : m.map (·.1) = keys := by
  have hmap : (m.map (·.1)).Pairwise (· < ·) := List.pairwise_map.mpr hsorted
  have hsub : m.map (·.1) ⊆ keys := by
    intro k hk
    obtain ⟨e, he, rfl⟩ := List.mem_map.mp hk
    exact hallowed e he
  have hperm : (m.map (·.1)).Perm keys := by
    refine (List.subperm_of_subset (hmap.imp ne_of_lt) hsub).perm_of_length_le (Nat.le_of_eq ?_)
    rw [List.length_map, hlength]
  exact hperm.eq_of_pairwise (fun a b _ _ hab hba => absurd hab (lt_asymm hba)) hmap hkeys

theorem get_cons (k' : κ) (w : β) (m : List (κ × β)) (k : κ) : get ((k', w) :: m) k = if k' = k then some w else get m k := by
  by_cases h : k' = k <;> simp [get, h]

theorem mem_of_get (h : get m key = some v) : (key, v) ∈ m := by
  obtain ⟨e, hfind, rfl⟩ := Option.map_eq_some_iff.mp h
  have hkey : e.1 = key := by simpa using List.find?_some hfind
  exact hkey ▸ List.mem_of_find?_eq_some hfind

/-- A key that is new adds an entry. -/
theorem insert_perm (v : β) (h : get m key = none) : (insert key v m).Perm ((key, v) :: m) := by
  induction m with
  | nil => exact List.Perm.refl _
  | cons f m ih =>
    obtain ⟨k, w⟩ := f
    rw [get_cons] at h
    unfold insert
    split
    · exact List.Perm.refl _
    · split
      · next heq =>
        rw [if_pos heq.symm] at h
        cases h
      · next hne =>
        rw [if_neg fun h => hne h.symm] at h
        exact ((ih h).cons _).trans (List.Perm.swap _ _ _)

/-- Entries whose keys all differ are those of the map they build. -/
theorem foldl_insert_perm (l : List (κ × β)) : ∀ m : List (κ × β), (l.map Prod.fst).Nodup → (∀ e ∈ l, get m e.1 = none) →
    (l.foldl (fun m e => insert e.1 e.2 m) m).Perm (l ++ m) := by
  induction l with
  | nil => exact fun m _ _ => List.Perm.refl m
  | cons e l ih =>
    intro m hnodup hnew
    obtain ⟨hfirst, hnodup⟩ := List.nodup_cons.mp hnodup
    have hrest : ∀ f ∈ l, get (insert e.1 e.2 m) f.1 = none := by
      intro f hf
      have hne : e.1 ≠ f.1 := fun h => hfirst (h ▸ List.mem_map_of_mem hf)
      rw [get_insert, if_neg hne]
      exact hnew f (List.mem_cons_of_mem _ hf)
    refine (ih _ hnodup hrest).trans ?_
    refine ((insert_perm e.2 (hnew e List.mem_cons_self)).append_left l).trans ?_
    exact List.perm_middle

theorem ofList_perm {l : List (κ × β)} (h : (l.map Prod.fst).Nodup) : (ofList l).Perm l := by
  have hperm := foldl_insert_perm l [] h (fun _ _ => rfl)
  rwa [List.append_nil] at hperm

theorem Sorted.nodup_keys (h : Sorted m) : (m.map Prod.fst).Nodup :=
  List.pairwise_map.mpr (h.imp ne_of_lt)

theorem Sorted.get_of_mem (h : Sorted m) (hmem : (key, v) ∈ m) : get m key = some v := by
  induction m with
  | nil => cases hmem
  | cons e m ih =>
    obtain ⟨hfirst, hrest⟩ := List.pairwise_cons.mp h
    obtain ⟨k, w⟩ := e
    rw [get_cons]
    rcases List.mem_cons.mp hmem with heq | hmem
    · cases heq
      rw [if_pos rfl]
    · rw [if_neg (ne_of_lt (hfirst _ hmem)), ih hrest hmem]

/-- Maps with the same entries are the same. -/
theorem Sorted.eq_of_perm (h : Sorted m) (h' : Sorted m') (hperm : m.Perm m') : m = m' :=
  hperm.eq_of_pairwise (fun _ _ _ _ hab hba => absurd hab (lt_asymm hba)) h h'

theorem Sorted.mem_iff_get (h : Sorted m) : (key, v) ∈ m ↔ get m key = some v :=
  ⟨h.get_of_mem, mem_of_get⟩

/-- Maps that give every key the same value are the same. -/
theorem Sorted.ext (h : Sorted m) (h' : Sorted m') (heq : ∀ k, get m k = get m' k) : m = m' := by
  have hnodup : ∀ {l : List (κ × β)}, Sorted l → l.Nodup := fun hl => hl.imp fun hlt heq => (heq ▸ hlt).ne rfl
  refine h.eq_of_perm h' ((List.perm_ext_iff_of_nodup (hnodup h) (hnodup h')).mpr ?_)
  rintro ⟨k, v⟩
  rw [h.mem_iff_get, h'.mem_iff_get, heq]

theorem get_eq_none_iff {k : κ} : get m k = none ↔ k ∉ m.map Prod.fst := by
  rw [get, Option.map_eq_none_iff, List.find?_eq_none, List.mem_map]
  constructor
  · rintro h ⟨e, he, rfl⟩
    exact h e he (decide_eq_true rfl)
  · rintro h e he hk
    exact h ⟨e, he, of_decide_eq_true hk⟩

/-- What a new entry does not satisfy keeps its entries. -/
theorem filter_insert_of_neg {p : κ × β → Bool} (h : get m key = none)
    (hp : p (key, v) = false) : (insert key v m).filter p = m.filter p := by
  induction m with
  | nil => simp [insert, hp]
  | cons f m ih =>
    obtain ⟨k, w⟩ := f
    rw [get_cons] at h
    unfold insert
    split
    · rw [List.filter_cons_of_neg (by rw [hp]; exact Bool.false_ne_true)]
    · split
      · next heq =>
        rw [if_pos heq.symm] at h
        cases h
      · next hne =>
        rw [if_neg fun h => hne h.symm] at h
        rw [List.filter_cons, List.filter_cons, ih h]

/-- A key has one entry. -/
theorem length_le_one (key : κ) (hsorted : Sorted m) (h : ∀ e ∈ m, e.1 = key) : m.length ≤ 1 := by
  match m with
  | [] => exact Nat.zero_le 1
  | [_] => exact Nat.le_refl 1
  | a :: b :: rest =>
    have hlt := (List.pairwise_cons.mp hsorted).1 b List.mem_cons_self
    rw [h a List.mem_cons_self, h b (List.mem_cons_of_mem _ List.mem_cons_self)] at hlt
    exact absurd hlt (lt_irrefl _)

/-- The map without a key. -/
def erase (m : List (κ × β)) (k : κ) : List (κ × β) := m.filter (fun e => e.1 ≠ k)

theorem get_erase (m : List (κ × β)) (key k : κ) : get (erase m key) k = if key = k then none else get m k := by
  unfold get erase
  rw [List.find?_filter]
  by_cases h : key = k
  · rw [if_pos h, List.find?_eq_none.mpr, Option.map_none]
    intro e _ he
    simp only [ne_eq, decide_not, Bool.not_eq_true', decide_eq_false_iff_not, decide_eq_true_eq] at he
    exact he.1 (he.2.trans h.symm)
  · rw [if_neg h]
    congr 2
    funext e
    by_cases he : e.1 = k
    · have hne : k ≠ key := fun h' => h h'.symm
      simp [hne, he]
    · simp [he]

/-- Entries that are all the same build a map of one entry. -/
theorem ofList_replicate (key : κ) (v : β) (n : Nat) : ofList (List.replicate (n + 1) (key, v)) = [(key, v)] := by
  have hstep : ∀ n, (List.replicate n (key, v)).foldl (fun m e => insert e.1 e.2 m) [(key, v)] = [(key, v)] := by
    intro n
    induction n with
    | zero => rfl
    | succ n ih => simpa [List.replicate_succ, insert] using ih
  rw [ofList, List.replicate_succ, List.foldl_cons]
  exact hstep n

end OrdMap
