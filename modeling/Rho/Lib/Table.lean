import Mathlib.Data.List.Nodup
import Mathlib.Tactic.Common

/-!
# Tables with a primary key

The rows of a database table in the order of their insertion; no two rows have the same key. Statements select their rows by a
condition and report how many they changed.
-/

/-- The rows of a table whose key is `key`. -/
structure Table {α κ : Type} (key : α → κ) where
  rows : List α
  nodup : (rows.map key).Nodup

namespace Table

variable {α κ : Type} [DecidableEq κ] {key : α → κ}

def empty (key : α → κ) : Table key := ⟨[], List.nodup_nil⟩

/-- The row with a key. -/
def get (t : Table key) (k : κ) : Option α := t.rows.find? (fun r => key r = k)

/-- The table with a further row; nothing when the key is taken. -/
def insert (t : Table key) (row : α) : Option (Table key) :=
  if h : key row ∈ t.rows.map key then none
  else some ⟨t.rows ++ [row], by
    rw [List.map_append, List.nodup_append]
    refine ⟨t.nodup, List.nodup_singleton _, ?_⟩
    intro a ha b hb hab
    rw [List.map_cons, List.map_nil, List.mem_singleton] at hb
    exact h (hb ▸ hab ▸ ha)⟩

omit [DecidableEq κ] in
theorem map_key_update (rows : List α) (p : α → Bool) (f : α → α) (hf : ∀ r, key (f r) = key r) :
    (rows.map (fun r => if p r then f r else r)).map key = rows.map key := by
  rw [List.map_map]
  refine List.map_congr_left ?_
  intro r _
  simp only [Function.comp_apply]
  split
  · exact hf r
  · rfl

/-- The table with the rows that satisfy a condition changed, their keys apart. -/
def update (t : Table key) (p : α → Bool) (f : α → α) (hf : ∀ r, key (f r) = key r := by intro _; rfl) : Table key :=
  ⟨t.rows.map (fun r => if p r then f r else r), by rw [map_key_update _ _ _ hf]; exact t.nodup⟩

/-- How many rows a statement with this condition changes. -/
def changed (t : Table key) (p : α → Bool) : Nat := t.rows.countP p

/-- The table without the rows that satisfy a condition. -/
def delete (t : Table key) (p : α → Bool) : Table key :=
  ⟨t.rows.filter (fun r => !p r), t.nodup.sublist (List.filter_sublist.map key)⟩

variable {row r : α} {k : κ} {f : α → α}

@[simp] theorem get_empty (k : κ) : (empty key).get k = none := rfl

theorem get_insert {t t' : Table key} (h : t.insert row = some t') (k : κ) :
    t'.get k = if key row = k then some row else t.get k := by
  unfold insert at h
  split at h
  · cases h
  · rename_i hfresh
    cases h
    rw [get, get, List.find?_append]
    by_cases hk : key row = k
    · have hnone : t.rows.find? (fun r => key r = k) = none := by
        rw [List.find?_eq_none]
        intro r hr hrk
        exact hfresh (List.mem_map.mpr ⟨r, hr, by rw [of_decide_eq_true hrk, hk]⟩)
      simp [hnone, hk]
    · simp [hk]

theorem rows_insert {t t' : Table key} (h : t.insert row = some t') : t'.rows = t.rows ++ [row] := by
  unfold insert at h
  split at h
  · cases h
  · cases h
    rfl

/-- Only a key that is not taken can be inserted. -/
theorem get_of_insert {t t' : Table key} (h : t.insert row = some t') : t.get (key row) = none := by
  unfold insert at h
  split at h
  · cases h
  · rename_i hfresh
    refine List.find?_eq_none.mpr ?_
    intro r hr hkey
    exact hfresh (List.mem_map.mpr ⟨r, hr, of_decide_eq_true hkey⟩)

/-- Insertion leaves the rows that are there. -/
theorem insert_eq_none_iff {t : Table key} : t.insert row = none ↔ ∃ r, t.get (key row) = some r := by
  unfold insert get
  constructor
  · intro h
    split at h
    · next hmem =>
      obtain ⟨r, hr, hkey⟩ := List.mem_map.mp hmem
      exact Option.isSome_iff_exists.mp (List.find?_isSome.mpr ⟨r, hr, decide_eq_true hkey⟩)
    · cases h
  · rintro ⟨r, hr⟩
    have hkey : key r = key row := by simpa using List.find?_some hr
    rw [dif_pos (List.mem_map.mpr ⟨r, List.mem_of_find?_eq_some hr, hkey⟩)]

theorem get_insert_of_get {t t' : Table key} (h : t.insert row = some t') (hget : t.get k = some r) : t'.get k = some r := by
  rw [get_insert h, if_neg, hget]
  intro heq
  have hnone := get_of_insert h
  rw [heq, hget] at hnone
  cases hnone

theorem get_update (t : Table key) (p : α → Bool) (f : α → α) (hf : ∀ r, key (f r) = key r) (k : κ) :
    (t.update p f hf).get k = (t.get k).map (fun r => if p r then f r else r) := by
  have hkey : ∀ r, key (if p r then f r else r) = key r := by
    intro r
    split
    · exact hf r
    · rfl
  unfold get update
  rw [List.find?_map]
  congr 2
  funext r
  simp only [Function.comp_apply, hkey]

/-- A row that is not selected stays as it is. -/
theorem get_update_of_not {t : Table key} {p : α → Bool} (hf : ∀ r, key (f r) = key r)
    (hget : t.get k = some r) (hp : p r = false) : (t.update p f hf).get k = some r := by
  rw [get_update, hget, Option.map_some, hp]
  rfl

theorem get_update_of_pos {t : Table key} {p : α → Bool} (hf : ∀ r, key (f r) = key r)
    (hget : t.get k = some r) (hp : p r = true) : (t.update p f hf).get k = some (f r) := by
  rw [get_update, hget, Option.map_some, hp]
  rfl

theorem key_of_get {t : Table key} (h : t.get k = some r) : key r = k := by
  have hfound := List.find?_some (p := fun r => decide (key r = k)) h
  exact of_decide_eq_true hfound

/-- A statement that selects one key changes the row with that key. -/
theorem get_update_key (t : Table key) (k : κ) (f : α → α) (hf : ∀ r, key (f r) = key r) (k' : κ) :
    (t.update (fun r => key r = k) f hf).get k' = if k' = k then (t.get k').map f else t.get k' := by
  rw [get_update]
  cases hget : t.get k' with
  | none => simp
  | some r =>
    have hkey := key_of_get hget
    by_cases hk : k' = k
    · simp [hkey, hk]
    · simp [hkey, hk]

theorem mem_of_get {t : Table key} (h : t.get k = some r) : r ∈ t.rows := List.mem_of_find?_eq_some h

/-- A row of the table is found by its key. -/
theorem get_of_mem {t : Table key} (h : r ∈ t.rows) : t.get (key r) = some r := by
  cases hget : t.get (key r) with
  | none => exact absurd (List.find?_eq_none.mp hget r h) (by simp)
  | some r' => rw [List.inj_on_of_nodup_map t.nodup h (mem_of_get hget) (key_of_get hget).symm]

/-- What every row that can be found has can be looked up row by row. -/
instance decidableForallGet (t : Table key) (P : κ → α → Prop) [∀ k r, Decidable (P k r)] :
    Decidable (∀ k r, t.get k = some r → P k r) :=
  decidable_of_iff (∀ r ∈ t.rows, P (key r) r)
    ⟨fun h _ r hget => key_of_get hget ▸ h r (mem_of_get hget), fun h r hr => h _ r (get_of_mem hr)⟩

theorem get_delete (t : Table key) (p : α → Bool) (k : κ) : (t.delete p).get k = (t.get k).filter (fun r => !p r) := by
  cases hget : t.get k with
  | none =>
    have hnone := List.find?_eq_none.mp hget
    refine List.find?_eq_none.mpr ?_
    intro r hr
    exact hnone r (List.mem_of_mem_filter hr)
  | some row =>
    have hrow := mem_of_get hget
    cases hp : p row with
    | false =>
      have hmem : row ∈ (t.delete p).rows := List.mem_filter.mpr ⟨hrow, by simp [hp]⟩
      rw [← key_of_get hget, get_of_mem hmem, Option.filter_some, hp]
      rfl
    | true =>
      rw [Option.filter_some, hp]
      refine List.find?_eq_none.mpr ?_
      intro r hr hkey
      obtain ⟨hr, hnot⟩ := List.mem_filter.mp hr
      have heq : r = row := List.inj_on_of_nodup_map t.nodup hr hrow ((of_decide_eq_true hkey).trans (key_of_get hget).symm)
      rw [heq, hp] at hnot
      cases hnot

/-- A statement that deletes one key leaves the others. -/
theorem get_delete_key (t : Table key) (k : κ) (k' : κ) :
    (t.delete (fun r => key r = k)).get k' = if k' = k then none else t.get k' := by
  rw [get_delete]
  cases hget : t.get k' with
  | none => simp
  | some r =>
    have hkey := key_of_get hget
    by_cases hk : k' = k
    · simp [hkey, hk]
    · simp [hkey, hk]

/-- A statement that selects rows of one key changes one row exactly when the row with that key is selected. -/
theorem changed_eq_one_iff (t : Table key) (p : α → Bool) (k : κ) (hp : ∀ r, p r = true → key r = k) :
    t.changed p = 1 ↔ ∃ r, t.get k = some r ∧ p r = true := by
  have hle : t.changed p ≤ 1 := by
    have hcount : t.changed p ≤ (t.rows.map key).count k := by
      rw [changed, List.count, List.countP_map]
      refine List.countP_mono_left ?_
      intro r _ hr
      simp [hp r hr]
    exact Nat.le_trans hcount (List.nodup_iff_count_le_one.mp t.nodup k)
  constructor
  · intro h
    obtain ⟨r, hr, hpr⟩ := List.countP_pos_iff.mp (show 0 < t.rows.countP p by rw [← changed, h]; omega)
    have hget := get_of_mem hr
    rw [hp r hpr] at hget
    exact ⟨r, hget, hpr⟩
  · intro h
    obtain ⟨r, hget, hpr⟩ := h
    have hpos : 0 < t.changed p := List.countP_pos_iff.mpr ⟨r, mem_of_get hget, hpr⟩
    omega

/-- The one table differs from the other in one row, which it has. -/
def Sets (t t' : Table key) (row : α) : Prop := ∀ k, t'.get k = if k = key row then some row else t.get k

theorem sets_insert {t t' : Table key} (h : t.insert row = some t') : t.Sets t' row := by
  intro k
  rw [get_insert h]
  by_cases hk : key row = k
  · rw [if_pos hk, if_pos hk.symm]
  · rw [if_neg hk, if_neg (Ne.symm hk)]

/-- A statement that selects the row with a key and no other sets that row. -/
theorem sets_update {t : Table key} {p : α → Bool} (hf : ∀ r, key (f r) = key r)
    (hp : ∀ r, p r = true → key r = k) (hget : t.get k = some r) (hr : p r = true) : t.Sets (t.update p f hf) (f r) := by
  intro k'
  rw [hf, key_of_get hget]
  by_cases hk : k' = k
  · rw [if_pos hk, hk]
    exact get_update_of_pos hf hget hr
  · rw [if_neg hk]
    cases hget' : t.get k' with
    | none => rw [get_update, hget', Option.map_none]
    | some r' =>
      refine get_update_of_not hf hget' ?_
      rw [← Bool.not_eq_true]
      intro hsel
      exact hk ((key_of_get hget').symm.trans (hp r' hsel))

/-! ## Rows that are closed one after the other -/

section Swept

variable {isOpen p : α → Bool} {ids ids' : List κ} {t t' t'' : Table key}

/-- The rows that are open are those that were, without the ones that have these keys. -/
def Swept (isOpen : α → Bool) (ids : List κ) (t t' : Table key) : Prop :=
  t'.rows.filter isOpen = (t.rows.filter isOpen).filter (fun r => decide (key r ∉ ids))

theorem Swept.refl (isOpen : α → Bool) (t : Table key) : Swept isOpen [] t t := by
  unfold Swept
  symm
  exact List.filter_eq_self.mpr fun r _ => decide_eq_true List.not_mem_nil

theorem Swept.trans (h : Swept isOpen ids t t') (h' : Swept isOpen ids' t' t'') : Swept isOpen (ids ++ ids') t t'' := by
  unfold Swept at *
  rw [h', h, List.filter_filter]
  refine List.filter_congr fun r _ => ?_
  rw [Bool.eq_iff_iff, Bool.and_eq_true, decide_eq_true_iff, decide_eq_true_iff, decide_eq_true_iff, List.mem_append, not_or]
  exact and_comm

/-- A row that is closed already. -/
theorem swept_of_closed {k : κ} (h : ∀ r, t.get k = some r → isOpen r = false) : Swept isOpen [k] t t := by
  unfold Swept
  symm
  refine List.filter_eq_self.mpr fun r hr => ?_
  obtain ⟨hmem, hopen⟩ := List.mem_filter.mp hr
  refine decide_eq_true fun hk => ?_
  rw [h r (List.mem_singleton.mp hk ▸ get_of_mem hmem)] at hopen
  cases hopen

/-- A statement that closes the open rows with a key. -/
theorem swept_update {q : α → Bool} {f : α → α} (hf : ∀ r, key (f r) = key r) {k : κ} (hq : ∀ r ∈ t.rows, q r = true → key r = k)
    (hall : ∀ r ∈ t.rows, isOpen r = true → key r = k → q r = true) (hclosed : ∀ r, isOpen (f r) = false) :
    Swept isOpen [k] t (t.update q f hf) := by
  change (t.rows.map (fun r => if q r then f r else r)).filter isOpen = _
  generalize t.rows = rows at hq hall
  induction rows with
  | nil => rfl
  | cons r rows ih =>
    have hrest := ih (fun r hr => hq r (List.mem_cons_of_mem _ hr)) (fun r hr => hall r (List.mem_cons_of_mem _ hr))
    rw [List.map_cons]
    cases hsel : q r with
    | true =>
      have hkey := hq r List.mem_cons_self hsel
      rw [if_pos rfl, List.filter_cons_of_neg (by rw [hclosed]; exact Bool.false_ne_true), hrest]
      cases hopen : isOpen r with
      | false => rw [List.filter_cons_of_neg (by rw [hopen]; exact Bool.false_ne_true)]
      | true =>
        rw [List.filter_cons_of_pos hopen, List.filter_cons_of_neg]
        rw [decide_eq_true_iff, not_not]
        exact List.mem_singleton.mpr hkey
    | false =>
      rw [if_neg Bool.false_ne_true]
      cases hopen : isOpen r with
      | false =>
        have hnot : ¬ isOpen r = true := by rw [hopen]; exact Bool.false_ne_true
        rw [List.filter_cons_of_neg hnot, List.filter_cons_of_neg hnot, hrest]
      | true =>
        have hkey : decide (key r ∉ [k]) = true := by
          refine decide_eq_true fun hk => ?_
          rw [hall r List.mem_cons_self hopen (List.mem_singleton.mp hk)] at hsel
          cases hsel
        rw [List.filter_cons_of_pos hopen, List.filter_cons_of_pos hopen, List.filter_cons, if_pos hkey, hrest]

/-- No row of a kind is left open exactly when the keys of all that were open have been swept. -/
theorem Swept.clear_iff (h : Swept isOpen ids t t') :
    (∀ r ∈ t'.rows, isOpen r = true → p r = false) ↔ ∀ r ∈ t.rows, isOpen r = true → p r = true → key r ∈ ids := by
  have hmem : ∀ r, (r ∈ t'.rows ∧ isOpen r = true) ↔ ((r ∈ t.rows ∧ isOpen r = true) ∧ key r ∉ ids) := by
    intro r
    rw [← List.mem_filter, ← List.mem_filter, h, List.mem_filter, decide_eq_true_iff]
  constructor
  · intro hclear r hr hopen hp
    by_contra hnot
    obtain ⟨hr', -⟩ := (hmem r).mpr ⟨⟨hr, hopen⟩, hnot⟩
    rw [hclear r hr' hopen] at hp
    cases hp
  · intro hall r hr hopen
    obtain ⟨⟨hr, -⟩, hnot⟩ := (hmem r).mp ⟨hr, hopen⟩
    rw [← Bool.not_eq_true]
    exact fun hp => hnot (hall r hr hopen hp)

end Swept

end Table
