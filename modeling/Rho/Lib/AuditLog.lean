import Rho.Lib.Table

/-!
# A log of the rows of a table

The rows of a table are opened once and closed once, and a log that only grows tells of both: one entry when a row is opened, a
second one when it is closed. `fresh` says of a row that it is open, `tells` of an entry that it tells of a row as the row is, and
`about` of an entry which key it is about.
-/

namespace AuditLog

variable {ρ ε κ σ : Type} (fresh : ρ → Bool) (tells : ε → ρ → Prop)

/-- The row under a key stays as it is, or there was none and it is open now. -/
def Opens (o o' : Option ρ) : Prop := o' = o ∨ (o = none ∧ ∃ r, o' = some r ∧ fresh r = true)

/-- The row under a key stays as it is, or it was open and is closed now. -/
def Closes (o o' : Option ρ) : Prop := o' = o ∨ ∃ r r', o = some r ∧ o' = some r' ∧ fresh r = true ∧ fresh r' = false

/-- The entries about a key are the history of its row. -/
def History : Option ρ → List ε → Prop
  | none, entries => entries = []
  | some r, entries => if fresh r then ∃ e, entries = [e] ∧ tells e r else ∃ e₀ e, entries = [e₀, e] ∧ tells e r

/-- The entries that are added about a key: one that tells of the row when its status has changed, and none otherwise. -/
def Audited (status : ρ → σ) (o o' : Option ρ) (added : List ε) : Prop :=
  (o'.map status = o.map status ∧ added = []) ∨
    (o'.map status ≠ o.map status ∧ ∃ r e, o' = some r ∧ added = [e] ∧ tells e r)

variable {fresh tells}

theorem Opens.refl (o : Option ρ) : Opens fresh o o := .inl rfl

theorem Opens.trans {o o' o'' : Option ρ} (h : Opens fresh o o') (h' : Opens fresh o' o'') : Opens fresh o o'' := by
  rcases h' with rfl | ⟨rfl, r, rfl, hr⟩
  · exact h
  · rcases h with h | ⟨-, r', hr', -⟩
    · exact .inr ⟨h.symm, r, rfl, hr⟩
    · cases hr'

theorem Closes.refl (o : Option ρ) : Closes fresh o o := .inl rfl

theorem Closes.trans {o o' o'' : Option ρ} (h : Closes fresh o o') (h' : Closes fresh o' o'') : Closes fresh o o'' := by
  rcases h' with rfl | ⟨r, r', rfl, rfl, hr, hr'⟩
  · exact h
  · rcases h with h | ⟨-, r₂, -, h₂, -, hended⟩
    · exact .inr ⟨r, r', h.symm, rfl, hr, hr'⟩
    · cases h₂
      rw [hr] at hended
      cases hended

/-- A closed row stays as it is. -/
theorem closed_stays {o o' : Option ρ} {r : ρ} (h : Opens fresh o o' ∨ Closes fresh o o') (ho : o = some r) (hr : fresh r = false) :
    o' = some r := by
  rcases h with (h | ⟨hnone, -⟩) | (h | ⟨r₁, r₂, h₁, -, hfresh, -⟩)
  · rw [h, ho]
  · rw [ho] at hnone
    cases hnone
  · rw [h, ho]
  · rw [ho] at h₁
    cases h₁
    rw [hr] at hfresh
    cases hfresh

/-- The histories of a row before and after tell how many entries were added about it. -/
theorem audited_of_histories {status : ρ → σ} (hfresh : ∀ r r', status r = status r' → fresh r = fresh r')
    {o o' : Option ρ} {entries added : List ε} (h : History fresh tells o entries) (h' : History fresh tells o' (entries ++ added))
    (move : Opens fresh o o' ∨ Closes fresh o o') : Audited tells status o o' added := by
  rcases move with (rfl | ⟨rfl, r, rfl, hr⟩) | (rfl | ⟨r, r', rfl, rfl, hr, hr'⟩)
  · refine .inl ⟨rfl, added_nil h h'⟩
  · simp only [History] at h
    subst h
    simp only [History, hr, if_true, List.nil_append] at h'
    obtain ⟨e, he, htells⟩ := h'
    exact .inr ⟨by simp, r, e, rfl, he, htells⟩
  · refine .inl ⟨rfl, added_nil h h'⟩
  · simp only [History, hr, if_true] at h
    obtain ⟨e₀, rfl, -⟩ := h
    simp only [History, hr', Bool.false_eq_true, if_false, List.cons_append, List.nil_append, List.cons.injEq] at h'
    obtain ⟨-, e, ⟨-, hadded⟩, htells⟩ := h'
    refine .inr ⟨?_, r', e, rfl, hadded, htells⟩
    intro hstatus
    have := hfresh r' r (Option.some.inj hstatus)
    rw [hr, hr'] at this
    cases this
where
  added_nil {o : Option ρ} {entries added : List ε} (h : History fresh tells o entries)
      (h' : History fresh tells o (entries ++ added)) : added = [] := by
    have hlength : (entries ++ added).length = entries.length := by
      cases o with
      | none =>
        simp only [History] at h h'
        rw [h', h]
      | some r =>
        simp only [History] at h h'
        split at h
        · next hr =>
          rw [if_pos hr] at h'
          obtain ⟨e, he, -⟩ := h
          obtain ⟨e', he', -⟩ := h'
          rw [he', he]
          rfl
        · next hr =>
          rw [if_neg hr] at h'
          obtain ⟨e₀, e, he, -⟩ := h
          obtain ⟨e₀', e', he', -⟩ := h'
          rw [he', he]
          rfl
    rw [List.length_append] at hlength
    exact List.eq_nil_of_length_eq_zero (by omega)

variable [DecidableEq κ] {key : ρ → κ} {about : κ → ε → Bool}

/-- The histories of all rows of a table. -/
def Histories (fresh : ρ → Bool) (tells : ε → ρ → Prop) (about : κ → ε → Bool) (t : Table key) (log : List ε) : Prop :=
  ∀ k, History fresh tells (t.get k) (log.filter (about k))

/-- An entry that is about no row leaves every history. -/
theorem Histories.skip {t : Table key} {log : List ε} {e : ε} (h : Histories fresh tells about t log) (habout : ∀ k, about k e = false) :
    Histories fresh tells about t (log ++ [e]) := by
  intro k
  rw [List.filter_append, List.filter_singleton, habout]
  simpa using h k

/-- A row that is opened or closed with an entry that tells of it. -/
theorem Histories.write {t t' : Table key} {log : List ε} {e : ε} {row : ρ} (h : Histories fresh tells about t log)
    (hsets : t.Sets t' row) (habout : ∀ k, about k e = true ↔ k = key row) (htells : tells e row)
    (hmove : (t.get (key row) = none ∧ fresh row = true) ∨ (∃ r, t.get (key row) = some r ∧ fresh r = true ∧ fresh row = false)) :
    Histories fresh tells about t' (log ++ [e]) := by
  intro k
  rw [List.filter_append, List.filter_singleton, hsets k]
  by_cases hk : k = key row
  · rw [if_pos hk, (habout k).mpr hk]
    have hbefore := h k
    rw [hk] at hbefore ⊢
    rcases hmove with ⟨hnone, hrow⟩ | ⟨r, hr, hopen, hrow⟩
    · rw [hnone] at hbefore
      simp only [History] at hbefore
      simp only [History, hrow, hbefore, if_true, List.nil_append]
      exact ⟨e, rfl, htells⟩
    · rw [hr] at hbefore
      simp only [History, hopen, if_true] at hbefore
      obtain ⟨e₀, he₀, -⟩ := hbefore
      simp only [History, hrow, he₀, Bool.false_eq_true, if_false, List.cons_append, List.nil_append]
      exact ⟨e₀, e, rfl, htells⟩
  · have hnot : about k e = false := by
      rw [← Bool.not_eq_true, habout k]
      exact hk
    rw [if_neg hk, hnot]
    simpa using h k

end AuditLog
