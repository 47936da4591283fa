import Mathlib.Tactic.Common

/-!
# Relative paths

A path is relative and normalised when it is some names joined by slashes, none of them empty, `.` or `..`.
-/

namespace RelativePath

/-- The path is these names, joined. -/
structure Normal (path : List Char) (names : List (List Char)) : Prop where
  joined : path = ['/'].intercalate names
  nonempty : names ≠ []
  proper : ∀ name ∈ names, name ≠ [] ∧ name ≠ ['.'] ∧ name ≠ ['.', '.'] ∧ '/' ∉ name

variable {path : List Char} {names : List (List Char)} {c : Char}

/-- No name holds what it was split at. -/
theorem not_mem_of_mem_splitOn {l : List Char} (h : l ∈ path.splitOn c) : c ∉ l := by
  induction path generalizing l with
  | nil =>
    cases List.mem_singleton.mp h
    exact List.not_mem_nil
  | cons x path ih =>
    rw [List.splitOn_cons_eq_if_modifyHead] at h
    split at h
    · rcases List.mem_cons.mp h with rfl | h
      · exact List.not_mem_nil
      · exact ih h
    · next hne =>
      obtain ⟨first, rest, hsplit⟩ := List.exists_cons_of_ne_nil (List.splitOn_ne_nil c path)
      rw [hsplit, List.modifyHead_cons] at h
      rcases List.mem_cons.mp h with rfl | h
      · intro hmem
        rcases List.mem_cons.mp hmem with rfl | hmem
        · exact hne (beq_self_eq_true _)
        · exact ih (by rw [hsplit]; exact List.mem_cons_self) hmem
      · exact ih (by rw [hsplit]; exact List.mem_cons_of_mem _ h)

/-- The names of a path are what it splits into. -/
theorem Normal.splitOn (h : Normal path names) : path.splitOn '/' = names := by
  rw [h.joined]
  exact List.splitOn_intercalate '/' (fun name hname => (h.proper name hname).2.2.2) h.nonempty

/-- A path is normal when none of what it splits into is empty, `.` or `..`. -/
theorem normal_iff_splitOn :
    (∃ names, Normal path names) ↔ ∀ name ∈ path.splitOn '/', name ≠ [] ∧ name ≠ ['.'] ∧ name ≠ ['.', '.'] := by
  constructor
  · rintro ⟨names, hnormal⟩ name hname
    rw [hnormal.splitOn] at hname
    obtain ⟨hempty, hdot, hparent, -⟩ := hnormal.proper name hname
    exact ⟨hempty, hdot, hparent⟩
  · intro h
    refine ⟨path.splitOn '/', (List.intercalate_splitOn '/').symm, List.splitOn_ne_nil '/' path, ?_⟩
    intro name hname
    obtain ⟨hempty, hdot, hparent⟩ := h name hname
    exact ⟨hempty, hdot, hparent, not_mem_of_mem_splitOn hname⟩

/-- A normal path does not begin at the root. -/
theorem Normal.relative (h : Normal path names) : path.head? ≠ some '/' := by
  obtain ⟨name, rest, rfl⟩ := List.exists_cons_of_ne_nil h.nonempty
  obtain ⟨hempty, -, -, hslash⟩ := h.proper name List.mem_cons_self
  obtain ⟨c, chars, rfl⟩ := List.exists_cons_of_ne_nil hempty
  have hc : c ≠ '/' := fun hc => hslash (hc ▸ List.mem_cons_self)
  rw [h.joined]
  cases rest with
  | nil => simpa [List.intercalate] using hc
  | cons next rest => simpa [List.intercalate] using hc

theorem Normal.ne_nil (h : Normal path names) : path ≠ [] := by
  rintro rfl
  have hsplit := h.splitOn
  rw [List.splitOn_nil] at hsplit
  exact (h.proper [] (hsplit ▸ List.mem_singleton_self _)).1 rfl

end RelativePath
