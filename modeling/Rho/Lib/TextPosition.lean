import Mathlib.Algebra.GroupWithZero.Nat
import Mathlib.Data.List.Basic
import Mathlib.Data.List.Induction
import Mathlib.Tactic.Common

/-!
# Positions in a text

A place of a text given by its line and its column, both counted from one. How wide a character counts is a parameter, so the same place
has a column for each way of counting. The rules say how the positions of a part are found in the whole, and that a position stands for
one place only.
-/

namespace TextPosition

structure Position where
  line : Nat
  column : Nat
  deriving DecidableEq, Repr

namespace Position

instance : LE Position := ⟨fun p q => p.line < q.line ∨ p.line = q.line ∧ p.column ≤ q.column⟩

theorem le_def {p q : Position} : p ≤ q ↔ p.line < q.line ∨ p.line = q.line ∧ p.column ≤ q.column := Iff.rfl

/-- A position that is counted from another one: only on its first line does the column go on. -/
def advance (base p : Position) : Position where
  line := base.line + (p.line - 1)
  column := if p.line = 1 then base.column + (p.column - 1) else p.column

theorem le_advance {base p : Position} (hp : 1 ≤ p.line) : base ≤ base.advance p := by
  rw [le_def, advance]
  by_cases hfirst : p.line = 1
  · simp only [hfirst, if_true]
    omega
  · simp only
    omega

theorem advance_mono {base p q : Position} (hp : 1 ≤ p.line) (h : p ≤ q) : base.advance p ≤ base.advance q := by
  rw [le_def] at h ⊢
  unfold advance
  rcases h with hlt | ⟨heq, hle⟩
  · simp only
    omega
  · simp only [heq]
    refine Or.inr ⟨trivial, ?_⟩
    split
    · omega
    · exact hle

theorem not_advance_le {base p q : Position} (hline : 1 ≤ p.line) (hcolumn : 1 ≤ p.column) (h : ¬ q ≤ p) :
    ¬ base.advance q ≤ base.advance p := by
  rw [le_def] at h ⊢
  unfold advance
  by_cases heq : q.line = p.line
  · simp only [heq]
    split
    · omega
    · omega
  · simp only
    omega

end Position

section

variable {α : Type*} (breaks : α → Bool) (width : α → Nat)

/-- The position behind a character. -/
def step (p : Position) (c : α) : Position := if breaks c then ⟨p.line + 1, 1⟩ else ⟨p.line, p.column + width c⟩

/-- The position behind a text. -/
def behind (t : List α) : Position := t.foldl (step breaks width) ⟨1, 1⟩

def lines (t : List α) : List (List α) := t.splitOnP breaks

/-- A part of a text, with what is before and behind it. -/
structure Selects (text : List α) (start stop : Position) (before selected after : List α) : Prop where
  text : text = before ++ selected ++ after
  start : behind breaks width before = start
  stop : behind breaks width (before ++ selected) = stop

variable {breaks width} {t u x y : List α} {c : α} {p q : Position}

/-! ## One text behind another -/

theorem behind_nil : behind breaks width ([] : List α) = ⟨1, 1⟩ := rfl

theorem behind_concat : behind breaks width (t ++ [c]) = step breaks width (behind breaks width t) c := List.foldl_concat _ _ _ _

variable (breaks width) in
/-- Lines and columns are counted from one. -/
theorem one_le_behind (t : List α) : 1 ≤ (behind breaks width t).line ∧ 1 ≤ (behind breaks width t).column := by
  induction t using List.reverseRecOn with
  | nil => exact ⟨Nat.le_refl _, Nat.le_refl _⟩
  | append_singleton t c ih =>
    rw [behind_concat, step]
    split
    · exact ⟨Nat.le_add_left _ _, Nat.le_refl _⟩
    · exact ⟨ih.1, Nat.le_add_right_of_le ih.2⟩

theorem step_advance (hline : 1 ≤ q.line) (hcolumn : 1 ≤ q.column) :
    step breaks width (p.advance q) c = p.advance (step breaks width q c) := by
  unfold step Position.advance
  split
  · have hne : q.line + 1 ≠ 1 := by omega
    simp only [if_neg hne, Position.mk.injEq, and_true]
    omega
  · simp only [Position.mk.injEq, true_and]
    split
    · omega
    · rfl

theorem behind_append : behind breaks width (t ++ u) = (behind breaks width t).advance (behind breaks width u) := by
  induction u using List.reverseRecOn with
  | nil =>
    have h := one_le_behind breaks width t
    rw [List.append_nil, behind_nil, Position.advance]
    simp
  | append_singleton u c ih =>
    have h := one_le_behind breaks width u
    rw [← List.append_assoc, behind_concat, behind_concat, ih, step_advance h.1 h.2]

/-! ## Order -/

variable (breaks) in
/-- Behind something there is further on than at the start. -/
theorem start_lt_behind (hwidth : ∀ c, 0 < width c) (hne : u ≠ []) :
    1 < (behind breaks width u).line ∨ (behind breaks width u).line = 1 ∧ 1 < (behind breaks width u).column := by
  obtain ⟨v, c, rfl⟩ := (List.eq_nil_or_concat' u).resolve_left hne
  have hv := one_le_behind breaks width v
  have hc := hwidth c
  rw [behind_concat, step]
  split
  · exact Or.inl (Nat.lt_add_of_pos_left hv.1)
  · simp only
    omega

theorem not_behind_append_le (hwidth : ∀ c, 0 < width c) (hne : u ≠ []) : ¬ behind breaks width (t ++ u) ≤ behind breaks width t := by
  have ht := one_le_behind breaks width t
  have hu := start_lt_behind breaks hwidth hne
  rw [behind_append, Position.le_def, Position.advance]
  rcases hu with hline | ⟨hline, hcolumn⟩
  · simp only
    omega
  · simp only [hline, if_true]
    omega

theorem behind_le_append (hwidth : ∀ c, 0 < width c) (t u : List α) : behind breaks width t ≤ behind breaks width (t ++ u) := by
  by_cases hne : u = []
  · subst hne
    rw [List.append_nil]
    exact Or.inr ⟨rfl, Nat.le_refl _⟩
  · have hu := start_lt_behind breaks hwidth hne
    rw [behind_append, Position.le_def, Position.advance]
    rcases hu with hline | ⟨hline, hcolumn⟩
    · simp only
      omega
    · simp only [hline, if_true]
      omega

/-- Of two places of a text the one with the lower position comes first. -/
theorem prefix_of_behind_le (hwidth : ∀ c, 0 < width c) (hx : x <+: t) (hy : y <+: t) (h : behind breaks width x ≤ behind breaks width y) :
    x <+: y := by
  rcases List.prefix_or_prefix_of_prefix hx hy with hprefix | ⟨u, rfl⟩
  · exact hprefix
  · by_cases hne : u = []
    · simp [hne]
    · exact absurd h (not_behind_append_le hwidth hne)

theorem le_of_eq (h : p = q) : p ≤ q := h ▸ Or.inr ⟨rfl, Nat.le_refl _⟩

/-- A position stands for one place. -/
theorem eq_of_behind_eq (hwidth : ∀ c, 0 < width c) (hx : x <+: t) (hy : y <+: t) (h : behind breaks width x = behind breaks width y) :
    x = y := by
  obtain ⟨u, rfl⟩ := prefix_of_behind_le hwidth hx hy (le_of_eq h)
  by_cases hne : u = []
  · rw [hne, List.append_nil]
  · exact absurd (le_of_eq h.symm) (not_behind_append_le hwidth hne)

/-! ## Lines -/

theorem behind_cons (c : α) (t : List α) : behind breaks width (c :: t) = (behind breaks width [c]).advance (behind breaks width t) :=
  behind_append (t := [c])

/-- A place within a line has the line's number and the width of what is before it on the line, however wide the characters count. -/
theorem exists_place {i k : Nat} {line : List α} (hline : (lines breaks t)[i]? = some line) (hk : k ≤ line.length) :
    ∃ x, x <+: t ∧ ∀ width : α → Nat, behind breaks width x = ⟨i + 1, ((line.take k).map width).sum + 1⟩ := by
  induction t generalizing i k line with
  | nil =>
    rcases i with _ | i
    · cases hline
      cases Nat.le_zero.mp hk
      exact ⟨[], List.prefix_refl _, fun _ => rfl⟩
    · cases hline
  | cons c t ih =>
    unfold lines at hline ih
    rw [List.splitOnP_cons_eq_if_modifyHead] at hline
    split at hline
    next hbreak =>
      rcases i with _ | i
      · cases hline
        cases Nat.le_zero.mp hk
        exact ⟨[], List.nil_prefix, fun _ => rfl⟩
      · obtain ⟨x, hx, hbehind⟩ := ih hline hk
        refine ⟨c :: x, List.cons_prefix_cons.mpr ⟨rfl, hx⟩, fun width => ?_⟩
        have hc : behind breaks width [c] = ⟨2, 1⟩ := by simp [behind, step, hbreak]
        rw [behind_cons, hbehind, hc, Position.advance]
        simp only [Position.mk.injEq]
        constructor
        · omega
        · split
          · omega
          · rfl
    next hbreak =>
      have hc : ∀ width : α → Nat, behind breaks width [c] = ⟨1, 1 + width c⟩ := by
        intro width
        simp [behind, step, hbreak]
      obtain ⟨first, rest, hsplit⟩ := List.exists_cons_of_ne_nil (List.splitOnP_ne_nil breaks t)
      rw [hsplit, List.modifyHead_cons] at hline
      rw [hsplit] at ih
      rcases i with _ | i
      · cases hline
        rcases k with _ | k
        · exact ⟨[], List.nil_prefix, fun _ => rfl⟩
        · obtain ⟨x, hx, hbehind⟩ := ih (i := 0) (k := k) rfl (Nat.le_of_succ_le_succ hk)
          refine ⟨c :: x, List.cons_prefix_cons.mpr ⟨rfl, hx⟩, fun width => ?_⟩
          rw [behind_cons, hbehind, hc, Position.advance]
          simp only [Nat.zero_add, if_true, List.take_succ_cons, List.map_cons, List.sum_cons, Position.mk.injEq, Nat.add_sub_cancel]
          exact ⟨trivial, by omega⟩
      · obtain ⟨x, hx, hbehind⟩ := ih (i := i + 1) hline hk
        refine ⟨c :: x, List.cons_prefix_cons.mpr ⟨rfl, hx⟩, fun width => ?_⟩
        rw [behind_cons, hbehind, hc, Position.advance]
        simp only [Position.mk.injEq]
        constructor
        · omega
        · rw [if_neg (by omega)]

/-! ## Selected parts -/

/-- What a part of a selected text selects of the whole. -/
theorem Selects.within {a b z : List α} (h : Selects breaks width t p q a u b) (htext : u = x ++ y ++ z) :
    Selects breaks width t (p.advance (behind breaks width x)) (p.advance (behind breaks width (x ++ y))) (a ++ x) y (z ++ b) where
  text := by rw [h.text, htext]; simp only [List.append_assoc]
  start := by rw [behind_append, h.start]
  stop := by rw [List.append_assoc, behind_append, h.start]

/-- Two positions select one part. -/
theorem Selects.unique (hwidth : ∀ c, 0 < width c) {before before' selected selected' after after' : List α}
    (h : Selects breaks width t p q before selected after) (h' : Selects breaks width t p q before' selected' after') :
    before = before' ∧ selected = selected' ∧ after = after' := by
  have hprefix : before <+: t := ⟨selected ++ after, by rw [← List.append_assoc, ← h.text]⟩
  have hprefix' : before' <+: t := ⟨selected' ++ after', by rw [← List.append_assoc, ← h'.text]⟩
  have hbefore : before = before' := eq_of_behind_eq hwidth hprefix hprefix' (h.start.trans h'.start.symm)
  subst hbefore
  have hboth : before ++ selected = before ++ selected' := eq_of_behind_eq hwidth ⟨after, h.text.symm⟩ ⟨after', h'.text.symm⟩
    (h.stop.trans h'.stop.symm)
  have hselected : selected = selected' := List.append_cancel_left hboth
  subst hselected
  exact ⟨rfl, rfl, List.append_cancel_left (h.text.symm.trans h'.text)⟩

end

end TextPosition
