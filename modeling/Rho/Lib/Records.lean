import Mathlib.Data.List.Basic

/-!
# Records that end in a separator

A text of records, each followed by a separator that no record holds, is read back in one way, and so is what comes after them. Among
the records, a mark that none of the later records is tells them from the earlier ones.
-/

namespace Records

variable {α : Type} {sep : α}

/-- The records, each with its separator. -/
def encode (sep : α) (records : List (List α)) : List α := records.flatMap (· ++ [sep])

@[simp] theorem encode_nil : encode sep [] = [] := rfl

@[simp] theorem encode_cons (r : List α) (records : List (List α)) : encode sep (r :: records) = r ++ sep :: encode sep records := by
  simp [encode]

@[simp] theorem encode_append (a b : List (List α)) : encode sep (a ++ b) = encode sep a ++ encode sep b := List.flatMap_append

/-- No record holds the separator. -/
def Free (sep : α) (records : List (List α)) : Prop := ∀ r ∈ records, sep ∉ r

instance [DecidableEq α] (records : List (List α)) : Decidable (Free sep records) := inferInstanceAs (Decidable (∀ r ∈ records, _))

theorem free_append {a b : List (List α)} : Free sep (a ++ b) ↔ Free sep a ∧ Free sep b := by
  simp [Free, or_imp, forall_and]

theorem free_cons {r : List α} {records : List (List α)} : Free sep (r :: records) ↔ sep ∉ r ∧ Free sep records := by
  simp [Free]

/-- What comes before the first separator. -/
theorem before_sep_inj {x y s t : List α} (hx : sep ∉ x) (hy : sep ∉ y) (h : x ++ sep :: s = y ++ sep :: t) : x = y ∧ s = t := by
  induction x generalizing y with
  | nil =>
    cases y with
    | nil => exact ⟨rfl, (List.cons.inj h).2⟩
    | cons c y => exact absurd ((List.cons.inj h).1 ▸ List.mem_cons_self) hy
  | cons c x ih =>
    cases y with
    | nil => exact absurd ((List.cons.inj h).1 ▸ List.mem_cons_self) hx
    | cons c' y =>
      obtain ⟨hhead, htail⟩ := List.cons.inj h
      obtain ⟨hxy, hst⟩ := ih (fun hmem => hx (List.mem_cons_of_mem _ hmem)) (fun hmem => hy (List.mem_cons_of_mem _ hmem)) htail
      exact ⟨by rw [hhead, hxy], hst⟩

theorem encode_append_inj {a b : List (List α)} {x y : List α} (ha : Free sep a) (hb : Free sep b) (hx : sep ∉ x) (hy : sep ∉ y)
    (h : encode sep a ++ x = encode sep b ++ y) : a = b ∧ x = y := by
  induction a generalizing b with
  | nil =>
    cases b with
    | nil => exact ⟨rfl, h⟩
    | cons r b =>
      rw [encode_nil, List.nil_append] at h
      exact absurd (h ▸ (by simp) : sep ∈ x) hx
  | cons r a ih =>
    obtain ⟨hr, ha⟩ := free_cons.mp ha
    cases b with
    | nil =>
      rw [encode_nil, List.nil_append] at h
      exact absurd (h ▸ (by simp) : sep ∈ y) hy
    | cons r' b =>
      obtain ⟨hr', hb⟩ := free_cons.mp hb
      simp only [encode_cons, List.append_assoc, List.cons_append] at h
      obtain ⟨hrecord, hrest⟩ := before_sep_inj hr hr' h
      obtain ⟨hrecords, hxy⟩ := ih ha hb hrest
      exact ⟨by rw [hrecord, hrecords], hxy⟩

theorem encode_inj {a b : List (List α)} (ha : Free sep a) (hb : Free sep b) (h : encode sep a = encode sep b) : a = b :=
  (encode_append_inj (x := []) (y := []) ha hb List.not_mem_nil List.not_mem_nil (by rw [h])).1

/-- What comes after the last mark. -/
theorem after_mark_inj {mark : List α} {a b c d : List (List α)} (hc : mark ∉ c) (hd : mark ∉ d)
    (h : a ++ mark :: c = b ++ mark :: d) : a = b ∧ c = d := by
  have hreverse : c.reverse ++ mark :: a.reverse = d.reverse ++ mark :: b.reverse := by
    simpa using congrArg List.reverse h
  have hc' : mark ∉ c.reverse := fun hmem => hc (List.mem_reverse.mp hmem)
  have hd' : mark ∉ d.reverse := fun hmem => hd (List.mem_reverse.mp hmem)
  obtain ⟨hcd, hab⟩ := before_sep_inj hc' hd' hreverse
  exact ⟨List.reverse_injective hab, List.reverse_injective hcd⟩

/-- Two marks, one after the other. -/
theorem between_marks_inj {m₁ m₂ : List α} {a b c d e f : List (List α)} (hc : m₁ ∉ c) (hd : m₁ ∉ d) (he : m₂ ∉ e) (hf : m₂ ∉ f)
    (h : (a ++ m₁ :: c) ++ m₂ :: e = (b ++ m₁ :: d) ++ m₂ :: f) : c = d ∧ e = f := by
  obtain ⟨hfront, hef⟩ := after_mark_inj he hf h
  exact ⟨(after_mark_inj hc hd hfront).2, hef⟩

end Records
