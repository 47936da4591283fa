import Mathlib.Tactic.Basic

/-!
# Computations that may fail

Inversion of `Except` computations that succeed: a bind, a fold and a loop succeed only through steps that succeed.
-/

namespace Fallible

variable {ε σ : Type}

variable {α β : Type} {x : Except ε α} {f : α → Except ε β} {b : β} {P : ε → Prop}

theorem ok_bind (a : α) (f : α → Except ε β) : (Except.ok a >>= f) = f a := rfl

/-- A bind succeeds through a first part and a rest that succeed. -/
theorem bind_eq_ok {α β : Type} {x : Except ε α} {f : α → Except ε β} {b : β} (h : x >>= f = .ok b) :
    ∃ a, x = .ok a ∧ f a = .ok b := by
  cases x with
  | error e => exact absurd h (by simp [bind, Except.bind])
  | ok a => exact ⟨a, rfl, h⟩

/-- A result that is mapped comes from a computation that succeeds. -/
theorem map_eq_ok {f : α → β} (h : x.map f = .ok b) : ∃ a, x = .ok a ∧ f a = b := by
  cases x with
  | error e => cases h
  | ok a =>
    cases h
    exact ⟨a, rfl, rfl⟩

/-- A guard that throws has not thrown when the whole succeeds. -/
theorem throw_bind_ne_ok {α β : Type} {e : ε} {f : α → Except ε β} {b : β} : (throw e >>= f : Except ε β) ≠ .ok b := by
  intro h
  obtain ⟨a, ha, -⟩ := bind_eq_ok h
  cases ha

/-- A fold that succeeds establishes what each of its steps carries from one state to the next. -/
theorem foldlM_invariant {f : σ → α → Except ε σ} (P : List α → σ → Prop)
    (step : ∀ done a s s', P done s → f s a = .ok s' → P (done ++ [a]) s') :
    ∀ (l done : List α) (s s' : σ), P done s → l.foldlM f s = .ok s' → P (done ++ l) s' := by
  intro l
  induction l with
  | nil =>
    intro done s s' hP h
    rw [List.foldlM_nil] at h
    cases h
    rw [List.append_nil]
    exact hP
  | cons a l ih =>
    intro done s s' hP h
    rw [List.foldlM_cons] at h
    obtain ⟨t, ht, hrest⟩ := bind_eq_ok h
    have hall := ih (done ++ [a]) t s' (step done a s t hP ht) hrest
    rwa [List.append_assoc, List.singleton_append] at hall

/-- A fold succeeds when each step does and leaves what the rest needs. -/
theorem foldlM_ok {f : σ → α → Except ε σ} {P : List α → σ → Prop}
    (step : ∀ a rest s, P (a :: rest) s → ∃ s', f s a = .ok s' ∧ P rest s') :
    ∀ (l : List α) (s : σ), P l s → ∃ s', l.foldlM f s = .ok s' ∧ P [] s' := by
  intro l
  induction l with
  | nil =>
    intro s hP
    exact ⟨s, rfl, hP⟩
  | cons a l ih =>
    intro s hP
    obtain ⟨t, ht, hrest⟩ := step a l s hP
    rw [List.foldlM_cons, ht]
    exact ih t hrest

/-- A loop that succeeds has succeeded on every element. -/
theorem forM_mem {f : α → Except ε Unit} : ∀ l : List α, l.forM f = .ok () → ∀ a ∈ l, f a = .ok ()
  | [], _, a, ha => by simp at ha
  | b :: l, h, a, ha => by
    have h' : (f b >>= fun _ => l.forM f) = .ok () := h
    obtain ⟨⟨⟩, hb, hl⟩ := bind_eq_ok h'
    rcases List.mem_cons.mp ha with rfl | ha
    · exact hb
    · exact forM_mem l hl a ha

/-- A loop whose elements all succeed does. -/
theorem forM_ok {f : α → Except ε Unit} : ∀ l : List α, (∀ a ∈ l, f a = .ok ()) → l.forM f = .ok ()
  | [], _ => rfl
  | a :: l, h => by
    change (f a >>= fun _ => l.forM f) = .ok ()
    rw [h a List.mem_cons_self]
    exact forM_ok l fun b hb => h b (List.mem_cons_of_mem _ hb)

/-- A fold that succeeds has succeeded on every element. -/
theorem foldlM_mem {f : σ → α → Except ε σ} : ∀ (l : List α) (s s' : σ), l.foldlM f s = .ok s' → ∀ a ∈ l, ∃ t t', f t a = .ok t'
  | [], _, _, _, a, ha => by simp at ha
  | b :: l, s, s', h, a, ha => by
    rw [List.foldlM_cons] at h
    obtain ⟨t, ht, hrest⟩ := bind_eq_ok h
    rcases List.mem_cons.mp ha with rfl | ha
    · exact ⟨s, t, ht⟩
    · exact foldlM_mem l t s' hrest a ha

/-- A bind fails in its first part or, after that has succeeded, in the rest. -/
theorem bind_eq_error {α β : Type} {x : Except ε α} {f : α → Except ε β} {e : ε} (h : x >>= f = .error e) :
    x = .error e ∨ ∃ a, x = .ok a ∧ f a = .error e := by
  cases x with
  | error e' =>
    cases h
    exact Or.inl rfl
  | ok a => exact Or.inr ⟨a, rfl, h⟩

/-- A fold fails with an error of one of its steps. -/
theorem foldlM_error_mem {f : σ → α → Except ε σ} :
    ∀ (l : List α), (∀ s, ∀ a ∈ l, ∀ e, f s a = .error e → P e) → ∀ (s : σ) (e : ε), l.foldlM f s = .error e → P e := by
  intro l
  induction l with
  | nil =>
    intro _ s e h
    cases h
  | cons a l ih =>
    intro step s e h
    rw [List.foldlM_cons] at h
    rcases bind_eq_error h with hf | ⟨s', -, hrest⟩
    · exact step s a List.mem_cons_self e hf
    · exact ih (fun s b hb => step s b (List.mem_cons_of_mem _ hb)) s' e hrest

theorem foldlM_error {f : σ → α → Except ε σ} (step : ∀ s a e, f s a = .error e → P e)
    (l : List α) (s : σ) (e : ε) (h : l.foldlM f s = .error e) : P e :=
  foldlM_error_mem l (fun s a _ => step s a) s e h

/-- A loop fails with an error of one of its elements. -/
theorem forM_error {f : α → Except ε Unit} : ∀ (l : List α) (e : ε), l.forM f = .error e → ∃ a ∈ l, f a = .error e
  | [], _, h => by cases h
  | b :: l, e, h => by
    have h' : (f b >>= fun _ => l.forM f) = .error e := h
    rcases bind_eq_error h' with hb | ⟨⟨⟩, -, hl⟩
    · exact ⟨b, List.mem_cons_self, hb⟩
    · obtain ⟨a, ha, hfa⟩ := forM_error l e hl
      exact ⟨a, List.mem_cons_of_mem _ ha, hfa⟩

/-- Every result of a traversal that succeeds comes from an element. -/
theorem mapM_mem : ∀ (l : List α) (l' : List β), l.mapM f = .ok l' → ∀ b ∈ l', ∃ a ∈ l, f a = .ok b
  | [], l', h, b, hb => by
    rw [List.mapM_nil] at h
    cases h
    cases hb
  | a :: l, l', h, b, hb => by
    rw [List.mapM_cons] at h
    obtain ⟨c, hc, h⟩ := bind_eq_ok h
    obtain ⟨cs, hcs, h⟩ := bind_eq_ok h
    cases h
    rcases List.mem_cons.mp hb with rfl | hb
    · exact ⟨a, List.mem_cons_self, hc⟩
    · obtain ⟨a', ha', hfa'⟩ := mapM_mem l cs hcs b hb
      exact ⟨a', List.mem_cons_of_mem _ ha', hfa'⟩

/-- A map that succeeds has succeeded on every element. -/
theorem mapM_each : ∀ (l : List α) (l' : List β), l.mapM f = .ok l' → ∀ a ∈ l, ∃ b, f a = .ok b
  | a :: l, l', h, c, hc => by
    rw [List.mapM_cons] at h
    obtain ⟨b, hb, h⟩ := bind_eq_ok h
    obtain ⟨bs, hbs, -⟩ := bind_eq_ok h
    rcases List.mem_cons.mp hc with rfl | hc
    · exact ⟨b, hb⟩
    · exact mapM_each l bs hbs c hc

/-- A traversal whose elements all succeed does. -/
theorem mapM_ok {α β : Type} {f : α → Except ε β} : ∀ l : List α, (∀ a ∈ l, ∃ b, f a = .ok b) → ∃ l', l.mapM f = .ok l'
  | [], _ => ⟨[], rfl⟩
  | a :: l, h => by
    obtain ⟨b, hb⟩ := h a List.mem_cons_self
    obtain ⟨bs, hbs⟩ := mapM_ok l (fun a ha => h a (List.mem_cons_of_mem _ ha))
    refine ⟨b :: bs, ?_⟩
    rw [List.mapM_cons, hb, hbs]
    rfl

end Fallible
