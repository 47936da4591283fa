import Mathlib.Tactic.Common

/-!
# Runs of a transition function

A system given by what each labelled step makes of the state; the label carries every choice of the environment, so a run is a
list of labels. What one step keeps, a run keeps.
-/

namespace Run

variable {σ ℓ : Type*} (step : σ → ℓ → σ)

/-- The state after the steps of a run. -/
def after (s : σ) (trace : List ℓ) : σ := trace.foldl step s

@[simp] theorem after_nil (s : σ) : after step s [] = s := rfl

@[simp] theorem after_cons (s : σ) (l : ℓ) (trace : List ℓ) : after step s (l :: trace) = after step (step s l) trace := rfl

theorem after_append (s : σ) (t₁ t₂ : List ℓ) : after step s (t₁ ++ t₂) = after step (after step s t₁) t₂ :=
  List.foldl_append

/-- Every step of the run meets the condition in the state it is taken in. -/
def Along (C : σ → ℓ → Prop) : σ → List ℓ → Prop
  | _, [] => True
  | s, l :: trace => C s l ∧ Along C (step s l) trace

instance decidableAlong (C : σ → ℓ → Prop) [∀ s l, Decidable (C s l)] : ∀ s trace, Decidable (Along step C s trace)
  | _, [] => inferInstanceAs (Decidable True)
  | s, l :: trace => @instDecidableAnd _ _ _ (decidableAlong C (step s l) trace)

/-- What the steps of a run put out, one after the other. -/
def outputs {ω : Type*} (out : σ → ℓ → ω) : σ → List ℓ → List ω
  | _, [] => []
  | s, l :: trace => out s l :: outputs out (step s l) trace

variable {ω : Type*} {s : σ} {trace : List ℓ} {C D : σ → ℓ → Prop} {I : σ → Prop}

theorem outputs_append (out : σ → ℓ → ω) (s : σ) (t₁ t₂ : List ℓ) :
    outputs step out s (t₁ ++ t₂) = outputs step out s t₁ ++ outputs step out (after step s t₁) t₂ := by
  induction t₁ generalizing s with
  | nil => rfl
  | cons l t₁ ih => simp only [List.cons_append, outputs, after_cons, ih]

/-- The output of a step is that of its label in the state after the steps before it. -/
theorem getElem?_outputs (out : σ → ℓ → ω) (s : σ) (trace : List ℓ) (i : Nat) :
    (outputs step out s trace)[i]? = (trace)[i]?.map (out (after step s (trace.take i))) := by
  induction trace generalizing s i with
  | nil => rfl
  | cons l trace ih =>
    cases i with
    | zero => rfl
    | succ i => simpa [outputs] using ih (step s l) i

/-- An output divides the run at the step that put it out. -/
theorem outputs_eq_append {out : σ → ℓ → ω} {before rest : List ω} {o : ω} (h : outputs step out s trace = before ++ o :: rest) :
    ∃ t₁ l t₂, trace = t₁ ++ l :: t₂ ∧ before = outputs step out s t₁ ∧ o = out (after step s t₁) l ∧
      rest = outputs step out (step (after step s t₁) l) t₂ := by
  induction trace generalizing s before with
  | nil => exact absurd h (by simp [outputs])
  | cons l trace ih =>
    cases before with
    | nil =>
      obtain ⟨ho, hrest⟩ := List.cons.inj h
      exact ⟨[], l, trace, rfl, rfl, ho.symm, hrest.symm⟩
    | cons o' before =>
      obtain ⟨ho, hrest⟩ := List.cons.inj h
      obtain ⟨t₁, l', t₂, htrace, hbefore, ho', hrest⟩ := ih hrest
      refine ⟨l :: t₁, l', t₂, by rw [htrace, List.cons_append], ?_, ho', hrest⟩
      rw [hbefore, ← ho]
      rfl

variable {step}

theorem along_append {t₁ t₂ : List ℓ} : Along step C s (t₁ ++ t₂) ↔ Along step C s t₁ ∧ Along step C (after step s t₁) t₂ := by
  induction t₁ generalizing s with
  | nil => simp [Along]
  | cons l t₁ ih => simp only [List.cons_append, Along, after_cons, ih, and_assoc]

/-- A run meets the condition exactly when each of its steps does after the steps before it. -/
theorem along_iff : Along step C s trace ↔ ∀ before l rest, trace = before ++ l :: rest → C (after step s before) l := by
  constructor
  · intro h before l rest heq
    rw [heq, along_append] at h
    exact h.2.1
  · intro h
    induction trace generalizing s with
    | nil => trivial
    | cons l trace ih =>
      refine ⟨h [] l trace rfl, ih ?_⟩
      intro before l' rest heq
      exact h (l :: before) l' rest (by rw [heq, List.cons_append])

/-- Two conditions along one run. -/
theorem along_and (hC : Along step C s trace) (hD : Along step D s trace) : Along step (fun s l => C s l ∧ D s l) s trace := by
  induction trace generalizing s with
  | nil => trivial
  | cons l trace ih => exact ⟨⟨hC.1, hD.1⟩, ih hC.2 hD.2⟩

/-- What every step that meets the condition keeps, a run of such steps keeps. -/
theorem invariant_along (hstep : ∀ s l, I s → C s l → I (step s l))
    (hI : I s) (hC : Along step C s trace) : I (after step s trace) := by
  induction trace generalizing s with
  | nil => exact hI
  | cons l trace ih => exact ih (hstep s l hI hC.1) hC.2

/-- A condition that is met in every state of an invariant is met along a run. -/
theorem along_of_invariant (hstep : ∀ s l, I s → C s l → I (step s l))
    (hD : ∀ s l, I s → C s l → D s l) (hI : I s) (hC : Along step C s trace) : Along step D s trace := by
  induction trace generalizing s with
  | nil => trivial
  | cons l trace ih => exact ⟨hD s l hI hC.1, ih (hstep s l hI hC.1) hC.2⟩

/-- What every step keeps, every run keeps. -/
theorem invariant (hstep : ∀ s l, I s → I (step s l)) (trace : List ℓ) (hI : I s) : I (after step s trace) := by
  induction trace generalizing s with
  | nil => exact hI
  | cons l trace ih => exact ih (hstep s l hI)

end Run
