import Mathlib.Tactic.Common

/-!
# Programs over a world that others change

A program that runs one command after the other, each on the world as it is at its own moment: between two commands anything may have
changed. A timeline gives the world at every moment; a program is told the moment it starts at and says at which it ends. A command
that changes the world is left to the end, as what the program returns.
-/

structure Timed (W ε α : Type) where
  run : (Nat → W) → Nat → Except ε α × Nat
  later : ∀ w t, t ≤ (run w t).2

namespace Timed

variable {W ε α β : Type}

protected def pure (a : α) : Timed W ε α := ⟨fun _ t => (.ok a, t), fun _ _ => Nat.le_refl _⟩

def throw (e : ε) : Timed W ε α := ⟨fun _ t => (.error e, t), fun _ _ => Nat.le_refl _⟩

protected def bind (x : Timed W ε α) (f : α → Timed W ε β) : Timed W ε β where
  run w t :=
    match x.run w t with
    | (.ok a, t') => (f a).run w t'
    | (.error e, t') => (.error e, t')
  later w t := by
    have hx := x.later w t
    split
    · rename_i a t' heq
      rw [heq] at hx
      exact Nat.le_trans hx ((f a).later w t')
    · rename_i e t' heq
      rw [heq] at hx
      exact hx

instance : Monad (Timed W ε) where
  pure := Timed.pure
  bind := Timed.bind

/-- A command that only reads: it takes one moment. -/
def observe (command : W → Except ε α) : Timed W ε α := ⟨fun w t => (command (w t), t + 1), fun _ t => Nat.le_succ t⟩

/-- The outcome of a program, which goes on whatever it is. -/
def attempt (x : Timed W ε α) : Timed W ε (Except ε α) := ⟨fun w t => (.ok (x.run w t).1, (x.run w t).2), x.later⟩

/-! ## Inversion -/

variable {w : Nat → W} {t t' : Nat}

theorem bind_ok {x : Timed W ε α} {f : α → Timed W ε β} {b : β} (h : (x >>= f).run w t = (.ok b, t')) :
    ∃ a s, x.run w t = (.ok a, s) ∧ (f a).run w s = (.ok b, t') := by
  change (Timed.bind x f).run w t = _ at h
  unfold Timed.bind at h
  simp only at h
  cases hx : x.run w t with
  | mk result s =>
    rw [hx] at h
    cases result with
    | error e => cases h
    | ok a => exact ⟨a, s, rfl, h⟩

theorem pure_ok {a b : α} (h : (pure a : Timed W ε α).run w t = (.ok b, t')) : a = b ∧ t = t' := by
  cases h
  exact ⟨rfl, rfl⟩

theorem throw_ok {e : ε} {b : α} (h : (throw e : Timed W ε α).run w t = (.ok b, t')) : False := by
  cases h

theorem observe_ok {command : W → Except ε α} {a : α} (h : (observe command).run w t = (.ok a, t')) :
    command (w t) = .ok a ∧ t' = t + 1 :=
  ⟨congrArg Prod.fst h, (congrArg Prod.snd h).symm⟩

theorem attempt_ok {x : Timed W ε α} {result : Except ε α} (h : (attempt x).run w t = (.ok result, t')) :
    x.run w t = (result, t') := by
  cases h
  rfl

end Timed
