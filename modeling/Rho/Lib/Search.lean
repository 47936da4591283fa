import Mathlib.Tactic.Common

/-!
# Searches that visit a state once

A search keeps the states that it has visited and gives up on a state that it meets again. What it answers is right when whatever
was visited before is either still being searched or is known to be lost; the rules put a search together from its attempts.
-/

namespace Search

variable {α : Type*} {Wins : α → Prop} {V W : Prop} {s : α} {seen : List α} {r r' : Bool × List α}

/-- An attempt answers what it was asked, and all that it has visited in vain is lost. -/
structure Tried (Wins : α → Prop) (W : Prop) (seen : List α) (r : Bool × List α) : Prop where
  found : r.1 = true → W
  missed : r.1 = false → ¬ W
  settled : r.1 = false → ∀ t ∈ r.2, t ∈ seen ∨ ¬ Wins t

theorem Tried.iff (h : Tried Wins W seen r) : r.1 = true ↔ W := by
  refine ⟨h.found, fun hW => ?_⟩
  by_contra hnot
  exact h.missed ((Bool.not_eq_true _).mp hnot) hW

/-- There is nothing to try. -/
theorem Tried.fail (hW : ¬ W) : Tried Wins W seen (false, seen) := ⟨nofun, fun _ => hW, fun _ _ ht => Or.inl ht⟩

/-- An attempt that was in vain settles what cannot be won. -/
theorem Tried.lost (hr : r.1 = false) (hW : ¬ W) : Tried Wins W r.2 r := by
  refine ⟨?_, fun _ => hW, fun _ _ ht => Or.inl ht⟩
  rw [hr]
  intro hfound
  cases hfound

/-- An answer that needs no search. -/
theorem Tried.answer {b : Bool} (hb : b = true ↔ W) : Tried Wins W seen (b, seen) := by
  refine ⟨hb.mp, ?_, fun _ _ ht => Or.inl ht⟩
  rintro hfalse hW
  cases hfalse.symm.trans (hb.mpr hW)

/-- A state that was visited and is lost. -/
theorem Tried.again (hlost : ¬ Wins s) : Tried Wins (Wins s) seen (false, seen) := .fail hlost

/-- One attempt and, if it was in vain, another one. -/
theorem Tried.orElse (h : Tried Wins V seen r) (h' : r.1 = false → (∀ t ∈ r.2, t ∈ seen ∨ ¬ Wins t) → Tried Wins W r.2 r') :
    Tried Wins (V ∨ W) seen (if r.1 then r else r') := by
  cases hr : r.1 with
  | true =>
    rw [if_pos rfl]
    refine ⟨fun _ => Or.inl (h.found hr), ?_, ?_⟩
    · rw [hr]
      exact nofun
    · rw [hr]
      exact nofun
  | false =>
    rw [if_neg Bool.false_ne_true]
    have hrest := h' hr (h.settled hr)
    refine ⟨fun hfound => Or.inr (hrest.found hfound), ?_, ?_⟩
    · rintro hmissed (hV | hW)
      · exact h.missed hr hV
      · exact hrest.missed hmissed hW
    · intro hmissed t ht
      rcases hrest.settled hmissed t ht with ht | ht
      · exact h.settled hr t ht
      · exact Or.inr ht

/-- A state is searched once it is among those that were visited. -/
theorem Tried.visit (hwins : Wins s ↔ W) (h : Tried Wins W (s :: seen) r) : Tried Wins (Wins s) seen r := by
  refine ⟨fun hfound => hwins.mpr (h.found hfound), fun hmissed hs => h.missed hmissed (hwins.mp hs), ?_⟩
  intro hmissed t ht
  rcases h.settled hmissed t ht with ht | ht
  · rcases List.mem_cons.mp ht with rfl | ht
    · exact Or.inr fun hs => h.missed hmissed (hwins.mp hs)
    · exact Or.inl ht
  · exact Or.inr ht

/-- What an attempt is about may be said in another way. -/
theorem Tried.congr (hiff : V ↔ W) (h : Tried Wins V seen r) : Tried Wins W seen r :=
  ⟨fun hfound => hiff.mp (h.found hfound), fun hmissed hW => h.missed hmissed (hiff.mpr hW), h.settled⟩

end Search
