import Rho.Lemmas.SlotRace

/-!
# No dying scope is opened again

What every interleaving of publications and disposals of one slot keeps. A publication opens the routing of its candidate in a step
of its own, after the candidate is in the slot and active: another publication that replaces it before that closes it too early, and
it is opened while it is dying. And a scope that is disposed while it is in the slot stays there. Where no publication replaces a
candidate that is not open yet, no dying scope is open; where no scope is disposed in the slot, the slot holds no dying one.
-/

namespace Rho

open Run SlotAux

/-- In every interleaving in which no publication takes the slot from a snapshot that is still to be opened, no dying snapshot is
open; and if no disposal begins on a snapshot in the slot either, the slot holds no dying one when all calls have returned. -/
theorem dying_scopes_stay_closed {w : SlotWorld} (hrest : w.AtRest) {trace : List SlotStep}
    (hreplaces : Along SlotWorld.step SlotWorld.ReplacesOpened w trace) :
    (after SlotWorld.step w trace).DyingClosed ∧
      (Along SlotWorld.step SlotWorld.SparesCurrent w trace → (after SlotWorld.step w trace).SlotLives) := by
  refine ⟨?_, ?_⟩
  · exact dyingClosed_of_worldOk
      (invariant_along (I := WorldOk) (fun _ _ hok hc => worldOk_step hok hc) (worldOk_atRest hrest) hreplaces)
  · intro hspares _
    have hcondition : Along SlotWorld.step (fun w l => w.ReplacesOpened l ∧ w.SparesCurrent l) w trace :=
      along_and hreplaces hspares
    have hboth := invariant_along (I := fun w => WorldOk w ∧ LiveOk w)
      (fun _ _ hok hc => ⟨worldOk_step hok.1 hc.1, liveOk_step hok.1 hok.2 hc.2⟩)
      ⟨worldOk_atRest hrest, liveOk_atRest hrest⟩ hcondition
    exact hboth.2.slot

namespace SlotAux

instance decidableReplacesOpened : ∀ w l, Decidable (SlotWorld.ReplacesOpened w l)
  | w, .run i _ => inferInstanceAs (Decidable (∀ expected ∈ (w.calls[i]?).bind SlotCall.swaps, w.slot = expected →
      expected ≠ none → ∀ c ∈ w.calls, c.window ≠ expected))
  | _, .publish _ _ => inferInstanceAs (Decidable True)
  | _, .dispose _ => inferInstanceAs (Decidable True)
  | _, .cancel _ => inferInstanceAs (Decidable True)

instance decidableSparesCurrent : ∀ w l, Decidable (SlotWorld.SparesCurrent w l)
  | w, .run i _ => inferInstanceAs (Decidable (∀ p ∈ (w.calls[i]?).bind SlotCall.begins, (w.snapshot p).report = none →
      w.slot ≠ some p))
  | _, .publish _ _ => inferInstanceAs (Decidable True)
  | _, .dispose _ => inferInstanceAs (Decidable True)
  | _, .cancel _ => inferInstanceAs (Decidable True)

/-- An empty slot, and candidates to be published. -/
def emptySlot : SlotWorld := { snapshot := fun _ => ⟨.ready, false, none, none⟩, slot := none, calls := [] }

theorem emptySlot_atRest : emptySlot.AtRest := ⟨rfl, fun _ => rfl, nofun, nofun⟩

/-- So many steps of one call. -/
def steps (i : CallId) (n : Nat) : List SlotStep := List.replicate n (.run i .disposed)

/-- A candidate is published and replaced, while a third is disposed. -/
def replacedInTurn : List SlotStep :=
  .publish none 1 :: steps 0 6 ++ .publish (some 1) 2 :: .dispose 3 :: steps 1 7 ++ steps 2 5 ++ steps 1 9 ++ steps 2 3

/-- The second publication replaces the first candidate before the first has opened it, and is dropped where it waits for its
gate. -/
def replacedTooEarly : List SlotStep :=
  .publish none 1 :: steps 0 4 ++ .publish (some 1) 2 :: steps 1 9 ++ .cancel 1 :: steps 0 2

/-- The published snapshot is disposed. -/
def disposedInPlace : List SlotStep := .publish none 1 :: steps 0 6 ++ .dispose 1 :: steps 1 8

end SlotAux

theorem dying_scopes_stay_closed_in_turn :
    (after SlotWorld.step emptySlot replacedInTurn).DyingClosed ∧ (after SlotWorld.step emptySlot replacedInTurn).SlotLives := by
  have hreplaces : Along SlotWorld.step SlotWorld.ReplacesOpened emptySlot replacedInTurn := by decide
  have hspares : Along SlotWorld.step SlotWorld.SparesCurrent emptySlot replacedInTurn := by decide
  obtain ⟨hclosed, hlives⟩ := dying_scopes_stay_closed emptySlot_atRest hreplaces
  exact ⟨hclosed, hlives hspares⟩

/-- A snapshot that is quiescing routes after all calls have returned; and a slot holds the snapshot that was disposed in it. -/
theorem dying_scope_opened_again :
    (¬∀ w : SlotWorld, w.AtRest → ∀ trace, (after SlotWorld.step w trace).DyingClosed) ∧
      ¬∀ w : SlotWorld, w.AtRest → ∀ trace, (after SlotWorld.step w trace).SlotLives := by
  refine ⟨?_, ?_⟩
  · intro hclosed
    have hcell : (after SlotWorld.step emptySlot replacedTooEarly).snapshot 1 = ⟨.quiescing, true, none, none⟩ := by decide
    have hcalls : (after SlotWorld.step emptySlot replacedTooEarly).calls = [.returned, .returned] := by decide
    have hopen := hclosed emptySlot emptySlot_atRest replacedTooEarly 1
    rw [hcell, hcalls] at hopen
    obtain ⟨c, hc, hcloses⟩ := hopen ⟨nofun, nofun⟩ rfl
    rcases List.mem_cons.mp hc with rfl | hc
    · cases hcloses
    · cases List.mem_singleton.mp hc
      cases hcloses
  · intro hlives
    have hslot : (after SlotWorld.step emptySlot disposedInPlace).slot = some 1 := by decide
    have hcell : ((after SlotWorld.step emptySlot disposedInPlace).snapshot 1).state = .disposed := by decide
    have hheld := hlives emptySlot emptySlot_atRest disposedInPlace (by decide) 1 hslot
    rw [hcell] at hheld
    exact hheld ⟨nofun, nofun⟩

end Rho
