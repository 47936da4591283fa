import Rho.Extension.Routing

/-!
# Leases and the wait for idle

What the counter of a scope's leases says in every interleaving, and that a wait which finds it at zero behind a closed gate is
the end of all leases until the gate opens again.
-/

namespace Rho

open Run RegistryHub LeaseStage

namespace RoutingAux

/-! ## What a step does to the calls -/

/-- What a call adds to the counter. -/
def weight (stage : LeaseStage) : Nat := if stage.counts then 1 else 0

/-- One call of `lease` moves on, and the counter with it; it is granted only while routing is open. -/
structure CallMove (h h' : RegistryHub) (i : Nat) (old new : LeaseStage) : Prop where
  before : h.calls[i]? = some old
  calls : h'.calls = h.calls.set i new
  leases : h'.leases = h.leases + weight new - weight old
  granted : new = .granted → h.routing = true

/-- A step leaves the calls and the counter, starts a call, or moves one. -/
theorem step_calls (h : RegistryHub) (l : RoutingStep) :
    ((h.step l).calls = h.calls ∧ (h.step l).leases = h.leases) ∨
      ((h.step l).calls = h.calls ++ [.called] ∧ (h.step l).leases = h.leases) ∨
        ∃ i old new, CallMove h (h.step l) i old new := by
  cases l with
  | openRouting | closeRouting | waitForIdle => exact Or.inl ⟨rfl, rfl⟩
  | notifyWaiters =>
    unfold step
    simp only
    split
    · exact Or.inl ⟨rfl, rfl⟩
    · exact Or.inl ⟨rfl, rfl⟩
  | waitLoad j | waitRegister j | waitReload j | waitWake j =>
    unfold step
    simp only
    split
    · exact Or.inl ⟨rfl, rfl⟩
    · exact Or.inl ⟨rfl, rfl⟩
  | lease => exact Or.inr (Or.inl ⟨rfl, rfl⟩)
  | leaseCheck i =>
    unfold step
    simp only
    split
    · next hi =>
      cases hrouting : h.routing with
      | true => exact Or.inr (Or.inr ⟨i, .called, .checked, hi, rfl, rfl, nofun⟩)
      | false => exact Or.inr (Or.inr ⟨i, .called, .done, hi, rfl, rfl, nofun⟩)
    · exact Or.inl ⟨rfl, rfl⟩
  | leaseCount i =>
    unfold step
    simp only
    split
    · next hi => exact Or.inr (Or.inr ⟨i, .checked, .counted, hi, rfl, rfl, nofun⟩)
    · exact Or.inl ⟨rfl, rfl⟩
  | leaseRecheck i =>
    unfold step
    simp only
    split
    · next hi =>
      -- The second load decides: the lease is granted only if it finds routing open.
      cases hrouting : h.routing with
      | true => exact Or.inr (Or.inr ⟨i, .counted, .granted, hi, rfl, rfl, fun _ => hrouting⟩)
      | false => exact Or.inr (Or.inr ⟨i, .counted, .refused, hi, rfl, rfl, nofun⟩)
    · exact Or.inl ⟨rfl, rfl⟩
  | leaseUncount i =>
    unfold step
    simp only
    split
    · next hi => exact Or.inr (Or.inr ⟨i, .refused, .done, hi, rfl, rfl, nofun⟩)
    · exact Or.inl ⟨rfl, rfl⟩
  | leaseDrop i =>
    unfold step
    simp only
    split
    · next hi => exact Or.inr (Or.inr ⟨i, .granted, .done, hi, rfl, rfl, nofun⟩)
    · exact Or.inl ⟨rfl, rfl⟩

variable {h : RegistryHub} {l : RoutingStep} {calls : List LeaseStage} {i : Nat} {stage : WaitStage}

/-- Only one step opens routing. -/
theorem routing_step (hclosed : h.routing = false) (hl : l ≠ .openRouting) : (h.step l).routing = false := by
  cases l with
  | openRouting => exact absurd rfl hl
  | closeRouting => rfl
  | lease | waitForIdle => exact hclosed
  | notifyWaiters =>
    unfold step
    simp only
    split
    · exact hclosed
    · exact hclosed
  | leaseCheck i | leaseCount i | leaseRecheck i | leaseUncount i | leaseDrop i | waitLoad i | waitRegister i | waitReload i
  | waitWake i =>
    unfold step
    simp only
    split
    · exact hclosed
    · exact hclosed

/-! ## The counter -/

/-- The counter is the number of calls that it includes. -/
def Counted (h : RegistryHub) : Prop := h.leases = h.calls.countP LeaseStage.counts

theorem weight_le_countP {stage : LeaseStage} (hmem : stage ∈ calls) : weight stage ≤ calls.countP counts := by
  unfold weight
  split
  · next hcounts => exact List.countP_pos_iff.mpr ⟨stage, hmem, hcounts⟩
  · exact Nat.zero_le _

/-- The calls are counted again when one of them moves. -/
theorem countP_set_stage {old : LeaseStage} (hold : calls[i]? = some old) (new : LeaseStage) :
    (calls.set i new).countP counts = calls.countP counts + weight new - weight old := by
  obtain ⟨hi, hget⟩ := List.getElem?_eq_some_iff.mp hold
  have hle := weight_le_countP (hget ▸ List.getElem_mem hi)
  rw [List.countP_set hi, hget]
  unfold weight at hle ⊢
  omega

theorem counted_step (hc : Counted h) (l : RoutingStep) : Counted (h.step l) := by
  unfold Counted at hc ⊢
  rcases step_calls h l with ⟨hcalls, hleases⟩ | ⟨hcalls, hleases⟩ | ⟨i, old, new, hmove⟩
  · rw [hcalls, hleases, hc]
  · rw [hcalls, hleases, hc, List.countP_append]
    rfl
  · rw [hmove.calls, hmove.leases, hc, countP_set_stage hmove.before]

/-- In every state of every run the counter is the number of calls that it includes. -/
theorem counted_run (trace : List RoutingStep) : Counted (after step .candidate trace) :=
  invariant (I := Counted) (fun _ l hc => counted_step hc l) trace rfl

/-- The calls the counter includes are the leases and the calls that are not answered yet. -/
theorem countP_counts (calls : List LeaseStage) : calls.countP counts =
      calls.countP (fun stage => stage = .granted) + calls.countP (fun stage => stage = .counted ∨ stage = .refused) := by
  induction calls with
  | nil => rfl
  | cons stage calls ih =>
    rw [List.countP_cons, List.countP_cons, List.countP_cons, ih]
    cases stage with
    | called | checked | done => rfl
    | granted => exact Nat.add_right_comm _ _ _
    | counted | refused => rfl

/-! ## Behind a closed gate -/

/-- The gate is closed and no lease is held. -/
def Drained (h : RegistryHub) : Prop := h.routing = false ∧ LeaseStage.granted ∉ h.calls

theorem drained_of_idle (hc : Counted h) (hclosed : h.routing = false) (hzero : h.leases = 0) : Drained h := by
  refine ⟨hclosed, fun hmem => ?_⟩
  have hpos : 0 < h.calls.countP counts := List.countP_pos_iff.mpr ⟨_, hmem, rfl⟩
  unfold Counted at hc
  omega

theorem drained_step (hd : Drained h) (hl : l ≠ .openRouting) : Drained (h.step l) := by
  refine ⟨routing_step hd.1 hl, ?_⟩
  rcases step_calls h l with ⟨hcalls, _⟩ | ⟨hcalls, _⟩ | ⟨i, old, new, hmove⟩
  · rw [hcalls]
    exact hd.2
  · rw [hcalls, List.mem_append]
    rintro (hold | hnew)
    · exact hd.2 hold
    · cases List.mem_singleton.mp hnew
  · rw [hmove.calls]
    intro hmem
    rcases List.mem_or_eq_of_mem_set hmem with hold | hnew
    · exact hd.2 hold
    · have hopen := hmove.granted hnew.symm
      rw [hd.1] at hopen
      cases hopen

theorem drained_run (hd : Drained h) {trace : List RoutingStep} (htrace : .openRouting ∉ trace) :
    Drained (after step h trace) := by
  induction trace generalizing h with
  | nil => exact hd
  | cons l trace ih =>
    obtain ⟨hl, hrest⟩ := not_or.mp (mt List.mem_cons.mpr htrace)
    exact ih (drained_step hd (Ne.symm hl)) hrest

theorem outstanding_of_drained (hd : Drained h) : h.outstanding = 0 := by
  refine List.countP_eq_zero.mpr ?_
  intro stage hmem hgranted
  exact hd.2 (of_decide_eq_true hgranted ▸ hmem)

/-! ## The wait -/

/-- A waiter that is set to another stage returned only if it is set to that. -/
theorem returned_of_set {waiters : List WaitStage} {j : Nat} (hold : waiters[j]? ≠ some .returned)
    (hnew : (waiters.set i stage)[j]? = some .returned) : stage = .returned := by
  rw [List.getElem?_set] at hnew
  split at hnew
  · split at hnew
    · exact Option.some.inj hnew
    · cases hnew
  · exact absurd hnew hold

theorem returned_of_tell (h : stage.tell = .returned) : stage = .returned := by
  cases stage with
  | returned => rfl
  | looping | busy => exact h
  | registered told | awaiting told => cases h

/-- A wait ends on a load that finds the counter at zero. -/
theorem leases_of_observesIdle (hobs : h.ObservesIdle l) : h.leases = 0 := by
  obtain ⟨j, hold, hnew⟩ := hobs
  unfold step at hnew
  cases l with
  | openRouting | closeRouting | lease => exact absurd hnew hold
  | leaseCheck i | leaseCount i | leaseRecheck i | leaseUncount i | leaseDrop i =>
    simp only at hnew
    split at hnew
    · exact absurd hnew hold
    · exact absurd hnew hold
  | notifyWaiters =>
    simp only at hnew
    split at hnew
    · exact absurd hnew hold
    · rw [List.getElem?_map, Option.map_eq_some_iff] at hnew
      obtain ⟨stage, hstage, htell⟩ := hnew
      exact absurd (returned_of_tell htell ▸ hstage) hold
  | waitForIdle =>
    simp only [List.getElem?_append] at hnew
    split at hnew
    · exact absurd hnew hold
    · rw [List.getElem?_singleton] at hnew
      split at hnew
      · cases hnew
      · cases hnew
  | waitLoad i | waitReload i =>
    simp only at hnew
    split at hnew
    · have hstage := returned_of_set hold hnew
      split at hstage
      · next hzero => exact hzero
      · cases hstage
    · exact absurd hnew hold
  | waitRegister i | waitWake i =>
    simp only at hnew
    split at hnew
    · cases returned_of_set hold hnew
    · exact absurd hnew hold

end RoutingAux

open RoutingAux

/-- At every moment the counter is the number of leases granted and not yet dropped plus the number of calls of `lease` that
have counted themselves and are not answered yet. Once routing is closed and a wait has observed zero, no lease is outstanding,
and none is in any state after that while routing is not opened again. -/
theorem leases_drained (trace : List RoutingStep) : (after RegistryHub.step .candidate trace).leases =
        (after RegistryHub.step .candidate trace).outstanding + (after RegistryHub.step .candidate trace).undecided ∧
      ∀ before observes rest, trace = before ++ observes :: rest →
        (after RegistryHub.step .candidate before).routing = false →
          (after RegistryHub.step .candidate before).ObservesIdle observes → RoutingStep.openRouting ∉ rest →
            (after RegistryHub.step .candidate before).outstanding = 0 ∧
              (after RegistryHub.step .candidate trace).outstanding = 0 := by
  refine ⟨(counted_run trace).trans (countP_counts _), ?_⟩
  intro before observes rest heq hclosed hobs hrest
  have hdrained := drained_of_idle (counted_run before) hclosed (leases_of_observesIdle hobs)
  refine ⟨outstanding_of_drained hdrained, outstanding_of_drained ?_⟩
  rw [heq, after_append, after_cons]
  refine drained_run (drained_step hdrained ?_) hrest
  rintro rfl
  obtain ⟨j, hold, hnew⟩ := hobs
  exact hold hnew

/-- A lease is granted, the gate closes, the lease is dropped and a wait returns: the next call gets nothing. -/
theorem leases_drained_after_close : (after RegistryHub.step .candidate
      [.openRouting, .lease, .leaseCheck 0, .leaseCount 0, .leaseRecheck 0, .closeRouting, .leaseDrop 0, .waitForIdle,
        .waitLoad 0, .lease, .leaseCheck 1]).outstanding = 0 :=
  ((leases_drained _).2
    [.openRouting, .lease, .leaseCheck 0, .leaseCount 0, .leaseRecheck 0, .closeRouting, .leaseDrop 0, .waitForIdle]
    (.waitLoad 0) [.lease, .leaseCheck 1] rfl rfl ⟨0, by decide, rfl⟩ (by decide)).2

/-- A call between its increment and its second check is counted and holds no lease. -/
theorem leases_exceed_outstanding : ¬∀ trace : List RoutingStep,
      (after RegistryHub.step .candidate trace).leases = (after RegistryHub.step .candidate trace).outstanding := by
  intro h
  have hcounted := h [.openRouting, .lease, .leaseCheck 0, .leaseCount 0]
  exact absurd hcounted (by decide)

end Rho
