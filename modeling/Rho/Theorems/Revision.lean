import Mathlib.Data.List.Induction
import Rho.Lemmas.Dispatch
import Rho.Server.Session

/-!
# Stale requests

A client's request names the state revision it last saw; the broker is to refuse it once code that may change the state has been
handed to the kernel. The revision moves only on the exit of the dispatch that has read a result.
-/

namespace Rho

open Effect DispatchAux

/-- The step hands code that may change the state to the kernel. -/
def HandsOver (s : Session) (l : SessionStep) : Prop :=
  s.executing = none ∧ ∃ h, (s.step l).executing = some h ∧ h.operationClass.changesState = true

/-- The step does not end, without a result that could be read, a request whose code may change the state. -/
def ReadsResult (s : Session) (l : SessionStep) : Prop :=
  ∀ h, s.executing = some h → h.operationClass.changesState = true →
    match l with
    | .answer o => ∃ result, o.kernel = .finished result
    | .abort => False
    | .request _ _ | .projectChanged | .otherConnection _ => True

/-- Whenever state-changing code has been handed over in the run, a request that expects a state revision read before that is
refused from then on. -/
def RefusesStale (s : Session) (trace : List SessionStep) : Prop :=
  ∀ before between l later rest, trace = before ++ between ++ l :: later ++ rest →
    HandsOver (Run.after Session.step s (before ++ between)) l →
    (Run.after Session.step s (before ++ between ++ l :: later)).executing = none →
    ∀ expected : ExpectedWorkspace,
      expected.stateRevision = some (Run.after Session.step s before).stateRevision →
      ∃ e, (Run.after Session.step s (before ++ between ++ l :: later)).coordinator.broker.authorize expected = .error e

namespace RevisionAux

/-! ## The identity -/

theorem stateRevision_complete (b : BrokerState) (cls : OperationClass) :
    (b.complete cls).identity.stateRevision = b.identity.stateRevision + if cls.changesState then 1 else 0 := by
  cases cls with
  | probe => rfl
  | stateCapable => rfl
  | projectMutation => rfl
  | stateAndProjectMutation => rfl

variable {r : Nat} {s : Session} {h : Handover}

/-- An expected state revision other than the present one is refused, whatever else is expected. -/
theorem authorize_error {b : BrokerState} {expected : ExpectedWorkspace} (hr : expected.stateRevision = some r)
    (hne : r ≠ b.identity.stateRevision) : ∃ e, b.authorize expected = .error e := by
  unfold BrokerState.authorize WorkspaceIdentity.check
  rw [hr]
  cases expected.kernelInstanceId with
  | none =>
    simp only [ne_eq, hne, not_false_eq_true, if_true]
    exact ⟨_, rfl⟩
  | some kernel =>
    by_cases hk : kernel = b.identity.kernelInstanceId
    · simp only [ne_eq, hk, hne, not_true_eq_false, not_false_eq_true, if_true, if_false]
      exact ⟨_, rfl⟩
    · simp only [ne_eq, hk, not_false_eq_true, if_true]
      exact ⟨_, rfl⟩

/-- The present state revision alone is accepted. -/
theorem authorize_ok (b : BrokerState) :
    b.authorize { kernelInstanceId := none, stateRevision := some b.identity.stateRevision, projectRevision := none } =
      .ok () := by
  simp only [BrokerState.authorize, WorkspaceIdentity.check, ne_eq, not_true_eq_false, if_false]
  rfl

/-! ## One step -/

theorem stateRevision_request (s : Session) (call : DispatchCall) (o : PrepareOutcome) :
    (s.request call o).stateRevision = s.stateRevision := by
  have hkeep := broker_prepareDispatch call o s.coordinator
  unfold Session.request Session.stateRevision
  cases hp : prepareDispatch call o s.coordinator with
  | ok h c =>
    rw [hp] at hkeep
    rw [show c.broker = s.coordinator.broker from hkeep]
  | error e c =>
    rw [hp] at hkeep
    rw [show c.broker = s.coordinator.broker from hkeep]

/-- While the kernel runs, a step either leaves the revision and the running request, or ends the request. -/
theorem step_executing (hs : s.executing = some h) (l : SessionStep) :
    ((s.step l).executing = some h ∧ (s.step l).stateRevision = s.stateRevision) ∨ (s.step l).executing = none := by
  cases l with
  | request call o => simp [Session.step, hs]
  | answer o => simp [Session.step, hs]
  | abort => simp [Session.step]
  | projectChanged => simp [Session.step, hs]
  | otherConnection write => simp [Session.step, hs, Session.stateRevision]

/-- While the lock is free, a step leaves the revision. -/
theorem step_free (hs : s.executing = none) (l : SessionStep) : (s.step l).stateRevision = s.stateRevision := by
  cases l with
  | request call o => simp only [Session.step, hs, stateRevision_request]
  | answer o => simp only [Session.step, hs]
  | abort => rfl
  | projectChanged => simp only [Session.step, hs]; rfl
  | otherConnection write => rfl

/-- The kernel's answer moves the revision when a result of state-changing code is read, and only then. -/
theorem stateRevision_answer (hs : s.executing = some h) (o : ConcludeOutcome) :
    (s.step (.answer o)).stateRevision = s.stateRevision + match o.kernel with
      | .finished _ => if h.operationClass.changesState then 1 else 0 | .error | .unreadable _ => 0 := by
  simp only [Session.step, hs, Session.stateRevision, broker_concludeDispatch]
  cases o.kernel with
  | error => rfl
  | unreadable message => rfl
  | finished result => exact stateRevision_complete _ _

/-! ## Runs -/

/-- From a hand-over on: the revision has moved past `r`, or state-changing code is still running at a revision not below it. -/
def Counted (r : Nat) (s : Session) : Prop :=
  r < s.stateRevision ∨ r ≤ s.stateRevision ∧ ∃ h, s.executing = some h ∧ h.operationClass.changesState = true

theorem stateRevision_le_step (s : Session) (l : SessionStep) : s.stateRevision ≤ (s.step l).stateRevision := by
  cases hs : s.executing with
  | none => rw [step_free hs l]
  | some h =>
    cases l with
    | answer o =>
      rw [stateRevision_answer hs o]
      omega
    | abort => exact Nat.le_refl _
    | request call o => simp [Session.step, hs]
    | projectChanged => simp [Session.step, hs]
    | otherConnection write => exact Nat.le_refl _

theorem counted_step (s : Session) (l : SessionStep) (hc : Counted r s) (hl : ReadsResult s l) : Counted r (s.step l) := by
  have hle := stateRevision_le_step s l
  rcases hc with hlt | ⟨hr, h, hs, hcls⟩
  · exact .inl (by omega)
  · rcases step_executing hs l with ⟨hsame, hrev⟩ | hend
    · exact .inr ⟨by omega, h, hsame, hcls⟩
    · have hread := hl h hs hcls
      cases l with
      | answer o =>
        obtain ⟨result, hk⟩ := hread
        have hrev := stateRevision_answer hs o
        rw [hk] at hrev
        simp only [hcls, if_true] at hrev
        exact .inl (by omega)
      | abort => exact hread.elim
      | request call o => simp [Session.step, hs] at hend
      | projectChanged => simp [Session.step, hs] at hend
      | otherConnection write => simp [Session.step, hs] at hend

/-- Code that is running was handed over by a step of the run, and the revision has not moved since. -/
theorem handedOver_of_executing (hs : s.executing = none) (hcls : h.operationClass.changesState = true) (trace : List SessionStep)
    (hend : (Run.after Session.step s trace).executing = some h) :
    ∃ before l later, trace = before ++ l :: later ∧ HandsOver (Run.after Session.step s before) l ∧
      (Run.after Session.step s before).stateRevision = (Run.after Session.step s trace).stateRevision := by
  induction trace using List.reverseRecOn with
  | nil =>
    rw [Run.after_nil, hs] at hend
    cases hend
  | append_singleton trace l ih =>
    have hlast : Run.after Session.step s (trace ++ [l]) = (Run.after Session.step s trace).step l := by
      rw [Run.after_append]
      rfl
    rw [hlast] at hend ⊢
    cases hmid : (Run.after Session.step s trace).executing with
    | none =>
      -- The last step is the hand-over.
      exact ⟨trace, l, [], rfl, ⟨hmid, h, hend, hcls⟩, (step_free hmid l).symm⟩
    | some h' =>
      rcases step_executing hmid l with ⟨hsame, hrev⟩ | hnone
      · rw [hend] at hsame
        cases hsame
        obtain ⟨before, l', later, heq, hhand, hrev'⟩ := ih hmid
        exact ⟨before, l', later ++ [l], by rw [heq]; simp, hhand, by rw [hrev', hrev]⟩
      · rw [hnone] at hend
        cases hend

theorem refusesStale_of_along {trace : List SessionStep} (h : Run.Along Session.step ReadsResult s trace) :
    RefusesStale s trace := by
  intro before between l later rest heq hhand hfree expected hexp
  rw [heq, Run.along_append, Run.along_append] at h
  obtain ⟨⟨-, hlater⟩, -⟩ := h
  have hmono : (Run.after Session.step s before).stateRevision ≤
      (Run.after Session.step s (before ++ between)).stateRevision := by
    rw [Run.after_append]
    exact Run.invariant (I := fun u => (Run.after Session.step s before).stateRevision ≤ u.stateRevision)
      (fun u l hu => Nat.le_trans hu (stateRevision_le_step u l)) between (Nat.le_refl _)
  obtain ⟨hnone, h, hexec, hcls⟩ := hhand
  have hstart : Counted (Run.after Session.step s before).stateRevision
      ((Run.after Session.step s (before ++ between)).step l) :=
    .inr ⟨by rw [step_free hnone l]; exact hmono, h, hexec, hcls⟩
  have hcount := Run.invariant_along counted_step hstart hlater.2
  rw [Run.after_append] at hfree ⊢
  rcases hcount with hlt | ⟨-, h', hexec', -⟩
  · exact authorize_error hexp (Nat.ne_of_lt hlt)
  · rw [Run.after_cons, hexec'] at hfree
    cases hfree

end RevisionAux

open RevisionAux

/-- In every run of a session, by any clients and with any outcomes, stale requests are refused exactly when no request with
state-changing code ends without its result having been read: not by a kernel error or an interrupt, not by a result file that
cannot be read, and not by an abort of the task that waits for the kernel. -/
theorem refusesStale_iff (s : Session) (hs : s.executing = none) (trace : List SessionStep) :
    RefusesStale s trace ↔ Run.Along Session.step ReadsResult s trace := by
  constructor
  · intro href
    rw [Run.along_iff]
    intro pre l rest heq h hexec hcls
    obtain ⟨before, l', later, hpre, hhand, hrev⟩ := handedOver_of_executing hs hcls pre hexec
    have hlast : Run.after Session.step s (pre ++ [l]) = (Run.after Session.step s pre).step l := by
      rw [Run.after_append]
      rfl
    -- An end that leaves the revision would let a request with the revision before the hand-over through.
    have hmoved : (Run.after Session.step s (pre ++ [l])).executing = none →
        (Run.after Session.step s (pre ++ [l])).stateRevision ≠ (Run.after Session.step s pre).stateRevision := by
      intro hfree hsame
      have happ : before ++ [] ++ l' :: (later ++ [l]) = pre ++ [l] := by rw [hpre]; simp
      obtain ⟨e, he⟩ := href before [] l' (later ++ [l]) rest (by rw [heq, happ]; simp) (by rwa [List.append_nil])
        (by rw [happ]; exact hfree)
        { kernelInstanceId := none
          stateRevision := some (Run.after Session.step s before).stateRevision
          projectRevision := none } rfl
      rw [happ, hrev, ← hsame, Session.stateRevision, authorize_ok] at he
      cases he
    rw [hlast] at hmoved
    cases l with
    | answer o =>
      rw [stateRevision_answer hexec o] at hmoved
      cases hk : o.kernel with
      | finished result => exact ⟨result, hk⟩
      | error => exact absurd rfl (hk ▸ hmoved (by simp [Session.step, hexec]))
      | unreadable message => exact absurd rfl (hk ▸ hmoved (by simp [Session.step, hexec]))
    | abort => exact hmoved rfl rfl
    | request call o => trivial
    | projectChanged => trivial
    | otherConnection write => trivial
  · exact refusesStale_of_along

/-! ## A session -/

theorem freshSession_normalized : normalizeProjectRoot "/project" = "/project" := rfl

/-- A fresh workspace, opened on a project. -/
def freshSession : Session where
  coordinator :=
    { broker :=
        { identity :=
            { workspaceId := "ws", kernelInstanceId := "kernel", executionSeq := 0, stateRevision := 0, projectRevision := 0 } }
      store :=
        { runs := .empty _, environmentOperations := .empty _, approvals := .empty _, projectRoot := "/project", normalized := freshSession_normalized
          identity := none } }
  executing := none

/-- A request to execute code at the revision of the fresh workspace. -/
def executeCall : DispatchCall where
  requestType := "workspace.execute"
  payload := .obj [("arguments", .obj [("code", .str "x <- 1")]), ("expected_workspace", .obj [("state_revision", .int 0)])]
  origin := .agent
  executionId := none

/-- Nothing outside the coordinator fails. -/
def faultless : PrepareOutcome where
  freshExecutionId := "exec_1"
  fault := fun _ => none

/-- An execution whose result is read: the next request at the old revision is refused. -/
theorem refusesStale_iff_finished :
    RefusesStale freshSession [.request executeCall faultless, .answer ⟨.finished (.obj [("ok", .bool true)]), fun _ => none⟩] := by
  refine (refusesStale_iff freshSession rfl _).mpr ⟨?_, ?_, trivial⟩
  · intro h hexec
    cases hexec
  · intro h _ _
    exact ⟨_, rfl⟩

/-- An execution that ends with a kernel error: the code was handed over, and a request at the revision read before it is still
accepted. -/
theorem refusesStale_fails_on_error : HandsOver freshSession (.request executeCall faultless) ∧
    (Run.after Session.step freshSession [.request executeCall faultless, .answer ⟨.error, fun _ => none⟩]).coordinator.broker.authorize
      { kernelInstanceId := none, stateRevision := some freshSession.stateRevision, projectRevision := none } = .ok () ∧
    ¬RefusesStale freshSession [.request executeCall faultless, .answer ⟨.error, fun _ => none⟩] := by
  have hhand : HandsOver freshSession (.request executeCall faultless) := ⟨rfl, _, rfl, rfl⟩
  refine ⟨hhand, rfl, ?_⟩
  intro href
  obtain ⟨e, he⟩ := href [] [] (.request executeCall faultless) [.answer ⟨.error, fun _ => none⟩] [] rfl hhand rfl
    { kernelInstanceId := none, stateRevision := some freshSession.stateRevision, projectRevision := none } rfl
  cases he

end Rho
