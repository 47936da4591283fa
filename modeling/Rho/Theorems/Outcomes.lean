import Rho.Server.Decision
import Rho.Theorems.Review

/-!
# The outcome of an operation is that of its run

The end of a run and the end of the operation that it carried out are written by two statements, and once more by the decision that
started the dispatch. They agree, and stay as they are, as long as no decision sees its dispatch end in an error, no turn and no
process ends over an unfinished run, and no operation is run that has an outcome already.
-/

namespace Rho

open Effect Table Store DispatchAux OperationSystem

/-- Every operation that was handed over has the outcome of the run that carried it out: none while the run goes on. -/
def OutcomesAgree (s : OperationSystem) : Prop :=
  ∀ p ∈ s.handedOver, ∃ op run, s.operation p.1 = some op ∧ s.run p.2 = some run ∧ op.runId = some p.2 ∧
    op.terminalOutcome = run.terminalOutcome

/-- An outcome that is recorded at one point of the run for an operation that was handed over is there at every later point. -/
def OutcomesKept (s : OperationSystem) (trace : List OperationStep) : Prop :=
  ∀ before between rest, trace = before ++ between ++ rest → ∀ p ∈ (Run.after OperationSystem.step s before).handedOver,
    ∀ op outcome, (Run.after OperationSystem.step s before).operation p.1 = some op → op.terminalOutcome = some outcome →
      ∃ op', (Run.after OperationSystem.step s (before ++ between)).operation p.1 = some op' ∧ op'.terminalOutcome = some outcome

/-! ## The condition -/

/-- The statement that ends the run is reached and made. -/
def RunEnds (o : ConcludeOutcome) : Prop :=
  o.fault .finishRun = none ∧ ∀ result, o.kernel = .finished result → o.fault .saveIdentity = none

/-- The dispatch returns a result: the kernel answers with one, and everything after it succeeds. -/
def Returns (o : ConcludeOutcome) : Prop :=
  (∃ result, o.kernel = .finished result) ∧
    ∀ step ∈ [DispatchStep.saveIdentity, .finishRun, .finishOperation, .plotArtifacts, .generatedFiles, .renderArtifact],
      o.fault step = none

/-- The operation was handed over, and its run has not ended. -/
def OperationSystem.Unfinished (s : OperationSystem) (requestId : String) : Prop :=
  ∃ runId run, (requestId, runId) ∈ s.handedOver ∧ s.run runId = some run ∧ run.status.isActive = true

/-- The step does not set an outcome beside that of the run: no turn ends and no process starts over an unfinished run of an
operation; no operation is taken up that has an outcome; and when the kernel has answered, the end of the operation is written with
that of the run, and a decision that waits for the dispatch sees it return a result. -/
def RecordsTruly (s : OperationSystem) : OperationStep → Prop
  | .interruptTurn turnId _ =>
    ∀ k op, s.operation k = some op → op.turnId = some turnId → op.source = .agent → op.status.isIncomplete = true →
      ¬s.Unfinished k
  | .recover => ∀ k, ¬s.Unfinished k
  | .dispatch call _ =>
    s.lane = .free → ∀ k op, environmentOperationRequestId call.requestType call.payload = .ok (some k) → s.operation k = some op →
      op.status = .approved → op.runId = none → op.terminalOutcome = none
  | .writeDecision _ _ _ =>
    ∀ request origin op, s.lane = .deciding request "approve" origin → s.operation request.requestId = some op →
      op.runId = none → op.terminalOutcome = none
  | .conclude o fault =>
    ∀ h decided, s.lane = .running h decided → h.environmentOperation.isSome = true →
      (RunEnds o → o.fault .finishOperation = none) ∧ (decided.isSome = true → Returns o ∨ fault.isSome = true)
  | _ => True

namespace OutcomesAux

/-! ## One operation and its run -/

/-- The operation and the run that carries it out have the same outcome. -/
def AgreedAt (s : Store) (k r : String) (x : Option String) : Prop :=
  ∃ op run, s.environmentOperations.get k = some op ∧ s.runs.get r = some run ∧ op.runId = some r ∧ op.status ≠ .requested ∧
    op.terminalOutcome = x ∧ run.terminalOutcome = x

/-- What a statement keeps of every operation and its run. -/
def Keeps (s s' : Store) : Prop := ∀ k r x, AgreedAt s k r x → AgreedAt s' k r x

theorem keeps_refl (s : Store) : Keeps s s := fun _ _ _ h => h

theorem Keeps.trans {s s' s'' : Store} (h : Keeps s s') (h' : Keeps s' s'') : Keeps s s'' :=
  fun k r x hx => h' k r x (h k r x hx)

theorem keeps_of_eq {s s' : Store} (hops : s'.environmentOperations = s.environmentOperations) (hruns : s'.runs = s.runs) :
    Keeps s s' := by
  rintro k r x ⟨op, run, hop, hrun, hrest⟩
  exact ⟨op, run, by rw [hops, hop], by rw [hruns, hrun], hrest⟩

theorem terminalOutcome_eq_none {run : RunRecord} : run.terminalOutcome = none ↔ run.status.isActive = true := by
  unfold RunRecord.terminalOutcome
  split
  · next h => simp [h]
  · next h => simp [h]

section Statements

variable {s : Store} {k r : String} {x : Option String}

/-- A statement on the operations that leaves the row its run, its end and its outcome. -/
theorem agreedAt_update_operation {p : EnvironmentOperationRecord → Bool} {f : EnvironmentOperationRecord → EnvironmentOperationRecord}
    (h : AgreedAt s k r x)
    (hkeep : ∀ op, s.environmentOperations.get k = some op → p op = true → op.runId = some r → op.terminalOutcome = x →
      (f op).runId = some r ∧ (f op).status ≠ .requested ∧ (f op).terminalOutcome = x)
    {hf : ∀ op, (f op).requestId = op.requestId} :
    AgreedAt { s with environmentOperations := s.environmentOperations.update p f hf } k r x := by
  obtain ⟨op, run, hop, hrun, hid, hstatus, hoperation, hx⟩ := h
  cases hp : p op with
  | false => exact ⟨op, run, get_update_of_not hf hop hp, hrun, hid, hstatus, hoperation, hx⟩
  | true =>
    obtain ⟨hid', hstatus', hoperation'⟩ := hkeep op hop hp hid hoperation
    exact ⟨f op, run, get_update_of_pos hf hop hp, hrun, hid', hstatus', hoperation', hx⟩

/-- A statement on the runs that leaves the run its outcome. -/
theorem agreedAt_update_run {p : RunRecord → Bool} {f : RunRecord → RunRecord} (h : AgreedAt s k r x)
    (hkeep : ∀ run, s.runs.get r = some run → p run = true → run.terminalOutcome = x → (f run).terminalOutcome = x)
    {hf : ∀ run, (f run).runId = run.runId} :
    AgreedAt { s with runs := s.runs.update p f hf } k r x := by
  obtain ⟨op, run, hop, hrun, hid, hstatus, hoperation, hx⟩ := h
  cases hp : p run with
  | false => exact ⟨op, run, hop, get_update_of_not hf hrun hp, hid, hstatus, hoperation, hx⟩
  | true => exact ⟨op, f run, hop, get_update_of_pos hf hrun hp, hid, hstatus, hoperation, hkeep run hrun hp hx⟩

theorem keeps_create (draft : EnvironmentOperationDraft) : Keeps s ((s.createEnvironmentOperationRequest draft).getD s) := by
  cases hcreate : s.createEnvironmentOperationRequest draft with
  | none => exact keeps_refl s
  | some s' =>
    obtain ⟨t, ht, rfl⟩ := Option.map_eq_some_iff.mp hcreate
    rintro k r x ⟨op, run, hop, hrest⟩
    exact ⟨op, run, get_insert_of_get ht hop, hrest⟩

theorem keeps_decide (requestId : String) {record : EnvironmentOperationDecision} (h : record.status ≠ .requested) :
    Keeps s (s.decideEnvironmentOperationRequest requestId record) := by
  intro k r x hx
  refine agreedAt_update_operation hx fun op _ _ hid hoperation => ?_
  exact ⟨hid, h, hoperation⟩

/-- The row of an operation that has a run is not claimed again. -/
theorem keeps_claim (projectRoot requestName requestId runId : String) :
    Keeps s (s.claimEnvironmentOperationRequest projectRoot requestName requestId runId).1 := by
  intro k r x hx
  refine agreedAt_update_operation hx fun op _ hclaimable hid _ => ?_
  simp [claimable, hid] at hclaimable

theorem keeps_requestCancel (projectRoot runId : String) : Keeps s (s.requestCancel projectRoot runId).1 := by
  intro k r x hx
  refine agreedAt_update_run hx fun run _ hselected hrun => ?_
  simp only [Bool.and_eq_true] at hselected
  rw [← hrun, terminalOutcome_eq_none.mpr hselected.2]
  exact terminalOutcome_eq_none.mpr hselected.2

theorem keeps_createRun {s' : Store} {draft : RunDraft} (h : s.createRun draft = some s') : Keeps s s' := by
  obtain ⟨runs, hinsert, rfl⟩ := Option.map_eq_some_iff.mp h
  rintro k r x ⟨op, run, hop, hrun, hrest⟩
  exact ⟨op, run, hop, get_insert_of_get hinsert hrun, hrest⟩

/-- A run that goes on is left without an outcome when its status is set. -/
theorem agreedAt_updateRunStatus {runId : String} {status : RunStatus} (hne : r ≠ runId) (h : AgreedAt s k r x) :
    AgreedAt (s.updateRunStatus runId status none) k r x := by
  refine agreedAt_update_run h fun run hrun hselected _ => ?_
  exact absurd ((key_of_get hrun).symm.trans (of_decide_eq_true hselected)) hne

theorem agreedAt_finishRun {result : RunFinish} (hne : r ≠ result.runId) (h : AgreedAt s k r x) :
    AgreedAt (s.finishRun result) k r x := by
  refine agreedAt_update_run h fun run hrun hselected _ => ?_
  exact absurd ((key_of_get hrun).symm.trans (of_decide_eq_true hselected)) hne

theorem agreedAt_finishOperation {finish : EnvironmentOperationFinish} (hne : k ≠ finish.requestId) (h : AgreedAt s k r x) :
    AgreedAt (s.finishEnvironmentOperationRequest finish) k r x := by
  refine agreedAt_update_operation h fun op hop hselected _ _ => ?_
  exact absurd ((key_of_get hop).symm.trans (of_decide_eq_true hselected)) hne

/-- An outcome that is recorded is left as it is by what ends the incomplete ones; one that is not, is set beside the run's. -/
theorem agreedAt_interrupt {turnId outcome : String} (h : AgreedAt s k r x)
    (hended : ∀ op, s.environmentOperations.get k = some op → op.turnId = some turnId → op.source = .agent →
      op.status.isIncomplete = true → x ≠ none) : AgreedAt (s.interruptAgentEnvironmentOperations turnId outcome) k r x := by
  refine agreedAt_update_operation h fun op hop hselected hid hoperation => ?_
  refine ⟨hid, by simp, ?_⟩
  simp only [Bool.and_eq_true, decide_eq_true_eq] at hselected
  obtain ⟨y, rfl⟩ := Option.ne_none_iff_exists'.mp (hended op hop hselected.1.1 hselected.1.2 hselected.2)
  simp [coalesce, hoperation]

theorem agreedAt_recover (h : AgreedAt s k r x)
    (hended : x ≠ none) : AgreedAt s.recoverIncompleteRuns.recoverIncompleteEnvironmentOperations k r x := by
  have hruns : AgreedAt s.recoverIncompleteRuns k r x := by
    refine agreedAt_update_run h fun run _ hactive hrun => ?_
    exact absurd (hrun.symm.trans (terminalOutcome_eq_none.mpr hactive)) hended
  refine agreedAt_update_operation hruns fun op hop hselected hid hoperation => ?_
  refine ⟨hid, ?_, ?_⟩
  · dsimp only
    split <;> simp
  · obtain ⟨y, rfl⟩ := Option.ne_none_iff_exists'.mp hended
    simp [coalesce, hoperation]

/-- The two statements at the end of a dispatch give the run and the operation one outcome. -/
theorem agreedAt_finish {result : RunFinish} {status : EnvironmentOperationStatus} (h : AgreedAt s k result.runId none)
    (hrun : result.status.isActive = false) (hstatus : status ≠ .requested) :
    AgreedAt ((s.finishRun result).finishEnvironmentOperationRequest
      { requestId := k, status, runId := some result.runId,
        terminalOutcome := some (result.terminalReason.getD (runStatusName result.status)) }) k result.runId
      (some (result.terminalReason.getD (runStatusName result.status))) := by
  obtain ⟨op, run, hop, hget, hid, -, -, -⟩ := h
  have hop' : (s.finishRun result).environmentOperations.get k = some op := hop
  have hget' : (s.finishRun result).runs.get result.runId = some (finishedRun result run) :=
    get_update_of_pos (finishedRun_runId result) hget (decide_eq_true (key_of_get hget))
  refine ⟨_, finishedRun result run, get_update_of_pos ?_ hop' (decide_eq_true (key_of_get hop)), hget', rfl,
    hstatus, rfl, ?_⟩
  · exact fun _ => rfl
  unfold RunRecord.terminalOutcome
  rw [if_neg (by simp [finishedRun, hrun])]
  rfl

end Statements

/-! ## The dispatch -/

/-- The claim takes an approved operation that has no run, and gives it the run. -/
theorem ends_claimOperation (requestType executionId projectRoot : String) (o : PrepareOutcome) (operation : Option String)
    (c : Coordinator) : Ends
      (fun _ c' => c'.store.runs = c.store.runs ∧ Keeps c.store c'.store ∧ ∀ k, operation = some k →
        ∃ op op', c.store.environmentOperations.get k = some op ∧ op.status = .approved ∧ op.runId = none ∧
          c'.store.environmentOperations.get k = some op' ∧ op'.runId = some executionId ∧ op'.status ≠ .requested ∧
          op'.terminalOutcome = op.terminalOutcome)
      (fun _ c' => Keeps c.store c'.store) (claimOperation requestType executionId projectRoot o operation c) := by
  cases operation with
  | none => exact ⟨rfl, keeps_refl _, fun k hk => absurd hk (by simp)⟩
  | some requestId =>
    refine ends_attempt_bind (fun _ _ => keeps_refl _) fun _ => ?_
    have hkeeps : Keeps c.store (c.store.claimEnvironmentOperationRequest projectRoot requestType requestId executionId).1 :=
      keeps_claim _ _ _ _
    refine ends_bind (P := fun claimed c' =>
      claimed = (c.store.claimEnvironmentOperationRequest projectRoot requestType requestId executionId).2 ∧
        c'.store = (c.store.claimEnvironmentOperationRequest projectRoot requestType requestId executionId).1) ⟨rfl, rfl⟩ ?_
    rintro claimed c₁ ⟨hclaimed, h₁⟩
    refine ends_ofResult (fun _ hensure => ?_) fun _ _ => h₁ ▸ hkeeps
    rw [h₁]
    refine ⟨rfl, hkeeps, ?_⟩
    rintro _ ⟨⟩
    have htrue : claimed = true := by
      cases claimed with
      | true => rfl
      | false => cases hensure
    have hselect : ∀ r, claimable projectRoot requestType requestId r = true →
        r.requestId = requestId ∧ r.status = .approved ∧ r.runId = none := by
      intro r hr
      simp only [claimable, Bool.and_eq_true, decide_eq_true_eq, Option.isNone_iff_eq_none] at hr
      exact ⟨hr.1.1.2, hr.1.2, hr.2⟩
    obtain ⟨op, hop, hp⟩ := (changed_eq_one_iff _ _ requestId fun r hr => (hselect r hr).1).mp
      (eq_of_beq (hclaimed.symm.trans htrue))
    refine ⟨op, _, hop, (hselect op hp).2.1, (hselect op hp).2.2, get_update_of_pos ?_ hop hp, rfl, ?_, rfl⟩
    · exact fun _ => rfl
    · simp

/-- What the part before the hand-over makes of the store: a run of its own, and an operation that had none is with it. -/
structure Prepared (s s' : Store) (h : Handover) : Prop where
  keeps : Keeps s s'
  fresh : s.runs.get h.executionId = none
  taken : ∀ k, h.environmentOperation = some k →
    (∃ op, s.environmentOperations.get k = some op ∧ op.runId = none) ∧ AgreedAt s' k h.executionId none

theorem ends_prepareDispatch (call : DispatchCall) (o : PrepareOutcome) (c : Coordinator)
    (hclear : ∀ k op, environmentOperationRequestId call.requestType call.payload = .ok (some k) →
      c.store.environmentOperations.get k = some op → op.status = .approved → op.runId = none → op.terminalOutcome = none) :
    Ends (fun h c' => environmentOperationRequestId call.requestType call.payload = .ok h.environmentOperation ∧
        Prepared c.store c'.store h) (fun _ c' => Keeps c.store c'.store) (prepareDispatch call o c) := by
  unfold prepareDispatch
  refine ends_get ?_
  refine ends_bind (P := fun h c' => authorizeDispatch call o c = .ok h ∧ c = c')
    (ends_ofResult (fun h hh => ⟨hh, rfl⟩) fun _ _ => keeps_refl _) ?_
  rintro h _ ⟨hauthorize, rfl⟩
  obtain ⟨-, -, hoperation⟩ := authorizeDispatch_ok hauthorize
  refine ends_bind (ends_claimOperation _ _ _ _ _ c) ?_
  rintro _ c₁ ⟨hruns, hkeeps, htaken⟩
  refine ends_attempt_bind (fun _ _ => hkeeps) fun _ => ?_
  refine ends_attempt_bind (fun _ _ => hkeeps) fun _ => ?_
  refine ends_bind ((ends_storeTry _ _ c₁).mono (fun _ _ hc => hc) fun _ c' hc => hc ▸ hkeeps) ?_
  rintro _ c₂ hcreate
  have hcreated : Keeps c.store c₂.store := hkeeps.trans (keeps_createRun hcreate)
  obtain ⟨hfresh, hrow⟩ := get_createRun hcreate
  change c₁.store.runs.get h.executionId = none at hfresh
  change ∀ k, c₂.store.runs.get k = runsWith c₁.store.runs h.executionId _ k at hrow
  rw [hruns] at hfresh
  refine ends_attempt_bind (fun _ _ => hcreated) fun _ => ?_
  refine ends_bind (P := fun _ (c' : Coordinator) => c'.store = c₂.store.updateRunStatus h.executionId .running none) rfl ?_
  intro _ c₃ h₃
  -- The run is new, so it is none of those that the operations are with.
  have hmarked : Keeps c.store c₃.store := by
    intro k r x hx
    rw [h₃]
    refine agreedAt_updateRunStatus ?_ (hcreated k r x hx)
    rintro rfl
    obtain ⟨-, run, -, hrun, -⟩ := hx
    rw [hfresh] at hrun
    cases hrun
  refine ends_attempt_bind (fun _ _ => hmarked) fun _ => ?_
  refine ⟨hoperation, hmarked, hfresh, fun k hk => ?_⟩
  obtain ⟨op, op', hop, happroved, hid, hop', hid', hstatus, houtcome⟩ := htaken k hk
  refine ⟨⟨op, hop, hid⟩, op', { queuedRun (runDraft h call.origin c.broker.identity) with status := .running }, ?_, ?_, hid',
    hstatus, houtcome.trans (hclear k op (hoperation.trans (congrArg Except.ok hk)) hop happroved hid), rfl⟩
  · obtain ⟨runs, -, hc₂⟩ := Option.map_eq_some_iff.mp hcreate
    rw [h₃, ← hc₂]
    exact hop'
  · rw [h₃, get_updateRunStatus, runsWith, if_pos rfl, hrow, runsWith, if_pos rfl]
    rfl

/-- What the part after the kernel's answer makes of the store. -/
structure Concluded (h : Handover) (o : ConcludeOutcome) (s s' : Store) : Prop where
  keeps : ∀ k r x, r ≠ h.executionId → h.environmentOperation ≠ some k → AgreedAt s k r x → AgreedAt s' k r x
  own : ∀ k, h.environmentOperation = some k → (RunEnds o → o.fault .finishOperation = none) → AgreedAt s k h.executionId none →
    ∃ x, AgreedAt s' k h.executionId x

theorem concluded_of_eq {h : Handover} {o : ConcludeOutcome} {s s' : Store} (hops : s'.environmentOperations = s.environmentOperations)
    (hruns : s'.runs = s.runs) : Concluded h o s s' where
  keeps k r x _ _ hx := keeps_of_eq hops hruns k r x hx
  own k _ _ hx := ⟨none, keeps_of_eq hops hruns k _ none hx⟩

/-- The end of the run and that of its operation, from a store with the rows of the one before. -/
theorem ends_finishOperation (h : Handover) (o : ConcludeOutcome) (hends : RunEnds o) (s : Store) {c : Coordinator} {result : RunFinish}
    (hresult : result.runId = h.executionId) (hactive : result.status.isActive = false) (status : EnvironmentOperationStatus)
    (hstatus : status ≠ .requested) (hops : c.store.environmentOperations = s.environmentOperations)
    (hruns : c.store.runs = (s.finishRun result).runs) :
    Ends (fun _ c' => Concluded h o s c'.store) (fun _ c' => o.fault .finishOperation ≠ none ∧ Concluded h o s c'.store)
      (finishOperation h o status (result.terminalReason.getD (runStatusName result.status)) c) := by
  have hfinished : Keeps (s.finishRun result) c.store := keeps_of_eq hops hruns
  have hother : ∀ k r x, r ≠ h.executionId → AgreedAt s k r x → AgreedAt c.store k r x := fun k r x hr hx =>
    hfinished k r x (agreedAt_finishRun (by rw [hresult]; exact hr) hx)
  unfold finishOperation
  cases hoperation : h.environmentOperation with
  | none =>
    refine ⟨fun k r x hr _ hx => hother k r x hr hx, fun k hk => ?_⟩
    rw [hoperation] at hk
    cases hk
  | some requestId =>
    refine ends_bind (P := fun _ c' => c = c') (ends_attempt (fun _ => rfl) fun e he => ⟨by rw [he]; simp, ?_⟩) ?_
    · refine ⟨fun k r x hr _ hx => hother k r x hr hx, fun k _ hfault _ => ?_⟩
      rw [hfault hends] at he
      cases he
    rintro _ _ rfl
    refine ⟨fun k r x hr hk hx => ?_, fun k hk _ hx => ?_⟩
    · refine agreedAt_finishOperation ?_ (hother k r x hr hx)
      rintro rfl
      exact hk hoperation
    · rw [hoperation] at hk
      cases hk
      rw [← hresult] at hx ⊢
      refine ⟨_, keeps_of_eq ?_ ?_ _ _ _ (agreedAt_finish hx hactive hstatus)⟩
      · simp only [finishEnvironmentOperationRequest, finishRun, hops]
      · exact hruns

theorem ends_concludeWithout (h : Handover) (o : ConcludeOutcome) (terminalReason : String) (c : Coordinator)
    (hkernel : ∀ result, o.kernel ≠ .finished result) :
    Ends (fun _ c' => Concluded h o c.store c'.store) (fun _ c' => Concluded h o c.store c'.store)
      (concludeWithout h o terminalReason c) := by
  unfold concludeWithout
  refine ends_get ?_
  obtain ⟨cancelled, hcancelled⟩ : ∃ b, (c.store.cancelRequested h.executionId).getD false = b := ⟨_, rfl⟩
  rw [hcancelled]
  refine ends_bind (P := fun _ c' => o.fault .finishRun = none ∧ c = c')
    (ends_attempt (fun hfault => ⟨hfault, rfl⟩) fun _ _ => concluded_of_eq rfl rfl) ?_
  rintro _ _ ⟨hfault, rfl⟩
  have hends : RunEnds o := ⟨hfault, fun result hresult => absurd hresult (hkernel result)⟩
  obtain ⟨result, hresult⟩ : ∃ result : RunFinish, result =
      { runId := h.executionId
        status := if cancelled then .interrupted else .failed
        terminalReason := some (if cancelled then "user_interrupt" else terminalReason)
        workspaceId := none
        stateRevisionAfter := none
        projectRevisionAfter := none } := ⟨_, rfl⟩
  refine ends_bind (P := fun _ (c' : Coordinator) => c'.store = c.store.finishRun result) (by rw [hresult]; rfl) ?_
  intro _ c₁ h₁
  have hactive : result.status.isActive = false := by
    rw [hresult]
    cases cancelled <;> rfl
  have hreason : result.terminalReason.getD (runStatusName result.status) = if cancelled then "user_interrupt" else terminalReason := by
    rw [hresult]
    rfl
  rw [← hreason]
  refine (ends_finishOperation h o hends c.store (by rw [hresult]) hactive _ ?_ (by rw [h₁]; rfl) (by rw [h₁])).mono
    (fun _ _ hc => hc) fun _ _ hc => hc.2
  cases cancelled <;> simp

/-- The exit with a result ends without an error when nothing fails on the way. -/
theorem ends_concludeWith (h : Handover) (o : ConcludeOutcome) (execution : Json) (s : Store) {c : Coordinator}
    (hstore : c.store = s) :
    Ends (fun _ c' => Concluded h o s c'.store) (fun _ c' => ¬Returns o ∧ Concluded h o s c'.store) (concludeWith h o execution c) := by
  have hfails : ∀ step e, o.fault step = some e → step ∈ [DispatchStep.saveIdentity, .finishRun, .finishOperation, .plotArtifacts,
      .generatedFiles, .renderArtifact] → ¬Returns o := by
    intro step e he hmem hreturns
    rw [hreturns.2 step hmem] at he
    cases he
  unfold concludeWith
  refine ends_bind (P := fun _ c' => o.fault .saveIdentity = none ∧ c = c') (ends_attempt (fun hfault => ⟨hfault, rfl⟩) fun e he =>
    ⟨hfails _ e he (by simp), concluded_of_eq (by rw [hstore]) (by rw [hstore])⟩) ?_
  rintro _ _ ⟨hsave, rfl⟩
  refine ends_bind (P := fun _ (c' : Coordinator) => c'.store.environmentOperations = s.environmentOperations ∧
    c'.store.runs = s.runs) ⟨by rw [← hstore]; rfl, by rw [← hstore]; rfl⟩ ?_
  rintro _ c₁ ⟨hops, hruns⟩
  refine ends_get ?_
  refine ends_bind (P := fun _ c' => o.fault .finishRun = none ∧ c₁ = c') (ends_attempt (fun hfault => ⟨hfault, rfl⟩) fun e he =>
    ⟨hfails _ e he (by simp), concluded_of_eq hops hruns⟩) ?_
  rintro _ _ ⟨hfault, rfl⟩
  have hends : RunEnds o := ⟨hfault, fun _ _ => hsave⟩
  obtain ⟨failed, hfailed⟩ : ∃ b, workspaceResultFailed execution = b := ⟨_, rfl⟩
  rw [hfailed]
  obtain ⟨result, hresult⟩ : ∃ result : RunFinish, result =
      { runId := h.executionId
        status := if failed then .failed else .completed
        terminalReason := if failed then some "r_error" else none
        workspaceId := some c₁.broker.identity.workspaceId
        stateRevisionAfter := some c₁.broker.identity.stateRevision
        projectRevisionAfter := some c₁.broker.identity.projectRevision } := ⟨_, rfl⟩
  refine ends_bind (P := fun _ (c' : Coordinator) => c'.store = c₁.store.finishRun result) (by rw [hresult]; rfl) ?_
  intro _ c₂ h₂
  have hactive : result.status.isActive = false := by
    rw [hresult]
    cases failed <;> rfl
  have hreason : result.terminalReason.getD (runStatusName result.status) = if failed then "r_error" else "completed" := by
    rw [hresult]
    cases failed <;> rfl
  rw [← hreason]
  refine ends_bind ((ends_finishOperation h o hends s (by rw [hresult]) hactive _ ?_ (by rw [h₂, ← hops]; rfl) ?_).mono
    (fun _ _ hc => hc) fun _ _ hc => ⟨fun hreturns => hc.1 (hreturns.2 _ (by simp)), hc.2⟩) ?_
  · cases failed <;> simp
  · simp only [h₂, finishRun, hruns]
  intro _ c₃ h₃
  -- What is left writes neither of the two rows.
  refine ends_attempt_bind (fun e he => ⟨hfails _ e he (by simp), h₃⟩) fun _ => ?_
  refine ends_attempt_bind (fun e he => ⟨hfails _ e he (by simp), h₃⟩) fun _ => ?_
  refine ends_attempt_bind (fun e he => ⟨hfails _ e he (by simp), h₃⟩) fun _ => ?_
  exact h₃

/-- The dispatch from the kernel's answer on; where nothing fails after a result, it returns the result. -/
theorem ends_concludeDispatch (h : Handover) (o : ConcludeOutcome) (c : Coordinator) :
    Ends (fun _ c' => Concluded h o c.store c'.store) (fun _ c' => ¬Returns o ∧ Concluded h o c.store c'.store)
      (concludeDispatch h o c) := by
  unfold concludeDispatch
  cases hkernel : o.kernel with
  | error =>
    have hno : ∀ result, o.kernel ≠ .finished result := fun result => by rw [hkernel]; simp
    have hreturns : ¬Returns o := fun hreturns => hreturns.1.elim hno
    exact ends_bind ((ends_concludeWithout h o _ c hno).mono (fun _ _ hc => hc) fun _ _ hc => ⟨hreturns, hc⟩)
      fun _ _ hc => ⟨hreturns, hc⟩
  | unreadable message =>
    have hno : ∀ result, o.kernel ≠ .finished result := fun result => by rw [hkernel]; simp
    have hreturns : ¬Returns o := fun hreturns => hreturns.1.elim hno
    exact ends_bind ((ends_concludeWithout h o _ c hno).mono (fun _ _ hc => hc) fun _ _ hc => ⟨hreturns, hc⟩)
      fun _ _ hc => ⟨hreturns, hc⟩
  | finished result =>
    refine ends_bind (P := fun _ (c' : Coordinator) => c'.store = c.store) rfl ?_
    intro _ c₁ h₁
    exact ends_concludeWith h o result c.store h₁

/-! ## What every step keeps -/

/-- Every operation that was handed over agrees with its run, and what holds the coordinator is about an operation of its own. -/
structure OutcomesOk (s : OperationSystem) : Prop where
  agreed : ∀ p ∈ s.handedOver, ∃ x, AgreedAt s.coordinator.store p.1 p.2 x
  apart : ∀ p ∈ s.handedOver, ∀ q ∈ s.handedOver, p.2 = q.2 → p.1 = q.1
  deciding : ∀ request decision origin, s.lane = .deciding request decision origin → ∀ p ∈ s.handedOver, p.1 ≠ request.requestId
  own : ∀ h decided, s.lane = .running h decided → ∀ k, h.environmentOperation = some k →
    (k, h.executionId) ∈ s.handedOver ∧ AgreedAt s.coordinator.store k h.executionId none
  other : ∀ h decided, s.lane = .running h decided → ∀ p ∈ s.handedOver, p.2 = h.executionId → h.environmentOperation = some p.1
  decided : ∀ h k, s.lane = .running h (some k) → h.environmentOperation = some k ∨ ∀ p ∈ s.handedOver, p.1 ≠ k

/-- The operations that were handed over still are, with the outcomes that they had. -/
def Kept (s s' : OperationSystem) : Prop :=
  ∀ p ∈ s.handedOver, p ∈ s'.handedOver ∧
    ∀ x, AgreedAt s.coordinator.store p.1 p.2 (some x) → AgreedAt s'.coordinator.store p.1 p.2 (some x)

theorem outcomesOk_start (c : Coordinator) : OutcomesOk (.start c) where
  agreed _ hp := absurd hp List.not_mem_nil
  apart _ hp := absurd hp List.not_mem_nil
  deciding _ _ _ h := nomatch h
  own _ _ h := nomatch h
  other _ _ h := nomatch h
  decided _ _ h := nomatch h

section Steps

variable {s s' : OperationSystem}

/-- A step that hands nothing over and takes up nothing, and leaves the operations that were handed over as they are. -/
theorem ok_quiet (hs : OutcomesOk s) (hhanded : s'.handedOver = s.handedOver) (hlane : s'.lane = s.lane ∨ s'.lane = .free)
    (hstore : ∀ p ∈ s.handedOver, ∀ x, AgreedAt s.coordinator.store p.1 p.2 x → AgreedAt s'.coordinator.store p.1 p.2 x) :
    OutcomesOk s' ∧ Kept s s' := by
  have hsame : ∀ {lane}, s'.lane = lane → lane ≠ .free → s.lane = lane := by
    intro lane hl hne
    rcases hlane with hlane | hlane
    · exact hlane.symm.trans hl
    · exact absurd (hl.symm.trans hlane) hne
  refine ⟨⟨?_, ?_, ?_, ?_, ?_, ?_⟩, fun p hp => ⟨by rw [hhanded]; exact hp, fun x hx => hstore p hp _ hx⟩⟩
  · intro p hp
    rw [hhanded] at hp
    obtain ⟨x, hx⟩ := hs.agreed p hp
    exact ⟨x, hstore p hp x hx⟩
  · rw [hhanded]
    exact hs.apart
  · rw [hhanded]
    exact fun request decision origin hl => hs.deciding request decision origin (hsame hl (by simp))
  · intro h decided hl k hk
    obtain ⟨hmem, hx⟩ := hs.own h decided (hsame hl (by simp)) k hk
    exact ⟨by rw [hhanded]; exact hmem, hstore _ hmem _ hx⟩
  · rw [hhanded]
    exact fun h decided hl => hs.other h decided (hsame hl (by simp))
  · rw [hhanded]
    exact fun h k hl => hs.decided h k (hsame hl (by simp))

/-- A statement that leaves every operation as it is. -/
theorem ok_onStore (hs : OutcomesOk s) {f : Store → Store} (hkeeps : Keeps s.coordinator.store (f s.coordinator.store)) :
    OutcomesOk (s.onStore f) ∧ Kept s (s.onStore f) :=
  ok_quiet hs rfl (.inl rfl) fun p _ x hx => hkeeps p.1 p.2 x hx

/-- The hand-over of a dispatch that a decision waits for only if it is on the operation of the dispatch. -/
theorem ok_handOver (hs : OutcomesOk s) {c : Coordinator} {h : Handover} {decided : Option String}
    (hprepared : Prepared s.coordinator.store c.store h)
    (hdecided : ∀ k, decided = some k → h.environmentOperation = some k ∨
      h.environmentOperation = none ∧ ∀ p ∈ s.handedOver, p.1 ≠ k) :
    OutcomesOk (s.handOver c h decided) ∧ Kept s (s.handOver c h decided) := by
  have hmem : ∀ p, p ∈ (s.handOver c h decided).handedOver ↔
      h.environmentOperation = some p.1 ∧ p.2 = h.executionId ∨ p ∈ s.handedOver := by
    intro p
    unfold handOver
    rw [List.mem_append]
    refine or_congr_left ?_
    cases h.environmentOperation with
    | none => simp
    | some k => simp [Prod.ext_iff, eq_comm]
  -- The run is new, so none of the operations is with it.
  have hfresh : ∀ p ∈ s.handedOver, p.2 ≠ h.executionId := by
    intro p hp heq
    obtain ⟨x, op, run, -, hrun, -⟩ := hs.agreed p hp
    rw [heq, hprepared.fresh] at hrun
    cases hrun
  have hold : ∀ p ∈ s.handedOver, ∀ x, AgreedAt s.coordinator.store p.1 p.2 x → AgreedAt c.store p.1 p.2 x :=
    fun p _ x hx => hprepared.keeps p.1 p.2 x hx
  refine ⟨⟨?_, ?_, ?_, ?_, ?_, ?_⟩, fun p hp => ⟨(hmem p).mpr (.inr hp), fun x hx => hold p hp _ hx⟩⟩
  · intro p hp
    rcases (hmem p).mp hp with ⟨hk, hr⟩ | hp
    · exact ⟨none, hr ▸ (hprepared.taken p.1 hk).2⟩
    · obtain ⟨x, hx⟩ := hs.agreed p hp
      exact ⟨x, hold p hp x hx⟩
  · intro p hp q hq heq
    rcases (hmem p).mp hp with ⟨hk, hr⟩ | hp <;> rcases (hmem q).mp hq with ⟨hk', hr'⟩ | hq
    · exact Option.some.inj (hk.symm.trans hk')
    · exact absurd (heq.symm.trans hr) (hfresh q hq)
    · exact absurd (heq.trans hr') (hfresh p hp)
    · exact hs.apart p hp q hq heq
  · intro request decision origin hl
    cases hl
  · rintro _ _ ⟨⟩ k hk
    exact ⟨(hmem _).mpr (.inl ⟨hk, rfl⟩), (hprepared.taken k hk).2⟩
  · rintro _ _ ⟨⟩ p hp hr
    rcases (hmem p).mp hp with ⟨hk, -⟩ | hp
    · exact hk
    · exact absurd hr (hfresh p hp)
  · rintro _ k ⟨⟩
    rcases hdecided k rfl with hk | ⟨hnone, hk⟩
    · exact .inl hk
    · refine .inr fun p hp => ?_
      rcases (hmem p).mp hp with ⟨hk', -⟩ | hp
      · rw [hnone] at hk'
        cases hk'
      · exact hk p hp

theorem ok_dispatch (hs : OutcomesOk s) {call : DispatchCall} {o : PrepareOutcome} (hl : RecordsTruly s (.dispatch call o)) :
    OutcomesOk (s.dispatch call o) ∧ Kept s (s.dispatch call o) := by
  unfold dispatch
  cases hlane : s.lane with
  | deciding _ _ _ => exact ok_quiet hs rfl (.inl rfl) fun _ _ _ hx => hx
  | running _ _ => exact ok_quiet hs rfl (.inl rfl) fun _ _ _ hx => hx
  | free =>
    have hprepare := ends_prepareDispatch call o s.coordinator (hl hlane)
    dsimp only
    cases hresult : prepareDispatch call o s.coordinator with
    | ok h c =>
      rw [hresult] at hprepare
      exact ok_handOver hs hprepare.2 fun k hk => nomatch hk
    | error e c =>
      rw [hresult] at hprepare
      exact ok_quiet hs rfl (.inr rfl) fun p _ x hx => hprepare p.1 p.2 x hx

theorem ends_pendingEnvironmentOperation (requestId : String) (o : ResolveOutcome) (c : Coordinator) :
    Ends (fun request c' => c = c' ∧ c.store.environmentOperations.get request.requestId = some request ∧ request.status = .requested)
      (fun _ c' => c = c') (pendingEnvironmentOperation requestId o c) := by
  unfold pendingEnvironmentOperation
  refine ends_attempt_bind (fun _ _ => rfl) fun _ => ?_
  refine ends_get ?_
  refine ends_ofResult_bind (fun _ _ => rfl) fun projectRoot _ => ?_
  refine ends_attempt_bind (fun _ _ => rfl) fun _ => ?_
  refine ends_bind (P := fun request c' => c.store.environmentOperations.get requestId = some request ∧ c = c')
    (ends_ofResult (fun request hrequest => ?_) fun _ _ => rfl) ?_
  · cases hget : c.store.getEnvironmentOperationRequest projectRoot requestId with
    | none =>
      rw [hget] at hrequest
      cases hrequest
    | some request' =>
      rw [hget] at hrequest
      cases hrequest
      exact ⟨(Option.filter_eq_some_iff.mp hget).1, rfl⟩
  rintro request _ ⟨hrequest, rfl⟩
  refine ends_bind (P := fun _ c' => request.status = .requested ∧ c = c') (ends_ofResult (fun _ hensure => ⟨?_, rfl⟩) fun _ _ => rfl) ?_
  · by_contra hne
    simp [ensure, hne] at hensure
  rintro _ _ ⟨hstatus, rfl⟩
  refine ⟨rfl, ?_, hstatus⟩
  rw [key_of_get hrequest]
  exact hrequest

/-- A pending request is none of the operations that were handed over. -/
theorem ok_beginDecision (hs : OutcomesOk s) (requestId decision : String) (origin : ExecutionOrigin) (o : ResolveOutcome) :
    OutcomesOk (s.beginDecision requestId decision origin o) ∧ Kept s (s.beginDecision requestId decision origin o) := by
  unfold beginDecision
  cases hlane : s.lane with
  | deciding _ _ _ => exact ok_quiet hs rfl (.inl rfl) fun _ _ _ hx => hx
  | running _ _ => exact ok_quiet hs rfl (.inl rfl) fun _ _ _ hx => hx
  | free =>
    have hpending := ends_pendingEnvironmentOperation requestId o s.coordinator
    cases hresult : pendingEnvironmentOperation requestId o s.coordinator with
    | error e c =>
      rw [hresult] at hpending
      cases hpending
      exact ok_quiet hs rfl (.inr rfl) fun _ _ _ hx => hx
    | ok request c =>
      rw [hresult] at hpending
      obtain ⟨rfl, hrequest, hstatus⟩ := hpending
      refine ⟨⟨hs.agreed, hs.apart, ?_, nofun, nofun, nofun⟩,
        fun p hp => ⟨hp, fun _ hx => hx⟩⟩
      rintro _ _ _ ⟨⟩ p hp heq
      obtain ⟨x, op, run, hop, -, -, hne, -⟩ := hs.agreed p hp
      rw [heq, hrequest] at hop
      cases hop
      exact hne hstatus

/-- The decision is written or not, and only an approval goes on. -/
theorem ends_decidePendingOperation (request : EnvironmentOperationRecord) (decision : String) (o : ResolveOutcome) (c : Coordinator) :
    let written (c' : Coordinator) := c'.store = c.store ∨ ∃ record : EnvironmentOperationDecision, record.status ≠ .requested ∧
      c'.store = c.store.decideEnvironmentOperationRequest request.requestId record
    Ends (fun approved c' => (approved = true → decision = "approve") ∧ written c') (fun _ c' => written c')
      (decidePendingOperation request decision o c) := by
  intro written
  have hwrite : ∀ (status : EnvironmentOperationStatus) (approved : Bool), status ≠ .requested → (approved = true → decision = "approve") →
      Ends (fun approved c' => (approved = true → decision = "approve") ∧ written c') (fun _ c' => written c')
        (((attempt (o.fault .decide) >>= fun _ =>
          onStore (·.decideEnvironmentOperationRequest request.requestId { status, decision := some decision })) >>=
            fun _ => pure approved : CoordinatorM Bool) c) := by
    intro status approved hstatus happroved
    refine ends_bind (P := fun _ c' => written c') (ends_bind (P := fun _ c' => c = c')
      (ends_attempt (fun _ => rfl) fun _ _ => .inl rfl) ?_) fun _ _ hc' => ⟨happroved, hc'⟩
    rintro _ _ rfl
    exact .inr ⟨⟨status, some decision⟩, hstatus, rfl⟩
  unfold decidePendingOperation
  by_cases hdecision : decision = "approve"
  · rw [if_neg (not_not.mpr hdecision)]
    refine ends_attempt_bind (fun _ _ => .inl rfl) fun _ => ?_
    refine ends_get ?_
    cases environmentOperationStaleReason request c.broker (slashes (c.store.activeProjectRoot.getD "")) o.snapshotId with
    | some _ => exact hwrite .stale false (by simp) (by simp)
    | none => exact hwrite .approved true (by simp) fun _ => hdecision
  · rw [if_pos hdecision]
    refine hwrite _ false ?_ (by simp)
    split <;> simp

theorem operation_confirmedCall (request : EnvironmentOperationRecord) (arguments : EnvironmentOperationArguments)
    (origin : ExecutionOrigin) (identity : WorkspaceIdentity) :
    let call := confirmedCall request arguments origin identity
    environmentOperationRequestId call.requestType call.payload =
      .ok (if requestTypeUsesEnvironmentContract request.requestName then some request.requestId else none) := by
  intro call
  unfold environmentOperationRequestId
  change (if requestTypeUsesEnvironmentContract request.requestName = true then _ else _) = _
  split
  · rfl
  · rfl

/-- The stored arguments are decoded and dispatched, or the dispatch fails at once. -/
theorem executeConfirmed_cases (request : EnvironmentOperationRecord) (origin : ExecutionOrigin) (o : PrepareOutcome) (c : Coordinator) :
    (∃ arguments, executeConfirmedEnvironmentOperation request origin o c =
      prepareDispatch (confirmedCall request arguments origin c.broker.identity) o c) ∨
    ∃ e, executeConfirmedEnvironmentOperation request origin o c = .error e c := by
  have hget : ∀ g : Coordinator → CoordinatorM Handover, ((get : CoordinatorM Coordinator) >>= g) c = g c c := fun _ => rfl
  cases hdecoded : orError ((Json.rawParse request.argumentsJson.toList).bind decodeEnvironmentOperationArguments)
      "decoding stored environment operation arguments" with
  | ok arguments =>
    have hok : ∀ g : EnvironmentOperationArguments → CoordinatorM Handover,
        ((ofResult (.ok arguments) : CoordinatorM EnvironmentOperationArguments) >>= g) c = g arguments c := fun _ => rfl
    refine .inl ⟨arguments, ?_⟩
    unfold executeConfirmedEnvironmentOperation
    rw [hdecoded, hok, hget]
  | error e =>
    have herror : ∀ g : EnvironmentOperationArguments → CoordinatorM Handover,
        ((ofResult (.error e) : CoordinatorM EnvironmentOperationArguments) >>= g) c = .error e c := fun _ => rfl
    refine .inr ⟨e, ?_⟩
    unfold executeConfirmedEnvironmentOperation
    rw [hdecoded, herror]

theorem ends_executeConfirmed (request : EnvironmentOperationRecord) (origin : ExecutionOrigin) (o : PrepareOutcome) (c : Coordinator)
    (hclear : ∀ op, c.store.environmentOperations.get request.requestId = some op → op.runId = none → op.terminalOutcome = none) :
    Ends
      (fun h c' => (h.environmentOperation = none ∨ h.environmentOperation = some request.requestId) ∧ Prepared c.store c'.store h)
      (fun _ c' => Keeps c.store c'.store) (executeConfirmedEnvironmentOperation request origin o c) := by
  rcases executeConfirmed_cases request origin o c with ⟨arguments, heq⟩ | ⟨e, heq⟩
  · rw [heq]
    have hoperation := operation_confirmedCall request arguments origin c.broker.identity
    generalize confirmedCall request arguments origin c.broker.identity = call at hoperation ⊢
    refine (ends_prepareDispatch call o c fun k op hk hop _ hid => ?_).mono (fun h c' hc => ⟨?_, hc.2⟩) fun _ _ hc => hc
    · obtain hk := hoperation.symm.trans hk
      split at hk
      · cases hk
        exact hclear op hop hid
      · cases hk
    · obtain hk := Except.ok.inj (hoperation.symm.trans hc.1)
      split at hk
      · exact .inr hk.symm
      · exact .inl hk.symm
  · rw [heq]
    exact keeps_refl _

/-- The dispatch error goes to the request of the decision. -/
theorem agreedAt_recordDispatchError {store : Store} {k r requestId : String} {x : Option String} (fault : Option String)
    (hne : k ≠ requestId) (h : AgreedAt store k r x) : AgreedAt (recordDispatchError requestId fault store) k r x := by
  unfold recordDispatchError
  cases fault with
  | some _ => exact h
  | none => exact agreedAt_finishOperation hne h

theorem ok_writeDecision (hs : OutcomesOk s) {o : ResolveOutcome} {before : PrepareOutcome} {fault : Option String}
    (hl : RecordsTruly s (.writeDecision o before fault)) :
    OutcomesOk (s.writeDecision o before fault) ∧ Kept s (s.writeDecision o before fault) := by
  unfold writeDecision
  cases hlane : s.lane with
  | free => exact ok_quiet hs rfl (.inl rfl) fun _ _ _ hx => hx
  | running _ _ => exact ok_quiet hs rfl (.inl rfl) fun _ _ _ hx => hx
  | deciding request decision origin =>
    have hdecide := ends_decidePendingOperation request decision o s.coordinator
    have hwritten : ∀ c' : Coordinator, (c'.store = s.coordinator.store ∨ ∃ record : EnvironmentOperationDecision,
        record.status ≠ .requested ∧ c'.store = s.coordinator.store.decideEnvironmentOperationRequest request.requestId record) →
        Keeps s.coordinator.store c'.store := by
      rintro c' (heq | ⟨record, hstatus, heq⟩)
      · rw [heq]
        exact keeps_refl _
      · rw [heq]
        exact keeps_decide _ hstatus
    dsimp only
    cases hresult : decidePendingOperation request decision o s.coordinator with
    | error e c =>
      rw [hresult] at hdecide
      exact ok_quiet hs rfl (.inr rfl) fun p _ x hx => hwritten c hdecide p.1 p.2 x hx
    | ok approved c =>
      rw [hresult] at hdecide
      obtain ⟨happrove, hc⟩ := hdecide
      cases approved with
      | false => exact ok_quiet hs rfl (.inr rfl) fun p _ x hx => hwritten c hc p.1 p.2 x hx
      | true =>
        -- The operation is prepared in the state after the decision.
        obtain ⟨hs₁, hkept₁⟩ : OutcomesOk { s with coordinator := c, lane := .free } ∧
            Kept s { s with coordinator := c, lane := .free } :=
          ok_quiet hs rfl (.inr rfl) fun p _ x hx => hwritten c hc p.1 p.2 x hx
        have hown : ∀ p ∈ s.handedOver, p.1 ≠ request.requestId := hs.deciding request decision origin hlane
        have hclear : ∀ op, c.store.environmentOperations.get request.requestId = some op → op.runId = none →
            op.terminalOutcome = none := by
          intro op hop hid
          have hl' : ∀ op, s.coordinator.store.environmentOperations.get request.requestId = some op → op.runId = none →
              op.terminalOutcome = none := fun op => hl request origin op (by rw [hlane, happrove rfl])
          rcases hc with heq | ⟨record, -, heq⟩
          · rw [heq] at hop
            exact hl' op hop hid
          · rw [heq, decideEnvironmentOperationRequest, get_update_key, if_pos rfl] at hop
            obtain ⟨op', hop', rfl⟩ := Option.map_eq_some_iff.mp hop
            exact hl' op' hop' hid
        have hprepare := ends_executeConfirmed request origin before c hclear
        dsimp only
        cases hprepared : executeConfirmedEnvironmentOperation request origin before c with
        | ok h c' =>
          rw [hprepared] at hprepare
          obtain ⟨hoperation, hprepare⟩ := hprepare
          have hdecided : ∀ k, some request.requestId = some k → h.environmentOperation = some k ∨
              h.environmentOperation = none ∧ ∀ p ∈ s.handedOver, p.1 ≠ k := by
            rintro _ ⟨⟩
            rcases hoperation with hnone | hsome
            · exact .inr ⟨hnone, hown⟩
            · exact .inl hsome
          obtain ⟨hok, hkept⟩ := ok_handOver hs₁ hprepare hdecided
          refine ⟨hok, fun p hp => ⟨(hkept p hp).1, fun x hx => (hkept p hp).2 x ((hkept₁ p hp).2 x hx)⟩⟩
        | error e c' =>
          rw [hprepared] at hprepare
          refine ok_quiet hs rfl (.inr rfl) fun p hp x hx => ?_
          exact agreedAt_recordDispatchError fault (hown p hp) (hprepare _ _ _ (hwritten c hc p.1 p.2 x hx))

/-- The end of a dispatch, where its decision writes no error over the end of its operation. -/
theorem ok_conclude (hs : OutcomesOk s) {o : ConcludeOutcome} {fault : Option String} (hl : RecordsTruly s (.conclude o fault)) :
    OutcomesOk (s.conclude o fault) ∧ Kept s (s.conclude o fault) := by
  unfold conclude
  cases hlane : s.lane with
  | free => exact ok_quiet hs rfl (.inl rfl) fun _ _ _ hx => hx
  | deciding _ _ _ => exact ok_quiet hs rfl (.inl rfl) fun _ _ _ hx => hx
  | running h decided =>
    -- What the dispatch makes of the store, and then what the decision does, keeps the operations other than the dispatch's own.
    have hstep : ∀ store : Store, Concluded h o s.coordinator.store store → ∀ c' : Coordinator,
        (∀ p ∈ s.handedOver, ∀ x, AgreedAt store p.1 p.2 x → AgreedAt c'.store p.1 p.2 x) →
        OutcomesOk { s with coordinator := c', lane := .free } ∧ Kept s { s with coordinator := c', lane := .free } := by
      intro store hstore c' hc'
      have hother : ∀ p ∈ s.handedOver, p.2 ≠ h.executionId → ∀ x, AgreedAt s.coordinator.store p.1 p.2 x →
          AgreedAt c'.store p.1 p.2 x := by
        intro p hp hr x hx
        refine hc' p hp x (hstore.keeps p.1 p.2 x hr ?_ hx)
        intro hk
        obtain ⟨-, op, run, hop, -, hid, -⟩ := hs.own h decided hlane p.1 hk
        obtain ⟨op', run', hop', -, hid', -⟩ := hx
        rw [hop] at hop'
        cases hop'
        exact hr (Option.some.inj (hid'.symm.trans hid))
      have hown : ∀ p ∈ s.handedOver, p.2 = h.executionId →
          AgreedAt s.coordinator.store p.1 p.2 none ∧ ∃ x, AgreedAt c'.store p.1 p.2 x := by
        intro p hp hr
        have hk := hs.other h decided hlane p hp hr
        obtain ⟨-, hnone⟩ := hs.own h decided hlane p.1 hk
        obtain ⟨x, hx⟩ := hstore.own p.1 hk (hl h decided hlane (by rw [hk]; rfl)).1 hnone
        rw [← hr] at hnone hx
        exact ⟨hnone, x, hc' p hp x hx⟩
      refine ⟨⟨?_, hs.apart, (fun _ _ _ hlane => nomatch hlane), (fun _ _ hlane => nomatch hlane), (fun _ _ hlane => nomatch hlane),
        nofun⟩, fun p hp => ⟨hp, fun x hx => ?_⟩⟩
      · intro p hp
        by_cases hr : p.2 = h.executionId
        · exact (hown p hp hr).2
        · obtain ⟨x, hx⟩ := hs.agreed p hp
          exact ⟨x, hother p hp hr x hx⟩
      · by_cases hr : p.2 = h.executionId
        · obtain ⟨⟨op, run, hop, -, -, -, hnone, -⟩, -⟩ := hown p hp hr
          obtain ⟨op', run', hop', -, -, -, hsome, -⟩ := hx
          rw [hop] at hop'
          cases hop'
          rw [hnone] at hsome
          cases hsome
        · exact hother p hp hr _ hx
    have hconclude := ends_concludeDispatch h o s.coordinator
    dsimp only
    cases hresult : concludeDispatch h o s.coordinator with
    | ok response c =>
      rw [hresult] at hconclude
      exact hstep _ hconclude c fun _ _ _ hx => hx
    | error e c =>
      rw [hresult] at hconclude
      obtain ⟨hreturns, hconclude⟩ := hconclude
      cases decided with
      | none => exact hstep _ hconclude c fun _ _ _ hx => hx
      | some requestId =>
        refine hstep _ hconclude _ fun p hp x hx => ?_
        rcases hs.decided h requestId hlane with hk | hne
        · rcases (hl h _ hlane (by rw [hk]; rfl)).2 rfl with hreturned | hfault
          · exact absurd hreturned hreturns
          · obtain ⟨e', rfl⟩ := Option.isSome_iff_exists.mp hfault
            exact hx
        · exact agreedAt_recordDispatchError fault (hne p hp) hx

/-- An outcome that is not recorded is that of a run that has not ended. -/
theorem ne_none_of_not_unfinished {p : String × String} {x : Option String} (hp : p ∈ s.handedOver)
    (hx : AgreedAt s.coordinator.store p.1 p.2 x) (hfinished : ¬s.Unfinished p.1) : x ≠ none := by
  rintro rfl
  obtain ⟨op, run, -, hrun, -, -, -, hnone⟩ := hx
  exact hfinished ⟨p.2, run, hp, hrun, terminalOutcome_eq_none.mp hnone⟩

theorem ok_step (hs : OutcomesOk s) {l : OperationStep} (hl : RecordsTruly s l) : OutcomesOk (s.step l) ∧ Kept s (s.step l) := by
  cases l with
  | create draft => exact ok_onStore hs (keeps_create draft)
  | review requestId decision stale =>
    exact ok_onStore (f := (·.decideEnvironmentOperationRequest requestId _)) hs
      (keeps_decide _ (ReviewAux.decisionStatus_ne_requested decision stale))
  | undelivered requestId =>
    exact ok_onStore (f := (·.decideEnvironmentOperationRequest requestId ⟨.interrupted, some "cancel"⟩)) hs (keeps_decide _ (by simp))
  | interruptTurn turnId terminalOutcome =>
    refine ok_quiet hs rfl (.inl rfl) fun p hp x hx => agreedAt_interrupt hx fun op hop hturn hsource hincomplete => ?_
    exact ne_none_of_not_unfinished hp hx (hl p.1 op hop hturn hsource hincomplete)
  | requestCancel projectRoot runId =>
    exact ok_onStore (f := fun store => (store.requestCancel projectRoot runId).1) hs (keeps_requestCancel projectRoot runId)
  | move broker projectRoot => exact ok_quiet hs rfl (.inl rfl) fun p _ x hx => keeps_of_eq rfl rfl p.1 p.2 x hx
  | dispatch call o => exact ok_dispatch hs hl
  | beginDecision requestId decision origin o => exact ok_beginDecision hs requestId decision origin o
  | writeDecision o before fault => exact ok_writeDecision hs hl
  | conclude o fault => exact ok_conclude hs hl
  | abandon => exact ok_quiet hs rfl (.inr rfl) fun _ _ _ hx => hx
  | recover =>
    exact ok_quiet hs rfl (.inr rfl) fun p hp x hx => agreedAt_recover hx (ne_none_of_not_unfinished hp hx (hl p.1))

end Steps

theorem outcomesAgree_of_ok {s : OperationSystem} (hs : OutcomesOk s) : OutcomesAgree s := by
  intro p hp
  obtain ⟨x, op, run, hop, hrun, hid, -, hoperation, hx⟩ := hs.agreed p hp
  exact ⟨op, run, hop, hrun, hid, hoperation.trans hx.symm⟩

/-- What the steps of a run keep of an outcome, from any point of the run to any later one. -/
theorem kept_along {s : OperationSystem} {trace : List OperationStep} (hs : OutcomesOk s)
    (h : Run.Along step RecordsTruly s trace) : Kept s (Run.after step s trace) := by
  induction trace generalizing s with
  | nil => exact fun p hp => ⟨hp, fun x hx => hx⟩
  | cons l trace ih =>
    obtain ⟨hok, hkept⟩ := ok_step hs h.1
    intro p hp
    obtain ⟨hmem, hx⟩ := hkept p hp
    obtain ⟨hmem', hx'⟩ := ih hok h.2 p hmem
    exact ⟨hmem', fun x h => hx' x (hx x h)⟩

end OutcomesAux

open OutcomesAux in
/-- In a run whose steps record truly, every operation that was handed over has the outcome of its run at every point, and an outcome
that is recorded stays. -/
theorem operation_outcomes_agree (c : Coordinator) (trace : List OperationStep)
    (h : Run.Along OperationSystem.step RecordsTruly (.start c) trace) :
    (∀ before rest, trace = before ++ rest → OutcomesAgree (Run.after OperationSystem.step (.start c) before)) ∧
      OutcomesKept (.start c) trace := by
  have hok : ∀ before, Run.Along OperationSystem.step RecordsTruly (.start c) before →
      OutcomesOk (Run.after OperationSystem.step (.start c) before) := fun before hbefore =>
    Run.invariant_along (I := OutcomesOk) (fun s l hs hl => (ok_step hs hl).1) (outcomesOk_start c) hbefore
  refine ⟨?_, ?_⟩
  · rintro before rest rfl
    exact outcomesAgree_of_ok (hok before (Run.along_append.mp h).1)
  · rintro before between rest rfl p hp op outcome hop houtcome
    obtain ⟨hbefore, hbetween⟩ := Run.along_append.mp (Run.along_append.mp h).1
    have hs := hok before hbefore
    obtain ⟨-, hkept⟩ := kept_along hs hbetween p hp
    obtain ⟨x, op', run, hop', hrun, hid, hstatus, hx, hrunx⟩ := hs.agreed p hp
    obtain rfl : op' = op := Option.some.inj (hop'.symm.trans hop)
    rw [houtcome] at hx
    obtain ⟨op'', -, hop'', -, -, -, hkeeps, -⟩ := hkept outcome ⟨op', run, hop', hrun, hid, hstatus, houtcome, hrunx.trans hx.symm⟩
    rw [Run.after_append]
    exact ⟨op'', hop'', hkeeps⟩

/-! ## A snapshot of the environment -/

/-- A request of the user to snapshot the environment. -/
def snapshotDraft : EnvironmentOperationDraft where
  requestId := "envreq_1"
  turnId := none
  source := .user
  requestName := "environment.snapshot"
  projectRoot := "/project"
  argumentsJson := "\x7b\"operation\":\"snapshot\",\"project_root\":\"/project\"\x7d"
  workspaceId := "ws"
  stateRevision := 0
  projectRevision := 0
  beforeSnapshotId := none

def snapshotCoordinator : Coordinator where
  broker := ⟨⟨"ws", "kernel_1", 0, 0, 0⟩⟩
  store := emptyStore

/-- The user approves it, and the kernel answers. -/
def snapshotTrace (kernel : KernelOutcome) : List OperationStep :=
  [.create snapshotDraft, .beginDecision "envreq_1" "approve" .user ⟨fun _ => none, none⟩,
    .writeDecision ⟨fun _ => none, none⟩ ⟨"exec_1", fun _ => none⟩ none, .conclude ⟨kernel, fun _ => none⟩ none]

/-- The request that is being decided. -/
def Lane.deciding? : Lane → Option String
  | .deciding request _ _ => some request.requestId
  | _ => none

/-- The operation is snapshotted, and its outcome is that of its run. -/
theorem operation_outcomes_agree_completed :
    let s := Run.after OperationSystem.step (.start snapshotCoordinator) (snapshotTrace (.finished (.obj [])))
    ("envreq_1", "exec_1") ∈ s.handedOver ∧ (s.run "exec_1").bind RunRecord.terminalOutcome = some "completed" ∧ OutcomesAgree s := by
  intro s
  refine ⟨by decide +kernel, by decide +kernel, ?_⟩
  refine (operation_outcomes_agree snapshotCoordinator (snapshotTrace (.finished (.obj []))) ?_).1 _ [] (List.append_nil _).symm
  refine ⟨trivial, trivial, ?_, ?_, trivial⟩
  · intro request origin op hlane hop _
    obtain ⟨pending, hpending⟩ : ∃ pending, pending = OperationSystem.step (OperationSystem.step (.start snapshotCoordinator)
      (.create snapshotDraft)) (.beginDecision "envreq_1" "approve" .user ⟨fun _ => none, none⟩) := ⟨_, rfl⟩
    rw [← hpending] at hlane hop
    have hrequest : pending.lane.deciding? = some "envreq_1" := by
      rw [hpending]
      decide +kernel
    have hnone : (pending.operation "envreq_1").all (fun op => op.terminalOutcome.isNone) = true := by
      rw [hpending]
      decide +kernel
    rw [hlane] at hrequest
    rw [← Option.some.inj hrequest, hop] at hnone
    exact Option.isNone_iff_eq_none.mp hnone
  · intro h decided _ _
    refine ⟨fun _ => rfl, fun _ => .inl ⟨⟨_, rfl⟩, fun _ _ => rfl⟩⟩

/-- The kernel fails in the operation that the user has approved: the run has ended with an execution error, as the dispatch
recorded it for the operation too, and the decision then writes over that. -/
theorem dispatch_error_recorded :
    let s := Run.after OperationSystem.step (.start snapshotCoordinator) (snapshotTrace .error)
    ("envreq_1", "exec_1") ∈ s.handedOver ∧ (s.run "exec_1").bind RunRecord.terminalOutcome = some "execution_error" ∧
      (s.operation "envreq_1").bind (·.terminalOutcome) = some "dispatch_error" ∧ ¬OutcomesAgree s := by
  intro s
  have hmem : ("envreq_1", "exec_1") ∈ s.handedOver := by decide +kernel
  have hrun : (s.run "exec_1").bind RunRecord.terminalOutcome = some "execution_error" := by decide +kernel
  have hoperation : (s.operation "envreq_1").bind (·.terminalOutcome) = some "dispatch_error" := by decide +kernel
  refine ⟨hmem, hrun, hoperation, fun hagree => ?_⟩
  obtain ⟨op, run, hop, hget, -, heq⟩ := hagree _ hmem
  rw [hget] at hrun
  rw [hop] at hoperation
  have hdiffer : some "execution_error" = some "dispatch_error" := hrun.symm.trans (heq.symm.trans hoperation)
  exact absurd hdiffer (by decide)

end Rho
