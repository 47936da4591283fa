import Rho.Lib.Fallible
import Rho.Server.Dispatch

/-!
# What a dispatch does

One lemma for each part: what it keeps whatever happens, and what it has done when it succeeds.
-/

namespace Rho

open Effect Fallible

namespace DispatchAux

variable {f : Store → Option Store} {message : String} {c : Coordinator} {s s' : Store} {draft : RunDraft}

theorem storeTry_ok {c' : Coordinator} {a : Unit}
    (h : storeTry f message c = .ok a c') : ∃ store, f c.store = some store ∧ c' = { c with store } := by
  unfold storeTry at h
  cases hf : f c.store with
  | none =>
    rw [hf] at h
    cases h
  | some store =>
    rw [hf] at h
    cases h
    exact ⟨store, rfl, rfl⟩

theorem ends_storeTry (f : Store → Option Store) (message : String) (c : Coordinator) :
    Ends (fun _ c' => f c.store = some c'.store) (fun _ c' => c' = c) (storeTry f message c) := by
  unfold storeTry
  cases hf : f c.store with
  | some store => exact rfl
  | none => exact rfl

/-! ## The broker and the project -/

/-- What a dispatch leaves alone while it writes its rows: the broker and the project root. -/
def frame (c : Coordinator) : BrokerState × String := (c.broker, c.store.projectRoot)

theorem keeps_frame_onStore {f : Store → Store} (h : ∀ s, (f s).projectRoot = s.projectRoot) : Keeps frame (onStore f) :=
  keeps_modify (fun c => Prod.ext rfl (h c.store))

theorem keeps_frame_storeTry (h : ∀ s s', f s = some s' → s'.projectRoot = s.projectRoot) : Keeps frame (storeTry f message) := by
  intro c
  unfold storeTry
  cases hf : f c.store with
  | some store => exact Prod.ext rfl (h c.store store hf)
  | none => rfl

theorem projectRoot_createRun (h : s.createRun draft = some s') : s'.projectRoot = s.projectRoot := by
  obtain ⟨runs, -, rfl⟩ := Option.map_eq_some_iff.mp h
  rfl

theorem keeps_frame_claimOperation (requestType executionId projectRoot : String) (o : PrepareOutcome)
    (operation : Option String) : Keeps frame (claimOperation requestType executionId projectRoot o operation) := by
  cases operation with
  | none => exact keeps_pure _ _
  | some requestId =>
    refine keeps_bind (keeps_attempt _ _) fun _ => ?_
    exact keeps_bind (keeps_modifyGet fun _ => rfl) fun _ => keeps_ofResult _ _

theorem keeps_frame_prepareDispatch (call : DispatchCall) (o : PrepareOutcome) : Keeps frame (prepareDispatch call o) := by
  refine keeps_bind (keeps_get _) fun c => ?_
  refine keeps_bind (keeps_ofResult _ _) fun h => ?_
  refine keeps_bind (keeps_frame_claimOperation _ _ _ _ _) fun _ => ?_
  refine keeps_bind (keeps_attempt _ _) fun _ => ?_
  refine keeps_bind (keeps_attempt _ _) fun _ => ?_
  refine keeps_bind (keeps_frame_storeTry fun _ _ => projectRoot_createRun) fun _ => ?_
  refine keeps_bind (keeps_attempt _ _) fun _ => ?_
  refine keeps_bind (keeps_frame_onStore fun _ => rfl) fun _ => ?_
  exact keeps_bind (keeps_attempt _ _) fun _ => keeps_pure _ _

theorem keeps_frame_finishOperation (h : Handover) (o : ConcludeOutcome) (status : EnvironmentOperationStatus)
    (terminalOutcome : String) : Keeps frame (finishOperation h o status terminalOutcome) := by
  unfold finishOperation
  cases h.environmentOperation with
  | none => exact keeps_pure _ _
  | some requestId => exact keeps_bind (keeps_attempt _ _) fun _ => keeps_frame_onStore fun _ => rfl

theorem keeps_frame_concludeWithout (h : Handover) (o : ConcludeOutcome) (terminalReason : String) :
    Keeps frame (concludeWithout h o terminalReason) := by
  refine keeps_bind (keeps_get _) fun c => ?_
  refine keeps_bind (keeps_attempt _ _) fun _ => ?_
  exact keeps_bind (keeps_frame_onStore fun _ => rfl) fun _ => keeps_frame_finishOperation _ _ _ _

theorem keeps_frame_concludeWith (h : Handover) (o : ConcludeOutcome) (result : Json) :
    Keeps frame (concludeWith h o result) := by
  refine keeps_bind (keeps_attempt _ _) fun _ => ?_
  refine keeps_bind (keeps_modify fun _ => rfl) fun _ => ?_
  refine keeps_bind (keeps_get _) fun after => ?_
  refine keeps_bind (keeps_attempt _ _) fun _ => ?_
  refine keeps_bind (keeps_frame_onStore fun _ => rfl) fun _ => ?_
  refine keeps_bind (keeps_frame_finishOperation _ _ _ _) fun _ => ?_
  refine keeps_bind (keeps_attempt _ _) fun _ => ?_
  refine keeps_bind (keeps_attempt _ _) fun _ => ?_
  exact keeps_bind (keeps_attempt _ _) fun _ => keeps_pure _ _

/-- The broker counts the operation on the exit with a result, and on no other; the project stays. -/
theorem frame_concludeDispatch (h : Handover) (o : ConcludeOutcome) (c : Coordinator) :
    frame (final (concludeDispatch h o c)) = match o.kernel with
      | .finished _ => (c.broker.complete h.operationClass, c.store.projectRoot)
      | .error | .unreadable _ => frame c := by
  unfold concludeDispatch
  cases o.kernel with
  | error => exact keeps_bind (keeps_frame_concludeWithout h o _) (fun _ => keeps_throw _ _) c
  | unreadable message => exact keeps_bind (keeps_frame_concludeWithout h o _) (fun _ => keeps_throw _ _) c
  | finished result => exact keeps_frame_concludeWith h o result { c with broker := c.broker.complete h.operationClass }

/-- Up to the hand-over the broker is only read. -/
theorem broker_prepareDispatch (call : DispatchCall) (o : PrepareOutcome) (c : Coordinator) :
    (final (prepareDispatch call o c)).broker = c.broker :=
  congrArg Prod.fst (keeps_frame_prepareDispatch call o c)

theorem broker_concludeDispatch (h : Handover) (o : ConcludeOutcome) (c : Coordinator) :
    (final (concludeDispatch h o c)).broker = match o.kernel with
      | .finished _ => c.broker.complete h.operationClass
      | .error | .unreadable _ => c.broker := by
  have := congrArg Prod.fst (frame_concludeDispatch h o c)
  cases hk : o.kernel with
  | error => simpa only [hk, frame] using this
  | unreadable message => simpa only [hk, frame] using this
  | finished result => simpa only [hk, frame] using this

/-- No dispatch changes the project. -/
theorem projectRoot_prepareDispatch (call : DispatchCall) (o : PrepareOutcome) (c : Coordinator) :
    (final (prepareDispatch call o c)).store.projectRoot = c.store.projectRoot :=
  congrArg Prod.snd (keeps_frame_prepareDispatch call o c)

theorem projectRoot_concludeDispatch (h : Handover) (o : ConcludeOutcome) (c : Coordinator) :
    (final (concludeDispatch h o c)).store.projectRoot = c.store.projectRoot := by
  have := congrArg Prod.snd (frame_concludeDispatch h o c)
  cases hk : o.kernel with
  | error => simpa only [hk, frame] using this
  | unreadable message => simpa only [hk, frame] using this
  | finished result => simpa only [hk, frame] using this

/-! ## The run -/

theorem keeps_runs_claimOperation (requestType executionId projectRoot : String) (o : PrepareOutcome) (operation : Option String) :
    Keeps (fun c => c.store.runs) (claimOperation requestType executionId projectRoot o operation) := by
  cases operation with
  | none => exact keeps_pure _ _
  | some requestId =>
    refine keeps_bind (keeps_attempt _ _) fun _ => ?_
    exact keeps_bind (keeps_modifyGet fun _ => rfl) fun _ => keeps_ofResult _ _

/-- The runs after one of them was changed. -/
def runsWith (runs : Table RunRecord.runId) (runId : String) (row : Option RunRecord) (k : String) : Option RunRecord :=
  if k = runId then row else runs.get k

theorem get_createRun (h : s.createRun draft = some s') : s.runs.get draft.runId = none ∧
      ∀ k, s'.runs.get k = runsWith s.runs draft.runId (some (Store.queuedRun draft)) k := by
  obtain ⟨runs, hinsert, rfl⟩ := Option.map_eq_some_iff.mp h
  refine ⟨Table.get_of_insert hinsert, ?_⟩
  intro k
  rw [Table.get_insert hinsert, runsWith]
  exact if_congr eq_comm rfl rfl

theorem get_updateRunStatus (s : Store) (runId : String) (status : RunStatus) (k : String) :
    (s.updateRunStatus runId status none).runs.get k =
      runsWith s.runs runId ((s.runs.get runId).map (fun r => { r with status })) k := by
  unfold Store.updateRunStatus runsWith
  rw [Table.get_update_key]
  split
  · next h => rw [h]; rfl
  · rfl

theorem projectRoot_of_active {root : String} (h : s.activeProjectRoot = some root) : s.projectRoot = root := by
  unfold Store.activeProjectRoot at h
  split at h
  · cases h
  · cases h
    rfl

/-- A request that passes the checks has an execution id, an active project and the operation that it claims. -/
theorem authorizeDispatch_ok {call : DispatchCall} {o : PrepareOutcome} {h : Handover}
    (hok : authorizeDispatch call o c = .ok h) :
    executionIdOf call o = .ok h.executionId ∧ c.store.activeProjectRoot = some h.projectRoot ∧
      environmentOperationRequestId call.requestType call.payload = .ok h.environmentOperation := by
  unfold authorizeDispatch at hok
  obtain ⟨expected, -, hok⟩ := bind_eq_ok hok
  obtain ⟨operation, hoperation, hok⟩ := bind_eq_ok hok
  obtain ⟨⟨operationClass, code⟩, -, hok⟩ := bind_eq_ok hok
  obtain ⟨executionId, hid, hok⟩ := bind_eq_ok hok
  obtain ⟨_, -, hok⟩ := bind_eq_ok hok
  cases hfault : o.fault .activeRoot with
  | some e =>
    rw [hfault] at hok
    exact absurd hok throw_bind_ne_ok
  | none =>
    rw [hfault] at hok
    obtain ⟨projectRoot, hroot, hok⟩ := bind_eq_ok hok
    cases hok
    refine ⟨hid, ?_, hoperation⟩
    cases hactive : c.store.activeProjectRoot with
    | none =>
      rw [hactive] at hroot
      cases hroot
    | some root =>
      rw [hactive] at hroot
      cases hroot
      rfl

/-- A dispatch that reaches the hand-over has a run of its own, recorded under the active project and running; one that fails before
has none, unless it fails between the creation of the run and the hand-over. -/
theorem runs_prepareDispatch (call : DispatchCall) (o : PrepareOutcome) (c : Coordinator) : Ends
      (fun h c' => executionIdOf call o = .ok h.executionId ∧ c.store.activeProjectRoot = some h.projectRoot ∧
        environmentOperationRequestId call.requestType call.payload = .ok h.environmentOperation ∧
        c.store.runs.get h.executionId = none ∧
        ∃ row : RunRecord, row.status = .running ∧ row.projectRoot = h.projectRoot ∧
          ∀ k, c'.store.runs.get k = runsWith c.store.runs h.executionId (some row) k)
      (fun _ c' => o.fault .markRunning = none → o.fault .resultFile = none → ∀ k, c'.store.runs.get k = c.store.runs.get k)
      (prepareDispatch call o c) := by
  have hsame : ∀ c' : Coordinator, c'.store.runs = c.store.runs → o.fault .markRunning = none → o.fault .resultFile = none →
      ∀ k, c'.store.runs.get k = c.store.runs.get k := by
    intro c' hruns _ _ k
    rw [hruns]
  unfold prepareDispatch
  refine ends_get ?_
  refine ends_bind (P := fun h c' => authorizeDispatch call o c = .ok h ∧ c = c')
    (ends_ofResult (fun h hh => ⟨hh, rfl⟩) fun e he => hsame c rfl) ?_
  rintro h _ ⟨hauthorize, rfl⟩
  obtain ⟨hid, hroot, hoperation⟩ := authorizeDispatch_ok hauthorize
  refine ends_bind (P := fun _ c' => c'.store.runs = c.store.runs)
    ((ends_of_keeps (keeps_runs_claimOperation _ _ _ _ _) c).mono (fun _ _ hc => hc) fun _ c' hc => hsame c' hc) ?_
  intro _ c₁ h₁
  refine ends_attempt_bind (fun _ _ => hsame c₁ h₁) fun _ => ?_
  refine ends_attempt_bind (fun _ _ => hsame c₁ h₁) fun _ => ?_
  -- From here on the run is in the table, and only the two faults of the end can fail.
  refine ends_bind ((ends_storeTry _ _ c₁).mono (fun _ _ hc => hc) fun _ c' hc => hsame c' (hc ▸ h₁)) ?_
  rintro _ c₂ hcreate
  obtain ⟨hfresh, hrow⟩ := get_createRun hcreate
  rw [h₁] at hfresh hrow
  change ∀ k, c₂.store.runs.get k = runsWith c.store.runs h.executionId _ k at hrow
  refine ends_bind (P := fun _ c' => c₂ = c')
    (ends_attempt (fun _ => rfl) fun e he hmark _ => by rw [he] at hmark; cases hmark) ?_
  rintro _ _ rfl
  refine ends_bind (P := fun _ (c' : Coordinator) => c'.store = c₂.store.updateRunStatus h.executionId .running none) ?_ ?_
  · exact rfl
  intro _ c₃ h₃
  refine ends_bind (P := fun _ c' => c₃ = c')
    (ends_attempt (fun _ => rfl) fun e he _ hfile => by rw [he] at hfile; cases hfile) ?_
  rintro _ _ rfl
  refine ⟨hid, hroot, hoperation, hfresh, { Store.queuedRun (runDraft h call.origin c.broker.identity) with status := .running }, rfl, rfl, ?_⟩
  intro k
  rw [h₃, get_updateRunStatus]
  by_cases hk : k = h.executionId
  · rw [runsWith, runsWith, if_pos hk, if_pos hk, hrow, runsWith, if_pos rfl]
    rfl
  · rw [runsWith, runsWith, if_neg hk, if_neg hk, hrow, runsWith, if_neg hk]

/-- The run has ended with a status, and no other run has changed. -/
def RunEnded (c : Coordinator) (runId : String) (status : RunStatus) (c' : Coordinator) : Prop :=
  ∃ f : RunRecord → RunRecord, (∀ r, (f r).status = status ∧ (f r).projectRoot = r.projectRoot) ∧
    ∀ k, c'.store.runs.get k = runsWith c.store.runs runId ((c.store.runs.get runId).map f) k

theorem runEnded_finishRun {c₁ : Coordinator} (hruns : c₁.store.runs = c.store.runs) (result : RunFinish) :
    RunEnded c result.runId result.status { c₁ with store := c₁.store.finishRun result } := by
  refine ⟨Store.finishedRun result, fun r => ⟨rfl, rfl⟩, ?_⟩
  intro k
  unfold Store.finishRun runsWith
  rw [Table.get_update_key, hruns]
  split
  · next hk => rw [hk]
  · rfl

/-- An exit without a result ends the run as interrupted or failed. -/
theorem runs_concludeWithout (h : Handover) (o : ConcludeOutcome) (terminalReason : String) (c : Coordinator)
    (hoperation : h.environmentOperation = none) (hfinish : o.fault .finishRun = none) {E : String → Coordinator → Prop} :
    Ends (fun _ c' => ∃ status, (status = .interrupted ∨ status = .failed) ∧ RunEnded c h.executionId status c') E
      (concludeWithout h o terminalReason c) := by
  unfold concludeWithout finishOperation
  rw [hoperation]
  refine ends_get ?_
  obtain ⟨cancelled, hcancelled⟩ : ∃ b, (c.store.cancelRequested h.executionId).getD false = b := ⟨_, rfl⟩
  rw [hcancelled]
  refine ends_bind (P := fun _ c' => c = c')
    (ends_attempt (fun _ => rfl) fun e he => by rw [hfinish] at he; cases he) ?_
  rintro _ _ rfl
  refine ends_bind
    (P := fun _ c' => ∃ status, (status = .interrupted ∨ status = .failed) ∧ RunEnded c h.executionId status c') ?_ ?_
  · refine ⟨if cancelled then .interrupted else .failed, ?_, runEnded_finishRun rfl ⟨_, _, _, _, _, _⟩⟩
    cases cancelled with
    | true => exact Or.inl rfl
    | false => exact Or.inr rfl
  exact fun _ _ hended => hended

/-- When the end of the run is written, an answer with a result ends it as the result says and returns the result, and any other
answer ends it as interrupted or failed and is an error; so does a failure that is followed by a fault. -/
theorem runs_concludeDispatch (h : Handover) (o : ConcludeOutcome) (c : Coordinator) (hoperation : h.environmentOperation = none)
    (hfinish : o.fault .finishRun = none)
    (hresult : ∀ result, o.kernel = .finished result → o.fault .saveIdentity = none ∧ (workspaceResultFailed result = false →
      o.fault .plotArtifacts = none ∧ o.fault .generatedFiles = none ∧ o.fault .renderArtifact = none)) : Ends
      (fun response c' => o.kernel = .finished response.execution ∧
        RunEnded c h.executionId (if workspaceResultFailed response.execution then .failed else .completed) c')
      (fun _ c' => ∃ status, (status = .interrupted ∨ status = .failed) ∧ RunEnded c h.executionId status c')
      (concludeDispatch h o c) := by
  unfold concludeDispatch
  cases hk : o.kernel with
  | error => exact ends_bind (runs_concludeWithout h o _ c hoperation hfinish) fun _ _ hc => hc
  | unreadable message => exact ends_bind (runs_concludeWithout h o _ c hoperation hfinish) fun _ _ hc => hc
  | finished result =>
    obtain ⟨hsave, hlate⟩ := hresult result hk
    refine ends_bind (P := fun _ c' => c'.store.runs = c.store.runs) ?_ fun _ c₁ h₁ => ?_
    · exact rfl
    unfold concludeWith finishOperation
    rw [hoperation]
    refine ends_bind (P := fun _ c' => c₁ = c')
      (ends_attempt (fun _ => rfl) fun e he => by rw [hsave] at he; cases he) ?_
    rintro _ _ rfl
    refine ends_bind (P := fun _ c' => c'.store.runs = c.store.runs) ?_ fun _ c₂ h₂ => ?_
    · exact h₁
    refine ends_get ?_
    refine ends_bind (P := fun _ c' => c₂ = c')
      (ends_attempt (fun _ => rfl) fun e he => by rw [hfinish] at he; cases he) ?_
    rintro _ _ rfl
    refine ends_bind
      (P := fun _ => RunEnded c h.executionId (if workspaceResultFailed result then .failed else .completed)) ?_ fun _ c₃ h₃ => ?_
    · exact runEnded_finishRun h₂ ⟨h.executionId, _, _, _, _, _⟩
    refine ends_bind (P := fun _ c' => c₃ = c') rfl ?_
    rintro _ _ rfl
    -- The run has ended: a fault is left to a run that has failed.
    have hfault : ∀ step e, o.fault step = some e → (workspaceResultFailed result = false → o.fault step = none) →
        ∃ status, (status = RunStatus.interrupted ∨ status = .failed) ∧ RunEnded c h.executionId status c₃ := by
      intro step e he hnone
      cases hfailed : workspaceResultFailed result with
      | true =>
        rw [hfailed] at h₃
        exact ⟨.failed, Or.inr rfl, h₃⟩
      | false =>
        rw [hnone hfailed] at he
        cases he
    refine ends_attempt_bind (fun e he => hfault _ e he fun hf => (hlate hf).1) fun _ => ?_
    refine ends_attempt_bind (fun e he => hfault _ e he fun hf => (hlate hf).2.1) fun _ => ?_
    refine ends_attempt_bind (fun e he => hfault _ e he fun hf => (hlate hf).2.2) fun _ => ?_
    exact ⟨rfl, h₃⟩

end DispatchAux

end Rho
