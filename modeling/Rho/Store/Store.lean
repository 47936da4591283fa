import Mathlib.Data.List.DropRight
import Rho.Lib.Table
import Rho.Server.Protocol

/-!
# The store

The tables of `rho-store` that a workspace request goes through: the runs, the environment operation requests, the approvals, the
active project root and the saved identity. Each function is one SQL statement. Columns that are only written for display (times, outputs,
messages, reasons) are left out.
-/

namespace Rho

inductive RunStatus where
  | queued | running | waiting | completed | failed | interrupted
  deriving DecidableEq, Repr

namespace RunStatus

/-- `status IN ('queued', 'running', 'waiting')`. -/
def isActive : RunStatus → Bool
  | .queued | .running | .waiting => true
  | .completed | .failed | .interrupted => false

end RunStatus

structure RunRecord where
  runId : String
  projectRoot : String
  origin : ExecutionOrigin
  requestType : String
  operationClass : OperationClass
  code : String
  status : RunStatus
  terminalReason : Option String
  cancelRequested : Bool
  workspaceId : String
  stateRevisionBefore : Nat
  projectRevisionBefore : Nat
  stateRevisionAfter : Option Nat
  projectRevisionAfter : Option Nat
  deriving DecidableEq, Repr

structure RunDraft where
  runId : String
  projectRoot : String
  origin : ExecutionOrigin
  requestType : String
  operationClass : OperationClass
  code : String
  workspaceId : String
  stateRevisionBefore : Nat
  projectRevisionBefore : Nat
  deriving DecidableEq, Repr

structure RunFinish where
  runId : String
  status : RunStatus
  terminalReason : Option String
  workspaceId : Option String
  stateRevisionAfter : Option Nat
  projectRevisionAfter : Option Nat
  deriving DecidableEq, Repr

inductive EnvironmentOperationStatus where
  | requested | approved | rejected | cancelled | running | completed | failed | interrupted | stale
  deriving DecidableEq, Repr

namespace EnvironmentOperationStatus

/-- `status IN ('requested', 'approved', 'running')`. -/
def isIncomplete : EnvironmentOperationStatus → Bool
  | .requested | .approved | .running => true
  | .rejected | .cancelled | .completed | .failed | .interrupted | .stale => false

end EnvironmentOperationStatus

inductive EnvironmentOperationSource where
  | user | agent
  deriving DecidableEq, Repr

structure EnvironmentOperationRecord where
  requestId : String
  turnId : Option String
  source : EnvironmentOperationSource
  requestName : String
  status : EnvironmentOperationStatus
  decision : Option String
  projectRoot : String
  argumentsJson : String
  workspaceId : Option String
  stateRevision : Option Nat
  projectRevision : Option Nat
  beforeSnapshotId : Option String
  runId : Option String
  terminalOutcome : Option String
  deriving DecidableEq, Repr

structure EnvironmentOperationDraft where
  requestId : String
  turnId : Option String
  source : EnvironmentOperationSource
  requestName : String
  projectRoot : String
  argumentsJson : String
  workspaceId : String
  stateRevision : Nat
  projectRevision : Nat
  beforeSnapshotId : Option String
  deriving DecidableEq, Repr

structure EnvironmentOperationDecision where
  status : EnvironmentOperationStatus
  decision : Option String
  deriving DecidableEq, Repr

structure EnvironmentOperationFinish where
  requestId : String
  status : EnvironmentOperationStatus
  runId : Option String
  terminalOutcome : Option String
  deriving DecidableEq, Repr

inductive ApprovalStatus where
  | waiting | approved | rejected | cancelled | stale | interrupted
  deriving DecidableEq, Repr

structure ApprovalRecord where
  requestId : String
  turnId : String
  projectRoot : String
  tool : String
  policy : String
  status : ApprovalStatus
  argumentsJson : String
  code : Option String
  workspaceId : String
  stateRevision : Nat
  projectRevision : Nat
  decision : Option String
  continuationOutcome : Option String
  deriving DecidableEq, Repr

structure ApprovalDecision where
  status : ApprovalStatus
  decision : String
  continuationOutcome : Option String
  deriving DecidableEq, Repr

/-- `COALESCE(a, b)` of two columns. -/
def coalesce {α : Type} (a b : Option α) : Option α := a.or b

/-- `normalize_project_root` of `rho-store`. -/
def normalizeProjectRoot (root : String) : String :=
  let normalized := root.toList.map (fun c => if c = '\\' then '/' else c)
  if [':', '/'].isSuffixOf normalized then String.ofList normalized
  else
    let trimmed := (normalized.reverse.dropWhile (· = '/')).reverse
    if trimmed.isEmpty && normalized.head? == some '/' then "/" else String.ofList trimmed

/-- What has been trimmed of slashes does not end in one. -/
theorem isSuffixOf_rdropWhile_slash (l : List Char) : [':', '/'].isSuffixOf (l.rdropWhile (· = '/')) = false := by
  rw [← Bool.not_eq_true, List.isSuffixOf_iff_suffix]
  rintro ⟨before, h⟩
  have hne : l.rdropWhile (· = '/') ≠ [] := by
    rw [← h]
    exact List.append_ne_nil_of_right_ne_nil _ (List.cons_ne_nil _ _)
  refine List.rdropWhile_last_not (· = '/') l hne ?_
  simp only [← h, List.getLast_append_of_right_ne_nil _ _ (List.cons_ne_nil _ _), List.getLast_cons_cons, List.getLast_singleton,
    decide_true]

/-- A text without backslashes, as characters: what is left to do is to trim it. -/
theorem normalizeProjectRoot_of_slashed {l : List Char} (h : ∀ c ∈ l, c ≠ '\\') :
    normalizeProjectRoot (String.ofList l) = if [':', '/'].isSuffixOf l then String.ofList l
      else if (l.rdropWhile (· = '/')).isEmpty && l.head? == some '/' then "/" else String.ofList (l.rdropWhile (· = '/')) := by
  have hmap : l.map (fun c => if c = '\\' then '/' else c) = l := by
    refine (List.map_congr_left ?_).trans (List.map_id l)
    intro c hc
    exact if_neg (h c hc)
  simp only [normalizeProjectRoot, String.toList_ofList, hmap]
  rfl

/-- A root that has been normalized is left as it is. -/
theorem normalizeProjectRoot_idem (root : String) :
    normalizeProjectRoot (normalizeProjectRoot root) = normalizeProjectRoot root := by
  have hslashed : ∀ c ∈ root.toList.map (fun c => if c = '\\' then '/' else c), c ≠ '\\' := by
    intro c hc
    obtain ⟨d, -, rfl⟩ := List.mem_map.mp hc
    split
    · decide
    · assumption
  obtain ⟨n, hn⟩ : ∃ n, root.toList.map (fun c => if c = '\\' then '/' else c) = n := ⟨_, rfl⟩
  have hroot : normalizeProjectRoot root = normalizeProjectRoot (String.ofList n) := by
    rw [hn] at hslashed
    rw [normalizeProjectRoot_of_slashed hslashed]
    simp only [normalizeProjectRoot, hn]
    rfl
  rw [hn] at hslashed
  rw [hroot, normalizeProjectRoot_of_slashed hslashed]
  split
  · next hsuffix => rw [normalizeProjectRoot_of_slashed hslashed, if_pos hsuffix]
  · split
    · rfl
    · rw [normalizeProjectRoot_of_slashed fun c hc => hslashed c ((List.rdropWhile_prefix _ _).subset hc),
        isSuffixOf_rdropWhile_slash, if_neg Bool.false_ne_true, List.rdropWhile_idempotent]
      rw [if_neg]
      simp only [Bool.and_eq_true, List.isEmpty_iff, beq_iff_eq]
      rintro ⟨hnil, hhead⟩
      rw [hnil] at hhead
      cases hhead

structure Store where
  runs : Table RunRecord.runId
  environmentOperations : Table EnvironmentOperationRecord.requestId
  approvals : Table ApprovalRecord.requestId
  /-- The value under `active_project_root` in the metadata; empty for none. -/
  projectRoot : String
  /-- Every writer of the root normalizes it. -/
  normalized : normalizeProjectRoot projectRoot = projectRoot
  identity : Option WorkspaceIdentity

namespace Store

/-! ## Runs -/

/-- The row of a run as it is created. -/
def queuedRun (draft : RunDraft) : RunRecord where
  runId := draft.runId
  projectRoot := draft.projectRoot
  origin := draft.origin
  requestType := draft.requestType
  operationClass := draft.operationClass
  code := draft.code
  status := .queued
  terminalReason := none
  cancelRequested := false
  workspaceId := draft.workspaceId
  stateRevisionBefore := draft.stateRevisionBefore
  projectRevisionBefore := draft.projectRevisionBefore
  stateRevisionAfter := none
  projectRevisionAfter := none

def createRun (s : Store) (draft : RunDraft) : Option Store := (s.runs.insert (queuedRun draft)).map (fun runs => { s with runs })

def updateRunStatus (s : Store) (runId : String) (status : RunStatus) (terminalReason : Option String) : Store :=
  { s with
    runs := s.runs.update (fun r => r.runId = runId)
      (fun r => { r with status, terminalReason := coalesce terminalReason r.terminalReason }) }

/-- The row of a run as it is finished. -/
def finishedRun (result : RunFinish) (r : RunRecord) : RunRecord :=
  { r with
    status := result.status
    terminalReason := result.terminalReason
    workspaceId := result.workspaceId.getD r.workspaceId
    stateRevisionAfter := result.stateRevisionAfter
    projectRevisionAfter := result.projectRevisionAfter
    cancelRequested := false }

theorem finishedRun_runId (result : RunFinish) (r : RunRecord) : (finishedRun result r).runId = r.runId := rfl

def finishRun (s : Store) (result : RunFinish) : Store :=
  { s with runs := s.runs.update (fun r => r.runId = result.runId) (finishedRun result) (finishedRun_runId result) }

def requestCancel (s : Store) (projectRoot runId : String) : Store × Bool :=
  let selected : RunRecord → Bool := fun r =>
    decide (r.projectRoot = projectRoot) && decide (r.runId = runId) && r.status.isActive
  ({ s with
      runs := s.runs.update selected
        (fun r => { r with cancelRequested := true, terminalReason := some "cancel_requested" }) },
    decide (0 < s.runs.changed selected))

/-- `cancel_requested`; no row is an error. -/
def cancelRequested (s : Store) (runId : String) : Option Bool := (s.runs.get runId).map (·.cancelRequested)

def recoverIncompleteRuns (s : Store) : Store :=
  { s with
    runs := s.runs.update (fun r => r.status.isActive)
      (fun r => { r with
        status := .interrupted
        terminalReason := some (if r.cancelRequested then "cancelled_during_restart" else "broker_restart")
        cancelRequested := false }) }

/-! ## Environment operation requests -/

def createEnvironmentOperationRequest (s : Store) (draft : EnvironmentOperationDraft) : Option Store :=
  let row : EnvironmentOperationRecord :=
    { requestId := draft.requestId
      turnId := draft.turnId
      source := draft.source
      requestName := draft.requestName
      status := .requested
      decision := none
      projectRoot := draft.projectRoot
      argumentsJson := draft.argumentsJson
      workspaceId := some draft.workspaceId
      stateRevision := some draft.stateRevision
      projectRevision := some draft.projectRevision
      beforeSnapshotId := draft.beforeSnapshotId
      runId := none
      terminalOutcome := none }
  (s.environmentOperations.insert row).map (fun environmentOperations => { s with environmentOperations })

/-- `decide_environment_operation_request`: the row's present status is not looked at. -/
def decideEnvironmentOperationRequest (s : Store) (requestId : String) (record : EnvironmentOperationDecision) : Store :=
  { s with
    environmentOperations := s.environmentOperations.update (fun r => r.requestId = requestId)
      (fun r => { r with status := record.status, decision := record.decision }) }

/-- The row that a claim takes: approved, for the same project and operation, and not claimed before. -/
def claimable (projectRoot requestName requestId : String) (r : EnvironmentOperationRecord) : Bool :=
  decide (r.projectRoot = projectRoot) && decide (r.requestName = requestName) && decide (r.requestId = requestId) &&
    decide (r.status = .approved) && r.runId.isNone

def claimEnvironmentOperationRequest (s : Store) (projectRoot requestName requestId runId : String) : Store × Bool :=
  ({ s with
      environmentOperations := s.environmentOperations.update (claimable projectRoot requestName requestId)
        (fun r => { r with status := .running, runId := some runId }) },
    s.environmentOperations.changed (claimable projectRoot requestName requestId) == 1)

/-- `finish_environment_operation_request`: the row's present status is not looked at. -/
def finishEnvironmentOperationRequest (s : Store) (finish : EnvironmentOperationFinish) : Store :=
  { s with
    environmentOperations := s.environmentOperations.update (fun r => r.requestId = finish.requestId)
      (fun r => { r with
        status := finish.status
        runId := coalesce finish.runId r.runId
        terminalOutcome := finish.terminalOutcome }) }

def interruptAgentEnvironmentOperations (s : Store) (turnId terminalOutcome : String) : Store :=
  { s with
    environmentOperations := s.environmentOperations.update
      (fun r => decide (r.turnId = some turnId) && decide (r.source = .agent) && r.status.isIncomplete)
      (fun r => { r with
        status := .interrupted
        decision := coalesce r.decision (some "cancel")
        terminalOutcome := coalesce r.terminalOutcome (some terminalOutcome) }) }

def recoverIncompleteEnvironmentOperations (s : Store) : Store :=
  { s with
    environmentOperations := s.environmentOperations.update (fun r => r.status.isIncomplete)
      (fun r => { r with
        status := if r.status = .requested then .stale else .interrupted
        decision := coalesce r.decision (some "cancel")
        terminalOutcome := coalesce r.terminalOutcome (some "desktop_restart") }) }

def getEnvironmentOperationRequest (s : Store) (projectRoot requestId : String) : Option EnvironmentOperationRecord :=
  (s.environmentOperations.get requestId).filter (fun r => r.projectRoot = projectRoot)

/-! ## Approvals -/

/-- `create_approval_request`, with the row as it is inserted. -/
def createApprovalRequest (s : Store) (row : ApprovalRecord) : Option Store :=
  (s.approvals.insert row).map (fun approvals => { s with approvals })

def resolveApprovalRequest (s : Store) (requestId : String) (record : ApprovalDecision) : Store :=
  { s with
    approvals := s.approvals.update (fun r => r.requestId = requestId)
      (fun r => { r with
        status := record.status
        decision := some record.decision
        continuationOutcome := record.continuationOutcome }) }

/-! ## Metadata -/

def setProjectRoot (s : Store) (root : Option String) : Store :=
  { s with
    projectRoot := (root.map normalizeProjectRoot).getD ""
    normalized := by
      cases root with
      | none => rfl
      | some root => exact normalizeProjectRoot_idem root }

def activeProjectRoot (s : Store) : Option String := if s.projectRoot = "" then none else some s.projectRoot

def saveIdentity (s : Store) (identity : WorkspaceIdentity) : Store := { s with identity := some identity }

end Store

end Rho
