import Rho.Desktop.State

/-!
# Switching the project

`switch_project_with_watcher_factory` and what it calls: the blockers, the request that sends R to the new root, the steps that
move the other four places one after another, and the two ways back. Every step that can fail outside the desktop does so by the
outcome it is given.
-/

namespace Rho

open Effect

/-! ## Blockers -/

inductive ProjectSwitchBlockerKind where
  | activeRun | agentTurn | agentFileMutation | approval | environmentOperation
  deriving DecidableEq, Repr

/-- `ProjectSwitchBlocker` without the ids and the count that it shows. -/
structure ProjectSwitchBlocker where
  kind : ProjectSwitchBlockerKind
  message : String
  operationStatus : Option String
  deriving DecidableEq, Repr

namespace AppState

/-- The project whose work in progress counts: the store's root, else the one shown. -/
def currentRoot (a : AppState) : String := a.store.activeProjectRoot.getD (normalizeProjectRoot a.projectRoot)

def activeRunBlocker (a : AppState) (currentRoot : String) : Option ProjectSwitchBlocker :=
  if a.store.runs.rows.any (fun r => decide (r.projectRoot = currentRoot) && r.status.isActive) then
    some
      { kind := .activeRun
        message := "Finish or interrupt the active scientific run before switching projects."
        operationStatus := some "running" }
  else none

def renderBlocker (a : AppState) (currentRoot : String) : Option ProjectSwitchBlocker :=
  (a.renderJobs.rows.find? (fun job => decide (job.projectRoot = currentRoot) && !renderJobIsTerminal job.status)).map fun job =>
    { kind := .activeRun
      message := "Cancel the submitted document render before switching projects."
      operationStatus := some (renderStatusName job.status) }

def agentTurnBlocker (a : AppState) : Option ProjectSwitchBlocker :=
  if a.agentTasks.isEmpty then none
  else
    some
      { kind := .agentTurn
        message := "Stop the active Agent turn before switching projects."
        operationStatus := some "running" }

def fileMutationBlocker (a : AppState) (currentRoot : String) : Option ProjectSwitchBlocker :=
  (a.fileMutations.find? (fun claim => claim.projectRoot = currentRoot)).map fun claim =>
    { kind := .agentFileMutation
      message := "Wait for the Agent file change to finish before switching projects."
      operationStatus := some (claimStatusName claim.status ++ ":" ++ claim.path) }

def approvalBlocker (a : AppState) (currentRoot : String) : Option ProjectSwitchBlocker :=
  if 0 < a.approvals ∨ a.store.approvals.rows.any (fun r => decide (r.projectRoot = currentRoot) && r.status == .waiting) then
    some
      { kind := .approval
        message := "Resolve the waiting approval before switching projects."
        operationStatus := some "waiting" }
  else none

def environmentOperationSwitchBlocker (a : AppState) (currentRoot : String) : Option ProjectSwitchBlocker :=
  let requested (status : EnvironmentOperationStatus) : Bool :=
    a.store.environmentOperations.rows.any (fun r => decide (r.projectRoot = currentRoot) && r.status == status)
  let blocker (message status : String) : ProjectSwitchBlocker :=
    { kind := .environmentOperation, message, operationStatus := some status }
  let undecided := "Resolve the direct environment operation decision before switching projects."
  if requested .running then
    some (blocker "Wait for the active direct environment operation to finish before switching projects." "running")
  else if requested .approved then some (blocker undecided "approved")
  else if requested .requested then some (blocker undecided "requested")
  else if 0 < a.environmentApprovals then some (blocker undecided "requested")
  else none

/-- `project_switch_blocker`: the first kind of work that is in progress. -/
def projectSwitchBlocker (a : AppState) : Option ProjectSwitchBlocker :=
  a.activeRunBlocker a.currentRoot <|> a.renderBlocker a.currentRoot <|> a.agentTurnBlocker <|>
    a.fileMutationBlocker a.currentRoot <|> a.approvalBlocker a.currentRoot <|>
    a.environmentOperationSwitchBlocker a.currentRoot

end AppState

/-! ## Sending R to a root -/

def workspaceProjectRootCode (root : String) : String := "setwd(" ++ (Json.str (displayPath root)).toText ++ ")"

def setProjectRootCall (root : String) (identity : WorkspaceIdentity) : DispatchCall where
  requestType := "workspace.set_project_root"
  payload :=
    .obj
      [("arguments", .obj [("code", .str (workspaceProjectRootCode root))]), ("expected_workspace", identityJson identity)]
  origin := .system
  executionId := none

/-- What becomes of a request that sends R to a root. R may carry it out and the answer still be lost, and an R error in `setwd`
comes back as an answer like any other. -/
structure SyncOutcome where
  prepare : PrepareOutcome
  /-- Whether R changed its directory. -/
  carriedOut : Bool
  conclude : ConcludeOutcome
  /-- The error of `recover_incomplete_agent_file_mutations`, which comes after the answer. -/
  recovery : Option String

/-- The request up to its hand-over to R. -/
def beginSync (root : String) (o : SyncOutcome) : AppM Handover := do
  let a ← get
  ofResult (ensure a.session "Workspace R is not running")
  let broker ← ofResult (orError a.context "Workspace context is not ready")
  AppState.onCoordinator broker (prepareDispatch (setProjectRootCall root broker.identity) o.prepare)

/-- R changes its directory, or not. -/
def changeDirectory (root : String) (o : SyncOutcome) : AppM Unit :=
  modify (fun a => if o.carriedOut then { a with workingDirectory := root } else a)

/-- The request from R's answer on. -/
def endSync (h : Handover) (o : SyncOutcome) : AppM Unit := do
  let a ← get
  -- The coordinator has been locked since the hand-over, so its broker is still there.
  let broker ← ofResult (orError a.context "Workspace context is not ready")
  let _ ← AppState.onCoordinator broker (concludeDispatch h o.conclude)
  attempt o.recovery

def syncWorkspaceProjectRoot (root : String) (o : SyncOutcome) : AppM Unit := do
  let h ← beginSync root o
  changeDirectory root o
  endSync h o

/-! ## The switch -/

/-- The steps that fail by themselves. -/
inductive SwitchStep where
  | blocker | listFiles | readStore | projectCandidate | workspaceCandidate | startWatcher | setStoreRoot | saveLastOpened
  | restoreStoreRoot
  deriving DecidableEq, Repr

structure SwitchOutcome where
  fault : SwitchStep → Option String
  /-- The request that sends R to the target. -/
  sync : SyncOutcome
  /-- The extension host refuses the candidates; the switch has happened by then. -/
  publishRejected : Bool
  /-- The request that sends R back. -/
  restore : SyncOutcome

/-- `ProjectRestoreResponse`, as the switch makes them. -/
inductive SwitchResponse where
  | ready
  | blocked (blocker : ProjectSwitchBlocker)
  | failedRestored (restoredRoot reasonCode message : String)
  | fatal (reasonCode message : String)
  deriving DecidableEq, Repr

/-- Why a switch that has sent R to the target does not go on. -/
structure SwitchFailure where
  reasonCode : String
  message : String

/-- The rest of the switch, unless this step failed. -/
def attemptStep (reasonCode context : String) (fault : Option String) : EStateM SwitchFailure AppState Unit :=
  attempt (fault.map fun e => { reasonCode, message := context ++ e })

/-- The scopes of the extension host are built again for the target, when it has any. -/
def workspaceCandidateFault (o : SwitchOutcome) (a : AppState) : Option String :=
  if a.extensionCandidates then
    match a.session, a.context with
    | true, some _ => o.fault .workspaceCandidate
    | false, none => none
    | _, _ => some "Workspace session/context ownership is inconsistent during project switch"
  else none

/-- The event for candidates that were built and then refused. -/
def publishCandidates (o : SwitchOutcome) (a : AppState) : AppState :=
  if a.extensionCandidates && o.publishRejected then
    a.logEvent (if a.context.isSome then "internal_extension_tree_publish_rejected"
      else "internal_extension_candidate_publish_rejected")
  else a

/-- The steps after R has been sent to the target, up to the one that can no longer fail. -/
def prepareCommit (root : String) (o : SwitchOutcome) : EStateM SwitchFailure AppState Unit := do
  let a ← get
  attemptStep "project_switch_extension_workspace_failed" "Target extension Workspace activation failed after workspace sync: "
    (workspaceCandidateFault o a)
  attemptStep "project_switch_watcher_failed"
    "Target project watcher failed after workspace sync: starting target project watcher failed: " (o.fault .startWatcher)
  attemptStep "project_switch_store_root_failed" "Project identity could not be committed: " (o.fault .setStoreRoot)
  modify (fun a => { a with store := a.store.setProjectRoot (some (normalizeProjectRoot root)) })
  attemptStep "project_switch_last_opened_failed" "Last opened project could not be committed: " (o.fault .saveLastOpened)
  modify (fun a => { a with lastOpened := some (displayPath root) })

/-- The target is shown and watched. -/
def commitSwitch (root : String) (o : SwitchOutcome) (a : AppState) : AppState :=
  (publishCandidates o { a with projectRoot := root, watcher := some root }).logEvent "project_switch_succeeded"

/-- R and the store go back to where they were. -/
def restoreProject (previousRoot : String) (previousStoreRoot : Option String) (o : SwitchOutcome) : AppM Unit := do
  syncWorkspaceProjectRoot previousRoot o.restore
  attempt (o.fault .restoreStoreRoot)
  modify (fun a => { a with store := a.store.setProjectRoot previousStoreRoot })

def recoverFailedProjectSwitch (previousRoot : String) (previousStoreRoot : Option String) (o : SwitchOutcome)
    (failure : SwitchFailure) : AppM SwitchResponse :=
  handle (restoreProject previousRoot previousStoreRoot o)
    (fun _ => do
      modify (·.logEvent "project_switch_failed_restored")
      return .failedRestored (String.ofList (previousRoot.toList.map (fun c => if c = '\\' then '/' else c))) failure.reasonCode
        failure.message)
    (fun e => do
      modify (·.logEvent "project_switch_fatal")
      return .fatal "project_switch_restore_failed"
        (failure.message ++ "; restore failed and restart is required: " ++ e))

/-- What the switch needs before it touches anything. -/
def checkSwitch (o : SwitchOutcome) (a : AppState) : Except String (Option ProjectSwitchBlocker) := do
  ensure (!a.shutdownStarted) "Rho is closing; project switching is unavailable"
  if let some e := o.fault .blocker then throw e
  return a.projectSwitchBlocker

/-- The reads and the candidate that come before R is asked. -/
def prepareSwitch (o : SwitchOutcome) (a : AppState) : Except String Unit := do
  if let some e := o.fault .listFiles then throw e
  if let some e := o.fault .readStore then throw e
  if a.extensionCandidates then
    if let some e := o.fault .projectCandidate then throw e

def switchProject (root : String) (o : SwitchOutcome) : AppM SwitchResponse := do
  let a ← get
  match ← ofResult (checkSwitch o a) with
  | some blocker =>
    modify (·.logEvent "project_switch_blocked")
    return .blocked blocker
  | none =>
    ofResult (prepareSwitch o a)
    -- A failure of this request is returned as it is: nothing is restored.
    syncWorkspaceProjectRoot root o.sync
    handle (prepareCommit root o)
      (fun _ => do
        modify (commitSwitch root o)
        return .ready)
      (recoverFailedProjectSwitch a.projectRoot a.store.activeProjectRoot o)

end Rho
