import Rho.Desktop.Render
import Rho.Desktop.Switch

/-!
# A project switch among the commands of a session

The switch, step by step, and the commands that go on beside it: `execute_r`, `render_document_job` and the application of Agent
file proposals. A step is what one of them does between two lock acquisitions. The switch holds the transition gate from its first
step to its last; a command that sends code to R holds the coordinator from the preparation of its request to the end of its run.

A command that is refused before it waits for a lock is not submitted. Of the checks that an application makes once it has its
file to itself, only the one of the project is spelled out; whether the others let it go on comes with the step.
-/

namespace Rho

open Effect

/-! ## The commands -/

/-- `ExecuteRequest`; the source range as it is written into the payload. -/
structure ExecuteRequest where
  code : String
  sourcePath : Option String
  executionMode : Option String
  documentVersion : Option Int
  sourceRange : Json

def executeRCall (request : ExecuteRequest) (identity : WorkspaceIdentity) : DispatchCall where
  requestType := "workspace.execute"
  payload :=
    .obj
      [("arguments",
          .obj
            [("code", .str request.code), ("source_path", (request.sourcePath.map Json.str).getD .null),
              ("execution_mode", (request.executionMode.map Json.str).getD .null),
              ("document_version", (request.documentVersion.map Json.int).getD .null), ("source_range", request.sourceRange)]),
        ("expected_workspace", identityJson identity)]
  origin := .user
  executionId := none

/-- Where a call of `execute_r` is. -/
inductive ExecuteStage where
  | waiting
  /-- It holds the coordinator, and R has its code. -/
  | executing (handover : Handover)

def ExecuteStage.isWaiting : ExecuteStage → Bool
  | .waiting => true
  | .executing _ => false

structure ExecuteCall where
  callId : Nat
  request : ExecuteRequest
  /-- The commit whose project was shown when it was submitted. -/
  submitted : Nat
  stage : ExecuteStage

/-- Where a call of `render_document_job` and then its worker are. -/
inductive RenderCallStage where
  /-- The root has been read, and the job is still to be listed. -/
  | read (root : String)
  /-- The job is listed, and its worker waits for the coordinator. -/
  | waiting
  | started
  | executing (handover : Handover)
  | answered (outcome : Except String DispatchResponse)

namespace RenderCallStage

def isListed : RenderCallStage → Bool
  | .read _ => false
  | .waiting | .started | .executing _ | .answered _ => true

/-- Whether the worker holds the coordinator. -/
def holds : RenderCallStage → Bool
  | .read _ | .waiting => false
  | .started | .executing _ | .answered _ => true

end RenderCallStage

structure RenderCall where
  jobId : String
  request : RenderRequest
  submitted : Nat
  stage : RenderCallStage

/-- Where an application of an Agent file proposal is; from its claim on, with the project that the claim is for. -/
inductive ApplyStage where
  | submitted
  | queued (root : String)
  /-- It has its file to itself, and the project was still the same. -/
  | admitted (root : String)
  | written (root : String)

namespace ApplyStage

def claimedRoot : ApplyStage → Option String
  | .submitted => none
  | .queued root | .admitted root | .written root => some root

/-- The project of a file that the application has to itself. -/
def laneRoot : ApplyStage → Option String
  | .submitted | .queued _ => none
  | .admitted root | .written root => some root

end ApplyStage

structure ApplyCall where
  claimId : String
  turnId : String
  /-- The project under which the turn of the proposal is recorded. -/
  turnRoot : String
  path : String
  submitted : Nat
  stage : ApplyStage

/-! ## The switch -/

inductive SwitchStage where
  | entered
  | runsChecked (currentRoot : String)
  | rendersChecked (currentRoot : String)
  /-- Nothing blocks the switch, and R is to be sent to the target. -/
  | ready
  | syncing (handover : Handover)
  | synced
  | watched
  /-- The store has the target. -/
  | stored
  | saved
  /-- A step has failed after R had been sent to the target. -/
  | restoring
  | restoringDirectory (handover : Handover)
  | restoringStore

namespace SwitchStage

/-- R has been asked to go to the target. -/
def pastSync : SwitchStage → Bool
  | .entered | .runsChecked _ | .rendersChecked _ | .ready => false
  | .syncing _ | .synced | .watched | .stored | .saved | .restoring | .restoringDirectory _ | .restoringStore => true

/-- The switch has looked at the render jobs. -/
def pastRenders : SwitchStage → Bool
  | .entered | .runsChecked _ => false
  | .rendersChecked _ | .ready => true
  | .syncing _ | .synced | .watched | .stored | .saved | .restoring | .restoringDirectory _ | .restoringStore => true

/-- The switch holds the coordinator. -/
def holds : SwitchStage → Bool
  | .syncing _ | .restoringDirectory _ => true
  | .entered | .runsChecked _ | .rendersChecked _ | .ready | .synced | .watched | .stored | .saved | .restoring
  | .restoringStore => false

end SwitchStage

/-- The switch that holds the transition gate. What it reads of the project before, no one else writes meanwhile. -/
structure SwitchRun where
  target : String
  outcome : SwitchOutcome
  previousRoot : String
  previousStoreRoot : Option String
  stage : SwitchStage

/-! ## The session -/

/-- What has been executed: a run, with the root of its record, R's directory, the commit whose project was shown when it was
submitted and the last commit when its code was handed over; or the write of a file. -/
inductive Execution where
  | run (recordedRoot : Option String) (workingDirectory : String) (submitted commits : Nat)
  | write (submitted commits : Nat)
  deriving DecidableEq

structure ProjectSession where
  app : AppState
  switch : Option SwitchRun
  calls : Table ExecuteCall.callId
  renders : Table RenderCall.jobId
  applies : Table ApplyCall.claimId
  /-- How often a switch has committed its target to the store. -/
  commits : Nat
  /-- The commit whose project is shown; one that is taken back counts with the project that was shown before. -/
  shown : Nat
  executed : List Execution

namespace ProjectSession

/-- The session of a running workspace. -/
def start (app : AppState) : ProjectSession := ⟨app, none, .empty _, .empty _, .empty _, 0, 0, []⟩

/-- No one holds the coordinator. -/
def coordinatorFree (s : ProjectSession) : Bool :=
  s.calls.rows.all (fun c => c.stage.isWaiting) && s.renders.rows.all (fun r => !r.stage.holds) &&
    s.switch.all (fun run => !run.stage.holds)

/-- The code of a run is handed to R. -/
def handedOver (s : ProjectSession) (h : Handover) (submitted : Nat) : ProjectSession :=
  { s with
    executed := s.executed ++
      [.run ((s.app.store.runs.get h.executionId).map (·.projectRoot)) s.app.workingDirectory submitted s.commits] }

/-! ### execute_r -/

def removeCall (s : ProjectSession) (callId : Nat) : ProjectSession :=
  { s with calls := s.calls.delete (fun c => c.callId = callId) }

def submitExecute (s : ProjectSession) (callId : Nat) (request : ExecuteRequest) : ProjectSession :=
  if (trim request.code).isEmpty ∨ s.app.session = false ∨ s.app.context = none then s
  else
    match s.calls.insert { callId, request, submitted := s.shown, stage := .waiting } with
    | some calls => { s with calls }
    | none => s

def beginExecute (s : ProjectSession) (callId : Nat) (o : PrepareOutcome) : ProjectSession :=
  match s.calls.get callId, s.app.context with
  | some c, some broker =>
    if c.stage.isWaiting && s.coordinatorFree then
      match AppState.onCoordinator broker (prepareDispatch (executeRCall c.request broker.identity) o) s.app with
      | .ok h app =>
        ({ s with
            app
            calls := s.calls.update (fun c => c.callId = callId) (fun c => { c with stage := .executing h }) }).handedOver h
          c.submitted
      | .error _ app => { s with app }.removeCall callId
    else s
  | _, _ => s

def endExecute (s : ProjectSession) (callId : Nat) (o : ConcludeOutcome) : ProjectSession :=
  match s.calls.get callId, s.app.context with
  | some c, some broker =>
    match c.stage with
    | .executing h => { s with app := final (AppState.onCoordinator broker (concludeDispatch h o) s.app) }.removeCall callId
    | .waiting => s
  | _, _ => s

/-! ### render_document_job -/

def removeRender (s : ProjectSession) (jobId : String) : ProjectSession :=
  { s with renders := s.renders.delete (fun r => r.jobId = jobId) }

def setRenderStage (s : ProjectSession) (jobId : String) (stage : RenderCallStage) : ProjectSession :=
  { s with renders := s.renders.update (fun r => r.jobId = jobId) (fun r => { r with stage }) }

def updateRenderJob (s : ProjectSession) (jobId : String) (f : RenderJob → RenderJob) (hf : ∀ j, (f j).jobId = j.jobId) :
    ProjectSession :=
  { s with app := { s.app with renderJobs := s.app.renderJobs.update (fun j => j.jobId = jobId) f hf } }

def readRender (s : ProjectSession) (jobId : String) (request : RenderRequest) : ProjectSession :=
  match s.renders.insert { jobId, request, submitted := s.shown, stage := .read s.app.projectRoot } with
  | some renders => { s with renders }
  | none => s

def listRender (s : ProjectSession) (jobId : String) : ProjectSession :=
  match s.renders.get jobId with
  | some r =>
    match r.stage with
    | .read root =>
      match s.app.renderJobs.insert
          { jobId, projectRoot := normalizeProjectRoot root, status := .submitted, terminalReason := none } with
      | some renderJobs => { s with app := { s.app with renderJobs } }.setRenderStage jobId .waiting
      | none => s
    | _ => s
  | none => s

theorem cancelled_jobId : ∀ j, (finishRenderJob j .interrupted (some "user_cancel_before_start")).jobId = j.jobId :=
  fun j => finishRenderJob_jobId j _ _

theorem started_jobId : ∀ j : RenderJob, ({ j with status := .running } : RenderJob).jobId = j.jobId := fun _ => rfl

/-- The worker once it holds the coordinator: a job that is to be cancelled ends, and any other is running now. -/
def admitRender (s : ProjectSession) (jobId : String) : ProjectSession :=
  match s.app.renderJobs.get jobId with
  | none => s.removeRender jobId
  | some job =>
    if job.status = .cancelRequested then
      (s.updateRenderJob jobId (finishRenderJob · .interrupted (some "user_cancel_before_start"))
        cancelled_jobId).removeRender jobId
    else (s.updateRenderJob jobId (fun j => { j with status := .running }) started_jobId).setRenderStage jobId .started

def startRender (s : ProjectSession) (jobId : String) : ProjectSession :=
  match s.renders.get jobId with
  | some r =>
    match r.stage with
    | .waiting => if s.coordinatorFree then s.admitRender jobId else s
    | _ => s
  | none => s

/-- The request of a worker up to its hand-over, or to its error before it. -/
def handRender (s : ProjectSession) (r : RenderCall) (broker : BrokerState) (call : DispatchCall) (o : PrepareOutcome) :
    ProjectSession :=
  match AppState.onCoordinator broker (prepareDispatch call o) s.app with
  | .ok h app => ({ s with app }.setRenderStage r.jobId (.executing h)).handedOver h r.submitted
  | .error e app => { s with app }.setRenderStage r.jobId (.answered (.error e))

def prepareRender (s : ProjectSession) (jobId : String) (o : PrepareOutcome) : ProjectSession :=
  match s.renders.get jobId, s.app.context with
  | some r, some broker =>
    match r.stage with
    | .started => s.handRender r broker (renderCall jobId r.request broker.identity) o
    | _ => s
  | _, _ => s

def answerRender (s : ProjectSession) (jobId : String) (o : ConcludeOutcome) : ProjectSession :=
  match s.renders.get jobId, s.app.context with
  | some r, some broker =>
    match r.stage with
    | .executing h =>
      match AppState.onCoordinator broker (concludeDispatch h o) s.app with
      | .ok response app => { s with app }.setRenderStage jobId (.answered (.ok response))
      | .error e app => { s with app }.setRenderStage jobId (.answered (.error e))
    | _ => s
  | _, _ => s

def finishRender (s : ProjectSession) (jobId : String) : ProjectSession :=
  match s.renders.get jobId with
  | some r =>
    match r.stage with
    | .answered outcome =>
      (s.updateRenderJob jobId (concludeRenderJob · outcome) (fun j => concludeRenderJob_jobId j _)).removeRender jobId
    | _ => s
  | none => s

/-! ### Agent file proposals -/

def removeApply (s : ProjectSession) (claimId : String) : ProjectSession :=
  { s with applies := s.applies.delete (fun a => a.claimId = claimId) }

def setApplyStage (s : ProjectSession) (claimId : String) (stage : ApplyStage) : ProjectSession :=
  { s with applies := s.applies.update (fun a => a.claimId = claimId) (fun a => { a with stage }) }

/-- The claim is dropped with the application. -/
def dropClaim (s : ProjectSession) (claimId : String) : ProjectSession :=
  { s with app := { s.app with fileMutations := s.app.fileMutations.filter (fun c => c.claimId ≠ claimId) } }.removeApply claimId

/-- `register`, under the project that is shown. -/
def addClaim (s : ProjectSession) (a : ApplyCall) : ProjectSession :=
  { s with
    app := { s.app with
      fileMutations := s.app.fileMutations ++
        [{ claimId := a.claimId, projectRoot := normalizeProjectRoot s.app.projectRoot, turnId := a.turnId, path := a.path,
           status := .queued, cancelled := false }] } }

def submitApply (s : ProjectSession) (claimId turnId turnRoot path : String) : ProjectSession :=
  match s.applies.insert { claimId, turnId, turnRoot, path, submitted := s.shown, stage := .submitted } with
  | some applies => { s with applies }
  | none => s

/-- What the application does while it holds the gate: a turn of another project is not found. -/
def registerApply (s : ProjectSession) (claimId : String) : ProjectSession :=
  match s.switch, s.applies.get claimId with
  | none, some a =>
    match a.stage with
    | .submitted =>
      if a.turnRoot ≠ normalizeProjectRoot s.app.projectRoot then s.removeApply claimId
      else (s.addClaim a).setApplyStage claimId (.queued (normalizeProjectRoot s.app.projectRoot))
    | _ => s
  | _, _ => s

/-- No application has the file to itself. -/
def laneFree (s : ProjectSession) (root path : String) : Bool :=
  s.applies.rows.all (fun a => !(decide (a.stage.laneRoot = some root) && decide (a.path = path)))

def admitApply (s : ProjectSession) (claimId : String) (proceeds : Bool) : ProjectSession :=
  match s.applies.get claimId with
  | some a =>
    match a.stage with
    | .queued root =>
      if s.laneFree root a.path then
        if s.app.store.activeProjectRoot = some root ∧ proceeds = true then s.setApplyStage claimId (.admitted root)
        else s.dropClaim claimId
      else s
    | _ => s
  | none => s

def writeApply (s : ProjectSession) (claimId : String) : ProjectSession :=
  match s.applies.get claimId with
  | some a =>
    match a.stage with
    | .admitted root =>
      ({ s with executed := s.executed ++ [.write a.submitted s.commits] } : ProjectSession).setApplyStage claimId (.written root)
    | _ => s
  | none => s

/-- `record_agent_file_project_change`, and the end of the application. -/
def finishApply (s : ProjectSession) (claimId : String) : ProjectSession :=
  match s.applies.get claimId, s.app.context with
  | some a, some broker =>
    match a.stage with
    | .written _ =>
      if s.coordinatorFree then
        { s with
          app := { s.app with
            context := some broker.projectChanged
            store := s.app.store.saveIdentity broker.projectChanged.identity } }.dropClaim claimId
      else s
    | _ => s
  | _, _ => s

/-! ### The switch -/

def leaveSwitch (s : ProjectSession) (app : AppState) : ProjectSession := { s with app, switch := none }

def switchAt (s : ProjectSession) (run : SwitchRun) (app : AppState) (stage : SwitchStage) : ProjectSession :=
  { s with app, switch := some { run with stage } }

def enterSwitch (s : ProjectSession) (target : String) (outcome : SwitchOutcome) : ProjectSession :=
  match s.switch with
  | some _ => s
  | none =>
    if s.app.shutdownStarted then s
    else
      { s with
        switch := some
          { target, outcome, previousRoot := s.app.projectRoot, previousStoreRoot := s.app.store.activeProjectRoot,
            stage := .entered } }

/-- The switch goes on unless something is in its way. -/
def unlessBlocked (s : ProjectSession) (run : SwitchRun) (blocker : Option ProjectSwitchBlocker) (stage : SwitchStage) :
    ProjectSession :=
  match blocker with
  | some _ => s.leaveSwitch (s.app.logEvent "project_switch_blocked")
  | none => s.switchAt run s.app stage

/-- R changes its directory, or not, and answers. -/
def answerSync (root : String) (h : Handover) (o : SyncOutcome) : AppM Unit := do
  changeDirectory root o
  endSync h o

/-- R is asked to go to a root once the coordinator is free. -/
def askSync (s : ProjectSession) (run : SwitchRun) (root : String) (o : SyncOutcome) (stage : Handover → SwitchStage)
    (onError : AppState → AppState) : ProjectSession :=
  if s.coordinatorFree then
    match beginSync root o s.app with
    | .ok h app => (s.switchAt run app (stage h)).handedOver h s.commits
    | .error _ app => s.leaveSwitch (onError app)
  else s

def switchNext (s : ProjectSession) (run : SwitchRun) : ProjectSession :=
  match run.stage with
  | .entered =>
    match run.outcome.fault .blocker with
    | some _ => s.leaveSwitch s.app
    | none => s.unlessBlocked run (s.app.activeRunBlocker s.app.currentRoot) (.runsChecked s.app.currentRoot)
  | .runsChecked root => s.unlessBlocked run (s.app.renderBlocker root) (.rendersChecked root)
  | .rendersChecked root =>
    match s.app.agentTurnBlocker <|> s.app.fileMutationBlocker root <|> s.app.approvalBlocker root <|>
        s.app.environmentOperationSwitchBlocker root, prepareSwitch run.outcome s.app with
    | some _, _ => s.leaveSwitch (s.app.logEvent "project_switch_blocked")
    | none, .error _ => s.leaveSwitch s.app
    | none, .ok _ => s.switchAt run s.app .ready
  | .ready => s.askSync run run.target run.outcome.sync .syncing id
  | .syncing h =>
    match answerSync run.target h run.outcome.sync s.app with
    | .ok _ app => s.switchAt run app .synced
    | .error _ app => s.leaveSwitch app
  | .synced =>
    match workspaceCandidateFault run.outcome s.app <|> run.outcome.fault .startWatcher with
    | some _ => s.switchAt run s.app .restoring
    | none => s.switchAt run s.app .watched
  | .watched =>
    match run.outcome.fault .setStoreRoot with
    | some _ => s.switchAt run s.app .restoring
    | none =>
      { s.switchAt run { s.app with store := s.app.store.setProjectRoot (some (normalizeProjectRoot run.target)) } .stored with
        commits := s.commits + 1 }
  | .stored =>
    match run.outcome.fault .saveLastOpened with
    | some _ => s.switchAt run s.app .restoring
    | none => s.switchAt run { s.app with lastOpened := some (displayPath run.target) } .saved
  | .saved => { s.leaveSwitch (commitSwitch run.target run.outcome s.app) with shown := s.commits }
  | .restoring =>
    s.askSync run run.previousRoot run.outcome.restore .restoringDirectory (·.logEvent "project_switch_fatal")
  | .restoringDirectory h =>
    match answerSync run.previousRoot h run.outcome.restore s.app with
    | .ok _ app => s.switchAt run app .restoringStore
    | .error _ app => s.leaveSwitch (app.logEvent "project_switch_fatal")
  | .restoringStore =>
    match run.outcome.fault .restoreStoreRoot with
    | some _ => s.leaveSwitch (s.app.logEvent "project_switch_fatal")
    | none =>
      { s.leaveSwitch ({ s.app with store := s.app.store.setProjectRoot run.previousStoreRoot }.logEvent
          "project_switch_failed_restored") with
        shown := s.commits }

end ProjectSession

/-- What can happen next. -/
inductive ProjectStep where
  | submitExecute (callId : Nat) (request : ExecuteRequest)
  | beginExecute (callId : Nat) (o : PrepareOutcome)
  | endExecute (callId : Nat) (o : ConcludeOutcome)
  | readRender (jobId : String) (request : RenderRequest)
  | listRender (jobId : String)
  | startRender (jobId : String)
  | prepareRender (jobId : String) (o : PrepareOutcome)
  | answerRender (jobId : String) (o : ConcludeOutcome)
  | finishRender (jobId : String)
  | submitApply (claimId turnId turnRoot path : String)
  | registerApply (claimId : String)
  | admitApply (claimId : String) (proceeds : Bool)
  | writeApply (claimId : String)
  | finishApply (claimId : String)
  | enterSwitch (target : String) (outcome : SwitchOutcome)
  | switchNext

namespace ProjectSession

def step (s : ProjectSession) : ProjectStep → ProjectSession
  | .submitExecute callId request => s.submitExecute callId request
  | .beginExecute callId o => s.beginExecute callId o
  | .endExecute callId o => s.endExecute callId o
  | .readRender jobId request => s.readRender jobId request
  | .listRender jobId => s.listRender jobId
  | .startRender jobId => s.startRender jobId
  | .prepareRender jobId o => s.prepareRender jobId o
  | .answerRender jobId o => s.answerRender jobId o
  | .finishRender jobId => s.finishRender jobId
  | .submitApply claimId turnId turnRoot path => s.submitApply claimId turnId turnRoot path
  | .registerApply claimId => s.registerApply claimId
  | .admitApply claimId proceeds => s.admitApply claimId proceeds
  | .writeApply claimId => s.writeApply claimId
  | .finishApply claimId => s.finishApply claimId
  | .enterSwitch target outcome => s.enterSwitch target outcome
  | .switchNext =>
    match s.switch with
    | some run => s.switchNext run
    | none => s

end ProjectSession

end Rho
