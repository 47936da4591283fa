import Rho.Desktop.State
import Rho.Lib.Run

/-!
# Render jobs

A document is rendered by a worker that waits for the coordinator, hands the request to R and writes the end into its job. Polls of
the job, its cancellation and a restart of the workspace write to the same job and to the run behind it. Each step of the system
is what one of them does between two lock acquisitions; what a step reads and uses later is kept in the state.
-/

namespace Rho

open Effect

/-! ## A job -/

/-- `finish_render_job`: a job that has ended is left alone. -/
def finishRenderJob (job : RenderJob) (status : RenderStatus) (terminalReason : Option String) : RenderJob :=
  if renderJobIsTerminal job.status then job else { job with status, terminalReason }

/-- `reconcile_render_job`, with the run's status as it was read. -/
def reconcileRenderJob (job : RenderJob) (runStatus : Option RunStatus) (terminalReason : Option String) : RenderJob :=
  if renderJobIsTerminal job.status then job
  else
    match runStatus with
    | some .completed => finishRenderJob job .completed (some "completed")
    | some .failed => finishRenderJob job .failed terminalReason
    | some .interrupted => finishRenderJob job .interrupted terminalReason
    -- No run, and also a run that is queued, running or waiting.
    | _ => finishRenderJob job .interrupted (some "workspace_restart_before_start")

/-- `response["execution"]["ok"].as_bool().unwrap_or(false)`. -/
def executionOk (execution : Json) : Bool := ((execution.get "ok").bind Json.asBool).getD false

/-- The job of a worker whose dispatch has returned. -/
def concludeRenderJob (job : RenderJob) (outcome : Except String DispatchResponse) : RenderJob :=
  match outcome with
  | .ok response =>
    if executionOk response.execution then finishRenderJob job .completed (some "completed")
    else finishRenderJob job .failed (some "r_error")
  | .error _ =>
    if job.status = .cancelRequested then finishRenderJob job .interrupted (some "user_interrupt")
    else finishRenderJob job .failed (some "execution_error")

@[simp] theorem finishRenderJob_jobId (job : RenderJob) (status : RenderStatus) (terminalReason : Option String) :
    (finishRenderJob job status terminalReason).jobId = job.jobId := by
  unfold finishRenderJob
  split
  · rfl
  · rfl

@[simp] theorem reconcileRenderJob_jobId (job : RenderJob) (runStatus : Option RunStatus) (terminalReason : Option String) :
    (reconcileRenderJob job runStatus terminalReason).jobId = job.jobId := by
  unfold reconcileRenderJob
  split
  · rfl
  · split <;> exact finishRenderJob_jobId _ _ _

@[simp] theorem concludeRenderJob_jobId (job : RenderJob) (outcome : Except String DispatchResponse) :
    (concludeRenderJob job outcome).jobId = job.jobId := by
  unfold concludeRenderJob
  split
  · split <;> exact finishRenderJob_jobId _ _ _
  · split <;> exact finishRenderJob_jobId _ _ _

structure RenderRequest where
  filePath : String
  path : String
  documentVersion : Option Int
  deriving DecidableEq, Repr

/-- The worker's request; the job's id is the id of its run. -/
def renderCall (jobId : String) (request : RenderRequest) (identity : WorkspaceIdentity) : DispatchCall where
  requestType := "workspace.render_document"
  payload :=
    .obj
      [("arguments",
          .obj
            [("path", .str request.filePath), ("source_path", .str request.path), ("execution_mode", .str "render"),
              ("document_version", (request.documentVersion.map Json.int).getD .null)]),
        ("expected_workspace", identityJson identity)]
  origin := .user
  executionId := some jobId

/-! ## The system -/

/-- Where a worker is. -/
inductive WorkerStage where
  /-- The job is listed, and its task is not spawned yet. -/
  | listed
  /-- It waits for the coordinator of the workspace that it found, if there was one. -/
  | waiting (workspace : Option Nat)
  /-- It holds the coordinator, and its job is running. -/
  | started (workspace : Nat)
  /-- R has its code. -/
  | executing (workspace : Nat) (handover : Handover)
  /-- Its dispatch has returned, and its job is still to be written. -/
  | answered (workspace : Nat) (outcome : Except String DispatchResponse)

namespace WorkerStage

/-- Whose coordinator the worker holds. -/
def holds : WorkerStage → Option Nat
  | .listed | .waiting _ => none
  | .started workspace | .executing workspace _ | .answered workspace _ => some workspace

end WorkerStage

structure RenderWorker where
  jobId : String
  request : RenderRequest
  /-- Whether its task is in `render_tasks`, where a restart finds it. -/
  registered : Bool
  stage : WorkerStage

/-- How far a restart has come. -/
inductive RestartStage where
  | marked
  | collected (tasks : List String)
  | runCancelled (tasks : List String)
  /-- The workspace has been taken out of the state. -/
  | taken (tasks : List String) (workspace : Option Nat)
  | aborted (workspace : Option Nat)
  /-- The last request of the old workspace has let go of its coordinator. -/
  | stopped
  | started
  | read (runs : List (String × Option RunRecord))

structure Restart where
  /-- The jobs that had not ended when the restart began. -/
  jobIds : List String
  stage : RestartStage

structure RenderSystem where
  store : Store
  /-- The root of the open project, normalized. -/
  root : String
  jobs : Table RenderJob.jobId
  workers : Table RenderWorker.jobId
  /-- The workspace that is running, by its number, and the brokers of all that were started. -/
  workspace : Option Nat
  started : Nat
  brokers : Nat → BrokerState
  /-- The polls that have read a run and not yet looked at their job again. -/
  polls : List (String × RunRecord)
  /-- The cancellations that have marked a running job and not yet its run. -/
  cancels : List String
  restart : Option Restart
  /-- The job ids that have been made up. -/
  issued : List String

namespace RenderSystem

/-- The desktop once a workspace has been started on a project. -/
def start (store : Store) (projectRoot : String) (broker : BrokerState) : RenderSystem where
  store := store.setProjectRoot (some (normalizeProjectRoot projectRoot))
  root := normalizeProjectRoot projectRoot
  jobs := .empty _
  workers := .empty _
  workspace := some 0
  started := 1
  brokers := fun _ => broker
  polls := []
  cancels := []
  restart := none
  issued := []

/-- `get_run_detail` under the open project. -/
def getRunDetail (s : RenderSystem) (runId : String) : Option RunRecord :=
  (s.store.runs.get runId).filter (fun r => r.projectRoot = s.root)

def updateJob (s : RenderSystem) (jobId : String) (f : RenderJob → RenderJob) (hf : ∀ j, (f j).jobId = j.jobId) : RenderSystem :=
  { s with jobs := s.jobs.update (fun j => j.jobId = jobId) f hf }

/-- A job is brought in line with its run as it was read. -/
def reconcileJob (s : RenderSystem) (jobId : String) (run : Option RunRecord) : RenderSystem :=
  s.updateJob jobId (reconcileRenderJob · (run.map (·.status)) (run.bind (·.terminalReason)))
    (fun j => reconcileRenderJob_jobId j _ _)

/-- Where the worker of a job is. -/
def stageOf (s : RenderSystem) (jobId : String) : Option WorkerStage := (s.workers.get jobId).map (·.stage)

def setStage (s : RenderSystem) (jobId : String) (stage : WorkerStage) : RenderSystem :=
  { s with workers := s.workers.update (fun w => w.jobId = jobId) (fun w => { w with stage }) }

def removeWorker (s : RenderSystem) (jobId : String) : RenderSystem :=
  { s with workers := s.workers.delete (fun w => w.jobId = jobId) }

/-- No worker holds the coordinator of the workspace. -/
def coordinatorFree (s : RenderSystem) (workspace : Nat) : Bool :=
  s.workers.rows.all (fun w => decide (w.stage.holds ≠ some workspace))

/-- The coordinator of one workspace; all of them write to the same database. -/
def coordinator (s : RenderSystem) (workspace : Nat) : Coordinator := { broker := s.brokers workspace, store := s.store }

def withCoordinator (s : RenderSystem) (workspace : Nat) (c : Coordinator) : RenderSystem :=
  { s with store := c.store, brokers := Function.update s.brokers workspace c.broker }

/-! ## The worker -/

/-- The job is listed under an id that was never used. -/
def submit (s : RenderSystem) (jobId : String) (request : RenderRequest) : RenderSystem :=
  if jobId ∈ s.issued ∨ (s.store.runs.get jobId).isSome then s
  else
    match s.jobs.insert { jobId, projectRoot := s.root, status := .submitted, terminalReason := none },
      s.workers.insert { jobId, request, registered := false, stage := .listed } with
    | some jobs, some workers => { s with jobs, workers, issued := jobId :: s.issued }
    | _, _ => s

/-- The task is spawned with the workspace that is there now. -/
def spawn (s : RenderSystem) (jobId : String) : RenderSystem :=
  match s.stageOf jobId with
  | some .listed => s.setStage jobId (.waiting s.workspace)
  | _ => s

def registerTask (s : RenderSystem) (jobId : String) : RenderSystem :=
  match s.stageOf jobId with
  | some .listed => s
  | _ => { s with workers := s.workers.update (fun w => w.jobId = jobId) (fun w => { w with registered := true }) }

/-- The worker once it holds the coordinator: a job that is to be cancelled ends, and any other is running now. -/
def admitWorker (s : RenderSystem) (jobId : String) (workspace : Nat) : RenderSystem :=
  match s.jobs.get jobId with
  | none => s.removeWorker jobId
  | some job =>
    if job.status = .cancelRequested then
      (s.updateJob jobId (finishRenderJob · .interrupted (some "user_cancel_before_start"))
        (fun j => finishRenderJob_jobId j _ _)).removeWorker jobId
    else (s.updateJob jobId (fun j => { j with status := .running }) (fun _ => rfl)).setStage jobId (.started workspace)

def workerStart (s : RenderSystem) (jobId : String) : RenderSystem :=
  match s.stageOf jobId with
  | some (.waiting none) =>
    (s.updateJob jobId (finishRenderJob · .failed (some "workspace_unavailable"))
      (fun j => finishRenderJob_jobId j _ _)).removeWorker jobId
  | some (.waiting (some workspace)) =>
    if s.coordinatorFree workspace then s.admitWorker jobId workspace else s
  | _ => s

/-- The request up to its hand-over, or to its error before it. -/
def prepareWorker (s : RenderSystem) (jobId : String) (workspace : Nat) (call : DispatchCall) (o : PrepareOutcome) :
    RenderSystem :=
  match prepareDispatch call o (s.coordinator workspace) with
  | .ok handover c => (s.withCoordinator workspace c).setStage jobId (.executing workspace handover)
  | .error e c => (s.withCoordinator workspace c).setStage jobId (.answered workspace (.error e))

def workerPrepare (s : RenderSystem) (jobId : String) (o : PrepareOutcome) : RenderSystem :=
  match s.workers.get jobId with
  | none => s
  | some w =>
    match w.stage with
    | .started workspace =>
      s.prepareWorker jobId workspace (renderCall jobId w.request (s.brokers workspace).identity) o
    | _ => s

/-- The request from R's answer on. -/
def answerWorker (s : RenderSystem) (jobId : String) (workspace : Nat) (handover : Handover) (o : ConcludeOutcome) : RenderSystem :=
  match concludeDispatch handover o (s.coordinator workspace) with
  | .ok response c => (s.withCoordinator workspace c).setStage jobId (.answered workspace (.ok response))
  | .error e c => (s.withCoordinator workspace c).setStage jobId (.answered workspace (.error e))

def workerAnswer (s : RenderSystem) (jobId : String) (o : ConcludeOutcome) : RenderSystem :=
  match s.stageOf jobId with
  | some (.executing workspace handover) => s.answerWorker jobId workspace handover o
  | _ => s

def workerFinish (s : RenderSystem) (jobId : String) : RenderSystem :=
  match s.stageOf jobId with
  | some (.answered _ outcome) =>
    (s.updateJob jobId (concludeRenderJob · outcome) (fun j => concludeRenderJob_jobId j _)).removeWorker jobId
  | _ => s

/-! ## Polls and cancellations -/

/-- `render_job_status` up to its read of the run: old jobs that have ended are dropped. -/
def pollRead (s : RenderSystem) (jobId : String) (expired : RenderJob → Bool) : RenderSystem :=
  let s := { s with jobs := s.jobs.delete (fun j => renderJobIsTerminal j.status && expired j) }
  match (s.jobs.get jobId).filter (fun j => j.projectRoot = s.root), s.getRunDetail jobId with
  | some _, some run => { s with polls := (jobId, run) :: s.polls }
  | _, _ => s

/-- The rest of `render_job_status`, with the run that it has read. -/
def pollReconcile (s : RenderSystem) (jobId : String) (run : RunRecord) : RenderSystem :=
  if (jobId, run) ∈ s.polls then
    { s.reconcileJob jobId (some run) with polls := s.polls.erase (jobId, run) }
  else s

/-- `cancel_render_job` on the job; a job that is running has its run marked next. -/
def cancelJob (s : RenderSystem) (jobId : String) : RenderSystem :=
  match ((s.jobs.get jobId).filter (fun j => j.projectRoot = s.root)).map RenderJob.status with
  | some .submitted => s.updateJob jobId (fun j => { j with status := .cancelRequested }) (fun _ => rfl)
  | some .running =>
    { s.updateJob jobId (fun j => { j with status := .cancelRequested }) (fun _ => rfl) with cancels := jobId :: s.cancels }
  | _ => s

def cancelRun (s : RenderSystem) (jobId : String) : RenderSystem :=
  if jobId ∈ s.cancels then
    { s with store := (s.store.requestCancel s.root jobId).1, cancels := s.cancels.erase jobId }
  else s

/-! ## A restart of the workspace -/

def unfinished (s : RenderSystem) (j : RenderJob) : Bool := decide (j.projectRoot = s.root) && !renderJobIsTerminal j.status

def restartMark (s : RenderSystem) : RenderSystem :=
  match s.restart with
  | some _ => s
  | none =>
    { s with
      jobs := s.jobs.update s.unfinished (fun j => { j with status := .cancelRequested })
      restart := some { jobIds := (s.jobs.rows.filter s.unfinished).map (·.jobId), stage := .marked } }

/-- `latest_active_run_id`; the rows are in the order of their start. -/
def latestActiveRunId (s : RenderSystem) : Option String :=
  (s.store.runs.rows.reverse.find? (fun r => decide (r.projectRoot = s.root) && r.status.isActive)).map (·.runId)

/-- The task of a worker that a restart finds. -/
def collects (jobIds : List String) (w : RenderWorker) : Bool := decide (w.jobId ∈ jobIds) && w.registered

/-- The next step of the restart that is under way. -/
def restartNext (s : RenderSystem) (restart : Restart) : RenderSystem :=
  match restart.stage with
  | .marked =>
    { s with
      workers := s.workers.update (collects restart.jobIds) (fun w => { w with registered := false })
      restart := some
        { restart with stage := .collected ((s.workers.rows.filter (collects restart.jobIds)).map (·.jobId)) } }
  | .collected tasks =>
    { s with
      store := (s.latestActiveRunId.map (fun runId => (s.store.requestCancel s.root runId).1)).getD s.store
      restart := some { restart with stage := .runCancelled tasks } }
  | .runCancelled tasks => { s with workspace := none, restart := some { restart with stage := .taken tasks s.workspace } }
  | .taken tasks workspace =>
    { s with
      workers := s.workers.delete (fun w => w.jobId ∈ tasks)
      restart := some { restart with stage := .aborted workspace } }
  | .aborted workspace =>
    if workspace.all s.coordinatorFree then { s with restart := some { restart with stage := .stopped } } else s
  | .stopped =>
    -- `start_workspace`, which recovers the store for the project that is shown.
    { s with
      store := ((s.store.setProjectRoot (some s.root)).recoverIncompleteRuns).recoverIncompleteEnvironmentOperations
      workspace := some s.started
      started := s.started + 1
      restart := some { restart with stage := .started } }
  | .started =>
    { s with
      restart := some { restart with stage := .read (restart.jobIds.map (fun jobId => (jobId, s.getRunDetail jobId))) } }
  | .read runs =>
    { runs.foldl (fun s read => s.reconcileJob read.1 read.2) s with restart := none }

/-- The restart ends with an error; one that has waited too long puts the workspace back. -/
def restartFail (s : RenderSystem) (restart : Restart) : RenderSystem :=
  match restart.stage with
  | .aborted workspace => { s with workspace, restart := none }
  | _ => { s with restart := none }

end RenderSystem

/-- What can happen next. -/
inductive RenderStep where
  | submit (jobId : String) (request : RenderRequest)
  | spawn (jobId : String)
  | registerTask (jobId : String)
  | workerStart (jobId : String)
  | workerPrepare (jobId : String) (o : PrepareOutcome)
  | workerAnswer (jobId : String) (o : ConcludeOutcome)
  | workerFinish (jobId : String)
  | pollRead (jobId : String) (expired : RenderJob → Bool)
  | pollReconcile (jobId : String) (run : RunRecord)
  | cancelJob (jobId : String)
  | cancelRun (jobId : String)
  | restartMark
  | restartNext
  | restartFail

namespace RenderSystem

def step (s : RenderSystem) : RenderStep → RenderSystem
  | .submit jobId request => s.submit jobId request
  | .spawn jobId => s.spawn jobId
  | .registerTask jobId => s.registerTask jobId
  | .workerStart jobId => s.workerStart jobId
  | .workerPrepare jobId o => s.workerPrepare jobId o
  | .workerAnswer jobId o => s.workerAnswer jobId o
  | .workerFinish jobId => s.workerFinish jobId
  | .pollRead jobId expired => s.pollRead jobId expired
  | .pollReconcile jobId run => s.pollReconcile jobId run
  | .cancelJob jobId => s.cancelJob jobId
  | .cancelRun jobId => s.cancelRun jobId
  | .restartMark => s.restartMark
  | .restartNext =>
    match s.restart with
    | some restart => s.restartNext restart
    | none => s
  | .restartFail =>
    match s.restart with
    | some restart => s.restartFail restart
    | none => s

end RenderSystem

end Rho
