import Rho.Server.Dispatch

/-!
# The state of the desktop

`AppState` of the desktop, as far as the project commands go through it: the roots of the open project, which are kept in five
places, the work in progress that a project switch has to wait for, and the connection to the workspace.
-/

namespace Rho

/-! ## Paths -/

/-- `display_path`: forward slashes, and without the prefix of a verbatim Windows path. -/
def displayPath (path : String) : String :=
  let normalized := path.toList.map (fun c => if c = '\\' then '/' else c)
  if "//?/UNC/".toList.isPrefixOf normalized then String.ofList ("//".toList ++ normalized.drop 8)
  else if "//?/".toList.isPrefixOf normalized then String.ofList (normalized.drop 4)
  else String.ofList normalized

/-! ## Requests to the workspace -/

/-- The identity as a request carries it. -/
def identityJson (w : WorkspaceIdentity) : Json :=
  .obj
    [("workspace_id", .str w.workspaceId), ("kernel_instance_id", .str w.kernelInstanceId), ("execution_seq", .int w.executionSeq),
      ("state_revision", .int w.stateRevision), ("project_revision", .int w.projectRevision)]

/-! ## Work in progress -/

/-- The statuses of a render job, which the source writes as text. -/
inductive RenderStatus where
  | submitted | running | cancelRequested | completed | failed | interrupted
  deriving DecidableEq, Repr

/-- `RenderJobState` without what it only shows: the document, the artifact, the message and the times. -/
structure RenderJob where
  jobId : String
  projectRoot : String
  status : RenderStatus
  terminalReason : Option String
  deriving DecidableEq, Repr

def renderJobIsTerminal : RenderStatus → Bool
  | .completed | .failed | .interrupted => true
  | .submitted | .running | .cancelRequested => false

def renderStatusName : RenderStatus → String
  | .submitted => "submitted"
  | .running => "running"
  | .cancelRequested => "cancel_requested"
  | .completed => "completed"
  | .failed => "failed"
  | .interrupted => "interrupted"

inductive ClaimStatus where
  | queued | running | cancelled
  deriving DecidableEq, Repr

def claimStatusName : ClaimStatus → String
  | .queued => "queued"
  | .running => "running"
  | .cancelled => "cancelled"

/-- `AgentFileMutationClaim`, with the id under which the registry keeps it. -/
structure FileMutationClaim where
  claimId : String
  projectRoot : String
  turnId : String
  path : String
  status : ClaimStatus
  cancelled : Bool
  deriving DecidableEq, Repr

/-! ## The state -/

structure AppState where
  shutdownStarted : Bool
  /-- Whether Workspace R is running. -/
  session : Bool
  /-- The broker behind the coordinator's lock, once the workspace is ready. -/
  context : Option BrokerState
  /-- The database, which every connection reads and writes. -/
  store : Store
  /-- Where R works, by the project root that it was sent to. -/
  workingDirectory : String
  /-- The root that the user interface shows. -/
  projectRoot : String
  /-- The project that the next start opens. -/
  lastOpened : Option String
  /-- The directory that is watched for changes. -/
  watcher : Option String
  approvals : Nat
  environmentApprovals : Nat
  renderJobs : Table RenderJob.jobId
  agentTasks : List String
  fileMutations : List FileMutationClaim
  /-- Whether extensions run in the scopes of the extension host. -/
  extensionCandidates : Bool
  /-- The kinds of the events written to the startup log. -/
  startupLog : List String

abbrev AppM := EStateM String AppState

namespace AppState

def logEvent (a : AppState) (kind : String) : AppState := { a with startupLog := a.startupLog ++ [kind] }

/-- A computation of the coordinator on the state behind its lock. -/
def onCoordinator {α : Type} (broker : BrokerState) (x : CoordinatorM α) : AppM α := fun a =>
  match x { broker, store := a.store } with
  | .ok value c => .ok value { a with context := some c.broker, store := c.store }
  | .error e c => .error e { a with context := some c.broker, store := c.store }

end AppState

end Rho
