import Rho.Desktop.State
import Rho.Lib.Serde
import Rho.Server.Review

/-!
# Deciding and carrying out an environment operation

`decide_environment_operation` of the coordinator with the dispatch that it starts, and all who write to the row of an operation or
of a run: other dispatches, the Agent's handlers, the user's interrupt, the end of a turn and the recovery after a restart. While the
kernel has the code of a dispatch, the others go on writing.
-/

namespace Rho

open Effect

/-! ## How a run has ended -/

def runStatusName : RunStatus → String
  | .queued => "queued"
  | .running => "running"
  | .waiting => "waiting"
  | .completed => "completed"
  | .failed => "failed"
  | .interrupted => "interrupted"

/-- The terminal outcome of a run that has ended: the reason that is recorded, or that it was completed. -/
def RunRecord.terminalOutcome (r : RunRecord) : Option String :=
  if r.status.isActive then none else some (r.terminalReason.getD (runStatusName r.status))

/-! ## The stored arguments -/

/-- `EnvironmentOperationArguments` as serde reads them; an array has to list every field. -/
def decodeEnvironmentOperationArguments (value : Json) : Option EnvironmentOperationArguments := do
  let names := ["operation", "project_root", "repositories", "bioconductor", "package", "project_library"]
  if let .arr values := value then guard (values.length = names.length)
  match ← Serde.fields false names value with
  | [operation, projectRoot, repositories, bioconductor, package, projectLibrary] =>
    return {
      operation := ← Serde.required Serde.string operation
      projectRoot := ← Serde.optional Serde.string projectRoot
      repositories := ← Serde.optional (fun v => stringMap v.normalize) repositories
      bioconductor := ← Serde.optional Serde.string bioconductor
      package := ← Serde.optional Serde.string package
      projectLibrary := ← Serde.optional Serde.string projectLibrary }
  | _ => none

/-! ## The user's decision -/

def environmentOperationStatusName : EnvironmentOperationStatus → String
  | .requested => "requested"
  | .approved => "approved"
  | .rejected => "rejected"
  | .cancelled => "cancelled"
  | .running => "running"
  | .completed => "completed"
  | .failed => "failed"
  | .interrupted => "interrupted"
  | .stale => "stale"

/-- `decide_environment_operation`, first: the request belongs to the active project and is still pending. -/
def pendingEnvironmentOperation (requestId : String) (o : ResolveOutcome) : CoordinatorM EnvironmentOperationRecord := do
  attempt (o.fault .activeRoot)
  let c ← get
  let projectRoot ← ofResult (orError c.store.activeProjectRoot
    "Cannot decide environment operation without an active project identity")
  attempt (o.fault .readRequest)
  let request ← ofResult (orError (c.store.getEnvironmentOperationRequest projectRoot requestId)
    ("Environment operation request not found: " ++ requestId))
  ofResult (ensure (request.status = .requested)
    ("Environment operation request is no longer pending: " ++ environmentOperationStatusName request.status))
  return request

/-- Then the decision is written; whether it is an approval that is not stale. -/
def decidePendingOperation (request : EnvironmentOperationRecord) (decision : String) (o : ResolveOutcome) : CoordinatorM Bool :=
  let write (status : EnvironmentOperationStatus) : CoordinatorM Unit := do
    attempt (o.fault .decide)
    onStore (·.decideEnvironmentOperationRequest request.requestId { status, decision := some decision })
  if decision ≠ "approve" then do
    write (if decision = "cancel" then .cancelled else .rejected)
    return false
  else do
    attempt (o.fault .activeRoot)
    let c ← get
    match environmentOperationStaleReason request c.broker (slashes (c.store.activeProjectRoot.getD "")) o.snapshotId with
    | some _ =>
      write .stale
      return false
    | none =>
      write .approved
      return true

/-- The dispatch of a confirmed operation: the stored arguments, with the project of the request, at the workspace as it is. -/
def confirmedCall (request : EnvironmentOperationRecord) (arguments : EnvironmentOperationArguments) (origin : ExecutionOrigin)
    (identity : WorkspaceIdentity) : DispatchCall where
  requestType := request.requestName
  payload :=
    .obj
      [("arguments", { arguments with projectRoot := some request.projectRoot }.toJson),
        ("expected_workspace", identityJson identity), ("approval_request_id", .str request.requestId)]
  origin
  executionId := none

/-- `execute_confirmed_environment_operation`, up to the hand-over. -/
def executeConfirmedEnvironmentOperation (request : EnvironmentOperationRecord) (origin : ExecutionOrigin) (o : PrepareOutcome) :
    CoordinatorM Handover := do
  let arguments ← ofResult (orError ((Json.rawParse request.argumentsJson.toList).bind decodeEnvironmentOperationArguments)
    "decoding stored environment operation arguments")
  let c ← get
  prepareDispatch (confirmedCall request arguments origin c.broker.identity) o

/-- What `decide_environment_operation` writes when its dispatch ends in an error; the statement's own failure is ignored. -/
def recordDispatchError (requestId : String) (fault : Option String) (s : Store) : Store :=
  match fault with
  | some _ => s
  | none => s.finishEnvironmentOperationRequest
      { requestId, status := .failed, runId := none, terminalOutcome := some "dispatch_error" }

/-! ## Everyone who writes -/

/-- What the coordinator is locked for. -/
inductive Lane where
  | free
  | deciding (request : EnvironmentOperationRecord) (decision : String) (origin : ExecutionOrigin)
  /-- The kernel has the code of a dispatch, which the decision on a request waits for. -/
  | running (h : Handover) (decided : Option String)

structure OperationSystem where
  coordinator : Coordinator
  lane : Lane
  /-- The operations whose code the kernel was given, with their runs. -/
  handedOver : List (String × String)

/-- Nothing in progress. -/
def OperationSystem.start (c : Coordinator) : OperationSystem where
  coordinator := c
  lane := .free
  handedOver := []

inductive OperationStep where
  | create (draft : EnvironmentOperationDraft)
  /-- A handler of the Agent writes the decision that it was given. -/
  | review (requestId decision : String) (stale : Bool)
  /-- A decision for which no handler waits. -/
  | undelivered (requestId : String)
  /-- A turn has ended; `interrupt_agent_environment_operations`. -/
  | interruptTurn (turnId terminalOutcome : String)
  | requestCancel (projectRoot runId : String)
  /-- What requests without a run make of the broker and of the active project. -/
  | move (broker : BrokerState) (projectRoot : Option String)
  /-- A dispatch of a client, up to the hand-over. -/
  | dispatch (call : DispatchCall) (o : PrepareOutcome)
  /-- `decide_environment_operation` finds its request pending. -/
  | beginDecision (requestId decision : String) (origin : ExecutionOrigin) (o : ResolveOutcome)
  /-- It writes the decision, and an approved operation is prepared. -/
  | writeDecision (o : ResolveOutcome) (before : PrepareOutcome) (fault : Option String)
  /-- The kernel has answered. -/
  | conclude (o : ConcludeOutcome) (fault : Option String)
  /-- The task that holds the coordinator is aborted, or the process ends. -/
  | abandon
  /-- The next start of the desktop. -/
  | recover

namespace OperationSystem

def onStore (s : OperationSystem) (f : Store → Store) : OperationSystem :=
  { s with coordinator := { s.coordinator with store := f s.coordinator.store } }

def operation (s : OperationSystem) (requestId : String) : Option EnvironmentOperationRecord :=
  s.coordinator.store.environmentOperations.get requestId

def run (s : OperationSystem) (runId : String) : Option RunRecord := s.coordinator.store.runs.get runId

/-- The kernel is given the code. -/
def handOver (s : OperationSystem) (c : Coordinator) (h : Handover) (decided : Option String) : OperationSystem where
  coordinator := c
  lane := .running h decided
  handedOver := (h.environmentOperation.map (fun requestId => (requestId, h.executionId))).toList ++ s.handedOver

def create (s : OperationSystem) (draft : EnvironmentOperationDraft) : OperationSystem :=
  s.onStore (fun store => (store.createEnvironmentOperationRequest draft).getD store)

def dispatch (s : OperationSystem) (call : DispatchCall) (o : PrepareOutcome) : OperationSystem :=
  match s.lane with
  | .free =>
    match prepareDispatch call o s.coordinator with
    | .ok h c => s.handOver c h none
    | .error _ c => { s with coordinator := c }
  | _ => s

def beginDecision (s : OperationSystem) (requestId decision : String) (origin : ExecutionOrigin) (o : ResolveOutcome) :
    OperationSystem :=
  match s.lane with
  | .free =>
    match pendingEnvironmentOperation requestId o s.coordinator with
    | .ok request c => { s with coordinator := c, lane := .deciding request decision origin }
    | .error _ c => { s with coordinator := c }
  | _ => s

def writeDecision (s : OperationSystem) (o : ResolveOutcome) (before : PrepareOutcome) (fault : Option String) : OperationSystem :=
  match s.lane with
  | .deciding request decision origin =>
    match decidePendingOperation request decision o s.coordinator with
    | .ok true c =>
      match executeConfirmedEnvironmentOperation request origin before c with
      | .ok h c => s.handOver c h (some request.requestId)
      | .error _ c => { s with coordinator := { c with store := recordDispatchError request.requestId fault c.store }, lane := .free }
    | .ok false c | .error _ c => { s with coordinator := c, lane := .free }
  | _ => s

def conclude (s : OperationSystem) (o : ConcludeOutcome) (fault : Option String) : OperationSystem :=
  match s.lane with
  | .running h decided =>
    match concludeDispatch h o s.coordinator, decided with
    | .error _ c, some requestId =>
      { s with coordinator := { c with store := recordDispatchError requestId fault c.store }, lane := .free }
    | .ok _ c, _ | .error _ c, none => { s with coordinator := c, lane := .free }
  | _ => s

def step (s : OperationSystem) : OperationStep → OperationSystem
  | .create draft => s.create draft
  | .review requestId decision stale =>
    s.onStore (·.decideEnvironmentOperationRequest requestId { status := decisionStatus decision stale, decision := some decision })
  | .undelivered requestId =>
    s.onStore (·.decideEnvironmentOperationRequest requestId { status := .interrupted, decision := some "cancel" })
  | .interruptTurn turnId terminalOutcome => s.onStore (·.interruptAgentEnvironmentOperations turnId terminalOutcome)
  | .requestCancel projectRoot runId => s.onStore (fun store => (store.requestCancel projectRoot runId).1)
  | .move broker projectRoot => { s with coordinator := { broker, store := s.coordinator.store.setProjectRoot projectRoot } }
  | .dispatch call o => s.dispatch call o
  | .beginDecision requestId decision origin o => s.beginDecision requestId decision origin o
  | .writeDecision o before fault => s.writeDecision o before fault
  | .conclude o fault => s.conclude o fault
  | .abandon => { s with lane := .free }
  | .recover =>
    { s with lane := .free }.onStore (fun store => store.recoverIncompleteRuns.recoverIncompleteEnvironmentOperations)

end OperationSystem

end Rho
