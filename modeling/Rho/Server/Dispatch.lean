import Rho.Lib.Effect
import Rho.Server.Bridge
import Rho.Store.Store

/-!
# Dispatching a workspace request

`dispatch_workspace_request_with_execution_id` of the coordinator, in two parts: what happens up to the moment the code is handed
to the kernel, and what happens once the kernel has answered. Between the two the coordinator is locked by this request, while
other connections may write to the store. Everything that can go wrong outside the coordinator is in the outcome.
-/

namespace Rho

open Effect

/-- The coordinator's state behind its lock. -/
structure Coordinator where
  broker : BrokerState
  store : Store

abbrev CoordinatorM := EStateM String Coordinator

namespace StaleWorkspace

def message : StaleWorkspace → String
  | .kernel expected actual => "kernel instance changed: expected " ++ expected ++ ", actual " ++ actual
  | .state expected actual => "workspace state changed: expected " ++ toString expected ++ ", actual " ++ toString actual
  | .project expected actual => "project changed: expected " ++ toString expected ++ ", actual " ++ toString actual

end StaleWorkspace

/-! ## Decoding the payload -/

/-- A field of an optional type: absent or null is none, and a value of another type is an error. -/
def optionalField {α : Type} (decode : Json → Option α) : Option Json → Option (Option α)
  | none | some .null => some none
  | some value => (decode value).map some

/-- `ExpectedWorkspace` as serde decodes it, from an object or from an array of its three fields. -/
def decodeExpectedWorkspaceValue (value : Json) : Option ExpectedWorkspace :=
  let ofFields (kernel state project : Option Json) : Option ExpectedWorkspace := do
    let kernelInstanceId ← optionalField Json.asStr kernel
    let stateRevision ← optionalField Json.asU64 state
    let projectRevision ← optionalField Json.asU64 project
    return { kernelInstanceId, stateRevision, projectRevision }
  match value with
  | .obj _ => ofFields (value.get "kernel_instance_id") (value.get "state_revision") (value.get "project_revision")
  | .arr [kernel, state, project] => ofFields (some kernel) (some state) (some project)
  | _ => none

def decodeExpectedWorkspace (payload : Json) : Except String ExpectedWorkspace := do
  let value ← orError (payload.get "expected_workspace") "Agent request omitted expected_workspace"
  orError (decodeExpectedWorkspaceValue value) "decoding expected_workspace"

def requestTypeUsesEnvironmentContract (requestType : String) : Bool :=
  ["environment.initialize", "environment.restore", "environment.snapshot", "environment.package_install",
    "environment.package_update", "environment.package_remove"].contains requestType

def scientificRunRequiresEnvironmentSnapshot (requestType : String) : Bool :=
  ["workspace.execute", "workspace.render_document", "environment.initialize", "environment.restore", "environment.snapshot",
    "environment.package_install", "environment.package_update", "environment.package_remove"].contains requestType

/-- The environment operation that the request claims, for the request types that need one. -/
def environmentOperationRequestId (requestType : String) (payload : Json) : Except String (Option String) :=
  if requestTypeUsesEnvironmentContract requestType then do
    let requestId ← orError (stringArgument payload "approval_request_id") "Environment operation omitted approval_request_id"
    return some requestId
  else .ok none

def validCallerExecutionId (executionId : String) : Bool :=
  !executionId.isEmpty && decide (executionId.utf8ByteSize ≤ 128) &&
    executionId.toList.all (fun c => c.isAlphanum || c == '_')

/-- The text under which the run is listed. -/
def requestedCode (requestType : String) (arguments : Json) (bridgeExpression : String) : String :=
  let described (key : String) (text : String → String) : String :=
    ((stringArgument arguments key).map text).getD bridgeExpression
  if requestType = "workspace.execute" ∨ requestType = "workspace.set_project_root" then described "code" id
  else if requestType = "workspace.inspect_object" then described "name" ("inspect " ++ ·)
  else if requestType = "workspace.inspect_data_object" then described "object_name" ("inspect data " ++ ·)
  else if requestType = "workspace.format_r_source" then described "path" ("format " ++ ·)
  else if requestType = "workspace.read_data_view" then
    described "object_name" (fun name =>
      "read data view " ++ name ++ " " ++ (stringArgument arguments "view_kind").getD "view")
  else if requestTypeUsesEnvironmentContract requestType then
    requestType ++ ((stringArgument arguments "package").map (" " ++ ·)).getD "" ++ " " ++
      (stringArgument arguments "project_root").getD "unknown project"
  else if requestType = "workspace.render_document" then described "path" ("render " ++ ·)
  else bridgeExpression

/-! ## Up to the hand-over -/

structure DispatchCall where
  requestType : String
  payload : Json
  origin : ExecutionOrigin
  executionId : Option String

/-- The steps that can fail outside the coordinator: statements of the store, files, artifacts. -/
inductive DispatchStep where
  | activeRoot | claim | snapshot | createRun | markRunning | resultFile
  | saveIdentity | finishRun | finishOperation | plotArtifacts | generatedFiles | renderArtifact
  deriving DecidableEq, Repr

/-- What the outside does to the part before the hand-over. -/
structure PrepareOutcome where
  /-- The id made up for a request that brings none. -/
  freshExecutionId : String
  fault : DispatchStep → Option String

/-- What a dispatch remembers while the kernel runs its code. -/
structure Handover where
  requestType : String
  arguments : Json
  executionId : String
  operationClass : OperationClass
  projectRoot : String
  environmentOperation : Option String
  /-- The bridge expression; the code handed over writes its value to the result file. -/
  code : String

/-- The request's execution id: the caller's own if it is well formed. -/
def executionIdOf (call : DispatchCall) (o : PrepareOutcome) : Except String String :=
  match call.executionId with
  | none => .ok o.freshExecutionId
  | some executionId => do
    ensure (validCallerExecutionId executionId) "invalid caller-provided execution id"
    return executionId

/-- A statement of the store that can refuse. -/
def storeTry (f : Store → Option Store) (message : String) : CoordinatorM Unit := fun c =>
  match f c.store with
  | some store => .ok () { c with store }
  | none => .error message c

def onStore (f : Store → Store) : CoordinatorM Unit := modify (fun c => { c with store := f c.store })

/-- The claim of the approved environment operation that the request carries out. -/
def claimOperation (requestType executionId projectRoot : String) (o : PrepareOutcome) : Option String → CoordinatorM Unit
  | none => pure ()
  | some requestId => do
    attempt (o.fault .claim)
    let claimed ← modifyGet (fun c =>
      let (store, claimed) := c.store.claimEnvironmentOperationRequest projectRoot requestType requestId executionId
      (claimed, { c with store }))
    ofResult (ensure claimed "Environment operation approval is missing, invalid, or already consumed")

/-- The request, checked against the broker, before anything is written. -/
def authorizeDispatch (call : DispatchCall) (o : PrepareOutcome) (c : Coordinator) : Except String Handover := do
  let expected ← decodeExpectedWorkspace call.payload
  let arguments := (call.payload.get "arguments").getD (.obj [])
  let environmentOperation ← environmentOperationRequestId call.requestType call.payload
  let (operationClass, code) ← bridgeExpression call.requestType arguments
  let executionId ← executionIdOf call o
  (c.broker.authorize expected).mapError StaleWorkspace.message
  if let some e := o.fault .activeRoot then throw e
  let projectRoot ← orError c.store.activeProjectRoot "Cannot persist run without an active project identity"
  return { requestType := call.requestType, arguments, executionId, operationClass, projectRoot, environmentOperation, code }

/-- The run's row, in the state it is created. -/
def runDraft (h : Handover) (origin : ExecutionOrigin) (before : WorkspaceIdentity) : RunDraft :=
  { runId := h.executionId
    projectRoot := h.projectRoot
    origin := origin
    requestType := h.requestType
    operationClass := h.operationClass
    code := requestedCode h.requestType h.arguments h.code
    workspaceId := before.workspaceId
    stateRevisionBefore := before.stateRevision
    projectRevisionBefore := before.projectRevision }

/-- The dispatch up to the hand-over of the code to the kernel. -/
def prepareDispatch (call : DispatchCall) (o : PrepareOutcome) : CoordinatorM Handover := do
  let c ← get
  let h ← ofResult (authorizeDispatch call o c)
  claimOperation h.requestType h.executionId h.projectRoot o h.environmentOperation
  attempt (if scientificRunRequiresEnvironmentSnapshot h.requestType then o.fault .snapshot else none)
  attempt (o.fault .createRun)
  storeTry (·.createRun (runDraft h call.origin c.broker.identity)) "UNIQUE constraint failed: runs.run_id"
  attempt (o.fault .markRunning)
  onStore (·.updateRunStatus h.executionId .running none)
  attempt (o.fault .resultFile)
  return h

/-! ## After the kernel's answer -/

/-- What the kernel made of the code: an error or an interrupt, no readable result, or a result. -/
inductive KernelOutcome where
  | error
  | unreadable (message : String)
  | finished (result : Json)

structure ConcludeOutcome where
  kernel : KernelOutcome
  fault : DispatchStep → Option String

structure DispatchResponse where
  executionId : String
  execution : Json
  workspace : WorkspaceIdentity

/-- `workspace_result_failed`: only an explicit false is a failure. -/
def workspaceResultFailed (value : Json) : Bool := ((value.get "ok").bind Json.asBool) == some false

/-- The end of the environment operation that the request carried out, if any. -/
def finishOperation (h : Handover) (o : ConcludeOutcome) (status : EnvironmentOperationStatus) (terminalOutcome : String) :
    CoordinatorM Unit :=
  match h.environmentOperation with
  | none => pure ()
  | some requestId => do
    attempt (o.fault .finishOperation)
    onStore (·.finishEnvironmentOperationRequest
      { requestId, status, runId := some h.executionId, terminalOutcome := some terminalOutcome })

/-- The exits without a result: the run and the operation end, and the broker's identity stays. -/
def concludeWithout (h : Handover) (o : ConcludeOutcome) (terminalReason : String) : CoordinatorM Unit := do
  let c ← get
  let cancelled := (c.store.cancelRequested h.executionId).getD false
  let reason := if cancelled then "user_interrupt" else terminalReason
  attempt (o.fault .finishRun)
  onStore (·.finishRun
    { runId := h.executionId
      status := if cancelled then .interrupted else .failed
      terminalReason := some reason
      workspaceId := none
      stateRevisionAfter := none
      projectRevisionAfter := none })
  finishOperation h o (if cancelled then .interrupted else .failed) reason

/-- The exit with a result, once the broker has counted the operation. -/
def concludeWith (h : Handover) (o : ConcludeOutcome) (result : Json) : CoordinatorM DispatchResponse := do
  attempt (o.fault .saveIdentity)
  modify (fun c => { c with store := c.store.saveIdentity c.broker.identity })
  let after := (← get).broker.identity
  let failed := workspaceResultFailed result
  attempt (o.fault .finishRun)
  onStore (·.finishRun
    { runId := h.executionId
      status := if failed then .failed else .completed
      terminalReason := if failed then some "r_error" else none
      workspaceId := some after.workspaceId
      stateRevisionAfter := some after.stateRevision
      projectRevisionAfter := some after.projectRevision })
  finishOperation h o (if failed then .failed else .completed) (if failed then "r_error" else "completed")
  attempt (o.fault .plotArtifacts)
  attempt (o.fault .generatedFiles)
  attempt (o.fault .renderArtifact)
  return { executionId := h.executionId, execution := result, workspace := after }

/-- The dispatch from the kernel's answer on, through one of its three exits. -/
def concludeDispatch (h : Handover) (o : ConcludeOutcome) : CoordinatorM DispatchResponse :=
  match o.kernel with
  | .error => do
    concludeWithout h o "execution_error"
    throw "executing Workspace R request"
  | .unreadable error => do
    concludeWithout h o "result_unavailable"
    throw error
  | .finished result => do
    modify (fun c => { c with broker := c.broker.complete h.operationClass })
    concludeWith h o result

/-- The dispatch with nothing happening to the store while the kernel runs. -/
def dispatchWorkspaceRequest (call : DispatchCall) (before : PrepareOutcome) (after : ConcludeOutcome) :
    CoordinatorM DispatchResponse := do
  let h ← prepareDispatch call before
  concludeDispatch h after

end Rho
