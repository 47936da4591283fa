import Rho.Lib.JsonParse
import Rho.Lib.Run
import Rho.Server.Dispatch

/-!
# Approvals of an Agent's mutations

A turn of the Agent asks for approval of a tool and then sends the workspace request that the approval is for. The coordinator
holds the turn's approvals in a map that the turn's loop alone reads and writes; the user's decision comes through a channel,
and the lock on the coordinator is free while the loop waits for it.
-/

namespace Rho

open Effect

/-! ## Requests and approvals -/

structure ApprovedMutation where
  requestType : String
  arguments : Json
  deriving DecidableEq

/-- A decision of the user, or the cancellation that stands for a closed channel. -/
structure ApprovalResponse where
  decision : String
  reason : Option String
  deriving DecidableEq, Repr

/-- What the Agent is told about its request for approval. -/
structure ApprovalReply where
  approved : Bool
  requestId : String
  decision : String
  reason : String
  policy : String
  deriving DecidableEq, Repr

def agentToolRequestType (tool : String) : Option String :=
  if tool = "run_r" then some "workspace.execute"
  else if tool = "initialize_project_environment" then some "environment.initialize"
  else if tool = "restore_project_environment" then some "environment.restore"
  else if tool = "snapshot_project_environment" then some "environment.snapshot"
  else if tool = "install_project_package" then some "environment.package_install"
  else if tool = "update_project_package" then some "environment.package_update"
  else if tool = "remove_project_package" then some "environment.package_remove"
  else none

/-- The request types that the Agent may send without approval. -/
def isAgentProbe (requestType : String) : Bool :=
  ["workspace.snapshot", "workspace.inspect_object", "workspace.inspect_data_object", "workspace.list_package_functions",
    "workspace.function_help", "workspace.lint_file", "workspace.format_r_source", "workspace.inspect_targets",
    "workspace.read_data_view", "plugin.contribution.invoke"].contains requestType

/-- The request types that need an approval. -/
def isAgentMutation (requestType : String) : Bool :=
  ["workspace.execute", "environment.initialize", "environment.restore", "environment.snapshot", "environment.package_install",
    "environment.package_update", "environment.package_remove"].contains requestType

/-- The R code among a request's arguments. -/
def codeOf (arguments : Json) : Option String := stringArgument arguments "code"

def approvedArgumentsMatch (approved actual : Json) : Bool :=
  match codeOf approved, codeOf actual with
  | some approvedCode, some actualCode => approvedCode == actualCode
  | _, _ => decide (approved = actual)

/-- The arguments that a request carries. -/
def requestArguments (payload : Json) : Json := (payload.get "arguments").getD (.obj [])

/-- `authorize_agent_workspace_request`, with the approvals that are left. -/
def authorizeAgentWorkspaceRequest (mode requestType : String) (payload : Json) (approved : List (String × ApprovedMutation)) :
    List (String × ApprovedMutation) × Except String Unit :=
  if isAgentProbe requestType then (approved, .ok ())
  else if isAgentMutation requestType then
    if mode ≠ "act" then (approved, .error (mode ++ " mode cannot mutate Workspace R"))
    else
      match stringArgument payload "approval_request_id" with
      | none => (approved, .error "Agent mutation omitted approval_request_id")
      | some requestId =>
        let rest := OrdMap.erase approved requestId
        match OrdMap.get approved requestId with
        | none => (rest, .error "Agent mutation has no live broker approval")
        | some mutation =>
          if mutation.requestType ≠ requestType then (rest, .error "Approved request type does not match Agent mutation")
          else if approvedArgumentsMatch mutation.arguments (requestArguments payload) then (rest, .ok ())
          else (rest, .error "Agent mutation arguments differ from the approved request")
  else (approved, .error ("Agent request type \x60" ++ requestType ++ "\x60 is not allowed by desktop policy"))

/-! ## Environment operations -/

def environmentOperationRequestName (operation : String) : Except String String :=
  if operation = "initialize" then .ok "environment.initialize"
  else if operation = "restore" then .ok "environment.restore"
  else if operation = "snapshot" then .ok "environment.snapshot"
  else if operation = "install_package" then .ok "environment.package_install"
  else if operation = "update_package" then .ok "environment.package_update"
  else if operation = "remove_package" then .ok "environment.package_remove"
  else .error ("unsupported environment operation \x60" ++ operation ++ "\x60")

def toolEnvironmentOperation (tool : String) : Except String String :=
  if tool = "initialize_project_environment" then .ok "initialize"
  else if tool = "restore_project_environment" then .ok "restore"
  else if tool = "snapshot_project_environment" then .ok "snapshot"
  else if tool = "install_project_package" then .ok "install_package"
  else if tool = "update_project_package" then .ok "update_package"
  else if tool = "remove_project_package" then .ok "remove_package"
  else .error ("unsupported environment tool \x60" ++ tool ++ "\x60")

/-- The repositories among a tool's arguments; unlike in a request, null is not a map. -/
def toolRepositories (arguments : Json) : Except String (Option (List (String × String))) :=
  match arguments.get "repositories" with
  | none => .ok none
  | some value => do
    let repositories ← orError (stringMap value) "decoding environment operation repositories"
    return some repositories

def toolEnvironmentOperationArguments (tool : String) (arguments : Json) : Except String EnvironmentOperationArguments := do
  let repositories ← toolRepositories arguments
  let operation ← toolEnvironmentOperation tool
  return {
    operation := operation
    projectRoot := none
    repositories := repositories
    bioconductor := stringArgument arguments "bioconductor"
    package := stringArgument arguments "package"
    projectLibrary := none }

namespace EnvironmentOperationArguments

def optionJson : Option String → Json
  | none => .null
  | some s => .str s

/-- The arguments as serde writes them. -/
def toJson (a : EnvironmentOperationArguments) : Json :=
  .obj [("operation", .str a.operation), ("project_root", optionJson a.projectRoot),
    ("repositories", match a.repositories with
      | none => .null
      | some entries => .obj (entries.map (fun e => (e.1, .str e.2)))),
    ("bioconductor", optionJson a.bioconductor), ("package", optionJson a.package),
    ("project_library", optionJson a.projectLibrary)]

end EnvironmentOperationArguments

/-- The steps of an approval that can fail outside the coordinator. -/
inductive ApprovalStep where
  | activeRoot | createRequest | readRequest | turnStatus | turnEvent | decide
  deriving DecidableEq, Repr

/-- What the outside does while an approval is asked for. -/
structure AskOutcome where
  fault : ApprovalStep → Option String
  /-- What R answers to the preview of an environment operation. -/
  preview : Except String Json
  snapshotId : Option String
  freshRequestId : String

/-- What the outside does while a decision is carried out. -/
structure ResolveOutcome where
  fault : ApprovalStep → Option String
  snapshotId : Option String

def slashes (path : String) : String := String.ofList (path.toList.map (fun c => if c = '\\' then '/' else c))

/-- The arguments that are stored and shown for review: for a package operation the repositories and the library are R's. -/
def reviewedArguments (arguments : EnvironmentOperationArguments) (projectRoot : String) (preview : Except String Json) :
    Except String EnvironmentOperationArguments :=
  if environmentOperationIsPackage arguments.operation then do
    let package ← orError arguments.package "Package operation requires \x60package\x60"
    validateEnvironmentPackageName package
    let value ← preview.mapError (fun _ => "previewing package environment operation")
    ensure ((value.get "ok").bind Json.asBool == some true) "Package operation preview did not return an accepted result"
    let repositories ←
      if arguments.operation = "remove_package" then .ok []
      else do
        let entries ← orError (value.get "repositories") "Package preview omitted repositories"
        orError (stringMap entries) "decoding package preview repositories"
    let library ← orError (stringArgument value "project_library") "Package preview omitted project library"
    return { arguments with
      projectRoot := some projectRoot, repositories := some repositories, projectLibrary := some library }
  else .ok { arguments with projectRoot := some projectRoot }

/-- `request_environment_operation`: the operation is previewed and stored for review. -/
def requestEnvironmentOperation (arguments : EnvironmentOperationArguments) (turnId : Option String)
    (source : EnvironmentOperationSource) (o : AskOutcome) : CoordinatorM EnvironmentOperationRecord := do
  let requestName ← ofResult (environmentOperationRequestName arguments.operation)
  attempt (o.fault .activeRoot)
  let c ← get
  let root ← ofResult (orError c.store.activeProjectRoot "No active project root is configured")
  let projectRoot := slashes root
  let stored ← ofResult (reviewedArguments arguments projectRoot o.preview)
  attempt (o.fault .createRequest)
  let identity := c.broker.identity
  storeTry (·.createEnvironmentOperationRequest
    { requestId := o.freshRequestId
      turnId
      source
      requestName
      projectRoot
      argumentsJson := stored.toJson.toText
      workspaceId := identity.workspaceId
      stateRevision := identity.stateRevision
      projectRevision := identity.projectRevision
      beforeSnapshotId := o.snapshotId }) "UNIQUE constraint failed: environment_operation_requests.request_id"
  attempt (o.fault .readRequest)
  let c ← get
  ofResult (orError (c.store.getEnvironmentOperationRequest projectRoot o.freshRequestId)
    "Environment operation request was not persisted")

def environmentOperationStaleReason (request : EnvironmentOperationRecord) (broker : BrokerState) (currentProjectRoot : String)
    (currentSnapshotId : Option String) : Option String :=
  let identity := broker.identity
  if request.workspaceId ≠ some identity.workspaceId then some "Workspace identity changed before confirmation."
  else if request.stateRevision ≠ some identity.stateRevision ∨ request.projectRevision ≠ some identity.projectRevision then
    some "Workspace or project revision changed before confirmation."
  else if request.projectRoot.toLower ≠ currentProjectRoot.toLower then some "Project root changed before confirmation."
  else if request.beforeSnapshotId ≠ currentSnapshotId then some "Environment evidence changed before confirmation."
  else none

/-! ## Asking for an approval -/

/-- What a turn is started with. -/
structure TurnContext where
  turnId : String
  mode : String
  autoApprove : Bool

/-- A message `tool.approval_required`, as the handler reads it. -/
structure ApprovalAsk where
  requestId : String
  tool : String
  arguments : Json
  policy : String

def ApprovalAsk.ofPayload (id : String) (payload : Json) : ApprovalAsk where
  requestId := id
  tool := (stringArgument payload "tool").getD "run_r"
  arguments := requestArguments payload
  policy := (stringArgument payload "policy").getD "required"

/-- What the handler waits for: the review of an environment operation, or an approval at an identity of the workspace. -/
inductive Waiting where
  | environment (requestId projectRoot : String) (mutation : ApprovedMutation)
  | approval (requestId : String) (identity : WorkspaceIdentity) (mutation : ApprovedMutation)

/-- How far the handler comes before it waits, or an approval it grants at once. -/
inductive Asked where
  | replied (reply : ApprovalReply)
  | granted (requestId : String) (mutation : ApprovedMutation) (reply : ApprovalReply)
  | waits (waiting : Waiting)

/-- The environment branch, up to the wait for the user's review. -/
def askEnvironmentReview (turn : TurnContext) (ask : ApprovalAsk) (o : AskOutcome) : CoordinatorM Asked := do
  let arguments ← ofResult (toolEnvironmentOperationArguments ask.tool ask.arguments)
  let request ← requestEnvironmentOperation arguments (some turn.turnId) .agent o
  let approvedArguments ← ofResult (orError (Json.fromText request.argumentsJson)
    "decoding approved environment operation arguments")
  attempt (o.fault .turnStatus)
  attempt (o.fault .turnEvent)
  return .waits (.environment request.requestId request.projectRoot ⟨request.requestName, approvedArguments⟩)

/-- The branch for R code, up to the automatic approval or the wait for the user. -/
def askApproval (turn : TurnContext) (ask : ApprovalAsk) (requestType : String) (o : AskOutcome) : CoordinatorM Asked := do
  attempt (o.fault .activeRoot)
  let c ← get
  let projectRoot ← ofResult (orError c.store.activeProjectRoot "Cannot persist approval without an active project identity")
  let identity := c.broker.identity
  attempt (o.fault .createRequest)
  storeTry (·.createApprovalRequest
    { requestId := ask.requestId
      turnId := turn.turnId
      projectRoot
      tool := ask.tool
      policy := ask.policy
      status := .waiting
      argumentsJson := ask.arguments.toText
      code := codeOf ask.arguments
      workspaceId := identity.workspaceId
      stateRevision := identity.stateRevision
      projectRevision := identity.projectRevision
      decision := none
      continuationOutcome := none }) "UNIQUE constraint failed: approval_requests.request_id"
  if turn.autoApprove then
    attempt (o.fault .decide)
    onStore (·.resolveApprovalRequest ask.requestId
      { status := .approved, decision := "approve", continuationOutcome := some "execute" })
    attempt (o.fault .turnStatus)
    attempt (o.fault .turnEvent)
    return .granted ask.requestId ⟨requestType, ask.arguments⟩
      { approved := true
        requestId := ask.requestId
        decision := "approved"
        reason := "Act session authorization enabled by the user."
        policy := "act_session_authorized" }
  else
    attempt (o.fault .turnStatus)
    attempt (o.fault .turnEvent)
    return .waits (.approval ask.requestId identity ⟨requestType, ask.arguments⟩)

/-- The reply to a tool that the mode or the tool's name rules out. -/
def policyDenied (turn : TurnContext) (ask : ApprovalAsk) (o : AskOutcome) : CoordinatorM Asked := do
  attempt (o.fault .turnEvent)
  return .replied
    { approved := false
      requestId := ask.requestId
      decision := "policy_denied"
      reason :=
        if turn.mode ≠ "act" then turn.mode ++ " mode is read-only and cannot execute \x60" ++ ask.tool ++ "\x60"
        else "Tool \x60" ++ ask.tool ++ "\x60 is not approved for Workspace mutation"
      policy := "desktop_read_only_mode" }

/-- `handle_tool_approval_required`, up to its wait. -/
def handleToolApprovalRequired (turn : TurnContext) (ask : ApprovalAsk) (o : AskOutcome) : CoordinatorM Asked :=
  match decide (turn.mode = "act"), agentToolRequestType ask.tool with
  | true, some requestType =>
    if requestTypeUsesEnvironmentContract requestType then askEnvironmentReview turn ask o
    else askApproval turn ask requestType o
  | _, _ => policyDenied turn ask o

/-! ## The user's decision -/

/-- What the handler does with a decision: the reply, and the mutation that is then approved. -/
abbrev Resolved := ApprovalReply × Option ApprovedMutation

/-- The outcome of a review, on the operation's row and in the turn. -/
def settleReview (requestId : String) (response : ApprovalResponse) (o : ResolveOutcome) (status : EnvironmentOperationStatus) :
    CoordinatorM Unit := do
  attempt (o.fault .decide)
  onStore (·.decideEnvironmentOperationRequest requestId { status, decision := some response.decision })
  attempt (o.fault .turnStatus)
  attempt (o.fault .turnEvent)

def reviewReply (requestId : String) (approved : Bool) (decision reason : String) : ApprovalReply :=
  { approved, requestId, decision, reason, policy := "desktop_environment_review" }

/-- The environment branch from the user's review on. -/
def resolveEnvironmentReview (requestId projectRoot : String) (mutation : ApprovedMutation) (response : ApprovalResponse)
    (o : ResolveOutcome) : CoordinatorM Resolved := do
  attempt (o.fault .readRequest)
  let c ← get
  let request ← ofResult (orError (c.store.getEnvironmentOperationRequest projectRoot requestId)
    "Environment operation request disappeared before approval resolution")
  if response.decision = "approve" then
    attempt (o.fault .activeRoot)
    match environmentOperationStaleReason request c.broker (slashes (c.store.activeProjectRoot.getD "")) o.snapshotId with
    | some reason =>
      settleReview request.requestId response o .stale
      return (reviewReply request.requestId false "stale" reason, none)
    | none =>
      settleReview request.requestId response o .approved
      return (reviewReply request.requestId true "approved" "Environment operation approved.", some mutation)
  else if response.decision = "cancel" then
    settleReview request.requestId response o .cancelled
    return (reviewReply request.requestId false "cancelled" (response.reason.getD "The environment operation was cancelled."), none)
  else
    settleReview request.requestId response o .rejected
    return (reviewReply request.requestId false "rejected" (response.reason.getD "The environment operation was rejected."), none)

/-- The outcome of an approval, on its row and in the turn. -/
def settleApproval (requestId : String) (response : ApprovalResponse) (o : ResolveOutcome) (status : ApprovalStatus)
    (continuation : String) : CoordinatorM Unit := do
  attempt (o.fault .decide)
  onStore (·.resolveApprovalRequest requestId
    { status, decision := response.decision, continuationOutcome := some continuation })
  attempt (o.fault .turnStatus)
  attempt (o.fault .turnEvent)

def approvalReply (requestId : String) (approved : Bool) (decision reason : String) : ApprovalReply :=
  { approved, requestId, decision, reason, policy := "desktop_act_mode" }

/-- The workspace is not the one that the approval was asked for. -/
def identityMoved (identity current : WorkspaceIdentity) : Prop :=
  current.workspaceId ≠ identity.workspaceId ∨ current.stateRevision ≠ identity.stateRevision ∨
    current.projectRevision ≠ identity.projectRevision

instance (identity current : WorkspaceIdentity) : Decidable (identityMoved identity current) :=
  inferInstanceAs (Decidable (_ ∨ _))

/-- The branch for R code from the user's decision on. -/
def resolveApproval (requestId : String) (identity : WorkspaceIdentity) (mutation : ApprovedMutation)
    (response : ApprovalResponse) (o : ResolveOutcome) : CoordinatorM Resolved := do
  let c ← get
  if response.decision = "approve" ∧ identityMoved identity c.broker.identity then
    settleApproval requestId response o .stale "replan_required"
    return (approvalReply requestId false "stale" "Workspace state changed before approval was granted.", none)
  else if response.decision = "approve" then
    settleApproval requestId response o .approved "execute"
    return (approvalReply requestId true "approved" "Broker resumed the pending tool call.", some mutation)
  else if response.decision = "cancel" then
    settleApproval requestId response o .cancelled "approval_cancelled"
    return (approvalReply requestId false "cancelled" (response.reason.getD "The pending execution was cancelled."), none)
  else
    settleApproval requestId response o .rejected "approval_rejected"
    return (approvalReply requestId false "rejected" (response.reason.getD "The pending execution was rejected."), none)

/-- The handler from the user's decision on. -/
def resolveWaiting (waiting : Waiting) (response : ApprovalResponse) (o : ResolveOutcome) : CoordinatorM Resolved :=
  match waiting with
  | .environment requestId projectRoot mutation => resolveEnvironmentReview requestId projectRoot mutation response o
  | .approval requestId identity mutation => resolveApproval requestId identity mutation response o

def Waiting.requestId : Waiting → String
  | .environment requestId _ _ | .approval requestId _ _ => requestId

def Waiting.mutation : Waiting → ApprovedMutation
  | .environment _ _ mutation | .approval _ _ mutation => mutation

end Rho
