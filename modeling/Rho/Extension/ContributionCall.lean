import Rho.Extension.Contribution
import Rho.Extension.WasmHost

/-!
# Calls of contributions

One call of a published contribution (`contribution_call.rs`): its admission against the record in the store, the exchange of
broker requests and results with the guest, and its one outcome. A session keeps two flags, `terminal` and `waitingForBroker`; the
store, the clock and the host are passed to every call on it, so they may have changed in any way since the call before.
-/

namespace Rho

open Effect

def contributionCallDeadlineMillis : Nat := 30000
def maxContributionCallBytes : Nat := 256 * 1024
def maxViewerDocumentBytes : Nat := 1024 * 1024
def maxContributionCallHandles : Nat := 64

/-! ## Errors -/

inductive ContributionCallErrorCode where
  | missingContribution | notCallable | staleIdentity | invalidInput | inputTooLarge | invalidHandleSet | handleNotSupplied
  | deadlineExceeded | sequenceViolation | hostRejected | invalidOutput | outputTooLarge
  deriving DecidableEq, Repr

structure ContributionCallError where
  code : ContributionCallErrorCode
  message : String
  deriving DecidableEq, Repr

/-- The name in debug output. -/
def HostProtocolErrorCode.debug : HostProtocolErrorCode → String
  | malformedFrame => "MalformedFrame"
  | unknownInstance => "UnknownInstance"
  | versionMismatch => "VersionMismatch"
  | payloadTooLarge => "PayloadTooLarge"
  | invalidStateTransition => "InvalidStateTransition"
  | timeout => "Timeout"
  | unknownRequest => "UnknownRequest"
  | moduleTooLarge => "ModuleTooLarge"
  | invalidModule => "InvalidModule"
  | forbiddenImport => "ForbiddenImport"
  | missingExport => "MissingExport"
  | invalidExport => "InvalidExport"
  | resourceLimit => "ResourceLimit"
  | fuelExhausted => "FuelExhausted"
  | guestTrap => "GuestTrap"
  | invalidGuestOutput => "InvalidGuestOutput"
  | invalidBrokerStep => "InvalidBrokerStep"
  | brokerSequenceViolation => "BrokerSequenceViolation"
  | brokerStepLimit => "BrokerStepLimit"
  | brokerResultLimit => "BrokerResultLimit"
  | guestRejected => "GuestRejected"
  | cancelled => "Cancelled"

/-- The host has refused an operation of the call. -/
def hostRejected (operation : String) (error : HostProtocolError) : ContributionCallError :=
  ⟨.hostRejected, "contribution guest " ++ operation ++ " failed: " ++ error.code.debug⟩

/-- A condition, or the error that it has failed with. -/
def ensureCall (condition : Bool) (code : ContributionCallErrorCode) (message : String) : Except ContributionCallError Unit :=
  if condition then .ok () else .error ⟨code, message⟩

/-- A value that must be there, or the error that it is not. -/
def orCallError {α : Type} (value : Option α) (code : ContributionCallErrorCode) (message : String) :
    Except ContributionCallError α :=
  match value with
  | some v => .ok v
  | none => .error ⟨code, message⟩

/-! ## Requests and outcomes -/

inductive ContributionInvocationOrigin where
  | userCommand | agentTool | trustedSource | trustedViewer | trustedPanel
  deriving DecidableEq, Repr

/-- The name in JSON. -/
def ContributionInvocationOrigin.name : ContributionInvocationOrigin → String
  | userCommand => "user_command"
  | agentTool => "agent_tool"
  | trustedSource => "trusted_source"
  | trustedViewer => "trusted_viewer"
  | trustedPanel => "trusted_panel"

/-- A map from permissions to the handles that the call may use for them. -/
structure SuppliedHandles where
  entries : List (String × String)
  sorted : OrdMap.Sorted entries
  deriving DecidableEq

protected def SuppliedHandles.get (handles : SuppliedHandles) (permission : String) : Option String :=
  OrdMap.get handles.entries permission

structure ContributionCallRequest where
  projectId : ScopeId
  contributionId : CapabilityId
  origin : ContributionInvocationOrigin
  input : Json
  suppliedHandles : SuppliedHandles
  deriving DecidableEq

structure ContributionCallProvenance where
  callId : String
  contributionId : CapabilityId
  contractMajor : Nat
  projectId : ScopeId
  pluginId : PluginId
  packageDigest : PackageDigest
  activationGeneration : ActivationGeneration
  hostInstanceId : HostInstanceId
  origin : ContributionInvocationOrigin
  brokerSteps : Nat
  deriving DecidableEq

inductive ContributionCallOutcome where
  | completed (result : Json) (provenance : ContributionCallProvenance)
  | failed (code : String) (provenance : ContributionCallProvenance)
  deriving DecidableEq

/-- What happens around one call on a session: what the operation of the call and a cancellation of it find at the host, and the
id of a new request. -/
structure CallEnv where
  operation : HostEnv
  cancellation : HostEnv
  requestId : HostRequestId
  deriving DecidableEq

structure ContributionCallSession where
  requestId : HostRequestId
  callId : String
  identity : ContributionInstanceIdentity
  contributionId : CapabilityId
  contractMajor : Nat
  kind : ContributionKind
  outputSchema : BoundedJsonSchema
  origin : ContributionInvocationOrigin
  deadlineMillis : Nat
  suppliedHandles : SuppliedHandles
  brokerSteps : Nat
  waitingForBroker : Bool
  terminal : Bool
  deriving DecidableEq

/-- A call on a session, with the host that is passed to it. -/
abbrev CallM := EStateM ContributionCallError (ContributionCallSession × WasmPluginHost)

/-! ## Checks -/

def validateHandleSet (handles : SuppliedHandles) : Except ContributionCallError Unit := do
  ensureCall (decide (handles.entries.length ≤ maxContributionCallHandles)) .invalidHandleSet
    "contribution handle set exceeds its item budget"
  ensureCall (handles.entries.all fun e => WasmPluginHost.knownPermission e.1 && WasmPluginHost.validHandleId e.2) .invalidHandleSet
    "contribution handle set is malformed"

/-- The host is the instance that the identity names. -/
def isCurrentHost (identity : ContributionInstanceIdentity) (host : WasmPluginHost) : Bool :=
  decide (host.identity.projectId = identity.projectId) && decide (host.identity.pluginId = identity.pluginId) &&
    decide (host.identity.packageDigest = identity.packageDigest) &&
    decide (host.identity.activationGeneration = identity.activationGeneration) &&
    decide (host.identity.hostInstanceId = identity.hostInstanceId)

def ensureCurrentHost (identity : ContributionInstanceIdentity) (host : WasmPluginHost) : Except ContributionCallError Unit :=
  ensureCall (isCurrentHost identity host) .staleIdentity "contribution route does not match the live Wasm host"

def callByteLimit : ContributionKind → Nat
  | .viewer | .panel => maxViewerDocumentBytes
  | .command | .source | .tool | .skill => maxContributionCallBytes

section Checks

variable {F : Type} [LinearOrder F] (num : Numbers F) (crates : WasmCrates)

/-- An instance of a declared schema, or the error that it is none. -/
def ensureInstanceOf (schema : BoundedJsonSchema) (value : Json) (code : ContributionCallErrorCode) (message : String) :
    Except ContributionCallError Unit :=
  ensureCall (schema.validateInstance num value).isOk code message

def validateTerminalResult (kind : ContributionKind) (schema : BoundedJsonSchema) (result : Json) :
    Except ContributionCallError Unit := do
  ensureCall (decide ((crates.encode result).length ≤ callByteLimit kind)) .outputTooLarge
    "contribution output exceeds its byte budget"
  ensureInstanceOf num schema result .invalidOutput "contribution output does not match the declared schema"

/-- The record that a call is admitted against, and the schema of its output. -/
def admission (registry : ContributionStore) (request : ContributionCallRequest) (host : WasmPluginHost) :
    Except ContributionCallError (ContributionRecord × BoundedJsonSchema) := do
  validateHandleSet request.suppliedHandles
  let record ← orCallError (registry.get request.projectId request.contributionId) .missingContribution
    "contribution is not published for this project"
  ensureCall (decide (record.contribution.kind ≠ .skill)) .notCallable "declarative Skill contributions are not callable"
  ensureCurrentHost record.identity host
  ensureCall (decide ((crates.encode request.input).length ≤ maxContributionCallBytes)) .inputTooLarge
    "contribution input exceeds its byte budget"
  let inputSchema ← orCallError record.contribution.inputSchema .notCallable "contribution has no input schema"
  ensureInstanceOf num inputSchema request.input .invalidInput "contribution input does not match the declared schema"
  let outputSchema ← orCallError record.contribution.outputSchema .notCallable "contribution has no output schema"
  return (record, outputSchema)

end Checks

namespace ContributionCallSession

/-! ## The session -/

/-- What the guest is called with. -/
def envelope (record : ContributionRecord) (request : ContributionCallRequest) : Json :=
  .obj
    [("activation_generation", .int record.activationGeneration.value.toNat),
      ("capability_handles", .obj (request.suppliedHandles.entries.map fun e => (e.1, .str e.2))),
      ("contribution", .obj
        [("contract_major", .int record.contribution.contractMajor), ("id", .str record.contribution.capability.value)]),
      ("deadline_millis", .int contributionCallDeadlineMillis),
      ("host_instance_id", .str record.hostInstanceId),
      ("input", request.input),
      ("origin", .str request.origin.name),
      ("package_digest", .str record.packageDigest),
      ("plugin_id", .str record.pluginId.value),
      ("project_id", .str record.projectId.value)]

/-- The session of an admitted call, before the first step of the guest is accepted. -/
def opened (record : ContributionRecord) (outputSchema : BoundedJsonSchema) (request : ContributionCallRequest)
    (requestId : HostRequestId) (callId : String) (deadlineMillis : Nat) : ContributionCallSession where
  requestId := requestId
  callId := callId
  identity := record.identity
  contributionId := request.contributionId
  contractMajor := record.contribution.contractMajor
  kind := record.contribution.kind
  outputSchema := outputSchema
  origin := request.origin
  deadlineMillis := deadlineMillis
  suppliedHandles := request.suppliedHandles
  brokerSteps := 0
  waitingForBroker := false
  terminal := false

/-- Both flags at the end of a call. -/
def closed (s : ContributionCallSession) : ContributionCallSession := { s with terminal := true, waitingForBroker := false }

def invalidateBeforePublish (s : ContributionCallSession) : ContributionCallSession := s.closed

/-- `accept_step`: a broker request must name the handle that was supplied for its permission. -/
def acceptStep (s : ContributionCallSession) (step : GuestStep) : Except ContributionCallError ContributionCallSession :=
  if step.callId ≠ s.callId then .error ⟨.sequenceViolation, "contribution guest step has a mismatched call id"⟩
  else
    match step with
    | .brokerRequest _ handleId permission _ _ =>
      if s.suppliedHandles.get permission ≠ some handleId then
        .error ⟨.handleNotSupplied, "guest requested a handle not supplied for this call"⟩
      else .ok { s with brokerSteps := s.brokerSteps + 1, waitingForBroker := true }
    | .complete _ _ | .error _ _ => .ok { s with waitingForBroker := false }

/-- The store still routes the contribution to the instance of the session, under its contract. -/
def isRouted (s : ContributionCallSession) (registry : ContributionStore) : Bool :=
  (registry.get s.identity.projectId s.contributionId).any fun record =>
    decide (record.pluginId = s.identity.pluginId) && decide (record.packageDigest = s.identity.packageDigest) &&
      decide (record.activationGeneration = s.identity.activationGeneration) &&
      decide (record.hostInstanceId = s.identity.hostInstanceId) &&
      decide (record.contribution.contractMajor = s.contractMajor)

def provenance (s : ContributionCallSession) : ContributionCallProvenance where
  callId := s.callId
  contributionId := s.contributionId
  contractMajor := s.contractMajor
  projectId := s.identity.projectId
  pluginId := s.identity.pluginId
  packageDigest := s.identity.packageDigest
  activationGeneration := s.identity.activationGeneration
  hostInstanceId := s.identity.hostInstanceId
  origin := s.origin
  brokerSteps := s.brokerSteps

/-! ## Calls on it -/

/-- An operation of the host, with its result or its error. -/
def onHost {α : Type} (operation : HostM α) : CallM (Except HostProtocolError α) := fun state =>
  match operation state.2 with
  | .ok a host => .ok (.ok a) (state.1, host)
  | .error e host => .ok (.error e) (state.1, host)

def cancelOnHost (env : CallEnv) : CallM (Except HostProtocolError Bool) := do
  let state ← get
  onHost (WasmPluginHost.cancelBrokerCall env.cancellation state.1.requestId)

/-- The session takes the step, or the call is cancelled at the host. -/
def takeStep (env : CallEnv) (step : GuestStep) : CallM GuestStep := do
  let state ← get
  match state.1.acceptStep step with
  | .ok s =>
    set (s, state.2)
    return step
  | .error e =>
    let _ ← cancelOnHost env
    throw e

/-- The end of a call that was not finished, with its error. -/
def abandon (env : CallEnv) (error : ContributionCallError) : CallM Unit := do
  let _ ← cancelOnHost env
  modify fun state => (state.1.closed, state.2)
  throw error

/-- `ensure_live`: a call past its deadline and a call whose route has changed are over; a call at another host is refused only. -/
def ensureLive (registry : ContributionStore) (now : Nat) (env : CallEnv) : CallM Unit := do
  let state ← get
  if state.1.deadlineMillis ≤ now then
    abandon env ⟨.deadlineExceeded, "contribution call exceeded its 30-second deadline"⟩
  else
    ofResult (ensureCurrentHost state.1.identity state.2)
    if !state.1.isRouted registry then abandon env ⟨.staleIdentity, "contribution route changed before completion"⟩
    else pure ()

section Calls

variable {F : Type} [LinearOrder F] (num : Numbers F) (crates : WasmCrates)

/-- `begin`, of the host. -/
def begin (registry : ContributionStore) (request : ContributionCallRequest) (now : Nat) (env : CallEnv)
    (host : WasmPluginHost) : EStateM.Result ContributionCallError WasmPluginHost (ContributionCallSession × GuestStep) :=
  match admission num crates registry request host with
  | .error e => .error e host
  | .ok (record, outputSchema) =>
    if 2 ^ 64 ≤ now + contributionCallDeadlineMillis then
      .error ⟨.deadlineExceeded, "contribution deadline cannot be represented"⟩ host
    else
      match WasmPluginHost.beginContributionCall crates env.operation env.requestId (envelope record request) host with
      | .error e host => .error (hostRejected "begin" e) host
      | .ok step host =>
        let s := opened record outputSchema request env.requestId step.callId (now + contributionCallDeadlineMillis)
        match takeStep env step (s, host) with
        | .ok step state => .ok (state.1, step) state.2
        | .error e state => .error e state.2

/-- The checks of `resume`, after which the result is the guest's. -/
def admitResume (registry : ContributionStore) (now : Nat) (env : CallEnv) : CallM Unit := do
  ensureLive registry now env
  let state ← get
  if state.1.terminal || !state.1.waitingForBroker then
    throw ⟨.sequenceViolation, "contribution call is not waiting for a broker result"⟩
  else set ({ state.1 with waitingForBroker := false }, state.2)

/-- The result of the broker, handed to the guest, and its next step. -/
def deliver (brokerResult : Json) (rawResultBytes : Nat) (env : CallEnv) : CallM GuestStep := do
  let state ← get
  match ← onHost (WasmPluginHost.resumeContributionCall crates env.operation state.1.requestId brokerResult rawResultBytes) with
  | .error e => throw (hostRejected "resume" e)
  | .ok step => takeStep env step

def resume (registry : ContributionStore) (brokerResult : Json) (rawResultBytes now : Nat) (env : CallEnv) : CallM GuestStep := do
  admitResume registry now env
  deliver crates brokerResult rawResultBytes env

def finish (registry : ContributionStore) (step : GuestStep) (now : Nat) (env : CallEnv) : CallM ContributionCallOutcome := do
  ensureLive registry now env
  let state ← get
  if state.1.terminal then throw ⟨.sequenceViolation, "contribution call already reached a terminal state"⟩
  else if step.callId ≠ state.1.callId then
    throw ⟨.sequenceViolation, "contribution terminal call id does not match admission"⟩
  else
    match step with
    | .complete _ result =>
      set (state.1.closed, state.2)
      ofResult (validateTerminalResult num crates state.1.kind state.1.outputSchema result)
      return .completed result state.1.provenance
    | .error _ code =>
      set (state.1.closed, state.2)
      return .failed code state.1.provenance
    | .brokerRequest _ _ _ _ _ => throw ⟨.sequenceViolation, "contribution call has not reached a terminal step"⟩

def cancel (env : CallEnv) : CallM Bool := do
  let state ← get
  if state.1.terminal then return false
  else
    match ← cancelOnHost env with
    | .error e => throw (hostRejected "cancel" e)
    | .ok cancelled =>
      modify fun state => (state.1.closed, state.2)
      return cancelled

end Calls

end ContributionCallSession

/-! ## Runs -/

/-- A call on a session with what is passed to it: the store, the reading of the clock and the host are those of this call. -/
inductive SessionCall where
  | resume (registry : ContributionStore) (brokerResult : Json) (rawResultBytes now : Nat) (env : CallEnv) (host : WasmPluginHost)
  | finish (registry : ContributionStore) (step : GuestStep) (now : Nat) (env : CallEnv) (host : WasmPluginHost)
  | cancel (env : CallEnv) (host : WasmPluginHost)
  | invalidateBeforePublish

inductive SessionAnswer where
  | resumed (step : GuestStep)
  | finished (outcome : ContributionCallOutcome)
  | cancelled (result : Bool)
  | invalidated
  | refused (error : ContributionCallError)
  deriving DecidableEq

/-- The answer and the session at the end of a call. -/
def SessionAnswer.ofResult {α : Type} (answer : α → SessionAnswer) :
    EStateM.Result ContributionCallError (ContributionCallSession × WasmPluginHost) α → SessionAnswer × ContributionCallSession
  | .ok a state => (answer a, state.1)
  | .error e state => (.refused e, state.1)

namespace ContributionCallSession

variable {F : Type} [LinearOrder F] (num : Numbers F) (crates : WasmCrates)

def serve (s : ContributionCallSession) : SessionCall → SessionAnswer × ContributionCallSession
  | .resume registry brokerResult rawResultBytes now env host =>
    SessionAnswer.ofResult .resumed (resume crates registry brokerResult rawResultBytes now env (s, host))
  | .finish registry step now env host => SessionAnswer.ofResult .finished (finish num crates registry step now env (s, host))
  | .cancel env host => SessionAnswer.ofResult .cancelled (cancel env (s, host))
  | .invalidateBeforePublish => (.invalidated, s.invalidateBeforePublish)

def step (s : ContributionCallSession) (call : SessionCall) : ContributionCallSession := (s.serve num crates call).2

/-- The call reaches the guest with a result of the broker. -/
def delivers (s : ContributionCallSession) : SessionCall → Bool
  | .resume registry _ _ now env host =>
    match admitResume registry now env (s, host) with
    | .ok _ _ => true
    | .error _ _ => false
  | .finish _ _ _ _ _ | .cancel _ _ | .invalidateBeforePublish => false

end ContributionCallSession

/-- A call, whether it reached the guest with a result, and its answer. -/
structure SessionEvent where
  call : SessionCall
  delivered : Bool
  answer : SessionAnswer

def ContributionCallSession.event {F : Type} [LinearOrder F] (num : Numbers F) (crates : WasmCrates)
    (s : ContributionCallSession) (call : SessionCall) : SessionEvent :=
  ⟨call, s.delivers call, (s.serve num crates call).1⟩

end Rho
