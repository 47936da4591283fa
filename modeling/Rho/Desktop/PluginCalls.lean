import Rho.Desktop.PluginBroker

/-!
# Calls of workspace plugins

The four loops in which the registry serves a guest: `invoke_plugin` for files, `invoke_network_plugin`, `invoke_workspace_plugin`
and `invoke_file_contribution`. Each request of a guest is admitted, dispatched, checked once more, recorded and answered; on the way
there are some sixty exits.
-/

namespace Rho.PluginBroker

open Effect PluginPermission

section Calls

variable {F : Type} [LinearOrder F] (w : Surroundings F) (ctx : RuntimeContext)

/-! ## Accesses -/

/-- `grant_error_code`. -/
def grantErrorCode : GrantErrorKind → String
  | .unknownHandle => "unknown_handle"
  | .revoked => "grant_revoked"
  | .expired => "grant_expired"
  | .consumed => "grant_consumed"
  | .inFlight => "grant_in_flight"
  | .notAdmitted => "grant_not_admitted"
  | .wrongPlugin => "wrong_plugin"
  | .wrongHostSession => "wrong_host_session"
  | .wrongProject => "wrong_project"
  | .wrongScope => "wrong_scope"
  | .wrongGeneration => "wrong_generation"
  | .wrongPackageDigest => "wrong_package_digest"
  | .wrongPermission => "wrong_permission"
  | .wrongWorkspace => "wrong_workspace"
  | .constraintViolation => "constraint_violation"

/-- `network_error_code`. -/
def networkErrorCode : NetworkFetchErrorCode → String
  | .invalidUrl => "invalid_url"
  | .hostNotAllowed => "host_not_allowed"
  | .methodNotAllowed => "method_not_allowed"
  | .staleProject => "stale_project"
  | .dnsFailed => "dns_failed"
  | .nonPublicAddress => "non_public_address"
  | .authorizationDenied => "authorization_denied"
  | .redirectMissingLocation => "redirect_missing_location"
  | .tooManyRedirects => "too_many_redirects"
  | .responseTooLarge => "response_too_large"
  | .timeout => "network_timeout"
  | .transportFailed => "transport_failed"

/-- `Store::open(..)?`. -/
def openStore : BrokerM Unit := do
  let m ← enter w ctx
  attempt (m.fault.map .lapsed)

/-- An event of a call. -/
structure CallEvent where
  grantId : Option String
  eventType : String
  status : String
  reasonCode : Option String
  details : Json
  consume : Bool

/-- `record_call_event`. -/
def recordEvent (pluginId packageDigest : String) (e : CallEvent) : BrokerM Unit := do
  let m ← enter w ctx
  attempt (m.fault.map .failed)
  let b ← get
  let written ← ofResult ((b.permissions.recordCallEvent w.crates m.instant w.uuid
    ⟨ctx.projectRoot, pluginId, packageDigest, e.grantId, e.eventType, e.status, e.reasonCode, e.details.toText⟩ e.consume).mapError .failed)
  set { b with permissions := written.2 }

/-- The admission of an `allow once` handle is over. -/
def completeHandle (handleId : String) (completion : CompletionClass) : BrokerM Unit := do
  let _ ← enter w ctx
  modify fun b => { b with grants := (b.grants.complete w.sha256 handleId completion).2 }

/-- `release_plugin_admission`. -/
def releaseAdmission (handleId : String) : BrokerM Unit := completeHandle w ctx handleId .failureBeforeDispatch

/-- The pending call of a plugin's host is cancelled. -/
def Broker.cancelCall (b : Broker) (pluginId : String) (requestId : HostRequestId) (m : Moment) : Broker :=
  match b.active pluginId with
  | none => b
  | some a => b.putHost pluginId a (final (WasmPluginHost.cancelBrokerCall m.env.cancellation requestId a.host))

/-- `cancel_plugin_call`. -/
def cancelPluginCall (pluginId : String) (requestId : HostRequestId) : BrokerM Unit := do
  let m ← enter w ctx
  modify fun b => b.cancelCall pluginId requestId m

/-- What is put in order before an error is handed on. -/
def cleaning {α : Type} (cleanup : BrokerM Unit) (x : BrokerM α) : BrokerM α :=
  handle x pure fun e => do
    cleanup
    throw e

/-- `?`: the error is handed on as it stands. -/
def bare {α : Type} (x : BrokerM α) : BrokerM α := handle x pure fun e => throw (.lapsed e.message)

/-- `resume_plugin_error`. -/
def resumeError (pluginId : String) (requestId : HostRequestId) (code : String) : BrokerM GuestStep := do
  let m ← enter w ctx
  let b ← get
  match b.active pluginId with
  | none => throw (.failed "workspace plugin was disabled before error delivery")
  | some a =>
    match WasmPluginHost.resumeBrokerCall w.wasm m.env.operation requestId
        (.obj [("error", .obj [("code", .str code)]), ("ok", .bool false)]) 0 a.host with
    | .ok step host =>
      set (b.putHost pluginId a host)
      return step
    | .error _ host =>
      let removed := (b.putHost pluginId a host).removeActive pluginId m.millis
      set { removed with grants := (removed.grants.invalidateHost a.host.identity.hostInstanceId m.millis).2 }
      throw (.failed "workspace plugin error resume failed")

/-- What the registry answers to a request for a handle: what it was revalidated with, and the durable grant behind it. -/
structure Admission where
  revalidation : RevalidationRequest
  outcome : Revalidation
  grantId : Option String

/-- The request of a host for a permission. -/
def revalidationOf (identity : WasmHostIdentity) (handleId : String) (permission : PermissionKind) (use : PermissionUse)
    (workspace : Option WorkspaceGrantIdentity) : RevalidationRequest :=
  ⟨handleId, identity.pluginId, identity.hostInstanceId, identity.packageDigest, identity.projectId, identity.projectId,
    identity.activationGeneration, permission, use, workspace⟩

/-- A handle is revalidated. -/
def Broker.admitHandle (b : Broker) (request : RevalidationRequest) (now : Nat) : Admission × Broker :=
  let (outcome, grants) := b.grants.revalidate w.sha256 request now
  (⟨request, outcome, (grants.grants.get (w.sha256 request.handleId)).map (·.durableGrantId)⟩, { b with grants := grants })

/-- The admission of the active runtime's request. -/
def admitRequest (pluginId handleId : String) (permission : PermissionKind) (use : PermissionUse) (workspace : Option WorkspaceGrantIdentity)
    (missing : String) : BrokerM Admission := do
  let m ← enter w ctx
  let b ← get
  match b.active pluginId with
  | none => throw (.failed missing)
  | some a =>
    let (admission, b) := b.admitHandle w (revalidationOf a.host.identity handleId permission use workspace) m.millis
    set b
    return admission

/-- The runtime of the admission is still the active one. -/
def Broker.sessionCurrent (b : Broker) (pluginId : String) (r : RevalidationRequest) : Bool :=
  (b.active pluginId).any fun a => a.host.identity.hostInstanceId == r.hostInstanceId

def Broker.stillAdmitted (b : Broker) (r : RevalidationRequest) (now : Nat) : Bool :=
  b.grants.revalidateAdmitted w.sha256 r now == .allowed

/-- The identity under which the events of a call are recorded. -/
structure EventIdentity where
  pluginId : String
  packageDigest : String

def RevalidationRequest.eventIdentity (r : RevalidationRequest) : EventIdentity := ⟨r.pluginId.value, r.packageDigest⟩

/-- The result is handed to the guest; where it cannot be, the runtime is removed. An admission that is no longer good is treated as
`stale` says, and leaves by `staleExit`. -/
def deliver (pluginId : String) (requestId : HostRequestId) (r : RevalidationRequest) (value : Json) (bytes : Nat)
    (stale : Moment → Broker → Broker) (staleExit : String → Exit) : BrokerM GuestStep := do
  let m ← enter w ctx
  let b ← get
  if !b.stillAdmitted w r m.millis then do
    set (stale m b)
    throw (staleExit "plugin grant became stale after durable completion")
  else do
    let b := { b with grants := (b.grants.complete w.sha256 r.handleId .success).2 }
    match b.active pluginId with
    | none => do
      set b
      throw (.failed "workspace plugin was disabled before result delivery")
    | some a =>
      match WasmPluginHost.resumeBrokerCall w.wasm m.env.operation requestId (.obj [("ok", .bool true), ("value", value)]) bytes a.host with
      | .ok step host => do
        set (b.putHost pluginId a host)
        return step
      | .error _ host => do
        set (b.putHost pluginId a host)
        throw (.failed "workspace plugin broker resume failed")

/-- A delivery that fails removes the runtime and is recorded, by an event whose own error takes the place of the error. -/
def orRemove (pluginId : String) (delivery : BrokerM GuestStep) (recorded : BrokerM Unit) : BrokerM GuestStep :=
  handle delivery pure fun e => do
    let m ← enter w ctx
    modify fun b => b.removeActive pluginId m.millis
    handle recorded (fun _ => throw e) fun e' => throw (e.withMessage e'.message)

/-! ## What the calls do alike -/

/-- A call of a plugin: the plugin, the id of the request at its host, and the permission that it is about. -/
structure BrokerCall where
  pluginId : String
  requestId : HostRequestId
  permission : PermissionKind

def BrokerCall.operation (c : BrokerCall) : (String × Json) := ("operation", .str c.permission.asStaticStr)

/-- What the guest of a runtime is called with. -/
def Runtime.callInput (a : Runtime) (request : Json) : Json :=
  .obj [("capability_handles", .obj (a.suppliedHandles.entries.map fun e => (e.1, .str e.2))), ("request", request)]

/-- The host's call is begun. -/
def beginCall (c : BrokerCall) (checkDigest : Bool) (request : Json) : BrokerM GuestStep := do
  let m ← enter w ctx
  let b ← get
  match b.active c.pluginId with
  | none => throw (.failed "workspace plugin is not enabled for this project")
  | some a =>
    if a.host.brokerCall.isSome then throw (.failed "workspace plugin already has an active broker call")
    else if checkDigest && a.packageDigest != a.host.identity.packageDigest then
      throw (.failed "workspace plugin host package identity is stale")
    else
      match WasmPluginHost.beginBrokerCall w.wasm m.env.operation c.requestId (a.callInput request) a.host with
      | .ok step host => do
        set (b.putHost c.pluginId a host)
        return step
      | .error _ host => do
        set (b.putHost c.pluginId a host)
        throw (.failed "workspace plugin broker begin failed")

/-- The admission is given up and the pending call is cancelled. -/
def abandon (c : BrokerCall) (handleId : String) : BrokerM Unit := do
  releaseAdmission w ctx handleId
  cancelPluginCall w ctx c.pluginId c.requestId

/-- A request that is not admitted. -/
def deny (c : BrokerCall) (identity : EventIdentity) (code : String) : BrokerM GuestStep := do
  cleaning (cancelPluginCall w ctx c.pluginId c.requestId) (recordEvent w ctx identity.pluginId identity.packageDigest
    ⟨none, "call_denied", "failed", some code, .obj [c.operation], false⟩)
  resumeError w ctx c.pluginId c.requestId code

/-- A request that was admitted and fails. -/
def refuse (c : BrokerCall) (r : RevalidationRequest) (e : CallEvent) (code : String) : BrokerM GuestStep := do
  cleaning (abandon w ctx c r.handleId) (recordEvent w ctx r.pluginId.value r.packageDigest e)
  releaseAdmission w ctx r.handleId
  resumeError w ctx c.pluginId c.requestId code

def admittedEvent (c : BrokerCall) (grantId : String) : CallEvent :=
  ⟨some grantId, "call_admitted", "completed", none, .obj [c.operation], false⟩

/-- The result of a request was not to be shown any more. -/
def staleEvent (c : BrokerCall) (code : String) : CallEvent := ⟨none, "call_denied", "stale", some code, .obj [c.operation], false⟩

/-- The result of a request did not reach the guest. -/
def undeliveredEvent (c : BrokerCall) (code : String) : CallEvent := ⟨none, "call_failed", "failed", some code, .obj [c.operation], false⟩

structure CallResult where
  status : String
  result : Option Json
  errorCode : Option String
  brokerSteps : Nat

/-- The loop of a call, for the requests that the host may still let through. -/
def brokerLoop (serve : String → String → String → Json → BrokerM GuestStep) : Nat → Nat → GuestStep → BrokerM CallResult
  | _, steps, .complete _ result => return ⟨"completed", some result, none, steps⟩
  | _, steps, .error _ code => return ⟨"failed", none, some code, steps⟩
  | 0, _, .brokerRequest _ _ _ _ _ => throw (.failed "the host lets no further request through")
  | fuel + 1, steps, .brokerRequest _ handleId permission operation args => do
    let step ← serve handleId permission operation args
    brokerLoop serve fuel (steps + 1) step

/-- A request for the operation of the call, read by a decoder, or the answer that it is none. -/
def serveRequest {α : Type} (c : BrokerCall) (decode : Json → Option α) (permission operation : String) (args : Json)
    (serve : α → BrokerM GuestStep) : BrokerM GuestStep :=
  if permission ≠ c.permission.asStaticStr ∨ operation ≠ c.permission.asStaticStr then
    resumeError w ctx c.pluginId c.requestId "operation_not_available"
  else
    match decode args with
    | none => resumeError w ctx c.pluginId c.requestId "invalid_arguments"
    | some request => serve request

/-! ## Crashes -/

/-- `ActiveCrashIdentity`, with the plugin that it is registered for. -/
structure CrashIdentity where
  pluginId : String
  hostInstanceId : HostInstanceId
  packageDigest : String

/-- `crash_identity`. -/
def crashIdentity (pluginId : String) : BrokerM (Option CrashIdentity) := do
  let _ ← enter w ctx
  return ((← get).active pluginId).map fun a => ⟨pluginId, a.host.identity.hostInstanceId, a.packageDigest⟩

/-- `persist_crash_if_needed`: a runtime whose host is quarantined is removed. -/
def Broker.removeCrashed (b : Broker) (identity : CrashIdentity) (now : Nat) : Broker :=
  if (b.active identity.pluginId).any fun a =>
      decide (a.host.identity.hostInstanceId = identity.hostInstanceId ∧ a.packageDigest = identity.packageDigest ∧
        a.host.state = .quarantined) then
    b.removeActive identity.pluginId now
  else b

/-- A call whose failure may be the crash of its host. -/
def watchingCrashes {α : Type} (identity : Option CrashIdentity) (x : BrokerM α) : BrokerM α :=
  handle x pure fun e =>
    match identity with
    | none => throw e
    | some identity => do
      let m ← enter w ctx
      modify fun b => b.removeCrashed identity m.millis
      throw e

/-! ## Files -/

/-- `read_project_file`, at a revision that is not negative. -/
def readProjectFile : BrokerM Moment :=
  if ctx.projectRevision < 0 then throw (.lapsed "current project revision is negative") else enter w ctx

/-- A file that was read is shown, if the admission still holds. -/
def finishFile (c : BrokerCall) (r : RevalidationRequest) (grantId : String) (value : Json) (size : Nat) : BrokerM GuestStep := do
  let m ← enter w ctx
  let b ← get
  if !(b.sessionCurrent c.pluginId r && b.stillAdmitted w r m.millis) then
    refuse w ctx c r (staleEvent c "stale_after_dispatch") "stale_after_dispatch"
  else do
    cleaning (abandon w ctx c r.handleId) (recordEvent w ctx r.pluginId.value r.packageDigest ⟨some grantId, "call_completed", "completed",
      none, .obj [("durationMs", .int m.elapsed), c.operation, ("sizeBytes", .int size)], true⟩)
    orRemove w ctx c.pluginId
      (deliver w ctx c.pluginId c.requestId r value size (fun m b =>
        ({ b with grants := (b.grants.complete w.sha256 r.handleId .uncertain).2 } : Broker).cancelCall c.pluginId c.requestId m) .failed)
      (recordEvent w ctx r.pluginId.value r.packageDigest (undeliveredEvent c "guest_resume_failed"))

/-- An admitted request for a file. -/
def serveAdmittedFile (c : BrokerCall) (r : RevalidationRequest) (grantId : String) : BrokerM GuestStep := do
  cleaning (abandon w ctx c r.handleId) (recordEvent w ctx r.pluginId.value r.packageDigest (admittedEvent c grantId))
  let m ← readProjectFile w ctx
  match m.answer with
  | .error code => refuse w ctx c r ⟨some grantId, "call_failed", "failed", some code,
      .obj [("durationMs", .int m.elapsed), c.operation], false⟩ code
  | .ok (value, size) => finishFile w ctx c r grantId value size

/-- One request of `invoke_plugin`. -/
def serveFile (c : BrokerCall) (handleId permission operation : String) (args : Json) : BrokerM GuestStep :=
  serveRequest w ctx c w.decodeFileRequest permission operation args fun request => do
    let a ← admitRequest w ctx c.pluginId handleId .projectFsRead (.projectFsRead request.projectRelativePath request.maxBytes) none
      "workspace plugin was disabled before call admission"
    match a.outcome, a.grantId with
    | .denied error, _ => deny w ctx c (RevalidationRequest.eventIdentity a.revalidation) (grantErrorCode error)
    | .allowed, none => do
      cancelPluginCall w ctx c.pluginId c.requestId
      throw (.lapsed "admitted plugin handle has no durable grant identity")
    | .allowed, some grantId => serveAdmittedFile w ctx c a.revalidation grantId

/-- `invoke_plugin`. -/
def invokePlugin (pluginId : String) (requestId : HostRequestId) (request : Json) : BrokerM CallResult := do
  let identity ← crashIdentity w ctx pluginId
  watchingCrashes w ctx identity do
    let c : BrokerCall := ⟨pluginId, requestId, .projectFsRead⟩
    let step ← beginCall w ctx c true request
    brokerLoop (serveFile w ctx c) maxGuestBrokerSteps 0 step

/-! ## The workspace -/

/-- A workspace that was inspected is shown, if the admission still holds. -/
def finishWorkspace (c : BrokerCall) (r : RevalidationRequest) (grantId : String) (value : Json) (size : Nat) : BrokerM GuestStep := do
  let m ← enter w ctx
  let b ← get
  if !(m.sameWorkspace && b.stillAdmitted w r m.millis) then do
    openStore w ctx
    refuse w ctx c r (staleEvent c "stale_after_dispatch") "stale_after_dispatch"
  else do
    openStore w ctx
    cleaning (abandon w ctx c r.handleId) (recordEvent w ctx r.pluginId.value r.packageDigest ⟨some grantId, "call_completed", "completed",
      none, .obj [("durationMs", .int m.elapsed), c.operation, ("sizeBytes", .int size)], true⟩)
    orRemove w ctx c.pluginId (deliver w ctx c.pluginId c.requestId r value size (fun _ b => b) .lapsed) do
      openStore w ctx
      recordEvent w ctx r.pluginId.value r.packageDigest (undeliveredEvent c "completion_delivery_failed")

/-- What the dispatcher has answered is projected. -/
def projectWorkspace (c : BrokerCall) (r : RevalidationRequest) (grantId : String) : BrokerM GuestStep := do
  let m ← enter w ctx
  match m.answer with
  | .error code => do
    openStore w ctx
    refuse w ctx c r (staleEvent c code) code
  | .ok (value, size) => finishWorkspace w ctx c r grantId value size

/-- An admitted request for the workspace. -/
def serveAdmittedWorkspace (c : BrokerCall) (r : RevalidationRequest) (grantId : String) : BrokerM GuestStep := do
  openStore w ctx
  cleaning (abandon w ctx c r.handleId) (recordEvent w ctx r.pluginId.value r.packageDigest (admittedEvent c grantId))
  let m ← enter w ctx
  match m.answer with
  | .error _ => do
    openStore w ctx
    refuse w ctx c r ⟨some grantId, "call_failed", "failed", some "workspace_dispatch_failed", .obj [c.operation], false⟩
      "workspace_dispatch_failed"
  | .ok _ => projectWorkspace w ctx c r grantId

/-- The admission of a request for the workspace, whose reference is prepared under the same lock. -/
def admitWorkspace (pluginId handleId : String) (use : PermissionUse) : BrokerM Admission := do
  let m ← enter w ctx
  let b ← get
  match m.answer, b.active pluginId with
  | .error code, _ => throw (.lapsed code)
  | .ok _, none => throw (.failed "workspace plugin was disabled before call admission")
  | .ok _, some a =>
    let (admission, b) := b.admitHandle w (revalidationOf a.host.identity handleId .workspaceRInspect use ctx.workspace) m.millis
    set b
    return admission

/-- What an inspection asks for. -/
def WorkspaceInspectOperation.use : WorkspaceInspectOperation → PermissionUse
  | .metadata => .workspaceRInspect "metadata" (64 * 1024)
  | .preview => .workspaceRInspect "preview" (256 * 1024)

/-- One request of `invoke_workspace_plugin`. -/
def serveWorkspace (c : BrokerCall) (handleId permission operation : String) (args : Json) : BrokerM GuestStep :=
  serveRequest w ctx c w.decodeInspectRequest permission operation args fun request => do
    let a ← admitWorkspace w ctx c.pluginId handleId request.use
    match a.outcome, a.grantId with
    | .denied error, _ => do
      openStore w ctx
      deny w ctx c (RevalidationRequest.eventIdentity a.revalidation) (grantErrorCode error)
    | .allowed, none => throw (.lapsed "admitted Workspace handle has no durable grant identity")
    | .allowed, some grantId => serveAdmittedWorkspace w ctx c a.revalidation grantId

/-- `invoke_workspace_plugin`. -/
def invokeWorkspacePlugin (pluginId : String) (requestId : HostRequestId) (request : Json) : BrokerM CallResult :=
  if ctx.workspace.isNone then throw (.failed "workspace inspection requires a current Workspace")
  else do
    let c : BrokerCall := ⟨pluginId, requestId, .workspaceRInspect⟩
    let step ← beginCall w ctx c false request
    brokerLoop (serveWorkspace w ctx c) maxGuestBrokerSteps 0 step

/-! ## The network -/

/-- The registry after so many accesses. -/
def Broker.after (b : Broker) : Nat → Broker
  | 0 => b
  | n + 1 => (Broker.after b n).tick w ctx

/-- `LiveNetworkAuthorizer::authorize`, at the next access. -/
def Broker.authorizeHop (b : Broker) (pluginId : String) (r : RevalidationRequest) (hop : NetworkHopAuthorization) :
    Except NetworkFetchError Unit :=
  let now := (w.moments b.position).millis
  let b := b.tick w ctx
  if b.sessionCurrent pluginId r && b.stillAdmitted w
      { r with permissionUse := .networkFetch hop.scheme hop.host hop.method hop.requestedResponseBytes } now then .ok ()
  else .error { code := .authorizationDenied }

/-- The parts of a fetch that begins with the registry in this state: each of their calls is one access. -/
def Broker.networkWorld (b : Broker) (pluginId : String) (r : RevalidationRequest) : NetworkWorld where
  authorize log hop := (b.after w ctx log.length).authorizeHop w ctx pluginId r hop
  resolve log _ := (w.moments (b.position + log.length)).resolved
  send log _ _ := (w.moments (b.position + log.length)).sent

/-- A hop was handed to the transport. -/
def isDispatched (log : List NetworkCall) : Bool :=
  log.any fun
    | .send _ _ _ => true
    | .authorize _ _ | .resolve _ _ => false

/-- `fetch`, of an admitted request. -/
def fetchPlugin (c : BrokerCall) (r : RevalidationRequest) (grantId : String) (request : NetworkFetchRequest) (policy : NetworkFetchPolicy) :
    BrokerM (Except NetworkFetchError NetworkFetchResult) := do
  let b ← get
  let (result, log) := fetch w.network (b.networkWorld w ctx c.pluginId r) request policy
  let b := b.after w ctx log.length
  set { b with dispatched := if isDispatched log then b.dispatched ++ [grantId] else b.dispatched }
  return result

/-- The policy of a handle and what the fetch asks for, before it is revalidated. -/
def Broker.networkSetup (b : Broker) (handleId : String) (request : NetworkFetchRequest) :
    Except String (NetworkFetchPolicy × NetworkHopAuthorization) :=
  match b.grants.grants.get (w.sha256 handleId) with
  | none => .error "unknown_handle"
  | some g =>
    match g.constraints.maxResponseBytes with
    | none => .error "invalid_grant"
    | some maxResponseBytes =>
      if ctx.projectRevision < 0 then .error "stale_project"
      else
        let policy : NetworkFetchPolicy := ⟨g.constraints.hosts, g.constraints.methods, maxResponseBytes, ctx.projectRevision.toNat⟩
        match networkRequestAuthorization w.network request policy with
        | .error e => .error (networkErrorCode e.code)
        | .ok initial => .ok (policy, initial)

/-- A request for the network that is not admitted. -/
def denyNetwork (c : BrokerCall) (identity : EventIdentity) (code : String) : BrokerM GuestStep := do
  openStore w ctx
  deny w ctx c identity code

/-- The event of a fetch that has failed. -/
def fetchFailedEvent (c : BrokerCall) (grantId : String) (e : NetworkFetchError) : CallEvent :=
  let code := networkErrorCode e.code
  if e.code = .authorizationDenied then staleEvent c code
  else if e.completionUncertain then ⟨some grantId, "completion_uncertain", "failed", some code, .obj [c.operation], true⟩
  else ⟨some grantId, "call_failed", "failed", some code, .obj [c.operation], false⟩

/-- What a fetch that has failed makes of its admission. -/
def fetchFailedCompletion (e : NetworkFetchError) : CompletionClass :=
  if e.code = .authorizationDenied then .failureBeforeDispatch
  else if e.completionUncertain then .uncertain
  else .failureBeforeDispatch

/-- A fetch that has failed is recorded and the admission is completed, whether it could be recorded or not. -/
def fetchFailed (c : BrokerCall) (r : RevalidationRequest) (grantId : String) (e : NetworkFetchError) : BrokerM GuestStep := do
  openStore w ctx
  let persisted ← handle (recordEvent w ctx r.pluginId.value r.packageDigest (fetchFailedEvent c grantId e)) (fun _ => pure none)
    (fun exit => pure (some exit))
  completeHandle w ctx r.handleId (fetchFailedCompletion e)
  match persisted with
  | some exit => do
    cancelPluginCall w ctx c.pluginId c.requestId
    throw exit
  | none => resumeError w ctx c.pluginId c.requestId (networkErrorCode e.code)

/-- A result as the guest reads it. -/
def fetchedValue (result : NetworkFetchResult) : Json :=
  .obj [("content", .str result.content), ("content_encoding", .str result.contentEncoding),
    ("content_type", (result.contentType.map Json.str).getD .null), ("final_origin", .str result.finalOrigin),
    ("headers", .obj (result.headers.map fun e => (e.1, .str e.2))), ("redirect_count", .int result.redirectCount),
    ("size_bytes", .int result.sizeBytes), ("status", .int result.status.toNat), ("truncated", .bool result.truncated)]

/-- What was fetched is shown, if the admission still holds. -/
def finishNetwork (c : BrokerCall) (r : RevalidationRequest) (grantId : String) (result : NetworkFetchResult) : BrokerM GuestStep := do
  let m ← enter w ctx
  let b ← get
  if !b.stillAdmitted w r m.millis then do
    openStore w ctx
    refuse w ctx c r (staleEvent c "stale_after_dispatch") "stale_after_dispatch"
  else do
    openStore w ctx
    cleaning (do
        completeHandle w ctx r.handleId .uncertain
        cancelPluginCall w ctx c.pluginId c.requestId)
      (recordEvent w ctx r.pluginId.value r.packageDigest ⟨some grantId, "call_completed", "completed", none,
        .obj [("durationMs", .int m.elapsed), c.operation, ("redirectCount", .int result.redirectCount),
          ("sizeBytes", .int result.sizeBytes), ("statusCode", .int result.status.toNat)], true⟩)
    orRemove w ctx c.pluginId
      (deliver w ctx c.pluginId c.requestId r (fetchedValue result) result.sizeBytes (fun _ b => b) .lapsed) do
      openStore w ctx
      recordEvent w ctx r.pluginId.value r.packageDigest (undeliveredEvent c "completion_delivery_failed")

/-- An admitted request for the network. -/
def serveAdmittedNetwork (c : BrokerCall) (r : RevalidationRequest) (grantId : String) (request : NetworkFetchRequest)
    (policy : NetworkFetchPolicy) : BrokerM GuestStep := do
  openStore w ctx
  cleaning (abandon w ctx c r.handleId) (recordEvent w ctx r.pluginId.value r.packageDigest (admittedEvent c grantId))
  match ← fetchPlugin w ctx c r grantId request policy with
  | .error e => fetchFailed w ctx c r grantId e
  | .ok result => finishNetwork w ctx c r grantId result

/-- The admission of a request for the network, under one lock, or the code with which it is denied. -/
def admitNetwork (pluginId handleId : String) (request : NetworkFetchRequest) :
    BrokerM (Except (EventIdentity × String) (Admission × NetworkFetchPolicy)) := do
  let m ← enter w ctx
  let b ← get
  match b.active pluginId with
  | none => throw (.failed "workspace plugin was disabled before call admission")
  | some a =>
    match b.networkSetup w ctx handleId request with
    | .error code => return .error (⟨a.host.identity.pluginId.value, a.host.identity.packageDigest⟩, code)
    | .ok (policy, initial) =>
      let (admission, b) := b.admitHandle w (revalidationOf a.host.identity handleId .networkFetch
        (.networkFetch initial.scheme initial.host initial.method initial.requestedResponseBytes) none) m.millis
      set b
      match admission.outcome with
      | .denied error => return .error (RevalidationRequest.eventIdentity admission.revalidation, grantErrorCode error)
      | .allowed => return .ok (admission, policy)

/-- One request of `invoke_network_plugin`. -/
def serveNetwork (c : BrokerCall) (handleId permission operation : String) (args : Json) : BrokerM GuestStep :=
  serveRequest w ctx c w.decodeNetworkRequest permission operation args fun request => do
    match ← admitNetwork w ctx c.pluginId handleId request with
    | .error (identity, code) => denyNetwork w ctx c identity code
    | .ok (a, policy) =>
      match a.grantId with
      | none => throw (.lapsed "admitted network handle has no durable grant identity")
      | some grantId => serveAdmittedNetwork w ctx c a.revalidation grantId request policy

/-- `invoke_network_plugin`. -/
def invokeNetworkPlugin (pluginId : String) (requestId : HostRequestId) (request : Json) : BrokerM CallResult := do
  let c : BrokerCall := ⟨pluginId, requestId, .networkFetch⟩
  let step ← beginCall w ctx c false request
  brokerLoop (serveNetwork w ctx c) maxGuestBrokerSteps 0 step

/-! ## Contributions -/

/-- `supplied_handles_are_live`, with `handle_allows_admitted_completion`. -/
def Broker.handlesLive (b : Broker) (handles : SuppliedHandles) (now : Nat) : Bool :=
  handles.entries.all fun e =>
    (b.grants.grants.get (w.sha256 e.2)).any fun g => g.revokedAtMillis.isNone && decide (now < g.expiresAtMillis)

/-- The kind of contribution that an origin may call. -/
def ContributionInvocationOrigin.kind : ContributionInvocationOrigin → ContributionKind
  | .agentTool => .tool
  | .trustedSource => .source
  | .userCommand => .command
  | .trustedViewer => .viewer
  | .trustedPanel => .panel

/-- `begin_contribution_call`. -/
def beginContribution (contributionId : CapabilityId) (origin : ContributionInvocationOrigin) (input : Json) :
    BrokerM (ContributionCallSession × GuestStep) := do
  let m ← enter w ctx
  let b ← get
  match b.contributions.get ctx.projectScopeId contributionId with
  | none => throw (.failed "contribution is not published for the current project")
  | some record =>
    match b.active record.pluginId.value with
    | none => throw (.failed "contribution host is not active for the current project")
    | some a =>
      match ContributionCallSession.begin w.num w.wasm b.contributions
          ⟨ctx.projectScopeId, contributionId, origin, input, a.suppliedHandles⟩ m.millis m.env a.host with
      | .ok begun host => do
        set (b.putHost record.pluginId.value a host)
        return begun
      | .error e host => do
        set (b.putHost record.pluginId.value a host)
        throw (.failed e.message)

/-- The plugin of a session. -/
def ContributionCallSession.pluginId (s : ContributionCallSession) : String := s.identity.pluginId.value

/-- `resume_contribution_call`. -/
def resumeContribution (s : ContributionCallSession) (result : Json) (bytes : Nat) : BrokerM (ContributionCallSession × GuestStep) := do
  let m ← enter w ctx
  let b ← get
  match b.active (ContributionCallSession.pluginId s) with
  | none => throw (.failed "contribution host became inactive before resume")
  | some a =>
    match Rho.ContributionCallSession.resume w.wasm b.contributions result bytes m.millis m.env (s, a.host) with
    | .ok step state => do
      set (b.putHost (ContributionCallSession.pluginId s) a state.2)
      return (state.1, step)
    | .error e state => do
      let b := b.putHost (ContributionCallSession.pluginId s) a state.2
      set (if isCurrentHost s.identity state.2 then b.removeActive (ContributionCallSession.pluginId s) m.millis else b)
      throw (.failed e.message)

/-- `finish_contribution_call`. -/
def finishContribution (s : ContributionCallSession) (step : GuestStep) : BrokerM ContributionCallOutcome := do
  let m ← enter w ctx
  let b ← get
  match b.active (ContributionCallSession.pluginId s) with
  | none => throw (.failed "contribution host became inactive before completion")
  | some a =>
    if !b.handlesLive w s.suppliedHandles m.millis then
      throw (.failed "contribution handle was revoked or expired before completion")
    else
      match Rho.ContributionCallSession.finish w.num w.wasm b.contributions step m.millis m.env (s, a.host) with
      | .ok outcome state => do
        set (b.putHost (ContributionCallSession.pluginId s) a state.2)
        return outcome
      | .error e state => do
        set (b.putHost (ContributionCallSession.pluginId s) a state.2)
        throw (.failed e.message)

/-- `cancel_contribution_call`. -/
def cancelContribution (s : ContributionCallSession) : BrokerM Unit := do
  let m ← enter w ctx
  modify fun b =>
    match b.active (ContributionCallSession.pluginId s) with
    | none => b
    | some a => b.putHost (ContributionCallSession.pluginId s) a (final (Rho.ContributionCallSession.cancel m.env (s, a.host))).2

/-- The answer that a request of a contribution has failed. -/
def resumeContributionError (s : ContributionCallSession) (code : String) : BrokerM (ContributionCallSession × GuestStep) :=
  resumeContribution w ctx s (.obj [("error", .obj [("code", .str code)]), ("ok", .bool false)]) 0

/-- The details of an event of a contribution's call. -/
def contributionDetails (contributionId : CapabilityId) (before after : List (String × Json)) : Json :=
  .obj (("contribution", .str contributionId.value) :: before ++ ("operation", .str "project.fs.read") :: after)

/-- The admission of a contribution is given up and its call is cancelled. -/
def abandonContribution (s : ContributionCallSession) (handleId : String) : BrokerM Unit := do
  releaseAdmission w ctx handleId
  cancelContribution w ctx s

/-- A contribution that is not admitted fails. -/
def denyContribution (contributionId : CapabilityId) (s : ContributionCallSession) (r : RevalidationRequest) (code : String) :
    BrokerM (ContributionCallSession × GuestStep) := do
  bare (recordEvent w ctx r.pluginId.value r.packageDigest
    ⟨none, "call_denied", "failed", some code, contributionDetails contributionId [] [], false⟩)
  cancelContribution w ctx s
  throw (.failed ("plugin contribution permission was denied: " ++ code))

/-- A contribution whose file could not be read. -/
def refuseContribution (contributionId : CapabilityId) (s : ContributionCallSession) (r : RevalidationRequest) (grantId code : String)
    (elapsed : Nat) : BrokerM (ContributionCallSession × GuestStep) := do
  let event ← handle (recordEvent w ctx r.pluginId.value r.packageDigest ⟨some grantId, "call_failed", "failed", some code,
    contributionDetails contributionId [("durationMs", .int elapsed)] [], false⟩) (fun _ => pure none) (fun exit => pure (some exit))
  releaseAdmission w ctx r.handleId
  match event with
  | some exit => throw (.lapsed exit.message)
  | none => resumeContributionError w ctx s code

/-- The result is handed to the contribution, if the admission still holds once it is recorded. -/
def settleContribution (s : ContributionCallSession) (r : RevalidationRequest) : BrokerM Unit := do
  let m ← enter w ctx
  let b ← get
  if !b.stillAdmitted w r m.millis then do
    set { b with grants := (b.grants.complete w.sha256 r.handleId .uncertain).2 }
    cancelContribution w ctx s
    throw (.failed "plugin contribution grant became stale after durable completion")
  else set { b with grants := (b.grants.complete w.sha256 r.handleId .success).2 }

def finishContributionFile (contributionId : CapabilityId) (s : ContributionCallSession) (r : RevalidationRequest) (grantId : String)
    (value : Json) (size : Nat) : BrokerM (ContributionCallSession × GuestStep) := do
  let m ← enter w ctx
  let b ← get
  if !(b.sessionCurrent (ContributionCallSession.pluginId s) r && b.stillAdmitted w r m.millis) then do
    bare (recordEvent w ctx r.pluginId.value r.packageDigest
      ⟨none, "call_denied", "stale", some "stale_after_dispatch", contributionDetails contributionId [] [], false⟩)
    abandonContribution w ctx s r.handleId
    throw (.failed "plugin contribution became stale after file dispatch")
  else do
    cleaning (abandonContribution w ctx s r.handleId) (recordEvent w ctx r.pluginId.value r.packageDigest ⟨some grantId, "call_completed",
      "completed", none, contributionDetails contributionId [("durationMs", .int m.elapsed)] [("sizeBytes", .int size)], true⟩)
    settleContribution w ctx s r
    handle (resumeContribution w ctx s (.obj [("ok", .bool true), ("value", value)]) size) pure fun e =>
      handle (recordEvent w ctx r.pluginId.value r.packageDigest
        ⟨none, "call_failed", "failed", some "guest_resume_failed", contributionDetails contributionId [] [], false⟩)
        (fun _ => throw e) fun e' => throw (e.withMessage e'.message)

/-- An admitted request of a contribution. -/
def serveAdmittedContribution (contributionId : CapabilityId) (s : ContributionCallSession) (r : RevalidationRequest) (grantId : String) :
    BrokerM (ContributionCallSession × GuestStep) := do
  cleaning (abandonContribution w ctx s r.handleId) (recordEvent w ctx r.pluginId.value r.packageDigest
    ⟨some grantId, "call_admitted", "completed", none, contributionDetails contributionId [] [], false⟩)
  let m ← readProjectFile w ctx
  match m.answer with
  | .error code => refuseContribution w ctx contributionId s r grantId code m.elapsed
  | .ok (value, size) => finishContributionFile w ctx contributionId s r grantId value size

/-- One request of a contribution. -/
def serveContribution (contributionId : CapabilityId) (s : ContributionCallSession) (handleId permission operation : String) (args : Json) :
    BrokerM (ContributionCallSession × GuestStep) :=
  if permission ≠ "project.fs.read" ∨ operation ≠ "project.fs.read" then resumeContributionError w ctx s "operation_not_available"
  else
    match w.decodeFileRequest args with
    | none => resumeContributionError w ctx s "invalid_arguments"
    | some request => do
      let a ← admitRequest w ctx (ContributionCallSession.pluginId s) handleId .projectFsRead
        (.projectFsRead request.projectRelativePath request.maxBytes) none "contribution host disappeared before file admission"
      match a.outcome, a.grantId with
      | .denied error, _ => denyContribution w ctx contributionId s a.revalidation (grantErrorCode error)
      | .allowed, none => throw (.lapsed "admitted contribution handle has no durable grant identity")
      | .allowed, some grantId => serveAdmittedContribution w ctx contributionId s a.revalidation grantId

/-- The loop of a contribution's call. -/
def contributionLoop (contributionId : CapabilityId) : Nat → ContributionCallSession → GuestStep → BrokerM ContributionCallOutcome
  | _, s, .complete callId result => finishContribution w ctx s (.complete callId result)
  | _, s, .error callId code => finishContribution w ctx s (.error callId code)
  | 0, _, .brokerRequest _ _ _ _ _ => throw (.failed "the host lets no further request through")
  | fuel + 1, s, .brokerRequest _ handleId permission operation args => do
    let (s, step) ← serveContribution w ctx contributionId s handleId permission operation args
    contributionLoop contributionId fuel s step

/-- The check of the origin against the kind of the contribution. -/
def checkOrigin (contributionId : CapabilityId) (origin : ContributionInvocationOrigin) : BrokerM Unit := do
  let _ ← enter w ctx
  match (← get).contributions.get ctx.projectScopeId contributionId with
  | none => throw (.failed "Agent contribution is not published for this project")
  | some record =>
    if record.contribution.kind = ContributionInvocationOrigin.kind origin then pure ()
    else throw (.failed "contribution kind does not match its trusted invocation origin")

/-- `invoke_file_contribution_inner`. -/
def invokeFileContributionInner (contributionId : CapabilityId) (origin : ContributionInvocationOrigin) (input : Json) :
    BrokerM ContributionCallOutcome := do
  checkOrigin w ctx contributionId origin
  let (s, step) ← beginContribution w ctx contributionId origin input
  contributionLoop w ctx contributionId maxGuestBrokerSteps s step

/-- The host that a contribution is called at. -/
def contributionCrashIdentity (contributionId : CapabilityId) : BrokerM (Option CrashIdentity) := do
  let _ ← enter w ctx
  let b ← get
  return (b.contributions.get ctx.projectScopeId contributionId).bind fun record =>
    (b.active record.pluginId.value).map fun a => ⟨record.pluginId.value, a.host.identity.hostInstanceId, record.packageDigest⟩

/-- `invoke_file_contribution`. -/
def invokeFileContribution (contributionId : CapabilityId) (origin : ContributionInvocationOrigin) (input : Json) :
    BrokerM ContributionCallOutcome := do
  let identity ← contributionCrashIdentity w ctx contributionId
  watchingCrashes w ctx identity (invokeFileContributionInner w ctx contributionId origin input)

/-! ## Any call -/

/-- A call of a plugin, as the registry is asked for it. -/
inductive PluginCall where
  | file (pluginId : String) (requestId : HostRequestId) (request : Json)
  | network (pluginId : String) (requestId : HostRequestId) (request : Json)
  | workspace (pluginId : String) (requestId : HostRequestId) (request : Json)
  | contribution (contributionId : CapabilityId) (origin : ContributionInvocationOrigin) (input : Json)

def PluginCall.run : PluginCall → BrokerM Unit
  | .file pluginId requestId request => do let _ ← invokePlugin w ctx pluginId requestId request
  | .network pluginId requestId request => do let _ ← invokeNetworkPlugin w ctx pluginId requestId request
  | .workspace pluginId requestId request => do let _ ← invokeWorkspacePlugin w ctx pluginId requestId request
  | .contribution contributionId origin input => do let _ ← invokeFileContribution w ctx contributionId origin input

end Calls

end Rho.PluginBroker
