import Rho.Desktop.PluginAuthority
import Rho.Extension.ContributionCall
import Rho.Server.PluginNetwork

/-!
# The broker of workspace plugins

`workspace_plugins.rs`: what the calls of a plugin share. A call takes the registry's lock again and again and reads the store in
between; whatever a user does meanwhile is done before one of these accesses. Each access has its moment: what was done before it, what
the clocks read, whether the store fails, and what the guest and the world outside answer. A call leaves with a result, with an error
after it has put its things in order, or with an error that a `?` hands on as it stands.
-/

namespace Rho.PluginBroker

open Effect PluginPermission

/-! ## The registry -/

/-- `PluginRuntimeContext`. -/
structure RuntimeContext extends PluginRegistry.PluginContext where
  projectScopeId : ScopeId
  workspace : Option WorkspaceGrantIdentity
  deriving DecidableEq

/-- A runtime of the active set with its handles by their durable grants. -/
structure Runtime extends PluginRegistry.ActivePlugin where
  handles : List (String × CapabilityHandle)
  deriving DecidableEq

/-- The handles of a runtime by their permissions. -/
def Runtime.suppliedHandles (a : Runtime) : SuppliedHandles where
  entries := OrdMap.ofList (a.handles.map fun e => (e.2.permission.asStaticStr, e.2.id))
  sorted := OrdMap.sorted_ofList _

/-- The active set of one project by plugin ids, the published contributions, the live grants and the records of the store, the
durable grants for which a request was handed to the transport, and how many accesses there were. -/
structure Broker where
  active : String → Option Runtime
  contributions : ContributionStore
  grants : GrantStore
  permissions : PermissionDb
  dispatched : List String
  position : Nat

/-- The host of a runtime, with its state after an operation. -/
def Broker.putHost (b : Broker) (pluginId : String) (a : Runtime) (host : WasmPluginHost) : Broker :=
  { b with active := Function.update b.active pluginId (some { a with host := host }) }

/-- `remove_active_plugin`. -/
def Broker.removeActive (b : Broker) (pluginId : String) (now : Nat) : Broker :=
  match b.active pluginId with
  | none => b
  | some a =>
    { b with
      active := Function.update b.active pluginId none
      contributions := (a.contributionIdentity.map fun identity => b.contributions.clearInstance identity).getD b.contributions
      grants := (b.grants.invalidateHost a.host.identity.hostInstanceId now).2 }

/-! ## What surrounds a call -/

structure ProjectFsReadRequest where
  projectRelativePath : String
  maxBytes : Nat
  deriving DecidableEq

inductive WorkspaceInspectOperation where
  | metadata | preview
  deriving DecidableEq

/-- What other crates compute. -/
structure Library (F : Type) where
  num : Numbers F
  wasm : WasmCrates
  crates : Crates
  network : NetworkLibrary
  sha256 : String → String
  decodeFileRequest : Json → Option ProjectFsReadRequest
  decodeNetworkRequest : Json → Option NetworkFetchRequest
  decodeInspectRequest : Json → Option WorkspaceInspectOperation

/-- A package that is to be enabled: its module in Wasm, and the handles that are minted for its host. -/
structure Candidate where
  packageDigest : String
  identity : WasmHostIdentity
  runtime : WasmRuntime
  contributionIdentity : Option ContributionInstanceIdentity
  minted : List (GrantRequest × Vector UInt8 32)

/-- What a user may do between two accesses. A revocation has two parts, in the store and in the registry. -/
inductive UserAction where
  | revokeDurable (grantId : String)
  | revokeLive (grantId : String)
  | disable (pluginId : String)
  | enable (pluginId : String) (candidate : Candidate) (contributions : ContributionStore)

/-- One access: what is done before it, the clocks of the handles and of the store, the milliseconds since a dispatch, whether the
store fails, the guest, the answer of a file or of a dispatcher with its size or its error, whether the workspace is the one of the
call, and the answers of a resolver and a transport. -/
structure Moment where
  actions : List UserAction
  millis : Nat
  instant : Int
  elapsed : Nat
  fault : Option String
  env : CallEnv
  answer : Except String (Json × Nat)
  sameWorkspace : Bool
  resolved : Option (Except NetworkFetchError (List IpAddr))
  sent : Option (Except NetworkFetchError NetworkTransportResponse)

structure Surroundings (F : Type) extends Library F where
  uuid : Nat → String
  moments : Nat → Moment

/-- How a call leaves without a result: having put its things in order, or not. -/
inductive Exit where
  | failed (message : String)
  | lapsed (message : String)
  deriving DecidableEq

def Exit.message : Exit → String
  | .failed message | .lapsed message => message

/-- The same way out with the message of an error on it. -/
def Exit.withMessage (message : String) : Exit → Exit
  | .failed _ => .failed message
  | .lapsed _ => .lapsed message

abbrev BrokerM := EStateM Exit Broker

section Calls

variable {F : Type} [LinearOrder F] (w : Surroundings F) (ctx : RuntimeContext)

/-! ## Users -/

/-- The host of a candidate, once it has answered the handshake and its activation. -/
def startHost (m : Moment) (c : Candidate) : Option WasmPluginHost :=
  match WasmPluginHost.handleFrame m.env.operation ⟨c.identity.hostInstanceId, .hello hostProtocolVersion⟩
      (WasmPluginHost.fromRuntime c.identity c.runtime) with
  | .ok (some (.ready _)) host =>
    match WasmPluginHost.handleFrame m.env.operation ⟨c.identity.hostInstanceId, .activate⟩ host with
    | .ok (some .activated) host => some host
    | .ok _ _ | .error _ _ => none
  | .ok _ _ | .error _ _ => none

/-- A handle is minted with its event, under the lock; where either fails, the host's handles are invalidated. -/
def mintHandle (m : Moment) (c : Candidate) (request : GrantRequest) (token : Vector UInt8 32) (b : Broker) :
    Option CapabilityHandle × Broker :=
  match b.grants.grant w.sha256 request m.millis token with
  | (.error _, grants) => (none, { b with grants := (grants.invalidateHost c.identity.hostInstanceId m.millis).2 })
  | (.ok handle, grants) =>
    match b.permissions.recordCallEvent w.crates m.instant w.uuid
        { projectRoot := ctx.projectRoot, pluginId := c.identity.pluginId.value, packageDigest := c.packageDigest,
          grantId := some request.durableGrantId, eventType := "handle_minted", status := "completed", reasonCode := none,
          detailsJson := Json.toText (.obj [("operation", .str request.permission.asStaticStr)]) } false with
    | .error _ => (none, { b with grants := (grants.invalidateHost c.identity.hostInstanceId m.millis).2 })
    | .ok (_, permissions) => (some handle, { b with grants := grants, permissions := permissions })

/-- The handles of a candidate, unless one cannot be minted. -/
def mintHandles (m : Moment) (c : Candidate) :
    List (GrantRequest × Vector UInt8 32) → Broker → Option (List (String × CapabilityHandle)) × Broker
  | [], b => (some [], b)
  | (request, token) :: rest, b =>
    match mintHandle w ctx m c request token b with
    | (none, b) => (none, b)
    | (some handle, b) =>
      match mintHandles m c rest b with
      | (none, b) => (none, b)
      | (some handles, b) => (some ((request.durableGrantId, handle) :: handles), b)

/-- A candidate becomes the active runtime of a plugin that has none. -/
def Broker.enable (b : Broker) (m : Moment) (pluginId : String) (c : Candidate) (contributions : ContributionStore) : Broker :=
  match b.active pluginId, startHost m c with
  | none, some host =>
    match mintHandles w ctx m c c.minted b with
    | (none, b) => b
    | (some handles, b) =>
      { b with
        active := Function.update b.active pluginId
          (some ⟨⟨ctx.projectRoot, c.packageDigest, host, c.contributionIdentity⟩, handles⟩)
        contributions := contributions }
  | _, _ => b

def UserAction.apply (m : Moment) (b : Broker) : UserAction → Broker
  | .revokeDurable grantId =>
    match b.permissions.revokeGrant w.crates m.instant w.uuid ctx.projectRoot grantId "user_revoked" with
    | .ok (_, permissions) => { b with permissions := permissions }
    | .error _ => b
  | .revokeLive grantId =>
    { b with
      grants := (b.grants.revokeDurableGrant grantId m.millis).2
      active := fun pluginId => (b.active pluginId).map fun a => { a with handles := a.handles.filter fun e => e.1 ≠ grantId } }
  | .disable pluginId => b.removeActive pluginId m.millis
  | .enable pluginId c contributions => b.enable w ctx m pluginId c contributions

/-- What a user does before the next access is done. -/
def Broker.tick (b : Broker) : Broker :=
  (w.moments b.position).actions.foldl (UserAction.apply w ctx (w.moments b.position)) { b with position := b.position + 1 }

/-- An access. -/
def enter : BrokerM Moment := do
  let b ← get
  set (b.tick w ctx)
  return w.moments b.position

end Calls

end Rho.PluginBroker
