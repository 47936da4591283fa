import Rho.Extension.Model
import Rho.Lib.Run
import Rho.Lib.Table
import Rho.Server.Bridge

/-!
# Permission grants and handles

`grant.rs`: the broker issues an opaque handle for a decision, keeps the grant under the digest of the handle and revalidates
every privileged call against it. Each operation of the store reads the clock at most once; a call carries that reading, and the
readings of a run need not be in order. The digest function is a parameter: the store compares digests and looks them up, and
nothing else of it matters. A plugin's version is kept by no decision and left out.
-/

namespace Rho

/-! ## Permissions and their constraints -/

inductive PermissionKind where
  | projectFsRead | workspaceRInspect | networkFetch
  deriving DecidableEq, Repr

def PermissionKind.asStaticStr : PermissionKind → String
  | .projectFsRead => "project.fs.read"
  | .workspaceRInspect => "workspace.r.inspect"
  | .networkFetch => "network.fetch"

inductive GrantSource where
  | allowOnce | project
  deriving DecidableEq, Repr

inductive RuntimeKind where
  | webWorker | wasm
  deriving DecidableEq, Repr

structure PermissionConstraints where
  paths : List String := []
  operations : List String := []
  schemes : List String := []
  hosts : List String := []
  methods : List String := []
  maxBytes : Option Nat := none
  maxResponseBytes : Option Nat := none
  deriving DecidableEq, Repr

namespace PermissionConstraints

/-- A list field, skipped when it is empty. -/
def listField (name : String) (values : List String) : List (String × Json) :=
  if values.isEmpty then [] else [(name, .arr (values.map .str))]

/-- A bound, skipped when there is none. -/
def boundField (name : String) (bound : Option Nat) : List (String × Json) :=
  match bound with
  | none => []
  | some n => [(name, .int n)]

/-- The constraints as a JSON object, its keys in order. -/
def canonicalJson (c : PermissionConstraints) : String :=
  Json.toText (.obj (listField "hosts" c.hosts ++ boundField "maxBytes" c.maxBytes ++
    boundField "maxResponseBytes" c.maxResponseBytes ++ listField "methods" c.methods ++
    listField "operations" c.operations ++ listField "paths" c.paths ++ listField "schemes" c.schemes))

end PermissionConstraints

/-- The use of a permission that one call asks for. -/
inductive PermissionUse where
  | projectFsRead (relativePath : String) (requestedBytes : Nat)
  | workspaceRInspect (operation : String) (requestedBytes : Nat)
  | networkFetch (scheme host method : String) (requestedResponseBytes : Nat)
  deriving DecidableEq, Repr

def validRelativePattern (path : String) : Bool :=
  !path.isEmpty && path.toList.head? != some '/' && path.toList.head? != some '\\' && !path.toList.contains ':' &&
    !(pathSegments path.toList).contains ['.', '.']

-- With the backslash excluded the segments between slashes of either kind are those between `/`.
def validRelativePath (path : String) : Bool :=
  validRelativePattern path && !path.toList.contains '\\' &&
    !(pathSegments path.toList).any (fun component => component.isEmpty || component == ['.'])

/-- `str::strip_prefix("*.")`. -/
def wildcardSuffix (host : List Char) : Option (List Char) :=
  match host with
  | '*' :: '.' :: suffix => some suffix
  | _ => none

def validHostPattern (host : List Char) : Bool :=
  let domain := (wildcardSuffix host).getD host
  !domain.isEmpty && domain.contains '.' && domain.head? != some '.' && domain.getLast? != some '.' && !domain.contains '*' &&
    domain.all (fun c => c.isLower || c.isDigit || c == '.' || c == '-')

/-- A pattern with a wildcard matches a host that has further labels in front of its suffix. -/
def hostMatches (pattern host : List Char) : Bool :=
  if !validHostPattern pattern || !validHostPattern host || (wildcardSuffix host).isSome then false
  else
    match wildcardSuffix pattern with
    | some suffix => decide (suffix.length < host.length) && host.drop (host.length - suffix.length - 1) == '.' :: suffix
    | none => pattern == host

/-- The bytes of a string. -/
def utf8Bytes (s : String) : List UInt8 := s.toList.flatMap String.utf8EncodeChar

/-- `visit`, with the pairs of positions it has been at. The fuel bounds the sum of the two positions, which every call raises. -/
def globVisit (pattern value : List UInt8) :
    (fuel patternIndex valueIndex : Nat) → List (Nat × Nat) → Bool × List (Nat × Nat)
  | 0, _, _, seen => (false, seen)
  | fuel + 1, p, v, seen =>
    if (p, v) ∈ seen then (false, seen)
    else
      let seen := (p, v) :: seen
      match (pattern)[p]? with
      | none => (v == value.length, seen)
      | some c =>
        if c = 42 then
          let double := (pattern)[p + 1]? == some 42
          let next := p + if double then 2 else 1
          let skipped := globVisit pattern value fuel next v seen
          if skipped.1 then skipped
          else
            -- `**/` also matches no directory at all.
            let slash := if double && (pattern)[next]? == some 47 then globVisit pattern value fuel (next + 1) v skipped.2 else skipped
            if slash.1 then slash
            else
              match (value)[v]? with
              | none => (false, slash.2)
              | some b => if double || b != 47 then globVisit pattern value fuel p (v + 1) slash.2 else (false, slash.2)
        else
          match (value)[v]? with
          | none => (false, seen)
          | some b =>
            let any := if c = 63 ∧ b ≠ 47 then globVisit pattern value fuel (p + 1) (v + 1) seen else (false, seen)
            if any.1 then any
            else if c = b then globVisit pattern value fuel (p + 1) (v + 1) any.2
            else (false, any.2)

def globMatches (pattern value : String) : Bool :=
  let pattern := utf8Bytes pattern
  let value := utf8Bytes value
  (globVisit pattern value (pattern.length + value.length + 1) 0 0 []).1

/-- `permission_use_allowed`. -/
def permissionUseAllowed (permission : PermissionKind) (constraints : PermissionConstraints) (use : PermissionUse) : Bool :=
  match permission, use with
  | .projectFsRead, .projectFsRead relativePath requestedBytes =>
    validRelativePath relativePath && constraints.paths.any (fun pattern => globMatches pattern relativePath) &&
      constraints.maxBytes.any (fun maximum => decide (requestedBytes ≤ maximum))
  | .workspaceRInspect, .workspaceRInspect operation requestedBytes =>
    constraints.operations.contains operation && constraints.maxBytes.any (fun maximum => decide (requestedBytes ≤ maximum))
  | .networkFetch, .networkFetch scheme host method requestedResponseBytes =>
    constraints.schemes.contains scheme && constraints.hosts.any (fun allowed => hostMatches allowed.toList host.toList) &&
      constraints.methods.contains method &&
      constraints.maxResponseBytes.any (fun maximum => decide (requestedResponseBytes ≤ maximum))
  | _, _ => false

/-- `validate_constraints`. -/
def validateConstraints (permission : PermissionKind) (c : PermissionConstraints) : Except String Unit :=
  let valid := match permission with
    | .projectFsRead =>
      !c.paths.isEmpty && c.operations.isEmpty && c.schemes.isEmpty && c.hosts.isEmpty && c.methods.isEmpty &&
        c.maxBytes.any (fun value => decide (0 < value)) && c.maxResponseBytes.isNone && c.paths.all validRelativePattern
    | .workspaceRInspect =>
      c.paths.isEmpty && !c.operations.isEmpty && c.schemes.isEmpty && c.hosts.isEmpty && c.methods.isEmpty &&
        c.maxBytes.any (fun value => decide (0 < value)) && c.maxResponseBytes.isNone
    | .networkFetch =>
      c.paths.isEmpty && c.operations.isEmpty && !c.schemes.isEmpty && !c.hosts.isEmpty && !c.methods.isEmpty &&
        c.maxBytes.isNone && c.maxResponseBytes.any (fun value => decide (0 < value)) && c.schemes.all (· == "https") &&
        c.hosts.all (fun host => validHostPattern host.toList) && c.methods.all (fun m => m == "GET" || m == "HEAD")
  if valid then .ok () else .error ("invalid constraints for permission " ++ permission.asStaticStr)

/-! ## Grants -/

abbrev HostInstanceId := String
abbrev PackageDigest := String

structure WorkspaceGrantIdentity where
  workspaceId : String
  kernelInstanceId : String
  stateRevision : Nat
  projectRevision : Nat
  deriving DecidableEq, Repr

/-- What a grant is asked for with. -/
structure GrantRequest where
  durableGrantId : String
  normalizedProjectRoot : String
  pluginId : PluginId
  runtimeKind : RuntimeKind
  hostInstanceId : HostInstanceId
  packageDigest : PackageDigest
  projectId : ScopeId
  scopeId : ScopeId
  activationGeneration : ActivationGeneration
  permission : PermissionKind
  constraints : PermissionConstraints
  constraintsDigest : String
  grantSource : GrantSource
  policyRevision : Nat
  workspace : Option WorkspaceGrantIdentity
  expiresAtMillis : Nat
  deriving DecidableEq

/-- The broker's record of a grant. -/
structure PluginGrant extends GrantRequest where
  handleDigest : String
  createdAtMillis : Nat
  revokedAtMillis : Option Nat := none
  used : Bool := false
  inFlight : Bool := false
  deriving DecidableEq

def PluginGrant.consumed (g : PluginGrant) (now : Nat) : Bool := g.used || decide (g.expiresAtMillis ≤ now)

def PluginGrant.isActive (g : PluginGrant) (now : Nat) : Bool := g.revokedAtMillis.isNone && !g.consumed now

/-- What the plugin gets. -/
structure CapabilityHandle where
  id : String
  permission : PermissionKind
  scopeId : ScopeId
  expiresAtMillis : Option Nat
  deriving DecidableEq

/-- What a privileged call is revalidated with. -/
structure RevalidationRequest where
  handleId : String
  pluginId : PluginId
  hostInstanceId : HostInstanceId
  packageDigest : PackageDigest
  projectId : ScopeId
  scopeId : ScopeId
  generation : ActivationGeneration
  permission : PermissionKind
  permissionUse : PermissionUse
  workspace : Option WorkspaceGrantIdentity
  deriving DecidableEq

inductive GrantErrorKind where
  | unknownHandle | revoked | expired | consumed | inFlight | notAdmitted | wrongPlugin | wrongHostSession | wrongProject
  | wrongScope | wrongGeneration | wrongPackageDigest | wrongPermission | wrongWorkspace | constraintViolation
  deriving DecidableEq, Repr

inductive Revalidation where
  | allowed
  | denied (error : GrantErrorKind)
  deriving DecidableEq, Repr

inductive CompletionClass where
  | success | failureBeforeDispatch | uncertain
  deriving DecidableEq, Repr

namespace PluginGrant

def revokeAt (g : PluginGrant) (now : Nat) : PluginGrant := { g with revokedAtMillis := some now }

/-- An admission reserves an `allow once` grant. -/
def reserve (g : PluginGrant) : PluginGrant := { g with inFlight := true }

/-- What a completion makes of a grant. -/
def complete (g : PluginGrant) (completion : CompletionClass) : PluginGrant :=
  { g with inFlight := false, used := g.used || decide (completion ≠ .failureBeforeDispatch) }

theorem revokeAt_handleDigest (now : Nat) (g : PluginGrant) : (g.revokeAt now).handleDigest = g.handleDigest := rfl

theorem reserve_handleDigest (g : PluginGrant) : g.reserve.handleDigest = g.handleDigest := rfl

theorem complete_handleDigest (completion : CompletionClass) (g : PluginGrant) :
    (g.complete completion).handleDigest = g.handleDigest := rfl

end PluginGrant

/-- `revalidation_error`: the first reason against a call, for an admission or for a call that has been admitted. -/
def revalidationError (g : PluginGrant) (request : RevalidationRequest) (now : Nat) (admitted : Bool) : Option GrantErrorKind :=
  if g.revokedAtMillis.isSome then some .revoked
  else if g.expiresAtMillis ≤ now then some .expired
  else if g.used then some .consumed
  else if admitted && decide (g.grantSource = .allowOnce) && !g.inFlight then some .notAdmitted
  else if !admitted && g.inFlight then some .inFlight
  else if g.pluginId ≠ request.pluginId then some .wrongPlugin
  else if g.hostInstanceId ≠ request.hostInstanceId then some .wrongHostSession
  else if g.projectId ≠ request.projectId then some .wrongProject
  else if g.scopeId ≠ request.scopeId then some .wrongScope
  else if g.activationGeneration ≠ request.generation then some .wrongGeneration
  else if g.packageDigest ≠ request.packageDigest then some .wrongPackageDigest
  else if g.permission ≠ request.permission then some .wrongPermission
  else if g.workspace ≠ request.workspace then some .wrongWorkspace
  else if !permissionUseAllowed g.permission g.constraints request.permissionUse then some .constraintViolation
  else none

/-- `valid_opaque_id`: the grammar of identifiers. -/
def validOpaqueId (value : String) : Bool := (validateIdentifier value).isNone

/-- The identity of a workspace can be stored. -/
def WorkspaceGrantIdentity.valid (identity : WorkspaceGrantIdentity) : Bool :=
  !identity.workspaceId.isEmpty && decide (identity.workspaceId.utf8ByteSize ≤ 256) && !identity.kernelInstanceId.isEmpty &&
    decide (identity.kernelInstanceId.utf8ByteSize ≤ 256) &&
    !(identity.workspaceId.toList ++ identity.kernelInstanceId.toList).any isControl

def workspaceShapeValid (permission : PermissionKind) (workspace : Option WorkspaceGrantIdentity) : Bool :=
  match permission with
  | .workspaceRInspect => workspace.isSome
  | .projectFsRead | .networkFetch => workspace.isNone

def maxAllowOnceTtl : Nat := 5 * 60 * 1000
def maxProjectGrantTtl : Nat := 30 * 24 * 60 * 60 * 1000

def GrantSource.maximumTtl : GrantSource → Nat
  | .allowOnce => maxAllowOnceTtl
  | .project => maxProjectGrantTtl

section Digest

variable (sha256 : String → String)

/-- `validate_grant_request`. -/
def validateGrantRequest (r : GrantRequest) : Except String Unit :=
  if !validOpaqueId r.durableGrantId then .error "durable grant id is invalid"
  else if (trim r.normalizedProjectRoot).isEmpty || r.normalizedProjectRoot == "legacy_unscoped" ||
      r.normalizedProjectRoot.toList.contains '\\' then
    .error "grant requires an explicit normalized project root"
  else if r.runtimeKind ≠ .wasm then .error "live plugin grants require the Wasm runtime"
  else if r.projectId ≠ r.scopeId then .error "initial plugin grants must use the exact project scope"
  else if r.policyRevision = 0 then .error "grant policy revision must be positive"
  else if sha256 r.constraints.canonicalJson ≠ r.constraintsDigest then
    .error "grant constraints digest does not match canonical constraints"
  else if !workspaceShapeValid r.permission r.workspace then
    .error "grant Workspace identity does not match its permission"
  else if !r.workspace.all WorkspaceGrantIdentity.valid then .error "grant Workspace identity is invalid"
  else .ok ()

/-- The checks of a request against the clock. -/
def checkGrantExpiry (r : GrantRequest) (now : Nat) : Except String Unit :=
  if r.expiresAtMillis ≤ now then .error "grant expiry must be in the future"
  else if r.grantSource.maximumTtl < r.expiresAtMillis - now then .error "grant expiry exceeds its source policy"
  else .ok ()

def hexEncode (bytes : List UInt8) : String :=
  String.ofList (bytes.flatMap (fun b => [Json.hexDigit (b.toNat / 16), Json.hexDigit (b.toNat % 16)]))

/-! ## The store -/

/-- The grants by the digest of their handle, and the handle last issued for a durable decision. -/
structure GrantStore where
  grants : Table PluginGrant.handleDigest
  durableHandles : String → Option String

namespace GrantStore

def new : GrantStore := ⟨Table.empty _, fun _ => none⟩

def hasLiveDurableGrant (s : GrantStore) (durableGrantId : String) (now : Nat) : Bool :=
  ((s.durableHandles durableGrantId).bind s.grants.get).any (fun g => g.isActive now)

/-- `grant`: refused while the handle last issued for the decision is active; else that handle is forgotten and a new one is
issued. A token that has been used leaves the decision without a handle. -/
def grant (s : GrantStore) (request : GrantRequest) (now : Nat) (token : Vector UInt8 32) :
    Except String CapabilityHandle × GrantStore :=
  match (do validateConstraints request.permission request.constraints
            validateGrantRequest sha256 request
            checkGrantExpiry request now) with
  | .error reason => (.error reason, s)
  | .ok () =>
    if s.hasLiveDurableGrant request.durableGrantId now then (.error "durable grant already has a live handle", s)
    else
      let handleId := "handle." ++ hexEncode token.toList
      let handleDigest := sha256 handleId
      match s.grants.insert { request with handleDigest := handleDigest, createdAtMillis := now } with
      | none =>
        (.error "handle token source produced a duplicate token",
          { s with durableHandles := Function.update s.durableHandles request.durableGrantId none })
      | some grants =>
        (.ok ⟨handleId, request.permission, request.scopeId, some request.expiresAtMillis⟩,
          ⟨grants, Function.update s.durableHandles request.durableGrantId (some handleDigest)⟩)

/-- `BTreeMap::get_mut` and an edit of the grant found. -/
def edit (s : GrantStore) (handleDigest : String) (f : PluginGrant → PluginGrant) (hf : ∀ g, (f g).handleDigest = g.handleDigest) :
    GrantStore :=
  { s with grants := s.grants.update (fun g => g.handleDigest = handleDigest) f hf }

def revoke (s : GrantStore) (handleId : String) (now : Nat) : Bool × GrantStore :=
  match s.grants.get (sha256 handleId) with
  | some _ => (true, s.edit (sha256 handleId) (·.revokeAt now) (PluginGrant.revokeAt_handleDigest now))
  | none => (false, s)

def revokeDurableGrant (s : GrantStore) (durableGrantId : String) (now : Nat) : Bool × GrantStore :=
  match s.durableHandles durableGrantId with
  | none => (false, s)
  | some handleDigest =>
    match s.grants.get handleDigest with
    | none => (false, s)
    | some _ => (true, s.edit handleDigest (·.revokeAt now) (PluginGrant.revokeAt_handleDigest now))

/-- The loop of the three `invalidate` functions over the grants of a project, a host or a workspace. -/
def invalidate (s : GrantStore) (p : PluginGrant → Bool) (now : Nat) : Nat × GrantStore :=
  let selected : PluginGrant → Bool := fun g => p g && g.revokedAtMillis.isNone
  (s.grants.changed selected, { s with grants := s.grants.update selected (·.revokeAt now) (PluginGrant.revokeAt_handleDigest now) })

def invalidateProject (s : GrantStore) (normalizedProjectRoot : String) (now : Nat) : Nat × GrantStore :=
  s.invalidate (fun g => g.normalizedProjectRoot == normalizedProjectRoot) now

def invalidateHost (s : GrantStore) (hostInstanceId : HostInstanceId) (now : Nat) : Nat × GrantStore :=
  s.invalidate (fun g => g.hostInstanceId == hostInstanceId) now

def invalidateWorkspace (s : GrantStore) (workspace : WorkspaceGrantIdentity) (now : Nat) : Nat × GrantStore :=
  s.invalidate (fun g => g.workspace == some workspace) now

/-- `revalidate`: an `allow once` grant is reserved by the call it admits. -/
def revalidate (s : GrantStore) (request : RevalidationRequest) (now : Nat) : Revalidation × GrantStore :=
  match s.grants.get (sha256 request.handleId) with
  | none => (.denied .unknownHandle, s)
  | some g =>
    match revalidationError g request now false with
    | some error => (.denied error, s)
    | none =>
      if g.grantSource = .allowOnce then
        (.allowed, s.edit (sha256 request.handleId) PluginGrant.reserve PluginGrant.reserve_handleDigest)
      else (.allowed, s)

/-- `revalidate_admitted`: the call is checked once more before its result is shown. -/
def revalidateAdmitted (s : GrantStore) (request : RevalidationRequest) (now : Nat) : Revalidation :=
  match s.grants.get (sha256 request.handleId) with
  | none => .denied .unknownHandle
  | some g =>
    match revalidationError g request now true with
    | some error => .denied error
    | none => .allowed

/-- `complete`: only an `allow once` grant that is reserved has something to complete. -/
def complete (s : GrantStore) (handleId : String) (completion : CompletionClass) : Bool × GrantStore :=
  match s.grants.get (sha256 handleId) with
  | none => (false, s)
  | some g =>
    if g.grantSource ≠ .allowOnce ∨ g.inFlight = false then (false, s)
    else (true, s.edit (sha256 handleId) (·.complete completion) (PluginGrant.complete_handleDigest completion))

def hasLiveHandle (s : GrantStore) (handleId : String) (now : Nat) : Bool :=
  (s.grants.get (sha256 handleId)).any (fun g => g.isActive now)

/-! ## Calls -/

end GrantStore

inductive GrantOp where
  | grant (request : GrantRequest) (token : Vector UInt8 32)
  | revoke (handleId : String)
  | revokeDurableGrant (durableGrantId : String)
  | invalidateProject (normalizedProjectRoot : String)
  | invalidateHost (hostInstanceId : HostInstanceId)
  | invalidateWorkspace (workspace : WorkspaceGrantIdentity)
  | revalidate (request : RevalidationRequest)
  | revalidateAdmitted (request : RevalidationRequest)
  | complete (handleId : String) (completion : CompletionClass)
  | hasLiveDurableGrant (durableGrantId : String)
  | hasLiveHandle (handleId : String)

/-- A call of an operation with what the clock reads. -/
structure GrantCall where
  now : Nat
  op : GrantOp

inductive GrantAnswer where
  | granted (result : Except String CapabilityHandle)
  | done (result : Bool)
  | invalidated (count : Nat)
  | revalidation (outcome : Revalidation)

namespace GrantStore

/-- What a call answers and what it makes of the store. -/
def serve (s : GrantStore) (call : GrantCall) : GrantAnswer × GrantStore :=
  match call.op with
  | .grant request token => (s.grant sha256 request call.now token).map .granted id
  | .revoke handleId => (s.revoke sha256 handleId call.now).map .done id
  | .revokeDurableGrant durableGrantId => (s.revokeDurableGrant durableGrantId call.now).map .done id
  | .invalidateProject root => (s.invalidateProject root call.now).map .invalidated id
  | .invalidateHost host => (s.invalidateHost host call.now).map .invalidated id
  | .invalidateWorkspace workspace => (s.invalidateWorkspace workspace call.now).map .invalidated id
  | .revalidate request => (s.revalidate sha256 request call.now).map .revalidation id
  | .revalidateAdmitted request => (.revalidation (s.revalidateAdmitted sha256 request call.now), s)
  | .complete handleId completion => (s.complete sha256 handleId completion).map .done id
  | .hasLiveDurableGrant durableGrantId => (.done (s.hasLiveDurableGrant durableGrantId call.now), s)
  | .hasLiveHandle handleId => (.done (s.hasLiveHandle sha256 handleId call.now), s)

def step (s : GrantStore) (call : GrantCall) : GrantStore := (s.serve sha256 call).2

def event (s : GrantStore) (call : GrantCall) : GrantCall × GrantAnswer := (call, (s.serve sha256 call).1)

/-- The calls of a run with their answers. -/
def events (trace : List GrantCall) : List (GrantCall × GrantAnswer) :=
  Run.outputs (step sha256) (event sha256) new trace

end GrantStore

end Digest

end Rho
