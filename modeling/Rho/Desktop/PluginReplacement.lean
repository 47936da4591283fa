import Rho.Desktop.PluginAuthority

/-!
# The replacement of a plugin's package

An update, a rollback and the approval that completes one of them. Each asks the journal for a transition, advances it from phase to
phase, prepares a candidate, quiesces the host of the old package, publishes the candidate's contributions, makes it the active
runtime and completes the transition; at the end the grants of the old package are revoked. What the steps find outside of the
registry comes with the call, and so does what permission planning asks for.
-/

namespace Rho.PluginRegistry

open Effect PluginPermission

/-- `POLICY_REVISION`. -/
def policyRevision : Int := 1

structure UpdateInput where
  pluginId : String
  expectedOldDigest : String
  candidateDigest : String
  expectedProjectRevision : Int
  deriving DecidableEq

structure RollbackInput where
  pluginId : String
  expectedCurrentDigest : String
  rollbackDigest : String
  expectedProjectRevision : Int
  deriving DecidableEq

/-- A package as it is found in the project or in the cache. -/
structure FoundPlugin where
  pluginId : String
  version : String
  digest : String
  deriving DecidableEq

/-- What an operation finds: the package of the project, the row of the plugin, the cached package, the requests that are planned and
the number of grants that can be reused, the candidate with its handles, and what the journal answers to the completion. -/
structure Findings where
  discovered : Except String FoundPlugin
  lifecycle : Except String (Option PluginLifecycle.PluginState)
  cached : Except String FoundPlugin
  requests : List RequestDraft
  requestIds : List String
  reusable : Nat
  candidate : ActivePlugin
  handles : List CallEventDraft
  completion : PluginLifecycle.Outcome

structure EnableResult where
  status : String
  requestIds : List String
  activeGrantCount : Nat
  deriving DecidableEq

variable (s : Surroundings) (ctx : PluginContext) (f : Findings)

/-! ## Activation -/

/-- The handles of the candidate, each with the event that tells of it. -/
def mintHandles : List CallEventDraft → PermissionM Unit
  | [] => pure ()
  | d :: rest => do
    let _ ← access s (.mintHandle d.grantId) (fun now db => db.recordCallEvent s.crates now s.uuid d false)
    mintHandles rest

/-- `prepare_plugin_activation`, of a cached package that takes the place of an instance or of none. -/
def prepareActivation (plugin cached : FoundPlugin) (expectedOld : Option ContributionInstanceIdentity) : RegistryM Unit := do
  ofResult (ensure (cached == plugin) "cached plugin package identity does not match the activation candidate")
  attempt (s.fault .readState)
  attempt (s.fault .allocateGeneration)
  advanceTransition s .grantsReady .running
  attempt (s.fault .startHost)
  attempt (s.fault .stageContributions)
  ofResult (ensure ((← get).published == expectedOld) "plugin contribution replacement expectation is stale")
  onPermissions (mintHandles s f.handles)

/-- The old host answers the cancellation of its pending call. -/
def cancelOldCall (host : WasmPluginHost) : Except String WasmPluginHost × WasmPluginHost :=
  match host.brokerCall with
  | none => (.ok host, host)
  | some call =>
    match WasmPluginHost.cancelBrokerCall (s.hostEnv .cancelCall) call.requestId host with
    | .ok _ next => (.ok next, next)
    | .error _ next => (.error "cancelling old plugin call failed", next)

/-- The old host is asked to quiesce. -/
def quiesceOld (host : WasmPluginHost) : Except String Unit × WasmPluginHost :=
  match WasmPluginHost.handleFrame (s.hostEnv .quiesce) ⟨host.identity.hostInstanceId, .quiesce⟩ host with
  | .ok (some .quiesced) next => (.ok (), next)
  | .ok _ next | .error _ next => (.error "old plugin host did not quiesce before replacement CAS", next)

/-- A step of the active runtime's host. -/
def onOldHost {α : Type} (step : WasmPluginHost → Except String α × WasmPluginHost) : RegistryM α := do
  let r ← get
  match r.active with
  | none => throw "replacement active plugin disappeared before CAS"
  | some old =>
    let (answer, host) := step old.host
    set { r with active := some { old with host := host } }
    ofResult answer

/-- The identity of the active runtime that a replacement expects. -/
def checkOld (expectedOldDigest : String) (r : Registry) : Except String ActivePlugin :=
  match r.active with
  | none => .error "replacement requires an exact active plugin"
  | some old => do
    ensure (old.projectRoot == ctx.projectRoot && old.packageDigest == expectedOldDigest &&
      old.host.identity.packageDigest == expectedOldDigest) "replacement active plugin identity is stale"
    return old

/-- The active runtime is still the one that the candidate was prepared for. -/
def recheckOld (expectedOldDigest : String) (expectedOld : Option ContributionInstanceIdentity) (r : Registry) : Except String Unit :=
  match r.active with
  | none => .error "replacement active plugin disappeared before CAS"
  | some old =>
    ensure (old.packageDigest == expectedOldDigest && old.contributionIdentity == expectedOld)
      "replacement expected-old runtime identity changed"

/-- `complete_replacement`: the registry looks at an error only. -/
def completeReplacement : RegistryM Unit := do
  attempt (s.fault .completeReplacement)
  modify fun r =>
    { r with transition := if f.completion = .applied then r.transition.map fun _ => ⟨.completed, .completed⟩ else r.transition }

/-- The contributions of the candidate take the place of those of the old runtime. -/
def publishCandidate : RegistryM Unit := do
  attempt (s.fault .publish)
  modify fun r => { r with published := f.candidate.contributionIdentity }

/-- `activate_plugin_replacement_durable`. -/
def activateReplacement (plugin cached : FoundPlugin) (expectedOldDigest : String) : RegistryM EnableResult := do
  let old ← ofResult (checkOld ctx expectedOldDigest (← get))
  orFail s (prepareActivation s f plugin cached old.contributionIdentity)
  advanceTransition s .candidateActivated .running
  ofResult (recheckOld expectedOldDigest old.contributionIdentity (← get))
  let _ ← onOldHost (cancelOldCall s)
  onOldHost (quiesceOld s)
  orFail s (publishCandidate s f)
  modify fun r => { r with active := some f.candidate }
  handle (advanceTransition s .pointerSwapped .running) pure fun e => do
    modify removeActivePlugin
    handle (failTransition s) pure (fun _ => pure ())
    throw e
  handle (completeReplacement s f) pure fun e => do
    modify removeActivePlugin
    throw e
  return ⟨"enabled", [], f.handles.length⟩

/-- `activate_plugin_durable`. -/
def activatePlugin (plugin cached : FoundPlugin) : RegistryM EnableResult := do
  orFail s (prepareActivation s f plugin cached none)
  orFail s (advanceTransition s .candidateActivated .running)
  orFail s (publishCandidate s f)
  modify fun r => { r with active := some f.candidate }
  handle (advanceTransition s .pointerSwapped .running) pure fun e => do
    modify removeActivePlugin
    throw e
  handle (advanceTransition s .completed .completed) pure fun e => do
    modify removeActivePlugin
    throw e
  return ⟨"enabled", [], f.handles.length⟩

/-! ## Update and rollback -/

/-- The row that an operation cannot do without. -/
def requireState (message : String) : Except String (Option PluginLifecycle.PluginState) → Except String PluginLifecycle.PluginState
  | .error e => .error e
  | .ok none => .error message
  | .ok (some row) => .ok row

/-- The active runtime, with the package that is expected and without a pending review. -/
def checkActive (name expectedDigest : String) (r : Registry) : Except String Unit :=
  match r.active with
  | none => .error ("workspace plugin " ++ name ++ " requires the accepted runtime to be active")
  | some active => do
    ensure (active.packageDigest == expectedDigest) ("workspace plugin " ++ name ++ " expected-old runtime is stale")
    ensure r.pending.isNone ("workspace plugin " ++ name ++ " already has pending permission review")

/-- The checks of `request_update` before it asks for a transition; the package that is found. -/
def checkUpdate (input : UpdateInput) (r : Registry) : Except String FoundPlugin := do
  ensure (input.expectedProjectRevision == ctx.projectRevision) "workspace plugin Update is stale after a project change"
  ensure (Rho.validateIdentifier input.pluginId).isNone "validating workspace plugin id"
  ensure (input.expectedOldDigest != input.candidateDigest) "workspace plugin Update candidate must differ from accepted digest"
  let plugin ← f.discovered
  ensure (plugin.digest == input.candidateDigest) "workspace plugin Update candidate changed before review"
  match s.fault .discover with
  | some e => .error e
  | none => do
    let lifecycle ← requireState "workspace plugin has no durable lifecycle state" f.lifecycle
    ensure (lifecycle.desiredState == .enabled && lifecycle.observedState == .updatePending &&
      lifecycle.acceptedDigest == some input.expectedOldDigest && lifecycle.pendingDigest == some input.candidateDigest)
      "workspace plugin Update pointers are stale"
    checkActive "Update" input.expectedOldDigest r
    return plugin

/-- The checks of `request_rollback` before it asks for a transition; the package of the cache. -/
def checkRollback (input : RollbackInput) (r : Registry) : Except String FoundPlugin := do
  ensure (input.expectedProjectRevision == ctx.projectRevision) "workspace plugin Rollback is stale after a project change"
  ensure (Rho.validateIdentifier input.pluginId).isNone "validating workspace plugin id"
  ensure (input.expectedCurrentDigest != input.rollbackDigest) "workspace plugin Rollback target must differ from current digest"
  let lifecycle ← requireState "workspace plugin has no durable lifecycle state" f.lifecycle
  ensure (lifecycle.desiredState == .enabled && lifecycle.observedState == .active &&
    lifecycle.acceptedDigest == some input.expectedCurrentDigest && lifecycle.rollbackDigest == some input.rollbackDigest)
    "workspace plugin Rollback pointers are stale"
  let current ← f.discovered
  ensure (current.digest == input.expectedCurrentDigest) "workspace plugin source changed before Rollback"
  let target ← f.cached
  ensure (target.pluginId == input.pluginId && target.digest == input.rollbackDigest)
    "workspace plugin Rollback cache identity is stale"
  checkActive "Rollback" input.expectedCurrentDigest r
  return target

/-- `create_requests`: an answer that cannot be read back is an error although the rows are there. -/
def createRequests : PermissionM Unit := do
  attempt (s.fault .createRequests)
  let db ← get
  let (answer, written) := db.createRequests s.crates (s.now db.events.rows.length) s.uuid f.requests
  set written
  let _ ← ofResult answer

/-- The requests that an activation waits for. -/
def awaitReview (pending : PendingEnable) (reusable : Nat) : RegistryM EnableResult := do
  orFail s (onPermissions (createRequests s f))
  modify fun r => { r with pending := some pending }
  return ⟨"permission_required", f.requestIds, reusable⟩

/-- `request_update`. -/
def requestUpdate (transitionId : String) (input : UpdateInput) : RegistryM EnableResult := do
  let plugin ← ofResult (checkUpdate s ctx f input (← get))
  requestTransition s .upgrade
  advanceTransition s .preflight .running
  orFail s (attempt (s.fault .preparePackage))
  advanceTransition s .backupPrepared .running
  attempt (s.fault .planPermissions)
  if f.requests.isEmpty then do
    let result ← activateReplacement s ctx f plugin plugin input.expectedOldDigest
    let _ ← onPermissions (revokeExactDurableGrants s ctx.projectRoot input.pluginId input.expectedOldDigest "plugin_updated")
    return result
  else
    awaitReview s f ⟨.upgrade input.expectedOldDigest, input.pluginId, plugin.version, input.candidateDigest, transitionId,
      f.requestIds, ctx.projectRevision⟩ f.reusable

/-- `request_rollback`. -/
def requestRollback (transitionId : String) (input : RollbackInput) : RegistryM EnableResult := do
  let target ← ofResult (checkRollback ctx f input (← get))
  requestTransition s .rollback
  advanceTransition s .preflight .running
  advanceTransition s .backupPrepared .running
  attempt (s.fault .planPermissions)
  if f.requests.isEmpty then do
    let result ← activateReplacement s ctx f target target input.expectedCurrentDigest
    let _ ← onPermissions (revokeExactDurableGrants s ctx.projectRoot input.pluginId input.expectedCurrentDigest "plugin_rolled_back")
    return result
  else
    awaitReview s f ⟨.rollback input.expectedCurrentDigest, input.pluginId, target.version, input.rollbackDigest, transitionId,
      f.requestIds, ctx.projectRevision⟩ 0

/-! ## Approval -/

structure DecisionInput where
  requestId : String
  expectedProjectRevision : Int
  decision : String
  deriving DecidableEq

structure DecisionResult where
  outcome : Outcome
  pluginStatus : String
  activeGrantCount : Nat
  deriving DecidableEq

def parseDecision : String → Except String Decision
  | "deny" => .ok .deny
  | "allow_once" => .ok .allowOnce
  | "allow_project" => .ok .allowProject
  | _ => .error "unsupported plugin permission decision"

/-- The decision as it is recorded, with the id and the expiry of the grant that it creates. -/
def decisionDraft (input : DecisionInput) (decision : Decision) (grantId expiresAt : String) : DecisionDraft where
  requestId := input.requestId
  projectRoot := ctx.projectRoot
  expectedProjectRevision := input.expectedProjectRevision
  decision := decision
  reasonCode := if decision = .deny then some "user_denied" else none
  grantId := if decision = .deny then none else some grantId
  policyRevision := if decision = .deny then none else some policyRevision
  expiresAt := if decision = .deny then none else some expiresAt

/-- `get_request`, of a request that has to be there. -/
def requireRequest (message requestId : String) (db : PermissionDb) : Except String Request := do
  let root ← requiredProjectRoot ctx.projectRoot
  match db.getRequest root requestId with
  | none => .error message
  | some request => .ok request

/-- A failure that is recorded, and the error that is answered. -/
def failWith {α : Type} (message : String) : RegistryM α := orFail s (throw message)

def packageChanged : String := "plugin package changed while permission review was open"

/-- The package of the cache that was reviewed for a rollback, read again. -/
def reloadFromCache (pending : PendingEnable) (expectedOldDigest : String) : RegistryM (FoundPlugin × FoundPlugin) := do
  if f.discovered.toOption.any (fun plugin => plugin.digest == expectedOldDigest) then do
    let cached ← orFail s (ofResult f.cached)
    let _ ← ofResult (requireState "Rollback lifecycle state disappeared during permission review" f.lifecycle)
    if cached.version ≠ pending.pluginVersion ∨ cached.digest ≠ pending.packageDigest then
      failWith s "plugin Rollback cache changed while permission review was open"
    else return (cached, cached)
  else failWith s packageChanged

/-- The package of the project that was reviewed, read again. -/
def reloadFromProject (pending : PendingEnable) : RegistryM (FoundPlugin × FoundPlugin) :=
  match f.discovered.toOption.filter (fun plugin => plugin.version == pending.pluginVersion && plugin.digest == pending.packageDigest) with
  | none => failWith s packageChanged
  | some plugin => do
    orFail s (attempt (s.fault .preparePackage))
    return (plugin, plugin)

def reloadCandidate (pending : PendingEnable) : RegistryM (FoundPlugin × FoundPlugin) :=
  match pending.kind with
  | .rollback expectedOldDigest => reloadFromCache s f pending expectedOldDigest
  | .enable | .retry | .upgrade _ => reloadFromProject s f pending

/-- `PendingActivationKind`'s code for the revocation of the old package's grants. -/
def PendingActivationKind.revocationReason : PendingActivationKind → String
  | .rollback _ => "plugin_rolled_back"
  | .enable | .retry | .upgrade _ => "plugin_updated"

/-- The activation of a candidate that has been reviewed. -/
def activateReviewed (pluginId : String) (pending : PendingEnable) (plugin cached : FoundPlugin) : RegistryM EnableResult :=
  match pending.kind with
  | .upgrade expectedOldDigest | .rollback expectedOldDigest => do
    let result ← activateReplacement s ctx f plugin cached expectedOldDigest
    let _ ← onPermissions (revokeExactDurableGrants s ctx.projectRoot pluginId expectedOldDigest pending.kind.revocationReason)
    return result
  | .enable | .retry => activatePlugin s f plugin cached

/-- `try_activate_pending`. -/
def tryActivatePending (pluginId : String) : RegistryM (String × Nat) := do
  let r ← get
  match r.pending with
  | none => throw "plugin enable request is no longer pending"
  | some pending => do
    ofResult (ensure (pending.pluginId == pluginId && pending.expectedProjectRevision == ctx.projectRevision)
      "plugin enable request is stale")
    let requests ← ofResult
      (pending.requestIds.mapM fun id => requireRequest ctx "pending plugin permission request disappeared" id r.permissions)
    if requests.any (fun request => request.status == .pending) then return ("permission_required", 0)
    else if requests.any (fun request => request.status != .granted) then do
      handle (failTransition s) pure (fun _ => pure ())
      modify fun r => { r with pending := none }
      return ("denied", 0)
    else do
      let (plugin, cached) ← reloadCandidate s f pending
      let _ ← onPermissions (listActive s ctx.projectRoot "candidate")
      let result ← activateReviewed s ctx f pluginId pending plugin cached
      modify fun r => { r with pending := none }
      return (result.status, result.activeGrantCount)

/-- What an approval answers where the activation has failed. -/
def activationFailed (e : String) : RegistryM (String × Nat) := do
  modify fun r => { r with pending := none }
  return (if PluginLifecycle.containsText e.toList packageChanged.toList then "stale_digest" else "host_unavailable", 0)

/-- `respond`; the registry's entry is that of the plugin that the request is of. -/
def respond (input : DecisionInput) (grantId expiresAt : String) : RegistryM DecisionResult := do
  ofResult (ensure (input.expectedProjectRevision == ctx.projectRevision)
    "plugin permission response is stale for the current project revision")
  let r ← get
  let request ← ofResult
    (requireRequest ctx "plugin permission request was not found in the current project" input.requestId r.permissions)
  ofResult (ensure (request.expectedProjectRevision == ctx.projectRevision)
    "plugin permission request belongs to a stale project revision")
  let decision ← ofResult (parseDecision input.decision)
  let outcome ← onPermissions (access s .resolveRequest
    (fun now db => db.resolveRequest s.crates now s.uuid (decisionDraft ctx input decision grantId expiresAt)))
  ofResult (ensure (isSettled outcome) "plugin permission response was rejected as stale")
  let r ← get
  let _ ← ofResult (requireRequest ctx "resolved plugin permission request disappeared" input.requestId r.permissions)
  let (pluginStatus, activeGrantCount) ← handle (tryActivatePending s ctx f request.pluginId) pure activationFailed
  return ⟨outcome, pluginStatus, activeGrantCount⟩

end Rho.PluginRegistry
