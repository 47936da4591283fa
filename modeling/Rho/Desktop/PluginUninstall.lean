import Rho.Desktop.PluginReplacement

/-!
# Disabling and uninstalling a plugin

A teardown closes the routes of a plugin, drains its call, cancels its pending requests, revokes its handles and disposes of its host;
each phase is recorded, and what cannot be recorded makes its end uncertain. An uninstall disables the plugin, ends the requests and
the grants of the package, and moves the package away.
-/

namespace Rho.PluginRegistry

open Effect PluginPermission

variable (s : Surroundings) (ctx : PluginContext)

/-! ## Teardown -/

/-- What a teardown finds in the journal: the row of the plugin, the transition that the row names, and the row once that transition
has been failed. -/
structure TeardownFindings where
  lifecycle : Except String (Option PluginLifecycle.PluginState)
  transition : Except String (Option Progress)
  lifecycleAfter : Except String (Option PluginLifecycle.PluginState)

/-- What a teardown has met so far. -/
structure Teardown where
  errors : List String := []
  persistenceFailed : Bool := false
  deriving DecidableEq

/-- `push_teardown_error`. -/
def pushTeardownError (code : String) (errors : List String) : List String :=
  if errors.length < 16 ∧ code ∉ errors then errors ++ [code] else errors

def Teardown.push (code : String) (t : Teardown) : Teardown := { t with errors := pushTeardownError code t.errors }

/-- Something that could not be recorded. -/
def Teardown.unrecorded (code : String) (t : Teardown) : Teardown := { t.push code with persistenceFailed := true }

structure DisableResult where
  status : String
  routeClosed : Bool
  callsCancelled : Nat
  pendingRequestsCancelled : Nat
  errors : List String
  deriving DecidableEq

/-- A phase of a teardown; the teardown goes on where it cannot be recorded. -/
def recordPhase (next : PluginLifecycle.Phase) (status : PluginLifecycle.Status) (code : String) (t : Teardown) : RegistryM Teardown :=
  handle (advanceTransition s next status) (fun _ => pure t) (fun _ => pure (t.unrecorded code))

/-- The transition that the row names is not over. -/
def TeardownFindings.isOpen (f : TeardownFindings) (lifecycle : PluginLifecycle.PluginState) : Except String Bool :=
  match lifecycle.transitionId with
  | none => .ok false
  | some _ => f.transition.map fun transition => transition.any fun t => !t.status.isTerminal

/-- The plugin is torn down already. -/
def alreadyTerminal (preserveDesiredState : Bool) (lifecycle : PluginLifecycle.PluginState) (r : Registry) : Bool :=
  (if preserveDesiredState then lifecycle.observedState == .stopped
    else lifecycle.desiredState == .disabled && (lifecycle.observedState == .disabled || lifecycle.observedState == .stopped)) &&
    r.active.isNone && r.pending.isNone

/-- A transition of the plugin that is not over is failed. -/
def failOpen (f : TeardownFindings) (lifecycle : PluginLifecycle.PluginState) : RegistryM Unit := do
  if ← ofResult (f.isOpen lifecycle) then do
    failTransition s
    let _ ← ofResult (requireState "workspace plugin lifecycle state disappeared during disable" f.lifecycleAfter)
  else pure ()

/-- The host's pending call is cancelled: how many calls that was, and the host. -/
def drainCall (host : WasmPluginHost) (t : Teardown) : Nat × WasmPluginHost × Teardown :=
  match host.brokerCall with
  | none => (0, host, t)
  | some call =>
    match WasmPluginHost.cancelBrokerCall (s.hostEnv .cancelCall) call.requestId host with
    | .ok cancelled next => (if cancelled then 1 else 0, next, t)
    | .error _ next => (0, final (WasmPluginHost.quarantineForTimeout next), t.push "guest_call_cancel_failed")

/-- The host is quiesced and disposed of, by force if need be. -/
def disposeHost (host : WasmPluginHost) (t : Teardown) : Teardown :=
  let quiesced :=
    if host.state = .active ∨ host.state = .ready then
      match WasmPluginHost.handleFrame (s.hostEnv .quiesce) ⟨host.identity.hostInstanceId, .quiesce⟩ host with
      | .ok (some .quiesced) next => (next, t)
      | .ok _ next | .error _ next => (next, t.push "guest_quiesce_failed")
    else (host, t)
  if quiesced.1.state = .active ∨ quiesced.1.state = .ready ∨ quiesced.1.state = .quiescing then
    match WasmPluginHost.handleFrame (s.hostEnv .dispose) ⟨host.identity.hostInstanceId, .dispose⟩ quiesced.1 with
    | .ok (some .disposed) _ => quiesced.2
    | .ok _ _ | .error _ _ => quiesced.2.push "guest_dispose_forced"
  else quiesced.2.push "guest_dispose_forced"

/-- The routes of the plugin are closed. -/
def closeRoutes (r : Registry) : Registry := { removeActivePlugin r with pending := none }

/-- The status of a teardown that is over. -/
def Teardown.status (preserveDesiredState : Bool) (t : Teardown) : String :=
  if t.persistenceFailed then "completion_uncertain"
  else if t.errors.isEmpty then if preserveDesiredState then "stopped" else "disabled"
  else if preserveDesiredState then "stopped_with_errors"
  else "disabled_with_errors"

/-- The pending requests of the plugin are cancelled; the number of them. -/
def cancelPending (pluginId : String) (t : Teardown) : RegistryM (Nat × Teardown) := do
  let listed ← onPermissions (listPending s ctx.projectRoot "plugin_disabled" 100)
  let (cancelled, failed) ← onPermissions
    (cancelForTeardown s ctx.projectRoot (listed.filter (fun request => request.pluginId == pluginId)))
  return (cancelled, if failed then t.unrecorded "permission_cancel_failed" else t)

/-- A teardown that was recorded is completed. -/
def recordCompletion (t : Teardown) : RegistryM Teardown :=
  if t.persistenceFailed then pure t else recordPhase s .completed .completed "terminal_persistence_failed" t

/-- The end of a teardown, which is uncertain where a part of it could not be recorded. -/
def completeTeardown (t : Teardown) : RegistryM Teardown := do
  let t ← recordCompletion s t
  let r ← get
  if t.persistenceFailed ∧ r.transition.any (fun transition => !transition.status.isTerminal) then
    handle (advanceTransition s .durableCommitted .completionUncertain) (fun _ => pure t) (fun _ => pure t)
  else pure t

/-- A teardown from the closing of the routes on. -/
def runTeardown (pluginId : String) (preserveDesiredState : Bool) : RegistryM DisableResult := do
  let old ← get
  modify closeRoutes
  let t ← recordPhase s .routingClosed .running "routing_close_persistence_failed" {}
  let drained := old.active.map fun active => drainCall s active.host t
  let t ← recordPhase s .callsDrained .running "call_drain_persistence_failed" ((drained.map fun d => d.2.2).getD t)
  let (cancelled, t) ← cancelPending s ctx pluginId t
  let t ← recordPhase s .handlesRevoked .running "handle_revoke_persistence_failed" t
  let t ← recordPhase s .contributionsDisposed .running "contribution_dispose_persistence_failed" t
  let t ← recordPhase s .hostDisposed .running "host_dispose_persistence_failed" ((drained.map fun d => disposeHost s d.2.1 t).getD t)
  let t ← completeTeardown s t
  return ⟨t.status preserveDesiredState, true, (drained.map fun d => d.1).getD 0,
    max cancelled ((old.pending.map fun pending => pending.requestIds.length).getD 0), t.errors⟩

/-- `teardown_plugin`. -/
def teardownPlugin (f : TeardownFindings) (pluginId : String) (kind : PluginLifecycle.Kind) (preserveDesiredState : Bool) :
    RegistryM DisableResult := do
  ofResult (ensure (decide (0 ≤ ctx.projectRevision)) "plugin teardown requires a current project revision")
  ofResult (ensure (Rho.validateIdentifier pluginId).isNone "validating workspace plugin id")
  let lifecycle ← ofResult (requireState "workspace plugin has no durable lifecycle state" f.lifecycle)
  let r ← get
  if alreadyTerminal preserveDesiredState lifecycle r then do
    let nonterminal ← ofResult (f.isOpen lifecycle)
    if nonterminal then return ⟨"completion_uncertain", true, 0, 0, ["durable_teardown_nonterminal"]⟩
    else return ⟨if preserveDesiredState then "stopped" else "disabled", true, 0, 0, []⟩
  else do
    failOpen s f lifecycle
    requestTransition s kind
    runTeardown s ctx pluginId preserveDesiredState

/-! ## Uninstall -/

structure UninstallInput where
  pluginId : String
  directoryName : String
  packageDigest : String
  expectedProjectRevision : Int
  confirmed : Bool
  deriving DecidableEq

/-- A package of the project and its directory. -/
structure DiscoveredPlugin extends FoundPlugin where
  directory : String
  deriving DecidableEq

/-- What an uninstall finds: the row of the plugin before and after the teardown, and the package of the project. -/
structure UninstallFindings where
  lifecycle : Except String (Option PluginLifecycle.PluginState)
  teardown : TeardownFindings
  discovered : Except String DiscoveredPlugin
  lifecycleAfter : Except String (Option PluginLifecycle.PluginState)

structure UninstallResult where
  status : String
  pendingRequestsCancelled : Nat
  durableGrantsRevoked : Nat
  deriving DecidableEq

/-- The checks of an uninstall before it tears down. -/
def checkUninstall (f : UninstallFindings) (input : UninstallInput) : Except String Unit := do
  ensure input.confirmed "workspace plugin Uninstall was not confirmed"
  ensure (input.expectedProjectRevision == ctx.projectRevision) "workspace plugin Uninstall is stale after a project change"
  ensure (Rho.validateIdentifier input.pluginId).isNone "validating workspace plugin id"
  let lifecycle ← requireState "workspace plugin has no durable lifecycle state" f.lifecycle
  ensure (lifecycle.directoryName == input.directoryName && lifecycle.acceptedDigest == some input.packageDigest)
    "workspace plugin Uninstall confirmation is stale for this directory or digest"
  ensure (lifecycle.desiredState != .uninstalled) "workspace plugin is already uninstalled"

/-- The checks before the package is moved. -/
def checkMove (f : UninstallFindings) (input : UninstallInput) : Except String Unit := do
  let plugin ← f.discovered
  ensure (plugin.directory == input.directoryName && plugin.digest == input.packageDigest)
    "workspace plugin package changed after Uninstall confirmation"
  let lifecycle ← requireState "workspace plugin lifecycle state disappeared before Uninstall" f.lifecycleAfter
  ensure (lifecycle.desiredState == .disabled && (lifecycle.observedState == .disabled || lifecycle.observedState == .stopped) &&
    lifecycle.acceptedDigest == some input.packageDigest) "workspace plugin is not durably disabled for the confirmed digest"

/-- The package is moved into the trash, which the journal records. -/
def movePackage : RegistryM Unit := do
  requestTransition s .uninstall
  attempt (s.fault .moveExact)
  advanceTransition s .packageMoved .running
  attempt (s.fault .completeUninstall)
  modify fun r => { r with transition := r.transition.map fun _ => ⟨.completed, .completed⟩ }

/-- `uninstall`. -/
def uninstall (f : UninstallFindings) (input : UninstallInput) : RegistryM UninstallResult := do
  ofResult (checkUninstall ctx f input)
  let disabled ← teardownPlugin s ctx f.teardown input.pluginId .disable false
  ofResult (ensure (disabled.routeClosed && disabled.status != "completion_uncertain")
    "workspace plugin teardown did not reach durable non-routable truth")
  let cancelled ← onPermissions (cancelListed s ctx.projectRoot input.pluginId input.packageDigest "plugin_uninstalled"
    "workspace plugin pending permission cancellation was stale")
  let revoked ← onPermissions (revokeListed s ctx.projectRoot input.pluginId input.packageDigest "plugin_uninstalled"
    "workspace plugin durable grant revoke was stale")
  ofResult (checkMove f input)
  movePackage s
  return ⟨"uninstalled", cancelled, revoked⟩

end Rho.PluginRegistry
