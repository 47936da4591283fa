import Rho.Extension.Contribution
import Rho.Extension.WasmHost
import Rho.Store.PluginJournal
import Rho.Store.PluginPermission

/-!
# The registry of workspace plugins and its permission records

`workspace_plugins.rs`: the registry lists the pending requests and the active grants of a project, keeps those of one package, and
ends them one by one. The store cuts a list off after a hundred rows before the registry sees it. Every access to the store may fail;
one that fails changes nothing. The clock's reading at an access goes with the number of events that are recorded by then.
-/

namespace Rho.PluginRegistry

open Effect PluginPermission

/-- The steps of the registry's operations that may fail for a reason outside of them. -/
inductive Step where
  | discover | requestTransition (kind : PluginLifecycle.Kind) | advance (next : PluginLifecycle.Phase) | failTransition
  | preparePackage | planPermissions | createRequests | resolveRequest | readState | allocateGeneration | startHost | stageContributions
  | mintHandle (grantId : Option String) | publish | completeReplacement | moveExact | completeUninstall
  | listRequests (reasonCode : String) | cancelRequest (reasonCode requestId : String)
  | listGrants (reasonCode : String) | revokeGrant (reasonCode grantId : String)
  | cancelCall | quiesce | dispose
  deriving DecidableEq

/-- What surrounds an operation: the steps that fail in it, the clock, the ids that are drawn, and what the guest does. -/
structure Surroundings where
  crates : Crates
  now : Nat → Int
  uuid : Nat → String
  fault : Step → Option String
  hostEnv : Step → HostEnv

/-- `matches!(outcome, Applied | Unchanged)`. -/
def isSettled : Outcome → Bool
  | .applied | .unchanged => true
  | .notFound | .stale => false

abbrev PermissionM := EStateM String PermissionDb

variable (s : Surroundings)

/-- One transaction of the store. -/
def access {α : Type} (step : Step) (op : Int → PermissionDb → Except String (α × PermissionDb)) : PermissionM α := do
  attempt (s.fault step)
  let db ← get
  let (a, written) ← ofResult (op (s.now db.events.rows.length) db)
  set written
  return a

/-- The row is of this package of the plugin. -/
def Request.isOf (pluginId packageDigest : String) (r : Request) : Bool := r.pluginId == pluginId && r.packageDigest == packageDigest

def Grant.isOf (pluginId packageDigest : String) (g : Grant) : Bool := g.pluginId == pluginId && g.packageDigest == packageDigest

/-- The pending requests that the store lists. -/
def listPending (root reasonCode : String) (limit : Nat) : PermissionM (List Request) := do
  attempt (s.fault (.listRequests reasonCode))
  let db ← get
  ofResult (db.listRequests root (some limit) (some .pending))

/-- The active grants that the store lists. -/
def listActive (root reasonCode : String) : PermissionM (List Grant) := do
  attempt (s.fault (.listGrants reasonCode))
  let db ← get
  ofResult (db.listGrants root (some 200) (some .active))

def cancelRequest (root reasonCode : String) (r : Request) : PermissionM Outcome :=
  access s (.cancelRequest reasonCode r.requestId)
    (fun now db => db.cancelRequest s.crates now s.uuid root r.requestId r.expectedProjectRevision reasonCode)

def revokeGrant (root reasonCode : String) (g : Grant) : PermissionM Outcome :=
  access s (.revokeGrant reasonCode g.grantId) (fun now db => db.revokeGrant s.crates now s.uuid root g.grantId reasonCode)

def cancelEach (root reasonCode message : String) : List Request → PermissionM Unit
  | [] => pure ()
  | r :: rest => do
    let outcome ← cancelRequest s root reasonCode r
    ofResult (ensure (isSettled outcome) message)
    cancelEach root reasonCode message rest

def revokeEach (root reasonCode message : String) : List Grant → PermissionM Unit
  | [] => pure ()
  | g :: rest => do
    let outcome ← revokeGrant s root reasonCode g
    ofResult (ensure (isSettled outcome) message)
    revokeEach root reasonCode message rest

/-- The active grants of a package are revoked; the number of them. -/
def revokeListed (root pluginId packageDigest reasonCode message : String) : PermissionM Nat := do
  let listed ← listActive s root reasonCode
  let grants := listed.filter (Grant.isOf pluginId packageDigest)
  revokeEach s root reasonCode message grants
  return grants.length

/-- `revoke_exact_durable_grants`. -/
def revokeExactDurableGrants (root pluginId packageDigest reasonCode : String) : PermissionM Nat :=
  revokeListed s root pluginId packageDigest reasonCode "exact old plugin grant revocation was stale"

/-- The pending requests of a package are cancelled; the number of them. -/
def cancelListed (root pluginId packageDigest reasonCode message : String) : PermissionM Nat := do
  let listed ← listPending s root reasonCode 200
  let requests := listed.filter (Request.isOf pluginId packageDigest)
  cancelEach s root reasonCode message requests
  return requests.length

/-- The loop of a teardown: how many requests are cancelled, and whether one could not be. -/
def cancelForTeardown (root : String) : List Request → PermissionM (Nat × Bool)
  | [] => pure (0, false)
  | r :: rest => do
    let settled ← handle (cancelRequest s root "plugin_disabled" r) (fun outcome => pure (isSettled outcome)) (fun _ => pure false)
    let (cancelled, failed) ← cancelForTeardown root rest
    return (if settled then cancelled + 1 else cancelled, failed || !settled)

/-! ## The registry's entry of one plugin -/

structure PluginContext where
  projectRoot : String
  projectRevision : Int
  deriving DecidableEq

structure ActivePlugin where
  projectRoot : String
  packageDigest : String
  host : WasmPluginHost
  contributionIdentity : Option ContributionInstanceIdentity
  deriving DecidableEq

inductive PendingActivationKind where
  | enable | retry
  | upgrade (expectedOldDigest : String)
  | rollback (expectedOldDigest : String)
  deriving DecidableEq

structure PendingEnable where
  kind : PendingActivationKind
  pluginId : String
  pluginVersion : String
  packageDigest : String
  transitionId : String
  requestIds : List String
  expectedProjectRevision : Int
  deriving DecidableEq

/-- How far a transition of the journal is. -/
structure Progress where
  phase : PluginLifecycle.Phase
  status : PluginLifecycle.Status
  deriving DecidableEq

/-- The active runtime and the pending review of one plugin, the instance whose contributions are published for it, the transition
that is under way, and the permission records of the store. -/
structure Registry where
  active : Option ActivePlugin
  pending : Option PendingEnable
  published : Option ContributionInstanceIdentity
  transition : Option Progress
  permissions : PermissionDb

abbrev RegistryM := EStateM String Registry

/-- A use of the permission records. -/
def onPermissions {α : Type} (x : PermissionM α) : RegistryM α := fun r =>
  match x r.permissions with
  | .ok a db => .ok a { r with permissions := db }
  | .error e db => .error e { r with permissions := db }

/-- `request_transition`, with an id that is drawn for it. -/
def requestTransition (kind : PluginLifecycle.Kind) : RegistryM Unit := do
  attempt (s.fault (.requestTransition kind))
  modify fun r => { r with transition := some ⟨.requested, .pending⟩ }

/-- `advance_enable_transition` and `record_disable_phase`. -/
def advanceTransition (next : PluginLifecycle.Phase) (status : PluginLifecycle.Status) : RegistryM Unit := do
  attempt (s.fault (.advance next))
  modify fun r => { r with transition := r.transition.map fun _ => ⟨next, status⟩ }

/-- A transition that is over stays as it is. -/
def Progress.fail (t : Progress) : Progress := if t.status.isTerminal then t else ⟨.completed, .failed⟩

/-- `fail_enable_transition`. -/
def failTransition : RegistryM Unit := do
  attempt (s.fault .failTransition)
  modify fun r => { r with transition := r.transition.map Progress.fail }

/-- A step whose failure is recorded in the journal, whether that can be done or not. -/
def orFail {α : Type} (x : RegistryM α) : RegistryM α :=
  handle x pure fun e => do
    handle (failTransition s) pure (fun _ => pure ())
    throw e

/-- `remove_active_plugin`. -/
def removeActivePlugin (r : Registry) : Registry :=
  match r.active with
  | none => r
  | some active =>
    { r with
      active := none
      published := if active.contributionIdentity.isSome ∧ r.published = active.contributionIdentity then none else r.published }

end Rho.PluginRegistry
