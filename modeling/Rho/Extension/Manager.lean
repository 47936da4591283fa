import Mathlib.Data.Prod.Lex
import Rho.Extension.Grant
import Rho.Lib.Effect

/-!
# The plugin manager

The lifecycle of a plugin instance with its bounded audit trail, and the manager that keeps one instance per project and plugin
(`instance.rs`). An operation changes the manager in place, so an operation that ends with an error ends in the state it has
reached by then.
-/

namespace Rho

open Effect

/-! ## The lifecycle -/

inductive PluginLifecycleState where
  | discovered | blocked | disabled | resolving | activating | active | quiescing | disposing | stopped | crashed | updatePending
  deriving DecidableEq, Repr

def allowedTransition : PluginLifecycleState → PluginLifecycleState → Bool
  | .discovered, .blocked | .discovered, .disabled => true
  | .disabled, .resolving | .disabled, .blocked => true
  | .resolving, .activating | .resolving, .blocked => true
  | .activating, .active | .activating, .blocked => true
  | .active, .quiescing | .active, .crashed | .active, .updatePending => true
  | .quiescing, .disposing => true
  | .disposing, .stopped => true
  | .updatePending, .blocked | .updatePending, .disabled => true
  | .blocked, .disabled => true
  | .stopped, .disabled => true
  | .crashed, .disabled | .crashed, .stopped => true
  | _, _ => false

/-! ## The audit trail -/

structure AuditEvent where
  pluginId : PluginId
  projectId : ScopeId
  transitionFrom : Option PluginLifecycleState
  transitionTo : PluginLifecycleState
  reason : String
  deriving DecidableEq

def maxAuditEvents : Nat := 256
def maxAuditReasonBytes : Nat := 512

/-- The longest start of a text that fits into so many bytes. -/
def takeBytes : Nat → List Char → List Char
  | _, [] => []
  | bytes, c :: cs => if c.utf8Size ≤ bytes then c :: takeBytes (bytes - c.utf8Size) cs else []

def boundedAuditReason (reason : String) : String :=
  String.ofList (takeBytes maxAuditReasonBytes (reason.toList.map (fun c => if isControl c then '\ufffd' else c)))

/-- `AuditLog::record`: the oldest event makes room for a new one. -/
def recordAudit (events : List AuditEvent) (event : AuditEvent) : List AuditEvent :=
  (if maxAuditEvents ≤ events.length then events.drop 1 else events) ++
    [{ event with reason := boundedAuditReason event.reason }]

/-! ## An instance -/

structure PluginInstance where
  pluginId : PluginId
  projectId : ScopeId
  packageDigest : PackageDigest
  activationGeneration : Option ActivationGeneration
  hostInstanceId : Option HostInstanceId
  state : PluginLifecycleState
  audit : List AuditEvent
  deriving DecidableEq

namespace PluginInstance

/-- `PluginInstance::new`. -/
def discovered (pluginId : PluginId) (projectId : ScopeId) (packageDigest : PackageDigest) : PluginInstance where
  pluginId
  projectId
  packageDigest
  activationGeneration := none
  hostInstanceId := none
  state := .discovered
  audit := recordAudit [] ⟨pluginId, projectId, none, .discovered, "discovered"⟩

/-- The instance in another state, with the event that says so. -/
def moved (i : PluginInstance) (target : PluginLifecycleState) (reason : String) : PluginInstance :=
  { i with state := target, audit := recordAudit i.audit ⟨i.pluginId, i.projectId, some i.state, target, reason⟩ }

/-- `transition`: a forbidden one changes nothing. -/
def transition (i : PluginInstance) (target : PluginLifecycleState) (reason : String) : Option PluginInstance :=
  if allowedTransition i.state target then some (i.moved target reason) else none

end PluginInstance

/-! ## The manager -/

/-- The exact project and plugin. -/
abbrev PluginKey := ScopeId ×ₗ PluginId

structure PluginManager where
  instances : List (PluginKey × PluginInstance)
  accepted : List (PluginKey × PackageDigest)
  pendingUpdates : List (PluginKey × PackageDigest)
  deriving DecidableEq

inductive PluginManagerError where
  | unknownPlugin | forbiddenTransition | staleReplacement | candidateNotPending | duplicateDiscovery | generationExhausted
  deriving DecidableEq, Repr

inductive DiscoveryOutcome where
  | new | unchanged | updatePending
  deriving DecidableEq, Repr

abbrev ManagerM := EStateM PluginManagerError PluginManager

/-- `checked_add(1)` on a generation's number. -/
def checkedSucc (value : UInt64) : Option UInt64 := if value.toNat + 1 < 2 ^ 64 then some (value + 1) else none

/-- `ActivationGeneration::new`, with its error as the manager reports it. -/
def newGeneration (value : UInt64) : Except PluginManagerError ActivationGeneration :=
  if h : value ≠ 0 then .ok ⟨value, h⟩ else .error .generationExhausted

/-- An option, or the error that stands for its absence. -/
def orFail {ε α : Type} (value : Option α) (error : ε) : Except ε α :=
  match value with
  | some v => .ok v
  | none => .error error

namespace PluginManager

def new : PluginManager := ⟨[], [], []⟩

def getInstance (key : PluginKey) : ManagerM PluginInstance := do
  let m ← get
  ofResult (orFail (OrdMap.get m.instances key) .unknownPlugin)

def setInstance (key : PluginKey) (i : PluginInstance) (m : PluginManager) : PluginManager :=
  { m with instances := OrdMap.insert key i m.instances }

/-- A transition of an instance in place. -/
def transitionAt (key : PluginKey) (target : PluginLifecycleState) (reason : String) : ManagerM Unit := do
  let i ← getInstance key
  let moved ← ofResult (orFail (i.transition target reason) .forbiddenTransition)
  modify (setInstance key moved)

def discover (pluginId : PluginId) (projectId : ScopeId) (packageDigest : PackageDigest) : ManagerM DiscoveryOutcome := do
  let m ← get
  match OrdMap.get m.instances (toLex (projectId, pluginId)) with
  | none =>
    modify (setInstance (toLex (projectId, pluginId)) (.discovered pluginId projectId packageDigest))
    return .new
  | some i =>
    if i.packageDigest = packageDigest then return .unchanged
    else if i.state = .active then
      set { m with pendingUpdates := OrdMap.insert (toLex (projectId, pluginId)) packageDigest m.pendingUpdates }
      return .updatePending
    else throw .duplicateDiscovery

/-- The generation of the next activation: the first one, or one more. -/
def nextGeneration (generation : Option ActivationGeneration) : Option UInt64 :=
  match generation with
  | none => some 1
  | some g => checkedSucc g.value

/-- The step of `enable` that brings an instance to where it can be resolved. -/
def awaitEnable (key : PluginKey) (state : PluginLifecycleState) : ManagerM Unit :=
  match state with
  | .discovered | .stopped => transitionAt key .disabled "awaiting enable"
  | _ => pure ()

/-- The last step of `enable`: the instance has its generation and its host. -/
def activate (key : PluginKey) (next : UInt64) (packageDigest : PackageDigest) (host : HostInstanceId) : ManagerM Unit := do
  let i ← getInstance key
  let generation ← ofResult (newGeneration next)
  modify fun m =>
    { setInstance key { i with activationGeneration := some generation, hostInstanceId := some host } m with
      accepted := OrdMap.insert key packageDigest m.accepted }

/-- `enable`, with the host instance id that it makes up. -/
def enable (projectId : ScopeId) (pluginId : PluginId) (host : HostInstanceId) : ManagerM Unit := do
  let key : PluginKey := toLex (projectId, pluginId)
  let i ← getInstance key
  let next ← ofResult (orFail (nextGeneration i.activationGeneration) .generationExhausted)
  awaitEnable key i.state
  transitionAt key .resolving "enable requested"
  transitionAt key .activating "resolved"
  transitionAt key .active "activated"
  activate key next i.packageDigest host

/-- The host of an instance is gone. -/
def clearHost (key : PluginKey) : ManagerM Unit := do
  let i ← getInstance key
  modify (setInstance key { i with hostInstanceId := none })

def disable (projectId : ScopeId) (pluginId : PluginId) : ManagerM Unit := do
  let key : PluginKey := toLex (projectId, pluginId)
  transitionAt key .quiescing "disable requested"
  transitionAt key .disposing "effects released"
  transitionAt key .stopped "teardown complete"
  clearHost key

def markCrashed (projectId : ScopeId) (pluginId : PluginId) (reason : String) : ManagerM Unit := do
  let key : PluginKey := toLex (projectId, pluginId)
  transitionAt key .crashed reason
  clearHost key

/-- The instance of a replacement that was accepted. -/
def replaced (i : PluginInstance) (candidate : PackageDigest) (generation : ActivationGeneration) (host : HostInstanceId)
    (projectId : ScopeId) (pluginId : PluginId) : PluginInstance :=
  { i with
    packageDigest := candidate
    activationGeneration := some generation
    hostInstanceId := some host
    audit := recordAudit i.audit ⟨pluginId, projectId, some .active, .active, "accepted local package replacement"⟩ }

/-- `replace`, with the host instance id that it makes up. -/
def replace (projectId : ScopeId) (pluginId : PluginId) (expectedOld candidate : PackageDigest) (host : HostInstanceId) :
    ManagerM Unit := do
  let key : PluginKey := toLex (projectId, pluginId)
  let m ← get
  let current ← ofResult (orFail (OrdMap.get m.accepted key) .unknownPlugin)
  ofResult (orFail (guard (current = expectedOld)) .staleReplacement)
  ofResult (orFail (guard (OrdMap.get m.pendingUpdates key = some candidate)) .candidateNotPending)
  let i ← getInstance key
  ofResult (orFail (guard (i.state = .active)) .forbiddenTransition)
  let next ← ofResult (orFail (i.activationGeneration.bind (fun g => checkedSucc g.value)) .generationExhausted)
  -- The digest is written before the generation is made.
  modify (setInstance key { i with packageDigest := candidate })
  let generation ← ofResult (newGeneration next)
  modify fun m =>
    { setInstance key (replaced i candidate generation host projectId pluginId) m with
      accepted := OrdMap.insert key candidate m.accepted
      pendingUpdates := OrdMap.erase m.pendingUpdates key }

/-- `reject_update`: whether there was one. -/
def rejectUpdate (projectId : ScopeId) (pluginId : PluginId) : ManagerM Bool := do
  let m ← get
  set { m with pendingUpdates := OrdMap.erase m.pendingUpdates (toLex (projectId, pluginId)) }
  return (OrdMap.get m.pendingUpdates (toLex (projectId, pluginId))).isSome

end PluginManager

inductive ManagerOp where
  | discover (pluginId : PluginId) (projectId : ScopeId) (packageDigest : PackageDigest)
  | enable (projectId : ScopeId) (pluginId : PluginId) (host : HostInstanceId)
  | disable (projectId : ScopeId) (pluginId : PluginId)
  | markCrashed (projectId : ScopeId) (pluginId : PluginId) (reason : String)
  | replace (projectId : ScopeId) (pluginId : PluginId) (expectedOld candidate : PackageDigest) (host : HostInstanceId)
  | rejectUpdate (projectId : ScopeId) (pluginId : PluginId)

namespace ManagerOp

/-- The project and the plugin of an operation. -/
def key : ManagerOp → PluginKey
  | .discover pluginId projectId _ => toLex (projectId, pluginId)
  | .enable projectId pluginId _ | .disable projectId pluginId | .markCrashed projectId pluginId _
  | .replace projectId pluginId _ _ _ | .rejectUpdate projectId pluginId => toLex (projectId, pluginId)

/-- What an operation answers. -/
inductive Answer where
  | discovered (outcome : DiscoveryOutcome)
  | done
  | rejected (found : Bool)
  deriving DecidableEq, Repr

def run : ManagerOp → ManagerM Answer
  | .discover pluginId projectId packageDigest => Answer.discovered <$> PluginManager.discover pluginId projectId packageDigest
  | .enable projectId pluginId host => (fun _ => Answer.done) <$> PluginManager.enable projectId pluginId host
  | .disable projectId pluginId => (fun _ => Answer.done) <$> PluginManager.disable projectId pluginId
  | .markCrashed projectId pluginId reason => (fun _ => Answer.done) <$> PluginManager.markCrashed projectId pluginId reason
  | .replace projectId pluginId expectedOld candidate host =>
    (fun _ => Answer.done) <$> PluginManager.replace projectId pluginId expectedOld candidate host
  | .rejectUpdate projectId pluginId => Answer.rejected <$> PluginManager.rejectUpdate projectId pluginId

end ManagerOp

/-- The manager after an operation, whether it succeeds or not. -/
def PluginManager.step (m : PluginManager) (op : ManagerOp) : PluginManager := final (op.run m)

end Rho
