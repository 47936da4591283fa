import Rho.Lib.Fallible
import Rho.Lib.JsonParse
import Rho.Lib.Run
import Rho.Server.Bridge
import Rho.Store.Store

/-!
# The lifecycle journal of workspace plugins

`plugin_lifecycle.rs`: the state row of each plugin, the journal of its transitions, and the tombstones of its packages. Every
operation is one transaction, except that an advance reads and checks its transition before the transaction that writes it; a
read that passed waits with its connection, so any number of them may be on their way. An operation that fails is rolled back.

The texts that the source checks against a fixed list are enumerations here: a draft with another text is refused and changes
nothing. Of the times the ones are kept that a row is compared by or that a transition shows; of an event what the crash count
reads.
-/

namespace Rho.PluginLifecycle

/-! ## Enumerations -/

/-- `TRANSITION_PHASES`, in order. -/
inductive Phase where
  | requested | preflight | backupPrepared | grantsReady | candidateActivated | routingClosed | callsDrained | handlesRevoked
  | contributionsDisposed | hostDisposed | packageMoved | pointerSwapped | durableCommitted | completed
  deriving DecidableEq, Repr

/-- `phase_rank`. -/
def Phase.rank : Phase → Nat
  | .requested => 0
  | .preflight => 1
  | .backupPrepared => 2
  | .grantsReady => 3
  | .candidateActivated => 4
  | .routingClosed => 5
  | .callsDrained => 6
  | .handlesRevoked => 7
  | .contributionsDisposed => 8
  | .hostDisposed => 9
  | .packageMoved => 10
  | .pointerSwapped => 11
  | .durableCommitted => 12
  | .completed => 13

inductive Kind where
  | enable | disable | uninstall | retry | upgrade | rollback | projectTeardown | shutdown
  deriving DecidableEq, Repr

inductive Status where
  | pending | running | completed | failed | cancelled | completionUncertain
  deriving DecidableEq, Repr

/-- `is_terminal_transition_status`. -/
def Status.isTerminal : Status → Bool
  | .completed | .failed | .cancelled => true
  | .pending | .running | .completionUncertain => false

inductive DesiredState where
  | disabled | enabled | uninstalled
  deriving DecidableEq, Repr

inductive ObservedState where
  | discovered | disabled | resolving | activating | active | quiescing | disposing | stopped | crashed | updatePending
  | rollbackPending | uninstalled | blocked
  deriving DecidableEq, Repr

inductive RetentionClass where
  | recoverable | expired | purgePending
  deriving DecidableEq, Repr

inductive RequestEvent where
  | userRequested | recovery
  deriving DecidableEq, Repr

inductive EventType where
  | discovery | userRequested | preflight | grantState | activation | routingPublished | callDrain | callCancelled
  | handlesRevoked | contributionsDisposed | hostDisposed | hostQuarantined | packageBackedUp | pointerCas | rollback | recovery
  | transitionCompleted | transitionFailed
  deriving DecidableEq, Repr

inductive Outcome where
  | applied | unchanged | notFound | stale | conflict
  deriving DecidableEq, Repr

/-! ## Rows and drafts -/

structure PluginState where
  projectRoot : String
  pluginId : String
  directoryName : String
  pluginVersion : String
  acceptedDigest : Option String
  pendingDigest : Option String
  rollbackDigest : Option String
  desiredState : DesiredState
  observedState : ObservedState
  lastActivationGeneration : Int
  lastHostSessionId : Option String
  transitionId : Option String
  lastErrorCode : Option String
  deriving DecidableEq

/-- The primary key of a state row. -/
def PluginState.key (s : PluginState) : String × String := (s.projectRoot, s.pluginId)

structure Transition where
  transitionId : String
  projectRoot : String
  pluginId : String
  kind : Kind
  expectedOldDigest : Option String
  candidateDigest : Option String
  rollbackDigest : Option String
  phase : Phase
  status : Status
  requestedAt : String
  updatedAt : String
  completedAt : Option String
  reasonCode : Option String
  backupPathKey : Option String
  deriving DecidableEq

/-- `status IN ('pending', 'running', 'completion_uncertain')`. -/
def Transition.isOpen (t : Transition) : Bool := !t.status.isTerminal

structure Tombstone where
  tombstoneId : String
  projectRoot : String
  pluginId : String
  packageDigest : String
  backupPathKey : String
  originalDirectoryName : String
  movedAt : String
  deletedAt : Option String
  restoredAt : Option String
  retentionClass : RetentionClass
  reasonCode : String
  deriving DecidableEq

structure Event where
  projectRoot : String
  pluginId : String
  eventType : EventType
  createdAt : String
  deriving DecidableEq

structure DiscoveredDraft where
  projectRoot : String
  pluginId : String
  directoryName : String
  pluginVersion : String
  discoveredDigest : String
  deriving DecidableEq

structure TransitionDraft where
  transitionId : String
  projectRoot : String
  pluginId : String
  kind : Kind
  requestEventType : RequestEvent
  desiredState : DesiredState
  expectedOldDigest : Option String
  candidateDigest : Option String
  rollbackDigest : Option String
  backupPathKey : Option String
  deriving DecidableEq

structure AdvanceDraft where
  projectRoot : String
  transitionId : String
  expectedPhase : Phase
  nextPhase : Phase
  status : Status
  observedState : ObservedState
  acceptedDigest : Option String
  pendingDigest : Option String
  rollbackDigest : Option String
  clearPendingDigest : Bool
  lastHostSessionId : Option String
  lastErrorCode : Option String
  reasonCode : Option String
  eventType : EventType
  detailsJson : String
  deriving DecidableEq

structure TombstoneDraft where
  tombstoneId : String
  projectRoot : String
  pluginId : String
  packageDigest : String
  backupPathKey : String
  originalDirectoryName : String
  retentionClass : RetentionClass
  reasonCode : String
  deriving DecidableEq

structure PurgeDraft where
  projectRoot : String
  tombstoneId : String
  pluginId : String
  packageDigest : String
  backupPathKey : String
  originalDirectoryName : String
  deriving DecidableEq

/-! ## Validation -/

def maxIdentifierBytes : Nat := 128
def maxDetailsBytes : Nat := 8 * 1024

def requiredProjectRoot (root : String) : Except String String :=
  let normalized := normalizeProjectRoot root
  if (trim normalized).isEmpty then .error "project root identity is required" else .ok normalized

/-- `validate_identifier`. -/
def checkIdentifier (label value : String) : Except String String :=
  let value := trim value
  if value.isEmpty || decide (maxIdentifierBytes < value.utf8ByteSize) ||
      !value.toList.all (fun c => c.isAlphanum || c == '.' || c == '_' || c == '-') then
    .error ("invalid " ++ label)
  else .ok value

def checkDirectoryName (value : String) : Except String String :=
  let value := trim value
  if value.isEmpty || decide (maxIdentifierBytes < value.utf8ByteSize) || value == "." || value == ".." ||
      value.toList.any (fun c => c == '/' || c == '\\' || c == ':' || isControl c) then
    .error "invalid workspace plugin directory component"
  else .ok value

def checkOpaqueKey (value : String) : Except String String := do
  let value ← checkIdentifier "opaque backup key" value
  if value.toList.contains ':' then .error "opaque backup key must not be a path" else .ok value

def checkDigest (label value : String) : Except String String :=
  if value.utf8ByteSize ≠ 64 ∨ !value.toList.all (fun c => c.isDigit || ('a' ≤ c && c ≤ 'f')) then .error ("invalid " ++ label)
  else .ok value

/-- A check of a value that may be absent. -/
def checkOptional (check : String → Except String String) : Option String → Except String (Option String)
  | none => .ok none
  | some value => (check value).map some

/-- `str::contains`. -/
def containsText (text part : List Char) : Bool :=
  match text with
  | [] => part.isEmpty
  | c :: rest => part.isPrefixOf (c :: rest) || containsText rest part

def forbiddenDetailKeys : List String :=
  ["handle", "credential", "token", "secret", "content", "payload", "url", "header", "wasm", "memory", "workspace_id", "full_path"]

def detailKeyAllowed (key : String) : Bool :=
  let lower := key.toList.map Char.toLower
  !key.isEmpty && decide (key.utf8ByteSize ≤ 64) && !key.toList.any isControl &&
    !forbiddenDetailKeys.any (fun forbidden => containsText lower forbidden.toList)

def detailValueAllowed : Json → Bool
  | .null | .bool _ | .int _ | .float _ => true
  | .str s =>
    decide (s.utf8ByteSize ≤ 128) && !s.toList.any isControl && !containsText s.toList "handle.".toList &&
      !containsText s.toList "://".toList && !s.toList.contains '/' && !s.toList.contains '\\'
  | .arr _ | .obj _ => false

/-- `validate_details_json`. -/
def checkDetailsJson (value : String) : Except String String :=
  if maxDetailsBytes < value.utf8ByteSize then .error "plugin lifecycle details exceed their byte budget"
  else
    match Json.fromText value with
    | none => .error "plugin lifecycle details are malformed"
    | some (.obj fields) =>
      if 24 < fields.length then .error "plugin lifecycle details contain too many fields"
      else if !fields.all (fun field => detailKeyAllowed field.1) then
        .error "plugin lifecycle details contain a forbidden field"
      else if !fields.all (fun field => detailValueAllowed field.2) then
        .error "plugin lifecycle details contain an unsafe value"
      else .ok (Json.toText (.obj fields))
    | some _ => .error "plugin lifecycle details must be an object"

/-- The desired state that a transition of a kind may ask for. -/
def desiredMatches (kind : Kind) (desired : DesiredState) : Bool :=
  match kind with
  | .enable | .retry | .upgrade | .rollback => desired == .enabled
  | .uninstall => desired == .uninstalled
  | .disable => desired == .disabled
  | .projectTeardown | .shutdown => desired == .enabled || desired == .disabled

def requiresExpectedDigest : Kind → Bool
  | .disable | .uninstall | .upgrade | .rollback | .projectTeardown | .shutdown => true
  | .enable | .retry => false

/-- The digests that a transition of a kind needs. -/
def checkKindDigests (kind : Kind) (expectedOld candidate : Option String) : Except String Unit :=
  if (kind = .enable ∨ kind = .retry) ∧ candidate.isNone then .error "enable/retry transition requires a candidate digest"
  else if (kind = .upgrade ∨ kind = .rollback) ∧ (expectedOld.isNone ∨ candidate.isNone) then
    .error "upgrade/rollback transition requires expected and candidate digests"
  else if expectedOld.isSome ∧ expectedOld = candidate then
    .error "transition candidate digest must differ from expected old digest"
  else .ok ()

/-- `validate_transition_draft`. -/
def validateTransitionDraft (d : TransitionDraft) : Except String TransitionDraft := do
  if !desiredMatches d.kind d.desiredState then .error "transition kind requires another desired state"
  else do
    let expectedOldDigest ← checkOptional (checkDigest "expected old digest") d.expectedOldDigest
    let candidateDigest ← checkOptional (checkDigest "candidate digest") d.candidateDigest
    let rollbackDigest ← checkOptional (checkDigest "rollback digest") d.rollbackDigest
    checkKindDigests d.kind expectedOldDigest candidateDigest
    let transitionId ← checkIdentifier "transition id" d.transitionId
    let projectRoot ← requiredProjectRoot d.projectRoot
    let pluginId ← checkIdentifier "plugin id" d.pluginId
    let backupPathKey ← checkOptional checkOpaqueKey d.backupPathKey
    return { d with transitionId, projectRoot, pluginId, expectedOldDigest, candidateDigest, rollbackDigest, backupPathKey }

/-- `validate_transition_advance`: a terminal status goes with the completed phase. -/
def validateTransitionAdvance (d : AdvanceDraft) : Except String AdvanceDraft := do
  let projectRoot ← requiredProjectRoot d.projectRoot
  let transitionId ← checkIdentifier "transition id" d.transitionId
  if d.status.isTerminal ≠ decide (d.nextPhase = .completed) then
    .error "terminal plugin transition status requires completed phase"
  else do
    let reasonCode ← checkOptional (checkIdentifier "reason code") d.reasonCode
    let lastErrorCode ← checkOptional (checkIdentifier "error code") d.lastErrorCode
    let lastHostSessionId ← checkOptional (checkIdentifier "host session id") d.lastHostSessionId
    let acceptedDigest ← checkOptional (checkDigest "accepted digest") d.acceptedDigest
    let pendingDigest ← checkOptional (checkDigest "pending digest") d.pendingDigest
    let rollbackDigest ← checkOptional (checkDigest "rollback digest") d.rollbackDigest
    let detailsJson ← checkDetailsJson d.detailsJson
    return { d with projectRoot, transitionId, reasonCode, lastErrorCode, lastHostSessionId, acceptedDigest, pendingDigest,
                    rollbackDigest, detailsJson }

/-- `validate_discovered`; whether the version is semantic is what the `semver` crate says of it. -/
def validateDiscovered (d : DiscoveredDraft) (semver : Bool) : Except String DiscoveredDraft := do
  let projectRoot ← requiredProjectRoot d.projectRoot
  let pluginId ← checkIdentifier "plugin id" d.pluginId
  let directoryName ← checkDirectoryName d.directoryName
  let pluginVersion := trim d.pluginVersion
  if maxIdentifierBytes < pluginVersion.utf8ByteSize ∨ semver = false then
    .error "plugin lifecycle version must be semantic"
  else do
    let discoveredDigest ← checkDigest "discovered digest" d.discoveredDigest
    return { projectRoot, pluginId, directoryName, pluginVersion, discoveredDigest }

/-- `validate_tombstone`. -/
def validateTombstone (d : TombstoneDraft) : Except String TombstoneDraft := do
  let tombstoneId ← checkIdentifier "tombstone id" d.tombstoneId
  let projectRoot ← requiredProjectRoot d.projectRoot
  let pluginId ← checkIdentifier "plugin id" d.pluginId
  let packageDigest ← checkDigest "package digest" d.packageDigest
  let backupPathKey ← checkOpaqueKey d.backupPathKey
  let originalDirectoryName ← checkDirectoryName d.originalDirectoryName
  let reasonCode ← checkIdentifier "reason code" d.reasonCode
  return { d with tombstoneId, projectRoot, pluginId, packageDigest, backupPathKey, originalDirectoryName, reasonCode }

/-- `validate_purge_draft`. -/
def validatePurgeDraft (d : PurgeDraft) : Except String PurgeDraft := do
  let projectRoot ← requiredProjectRoot d.projectRoot
  let tombstoneId ← checkIdentifier "tombstone id" d.tombstoneId
  let pluginId ← checkIdentifier "plugin id" d.pluginId
  let packageDigest ← checkDigest "package digest" d.packageDigest
  let backupPathKey ← checkOpaqueKey d.backupPathKey
  let originalDirectoryName ← checkDirectoryName d.originalDirectoryName
  return { projectRoot, tombstoneId, pluginId, packageDigest, backupPathKey, originalDirectoryName }

end Rho.PluginLifecycle
