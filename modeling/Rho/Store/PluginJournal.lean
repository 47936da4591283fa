import Rho.Store.PluginLifecycle

/-!
# The operations of the lifecycle journal

Each operation checks its arguments, reads its rows and writes them in one transaction. A statement whose `WHERE` repeats what the
transaction has just read selects the row that was read, so its count is not asked for again; the partial index on open
transitions refuses nothing that `requestTransition` has not refused before it. The rows that are read back for the answer are
the rows that were written.

The answers of chrono to a text or a time (a normalized cutoff, the time ten minutes ago) come with the call.
-/

namespace Rho.PluginLifecycle

structure LifecycleDb where
  states : Table PluginState.key
  transitions : Table Transition.transitionId
  tombstones : Table Tombstone.tombstoneId
  events : List Event

def emptyDb : LifecycleDb := ⟨.empty _, .empty _, .empty _, []⟩

/-! ## Changes of a row -/

/-- The row of a plugin that is found for the first time. -/
def DiscoveredDraft.state (d : DiscoveredDraft) : PluginState where
  projectRoot := d.projectRoot
  pluginId := d.pluginId
  directoryName := d.directoryName
  pluginVersion := d.pluginVersion
  acceptedDigest := none
  pendingDigest := some d.discoveredDigest
  rollbackDigest := none
  desiredState := .disabled
  observedState := .discovered
  lastActivationGeneration := 0
  lastHostSessionId := none
  transitionId := none
  lastErrorCode := none

/-- The row of a plugin that is found again with another directory, version or package. -/
def PluginState.discovered (d : DiscoveredDraft) (s : PluginState) : PluginState :=
  { s with
    directoryName := d.directoryName
    pluginVersion := d.pluginVersion
    pendingDigest := if s.acceptedDigest = some d.discoveredDigest then none else some d.discoveredDigest
    observedState :=
      if s.acceptedDigest = none then .discovered
      else if s.acceptedDigest ≠ some d.discoveredDigest then .updatePending
      else s.observedState }

def PluginState.requested (d : TransitionDraft) (s : PluginState) : PluginState :=
  { s with
    desiredState := d.desiredState
    transitionId := some d.transitionId
    pendingDigest := d.candidateDigest.or s.pendingDigest
    rollbackDigest := d.rollbackDigest.or s.rollbackDigest
    lastErrorCode := none }

def PluginState.advanced (d : AdvanceDraft) (s : PluginState) : PluginState :=
  { s with
    observedState := d.observedState
    acceptedDigest := d.acceptedDigest.or s.acceptedDigest
    pendingDigest := if d.clearPendingDigest then none else d.pendingDigest.or s.pendingDigest
    rollbackDigest := d.rollbackDigest.or s.rollbackDigest
    lastHostSessionId := d.lastHostSessionId.or s.lastHostSessionId
    lastErrorCode := d.lastErrorCode }

def PluginState.uninstalled (s : PluginState) : PluginState :=
  { s with
    desiredState := .uninstalled
    observedState := .uninstalled
    pendingDigest := none
    lastHostSessionId := none
    lastErrorCode := none }

/-- The row of a restored plugin is disabled and names no transition. -/
def PluginState.restored (s : PluginState) : PluginState :=
  { s with
    desiredState := .disabled
    observedState := .disabled
    transitionId := none
    pendingDigest := none
    lastHostSessionId := none
    lastErrorCode := none }

def PluginState.replaced (candidate expectedOld hostSessionId : String) (s : PluginState) : PluginState :=
  { s with
    acceptedDigest := some candidate
    pendingDigest := none
    rollbackDigest := some expectedOld
    observedState := .active
    lastHostSessionId := some hostSessionId
    lastErrorCode := none }

/-- The row of a plugin that crashed or has to be recovered. -/
def PluginState.failedAs (observedState : ObservedState) (reasonCode : String) (s : PluginState) : PluginState :=
  { s with
    observedState := observedState
    lastErrorCode := some reasonCode }

def PluginState.allocated (generation : Int) (s : PluginState) : PluginState :=
  { s with lastActivationGeneration := generation }

/-- The row of a transition that was requested; with no time it is `synthetic_transition`. -/
def TransitionDraft.transition (d : TransitionDraft) (now : String) : Transition where
  transitionId := d.transitionId
  projectRoot := d.projectRoot
  pluginId := d.pluginId
  kind := d.kind
  expectedOldDigest := d.expectedOldDigest
  candidateDigest := d.candidateDigest
  rollbackDigest := d.rollbackDigest
  phase := .requested
  status := .pending
  requestedAt := now
  updatedAt := now
  completedAt := none
  reasonCode := none
  backupPathKey := d.backupPathKey

def Transition.advanced (d : AdvanceDraft) (now : String) (t : Transition) : Transition :=
  { t with
    phase := d.nextPhase
    status := d.status
    updatedAt := now
    completedAt := if d.status.isTerminal then some now else none
    reasonCode := d.reasonCode }

/-- The row of a transition that is completed together with the state row. -/
def Transition.finished (reasonCode : Option String) (now : String) (t : Transition) : Transition :=
  { t with
    phase := .completed
    status := .completed
    updatedAt := now
    completedAt := some now
    reasonCode := reasonCode }

/-- The row of a package that was moved; with no time it is `synthetic_tombstone`. -/
def TombstoneDraft.tombstone (d : TombstoneDraft) (now : String) : Tombstone where
  tombstoneId := d.tombstoneId
  projectRoot := d.projectRoot
  pluginId := d.pluginId
  packageDigest := d.packageDigest
  backupPathKey := d.backupPathKey
  originalDirectoryName := d.originalDirectoryName
  movedAt := now
  deletedAt := none
  restoredAt := none
  retentionClass := d.retentionClass
  reasonCode := d.reasonCode

/-- The row of a package that is back in its directory. -/
def Tombstone.restoreAt (now : String) (t : Tombstone) : Tombstone := { t with restoredAt := some now }

def Tombstone.classify (retentionClass : RetentionClass) (t : Tombstone) : Tombstone := { t with retentionClass := retentionClass }

/-- The row of a package that is deleted for good. -/
def Tombstone.purgeAt (now : String) (t : Tombstone) : Tombstone :=
  { t with
    retentionClass := .expired
    deletedAt := some now }

/-! No change touches the key of its row. -/

theorem PluginState.discovered_key (d : DiscoveredDraft) (s : PluginState) : (s.discovered d).key = s.key := rfl
theorem PluginState.requested_key (d : TransitionDraft) (s : PluginState) : (s.requested d).key = s.key := rfl
theorem PluginState.advanced_key (d : AdvanceDraft) (s : PluginState) : (s.advanced d).key = s.key := rfl
theorem PluginState.uninstalled_key (s : PluginState) : s.uninstalled.key = s.key := rfl
theorem PluginState.restored_key (s : PluginState) : s.restored.key = s.key := rfl
theorem PluginState.replaced_key (candidate expectedOld hostSessionId : String) (s : PluginState) :
    (s.replaced candidate expectedOld hostSessionId).key = s.key := rfl
theorem PluginState.failedAs_key (observedState : ObservedState) (reasonCode : String) (s : PluginState) :
    (s.failedAs observedState reasonCode).key = s.key := rfl
theorem PluginState.allocated_key (generation : Int) (s : PluginState) : (s.allocated generation).key = s.key := rfl
theorem Transition.advanced_transitionId (d : AdvanceDraft) (now : String) (t : Transition) :
    (t.advanced d now).transitionId = t.transitionId := rfl
theorem Transition.finished_transitionId (reasonCode : Option String) (now : String) (t : Transition) :
    (t.finished reasonCode now).transitionId = t.transitionId := rfl
theorem Tombstone.restoreAt_tombstoneId (now : String) (t : Tombstone) : (t.restoreAt now).tombstoneId = t.tombstoneId := rfl
theorem Tombstone.classify_tombstoneId (retentionClass : RetentionClass) (t : Tombstone) :
    (t.classify retentionClass).tombstoneId = t.tombstoneId := rfl
theorem Tombstone.purgeAt_tombstoneId (now : String) (t : Tombstone) : (t.purgeAt now).tombstoneId = t.tombstoneId := rfl

/-- `transition_matches_draft`. -/
def Transition.matchesDraft (t : Transition) (d : TransitionDraft) : Bool :=
  t.pluginId == d.pluginId && t.kind == d.kind && t.expectedOldDigest == d.expectedOldDigest &&
    t.candidateDigest == d.candidateDigest && t.rollbackDigest == d.rollbackDigest && t.backupPathKey == d.backupPathKey

/-- `ensure_tombstone_matches`. -/
def Tombstone.ensureMatches (t : Tombstone) (d : TombstoneDraft) : Except String Unit :=
  if t.pluginId = d.pluginId ∧ t.packageDigest = d.packageDigest ∧ t.backupPathKey = d.backupPathKey ∧
      t.originalDirectoryName = d.originalDirectoryName ∧ t.retentionClass = d.retentionClass ∧ t.reasonCode = d.reasonCode ∧
      t.deletedAt = none ∧ t.restoredAt = none then
    .ok ()
  else .error "tombstone ID already belongs to different package evidence"

/-- `ensure_purge_identity`. -/
def Tombstone.ensurePurgeIdentity (t : Tombstone) (d : PurgeDraft) : Except String Unit :=
  if t.pluginId = d.pluginId ∧ t.packageDigest = d.packageDigest ∧ t.backupPathKey = d.backupPathKey ∧
      t.originalDirectoryName = d.originalDirectoryName then
    .ok ()
  else .error "plugin purge identity does not match tombstone truth"

namespace LifecycleDb

variable (db : LifecycleDb)

/-! ## Statements -/

/-- `get_state_on`. -/
def getState (root pluginId : String) : Option PluginState := db.states.get (root, pluginId)

/-- `get_transition_on`. -/
def getTransition (root transitionId : String) : Option Transition :=
  (db.transitions.get transitionId).filter (fun t => t.projectRoot = root)

/-- `get_tombstone_on`. -/
def getTombstone (root tombstoneId : String) : Option Tombstone :=
  (db.tombstones.get tombstoneId).filter (fun t => t.projectRoot = root)

/-- A transition of the plugin that is not over. -/
def openTransition (root pluginId : String) : Option Transition :=
  db.transitions.rows.find? (fun t => t.projectRoot == root && t.pluginId == pluginId && t.isOpen)

/-- A row that an operation cannot do without. -/
def required {α : Type} (message : String) : Option α → Except String α
  | none => .error message
  | some row => .ok row

def editState (root pluginId : String) (f : PluginState → PluginState) (hf : ∀ s, (f s).key = s.key) : LifecycleDb :=
  { db with states := db.states.update (fun s => s.key = (root, pluginId)) f hf }

def editTransition (transitionId : String) (f : Transition → Transition) (hf : ∀ t, (f t).transitionId = t.transitionId) :
    LifecycleDb :=
  { db with transitions := db.transitions.update (fun t => t.transitionId = transitionId) f hf }

def editTombstone (tombstoneId : String) (f : Tombstone → Tombstone) (hf : ∀ t, (f t).tombstoneId = t.tombstoneId) : LifecycleDb :=
  { db with tombstones := db.tombstones.update (fun t => t.tombstoneId = tombstoneId) f hf }

/-- `insert_lifecycle_event`. -/
def record (root pluginId : String) (eventType : EventType) (now : String) : LifecycleDb :=
  { db with events := db.events ++ [⟨root, pluginId, eventType, now⟩] }

end LifecycleDb

/-! ## Operations -/

/-- `WorkspacePluginTransitionRequestResult`, and what a replacement that is completed answers. -/
structure RequestResult where
  outcome : Outcome
  state : PluginState
  transition : Transition

structure GenerationAllocation where
  outcome : Outcome
  generation : Int

structure UninstallCompletion where
  outcome : Outcome
  state : PluginState
  transition : Transition
  tombstone : Tombstone

structure RestoreCompletion where
  outcome : Outcome
  state : PluginState
  tombstone : Tombstone

structure RetentionSweep where
  outcome : Outcome
  expired : List Tombstone

structure PurgeResult where
  outcome : Outcome
  tombstone : Tombstone

structure CrashOutcome where
  outcome : Outcome
  crashCount : Nat
  blocked : Bool
  state : PluginState

namespace LifecycleDb

variable (db : LifecycleDb)

/-- `upsert_discovered_workspace_plugin`. -/
def upsertDiscovered (draft : DiscoveredDraft) (semver : Bool) (now : String) :
    Except String ((Outcome × PluginState) × LifecycleDb) := do
  let d ← validateDiscovered draft semver
  match db.getState d.projectRoot d.pluginId with
  | some existing =>
    if existing.directoryName = d.directoryName ∧ existing.pluginVersion = d.pluginVersion ∧
        (existing.pendingDigest = some d.discoveredDigest ∨
          (existing.acceptedDigest = some d.discoveredDigest ∧ existing.pendingDigest = none)) then
      .ok ((.unchanged, existing), db)
    else
      .ok ((.applied, existing.discovered d),
        (db.editState d.projectRoot d.pluginId (PluginState.discovered d) (PluginState.discovered_key d)).record
          d.projectRoot d.pluginId .discovery now)
  | none =>
    match db.states.insert d.state with
    | none => .error "UNIQUE constraint failed: workspace_plugin_states.project_root, workspace_plugin_states.plugin_id"
    | some states =>
      .ok ((.applied, d.state), { db with states := states }.record d.projectRoot d.pluginId .discovery now)

/-- `request_workspace_plugin_transition`. -/
def requestTransition (draft : TransitionDraft) (now : String) : Except String (RequestResult × LifecycleDb) := do
  let d ← validateTransitionDraft draft
  match db.getTransition d.projectRoot d.transitionId with
  | some existing => do
    let state ← required "transition state is missing" (db.getState d.projectRoot d.pluginId)
    if existing.matchesDraft d then .ok (⟨.unchanged, state, existing⟩, db)
    else .error "transition ID already belongs to different lifecycle intent"
  | none => do
    let state ← required "workspace plugin must be discovered before a transition is requested"
      (db.getState d.projectRoot d.pluginId)
    if requiresExpectedDigest d.kind ∧ state.acceptedDigest ≠ d.expectedOldDigest then
      .ok (⟨.stale, state, d.transition ""⟩, db)
    else if (db.openTransition d.projectRoot d.pluginId).isSome then .ok (⟨.conflict, state, d.transition ""⟩, db)
    else
      match db.transitions.insert (d.transition now) with
      | none => .error "UNIQUE constraint failed: workspace_plugin_transitions.transition_id"
      | some transitions =>
        .ok (⟨.applied, state.requested d, d.transition now⟩,
          ({ db with transitions := transitions }.editState d.projectRoot d.pluginId (PluginState.requested d)
            (PluginState.requested_key d)).record d.projectRoot d.pluginId
            (match d.requestEventType with | .userRequested => .userRequested | .recovery => .recovery) now)

/-- `get_workspace_plugin_transition`. -/
def getWorkspacePluginTransition (root transitionId : String) : Except String (Option Transition) := do
  let root ← requiredProjectRoot root
  let transitionId ← checkIdentifier "transition id" transitionId
  return db.getTransition root transitionId

/-- `advance_workspace_plugin_transition` up to its transaction: an answer, or the draft to write. -/
def readAdvance (draft : AdvanceDraft) : Except String (Outcome ⊕ AdvanceDraft) := do
  let d ← validateTransitionAdvance draft
  let current ← db.getWorkspacePluginTransition d.projectRoot d.transitionId
  match current with
  | none => .ok (.inl .notFound)
  | some current =>
    if current.phase = d.nextPhase ∧ current.status = d.status then .ok (.inl .unchanged)
    else if current.phase ≠ d.expectedPhase ∨ d.nextPhase.rank ≤ current.phase.rank ∨ current.status.isTerminal then
      .ok (.inl .stale)
    else .ok (.inr d)

/-- `WHERE project_root = ?1 AND transition_id = ?2 AND phase = ?3`. -/
def advances (d : AdvanceDraft) (t : Transition) : Bool :=
  t.projectRoot == d.projectRoot && t.transitionId == d.transitionId && t.phase == d.expectedPhase

/-- The transaction of `advance_workspace_plugin_transition`. -/
def writeAdvance (d : AdvanceDraft) (now : String) : Except String (Outcome × LifecycleDb) :=
  if db.transitions.changed (advances d) ≠ 1 then .ok (.stale, db)
  else
    let written : LifecycleDb :=
      { db with transitions := db.transitions.update (advances d) (Transition.advanced d now) (Transition.advanced_transitionId d now) }
    match written.getTransition d.projectRoot d.transitionId with
    | none => .error "Query returned no rows"
    | some t => do
      let _ ← checkDetailsJson d.detailsJson
      return (.applied,
        (written.editState d.projectRoot t.pluginId (PluginState.advanced d) (PluginState.advanced_key d)).record
          d.projectRoot t.pluginId d.eventType now)

/-- `allocate_workspace_plugin_generation`; what it reads after its statement only goes into the answer. -/
def allocateGeneration (root pluginId transitionId : String) (expected : Int) :
    Except String (GenerationAllocation × LifecycleDb) := do
  let root ← requiredProjectRoot root
  let pluginId ← checkIdentifier "plugin id" pluginId
  let transitionId ← checkIdentifier "transition id" transitionId
  if expected < 0 ∨ expected = 2 ^ 63 - 1 then .error "activation generation expectation is invalid"
  else
    match db.getState root pluginId with
    | none => .ok (⟨.notFound, expected⟩, db)
    | some state =>
      if state.transitionId = some transitionId ∧ state.lastActivationGeneration = expected ∧
          (db.getTransition root transitionId).any (fun t => t.pluginId == pluginId && t.isOpen) then
        .ok (⟨.applied, expected + 1⟩,
          db.editState root pluginId (PluginState.allocated (expected + 1)) (PluginState.allocated_key (expected + 1)))
      else .ok (⟨.stale, state.lastActivationGeneration⟩, db)

/-- The tombstone of an uninstall: the one that is there, or a new one under its id and its backup key. -/
def keepTombstone (d : TombstoneDraft) (now : String) : Except String (Tombstone × LifecycleDb) :=
  match db.getTombstone d.projectRoot d.tombstoneId with
  | some existing => do
    existing.ensureMatches d
    return (existing, db)
  | none =>
    if db.tombstones.rows.any (fun t => t.backupPathKey == d.backupPathKey) then
      .error "UNIQUE constraint failed: workspace_plugin_package_tombstones.backup_path_key"
    else
      match db.tombstones.insert (d.tombstone now) with
      | none => .error "UNIQUE constraint failed: workspace_plugin_package_tombstones.tombstone_id"
      | some tombstones => .ok (d.tombstone now, { db with tombstones := tombstones })

/-- `complete_workspace_plugin_uninstall`. -/
def completeUninstall (transitionId : String) (draft : TombstoneDraft) (now : String) :
    Except String (UninstallCompletion × LifecycleDb) := do
  let transitionId ← checkIdentifier "transition id" transitionId
  let d ← validateTombstone draft
  let transition ← required "uninstall transition is missing" (db.getTransition d.projectRoot transitionId)
  let state ← required "uninstall plugin state is missing" (db.getState d.projectRoot d.pluginId)
  if ¬ (transition.pluginId = d.pluginId ∧ transition.kind = .uninstall ∧ transition.expectedOldDigest = some d.packageDigest ∧
        transition.backupPathKey = some d.backupPathKey) ∨
      ¬ (state.directoryName = d.originalDirectoryName ∧ state.acceptedDigest = some d.packageDigest ∧
        state.desiredState = .uninstalled ∧ state.transitionId = some transitionId) ∨
      ¬ (d.retentionClass = .recoverable ∧ d.reasonCode = "user_uninstall") then
    .error "uninstall completion does not match durable lifecycle identity"
  else if transition.phase = .completed ∧ transition.status = .completed ∧ state.observedState = .uninstalled then do
    let tombstone ← required "completed uninstall is missing tombstone truth" (db.getTombstone d.projectRoot d.tombstoneId)
    tombstone.ensureMatches d
    return (⟨.unchanged, state, transition, tombstone⟩, db)
  else if transition.phase ≠ .packageMoved ∨ transition.isOpen = false then
    .ok (⟨.stale, state, transition, (db.getTombstone d.projectRoot d.tombstoneId).getD (d.tombstone "")⟩, db)
  else do
    let (tombstone, kept) ← db.keepTombstone d now
    return (⟨.applied, state.uninstalled, transition.finished (some "user_uninstall") now, tombstone⟩,
      ((kept.editTransition transitionId (Transition.finished (some "user_uninstall") now)
        (Transition.finished_transitionId (some "user_uninstall") now)).editState d.projectRoot d.pluginId
          PluginState.uninstalled PluginState.uninstalled_key).record d.projectRoot d.pluginId .transitionCompleted now)

/-- `complete_workspace_plugin_restore`. -/
def completeRestore (root tombstoneId : String) (now : String) : Except String (RestoreCompletion × LifecycleDb) := do
  let root ← requiredProjectRoot root
  let tombstoneId ← checkIdentifier "tombstone id" tombstoneId
  let tombstone ← required "plugin tombstone is missing" (db.getTombstone root tombstoneId)
  if tombstone.deletedAt.isSome then .error "deleted plugin tombstone cannot be restored"
  else if tombstone.retentionClass ≠ .recoverable then .error "plugin tombstone is not recoverable"
  else do
    let state ← required "restored plugin state is missing" (db.getState root tombstone.pluginId)
    if ¬ (state.directoryName = tombstone.originalDirectoryName ∧ state.acceptedDigest = some tombstone.packageDigest) then
      .error "restore tombstone does not match durable lifecycle identity"
    else if tombstone.restoredAt.isSome ∧ state.desiredState = .disabled ∧ state.observedState = .disabled then
      .ok (⟨.unchanged, state, tombstone⟩, db)
    else if tombstone.restoredAt.isSome ∨ state.desiredState ≠ .uninstalled ∨ state.observedState ≠ .uninstalled then
      .ok (⟨.stale, state, tombstone⟩, db)
    else
      .ok (⟨.applied, state.restored, tombstone.restoreAt now⟩,
        ((db.editTombstone tombstoneId (Tombstone.restoreAt now) (Tombstone.restoreAt_tombstoneId now)).editState root
          tombstone.pluginId PluginState.restored PluginState.restored_key).record root tombstone.pluginId .recovery now)

/-- The tombstones that a retention sweep takes. -/
def expiring (root cutoff : String) (limit : Nat) : List Tombstone :=
  let due := db.tombstones.rows.filter (fun t =>
    t.projectRoot == root && t.retentionClass == .recoverable && decide (t.movedAt ≤ cutoff) && t.deletedAt.isNone &&
      t.restoredAt.isNone)
  (due.mergeSort (fun a b => decide (a.movedAt < b.movedAt ∨ (a.movedAt = b.movedAt ∧ a.tombstoneId ≤ b.tombstoneId)))).take limit

def maxRetentionBatch : Nat := 100

/-- `expire_workspace_plugin_tombstones`; `cutoff` is nothing when the text is no time. -/
def expireTombstones (root : String) (cutoff : Option String) (limit : Nat) (now : String) :
    Except String (RetentionSweep × LifecycleDb) := do
  let root ← requiredProjectRoot root
  let cutoff ← required "plugin retention cutoff is invalid" cutoff
  if limit = 0 ∨ maxRetentionBatch < limit then .error "plugin retention batch limit is invalid"
  else
    let candidates := db.expiring root cutoff limit
    let expired := candidates.map (Tombstone.classify .expired)
    .ok (⟨if expired.isEmpty then .unchanged else .applied, expired⟩,
      candidates.foldl (fun db t =>
        (db.editTombstone t.tombstoneId (Tombstone.classify .expired) (Tombstone.classify_tombstoneId .expired)).record
          root t.pluginId .recovery now) db)

/-- `request_workspace_plugin_purge`. -/
def requestPurge (draft : PurgeDraft) (now : String) : Except String (PurgeResult × LifecycleDb) := do
  let d ← validatePurgeDraft draft
  let tombstone ← required "plugin purge tombstone is missing" (db.getTombstone d.projectRoot d.tombstoneId)
  tombstone.ensurePurgeIdentity d
  if tombstone.deletedAt.isSome ∧ tombstone.retentionClass = .expired then .ok (⟨.unchanged, tombstone⟩, db)
  else if tombstone.deletedAt.isSome ∨ tombstone.restoredAt.isSome then .ok (⟨.stale, tombstone⟩, db)
  else
    match tombstone.retentionClass with
    | .purgePending => .ok (⟨.unchanged, tombstone⟩, db)
    | .recoverable => .ok (⟨.stale, tombstone⟩, db)
    | .expired =>
      .ok (⟨.applied, tombstone.classify .purgePending⟩,
        (db.editTombstone d.tombstoneId (Tombstone.classify .purgePending) (Tombstone.classify_tombstoneId .purgePending)).record
          d.projectRoot d.pluginId .recovery now)

/-- `complete_workspace_plugin_purge`. -/
def completePurge (draft : PurgeDraft) (now : String) : Except String (PurgeResult × LifecycleDb) := do
  let d ← validatePurgeDraft draft
  let tombstone ← required "plugin purge tombstone is missing" (db.getTombstone d.projectRoot d.tombstoneId)
  tombstone.ensurePurgeIdentity d
  if tombstone.deletedAt.isSome ∧ tombstone.retentionClass = .expired then .ok (⟨.unchanged, tombstone⟩, db)
  else if tombstone.retentionClass ≠ .purgePending ∨ tombstone.deletedAt.isSome ∨ tombstone.restoredAt.isSome then
    .ok (⟨.stale, tombstone⟩, db)
  else
    .ok (⟨.applied, tombstone.purgeAt now⟩,
      (db.editTombstone d.tombstoneId (Tombstone.purgeAt now) (Tombstone.purgeAt_tombstoneId now)).record
        d.projectRoot d.pluginId .recovery now)

/-- `complete_workspace_plugin_replacement`. -/
def completeReplacement (root transitionId hostSessionId : String) (now : String) :
    Except String (RequestResult × LifecycleDb) := do
  let root ← requiredProjectRoot root
  let transitionId ← checkIdentifier "transition id" transitionId
  let hostSessionId ← checkIdentifier "host session id" hostSessionId
  let transition ← required "replacement transition is missing" (db.getTransition root transitionId)
  if transition.kind ≠ .upgrade ∧ transition.kind ≠ .rollback then
    .error "replacement completion requires Upgrade or Rollback"
  else do
    let expectedOld ← required "replacement expected digest is missing" transition.expectedOldDigest
    let candidate ← required "replacement candidate digest is missing" transition.candidateDigest
    let state ← required "replacement plugin state is missing" (db.getState root transition.pluginId)
    if transition.phase = .completed ∧ transition.status = .completed ∧ state.acceptedDigest = some candidate ∧
        state.rollbackDigest = some expectedOld ∧ state.lastHostSessionId = some hostSessionId then
      .ok (⟨.unchanged, state, transition⟩, db)
    else if transition.phase = .pointerSwapped ∧
        (transition.status = .running ∨ transition.status = .completionUncertain) ∧ state.desiredState = .enabled ∧
        state.acceptedDigest = some expectedOld ∧ state.pendingDigest = some candidate ∧
        state.transitionId = some transitionId then
      .ok (⟨.applied, state.replaced candidate expectedOld hostSessionId, transition.finished none now⟩,
        ((db.editTransition transitionId (Transition.finished none now) (Transition.finished_transitionId none now)).editState
          root transition.pluginId (PluginState.replaced candidate expectedOld hostSessionId)
          (PluginState.replaced_key candidate expectedOld hostSessionId)).record root transition.pluginId
          .transitionCompleted now)
    else .ok (⟨.stale, state, transition⟩, db)

/-- The recovery's transition, when it names one, is a transition of the plugin. -/
def checkRecoveryTransition (root pluginId : String) : Option String → Except String Unit
  | none => .ok ()
  | some transitionId =>
    if (db.getTransition root transitionId).any (fun t => t.pluginId == pluginId) then .ok ()
    else .error "recovery transition is missing"

/-- `record_workspace_plugin_recovery_required`. -/
def recordRecoveryRequired (root pluginId : String) (transitionId : Option String) (reasonCode : String) (now : String) :
    Except String (Outcome × LifecycleDb) := do
  let root ← requiredProjectRoot root
  let pluginId ← checkIdentifier "plugin id" pluginId
  let transitionId ← checkOptional (checkIdentifier "transition id") transitionId
  let reasonCode ← checkIdentifier "recovery reason code" reasonCode
  let state ← required "recovery plugin state is missing" (db.getState root pluginId)
  if state.observedState = .blocked ∧ state.lastErrorCode = some reasonCode then .ok (.unchanged, db)
  else if transitionId.isSome ∧ state.transitionId ≠ transitionId then .ok (.stale, db)
  else do
    db.checkRecoveryTransition root pluginId transitionId
    return (.applied,
      (db.editState root pluginId (PluginState.failedAs .blocked reasonCode) (PluginState.failedAs_key .blocked reasonCode)).record
        root pluginId .recovery now)

/-- `record_workspace_plugin_crash`; the third crash since `cutoff` blocks the plugin. -/
def recordCrash (root pluginId packageDigest hostSessionId reasonCode : String) (now cutoff : String) :
    Except String (CrashOutcome × LifecycleDb) := do
  let root ← requiredProjectRoot root
  let pluginId ← checkIdentifier "plugin id" pluginId
  let packageDigest ← checkDigest "package digest" packageDigest
  let hostSessionId ← checkIdentifier "host session id" hostSessionId
  let reasonCode ← checkIdentifier "crash reason code" reasonCode
  let state ← required "crashed plugin lifecycle state is missing" (db.getState root pluginId)
  if ¬ (state.desiredState = .enabled ∧ state.acceptedDigest = some packageDigest ∧
      state.lastHostSessionId = some hostSessionId) then
    .ok (⟨.stale, 0, false, state⟩, db)
  else
    let crashCount := db.events.countP (fun e =>
      e.projectRoot == root && e.pluginId == pluginId && e.eventType == .hostQuarantined && decide (cutoff ≤ e.createdAt)) + 1
    let blocked := decide (3 ≤ crashCount)
    let observedState := if blocked then ObservedState.blocked else .crashed
    let reasonCode := if blocked then "crash_loop_blocked" else reasonCode
    .ok (⟨.applied, crashCount, blocked, state.failedAs observedState reasonCode⟩,
      (db.editState root pluginId (PluginState.failedAs observedState reasonCode)
        (PluginState.failedAs_key observedState reasonCode)).record root pluginId .hostQuarantined now)

end LifecycleDb

/-! ## The store and its connections -/

/-- The database and, of each connection, the advance that has read its transition and not yet written it. -/
structure Journal where
  db : LifecycleDb
  pending : Nat → Option AdvanceDraft

def Journal.start : Journal := ⟨emptyDb, fun _ => none⟩

inductive JournalStep where
  | discover (draft : DiscoveredDraft) (semver : Bool) (now : String)
  | request (draft : TransitionDraft) (now : String)
  | readAdvance (connection : Nat) (draft : AdvanceDraft)
  | writeAdvance (connection : Nat) (now : String)
  | allocate (root pluginId transitionId : String) (expected : Int)
  | completeUninstall (transitionId : String) (draft : TombstoneDraft) (now : String)
  | completeRestore (root tombstoneId : String) (now : String)
  | expire (root : String) (cutoff : Option String) (limit : Nat) (now : String)
  | requestPurge (draft : PurgeDraft) (now : String)
  | completePurge (draft : PurgeDraft) (now : String)
  | completeReplacement (root transitionId hostSessionId : String) (now : String)
  | recoveryRequired (root pluginId : String) (transitionId : Option String) (reasonCode : String) (now : String)
  | crash (root pluginId packageDigest hostSessionId reasonCode : String) (now cutoff : String)

/-- What is committed: an operation that fails is rolled back. -/
def commit {α : Type} (db : LifecycleDb) : Except String (α × LifecycleDb) → LifecycleDb
  | .ok (_, written) => written
  | .error _ => db

namespace Journal

/-- What a step does to the database. -/
def stepDb (s : Journal) : JournalStep → LifecycleDb
  | .discover draft semver now => commit s.db (s.db.upsertDiscovered draft semver now)
  | .request draft now => commit s.db (s.db.requestTransition draft now)
  | .readAdvance _ _ => s.db
  | .writeAdvance connection now =>
    match s.pending connection with
    | none => s.db
    | some d => commit s.db (s.db.writeAdvance d now)
  | .allocate root pluginId transitionId expected => commit s.db (s.db.allocateGeneration root pluginId transitionId expected)
  | .completeUninstall transitionId draft now => commit s.db (s.db.completeUninstall transitionId draft now)
  | .completeRestore root tombstoneId now => commit s.db (s.db.completeRestore root tombstoneId now)
  | .expire root cutoff limit now => commit s.db (s.db.expireTombstones root cutoff limit now)
  | .requestPurge draft now => commit s.db (s.db.requestPurge draft now)
  | .completePurge draft now => commit s.db (s.db.completePurge draft now)
  | .completeReplacement root transitionId hostSessionId now =>
    commit s.db (s.db.completeReplacement root transitionId hostSessionId now)
  | .recoveryRequired root pluginId transitionId reasonCode now =>
    commit s.db (s.db.recordRecoveryRequired root pluginId transitionId reasonCode now)
  | .crash root pluginId packageDigest hostSessionId reasonCode now cutoff =>
    commit s.db (s.db.recordCrash root pluginId packageDigest hostSessionId reasonCode now cutoff)

/-- What a step does to the advances on their way. -/
def stepPending (s : Journal) : JournalStep → Nat → Option AdvanceDraft
  | .readAdvance connection draft =>
    match s.db.readAdvance draft with
    | .ok (.inr d) => Function.update s.pending connection (some d)
    | .ok (.inl _) | .error _ => Function.update s.pending connection none
  | .writeAdvance connection _ => Function.update s.pending connection none
  | _ => s.pending

def step (s : Journal) (l : JournalStep) : Journal := ⟨s.stepDb l, s.stepPending l⟩

end Journal

end Rho.PluginLifecycle
