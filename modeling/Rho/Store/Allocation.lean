import Rho.Store.PluginJournal

/-!
# Allocating a generation, statement by statement

`allocate_workspace_plugin_generation` without a transaction: a guarded `UPDATE`, then a read of the row for the generation of the
answer, and, where the statement changed no row, a further read for its outcome. The statements of the other connections may fall
between them.
-/

namespace Rho.PluginLifecycle

/-- An allocation with its arguments checked. -/
structure AllocateCall where
  root : String
  pluginId : String
  transitionId : String
  expected : Int
  deriving DecidableEq

def AllocateCall.key (call : AllocateCall) : String × String := (call.root, call.pluginId)

/-- The checks before the first statement. -/
def AllocateCall.check (root pluginId transitionId : String) (expected : Int) : Except String AllocateCall := do
  let root ← requiredProjectRoot root
  let pluginId ← checkIdentifier "plugin id" pluginId
  let transitionId ← checkIdentifier "transition id" transitionId
  if expected < 0 ∨ expected = 2 ^ 63 - 1 then .error "activation generation expectation is invalid"
  else .ok ⟨root, pluginId, transitionId, expected⟩

namespace LifecycleDb

variable (db : LifecycleDb)

/-- `get_workspace_plugin_state`. -/
def getWorkspacePluginState (root pluginId : String) : Except String (Option PluginState) := do
  let root ← requiredProjectRoot root
  let pluginId ← checkIdentifier "plugin id" pluginId
  return db.getState root pluginId

/-- The rows that the `UPDATE` of an allocation selects. -/
def allocates (call : AllocateCall) (s : PluginState) : Bool :=
  s.key == call.key && s.transitionId == some call.transitionId && s.lastActivationGeneration == call.expected &&
    (db.getTransition call.root call.transitionId).any (fun t => t.pluginId == call.pluginId && t.isOpen)

/-- The `UPDATE` of an allocation. -/
def updateGeneration (call : AllocateCall) : LifecycleDb :=
  { db with
    states := db.states.update (db.allocates call) (PluginState.allocated (call.expected + 1))
      (PluginState.allocated_key (call.expected + 1)) }

end LifecycleDb

/-- How far the allocation of a connection has come: nothing is under way, the `UPDATE` has changed one row or another number of
them, or the generation is read and the outcome is not. -/
inductive AllocateStage where
  | idle
  | updated (call : AllocateCall) (changed : Bool)
  | read (call : AllocateCall) (generation : Int)
  deriving DecidableEq

/-- What a call answers. -/
structure Allocation where
  call : AllocateCall
  outcome : Outcome
  generation : Int
  deriving DecidableEq

/-- The database and the allocations under way on its connections. -/
structure AllocationRace (n : Nat) where
  db : LifecycleDb
  stage : Fin n → AllocateStage

/-- The next statement of a connection; a call begins with its `UPDATE`. -/
inductive AllocationStep (n : Nat) where
  | update (connection : Fin n) (root pluginId transitionId : String) (expected : Int)
  | readGeneration (connection : Fin n)
  | readPresence (connection : Fin n)

namespace AllocationRace

variable {n : Nat} (s : AllocationRace n)

def setStage (connection : Fin n) (stage : AllocateStage) : AllocationRace n :=
  { s with stage := Function.update s.stage connection stage }

/-- What a statement does and what the call answers when it is its last. -/
def exec : AllocationStep n → AllocationRace n × Option Allocation
  | .update connection root pluginId transitionId expected =>
    match s.stage connection, AllocateCall.check root pluginId transitionId expected with
    | .idle, .ok call =>
      let changed := decide (s.db.states.changed (s.db.allocates call) = 1)
      ({ s with db := s.db.updateGeneration call }.setStage connection (.updated call changed), none)
    | _, _ => (s, none)
  | .readGeneration connection =>
    match s.stage connection with
    | .updated call changed =>
      match s.db.getWorkspacePluginState call.root call.pluginId with
      | .error _ => (s.setStage connection .idle, none)
      | .ok state =>
        let generation := (state.map PluginState.lastActivationGeneration).getD call.expected
        if changed then (s.setStage connection .idle, some ⟨call, .applied, generation⟩)
        else (s.setStage connection (.read call generation), none)
    | _ => (s, none)
  | .readPresence connection =>
    match s.stage connection with
    | .read call generation =>
      match s.db.getWorkspacePluginState call.root call.pluginId with
      | .error _ => (s.setStage connection .idle, none)
      | .ok state =>
        (s.setStage connection .idle, some ⟨call, if state.isSome then .stale else .notFound, generation⟩)
    | _ => (s, none)

def step (l : AllocationStep n) : AllocationRace n := (s.exec l).1

/-- No call is under way. -/
def start (n : Nat) (db : LifecycleDb) : AllocationRace n := ⟨db, fun _ => .idle⟩

/-- What the calls of a run answer, one after the other. -/
def answers (trace : List (AllocationStep n)) : List Allocation :=
  (Run.outputs step (fun s l => (s.exec l).2) s trace).filterMap id

end AllocationRace

end Rho.PluginLifecycle
