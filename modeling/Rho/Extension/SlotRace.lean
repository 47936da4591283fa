import Rho.Extension.Scopes

/-!
# A scope slot under concurrent calls

`ScopeSlot::publish_with`, `mark_active`, `begin_quiesce` and `quiesce_and_dispose` (`lifecycle.rs`), one step for each access to
what the calls share: the slot, and the state, the routing flag, the gate and the report of each snapshot. Any number of calls
interleave in any order. A call that waits (for a gate, for the scope to drain, for its children and plugins) may be dropped there,
and lets go of the gate it holds.

A shutdown disposes the application, and with it the scopes below: each of these disposals is a call of its own here. What the
calls return is in the model of the manager and left out, as are the task tracker and the cancellation token, which follow the
routing flag.
-/

namespace Rho

/-- A call of `publish` or of `quiesce_and_dispose`, by the order in which they are made. -/
abbrev CallId := Nat

/-- What the calls share of a snapshot. -/
structure SnapshotCell where
  state : ScopeLifecycleState
  routing : Bool
  gate : Option CallId
  report : Option DisposeOutcome
  deriving DecidableEq, Repr

/-- How far `begin_quiesce` has come: the state is loaded, then exchanged, and routing is closed last. -/
inductive QuiesceStage where
  | loading
  | exchanging (seen : ScopeLifecycleState)
  | closing
  deriving DecidableEq, Repr

/-- How far `publish_with` has come; the previous snapshot is the one that the exchange of the slot returned. -/
inductive PublishStage where
  | locking
  | checking
  | swapping
  | activating (previous : Option Ptr)
  /-- `mark_active` has failed. -/
  | restoring (previous : Option Ptr)
  | opening (previous : Option Ptr)
  | quiescing (previous : Ptr) (stage : QuiesceStage)
  | unlocking (previous : Option Ptr)
  /-- The candidate is to be disposed, after the gate is dropped. -/
  | refusing
  deriving DecidableEq, Repr

/-- How far `quiesce_and_dispose` has come. -/
inductive DisposeStage where
  | locking
  | reporting
  | quiescing (stage : QuiesceStage)
  | draining
  /-- The children and then the plugins are disposed. -/
  | tearing
  | writing (outcome : DisposeOutcome)
  deriving DecidableEq, Repr

/-- A call. A publication ends in a disposal, of the previous snapshot or of the refused candidate, or returns at once. -/
inductive SlotCall where
  | publish (expected : Option Ptr) (candidate : Ptr) (stage : PublishStage)
  | dispose (p : Ptr) (stage : DisposeStage)
  | returned
  deriving DecidableEq, Repr

structure SlotWorld where
  snapshot : Ptr → SnapshotCell
  slot : Option Ptr
  calls : List SlotCall

namespace SlotWorld

def modify (w : SlotWorld) (p : Ptr) (f : SnapshotCell → SnapshotCell) : SlotWorld :=
  { w with snapshot := Function.update w.snapshot p (f (w.snapshot p)) }

def setState (w : SlotWorld) (p : Ptr) (state : ScopeLifecycleState) : SlotWorld := w.modify p (fun s => { s with state := state })

def setRouting (w : SlotWorld) (p : Ptr) (routing : Bool) : SlotWorld := w.modify p (fun s => { s with routing := routing })

def setGate (w : SlotWorld) (p : Ptr) (gate : Option CallId) : SlotWorld := w.modify p (fun s => { s with gate := gate })

def setSlot (w : SlotWorld) (slot : Option Ptr) : SlotWorld := { w with slot := slot }

def setCall (w : SlotWorld) (i : CallId) (call : SlotCall) : SlotWorld := { w with calls := w.calls.set i call }

/-- A step of `begin_quiesce`: what it does, and the stage it is at then; none at the end. -/
def quiesceStep (w : SlotWorld) (p : Ptr) : QuiesceStage → SlotWorld × Option QuiesceStage
  | .loading =>
    let state := (w.snapshot p).state
    (w, some (if state = .ready ∨ state = .active then .exchanging state else .closing))
  | .exchanging seen => if (w.snapshot p).state = seen then (w.setState p .quiescing, some .closing) else (w, some .loading)
  | .closing => (w.setRouting p false, none)

/-- A step of `publish_with`. -/
def publishStep (w : SlotWorld) (i : CallId) (expected : Option Ptr) (candidate : Ptr) : PublishStage → SlotWorld
  | .locking =>
    if (w.snapshot candidate).gate = none then (w.setGate candidate (some i)).setCall i (.publish expected candidate .checking)
    else w
  | .checking =>
    w.setCall i (.publish expected candidate (if (w.snapshot candidate).state = .ready then .swapping else .refusing))
  | .swapping =>
    if w.slot = expected then (w.setSlot (some candidate)).setCall i (.publish expected candidate (.activating expected))
    else w.setCall i (.publish expected candidate .refusing)
  | .activating previous =>
    if (w.snapshot candidate).state = .ready then
      (w.setState candidate .active).setCall i (.publish expected candidate (.opening previous))
    else w.setCall i (.publish expected candidate (.restoring previous))
  | .restoring previous =>
    (w.setSlot (if w.slot = some candidate then previous else w.slot)).setCall i (.publish expected candidate .refusing)
  | .opening previous =>
    (w.setRouting candidate true).setCall i (.publish expected candidate
      (match previous with | some p => .quiescing p .loading | none => .unlocking none))
  | .quiescing p stage =>
    match w.quiesceStep p stage with
    | (w', some stage') => w'.setCall i (.publish expected candidate (.quiescing p stage'))
    | (w', none) => w'.setCall i (.publish expected candidate (.unlocking (some p)))
  | .unlocking previous =>
    (w.setGate candidate none).setCall i (match previous with | some p => .dispose p .locking | none => .returned)
  | .refusing => (w.setGate candidate none).setCall i (.dispose candidate .locking)

/-- A step of `quiesce_and_dispose`. -/
def disposeStep (w : SlotWorld) (i : CallId) (p : Ptr) (outcome : DisposeOutcome) : DisposeStage → SlotWorld
  | .locking =>
    if (w.snapshot p).gate = none then (w.setGate p (some i)).setCall i (.dispose p .reporting) else w
  | .reporting =>
    match (w.snapshot p).report with
    | some _ => (w.setGate p none).setCall i .returned
    | none => w.setCall i (.dispose p (.quiescing .loading))
  | .quiescing stage =>
    match w.quiesceStep p stage with
    | (w', some stage') => w'.setCall i (.dispose p (.quiescing stage'))
    | (w', none) => w'.setCall i (.dispose p .draining)
  | .draining => (w.setState p .disposing).setCall i (.dispose p .tearing)
  | .tearing =>
    (w.setState p (match outcome with | .failed => .failed | .disposed => .disposed)).setCall i (.dispose p (.writing outcome))
  | .writing outcome =>
    ((w.modify p (fun s => { s with report := some outcome })).setGate p none).setCall i .returned

end SlotWorld

/-- A call is made, takes its next step (with the outcome of the teardown, where that is the step), or is dropped. -/
inductive SlotStep where
  | publish (expected : Option Ptr) (candidate : Ptr)
  | dispose (p : Ptr)
  | run (i : CallId) (outcome : DisposeOutcome)
  | cancel (i : CallId)
  deriving DecidableEq, Repr

/-- What one step does; a call is dropped only where it waits. -/
def SlotWorld.step (w : SlotWorld) : SlotStep → SlotWorld
  | .publish expected candidate => { w with calls := w.calls ++ [.publish expected candidate .locking] }
  | .dispose p => { w with calls := w.calls ++ [.dispose p .locking] }
  | .run i outcome =>
    match w.calls[i]? with
    | some (.publish expected candidate stage) => w.publishStep i expected candidate stage
    | some (.dispose p stage) => w.disposeStep i p outcome stage
    | _ => w
  | .cancel i =>
    match w.calls[i]? with
    | some (.publish _ _ .locking) | some (.dispose _ .locking) => w.setCall i .returned
    | some (.dispose p .draining) | some (.dispose p .tearing) => (w.setGate p none).setCall i .returned
    | _ => w

end Rho
