import Rho.Lib.Run
import Rho.Server.Dispatch

/-!
# A workspace session

The coordinator under its lock, and the clients that take turns at it. A request holds the lock from its authorization to its
end; while the kernel runs its code the broker cannot be reached, and only other connections write to the store.
-/

namespace Rho

/-- The coordinator, and the request whose code the kernel is running. -/
structure Session where
  coordinator : Coordinator
  executing : Option Handover

/-- What can happen to a session next. -/
inductive SessionStep where
  /-- A client's request is dispatched up to the hand-over. -/
  | request (call : DispatchCall) (o : PrepareOutcome)
  /-- The kernel answers and the dispatch ends. -/
  | answer (o : ConcludeOutcome)
  /-- The task that waits for the kernel is aborted. -/
  | abort
  /-- A project file changed: `project_changed` and `save_identity`. -/
  | projectChanged
  /-- Another connection writes to the store. -/
  | otherConnection (write : Store → Store)

namespace Session

/-- The session once a request has come to its hand-over, or to its error before it. -/
def request (s : Session) (call : DispatchCall) (o : PrepareOutcome) : Session :=
  match prepareDispatch call o s.coordinator with
  | .ok h coordinator => { coordinator, executing := some h }
  | .error _ coordinator => { coordinator, executing := none }

def step (s : Session) : SessionStep → Session
  | .request call o =>
    match s.executing with
    | none => s.request call o
    | some _ => s
  | .answer o =>
    match s.executing with
    | none => s
    | some h => { coordinator := Effect.final (concludeDispatch h o s.coordinator), executing := none }
  | .abort => { s with executing := none }
  | .projectChanged =>
    match s.executing with
    | none =>
      let broker := s.coordinator.broker.projectChanged
      { s with coordinator := { broker, store := s.coordinator.store.saveIdentity broker.identity } }
    | some _ => s
  | .otherConnection write =>
    { s with coordinator := { s.coordinator with store := write s.coordinator.store } }

def stateRevision (s : Session) : Nat := s.coordinator.broker.identity.stateRevision

end Session

namespace OperationClass

/-- The classes whose code may change the state of the workspace. -/
def changesState : OperationClass → Bool
  | .stateCapable | .stateAndProjectMutation => true
  | .probe | .projectMutation => false

end OperationClass

end Rho
