import Rho.Server.Turn

/-!
# Carrying out what an Agent was approved

A request of the Agent that the turn's loop has let through goes on to the coordinator: `dispatch_agent_workspace_request` waits for
the Agents' lane and then for the coordinator's lock. An approved mutation is kept as its request type and its arguments, so from the
decision to the dispatch other clients come and go, and what the workspace is then is checked only against what the Agent expects of it.
-/

namespace Rho

open Effect

/-- What an approval is asked for at: the workspace and its two revisions. -/
def WorkspaceIdentity.revisions (w : WorkspaceIdentity) : String × Nat × Nat := (w.workspaceId, w.stateRevision, w.projectRevision)

/-- The same, as it is recorded in the approval's row. -/
def ApprovalRecord.revisions (r : ApprovalRecord) : String × Nat × Nat := (r.workspaceId, r.stateRevision, r.projectRevision)

def Coordinator.revisions (c : Coordinator) : String × Nat × Nat := c.broker.identity.revisions

/-- How requests move the coordinator: the workspace stays and its revisions only grow, and an approval keeps what it was asked for
at. -/
structure Advances (c c' : Coordinator) : Prop where
  workspaceId : c'.broker.identity.workspaceId = c.broker.identity.workspaceId
  stateRevision : c.broker.identity.stateRevision ≤ c'.broker.identity.stateRevision
  projectRevision : c.broker.identity.projectRevision ≤ c'.broker.identity.projectRevision
  approvals : ∀ k row, c.store.approvals.get k = some row → ∃ row', c'.store.approvals.get k = some row' ∧ row'.revisions = row.revisions

/-- A request of another client, by what it makes of the coordinator. -/
structure OtherRequest where
  change : Coordinator → Coordinator
  advances : ∀ c, Advances c (change c)

/-- A request of the Agent that was let through and is on its way to the coordinator. -/
structure Admitted where
  requestType : String
  payload : Json

/-- The approval that the request was let through for. -/
def Admitted.approval (a : Admitted) : Option String := stringArgument a.payload "approval_request_id"

structure AgentWorkspace where
  turn : AgentTurn
  admitted : Option Admitted
  /-- The request whose code the kernel has. -/
  running : Option Handover
  /-- The approvals that are granted and not yet carried out, and since whose grant the workspace has moved. -/
  moved : List String

def AgentWorkspace.start (c : Coordinator) : AgentWorkspace where
  turn := .start c
  admitted := none
  running := none
  moved := []

inductive ExecutionStep where
  | receive (message : Envelope) (o : ServeOutcome)
  | decision (response : ApprovalResponse) (o : ResolveOutcome) (replyFault : Option String)
  | others (request : OtherRequest)
  /-- The request has the lane and the lock. -/
  | dispatch (executionId : String) (o : PrepareOutcome)
  /-- The turn was cancelled before the lane, or another part of the desktop answers the request. -/
  | drop
  | conclude (o : ConcludeOutcome)

/-- What a step means for the approvals of R code. -/
inductive ExecutionEvent where
  | granted (requestId : String) (mutation : ApprovedMutation)
  /-- The kernel is given the approved code. -/
  | handedOver (requestId : String)
  | quiet
  deriving DecidableEq

namespace AgentWorkspace

def coordinator (s : AgentWorkspace) : Coordinator := s.turn.coordinator

def onCoordinator (s : AgentWorkspace) (c : Coordinator) : AgentWorkspace := { s with turn := { s.turn with coordinator := c } }

/-- The loop reads nothing while a request of it is carried out. -/
def serve (turn : TurnContext) (s : AgentWorkspace) (l : TurnStep) : AgentWorkspace × ExecutionEvent :=
  if s.admitted.isSome || s.running.isSome then (s, .quiet)
  else
    match s.turn.handle turn l with
    | (t, .granted requestId mutation) => ({ s with turn := t }, .granted requestId mutation)
    | (t, .admitted requestType payload) => ({ s with turn := t, admitted := some ⟨requestType, payload⟩ }, .quiet)
    | (t, _) => ({ s with turn := t }, .quiet)

/-- `dispatch_agent_workspace_request`, up to the hand-over. -/
def dispatch (s : AgentWorkspace) (executionId : String) (o : PrepareOutcome) : AgentWorkspace × ExecutionEvent :=
  match s.admitted, s.running with
  | some a, none =>
    match prepareDispatch ⟨a.requestType, a.payload, .agent, some executionId⟩ o s.coordinator with
    | .ok h c =>
      ({ s.onCoordinator c with admitted := none, running := some h },
        match decide (a.requestType = "workspace.execute"), a.approval with
        | true, some requestId => .handedOver requestId
        | _, _ => .quiet)
    | .error _ c => ({ s.onCoordinator c with admitted := none }, .quiet)
  | _, _ => (s, .quiet)

def conclude (s : AgentWorkspace) (o : ConcludeOutcome) : AgentWorkspace :=
  match s.running with
  | some h => { s.onCoordinator (final (concludeDispatch h o s.coordinator)) with running := none }
  | none => s

def handle (turn : TurnContext) (s : AgentWorkspace) : ExecutionStep → AgentWorkspace × ExecutionEvent
  | .receive message o => s.serve turn (.receive message o)
  | .decision response o replyFault => s.serve turn (.decision response o replyFault)
  | .others request => (s.onCoordinator (request.change s.coordinator), .quiet)
  | .dispatch executionId o => s.dispatch executionId o
  | .drop => ({ s with admitted := none }, .quiet)
  | .conclude o => (s.conclude o, .quiet)

/-- The approvals that are granted and not yet carried out. -/
def unused (s : AgentWorkspace) : List String := s.turn.approved.map (·.1) ++ (s.admitted.bind Admitted.approval).toList

/-- Since whose grant the workspace has moved, after a step. -/
def movedBy (s s' : AgentWorkspace) (event : ExecutionEvent) : List String :=
  let kept := match event with
    | .granted requestId _ => s.moved.filter (· ≠ requestId)
    | _ => s.moved
  if s'.coordinator.revisions = s.coordinator.revisions then kept else s.unused ++ kept

def step (turn : TurnContext) (s : AgentWorkspace) (l : ExecutionStep) : AgentWorkspace :=
  { (s.handle turn l).1 with moved := s.movedBy (s.handle turn l).1 (s.handle turn l).2 }

def event (turn : TurnContext) (s : AgentWorkspace) (l : ExecutionStep) : ExecutionEvent := (s.handle turn l).2

end AgentWorkspace

end Rho
