import Rho.Server.Approval

/-!
# The life of an environment operation request

Everyone who writes the status of a request, one statement at a time: the Agent's handler that waits for a decision, the desktop
command that delivers one, the user's own decisions, the dispatch that carries the operation out, the end of a turn and the
recovery after a restart. A decision goes to the handler through a channel, so that anything can happen between its delivery and
the handler's write.
-/

namespace Rho

/-- How far the Agent's handler of a request has come. -/
inductive HandlerStage where
  /-- The request is stored; the channel is not yet registered. -/
  | created
  | waiting
  /-- A decision is delivered and not yet written. -/
  | decided (response : ApprovalResponse)
  deriving DecidableEq, Repr

structure ReviewHandler where
  requestId : String
  turnId : String
  stage : HandlerStage
  deriving DecidableEq, Repr

/-- A call of `respond_environment_operation` that has found its request pending and the Agent's. -/
structure Responder where
  requestId : String
  turnId : Option String
  response : ApprovalResponse
  /-- The channel was tried and was not there. -/
  undelivered : Bool
  deriving DecidableEq, Repr

/-- A call of `decide_environment_operation` that has found its request pending, under the coordinator's lock. -/
structure UserDecision where
  requestId : String
  decision : String
  /-- The approval is written and the operation is being carried out. -/
  approved : Bool
  deriving DecidableEq, Repr

structure ReviewSystem where
  store : Store
  handlers : List ReviewHandler
  responders : List Responder
  deciding : Option UserDecision
  /-- The claims whose operations are being carried out, with their runs. -/
  claims : List (String × String)

/-- Nothing in progress. -/
def ReviewSystem.start (store : Store) : ReviewSystem where
  store := store
  handlers := []
  responders := []
  deciding := none
  claims := []

/-- How an operation ends that was carried out. -/
inductive OperationEnd where
  | completed | failed | interrupted
  deriving DecidableEq, Repr

def OperationEnd.status : OperationEnd → EnvironmentOperationStatus
  | .completed => .completed
  | .failed => .failed
  | .interrupted => .interrupted

/-- The status that a decision comes to: the approval of a request whose workspace has changed is stale. -/
def decisionStatus (decision : String) (stale : Bool) : EnvironmentOperationStatus :=
  if decision = "approve" then if stale then .stale else .approved
  else if decision = "cancel" then .cancelled
  else .rejected

/-- The decisions that `respond_environment_operation` takes. -/
def isSupportedDecision (decision : String) : Bool := ["approve", "reject", "cancel"].contains decision

inductive ReviewStep where
  /-- A request is stored; that of a turn has a handler. -/
  | create (draft : EnvironmentOperationDraft)
  | register (requestId : String)
  /-- `respond_environment_operation` reads the request. -/
  | read (projectRoot requestId : String) (response : ApprovalResponse)
  /-- It tries the channel. -/
  | deliver (responder : Responder)
  /-- It marks a request whose channel was not there. -/
  | markUndelivered (responder : Responder)
  /-- The handler writes the decision, or fails before that. -/
  | handle (requestId : String) (stale fails : Bool)
  /-- `cancel_turn`: the waiting handlers of a turn are told to cancel. -/
  | cancelWaiters (turnId : String)
  | abortTurn (turnId : String)
  /-- The turn's task has ended; `interrupt_agent_environment_operations`. -/
  | interruptTurn (turnId terminalOutcome : String)
  /-- All tasks have ended; `recover_incomplete_environment_operations`. -/
  | recover
  | processStop
  /-- `decide_environment_operation` takes the lock and checks the request. -/
  | beginDecision (projectRoot requestId decision : String)
  | writeDecision (stale : Bool)
  /-- The user's operation has been carried out, or could not be. -/
  | endDecision (failed : Bool)
  | claim (projectRoot requestName requestId runId : String)
  | finish (requestId runId : String) (outcome : OperationEnd) (terminalOutcome : String)

namespace ReviewSystem

def onStore (s : ReviewSystem) (f : Store → Store) : ReviewSystem := { s with store := f s.store }

def setStage (s : ReviewSystem) (p : ReviewHandler → Bool) (stage : HandlerStage) : ReviewSystem :=
  { s with handlers := s.handlers.map (fun h => if p h then { h with stage } else h) }

/-- The handler whose channel a responder finds. -/
def listens (responder : Responder) (h : ReviewHandler) : Bool :=
  decide (h.requestId = responder.requestId) && decide (some h.turnId = responder.turnId) && decide (h.stage = .waiting)

def create (s : ReviewSystem) (draft : EnvironmentOperationDraft) : ReviewSystem :=
  match s.store.createEnvironmentOperationRequest draft with
  | none => s
  | some store =>
    match draft.source, draft.turnId with
    | .agent, some turnId =>
      { s with store, handlers := ⟨draft.requestId, turnId, .created⟩ :: s.handlers }
    | _, _ => { s with store }

def read (s : ReviewSystem) (projectRoot requestId : String) (response : ApprovalResponse) : ReviewSystem :=
  match s.store.getEnvironmentOperationRequest projectRoot requestId with
  | none => s
  | some row =>
    if row.status = .requested ∧ row.source = .agent ∧ isSupportedDecision response.decision then
      { s with responders := ⟨requestId, row.turnId, response, false⟩ :: s.responders }
    else s

def deliver (s : ReviewSystem) (responder : Responder) : ReviewSystem :=
  if responder ∈ s.responders ∧ responder.undelivered = false then
    let s := { s with responders := s.responders.erase responder }
    if s.handlers.any (listens responder) then s.setStage (listens responder) (.decided responder.response)
    else { s with responders := { responder with undelivered := true } :: s.responders }
  else s

def markUndelivered (s : ReviewSystem) (responder : Responder) : ReviewSystem :=
  if responder ∈ s.responders ∧ responder.undelivered = true then
    { s with
      responders := s.responders.erase responder
      store := s.store.decideEnvironmentOperationRequest responder.requestId
        { status := .interrupted, decision := some "cancel" } }
  else s

/-- The decision that has been delivered to a request's handler. -/
def delivered (s : ReviewSystem) (requestId : String) : Option ApprovalResponse :=
  s.handlers.findSome? (fun h =>
    match h.stage with
    | .decided response => if h.requestId = requestId then some response else none
    | .created | .waiting => none)

def handle (s : ReviewSystem) (requestId : String) (stale fails : Bool) : ReviewSystem :=
  match s.delivered requestId with
  | none => s
  | some response =>
    let s := { s with handlers := s.handlers.filter (fun h => h.requestId ≠ requestId) }
    if fails then s
    else s.onStore (·.decideEnvironmentOperationRequest requestId
      { status := decisionStatus response.decision stale, decision := some response.decision })

def abortTurn (s : ReviewSystem) (turnId : String) : ReviewSystem :=
  { s with handlers := s.handlers.filter (fun h => h.turnId ≠ turnId) }

def beginDecision (s : ReviewSystem) (projectRoot requestId decision : String) : ReviewSystem :=
  match s.deciding, s.store.getEnvironmentOperationRequest projectRoot requestId with
  | none, some row =>
    if row.status = .requested ∧ row.source = .user ∧ isSupportedDecision decision then
      { s with deciding := some ⟨requestId, decision, false⟩ }
    else s
  | _, _ => s

def writeDecision (s : ReviewSystem) (stale : Bool) : ReviewSystem :=
  match s.deciding with
  | none => s
  | some d =>
    if d.approved then s
    else
      let status := decisionStatus d.decision stale
      { s with
        store := s.store.decideEnvironmentOperationRequest d.requestId { status, decision := some d.decision }
        deciding := if status = .approved then some { d with approved := true } else none }

def endDecision (s : ReviewSystem) (failed : Bool) : ReviewSystem :=
  match s.deciding with
  | none => s
  | some d =>
    if d.approved then
      let s := { s with deciding := none }
      if failed then s.onStore (·.finishEnvironmentOperationRequest
        { requestId := d.requestId, status := .failed, runId := none, terminalOutcome := some "dispatch_error" })
      else s
    else s

def claim (s : ReviewSystem) (projectRoot requestName requestId runId : String) : ReviewSystem :=
  let (store, claimed) := s.store.claimEnvironmentOperationRequest projectRoot requestName requestId runId
  if claimed then { s with store, claims := (requestId, runId) :: s.claims } else { s with store }

def finish (s : ReviewSystem) (requestId runId : String) (outcome : OperationEnd) (terminalOutcome : String) : ReviewSystem :=
  if (requestId, runId) ∈ s.claims then
    { s with
      claims := s.claims.erase (requestId, runId)
      store := s.store.finishEnvironmentOperationRequest
        { requestId, status := outcome.status, runId := some runId, terminalOutcome := some terminalOutcome } }
  else s

def step (s : ReviewSystem) : ReviewStep → ReviewSystem
  | .create draft => s.create draft
  | .register requestId => s.setStage (fun h => decide (h.requestId = requestId) && decide (h.stage = .created)) .waiting
  | .read projectRoot requestId response => s.read projectRoot requestId response
  | .deliver responder => s.deliver responder
  | .markUndelivered responder => s.markUndelivered responder
  | .handle requestId stale fails => s.handle requestId stale fails
  | .cancelWaiters turnId =>
    s.setStage (fun h => decide (h.turnId = turnId) && decide (h.stage = .waiting)) (.decided ⟨"cancel", none⟩)
  | .abortTurn turnId => s.abortTurn turnId
  | .interruptTurn turnId terminalOutcome =>
    (s.abortTurn turnId).onStore (·.interruptAgentEnvironmentOperations turnId terminalOutcome)
  | .recover => { s with handlers := [], store := s.store.recoverIncompleteEnvironmentOperations }
  | .processStop => .start s.store
  | .beginDecision projectRoot requestId decision => s.beginDecision projectRoot requestId decision
  | .writeDecision stale => s.writeDecision stale
  | .endDecision failed => s.endDecision failed
  | .claim projectRoot requestName requestId runId => s.claim projectRoot requestName requestId runId
  | .finish requestId runId outcome terminalOutcome => s.finish requestId runId outcome terminalOutcome

/-- The request that a step claims for execution. -/
def claimed (s : ReviewSystem) : ReviewStep → Option String
  | .claim projectRoot requestName requestId runId =>
    if (s.store.claimEnvironmentOperationRequest projectRoot requestName requestId runId).2 then some requestId else none
  | _ => none

/-- The row of a request. -/
def request (s : ReviewSystem) (requestId : String) : Option EnvironmentOperationRecord :=
  s.store.environmentOperations.get requestId

end ReviewSystem

end Rho
