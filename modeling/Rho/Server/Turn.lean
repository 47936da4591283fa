import Rho.Server.Approval

/-!
# A turn of the Agent

`serve_desktop_agent`: the loop that reads the Agent's messages one by one and answers them. While the handler of an approval
waits for the user, the loop reads nothing; the coordinator, whose lock is then free, may be changed by anyone.
-/

namespace Rho

open Effect

inductive MessageKind where
  | request | response | event | cancel
  deriving DecidableEq, Repr

structure Envelope where
  id : String
  kind : MessageKind
  payload : Json

/-- What the outside does to one round of the loop. -/
structure ServeOutcome where
  /-- The round fails before its message is looked at: the stream, the event log, the turn's project. -/
  receiveFault : Option String
  ask : AskOutcome
  /-- The response cannot be written. -/
  replyFault : Option String

structure AgentTurn where
  coordinator : Coordinator
  approved : List (String × ApprovedMutation)
  waiting : Option Waiting
  ended : Bool

/-- The turn's loop before its first message. -/
def AgentTurn.start (coordinator : Coordinator) : AgentTurn where
  coordinator := coordinator
  approved := []
  waiting := none
  ended := false

inductive TurnStep where
  /-- The loop reads a message of the Agent. -/
  | receive (message : Envelope) (o : ServeOutcome)
  /-- The decision that the handler waits for arrives. -/
  | decision (response : ApprovalResponse) (o : ResolveOutcome) (replyFault : Option String)
  /-- Others change the coordinator; so does the dispatch of a request that was let through. -/
  | others (change : Coordinator → Coordinator)

/-- What a step means for the turn's approvals. -/
inductive TurnEvent where
  | granted (requestId : String) (mutation : ApprovedMutation)
  | admitted (requestType : String) (payload : Json)
  | refused (requestType : String) (payload : Json)
  | quiet

def requestTypeOf (payload : Json) : String := (stringArgument payload "type").getD ""

/-- An event message that ends the turn. -/
def endsTurn (payload : Json) : Bool :=
  payload.get "type" == some (.str "desktop.agent_completed") || payload.get "type" == some (.str "desktop.agent_failed")

namespace AgentTurn

/-- A message `tool.approval_required`. -/
def ask (turn : TurnContext) (s : AgentTurn) (message : Envelope) (o : ServeOutcome) : AgentTurn × TurnEvent :=
  let ask := ApprovalAsk.ofPayload message.id message.payload
  match handleToolApprovalRequired turn ask o.ask s.coordinator with
  | .error _ coordinator => ({ s with coordinator, ended := o.replyFault.isSome }, .quiet)
  | .ok (.replied _) coordinator => ({ s with coordinator, ended := o.replyFault.isSome }, .quiet)
  | .ok (.waits waiting) coordinator => ({ s with coordinator, waiting := some waiting }, .quiet)
  | .ok (.granted requestId mutation _) coordinator =>
    ({ s with coordinator, approved := OrdMap.insert requestId mutation s.approved, ended := o.replyFault.isSome },
      .granted requestId mutation)

/-- Any other request: it is let through or refused. -/
def authorize (turn : TurnContext) (s : AgentTurn) (message : Envelope) (o : ServeOutcome) : AgentTurn × TurnEvent :=
  let requestType := requestTypeOf message.payload
  let (approved, result) := authorizeAgentWorkspaceRequest turn.mode requestType message.payload s.approved
  let event :=
    if isAgentMutation requestType then
      match result with
      | .ok _ => TurnEvent.admitted requestType message.payload
      | .error _ => .refused requestType message.payload
    else .quiet
  ({ s with approved, ended := o.replyFault.isSome }, event)

/-- One round of the loop. -/
def receive (turn : TurnContext) (s : AgentTurn) (message : Envelope) (o : ServeOutcome) : AgentTurn × TurnEvent :=
  if s.ended || s.waiting.isSome then (s, .quiet)
  else if o.receiveFault.isSome || s.coordinator.store.activeProjectRoot.isNone then ({ s with ended := true }, .quiet)
  else
    match message.kind with
    | .request =>
      if requestTypeOf message.payload = "tool.approval_required" then ask turn s message o else authorize turn s message o
    | .event => ({ s with ended := o.replyFault.isSome || endsTurn message.payload }, .quiet)
    | .response | .cancel => ({ s with ended := true }, .quiet)

/-- The handler goes on with the user's decision. -/
def decision (s : AgentTurn) (response : ApprovalResponse) (o : ResolveOutcome) (replyFault : Option String) :
    AgentTurn × TurnEvent :=
  match s.waiting with
  | none => (s, .quiet)
  | some waiting =>
    match resolveWaiting waiting response o s.coordinator with
    | .ok (_, some mutation) coordinator =>
      ({ s with
          coordinator
          approved := OrdMap.insert waiting.requestId mutation s.approved
          waiting := none
          ended := replyFault.isSome },
        .granted waiting.requestId mutation)
    | .ok (_, none) coordinator => ({ s with coordinator, waiting := none, ended := replyFault.isSome }, .quiet)
    | .error _ coordinator => ({ s with coordinator, waiting := none, ended := replyFault.isSome }, .quiet)

def handle (turn : TurnContext) (s : AgentTurn) : TurnStep → AgentTurn × TurnEvent
  | .receive message o => s.receive turn message o
  | .decision response o replyFault => s.decision response o replyFault
  | .others change => ({ s with coordinator := change s.coordinator }, .quiet)

def step (turn : TurnContext) (s : AgentTurn) (l : TurnStep) : AgentTurn := (s.handle turn l).1

def event (turn : TurnContext) (s : AgentTurn) (l : TurnStep) : TurnEvent := (s.handle turn l).2

end AgentTurn

/-- The events of a run of a turn from its start. -/
def turnEvents (turn : TurnContext) (coordinator : Coordinator) (trace : List TurnStep) : List TurnEvent :=
  Run.outputs (AgentTurn.step turn) (AgentTurn.event turn) (AgentTurn.start coordinator) trace

end Rho
