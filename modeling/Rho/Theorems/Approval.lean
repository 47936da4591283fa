import Rho.Lemmas.Dispatch
import Rho.Lib.Tokens
import Rho.Server.Turn

/-!
# Approvals are single-use

The map of a turn's approvals is a ledger of tokens: an approval grants one, and every request that names it spends it, let
through or not. What is let through is what was approved.
-/

namespace Rho

open Effect EnvironmentOperationArguments Json AgentTurn

/-- The approval that a request names. -/
def approvalRequestId (payload : Json) : Option String := stringArgument payload "approval_request_id"

/-- The step approves what was asked for: by the user's decision, or at once where the user has authorized the session. -/
def Approves (turn : TurnContext) : TurnStep → Prop
  | .decision response _ _ => response.decision = "approve"
  | .receive _ _ => turn.autoApprove = true
  | .others _ => False

namespace ApprovalAux

open DispatchAux

/-! ## What is approved -/

/-- A mutation that can be approved: R code, or an environment operation whose arguments hold no code. -/
def Approvable (m : ApprovedMutation) : Prop :=
  m.requestType = "workspace.execute" ∨ m.requestType ≠ "workspace.execute" ∧ codeOf m.arguments = none

theorem exact_optionJson (s : Option String) : (EnvironmentOperationArguments.optionJson s).Exact := by
  cases s with
  | none => trivial
  | some s => trivial

theorem nesting_optionJson (s : Option String) : (EnvironmentOperationArguments.optionJson s).nesting = 0 := by
  cases s with
  | none => rfl
  | some s => rfl

theorem exactFields_strings (entries : List (String × String)) :
    Json.ExactFields (entries.map (fun e => (e.1, .str e.2))) := by
  induction entries with
  | nil => trivial
  | cons e entries ih => exact ⟨trivial, ih⟩

theorem nestingFields_strings (entries : List (String × String)) :
    nestingFields (entries.map (fun e => (e.1, .str e.2))) = 0 := by
  induction entries with
  | nil => rfl
  | cons e entries ih => simp [nestingFields, nesting, ih]

theorem exact_toJson (a : EnvironmentOperationArguments) : a.toJson.Exact := by
  refine ⟨trivial, exact_optionJson _, ?_, exact_optionJson _, exact_optionJson _, exact_optionJson _, trivial⟩
  cases a.repositories with
  | none => trivial
  | some entries => exact exactFields_strings entries

theorem nesting_toJson (a : EnvironmentOperationArguments) : a.toJson.nesting ≤ maxNesting := by
  unfold toJson
  cases a.repositories with
  | none =>
    simp only [nesting, nestingFields, nesting_optionJson]
    decide
  | some entries =>
    simp only [nesting, nestingFields, nesting_optionJson, nestingFields_strings]
    decide

/-- The stored arguments of an environment operation, read back, hold no code. -/
theorem codeOf_stored {a : EnvironmentOperationArguments} {v : Json} (h : fromText a.toJson.toText = some v) :
    codeOf v = none := by
  rw [fromText_toText (exact_toJson a) (nesting_toJson a)] at h
  cases h
  unfold codeOf stringArgument toJson
  rw [get_normalize_obj]
  rfl

theorem requestName_ne_execute {operation name : String} (h : environmentOperationRequestName operation = .ok name) :
    name ≠ "workspace.execute" := by
  unfold environmentOperationRequestName at h
  repeat' split at h
  all_goals
    cases h
    try decide

theorem requestEnvironmentOperation_ok {arguments : EnvironmentOperationArguments} {turnId : Option String}
    {source : EnvironmentOperationSource} {o : AskOutcome} {c c' : Coordinator} {r : EnvironmentOperationRecord}
    (h : requestEnvironmentOperation arguments turnId source o c = .ok r c') :
    r.requestName ≠ "workspace.execute" ∧
      ∃ stored : EnvironmentOperationArguments, r.argumentsJson = stored.toJson.toText := by
  unfold requestEnvironmentOperation at h
  obtain ⟨name, c₁, hname, h⟩ := bind_ok h
  obtain ⟨hname, -⟩ := ofResult_ok hname
  obtain ⟨_, c₂, -, h⟩ := bind_ok h
  obtain ⟨c₃, c₄, -, h⟩ := bind_ok h
  obtain ⟨root, c₅, -, h⟩ := bind_ok h
  obtain ⟨stored, c₆, -, h⟩ := bind_ok h
  obtain ⟨_, c₇, -, h⟩ := bind_ok h
  obtain ⟨_, c₈, hinsert, h⟩ := bind_ok h
  obtain ⟨_, c₉, hfault, h⟩ := bind_ok h
  obtain ⟨c₁₀, c₁₁, hget, h⟩ := bind_ok h
  obtain ⟨store, hstore, rfl⟩ := storeTry_ok hinsert
  obtain ⟨-, rfl⟩ := attempt_ok hfault
  obtain ⟨rfl, rfl⟩ := get_ok hget
  obtain ⟨hread, -⟩ := ofResult_ok h
  -- The row read back is the row inserted.
  unfold Store.createEnvironmentOperationRequest at hstore
  obtain ⟨t, ht, hstore⟩ := Option.map_eq_some_iff.mp hstore
  subst hstore
  unfold Store.getEnvironmentOperationRequest at hread
  rw [Table.get_insert ht, if_pos rfl] at hread
  unfold orError at hread
  split at hread
  · rename_i r' hr'
    cases hread
    rw [Option.filter_eq_some_iff] at hr'
    obtain ⟨hr', -⟩ := hr'
    cases hr'
    exact ⟨requestName_ne_execute hname, stored, rfl⟩
  · cases hread

/-! ## The handler -/

/-- Whatever the handler grants or waits for can be approved, and in act mode only; it grants at once only what the user has
authorized for the session. -/
def AskedWell (turn : TurnContext) : Asked → Prop
  | .replied _ => True
  | .granted _ m _ => turn.mode = "act" ∧ turn.autoApprove = true ∧ Approvable m
  | .waits w => turn.mode = "act" ∧ Approvable w.mutation

theorem askEnvironmentReview_ok {turn : TurnContext} {ask : ApprovalAsk} {o : AskOutcome} {c c' : Coordinator} {a : Asked}
    (hmode : turn.mode = "act") (h : askEnvironmentReview turn ask o c = .ok a c') : AskedWell turn a := by
  unfold askEnvironmentReview at h
  obtain ⟨arguments, c₁, -, h⟩ := bind_ok h
  obtain ⟨request, c₂, hrequest, h⟩ := bind_ok h
  obtain ⟨approved, c₃, hread, h⟩ := bind_ok h
  obtain ⟨_, c₄, -, h⟩ := bind_ok h
  obtain ⟨_, c₅, -, h⟩ := bind_ok h
  obtain ⟨rfl, -⟩ := pure_ok h
  obtain ⟨hname, stored, hstored⟩ := requestEnvironmentOperation_ok hrequest
  obtain ⟨hread, -⟩ := ofResult_ok hread
  rw [hstored] at hread
  refine ⟨hmode, .inr ⟨hname, ?_⟩⟩
  cases hv : fromText stored.toJson.toText with
  | none =>
    rw [hv] at hread
    cases hread
  | some v =>
    rw [hv] at hread
    cases hread
    exact codeOf_stored hv

theorem askApproval_ok {turn : TurnContext} {ask : ApprovalAsk} {o : AskOutcome} {c c' : Coordinator} {a : Asked}
    (hmode : turn.mode = "act") (h : askApproval turn ask "workspace.execute" o c = .ok a c') : AskedWell turn a := by
  unfold askApproval at h
  obtain ⟨_, c₁, -, h⟩ := bind_ok h
  obtain ⟨c₂, c₃, -, h⟩ := bind_ok h
  obtain ⟨root, c₄, -, h⟩ := bind_ok h
  obtain ⟨_, c₅, -, h⟩ := bind_ok h
  obtain ⟨_, c₆, -, h⟩ := bind_ok h
  split at h
  · rename_i hauto
    obtain ⟨_, c₇, -, h⟩ := bind_ok h
    obtain ⟨_, c₈, -, h⟩ := bind_ok h
    obtain ⟨_, c₉, -, h⟩ := bind_ok h
    obtain ⟨_, c₁₀, -, h⟩ := bind_ok h
    obtain ⟨rfl, -⟩ := pure_ok h
    exact ⟨hmode, hauto, .inl rfl⟩
  · obtain ⟨_, c₇, -, h⟩ := bind_ok h
    obtain ⟨_, c₈, -, h⟩ := bind_ok h
    obtain ⟨rfl, -⟩ := pure_ok h
    exact ⟨hmode, .inl rfl⟩

/-- The tool that needs no environment review runs R code. -/
theorem agentToolRequestType_execute {tool requestType : String} (h : agentToolRequestType tool = some requestType)
    (hne : requestTypeUsesEnvironmentContract requestType = false) : requestType = "workspace.execute" := by
  unfold agentToolRequestType at h
  repeat' split at h
  · cases h
    rfl
  all_goals
    cases h
    try exact absurd hne (by decide)

theorem policyDenied_ok {turn : TurnContext} {ask : ApprovalAsk} {o : AskOutcome} {c c' : Coordinator} {a : Asked}
    (h : policyDenied turn ask o c = .ok a c') : AskedWell turn a := by
  unfold policyDenied at h
  obtain ⟨_, c₁, -, h⟩ := bind_ok h
  obtain ⟨rfl, -⟩ := pure_ok h
  trivial

theorem handleToolApprovalRequired_ok {turn : TurnContext} {ask : ApprovalAsk} {o : AskOutcome} {c c' : Coordinator}
    {a : Asked} (h : handleToolApprovalRequired turn ask o c = .ok a c') : AskedWell turn a := by
  unfold handleToolApprovalRequired at h
  by_cases hmode : turn.mode = "act"
  · cases htool : agentToolRequestType ask.tool with
    | none =>
      simp only [hmode, decide_true, htool] at h
      exact policyDenied_ok h
    | some requestType =>
      simp only [hmode, decide_true, htool] at h
      split at h
      · exact askEnvironmentReview_ok hmode h
      · rename_i hne
        rw [Bool.not_eq_true] at hne
        rw [agentToolRequestType_execute htool hne] at h
        exact askApproval_ok hmode h
  · simp only [hmode, decide_false] at h
    exact policyDenied_ok h

/-- A decision approves the mutation that was waited for, and only the decision to approve does. -/
theorem resolveWaiting_ok {w : Waiting} {response : ApprovalResponse} {o : ResolveOutcome} {c c' : Coordinator}
    {reply : ApprovalReply} {m : ApprovedMutation} (h : resolveWaiting w response o c = .ok (reply, some m) c') :
    response.decision = "approve" ∧ m = w.mutation := by
  cases w with
  | environment requestId projectRoot mutation =>
    unfold resolveWaiting resolveEnvironmentReview at h
    obtain ⟨_, c₁, -, h⟩ := bind_ok h
    obtain ⟨c₂, c₃, -, h⟩ := bind_ok h
    obtain ⟨request, c₄, -, h⟩ := bind_ok h
    split at h
    · rename_i happrove
      obtain ⟨_, c₅, -, h⟩ := bind_ok h
      generalize environmentOperationStaleReason _ _ _ _ = stale at h
      cases stale with
      | some reason =>
        obtain ⟨_, c₆, -, h⟩ := bind_ok h
        obtain ⟨heq, -⟩ := pure_ok h
        cases heq
      | none =>
        obtain ⟨_, c₆, -, h⟩ := bind_ok h
        obtain ⟨heq, -⟩ := pure_ok h
        cases heq
        exact ⟨happrove, rfl⟩
    · split at h
      all_goals
        obtain ⟨_, c₅, -, h⟩ := bind_ok h
        obtain ⟨heq, -⟩ := pure_ok h
        cases heq
  | approval requestId identity mutation =>
    unfold resolveWaiting resolveApproval at h
    obtain ⟨c₁, c₂, -, h⟩ := bind_ok h
    split at h
    · obtain ⟨_, c₃, -, h⟩ := bind_ok h
      obtain ⟨heq, -⟩ := pure_ok h
      cases heq
    · split at h
      · rename_i happrove
        obtain ⟨_, c₃, -, h⟩ := bind_ok h
        obtain ⟨heq, -⟩ := pure_ok h
        cases heq
        exact ⟨happrove, rfl⟩
      · split at h
        all_goals
          obtain ⟨_, c₃, -, h⟩ := bind_ok h
          obtain ⟨heq, -⟩ := pure_ok h
          cases heq

/-! ## The ledger -/

/-- What a request for a mutation does to the ledger, let through or not. -/
def attemptOp (turn : TurnContext) (payload : Json) : Tokens.Op String ApprovedMutation :=
  if turn.mode = "act" then
    match approvalRequestId payload with
    | some requestId => .spend requestId
    | none => .idle
  else .idle

/-- What a step of the turn does to the ledger of its approvals. -/
def ledgerOp (turn : TurnContext) : TurnEvent → Tokens.Op String ApprovedMutation
  | .granted requestId mutation => .grant requestId mutation
  | .admitted _ payload | .refused _ payload => attemptOp turn payload
  | .quiet => .idle

/-- Only a granted approval puts a token into the ledger. -/
theorem granted_of_ledgerOp {turn : TurnContext} {e : TurnEvent} {id : String} {m : ApprovedMutation}
    (h : ledgerOp turn e = .grant id m) : e = .granted id m := by
  have hattempt : ∀ payload, attemptOp turn payload ≠ .grant id m := by
    intro payload hop
    unfold attemptOp at hop
    repeat' split at hop
    all_goals cases hop
  cases e with
  | granted id' m' =>
    cases h
    rfl
  | admitted requestType payload => exact absurd h (hattempt payload)
  | refused requestType payload => exact absurd h (hattempt payload)
  | quiet => cases h

/-- What is in the ledger after an attempt was in it before. -/
theorem get_of_attempt {turn : TurnContext} {approved : List (String × ApprovedMutation)} {payload : Json} {id : String}
    {m : ApprovedMutation} (h : OrdMap.get (Tokens.step approved (attemptOp turn payload)) id = some m) :
    OrdMap.get approved id = some m := by
  unfold attemptOp at h
  split at h
  · split at h
    · rw [Tokens.step, OrdMap.get_erase] at h
      split at h
      · cases h
      · exact h
    · exact h
  · exact h

theorem not_isAgentProbe {requestType : String} (h : isAgentMutation requestType = true) :
    isAgentProbe requestType = false := by
  unfold isAgentMutation at h
  rw [List.contains_iff_mem] at h
  simp only [List.mem_cons, List.not_mem_nil, or_false] at h
  rcases h with rfl | rfl | rfl | rfl | rfl | rfl | rfl <;> decide

/-- A request for a mutation spends the approval that it names, and is let through for what was approved. -/
theorem authorize_mutation (turn : TurnContext) {requestType : String} (payload : Json)
    (approved : List (String × ApprovedMutation)) (hmut : isAgentMutation requestType = true) :
    (authorizeAgentWorkspaceRequest turn.mode requestType payload approved).1 =
        Tokens.step approved (attemptOp turn payload) ∧
      ((authorizeAgentWorkspaceRequest turn.mode requestType payload approved).2 = .ok () →
        turn.mode = "act" ∧ ∃ id m, approvalRequestId payload = some id ∧ OrdMap.get approved id = some m ∧
          m.requestType = requestType ∧ approvedArgumentsMatch m.arguments (requestArguments payload) = true) := by
  unfold authorizeAgentWorkspaceRequest
  rw [not_isAgentProbe hmut, if_neg (by decide), if_pos hmut]
  by_cases hmode : turn.mode = "act"
  · rw [if_neg (by simp [hmode])]
    simp only [attemptOp, if_pos hmode]
    cases hid : approvalRequestId payload with
    | none =>
      rw [show stringArgument payload "approval_request_id" = none from hid]
      exact ⟨rfl, nofun⟩
    | some id =>
      rw [show stringArgument payload "approval_request_id" = some id from hid]
      cases hget : OrdMap.get approved id with
      | none =>
        simp only [hget]
        exact ⟨rfl, nofun⟩
      | some m =>
        simp only [hget]
        split
        · exact ⟨rfl, nofun⟩
        · rename_i htype
          split
          · rename_i hmatch
            exact ⟨rfl, fun _ => ⟨hmode, id, m, rfl, hget, not_not.mp htype, hmatch⟩⟩
          · exact ⟨rfl, nofun⟩
  · rw [if_pos hmode]
    simp only [attemptOp, if_neg hmode]
    exact ⟨rfl, nofun⟩

theorem authorize_other {mode requestType : String} (payload : Json) (approved : List (String × ApprovedMutation))
    (hmut : isAgentMutation requestType = false) :
    (authorizeAgentWorkspaceRequest mode requestType payload approved).1 = approved := by
  unfold authorizeAgentWorkspaceRequest
  rw [hmut]
  split
  · rfl
  · rfl

/-! ## One step -/

/-- Everything that is approved, or waited for, can be approved, and only in act mode. -/
structure TurnWell (turn : TurnContext) (s : AgentTurn) : Prop where
  waiting : ∀ w, s.waiting = some w → turn.mode = "act" ∧ Approvable w.mutation
  approved : ∀ id m, OrdMap.get s.approved id = some m → turn.mode = "act" ∧ Approvable m

/-- What an event says about the step and the state it is taken in. -/
def EventWell (turn : TurnContext) (s : AgentTurn) (l : TurnStep) : TurnEvent → Prop
  | .granted _ m => Approves turn l ∧ turn.mode = "act" ∧ Approvable m
  | .admitted requestType payload =>
    turn.mode = "act" ∧ ∃ id m, approvalRequestId payload = some id ∧ OrdMap.get s.approved id = some m ∧
      m.requestType = requestType ∧ approvedArgumentsMatch m.arguments (requestArguments payload) = true
  | .refused _ _ | .quiet => True

/-- One step of a turn: what it puts out, what it does to the approvals and what it waits for. -/
structure StepWell (turn : TurnContext) (s : AgentTurn) (l : TurnStep) (r : AgentTurn × TurnEvent) : Prop where
  event : EventWell turn s l r.2
  approved : r.1.approved = Tokens.step s.approved (ledgerOp turn r.2)
  waiting : ∀ w, r.1.waiting = some w → s.waiting = some w ∨ turn.mode = "act" ∧ Approvable w.mutation

/-- A step that leaves the approvals and starts no wait. -/
theorem stepWell_quiet {turn : TurnContext} {s t : AgentTurn} {l : TurnStep} (happroved : t.approved = s.approved)
    (hwaiting : t.waiting = s.waiting ∨ t.waiting = none) : StepWell turn s l (t, .quiet) where
  event := trivial
  approved := happroved
  waiting := by
    intro w hw
    rcases hwaiting with h | h
    · exact .inl (h ▸ hw)
    · rw [h] at hw
      cases hw

theorem stepWell_ask (turn : TurnContext) (s : AgentTurn) (message : Envelope) (o : ServeOutcome) :
    StepWell turn s (.receive message o) (s.ask turn message o) := by
  unfold ask
  dsimp only
  cases h : handleToolApprovalRequired turn (.ofPayload message.id message.payload) o.ask s.coordinator with
  | error e c => exact stepWell_quiet rfl (.inl rfl)
  | ok a c =>
    have hask := handleToolApprovalRequired_ok h
    cases a with
    | replied reply => exact stepWell_quiet rfl (.inl rfl)
    | waits w =>
      refine ⟨trivial, rfl, ?_⟩
      intro w' hw'
      cases hw'
      exact .inr hask
    | granted requestId mutation reply =>
      exact ⟨⟨hask.2.1, hask.1, hask.2.2⟩, rfl, fun w hw => .inl hw⟩

theorem stepWell_authorize (turn : TurnContext) (s : AgentTurn) (message : Envelope) (o : ServeOutcome) :
    StepWell turn s (.receive message o) (s.authorize turn message o) := by
  unfold authorize
  dsimp only
  by_cases hmut : isAgentMutation (requestTypeOf message.payload) = true
  · obtain ⟨hstep, hok⟩ := authorize_mutation turn message.payload s.approved hmut
    rw [if_pos hmut]
    cases hres : (authorizeAgentWorkspaceRequest turn.mode (requestTypeOf message.payload) message.payload s.approved).2 with
    | ok _ => exact ⟨hok hres, hstep, fun w hw => .inl hw⟩
    | error e => exact ⟨trivial, hstep, fun w hw => .inl hw⟩
  · rw [if_neg hmut]
    exact stepWell_quiet (authorize_other message.payload s.approved (Bool.eq_false_of_not_eq_true hmut)) (.inl rfl)

theorem stepWell_decision {turn : TurnContext} {s : AgentTurn} (hs : TurnWell turn s) (response : ApprovalResponse)
    (o : ResolveOutcome) (replyFault : Option String) :
    StepWell turn s (.decision response o replyFault) (s.decision response o replyFault) := by
  unfold decision
  cases hw : s.waiting with
  | none => exact stepWell_quiet rfl (.inl rfl)
  | some w =>
    dsimp only
    cases h : resolveWaiting w response o s.coordinator with
    | error e c => exact stepWell_quiet rfl (.inr rfl)
    | ok r c =>
      obtain ⟨reply, m⟩ := r
      cases m with
      | none => exact stepWell_quiet rfl (.inr rfl)
      | some m =>
        obtain ⟨hdecision, rfl⟩ := resolveWaiting_ok h
        exact ⟨⟨hdecision, hs.waiting w hw⟩, rfl, fun w hw => by cases hw⟩

theorem stepWell_handle {turn : TurnContext} {s : AgentTurn} (hs : TurnWell turn s) (l : TurnStep) :
    StepWell turn s l (s.handle turn l) := by
  cases l with
  | receive message o =>
    change StepWell turn s _ (s.receive turn message o)
    unfold receive
    split
    · exact stepWell_quiet rfl (.inl rfl)
    split
    · exact stepWell_quiet rfl (.inl rfl)
    cases message.kind with
    | request =>
      dsimp only
      split
      · exact stepWell_ask turn s message o
      · exact stepWell_authorize turn s message o
    | event => exact stepWell_quiet rfl (.inl rfl)
    | response => exact stepWell_quiet rfl (.inl rfl)
    | cancel => exact stepWell_quiet rfl (.inl rfl)
  | decision response o replyFault => exact stepWell_decision hs response o replyFault
  | others change => exact stepWell_quiet rfl (.inl rfl)

theorem turnWell_step (turn : TurnContext) (s : AgentTurn) (l : TurnStep) (hs : TurnWell turn s) :
    TurnWell turn (s.step turn l) := by
  have hstep := stepWell_handle hs l
  constructor
  · intro w hw
    rcases hstep.waiting w hw with h | h
    · exact hs.waiting w h
    · exact h
  · intro id m hget
    have hevent := hstep.event
    rw [show (s.step turn l).approved = _ from hstep.approved] at hget
    cases he : (s.handle turn l).2 with
    | granted requestId mutation =>
      rw [he] at hget hevent
      rw [ledgerOp, Tokens.step, OrdMap.get_insert] at hget
      split at hget
      · cases hget
        exact hevent.2
      · exact hs.approved id m hget
    | quiet =>
      rw [he] at hget
      exact hs.approved id m hget
    | admitted requestType payload =>
      rw [he] at hget
      exact hs.approved id m (get_of_attempt hget)
    | refused requestType payload =>
      rw [he] at hget
      exact hs.approved id m (get_of_attempt hget)

/-! ## Runs -/

theorem turnWell_start (turn : TurnContext) (c : Coordinator) : TurnWell turn (.start c) where
  waiting := fun w hw => by cases hw
  approved := fun id m hget => by cases hget

/-- The turn's approvals are the ledger that its events write. -/
theorem approved_after (turn : TurnContext) (s : AgentTurn) (hs : TurnWell turn s) (trace : List TurnStep) :
    (Run.after (step turn) s trace).approved = Run.after Tokens.step s.approved
        ((Run.outputs (step turn) (event turn) s trace).map (ledgerOp turn)) := by
  induction trace generalizing s with
  | nil => rfl
  | cons l trace ih =>
    rw [Run.after_cons, ih _ (turnWell_step turn s l hs), Run.outputs, List.map_cons, Run.after_cons]
    congr 1
    exact (stepWell_handle hs l).approved

/-- The events of the first steps of a run are the first of its events. -/
theorem take_outputs (turn : TurnContext) (s : AgentTurn) (trace : List TurnStep) (i : Nat) :
    (Run.outputs (step turn) (event turn) s trace).take i =
      Run.outputs (step turn) (event turn) s (trace.take i) := by
  induction trace generalizing s i with
  | nil => simp [Run.outputs]
  | cons l trace ih =>
    cases i with
    | zero => rfl
    | succ i => simp only [Run.outputs, List.take_succ_cons, ih]

/-- An event of a run, with the step that puts it out and the state it is taken in. -/
theorem eventWell_of_getElem? {turn : TurnContext} {c : Coordinator} {trace : List TurnStep} {i : Nat} {e : TurnEvent}
    (h : (turnEvents turn c trace)[i]? = some e) :
    ∃ l, (trace)[i]? = some l ∧ EventWell turn (Run.after (step turn) (.start c) (trace.take i)) l e := by
  rw [turnEvents, Run.getElem?_outputs] at h
  obtain ⟨l, hl, rfl⟩ := Option.map_eq_some_iff.mp h
  have hwell := Run.invariant (turnWell_step turn) (trace.take i) (turnWell_start turn c)
  exact ⟨l, hl, (stepWell_handle hwell l).event⟩

/-- The arguments of a request that was let through are those approved: the code for R code, all of them otherwise. -/
theorem arguments_of_match {m : ApprovedMutation} {arguments : Json} (hm : Approvable m)
    (h : approvedArgumentsMatch m.arguments arguments = true) :
    (m.requestType = "workspace.execute" → codeOf m.arguments = codeOf arguments) ∧
      (m.requestType ≠ "workspace.execute" → m.arguments = arguments) := by
  unfold approvedArgumentsMatch at h
  constructor
  · intro _
    split at h
    · rename_i approved actual happroved hactual
      rw [happroved, hactual, eq_of_beq h]
    · rw [of_decide_eq_true h]
  · intro hne
    rcases hm with hexec | ⟨-, hcode⟩
    · exact absurd hexec hne
    · rw [hcode] at h
      exact of_decide_eq_true h

end ApprovalAux

open ApprovalAux

/-- In every run of a turn, with any messages of the Agent, any decisions of the user and any failures: each request for a
mutation that is let through goes back to an approval of its own, granted earlier in the turn in act mode, for the same request
type and for the same code or, if it is an environment operation, the same arguments. Between the two no request, let through or
refused, names the approval. Outside act mode nothing is let through. -/
theorem admissions_approved (turn : TurnContext) (c : Coordinator) (trace : List TurnStep) :
    ∃ approvalOf : Nat → Nat,
      (∀ i requestType payload, (turnEvents turn c trace)[i]? = some (.admitted requestType payload) →
        approvalOf i < i ∧ ∃ id mutation l, approvalRequestId payload = some id ∧
          (turnEvents turn c trace)[approvalOf i]? = some (.granted id mutation) ∧
          (trace)[approvalOf i]? = some l ∧ Approves turn l ∧ mutation.requestType = requestType ∧
          (requestType = "workspace.execute" → codeOf mutation.arguments = codeOf (requestArguments payload)) ∧
          (requestType ≠ "workspace.execute" → mutation.arguments = requestArguments payload) ∧
          ∀ j requestType' payload', approvalOf i < j → j < i →
            ((turnEvents turn c trace)[j]? = some (.admitted requestType' payload') ∨
              (turnEvents turn c trace)[j]? = some (.refused requestType' payload')) →
            approvalRequestId payload' ≠ some id) ∧ Set.InjOn approvalOf
        {i | ∃ requestType payload, (turnEvents turn c trace)[i]? = some (.admitted requestType payload)} ∧
      (turn.mode ≠ "act" →
        ∀ (i : Nat) requestType payload, (turnEvents turn c trace)[i]? ≠ some (.admitted requestType payload)) := by
  obtain ⟨grantOf, hgrant, hinj⟩ := Tokens.exists_grantOf ((turnEvents turn c trace).map (ledgerOp turn))
  -- A request that is let through spends, in act mode, a token that is in the ledger.
  have hspend : ∀ i requestType payload, (turnEvents turn c trace)[i]? = some (.admitted requestType payload) →
      turn.mode = "act" ∧ ∃ id m, approvalRequestId payload = some id ∧ m.requestType = requestType ∧
        approvedArgumentsMatch m.arguments (requestArguments payload) = true ∧
        ((turnEvents turn c trace).map (ledgerOp turn))[i]? = some (.spend id) ∧
        OrdMap.get (Run.after Tokens.step [] (((turnEvents turn c trace).map (ledgerOp turn)).take i)) id = some m := by
    intro i requestType payload h
    obtain ⟨l, hl, hmode, id, m, hid, hget, htype, hmatch⟩ := eventWell_of_getElem? h
    refine ⟨hmode, id, m, hid, htype, hmatch, ?_, ?_⟩
    · rw [List.getElem?_map, h, Option.map_some, ledgerOp, attemptOp, if_pos hmode, hid]
    · rw [← List.map_take, turnEvents, take_outputs]
      rw [approved_after turn _ (turnWell_start turn c)] at hget
      exact hget
  refine ⟨grantOf, ?_, ?_, ?_⟩
  · intro i requestType payload h
    obtain ⟨hmode, id, m, hid, htype, hmatch, hop, hget⟩ := hspend i requestType payload h
    obtain ⟨hlt, hg, hspare⟩ := hgrant i id m hop hget
    have hevent : (turnEvents turn c trace)[grantOf i]? = some (.granted id m) := by
      rw [List.getElem?_map] at hg
      obtain ⟨e, he, hledger⟩ := Option.map_eq_some_iff.mp hg
      rw [he, granted_of_ledgerOp hledger]
    obtain ⟨l, hl, happroves, -, hm⟩ := eventWell_of_getElem? hevent
    obtain ⟨hcode, hargs⟩ := arguments_of_match hm hmatch
    refine ⟨hlt, id, m, l, hid, hevent, hl, happroves, htype, htype ▸ hcode, htype ▸ hargs, ?_⟩
    intro j requestType' payload' hj hji hattempt hid'
    have hopj : ((turnEvents turn c trace).map (ledgerOp turn))[j]? = some (.spend id) := by
      rcases hattempt with h' | h'
      · rw [List.getElem?_map, h', Option.map_some, ledgerOp, attemptOp, if_pos hmode, hid']
      · rw [List.getElem?_map, h', Option.map_some, ledgerOp, attemptOp, if_pos hmode, hid']
    exact hspare j _ hj hji hopj rfl
  · intro i hi i' hi' heq
    obtain ⟨requestType, payload, h⟩ := hi
    obtain ⟨requestType', payload', h'⟩ := hi'
    obtain ⟨-, id, m, -, -, -, hop, hget⟩ := hspend i requestType payload h
    obtain ⟨-, id', m', -, -, -, hop', hget'⟩ := hspend i' requestType' payload' h'
    exact hinj ⟨id, m, hop, hget⟩ ⟨id', m', hop', hget'⟩ heq
  · intro hmode i requestType payload h
    exact hmode (hspend i requestType payload h).1

end Rho
