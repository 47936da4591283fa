import Rho.Server.Execution
import Rho.Theorems.Approval

/-!
# Approved code at the workspace it was approved for

An approval is compared with the workspace when it is granted, not when its code is given to the kernel. The code runs at the
workspace that the approval was asked for at, as long as nothing moves the workspace in between, or the Agent's own expectation
does.
-/

namespace Rho

open Effect OrdMap AgentWorkspace

/-- What a run of the Agent's loop makes of the kernel. -/
abbrev AgentWorkspace.after (turn : TurnContext) (c : Coordinator) (trace : List ExecutionStep) : AgentWorkspace :=
  Run.after (AgentWorkspace.step turn) (.start c) trace

/-- When the kernel is given approved code, the workspace has the identity and the revisions that are recorded in the approval. -/
def RunsAsApproved (turn : TurnContext) (c : Coordinator) (trace : List ExecutionStep) : Prop :=
  ∀ before l rest requestId, trace = before ++ l :: rest →
    (AgentWorkspace.after turn c before).event turn l = .handedOver requestId →
      ∃ row, (AgentWorkspace.after turn c before).coordinator.store.approvals.get requestId = some row ∧
        row.revisions = (AgentWorkspace.after turn c before).coordinator.revisions

/-- When another client has moved the workspace since an approval of R code was granted, the kernel is not given the code. -/
def RefusesMoved (turn : TurnContext) (c : Coordinator) (trace : List ExecutionStep) : Prop :=
  ∀ t₁ l₁ t₂ request t₃ l rest requestId mutation,
    trace = t₁ ++ l₁ :: (t₂ ++ .others request :: (t₃ ++ l :: rest)) →
    (AgentWorkspace.after turn c t₁).event turn l₁ = .granted requestId mutation → mutation.requestType = "workspace.execute" →
    let before := AgentWorkspace.after turn c (t₁ ++ l₁ :: t₂)
    (before.step turn (.others request)).coordinator.revisions ≠ before.coordinator.revisions →
      (AgentWorkspace.after turn c (t₁ ++ l₁ :: (t₂ ++ .others request :: t₃))).event turn l ≠ .handedOver requestId

/-- R code is dispatched at the workspace that it was approved for: since the grant nothing has moved the workspace, or the
expectation that the Agent has put into the request is refused at the workspace as it is. -/
def DispatchesUnmoved (s : AgentWorkspace) : ExecutionStep → Prop
  | .dispatch _ _ =>
    ∀ a requestId expected, s.admitted = some a → a.requestType = "workspace.execute" → a.approval = some requestId →
      requestId ∈ s.moved → decodeExpectedWorkspace a.payload = .ok expected → s.coordinator.broker.authorize expected ≠ .ok ()
  | _ => True

namespace ExecutionAux

open DispatchAux ApprovalAux

/-! ## How the coordinator moves -/

instance : Std.Refl Advances where
  refl _ := ⟨rfl, le_rfl, le_rfl, fun _ row h => ⟨row, h, rfl⟩⟩

instance : IsTrans Coordinator Advances where
  trans c c' c'' h h' := by
    refine ⟨h'.workspaceId.trans h.workspaceId, h.stateRevision.trans h'.stateRevision,
      h.projectRevision.trans h'.projectRevision, fun k row hrow => ?_⟩
    obtain ⟨row', hrow', heq⟩ := h.approvals k row hrow
    obtain ⟨row'', hrow'', heq'⟩ := h'.approvals k row' hrow'
    exact ⟨row'', hrow'', heq'.trans heq⟩

theorem advances_refl (c : Coordinator) : Advances c c := Std.Refl.refl c

theorem advances_trans {c c' c'' : Coordinator} (h : Advances c c') (h' : Advances c' c'') : Advances c c'' :=
  IsTrans.trans c c' c'' h h'

/-- What the handling of an approval does: the workspace stays as it is. -/
structure Stays (c c' : Coordinator) : Prop where
  broker : c'.broker = c.broker
  approvals : ∀ k row, c.store.approvals.get k = some row → ∃ row', c'.store.approvals.get k = some row' ∧ row'.revisions = row.revisions

theorem Stays.advances {c c' : Coordinator} (h : Stays c c') : Advances c c' :=
  ⟨by rw [h.broker], by rw [h.broker], by rw [h.broker], h.approvals⟩

theorem Stays.revisions {c c' : Coordinator} (h : Stays c c') : c'.revisions = c.revisions := by
  unfold Coordinator.revisions
  rw [h.broker]

instance : Std.Refl Stays where
  refl _ := ⟨rfl, fun _ row h => ⟨row, h, rfl⟩⟩

instance : IsTrans Coordinator Stays where
  trans c c' c'' h h' := by
    refine ⟨h'.broker.trans h.broker, fun k row hrow => ?_⟩
    obtain ⟨row', hrow', heq⟩ := h.approvals k row hrow
    obtain ⟨row'', hrow'', heq'⟩ := h'.approvals k row' hrow'
    exact ⟨row'', hrow'', heq'.trans heq⟩

/-- What is left alone by everything but the approvals and the end of an operation. -/
def approvalFrame (c : Coordinator) : BrokerState × Table ApprovalRecord.requestId := (c.broker, c.store.approvals)

theorem stays_of_eq {c c' : Coordinator} (h : approvalFrame c' = approvalFrame c) : Stays c c' := by
  obtain ⟨hbroker, happrovals⟩ := Prod.ext_iff.mp h
  change c'.store.approvals = c.store.approvals at happrovals
  refine ⟨hbroker, fun k row hrow => ⟨row, ?_, rfl⟩⟩
  rw [happrovals]
  exact hrow

theorem keeps_approvals_of_store {f : Store → Store} (h : ∀ s, (f s).approvals = s.approvals) : Keeps approvalFrame (onStore f) :=
  keeps_modify fun c => Prod.ext rfl (h c.store)

theorem keeps_approvals_try {f : Store → Option Store} {message : String} (h : ∀ s s', f s = some s' → s'.approvals = s.approvals) :
    Keeps approvalFrame (storeTry f message) := by
  intro c
  unfold storeTry
  cases hf : f c.store with
  | some store => exact Prod.ext rfl (h c.store store hf)
  | none => rfl

theorem keeps_approvals_claimOperation (requestType executionId projectRoot : String) (o : PrepareOutcome) (operation : Option String) :
    Keeps approvalFrame (claimOperation requestType executionId projectRoot o operation) := by
  cases operation with
  | none => exact keeps_pure _ _
  | some requestId =>
    refine keeps_bind (keeps_attempt _ _) fun _ => ?_
    exact keeps_bind (keeps_modifyGet fun _ => rfl) fun _ => keeps_ofResult _ _

theorem keeps_approvals_prepareDispatch (call : DispatchCall) (o : PrepareOutcome) : Keeps approvalFrame (prepareDispatch call o) := by
  refine keeps_bind (keeps_get _) fun _ => ?_
  refine keeps_bind (keeps_ofResult _ _) fun h => ?_
  refine keeps_bind (keeps_approvals_claimOperation _ _ _ _ _) fun _ => ?_
  refine keeps_bind (keeps_attempt _ _) fun _ => ?_
  refine keeps_bind (keeps_attempt _ _) fun _ => ?_
  refine keeps_bind (keeps_approvals_try fun s s' hs => ?_) fun _ => ?_
  · obtain ⟨runs, -, rfl⟩ := Option.map_eq_some_iff.mp hs
    rfl
  refine keeps_bind (keeps_attempt _ _) fun _ => ?_
  refine keeps_bind (keeps_approvals_of_store fun _ => rfl) fun _ => ?_
  exact keeps_bind (keeps_attempt _ _) fun _ => keeps_pure _ _

theorem keeps_approvals_finishOperation (h : Handover) (o : ConcludeOutcome) (status : EnvironmentOperationStatus) (outcome : String) :
    Keeps approvalFrame (finishOperation h o status outcome) := by
  unfold finishOperation
  cases h.environmentOperation with
  | none => exact keeps_pure _ _
  | some requestId => exact keeps_bind (keeps_attempt _ _) fun _ => keeps_approvals_of_store fun _ => rfl

theorem keeps_approvals_concludeWithout (h : Handover) (o : ConcludeOutcome) (reason : String) :
    Keeps approvalFrame (concludeWithout h o reason) := by
  refine keeps_bind (keeps_get _) fun c => ?_
  refine keeps_bind (keeps_attempt _ _) fun _ => ?_
  exact keeps_bind (keeps_approvals_of_store fun _ => rfl) fun _ => keeps_approvals_finishOperation _ _ _ _

theorem keeps_approvals_concludeWith (h : Handover) (o : ConcludeOutcome) (result : Json) : Keeps approvalFrame (concludeWith h o result) := by
  refine keeps_bind (keeps_attempt _ _) fun _ => ?_
  refine keeps_bind (keeps_modify fun _ => rfl) fun _ => ?_
  refine keeps_bind (keeps_get _) fun c => ?_
  refine keeps_bind (keeps_attempt _ _) fun _ => ?_
  refine keeps_bind (keeps_approvals_of_store fun _ => rfl) fun _ => ?_
  refine keeps_bind (keeps_approvals_finishOperation _ _ _ _) fun _ => ?_
  refine keeps_bind (keeps_attempt _ _) fun _ => ?_
  refine keeps_bind (keeps_attempt _ _) fun _ => ?_
  exact keeps_bind (keeps_attempt _ _) fun _ => keeps_pure _ _

/-- A completed operation moves the revisions on. -/
theorem advances_complete (c : Coordinator) (cls : OperationClass) : Advances c { c with broker := c.broker.complete cls } := by
  cases cls <;> exact ⟨rfl, by simp [BrokerState.complete, WorkspaceIdentity.apply], by simp [BrokerState.complete, WorkspaceIdentity.apply],
    fun _ row h => ⟨row, h, rfl⟩⟩

theorem stays_of_frame {α : Type} {x : CoordinatorM α} (h : Keeps approvalFrame x) : Moves Stays x :=
  moves_of_keeps (f := approvalFrame) (fun _ _ heq => stays_of_eq heq) h

theorem moves_of_frame {α : Type} {x : CoordinatorM α} (h : Keeps approvalFrame x) : Moves Advances x :=
  fun c => (stays_of_frame h c).advances

theorem moves_concludeDispatch (h : Handover) (o : ConcludeOutcome) : Moves Advances (concludeDispatch h o) := by
  unfold concludeDispatch
  cases o.kernel with
  | error => exact moves_bind (moves_of_frame (keeps_approvals_concludeWithout h o _)) fun _ => moves_throw _
  | unreadable error => exact moves_bind (moves_of_frame (keeps_approvals_concludeWithout h o _)) fun _ => moves_throw _
  | finished result =>
    exact moves_bind (moves_modify fun c => advances_complete c _) fun _ => moves_of_frame (keeps_approvals_concludeWith h o result)

/-! ## The approvals -/

section Approvals

variable {c : Coordinator}

theorem stays_createApproval {store : Store} {row : ApprovalRecord} (h : c.store.createApprovalRequest row = some store) :
    Stays c { c with store } := by
  obtain ⟨t, ht, rfl⟩ := Option.map_eq_some_iff.mp h
  exact ⟨rfl, fun _ r hr => ⟨r, Table.get_insert_of_get ht hr, rfl⟩⟩

/-- A decision leaves what the approval was asked for at. -/
theorem stays_resolveApproval (c : Coordinator) (requestId : String) (record : ApprovalDecision) :
    Stays c { c with store := c.store.resolveApprovalRequest requestId record } := by
  refine ⟨rfl, fun k row hrow => ?_⟩
  cases hp : decide (row.requestId = requestId) with
  | false =>
    refine ⟨row, Table.get_update_of_not ?_ hrow hp, rfl⟩
    exact fun _ => rfl
  | true =>
    refine ⟨_, Table.get_update_of_pos ?_ hrow hp, rfl⟩
    exact fun _ => rfl

theorem moves_createApproval (row : ApprovalRecord) (message : String) :
    Moves Stays (storeTry (·.createApprovalRequest row) message) := by
  intro c
  unfold storeTry
  dsimp only
  cases h : c.store.createApprovalRequest row with
  | none => exact Std.Refl.refl c
  | some store => exact stays_createApproval h

theorem moves_resolveApproval (requestId : String) (record : ApprovalDecision) :
    Moves Stays (onStore (·.resolveApprovalRequest requestId record)) :=
  moves_modify fun c => stays_resolveApproval c requestId record

theorem moves_requestEnvironmentOperation (arguments : EnvironmentOperationArguments) (turnId : Option String)
    (source : EnvironmentOperationSource) (o : AskOutcome) : Moves Stays (requestEnvironmentOperation arguments turnId source o) := by
  refine moves_bind (moves_ofResult _) fun _ => moves_bind (moves_attempt _) fun _ => moves_bind moves_get fun c => ?_
  refine moves_bind (moves_ofResult _) fun _ => moves_bind (moves_ofResult _) fun _ => moves_bind (moves_attempt _) fun _ => ?_
  refine moves_bind (stays_of_frame (keeps_approvals_try fun s s' hs => ?_)) fun _ => ?_
  · obtain ⟨t, -, rfl⟩ := Option.map_eq_some_iff.mp hs
    rfl
  exact moves_bind (moves_attempt _) fun _ => moves_bind moves_get fun _ => moves_ofResult _

theorem moves_askEnvironmentReview (turn : TurnContext) (ask : ApprovalAsk) (o : AskOutcome) :
    Moves Stays (askEnvironmentReview turn ask o) := by
  refine moves_bind (moves_ofResult _) fun _ => moves_bind (moves_requestEnvironmentOperation _ _ _ _) fun _ => ?_
  refine moves_bind (moves_ofResult _) fun _ => moves_bind (moves_attempt _) fun _ => ?_
  exact moves_bind (moves_attempt _) fun _ => moves_pure _

theorem moves_askApproval (turn : TurnContext) (ask : ApprovalAsk) (requestType : String) (o : AskOutcome) :
    Moves Stays (askApproval turn ask requestType o) := by
  refine moves_bind (moves_attempt _) fun _ => moves_bind moves_get fun c => moves_bind (moves_ofResult _) fun _ => ?_
  refine moves_bind (moves_attempt _) fun _ => moves_bind (moves_createApproval _ _) fun _ => ?_
  split
  · refine moves_bind (moves_attempt _) fun _ => moves_bind (moves_resolveApproval _ _) fun _ => ?_
    exact moves_bind (moves_attempt _) fun _ => moves_bind (moves_attempt _) fun _ => moves_pure _
  · exact moves_bind (moves_attempt _) fun _ => moves_bind (moves_attempt _) fun _ => moves_pure _

theorem moves_handleToolApprovalRequired (turn : TurnContext) (ask : ApprovalAsk) (o : AskOutcome) :
    Moves Stays (handleToolApprovalRequired turn ask o) := by
  unfold handleToolApprovalRequired
  split
  · split
    · exact moves_askEnvironmentReview turn ask o
    · exact moves_askApproval turn ask _ o
  · exact moves_bind (moves_attempt _) fun _ => moves_pure _

theorem moves_settleReview (requestId : String) (response : ApprovalResponse) (o : ResolveOutcome) (status : EnvironmentOperationStatus) :
    Moves Stays (settleReview requestId response o status) := by
  refine moves_bind (moves_attempt _) fun _ => moves_bind (stays_of_frame (keeps_approvals_of_store fun _ => rfl)) fun _ => ?_
  exact moves_bind (moves_attempt _) fun _ => moves_attempt _

theorem moves_settleApproval (requestId : String) (response : ApprovalResponse) (o : ResolveOutcome) (status : ApprovalStatus)
    (continuation : String) : Moves Stays (settleApproval requestId response o status continuation) := by
  refine moves_bind (moves_attempt _) fun _ => moves_bind (moves_resolveApproval _ _) fun _ => ?_
  exact moves_bind (moves_attempt _) fun _ => moves_attempt _

theorem moves_resolveWaiting (w : Waiting) (response : ApprovalResponse) (o : ResolveOutcome) :
    Moves Stays (resolveWaiting w response o) := by
  cases w with
  | environment requestId projectRoot mutation =>
    refine moves_bind (moves_attempt _) fun _ => moves_bind moves_get fun c => moves_bind (moves_ofResult _) fun request => ?_
    split
    · refine moves_bind (moves_attempt _) fun _ => ?_
      split
      · exact moves_bind (moves_settleReview _ _ _ _) fun _ => moves_pure _
      · exact moves_bind (moves_settleReview _ _ _ _) fun _ => moves_pure _
    · split
      · exact moves_bind (moves_settleReview _ _ _ _) fun _ => moves_pure _
      · exact moves_bind (moves_settleReview _ _ _ _) fun _ => moves_pure _
  | approval requestId identity mutation =>
    refine moves_bind moves_get fun c => ?_
    split
    · exact moves_bind (moves_settleApproval _ _ _ _ _) fun _ => moves_pure _
    · split
      · exact moves_bind (moves_settleApproval _ _ _ _ _) fun _ => moves_pure _
      · split
        · exact moves_bind (moves_settleApproval _ _ _ _ _) fun _ => moves_pure _
        · exact moves_bind (moves_settleApproval _ _ _ _ _) fun _ => moves_pure _

/-- What the handler has stored for what it grants at once or waits for. -/
def AskedAt (c : Coordinator) : Asked → Prop
  | .replied _ => True
  | .granted requestId _ _ => ∃ row, c.store.approvals.get requestId = some row ∧ row.revisions = c.revisions
  | .waits (.approval requestId identity _) => ∃ row, c.store.approvals.get requestId = some row ∧ row.revisions = identity.revisions
  | .waits (.environment _ _ mutation) => mutation.requestType ≠ "workspace.execute"

theorem askedAt_askApproval {turn : TurnContext} {ask : ApprovalAsk} {requestType : String} {o : AskOutcome} {c' : Coordinator}
    {a : Asked} (h : askApproval turn ask requestType o c = .ok a c') : AskedAt c' a := by
  unfold askApproval at h
  obtain ⟨_, c₁, hc₁, h₁⟩ := bind_ok h
  obtain ⟨d, c₂, hget, h₂⟩ := bind_ok h₁
  obtain ⟨projectRoot, c₃, hroot, h₃⟩ := bind_ok h₂
  obtain ⟨_, c₄, hc₄, h₄⟩ := bind_ok h₃
  obtain ⟨_, c₅, hcreate, h₅⟩ := bind_ok h₄
  have hd : d = c₄ := ((get_ok hget).1.trans (get_ok hget).2.symm).trans ((ofResult_ok hroot).2.symm.trans (attempt_ok hc₄).2.symm)
  obtain ⟨store, hstore, rfl⟩ := storeTry_ok hcreate
  -- The row is stored with the identity that the handler has read.
  obtain ⟨t, ht, rfl⟩ := Option.map_eq_some_iff.mp hstore
  have hrow := Table.get_insert ht ask.requestId
  rw [if_pos rfl] at hrow
  rw [hd] at hrow h₅
  split at h₅
  · obtain ⟨_, c₆, hc₆, h₆⟩ := bind_ok h₅
    obtain ⟨_, c₇, hresolve, h₇⟩ := bind_ok h₆
    obtain ⟨_, c₈, hc₈, h₈⟩ := bind_ok h₇
    obtain ⟨_, c₉, hc₉, h₉⟩ := bind_ok h₈
    obtain ⟨rfl, hc'⟩ := pure_ok h₉
    rw [(attempt_ok hc₆).2] at hresolve
    cases hresolve
    rw [hc', (attempt_ok hc₉).2, (attempt_ok hc₈).2]
    exact (stays_resolveApproval { c₄ with store := { c₄.store with approvals := t } } ask.requestId _).approvals _ _ hrow
  · obtain ⟨_, c₆, hc₆, h₆⟩ := bind_ok h₅
    obtain ⟨_, c₇, hc₇, h₇⟩ := bind_ok h₆
    obtain ⟨rfl, hc'⟩ := pure_ok h₇
    rw [hc', (attempt_ok hc₇).2, (attempt_ok hc₆).2]
    exact ⟨_, hrow, rfl⟩

theorem askedAt_askEnvironmentReview {turn : TurnContext} {ask : ApprovalAsk} {o : AskOutcome} {c' : Coordinator} {a : Asked}
    (h : askEnvironmentReview turn ask o c = .ok a c') : AskedAt c' a := by
  unfold askEnvironmentReview at h
  obtain ⟨arguments, c₁, -, h⟩ := bind_ok h
  obtain ⟨request, c₂, hrequest, h⟩ := bind_ok h
  obtain ⟨approved, c₃, -, h⟩ := bind_ok h
  obtain ⟨_, c₄, -, h⟩ := bind_ok h
  obtain ⟨_, c₅, -, h⟩ := bind_ok h
  obtain ⟨rfl, -⟩ := pure_ok h
  exact (requestEnvironmentOperation_ok hrequest).1

theorem askedAt_handleToolApprovalRequired {turn : TurnContext} {ask : ApprovalAsk} {o : AskOutcome} {c' : Coordinator} {a : Asked}
    (h : handleToolApprovalRequired turn ask o c = .ok a c') : AskedAt c' a := by
  unfold handleToolApprovalRequired at h
  have hdenied : ∀ {a : Asked}, policyDenied turn ask o c = .ok a c' → AskedAt c' a := by
    intro a h
    unfold policyDenied at h
    obtain ⟨_, c₁, -, h⟩ := bind_ok h
    obtain ⟨rfl, -⟩ := pure_ok h
    trivial
  cases hmode : decide (turn.mode = "act") with
  | false =>
    rw [hmode] at h
    exact hdenied h
  | true =>
    cases htool : agentToolRequestType ask.tool with
    | none =>
      rw [hmode, htool] at h
      exact hdenied h
    | some requestType =>
      rw [hmode, htool] at h
      dsimp only at h
      split at h
      · exact askedAt_askEnvironmentReview h
      · exact askedAt_askApproval h

/-- R code is approved at the workspace that it was asked for at. -/
theorem resolveApproval_unmoved {requestId : String} {identity : WorkspaceIdentity} {mutation m : ApprovedMutation}
    {response : ApprovalResponse} {o : ResolveOutcome} {reply : ApprovalReply} {c' : Coordinator}
    (h : resolveApproval requestId identity mutation response o c = .ok (reply, some m) c') : identity.revisions = c.revisions := by
  unfold resolveApproval at h
  obtain ⟨d, c₁, hget, h₁⟩ := bind_ok h
  obtain ⟨rfl, -⟩ := get_ok hget
  split at h₁
  · obtain ⟨_, c₃, -, h₃⟩ := bind_ok h₁
    cases (pure_ok h₃).1
  · next hmoved =>
    split at h₁
    · next happrove =>
      simp only [happrove, true_and, identityMoved, not_or, not_not] at hmoved
      exact Prod.ext hmoved.1.symm (Prod.ext hmoved.2.1.symm hmoved.2.2.symm)
    · split at h₁
      all_goals
        obtain ⟨_, c₃, -, h₃⟩ := bind_ok h₁
        cases (pure_ok h₃).1

end Approvals

/-! ## What every step keeps -/

/-- The approval's row has what the workspace has now. -/
def Current (c : Coordinator) (requestId : String) : Prop :=
  ∃ row, c.store.approvals.get requestId = some row ∧ row.revisions = c.revisions

theorem Current.of_advances {c c' : Coordinator} {requestId : String} (h : Current c requestId) (hc : Advances c c')
    (hsame : c'.revisions = c.revisions) : Current c' requestId := by
  obtain ⟨row, hrow, hrevisions⟩ := h
  obtain ⟨row', hrow', heq⟩ := hc.approvals _ row hrow
  exact ⟨row', hrow', (heq.trans hrevisions).trans hsame.symm⟩

theorem askedAt_waits_of_advances {c c' : Coordinator} {w : Waiting} (h : AskedAt c (.waits w)) (hc : Advances c c') :
    AskedAt c' (.waits w) := by
  cases w with
  | environment requestId projectRoot mutation => exact h
  | approval requestId identity mutation =>
    obtain ⟨row, hrow, hrevisions⟩ := h
    obtain ⟨row', hrow', heq⟩ := hc.approvals _ row hrow
    exact ⟨row', hrow', heq.trans hrevisions⟩

/-- R code that is approved, and has not been handed over, was approved for the workspace as it is, unless it has moved since. -/
structure ExecutionOk (s : AgentWorkspace) : Prop where
  waiting : ∀ w, s.turn.waiting = some w → AskedAt s.coordinator (.waits w)
  approved : ∀ k m, OrdMap.get s.turn.approved k = some m → m.requestType = "workspace.execute" → k ∉ s.moved →
    Current s.coordinator k
  admitted : ∀ a k, s.admitted = some a → a.requestType = "workspace.execute" → a.approval = some k → k ∉ s.moved →
    Current s.coordinator k

/-- What a step does, before it is noted whether it has moved the workspace. -/
structure StepOk (s : AgentWorkspace) (r : AgentWorkspace × ExecutionEvent) : Prop where
  advances : Advances s.coordinator r.1.coordinator
  moved : r.1.moved = s.moved
  waiting : ∀ w, r.1.turn.waiting = some w → AskedAt r.1.coordinator (.waits w)
  granted : ∀ k m, r.2 = .granted k m → m.requestType = "workspace.execute" → Current r.1.coordinator k
  approved : ∀ k m, OrdMap.get r.1.turn.approved k = some m →
    r.2 = .granted k m ∨ (∀ m', r.2 ≠ .granted k m') ∧ OrdMap.get s.turn.approved k = some m
  admitted : ∀ a k, r.1.admitted = some a → a.requestType = "workspace.execute" → a.approval = some k →
    (∀ k' m, r.2 ≠ .granted k' m) ∧
      (s.admitted = some a ∨ ∃ m, OrdMap.get s.turn.approved k = some m ∧ m.requestType = "workspace.execute")

section Steps

variable {turn : TurnContext} {s : AgentWorkspace}

theorem mem_unused_of_approved {k : String} {m : ApprovedMutation} (h : get s.turn.approved k = some m) : k ∈ s.unused := by
  refine List.mem_append_left _ ?_
  by_contra hk
  rw [get_eq_none_iff.mpr hk] at h
  cases h

theorem mem_unused_of_admitted {a : Admitted} {k : String} (h : s.admitted = some a) (hk : a.approval = some k) : k ∈ s.unused := by
  refine List.mem_append_right _ ?_
  rw [h, Option.bind_some, hk]
  exact List.mem_singleton_self k

theorem executionOk_step (hs : ExecutionOk s) {l : ExecutionStep} (h : StepOk s (s.handle turn l)) : ExecutionOk (s.step turn l) := by
  obtain ⟨r, hr⟩ : ∃ r, s.handle turn l = r := ⟨_, rfl⟩
  have hstep : s.step turn l = { r.1 with moved := s.movedBy r.1 r.2 } := by rw [← hr]; rfl
  rw [hr] at h
  rw [hstep]
  -- An approval that was there, and is not granted by the step, is as current as it was.
  have hold : ∀ k, k ∈ s.unused → (∀ m, r.2 ≠ .granted k m) → k ∉ s.movedBy r.1 r.2 → (k ∉ s.moved → Current s.coordinator k) →
      Current r.1.coordinator k := by
    intro k hunused hnot hmoved hcurrent
    unfold movedBy at hmoved
    by_cases hsame : r.1.coordinator.revisions = s.coordinator.revisions
    · rw [if_pos hsame] at hmoved
      refine (hcurrent fun hmem => hmoved ?_).of_advances h.advances hsame
      cases hevent : r.2 with
      | granted k' m' =>
        refine List.mem_filter.mpr ⟨hmem, decide_eq_true ?_⟩
        rintro rfl
        exact hnot m' hevent
      | handedOver k' => exact hmem
      | quiet => exact hmem
    · rw [if_neg hsame] at hmoved
      exact absurd (List.mem_append_left _ hunused) hmoved
  refine ⟨h.waiting, ?_, ?_⟩
  · intro k m hm hexecute hmoved
    rcases h.approved k m hm with hgranted | ⟨hnot, hold'⟩
    · exact h.granted k m hgranted hexecute
    · exact hold k (mem_unused_of_approved hold') hnot hmoved fun hk => hs.approved k m hold' hexecute hk
  · intro a k ha hexecute hk hmoved
    obtain ⟨hnot, ha' | ⟨m, hm, hm'⟩⟩ := h.admitted a k ha hexecute hk
    · exact hold k (mem_unused_of_admitted ha' hk) (hnot k) hmoved fun hk' => hs.admitted a k ha' hexecute hk hk'
    · exact hold k (mem_unused_of_approved hm) (hnot k) hmoved fun hk' => hs.approved k m hm hm' hk'

/-- A step that has nothing to do with the approvals. -/
theorem stepOk_quiet (hs : ExecutionOk s) {s' : AgentWorkspace} {event : ExecutionEvent} (hevent : ∀ k m, event ≠ .granted k m)
    (happroved : s'.turn.approved = s.turn.approved) (hwaiting : ∀ w, s'.turn.waiting = some w → s.turn.waiting = some w)
    (hadmitted : ∀ a, s'.admitted = some a → s.admitted = some a) (hmoved : s'.moved = s.moved)
    (hadvances : Advances s.coordinator s'.coordinator) : StepOk s (s', event) where
  advances := hadvances
  moved := hmoved
  waiting w hw := askedAt_waits_of_advances (hs.waiting w (hwaiting w hw)) hadvances
  granted k m h := absurd h (hevent k m)
  approved k m hm := .inr ⟨hevent k, by rw [← happroved]; exact hm⟩
  admitted a k ha _ _ := ⟨hevent, .inl (hadmitted a ha)⟩

/-! ## The loop -/

/-- What a round of the loop does. -/
structure RoundOk (t : AgentTurn) (r : AgentTurn × TurnEvent) : Prop where
  stays : Stays t.coordinator r.1.coordinator
  waiting : ∀ w, r.1.waiting = some w → t.waiting = some w ∨ AskedAt r.1.coordinator (.waits w)
  granted : ∀ k m, r.2 = .granted k m → m.requestType = "workspace.execute" → Current r.1.coordinator k
  approved : ∀ k m, OrdMap.get r.1.approved k = some m →
    r.2 = .granted k m ∨ (∀ m', r.2 ≠ .granted k m') ∧ OrdMap.get t.approved k = some m
  admitted : ∀ requestType payload k, r.2 = .admitted requestType payload → requestType = "workspace.execute" →
    stringArgument payload "approval_request_id" = some k → ∃ m, OrdMap.get t.approved k = some m ∧ m.requestType = "workspace.execute"

variable {t : AgentTurn}

theorem roundOk_quiet {t' : AgentTurn} (hstays : Stays t.coordinator t'.coordinator) (happroved : t'.approved = t.approved)
    (hwaiting : ∀ w, t'.waiting = some w → t.waiting = some w ∨ AskedAt t'.coordinator (.waits w)) : RoundOk t (t', .quiet) where
  stays := hstays
  waiting := hwaiting
  granted _ _ h := nomatch h
  approved k m hm := .inr ⟨nofun, by rw [← happroved]; exact hm⟩
  admitted _ _ _ h := nomatch h

/-- Without a grant, what is approved was approved before. -/
theorem RoundOk.approved_of_not_granted {r : AgentTurn × TurnEvent} (h : RoundOk t r) (hne : ∀ k m, r.2 ≠ .granted k m) {k : String}
    {m : ApprovedMutation} (hm : get r.1.approved k = some m) : get t.approved k = some m :=
  (h.approved k m hm).elim (fun hgranted => absurd hgranted (hne k m)) And.right

theorem roundOk_granted {t' : AgentTurn} {requestId : String} {mutation : ApprovedMutation}
    (hstays : Stays t.coordinator t'.coordinator) (happroved : t'.approved = insert requestId mutation t.approved)
    (hwaiting : ∀ w, t'.waiting = some w → t.waiting = some w)
    (hcurrent : mutation.requestType = "workspace.execute" → Current t'.coordinator requestId) :
    RoundOk t (t', .granted requestId mutation) where
  stays := hstays
  waiting w hw := .inl (hwaiting w hw)
  granted := by
    rintro k m ⟨⟩ hexecute
    exact hcurrent hexecute
  approved k m hm := by
    change get t'.approved k = some m at hm
    rw [happroved, get_insert] at hm
    split at hm
    · next heq =>
      cases hm
      rw [heq]
      exact .inl rfl
    · next hne =>
      refine .inr ⟨?_, hm⟩
      rintro m' ⟨⟩
      exact hne rfl
  admitted _ _ _ h := nomatch h

theorem roundOk_ask (message : Envelope) (o : ServeOutcome) : RoundOk t (t.ask turn message o) := by
  unfold AgentTurn.ask
  obtain ⟨ask, hask⟩ : ∃ ask, ApprovalAsk.ofPayload message.id message.payload = ask := ⟨_, rfl⟩
  rw [hask]
  have hstays := moves_handleToolApprovalRequired turn ask o.ask t.coordinator
  dsimp only
  cases hresult : handleToolApprovalRequired turn ask o.ask t.coordinator with
  | error e c =>
    rw [hresult] at hstays
    exact roundOk_quiet hstays rfl fun w hw => .inl hw
  | ok a c =>
    rw [hresult] at hstays
    have hasked := askedAt_handleToolApprovalRequired hresult
    cases a with
    | replied reply => exact roundOk_quiet hstays rfl fun w hw => .inl hw
    | granted requestId mutation reply => exact roundOk_granted hstays rfl (fun w hw => hw) fun _ => hasked
    | waits waiting =>
      refine roundOk_quiet hstays rfl fun w hw => .inr ?_
      cases hw
      exact hasked

theorem roundOk_authorize (message : Envelope) (o : ServeOutcome) : RoundOk t (t.authorize turn message o) := by
  unfold AgentTurn.authorize
  obtain ⟨requestType, hrequestType⟩ : ∃ requestType, requestTypeOf message.payload = requestType := ⟨_, rfl⟩
  rw [hrequestType]
  obtain ⟨⟨approved, result⟩, hr⟩ : ∃ r, authorizeAgentWorkspaceRequest turn.mode requestType message.payload t.approved = r := ⟨_, rfl⟩
  dsimp only
  rw [hr]
  by_cases hmutation : isAgentMutation requestType = true
  · rw [if_pos hmutation]
    have hauthorize := authorize_mutation turn message.payload t.approved hmutation
    rw [hr] at hauthorize
    obtain ⟨rfl, hresult⟩ := hauthorize
    cases result with
    | error e =>
      exact ⟨Std.Refl.refl _, fun w hw => .inl hw, nofun,
        fun k m hm => .inr ⟨nofun, get_of_attempt hm⟩, nofun⟩
    | ok u =>
      refine ⟨Std.Refl.refl _, fun w hw => .inl hw, nofun,
        fun k m hm => .inr ⟨nofun, get_of_attempt hm⟩, ?_⟩
      rintro _ _ k ⟨⟩ hexecute hk
      obtain ⟨-, id, m, hid, hm, htype, -⟩ := hresult rfl
      obtain rfl : id = k := Option.some.inj (hid.symm.trans hk)
      exact ⟨m, hm, htype.trans hexecute⟩
  · rw [if_neg hmutation]
    have hsame : (authorizeAgentWorkspaceRequest turn.mode requestType message.payload t.approved).1 = t.approved :=
      authorize_other message.payload t.approved (Bool.not_eq_true _ ▸ hmutation)
    rw [hr] at hsame
    exact roundOk_quiet (Std.Refl.refl t.coordinator) hsame fun w hw => .inl hw

theorem roundOk_decision (hwaiting : ∀ w, t.waiting = some w → AskedAt t.coordinator (.waits w)) (response : ApprovalResponse)
    (o : ResolveOutcome) (replyFault : Option String) : RoundOk t (t.decision response o replyFault) := by
  unfold AgentTurn.decision
  cases hw : t.waiting with
  | none => exact roundOk_quiet (Std.Refl.refl _) rfl fun w hw' => .inl hw'
  | some w =>
    have hstays := moves_resolveWaiting w response o t.coordinator
    dsimp only
    cases hresult : resolveWaiting w response o t.coordinator with
    | error e c =>
      rw [hresult] at hstays
      exact roundOk_quiet hstays rfl fun _ hw' => nomatch hw'
    | ok resolved c =>
      rw [hresult] at hstays
      obtain ⟨reply, mutation⟩ := resolved
      cases mutation with
      | none => exact roundOk_quiet hstays rfl fun _ hw' => nomatch hw'
      | some m =>
        refine roundOk_granted hstays rfl (fun _ hw' => nomatch hw') fun hexecute => ?_
        have hasked := hwaiting w hw
        obtain rfl := (resolveWaiting_ok hresult).2
        cases w with
        | environment requestId projectRoot mutation => exact absurd hexecute hasked
        | approval requestId identity mutation =>
          obtain ⟨row, hrow, hrevisions⟩ := hasked
          have hcurrent : Current t.coordinator requestId := ⟨row, hrow, hrevisions.trans (resolveApproval_unmoved hresult)⟩
          exact hcurrent.of_advances (Stays.advances hstays) (Stays.revisions hstays)

theorem roundOk_receive (message : Envelope) (o : ServeOutcome) : RoundOk t (t.receive turn message o) := by
  have hsame : ∀ t' : AgentTurn, t'.coordinator = t.coordinator → t'.approved = t.approved → t'.waiting = t.waiting →
      RoundOk t (t', .quiet) := by
    intro t' hcoordinator happroved hwaiting
    refine roundOk_quiet ?_ happroved fun w hw => .inl (hwaiting.symm.trans hw)
    rw [hcoordinator]
    exact Std.Refl.refl _
  unfold AgentTurn.receive
  split
  · exact hsame t rfl rfl rfl
  · split
    · exact hsame _ rfl rfl rfl
    · split
      · split
        · exact roundOk_ask message o
        · exact roundOk_authorize message o
      · exact hsame _ rfl rfl rfl
      · exact hsame _ rfl rfl rfl
      · exact hsame _ rfl rfl rfl

theorem stepOk_serve (hs : ExecutionOk s) {l : TurnStep} (h : RoundOk s.turn (s.turn.handle turn l)) : StepOk s (s.serve turn l) := by
  unfold serve
  split
  · exact stepOk_quiet hs nofun rfl (fun _ hw => hw) (fun _ ha => ha) rfl (advances_refl _)
  · next hidle =>
    simp only [Bool.or_eq_true, not_or, Bool.not_eq_true, Option.isSome_eq_false_iff, Option.isNone_iff_eq_none] at hidle
    obtain ⟨⟨t, e⟩, hr⟩ : ∃ r, s.turn.handle turn l = r := ⟨_, rfl⟩
    rw [hr] at h ⊢
    have hwaiting : ∀ w, t.waiting = some w → AskedAt t.coordinator (.waits w) := fun w hw =>
      (h.waiting w hw).elim (fun hw' => askedAt_waits_of_advances (hs.waiting w hw') (Stays.advances h.stays)) id
    -- Without a grant and without a request that is let through, nothing is added.
    have hquiet : (∀ k m, e ≠ .granted k m) → StepOk s ({ s with turn := t }, .quiet) := by
      intro hne
      refine ⟨Stays.advances h.stays, rfl, hwaiting, nofun, fun k m hm => ?_, fun a k ha => ?_⟩
      · exact .inr ⟨nofun, h.approved_of_not_granted hne hm⟩
      · rw [hidle.1] at ha
        cases ha
    cases e with
    | granted requestId mutation =>
      refine ⟨Stays.advances h.stays, rfl, hwaiting, ?_, ?_, ?_⟩
      · rintro k m ⟨⟩
        exact h.granted _ _ rfl
      · intro k m hm
        rcases h.approved k m hm with heq | ⟨hne, hold⟩
        · cases heq
          exact .inl rfl
        · refine .inr ⟨?_, hold⟩
          rintro m' ⟨⟩
          exact hne _ rfl
      · intro a k ha
        rw [hidle.1] at ha
        cases ha
    | admitted requestType payload =>
      refine ⟨Stays.advances h.stays, rfl, hwaiting, nofun, fun k m hm => ?_, ?_⟩
      · exact .inr ⟨nofun, h.approved_of_not_granted nofun hm⟩
      · rintro _ k ⟨⟩ hexecute hk
        exact ⟨nofun, .inr (h.admitted _ _ k rfl hexecute hk)⟩
    | refused requestType payload => exact hquiet nofun
    | quiet => exact hquiet nofun

/-! ## The dispatch -/

theorem advances_prepareDispatch (call : DispatchCall) (o : PrepareOutcome) (c : Coordinator) :
    Advances c (final (prepareDispatch call o c)) := moves_of_frame (keeps_approvals_prepareDispatch call o) c

/-- What reaches the kernel has passed the broker's check of the expectation that it came with. -/
theorem authorized_of_prepareDispatch {call : DispatchCall} {o : PrepareOutcome} {c c' : Coordinator} {h : Handover}
    (hok : prepareDispatch call o c = .ok h c') :
    ∃ expected, decodeExpectedWorkspace call.payload = .ok expected ∧ c.broker.authorize expected = .ok () := by
  unfold prepareDispatch at hok
  obtain ⟨d, c₁, hget, h₁⟩ := bind_ok hok
  obtain ⟨rfl, -⟩ := get_ok hget
  obtain ⟨h', c₂, hauthorize, -⟩ := bind_ok h₁
  obtain ⟨hauthorize, -⟩ := ofResult_ok hauthorize
  unfold authorizeDispatch at hauthorize
  obtain ⟨expected, hexpected, h₂⟩ := Fallible.bind_eq_ok hauthorize
  obtain ⟨operation, -, h₃⟩ := Fallible.bind_eq_ok h₂
  obtain ⟨_, -, h₄⟩ := Fallible.bind_eq_ok h₃
  obtain ⟨executionId, -, h₅⟩ := Fallible.bind_eq_ok h₄
  obtain ⟨_, hcheck, -⟩ := Fallible.bind_eq_ok h₅
  refine ⟨expected, hexpected, ?_⟩
  cases hresult : d.broker.authorize expected with
  | ok u => rfl
  | error e =>
    rw [hresult] at hcheck
    cases hcheck

theorem stepOk_dispatch (hs : ExecutionOk s) (executionId : String) (o : PrepareOutcome) : StepOk s (s.dispatch executionId o) := by
  unfold dispatch
  split
  · next a hadmitted hrunning =>
    have hadvances := advances_prepareDispatch ⟨a.requestType, a.payload, .agent, some executionId⟩ o s.coordinator
    split
    · next h c hok =>
      rw [hok] at hadvances
      refine stepOk_quiet hs ?_ rfl (fun _ hw => hw) nofun rfl hadvances
      intro k m
      split <;> simp
    · next e c herror =>
      rw [herror] at hadvances
      exact stepOk_quiet hs nofun rfl (fun _ hw => hw) nofun rfl hadvances
  · exact stepOk_quiet hs nofun rfl (fun _ hw => hw) (fun _ ha => ha) rfl (advances_refl _)

theorem stepOk_handle (hs : ExecutionOk s) (l : ExecutionStep) : StepOk s (s.handle turn l) := by
  cases l with
  | receive message o => exact stepOk_serve hs (roundOk_receive message o)
  | decision response o replyFault => exact stepOk_serve hs (roundOk_decision hs.waiting response o replyFault)
  | others request =>
    exact stepOk_quiet hs nofun rfl (fun _ hw => hw) (fun _ ha => ha) rfl (request.advances s.coordinator)
  | dispatch executionId o => exact stepOk_dispatch hs executionId o
  | drop => exact stepOk_quiet hs nofun rfl (fun _ hw => hw) nofun rfl (advances_refl _)
  | conclude o =>
    change StepOk s (s.conclude o, .quiet)
    unfold conclude
    split
    · next h hrunning =>
      exact stepOk_quiet hs nofun rfl (fun _ hw => hw) (fun _ ha => ha) rfl
        (moves_concludeDispatch h o s.coordinator)
    · exact stepOk_quiet hs nofun rfl (fun _ hw => hw) (fun _ ha => ha) rfl (advances_refl _)

theorem executionOk_start (c : Coordinator) : ExecutionOk (.start c) where
  waiting _ h := nomatch h
  approved _ _ h := nomatch h
  admitted _ _ h := nomatch h

theorem executionOk_after (turn : TurnContext) (c : Coordinator) (trace : List ExecutionStep) :
    ExecutionOk (after turn c trace) :=
  Run.invariant (I := ExecutionOk) (fun _ l hs => executionOk_step hs (stepOk_handle hs l)) trace (executionOk_start c)

theorem advances_step (hs : ExecutionOk s) (l : ExecutionStep) : Advances s.coordinator (s.step turn l).coordinator :=
  (stepOk_handle hs l : StepOk s (s.handle turn l)).advances

theorem advances_after {trace : List ExecutionStep} (hs : ExecutionOk s) :
    Advances s.coordinator (Run.after (step turn) s trace).coordinator := by
  induction trace generalizing s with
  | nil => exact advances_refl _
  | cons l trace ih => exact advances_trans (advances_step hs l) (ih (executionOk_step hs (stepOk_handle hs l)))

/-- Code is handed over for an approval that is as current as the dispatch found it. -/
theorem current_of_handedOver (hs : ExecutionOk s) {l : ExecutionStep} (hl : DispatchesUnmoved s l) {requestId : String}
    (h : s.event turn l = .handedOver requestId) : Current s.coordinator requestId := by
  cases l with
  | dispatch executionId o =>
    change (s.dispatch executionId o).2 = _ at h
    unfold dispatch at h
    split at h
    · next a hadmitted hrunning =>
      split at h
      · next hand c hok =>
        dsimp only at h
        split at h
        · next hexecute happroval =>
          cases h
          refine hs.admitted a requestId hadmitted (of_decide_eq_true hexecute) happroval fun hmoved => ?_
          obtain ⟨expected, hexpected, hauthorized⟩ := authorized_of_prepareDispatch hok
          exact hl a requestId expected hadmitted (of_decide_eq_true hexecute) happroval hmoved hexpected hauthorized
        · cases h
      · cases h
    · cases h
  | receive message o =>
    change (s.serve turn _).2 = _ at h
    unfold serve at h
    split at h
    · cases h
    · split at h <;> cases h
  | decision response o replyFault =>
    change (s.serve turn _).2 = _ at h
    unfold serve at h
    split at h
    · cases h
    · split at h <;> cases h
  | others request => cases h
  | drop => cases h
  | conclude o => cases h

/-- Of a workspace that ends where it began, nothing has moved. -/
theorem revisions_eq_of_advances {c₁ c₂ c₃ c₄ : Coordinator} (h₁ : Advances c₁ c₂) (h₂ : Advances c₂ c₃) (h₃ : Advances c₃ c₄)
    (hends : c₄.revisions = c₁.revisions) : c₃.revisions = c₂.revisions := by
  obtain ⟨-, hstate, hproject⟩ : _ ∧ _ ∧ _ := by simpa [Coordinator.revisions, WorkspaceIdentity.revisions] using hends
  have hstate' : c₃.broker.identity.stateRevision = c₂.broker.identity.stateRevision := by
    have := h₁.stateRevision
    have := h₂.stateRevision
    have := h₃.stateRevision
    omega
  have hproject' : c₃.broker.identity.projectRevision = c₂.broker.identity.projectRevision := by
    have := h₁.projectRevision
    have := h₂.projectRevision
    have := h₃.projectRevision
    omega
  exact Prod.ext h₂.workspaceId (Prod.ext hstate' hproject')

end Steps

end ExecutionAux

open ExecutionAux in
/-- Where R code is dispatched only at the workspace that it was approved for, the kernel is given it at the identity and the revisions
that its approval records, and is not given it once another client has moved the workspace. -/
theorem approved_code_runs_unmoved (turn : TurnContext) (c : Coordinator) (trace : List ExecutionStep)
    (h : Run.Along (AgentWorkspace.step turn) DispatchesUnmoved (.start c) trace) :
    RunsAsApproved turn c trace ∧ RefusesMoved turn c trace := by
  have hruns : RunsAsApproved turn c trace := fun before l rest requestId heq hevent =>
    current_of_handedOver (executionOk_after turn c before) (Run.along_iff.mp h before l rest heq) hevent
  refine ⟨hruns, ?_⟩
  intro t₁ l₁ t₂ request t₃ l rest requestId mutation heq hgranted hexecute before hmoved hevent
  -- The approval is current when it is granted, and again when its code is handed over.
  obtain ⟨row, hrow, hrevisions⟩ := hruns (t₁ ++ l₁ :: (t₂ ++ .others request :: t₃)) l rest requestId
    (by rw [heq]; simp) hevent
  have hs₁ := executionOk_after turn c t₁
  have hgrant : Current ((AgentWorkspace.after turn c t₁).step turn l₁).coordinator requestId :=
    (stepOk_handle hs₁ l₁ : StepOk _ ((AgentWorkspace.after turn c t₁).handle turn l₁)).granted requestId mutation hgranted hexecute
  have hs₂ : ExecutionOk ((AgentWorkspace.after turn c t₁).step turn l₁) := executionOk_step hs₁ (stepOk_handle hs₁ l₁)
  have hbefore : before = Run.after (AgentWorkspace.step turn) ((AgentWorkspace.after turn c t₁).step turn l₁) t₂ := by
    simp only [before, AgentWorkspace.after, Run.after_append, Run.after_cons]
  have hlast : AgentWorkspace.after turn c (t₁ ++ l₁ :: (t₂ ++ .others request :: t₃)) =
      Run.after (AgentWorkspace.step turn) (before.step turn (.others request)) t₃ := by
    simp only [hbefore, AgentWorkspace.after, Run.after_append, Run.after_cons]
  have hs₃ : ExecutionOk before := executionOk_after turn c _
  have h₁ : Advances ((AgentWorkspace.after turn c t₁).step turn l₁).coordinator before.coordinator := by
    rw [hbefore]
    exact advances_after hs₂
  have h₂ : Advances before.coordinator (before.step turn (.others request)).coordinator := advances_step hs₃ _
  have h₃ : Advances (before.step turn (.others request)).coordinator
      (AgentWorkspace.after turn c (t₁ ++ l₁ :: (t₂ ++ .others request :: t₃))).coordinator := by
    rw [hlast]
    exact advances_after (executionOk_step hs₃ (stepOk_handle hs₃ _))
  refine hmoved (revisions_eq_of_advances h₁ h₂ h₃ ?_)
  obtain ⟨row₁, hrow₁, hrevisions₁⟩ := hgrant
  obtain ⟨row', hrow', heq'⟩ := (advances_trans (advances_trans h₁ h₂) h₃).approvals requestId row₁ hrow₁
  obtain rfl : row' = row := Option.some.inj (hrow'.symm.trans hrow)
  exact hrevisions.symm.trans (heq'.trans hrevisions₁)

/-! ## The requests of other clients -/

open ExecutionAux in
/-- A dispatch of another client, from its lock to its release. -/
def OtherRequest.dispatched (call : DispatchCall) (before : PrepareOutcome) (after : ConcludeOutcome) : OtherRequest where
  change c := final (dispatchWorkspaceRequest call before after c)
  advances := moves_bind (moves_of_frame (keeps_approvals_prepareDispatch call before)) fun h => moves_concludeDispatch h after

open ExecutionAux in
/-! ## An approval and another client -/

def actTurn : TurnContext where
  turnId := "turn_1"
  mode := "act"
  autoApprove := false

def approvingCoordinator : Coordinator where
  broker := ⟨⟨"ws", "kernel_1", 0, 0, 0⟩⟩
  store :=
    { runs := .empty _
      environmentOperations := .empty _
      approvals := .empty _
      projectRoot := "/project"
      normalized := rfl
      identity := none }

def noFault : ServeOutcome where
  receiveFault := none
  ask := ⟨fun _ => none, .error "", none, ""⟩
  replyFault := none

/-- The Agent asks for the approval of its code, and the user approves. -/
def approvedCode : List ExecutionStep :=
  [.receive ⟨"req_1", .request, .obj [("type", .str "tool.approval_required"), ("tool", .str "run_r"),
      ("arguments", .obj [("code", .str "x <- 1")])]⟩ noFault,
    .decision ⟨"approve", none⟩ ⟨fun _ => none, none⟩ none]

/-- Then it sends the code, with what it knows of the state. -/
def sentCode (stateRevision : Int) : ExecutionStep :=
  .receive ⟨"req_2", .request, .obj [("type", .str "workspace.execute"), ("approval_request_id", .str "req_1"),
      ("arguments", .obj [("code", .str "x <- 1")]), ("expected_workspace", .obj [("state_revision", .int stateRevision)])]⟩ noFault

def dispatchedCode : ExecutionStep := .dispatch "agent_workspace_1" ⟨"exec_1", fun _ => none⟩

/-- The user runs code of their own. -/
def userCode : OtherRequest :=
  .dispatched ⟨"workspace.execute", .obj [("arguments", .obj [("code", .str "x <- 2")]), ("expected_workspace", .obj [])], .user, none⟩
    ⟨"exec_2", fun _ => none⟩ ⟨.finished (.obj []), fun _ => none⟩

/-- The approved code is run where nobody came between. -/
theorem approved_code_runs_unmoved_alone :
    let trace := approvedCode ++ [sentCode 0, dispatchedCode]
    (AgentWorkspace.after actTurn approvingCoordinator (approvedCode ++ [sentCode 0])).event actTurn dispatchedCode = .handedOver "req_1" ∧
      RunsAsApproved actTurn approvingCoordinator trace ∧ RefusesMoved actTurn approvingCoordinator trace := by
  intro trace
  refine ⟨by decide +kernel, approved_code_runs_unmoved actTurn approvingCoordinator trace ?_⟩
  refine ⟨trivial, trivial, trivial, ?_, trivial⟩
  intro a requestId expected _ _ _ hmoved
  have hnone : (AgentWorkspace.after actTurn approvingCoordinator (approvedCode ++ [sentCode 0])).moved = [] := by decide +kernel
  change requestId ∈ (AgentWorkspace.after actTurn approvingCoordinator (approvedCode ++ [sentCode 0])).moved at hmoved
  rw [hnone] at hmoved
  cases hmoved

/-- The user's code runs after the approval, and the Agent is told the new revision before it sends its own: the approved code is run
at a state that it was not approved for. -/
theorem approved_code_runs_moved :
    let before := approvedCode ++ [.others userCode, sentCode 1]
    let s := AgentWorkspace.after actTurn approvingCoordinator before
    s.event actTurn dispatchedCode = .handedOver "req_1" ∧
      (s.coordinator.store.approvals.get "req_1").map ApprovalRecord.revisions = some ("ws", 0, 0) ∧
      s.coordinator.revisions = ("ws", 1, 0) ∧
      ¬RunsAsApproved actTurn approvingCoordinator (before ++ [dispatchedCode]) := by
  intro before s
  have hevent : s.event actTurn dispatchedCode = .handedOver "req_1" := by decide +kernel
  have hrow : (s.coordinator.store.approvals.get "req_1").map ApprovalRecord.revisions = some ("ws", 0, 0) := by decide +kernel
  have hrevisions : s.coordinator.revisions = ("ws", 1, 0) := by decide +kernel
  refine ⟨hevent, hrow, hrevisions, fun hruns => ?_⟩
  obtain ⟨row, hget, heq⟩ := hruns before dispatchedCode [] "req_1" rfl hevent
  rw [hget, Option.map_some, heq, hrevisions] at hrow
  exact absurd hrow (by decide)

end Rho
