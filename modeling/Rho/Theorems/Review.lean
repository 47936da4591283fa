import Rho.Lemmas.Dispatch
import Rho.Server.Review

/-!
# Ended requests stay ended

The status of an environment operation request is written by statements that do not look at it. A request that has ended keeps
to its end as long as no one ends it while its decision is on its way.
-/

namespace Rho

open EnvironmentOperationRecord Table

namespace EnvironmentOperationStatus

/-- The statuses in which nothing more is to happen. -/
def isEnded (status : EnvironmentOperationStatus) : Bool := !status.isIncomplete

end EnvironmentOperationStatus

/-- The step does not end a request whose decision is still to be written: no response that found no channel marks a request that
has a handler, and no recovery comes between the check and the write of a user's decision. -/
def SparesPending (s : ReviewSystem) : ReviewStep → Prop
  | .markUndelivered responder => ∀ h ∈ s.handlers, h.requestId ≠ responder.requestId
  | .recover => ∀ d, s.deciding = some d → d.approved = true
  | _ => True

/-- No request is claimed by two steps of the run. -/
def ClaimedOnce (s : ReviewSystem) (trace : List ReviewStep) : Prop :=
  ∀ before l between l' rest, trace = before ++ l :: (between ++ l' :: rest) →
    ∀ requestId, (Run.after ReviewSystem.step s before).claimed l = some requestId →
      (Run.after ReviewSystem.step s (before ++ l :: between)).claimed l' ≠ some requestId

/-- A request that has ended at some point of the run has ended at every later one. -/
def StaysEnded (s : ReviewSystem) (trace : List ReviewStep) : Prop :=
  ∀ before between rest, trace = before ++ between ++ rest →
    ∀ requestId row, (Run.after ReviewSystem.step s before).request requestId = some row → row.status.isEnded = true →
      ∃ row', (Run.after ReviewSystem.step s (before ++ between)).request requestId = some row' ∧ row'.status.isEnded = true

namespace ReviewAux

open Effect DispatchAux

/-! ## The statements -/

/-- What the life of a row only ever moves forward. -/
structure RowLater (row row' : EnvironmentOperationRecord) : Prop where
  source : row'.source = row.source
  turnId : row'.turnId = row.turnId
  claimed : row.runId.isSome = true → row'.runId.isSome = true
  notRequested : row.status ≠ .requested → row'.status ≠ .requested

theorem rowLater_refl (row : EnvironmentOperationRecord) : RowLater row row := ⟨rfl, rfl, id, id⟩

/-- The rows of a table are still there, later in their lives. -/
def TableLater (t t' : Table EnvironmentOperationRecord.requestId) : Prop :=
  ∀ k row, t.get k = some row → ∃ row', t'.get k = some row' ∧ RowLater row row'

theorem tableLater_refl (t : Table requestId) : TableLater t t :=
  fun _ row h => ⟨row, h, rowLater_refl row⟩

theorem tableLater_trans {t t' t'' : Table requestId} (h : TableLater t t')
    (h' : TableLater t' t'') : TableLater t t'' := by
  intro k row hrow
  obtain ⟨row', hrow', hl⟩ := h k row hrow
  obtain ⟨row'', hrow'', hl'⟩ := h' k row' hrow'
  refine ⟨row'', hrow'', hl'.source.trans hl.source, hl'.turnId.trans hl.turnId, ?_, ?_⟩
  · exact fun hc => hl'.claimed (hl.claimed hc)
  · exact fun hn => hl'.notRequested (hl.notRequested hn)

theorem tableLater_update {t : Table requestId} {p : EnvironmentOperationRecord → Bool}
    {f : EnvironmentOperationRecord → EnvironmentOperationRecord} (hf : ∀ r, (f r).requestId = r.requestId)
    (hlater : ∀ row, RowLater row (f row)) : TableLater t (t.update p f hf) := by
  intro k row hrow
  cases hp : p row with
  | false => exact ⟨row, get_update_of_not hf hrow hp, rowLater_refl row⟩
  | true => exact ⟨f row, get_update_of_pos hf hrow hp, hlater row⟩

theorem coalesce_isSome {α : Type} (a : Option α) {b : Option α} (h : b.isSome = true) : (coalesce a b).isSome = true := by
  cases a with
  | none => exact h
  | some a => rfl

theorem decide_later (s : Store) (requestId : String) (record : EnvironmentOperationDecision)
    (h : record.status ≠ .requested) :
    TableLater s.environmentOperations (s.decideEnvironmentOperationRequest requestId record).environmentOperations := by
  refine tableLater_update (fun _ => ?_) fun row => ?_
  · rfl
  · exact ⟨rfl, rfl, id, fun _ => h⟩

theorem finish_later (s : Store) (finish : EnvironmentOperationFinish) (h : finish.status ≠ .requested) :
    TableLater s.environmentOperations (s.finishEnvironmentOperationRequest finish).environmentOperations := by
  refine tableLater_update (fun _ => ?_) fun row => ?_
  · rfl
  · exact ⟨rfl, rfl, fun hc => coalesce_isSome _ hc, fun _ => h⟩

theorem claim_later (s : Store) (projectRoot requestName requestId runId : String) :
    TableLater s.environmentOperations
      (s.claimEnvironmentOperationRequest projectRoot requestName requestId runId).1.environmentOperations := by
  refine tableLater_update (fun _ => ?_) fun row => ?_
  · rfl
  · exact ⟨rfl, rfl, fun _ => rfl, fun _ => by simp⟩

theorem interrupt_later (s : Store) (turnId terminalOutcome : String) : TableLater s.environmentOperations
      (s.interruptAgentEnvironmentOperations turnId terminalOutcome).environmentOperations := by
  refine tableLater_update (fun _ => ?_) fun row => ?_
  · rfl
  · exact ⟨rfl, rfl, id, fun _ => by simp⟩

theorem recover_later (s : Store) :
    TableLater s.environmentOperations s.recoverIncompleteEnvironmentOperations.environmentOperations := by
  refine tableLater_update (fun _ => ?_) fun row => ?_
  · rfl
  · refine ⟨rfl, rfl, id, fun _ => ?_⟩
    dsimp only
    split
    · simp
    · simp

theorem create_later {s s' : Store} {draft : EnvironmentOperationDraft}
    (h : s.createEnvironmentOperationRequest draft = some s') :
    TableLater s.environmentOperations s'.environmentOperations := by
  unfold Store.createEnvironmentOperationRequest at h
  obtain ⟨t, ht, rfl⟩ := Option.map_eq_some_iff.mp h
  exact fun k row hrow => ⟨row, get_insert_of_get ht hrow, rowLater_refl row⟩

theorem decisionStatus_ne_requested (decision : String) (stale : Bool) : decisionStatus decision stale ≠ .requested := by
  unfold decisionStatus
  repeat' split
  all_goals simp

theorem end_ne_requested (outcome : OperationEnd) : outcome.status ≠ .requested := by
  cases outcome <;> decide

/-! ## Rows that a statement leaves alone -/

variable {s : Store} {k : String} {row : EnvironmentOperationRecord}

theorem decide_other {requestId : String} (record : EnvironmentOperationDecision)
    (h : s.environmentOperations.get k = some row) (hne : k ≠ requestId) :
    (s.decideEnvironmentOperationRequest requestId record).environmentOperations.get k = some row := by
  have hkey := key_of_get h
  refine get_update_of_not ?_ h ?_
  · exact fun _ => rfl
  · exact decide_eq_false (by rw [hkey]; exact hne)

theorem finish_other {finish : EnvironmentOperationFinish} (h : s.environmentOperations.get k = some row)
    (hne : k ≠ finish.requestId) :
    (s.finishEnvironmentOperationRequest finish).environmentOperations.get k = some row := by
  have hkey := key_of_get h
  refine get_update_of_not ?_ h ?_
  · exact fun _ => rfl
  · exact decide_eq_false (by rw [hkey]; exact hne)

theorem claim_other (projectRoot requestName requestId runId : String) (h : s.environmentOperations.get k = some row)
    (hne : row.status ≠ .approved) :
    (s.claimEnvironmentOperationRequest projectRoot requestName requestId runId).1.environmentOperations.get k = some row := by
  refine get_update_of_not ?_ h ?_
  · exact fun _ => rfl
  · simp [Store.claimable, hne]

theorem interrupt_other {turnId : String} (terminalOutcome : String) (h : s.environmentOperations.get k = some row)
    (hne : row.turnId ≠ some turnId ∨ row.source ≠ .agent) :
    (s.interruptAgentEnvironmentOperations turnId terminalOutcome).environmentOperations.get k = some row := by
  refine get_update_of_not ?_ h ?_
  · exact fun _ => rfl
  · rcases hne with hturn | hsource
    · simp [hturn]
    · simp [hsource]

/-- A claim that succeeds takes a row that was not claimed before. -/
theorem claim_true {projectRoot requestName requestId runId : String}
    (h : (s.claimEnvironmentOperationRequest projectRoot requestName requestId runId).2 = true) :
    (∃ row, s.environmentOperations.get requestId = some row ∧ row.runId = none) ∧
      ∃ row, (s.claimEnvironmentOperationRequest projectRoot requestName requestId runId).1.environmentOperations.get requestId =
        some row ∧ row.status = .running ∧ row.runId = some runId := by
  have hselect : ∀ r, Store.claimable projectRoot requestName requestId r = true → r.requestId = requestId ∧ r.runId = none := by
    intro r hr
    simp only [Store.claimable, Bool.and_eq_true, decide_eq_true_eq, Option.isNone_iff_eq_none] at hr
    exact ⟨hr.1.1.2, hr.2⟩
  obtain ⟨row, hrow, hp⟩ :=
    (changed_eq_one_iff _ _ requestId fun r hr => (hselect r hr).1).mp (eq_of_beq h)
  refine ⟨⟨row, hrow, (hselect row hp).2⟩, _, get_update_of_pos ?_ hrow hp, rfl, rfl⟩
  exact fun _ => rfl

/-! ## What is in progress -/

/-- A handler's request is the Agent's, of its turn, and still undecided. -/
def HandlerOk (s : ReviewSystem) (h : ReviewHandler) : Prop :=
  ∃ row, s.request h.requestId = some row ∧ row.source = .agent ∧ row.turnId = some h.turnId ∧ row.status = .requested

/-- A responder's request is the Agent's. -/
def ResponderOk (s : ReviewSystem) (p : Responder) : Prop :=
  ∃ row, s.request p.requestId = some row ∧ row.source = .agent

/-- A user's decision is about a request of the user, undecided until the decision is written. -/
def DecisionOk (s : ReviewSystem) (d : UserDecision) : Prop :=
  ∃ row, s.request d.requestId = some row ∧ row.source = .user ∧ (d.approved = false → row.status = .requested)

/-- A claimed request is decided. -/
def ClaimOk (s : ReviewSystem) (c : String × String) : Prop := ∃ row, s.request c.1 = some row ∧ row.status ≠ .requested

structure ReviewOk (s : ReviewSystem) : Prop where
  handlers : ∀ h ∈ s.handlers, HandlerOk s h
  responders : ∀ p ∈ s.responders, ResponderOk s p
  deciding : ∀ d, s.deciding = some d → DecisionOk s d
  claims : ∀ c ∈ s.claims, ClaimOk s c

theorem reviewOk_start (store : Store) : ReviewOk (.start store) where
  handlers := fun h hh => by cases hh
  responders := fun p hp => by cases hp
  deciding := fun d hd => by cases hd
  claims := fun c hc => by cases hc

theorem mem_setStage {s : ReviewSystem} {p : ReviewHandler → Bool} {stage : HandlerStage} {h : ReviewHandler}
    (hh : h ∈ (s.setStage p stage).handlers) : ∃ h₀ ∈ s.handlers, h.requestId = h₀.requestId ∧ h.turnId = h₀.turnId := by
  obtain ⟨h₀, hmem, rfl⟩ := List.mem_map.mp hh
  refine ⟨h₀, hmem, ?_⟩
  split
  · exact ⟨rfl, rfl⟩
  · exact ⟨rfl, rfl⟩

theorem mem_of_delivered {s : ReviewSystem} {requestId : String} {response : ApprovalResponse}
    (h : s.delivered requestId = some response) : ∃ h₀ ∈ s.handlers, h₀.requestId = requestId := by
  obtain ⟨h₀, hmem, hstage⟩ := List.exists_of_findSome?_eq_some h
  refine ⟨h₀, hmem, ?_⟩
  split at hstage
  · split at hstage
    · assumption
    · cases hstage
  · cases hstage
  · cases hstage

/-! ## What each step can do -/

section Cases

variable (s : ReviewSystem)

theorem create_cases (draft : EnvironmentOperationDraft) :
    s.create draft = s ∨ ∃ store, s.store.createEnvironmentOperationRequest draft = some store ∧
      (s.create draft = { s with store } ∨ ∃ turnId, draft.source = .agent ∧ draft.turnId = some turnId ∧
        s.create draft = { s with store, handlers := ⟨draft.requestId, turnId, .created⟩ :: s.handlers }) := by
  unfold ReviewSystem.create
  cases hc : s.store.createEnvironmentOperationRequest draft with
  | none => exact .inl rfl
  | some store =>
    refine .inr ⟨store, rfl, ?_⟩
    cases hsource : draft.source with
    | user => exact .inl rfl
    | agent =>
      cases hturn : draft.turnId with
      | none => exact .inl rfl
      | some turnId => exact .inr ⟨turnId, rfl, rfl, rfl⟩

theorem read_cases (projectRoot requestId : String) (response : ApprovalResponse) :
    s.read projectRoot requestId response = s ∨ ∃ row, s.request requestId = some row ∧ row.source = .agent ∧
      s.read projectRoot requestId response =
        { s with responders := ⟨requestId, row.turnId, response, false⟩ :: s.responders } := by
  unfold ReviewSystem.read
  cases hrow : s.store.getEnvironmentOperationRequest projectRoot requestId with
  | none => exact .inl rfl
  | some row =>
    dsimp only
    split
    · rename_i hcond
      obtain ⟨hget, -⟩ := Option.filter_eq_some_iff.mp hrow
      exact .inr ⟨row, hget, hcond.2.1, rfl⟩
    · exact .inl rfl

theorem deliver_cases (p : Responder) : s.deliver p = s ∨ p ∈ s.responders ∧
      (s.deliver p = { s with responders := s.responders.erase p }.setStage (ReviewSystem.listens p) (.decided p.response) ∨
        s.deliver p = { s with responders := { p with undelivered := true } :: s.responders.erase p }) := by
  unfold ReviewSystem.deliver
  split
  · rename_i hcond
    refine .inr ⟨hcond.1, ?_⟩
    dsimp only
    split
    · exact .inl rfl
    · exact .inr rfl
  · exact .inl rfl

theorem markUndelivered_cases (p : Responder) : s.markUndelivered p = s ∨ p ∈ s.responders ∧
      s.markUndelivered p = { s with
          responders := s.responders.erase p
          store := s.store.decideEnvironmentOperationRequest p.requestId
            { status := .interrupted, decision := some "cancel" } } := by
  unfold ReviewSystem.markUndelivered
  split
  · rename_i hcond
    exact .inr ⟨hcond.1, rfl⟩
  · exact .inl rfl

theorem handle_cases (requestId : String) (stale fails : Bool) :
    s.handle requestId stale fails = s ∨ (∃ h ∈ s.handlers, h.requestId = requestId) ∧
      (s.handle requestId stale fails = { s with handlers := s.handlers.filter (fun h => h.requestId ≠ requestId) } ∨
        ∃ decision, s.handle requestId stale fails =
          { s with
            handlers := s.handlers.filter (fun h => h.requestId ≠ requestId)
            store := s.store.decideEnvironmentOperationRequest requestId
              { status := decisionStatus decision stale, decision := some decision } }) := by
  unfold ReviewSystem.handle
  cases hd : s.delivered requestId with
  | none => exact .inl rfl
  | some response =>
    refine .inr ⟨mem_of_delivered hd, ?_⟩
    cases fails with
    | true => exact .inl rfl
    | false => exact .inr ⟨response.decision, rfl⟩

theorem beginDecision_cases (projectRoot requestId decision : String) :
    s.beginDecision projectRoot requestId decision = s ∨
      ∃ row, s.request requestId = some row ∧ row.source = .user ∧ row.status = .requested ∧
        s.beginDecision projectRoot requestId decision = { s with deciding := some ⟨requestId, decision, false⟩ } := by
  unfold ReviewSystem.beginDecision
  cases s.deciding with
  | some d => exact .inl rfl
  | none =>
    cases hrow : s.store.getEnvironmentOperationRequest projectRoot requestId with
    | none => exact .inl rfl
    | some row =>
      dsimp only
      split
      · rename_i hcond
        obtain ⟨hget, -⟩ := Option.filter_eq_some_iff.mp hrow
        exact .inr ⟨row, hget, hcond.2.1, hcond.1, rfl⟩
      · exact .inl rfl

theorem writeDecision_cases (stale : Bool) :
    s.writeDecision stale = s ∨ ∃ d, s.deciding = some d ∧ d.approved = false ∧ s.writeDecision stale = { s with
          store := s.store.decideEnvironmentOperationRequest d.requestId
            { status := decisionStatus d.decision stale, decision := some d.decision }
          deciding := if decisionStatus d.decision stale = .approved then some { d with approved := true } else none } := by
  unfold ReviewSystem.writeDecision
  cases hd : s.deciding with
  | none => exact .inl rfl
  | some d =>
    cases happ : d.approved with
    | true => exact .inl (by simp [happ])
    | false => exact .inr ⟨d, rfl, happ, by simp [happ]⟩

theorem endDecision_cases (failed : Bool) :
    s.endDecision failed = s ∨ s.endDecision failed = { s with deciding := none } ∨ ∃ d, s.deciding = some d ∧
      s.endDecision failed =
        { s with
          deciding := none
          store := s.store.finishEnvironmentOperationRequest
            { requestId := d.requestId, status := .failed, runId := none, terminalOutcome := some "dispatch_error" } } := by
  unfold ReviewSystem.endDecision
  cases hd : s.deciding with
  | none => exact .inl rfl
  | some d =>
    dsimp only
    split
    · cases failed with
      | true => exact .inr (.inr ⟨d, rfl, rfl⟩)
      | false => exact .inr (.inl rfl)
    · exact .inl rfl

theorem claim_cases (projectRoot requestName requestId runId : String) :
    ∃ store, store = (s.store.claimEnvironmentOperationRequest projectRoot requestName requestId runId).1 ∧
      (s.claim projectRoot requestName requestId runId = { s with store } ∨
        (s.store.claimEnvironmentOperationRequest projectRoot requestName requestId runId).2 = true ∧
        s.claim projectRoot requestName requestId runId = { s with store, claims := (requestId, runId) :: s.claims }) := by
  refine ⟨_, rfl, ?_⟩
  unfold ReviewSystem.claim
  dsimp only
  split
  · rename_i hclaimed
    exact .inr ⟨hclaimed, rfl⟩
  · exact .inl rfl

theorem finish_cases (requestId runId : String) (outcome : OperationEnd) (terminalOutcome : String) :
    s.finish requestId runId outcome terminalOutcome = s ∨ (requestId, runId) ∈ s.claims ∧
      s.finish requestId runId outcome terminalOutcome = { s with
          claims := s.claims.erase (requestId, runId)
          store := s.store.finishEnvironmentOperationRequest
            { requestId, status := outcome.status, runId := some runId, terminalOutcome := some terminalOutcome } } := by
  unfold ReviewSystem.finish
  split
  · rename_i hmem
    exact .inr ⟨hmem, rfl⟩
  · exact .inl rfl

end Cases

/-! ## Rows that have ended -/

/-- The rows of a table that have ended are still there, ended. -/
def EndedKept (t t' : Table EnvironmentOperationRecord.requestId) : Prop :=
  ∀ k row, t.get k = some row → row.status.isEnded = true → ∃ row', t'.get k = some row' ∧ row'.status.isEnded = true

theorem endedKept_refl (t : Table requestId) : EndedKept t t := fun _ row h he => ⟨row, h, he⟩

theorem endedKept_update {t : Table requestId} {p : EnvironmentOperationRecord → Bool}
    {f : EnvironmentOperationRecord → EnvironmentOperationRecord} (hf : ∀ r, (f r).requestId = r.requestId)
    (hend : ∀ row ∈ t.rows, p row = true → row.status.isEnded = true → (f row).status.isEnded = true) :
    EndedKept t (t.update p f hf) := by
  intro k row hrow he
  cases hp : p row with
  | false => exact ⟨row, get_update_of_not hf hrow hp, he⟩
  | true => exact ⟨f row, get_update_of_pos hf hrow hp, hend row (mem_of_get hrow) hp he⟩

theorem decide_ended (s : Store) {requestId : String} {record : EnvironmentOperationDecision}
    (h : record.status.isEnded = true ∨
      ∀ row, s.environmentOperations.get requestId = some row → row.status.isEnded = false) :
    EndedKept s.environmentOperations (s.decideEnvironmentOperationRequest requestId record).environmentOperations := by
  refine endedKept_update (fun _ => ?_) ?_
  · rfl
  · intro row hmem hp he
    rcases h with hrec | hrow
    · exact hrec
    · have hget := get_of_mem hmem
      rw [of_decide_eq_true hp] at hget
      rw [hrow row hget] at he
      cases he

theorem finish_ended (s : Store) {finish : EnvironmentOperationFinish} (h : finish.status.isEnded = true) :
    EndedKept s.environmentOperations (s.finishEnvironmentOperationRequest finish).environmentOperations := by
  refine endedKept_update (fun _ => ?_) fun _ _ _ _ => ?_
  · rfl
  · exact h

theorem claim_ended (s : Store) (projectRoot requestName requestId runId : String) :
    EndedKept s.environmentOperations
      (s.claimEnvironmentOperationRequest projectRoot requestName requestId runId).1.environmentOperations := by
  refine endedKept_update (fun _ => ?_) ?_
  · rfl
  · intro row _ hp he
    simp only [Store.claimable, Bool.and_eq_true, decide_eq_true_eq] at hp
    rw [hp.1.2] at he
    cases he

theorem interrupt_ended (s : Store) (turnId terminalOutcome : String) : EndedKept s.environmentOperations
      (s.interruptAgentEnvironmentOperations turnId terminalOutcome).environmentOperations := by
  refine endedKept_update (fun _ => ?_) fun _ _ _ _ => ?_
  · rfl
  · rfl

theorem recover_ended (s : Store) :
    EndedKept s.environmentOperations s.recoverIncompleteEnvironmentOperations.environmentOperations := by
  refine endedKept_update (fun _ => ?_) ?_
  · rfl
  · intro row _ hp he
    rw [EnvironmentOperationStatus.isEnded, hp] at he
    cases he

/-! ## One step -/

/-- What a step does: nothing goes back, what has ended stays so, and what is in progress stays in order. -/
structure StepOk (s s' : ReviewSystem) : Prop where
  later : TableLater s.store.environmentOperations s'.store.environmentOperations
  ended : EndedKept s.store.environmentOperations s'.store.environmentOperations
  ok : ReviewOk s'

section Step

variable {s s' : ReviewSystem}

theorem stepOk_refl (hs : ReviewOk s) : StepOk s s := ⟨tableLater_refl _, endedKept_refl _, hs⟩

/-- A step that writes no row. -/
theorem stepOk_quiet (hs : ReviewOk s) (hstore : s'.store = s.store)
    (hh : ∀ h ∈ s'.handlers, ∃ h₀ ∈ s.handlers, h.requestId = h₀.requestId ∧ h.turnId = h₀.turnId)
    (hr : ∀ p ∈ s'.responders, ResponderOk s p) (hd : ∀ d, s'.deciding = some d → DecisionOk s d)
    (hc : ∀ c ∈ s'.claims, c ∈ s.claims) : StepOk s s' := by
  have hreq : ∀ k, s'.request k = s.request k := fun k => by rw [ReviewSystem.request, hstore]; rfl
  refine ⟨by rw [hstore]; exact tableLater_refl _, by rw [hstore]; exact endedKept_refl _, ?_, ?_, ?_, ?_⟩
  · intro h hmem
    obtain ⟨h₀, hmem₀, hid, hturn⟩ := hh h hmem
    obtain ⟨row, hrow, hrest⟩ := hs.handlers h₀ hmem₀
    exact ⟨row, by rw [hreq, hid]; exact hrow, by rw [hturn]; exact hrest⟩
  · intro p hp
    obtain ⟨row, hrow, hsource⟩ := hr p hp
    exact ⟨row, by rw [hreq]; exact hrow, hsource⟩
  · intro d hdec
    obtain ⟨row, hrow, hrest⟩ := hd d hdec
    exact ⟨row, by rw [hreq]; exact hrow, hrest⟩
  · intro c hmem
    obtain ⟨row, hrow, hne⟩ := hs.claims c (hc c hmem)
    exact ⟨row, by rw [hreq]; exact hrow, hne⟩

/-- A step that writes rows, but not the row of a handler that is left. -/
theorem stepOk_write (hs : ReviewOk s)
    (hlater : TableLater s.store.environmentOperations s'.store.environmentOperations)
    (hended : EndedKept s.store.environmentOperations s'.store.environmentOperations)
    (hh : ∀ h ∈ s'.handlers, h ∈ s.handlers ∧ ∀ row, s.request h.requestId = some row → row.source = .agent →
      row.turnId = some h.turnId → row.status = .requested → s'.request h.requestId = some row)
    (hr : ∀ p ∈ s'.responders, p ∈ s.responders) (hd : ∀ d, s'.deciding = some d → DecisionOk s' d)
    (hc : ∀ c ∈ s'.claims, c ∈ s.claims ∨ ClaimOk s' c) : StepOk s s' := by
  refine ⟨hlater, hended, ?_, ?_, hd, ?_⟩
  · intro h hmem
    obtain ⟨hmem₀, hkeep⟩ := hh h hmem
    obtain ⟨row, hrow, hsource, hturn, hstatus⟩ := hs.handlers h hmem₀
    exact ⟨row, hkeep row hrow hsource hturn hstatus, hsource, hturn, hstatus⟩
  · intro p hp
    obtain ⟨row, hrow, hsource⟩ := hs.responders p (hr p hp)
    obtain ⟨row', hrow', hl⟩ := hlater _ row hrow
    exact ⟨row', hrow', hl.source.trans hsource⟩
  · intro c hmem
    rcases hc c hmem with h | h
    · obtain ⟨row, hrow, hne⟩ := hs.claims c h
      obtain ⟨row', hrow', hl⟩ := hlater _ row hrow
      exact ⟨row', hrow', hl.notRequested hne⟩
    · exact h

/-- A user's decision that a write leaves alone, or that was written before. -/
theorem decisionOk_keep {d : UserDecision}
    (hlater : TableLater s.store.environmentOperations s'.store.environmentOperations) (hok : DecisionOk s d)
    (hkeep : d.approved = false → ∀ row, s.request d.requestId = some row → row.source = .user → row.status = .requested →
      s'.request d.requestId = some row) : DecisionOk s' d := by
  obtain ⟨row, hrow, hsource, hstatus⟩ := hok
  cases happ : d.approved with
  | true =>
    obtain ⟨row', hrow', hl⟩ := hlater _ row hrow
    exact ⟨row', hrow', hl.source.trans hsource, fun hno => by rw [happ] at hno; cases hno⟩
  | false => exact ⟨row, hkeep happ row hrow hsource (hstatus happ), hsource, hstatus⟩

/-- Two names of one request name rows with the same source. -/
theorem ne_of_source {k k' : String} {row row' : EnvironmentOperationRecord} (hrow : s.request k = some row)
    (hrow' : s.request k' = some row') (hne : row.source ≠ row'.source) : k ≠ k' := by
  intro heq
  rw [heq, hrow'] at hrow
  cases hrow
  exact hne rfl

theorem ne_of_status {k k' : String} {row row' : EnvironmentOperationRecord} (hrow : s.request k = some row)
    (hrow' : s.request k' = some row') (hne : row.status ≠ row'.status) : k ≠ k' := by
  intro heq
  rw [heq, hrow'] at hrow
  cases hrow
  exact hne rfl

theorem stepOk_create (hs : ReviewOk s) (draft : EnvironmentOperationDraft) : StepOk s (s.create draft) := by
  rcases create_cases s draft with heq | ⟨store, hc, heq⟩
  · rw [heq]
    exact stepOk_refl hs
  · have hlater := create_later hc
    unfold Store.createEnvironmentOperationRequest at hc
    obtain ⟨table, htable, rfl⟩ := Option.map_eq_some_iff.mp hc
    have hkeep : ∀ k row, s.request k = some row → table.get k = some row :=
      fun k row hrow => get_insert_of_get htable hrow
    have hold : StepOk s { s with store := { s.store with environmentOperations := table } } :=
      stepOk_write hs hlater (fun k row hrow he => ⟨row, hkeep k row hrow, he⟩)
        (fun h hh => ⟨hh, fun row hrow _ _ _ => hkeep _ row hrow⟩) (fun p hp => hp)
        (fun d hd => decisionOk_keep hlater (hs.deciding d hd) fun _ row hrow _ _ => hkeep _ row hrow) (fun c hc => .inl hc)
    rcases heq with heq | ⟨turnId, hsource, hturn, heq⟩
    · rw [heq]
      exact hold
    · rw [heq]
      refine ⟨hold.later, hold.ended, ?_, hold.ok.responders, hold.ok.deciding, hold.ok.claims⟩
      intro h hh
      rcases List.mem_cons.mp hh with rfl | hmem
      · exact ⟨_, (get_insert htable _).trans (if_pos rfl), hsource, hturn, rfl⟩
      · exact hold.ok.handlers h hmem

theorem stepOk_read (hs : ReviewOk s) (projectRoot requestId : String) (response : ApprovalResponse) :
    StepOk s (s.read projectRoot requestId response) := by
  rcases read_cases s projectRoot requestId response with heq | ⟨row, hrow, hsource, heq⟩
  · rw [heq]
    exact stepOk_refl hs
  · rw [heq]
    refine stepOk_quiet hs rfl (fun h hh => ⟨h, hh, rfl, rfl⟩) ?_ hs.deciding (fun c hc => hc)
    intro p hp
    rcases List.mem_cons.mp hp with rfl | hmem
    · exact ⟨row, hrow, hsource⟩
    · exact hs.responders p hmem

theorem stepOk_deliver (hs : ReviewOk s) (p : Responder) : StepOk s (s.deliver p) := by
  rcases deliver_cases s p with heq | ⟨hp, heq | heq⟩
  · rw [heq]
    exact stepOk_refl hs
  · rw [heq]
    exact stepOk_quiet hs rfl (fun h hh => mem_setStage hh) (fun q hq => hs.responders q (List.mem_of_mem_erase hq))
      hs.deciding (fun c hc => hc)
  · rw [heq]
    refine stepOk_quiet hs rfl (fun h hh => ⟨h, hh, rfl, rfl⟩) ?_ hs.deciding (fun c hc => hc)
    intro q hq
    rcases List.mem_cons.mp hq with rfl | hmem
    · exact hs.responders p hp
    · exact hs.responders q (List.mem_of_mem_erase hmem)

/-- The mark of a response without a channel, on a request that has no handler. -/
theorem stepOk_markUndelivered (hs : ReviewOk s) (p : Responder)
    (hfree : ∀ h ∈ s.handlers, h.requestId ≠ p.requestId) : StepOk s (s.markUndelivered p) := by
  rcases markUndelivered_cases s p with heq | ⟨hp, heq⟩
  · rw [heq]
    exact stepOk_refl hs
  · rw [heq]
    obtain ⟨row, hrow, hagent⟩ := hs.responders p hp
    have hlater := decide_later s.store p.requestId { status := .interrupted, decision := some "cancel" } (by simp)
    refine stepOk_write hs hlater (decide_ended _ (.inl rfl)) ?_ (fun q hq => List.mem_of_mem_erase hq) ?_
      (fun c hc => .inl hc)
    · exact fun h hh => ⟨hh, fun row hrow _ _ _ => decide_other _ hrow (hfree h hh)⟩
    · intro d hd
      refine decisionOk_keep hlater (hs.deciding d hd) fun _ row' hrow' huser _ => ?_
      exact decide_other _ hrow' (ne_of_source hrow' hrow (by rw [huser, hagent]; simp))

theorem stepOk_handle (hs : ReviewOk s) (requestId : String) (stale fails : Bool) :
    StepOk s (s.handle requestId stale fails) := by
  rcases handle_cases s requestId stale fails with heq | ⟨⟨h₀, hmem₀, rfl⟩, heq | ⟨decision, heq⟩⟩
  · rw [heq]
    exact stepOk_refl hs
  · rw [heq]
    exact stepOk_quiet hs rfl (fun h hh => ⟨h, List.mem_of_mem_filter hh, rfl, rfl⟩) hs.responders hs.deciding
      (fun c hc => hc)
  · rw [heq]
    obtain ⟨row, hrow, hagent, -, hstatus⟩ := hs.handlers h₀ hmem₀
    have hlater := decide_later s.store h₀.requestId { status := decisionStatus decision stale, decision := some decision }
      (decisionStatus_ne_requested decision stale)
    refine stepOk_write hs hlater (decide_ended _ (.inr ?_)) ?_ (fun q hq => hq) ?_ (fun c hc => .inl hc)
    · intro row' hrow'
      have hsame : row' = row := Option.some.inj (hrow'.symm.trans hrow)
      rw [hsame, hstatus]
      rfl
    · intro h hh
      have hne := of_decide_eq_true (List.mem_filter.mp hh).2
      exact ⟨List.mem_of_mem_filter hh, fun row hrow _ _ _ => decide_other _ hrow hne⟩
    · intro d hd
      refine decisionOk_keep hlater (hs.deciding d hd) fun _ row' hrow' huser _ => ?_
      exact decide_other _ hrow' (ne_of_source hrow' hrow (by rw [huser, hagent]; simp))

theorem stepOk_abortTurn (hs : ReviewOk s) (turnId : String) : StepOk s (s.abortTurn turnId) :=
  stepOk_quiet hs rfl (fun h hh => ⟨h, List.mem_of_mem_filter hh, rfl, rfl⟩) hs.responders hs.deciding (fun _ hc => hc)

theorem stepOk_setStage (hs : ReviewOk s) (p : ReviewHandler → Bool) (stage : HandlerStage) :
    StepOk s (s.setStage p stage) :=
  stepOk_quiet hs rfl (fun _ hh => mem_setStage hh) hs.responders hs.deciding (fun _ hc => hc)

theorem stepOk_interruptTurn (hs : ReviewOk s) (turnId terminalOutcome : String) :
    StepOk s ((s.abortTurn turnId).onStore (·.interruptAgentEnvironmentOperations turnId terminalOutcome)) := by
  have hlater := interrupt_later s.store turnId terminalOutcome
  refine stepOk_write hs hlater (interrupt_ended s.store turnId terminalOutcome) ?_ (fun q hq => hq) ?_ (fun c hc => .inl hc)
  · intro h hh
    -- The handlers of the turn are gone; the statement selects the turn's requests only.
    have hne : h.turnId ≠ turnId := of_decide_eq_true (List.mem_filter.mp hh).2
    refine ⟨List.mem_of_mem_filter hh, fun row hrow _ hturn _ => ?_⟩
    exact interrupt_other _ hrow (.inl (by rw [hturn]; simpa using hne))
  · intro d hd
    refine decisionOk_keep hlater (hs.deciding d hd) fun _ row hrow huser _ => ?_
    exact interrupt_other _ hrow (.inr (by rw [huser]; simp))

/-- The recovery, while no user's decision is waiting to be written. -/
theorem stepOk_recover (hs : ReviewOk s) (hwritten : ∀ d, s.deciding = some d → d.approved = true) :
    StepOk s { s with handlers := [], store := s.store.recoverIncompleteEnvironmentOperations } := by
  have hlater := recover_later s.store
  refine stepOk_write hs hlater (recover_ended s.store) (fun h hh => by cases hh) (fun q hq => hq) ?_ (fun c hc => .inl hc)
  intro d hd
  refine decisionOk_keep hlater (hs.deciding d hd) fun hno => ?_
  rw [hwritten d hd] at hno
  cases hno

theorem stepOk_beginDecision (hs : ReviewOk s) (projectRoot requestId decision : String) :
    StepOk s (s.beginDecision projectRoot requestId decision) := by
  rcases beginDecision_cases s projectRoot requestId decision with heq | ⟨row, hrow, huser, hstatus, heq⟩
  · rw [heq]
    exact stepOk_refl hs
  · rw [heq]
    refine stepOk_quiet hs rfl (fun h hh => ⟨h, hh, rfl, rfl⟩) hs.responders ?_ (fun c hc => hc)
    intro d hd
    cases hd
    exact ⟨row, hrow, huser, fun _ => hstatus⟩

theorem stepOk_writeDecision (hs : ReviewOk s) (stale : Bool) : StepOk s (s.writeDecision stale) := by
  rcases writeDecision_cases s stale with heq | ⟨d, hd, happ, heq⟩
  · rw [heq]
    exact stepOk_refl hs
  · rw [heq]
    obtain ⟨row, hrow, huser, hstatus⟩ := hs.deciding d hd
    have hlater := decide_later s.store d.requestId
      { status := decisionStatus d.decision stale, decision := some d.decision } (decisionStatus_ne_requested d.decision stale)
    refine stepOk_write hs hlater (decide_ended _ (.inr ?_)) ?_ (fun q hq => hq) ?_ (fun c hc => .inl hc)
    · intro row' hrow'
      have hsame : row' = row := Option.some.inj (hrow'.symm.trans hrow)
      rw [hsame, hstatus happ]
      rfl
    · intro h hh
      refine ⟨hh, fun row' hrow' hagent _ _ => ?_⟩
      exact decide_other _ hrow' (ne_of_source hrow' hrow (by rw [huser, hagent]; simp))
    · intro d' hd'
      dsimp only at hd'
      split at hd'
      · cases hd'
        obtain ⟨row', hrow', hl⟩ := hlater _ row hrow
        exact ⟨row', hrow', hl.source.trans huser, nofun⟩
      · cases hd'

theorem stepOk_endDecision (hs : ReviewOk s) (failed : Bool) : StepOk s (s.endDecision failed) := by
  rcases endDecision_cases s failed with heq | heq | ⟨d, hd, heq⟩
  · rw [heq]
    exact stepOk_refl hs
  · rw [heq]
    exact stepOk_quiet hs rfl (fun h hh => ⟨h, hh, rfl, rfl⟩) hs.responders (fun d hd => by cases hd) (fun c hc => hc)
  · rw [heq]
    obtain ⟨row, hrow, huser, -⟩ := hs.deciding d hd
    refine stepOk_write hs (finish_later s.store _ (by simp)) (finish_ended s.store rfl) ?_ (fun q hq => hq)
      (fun d hd => by cases hd) (fun c hc => .inl hc)
    intro h hh
    refine ⟨hh, fun row' hrow' hagent _ _ => ?_⟩
    exact finish_other hrow' (ne_of_source hrow' hrow (by rw [huser, hagent]; simp))

theorem stepOk_claim (hs : ReviewOk s) (projectRoot requestName requestId runId : String) :
    StepOk s (s.claim projectRoot requestName requestId runId) := by
  obtain ⟨store, hstore, hcases⟩ := claim_cases s projectRoot requestName requestId runId
  subst hstore
  have hlater := claim_later s.store projectRoot requestName requestId runId
  have hkeep : ∀ k row, s.request k = some row → row.status = .requested →
      (s.store.claimEnvironmentOperationRequest projectRoot requestName requestId runId).1.environmentOperations.get k =
        some row := fun k row hrow hreq => claim_other _ _ _ _ hrow (by rw [hreq]; simp)
  have hend := claim_ended s.store projectRoot requestName requestId runId
  rcases hcases with heq | ⟨hclaimed, heq⟩
  · rw [heq]
    exact stepOk_write hs hlater hend (fun h hh => ⟨hh, fun row hrow _ _ hreq => hkeep _ row hrow hreq⟩) (fun q hq => hq)
      (fun d hd => decisionOk_keep hlater (hs.deciding d hd) fun _ row hrow _ hreq => hkeep _ row hrow hreq)
      (fun c hc => .inl hc)
  · rw [heq]
    refine stepOk_write hs hlater hend (fun h hh => ⟨hh, fun row hrow _ _ hreq => hkeep _ row hrow hreq⟩) (fun q hq => hq)
      (fun d hd => decisionOk_keep hlater (hs.deciding d hd) fun _ row hrow _ hreq => hkeep _ row hrow hreq) ?_
    obtain ⟨-, row, hrow, hrunning, -⟩ := claim_true hclaimed
    intro c hc
    rcases List.mem_cons.mp hc with rfl | hmem
    · exact .inr ⟨row, hrow, by rw [hrunning]; simp⟩
    · exact .inl hmem

theorem stepOk_finish (hs : ReviewOk s) (requestId runId : String) (outcome : OperationEnd) (terminalOutcome : String) :
    StepOk s (s.finish requestId runId outcome terminalOutcome) := by
  rcases finish_cases s requestId runId outcome terminalOutcome with heq | ⟨hmem, heq⟩
  · rw [heq]
    exact stepOk_refl hs
  · rw [heq]
    obtain ⟨row, hrow, hdecided⟩ := hs.claims _ hmem
    have hlater := finish_later s.store ⟨requestId, outcome.status, some runId, some terminalOutcome⟩ (end_ne_requested outcome)
    have hkeep : ∀ k row', s.request k = some row' → row'.status = .requested →
        (s.store.finishEnvironmentOperationRequest ⟨requestId, outcome.status, some runId, some terminalOutcome⟩
          ).environmentOperations.get k = some row' :=
      fun k row' hrow' hreq => finish_other hrow' (ne_of_status hrow' hrow (by rw [hreq]; exact fun h => hdecided h.symm))
    refine stepOk_write hs hlater (finish_ended s.store ?_) (fun h hh => ⟨hh, fun row hrow _ _ hreq => hkeep _ row hrow hreq⟩)
      (fun q hq => hq) (fun d hd => decisionOk_keep hlater (hs.deciding d hd) fun _ row hrow _ hreq => hkeep _ row hrow hreq)
      (fun c hc => .inl (List.mem_of_mem_erase hc))
    cases outcome <;> rfl

/-- One step that ends no request whose decision is to be written. -/
theorem stepOk_step (hs : ReviewOk s) {l : ReviewStep} (hl : SparesPending s l) : StepOk s (s.step l) := by
  cases l with
  | create draft => exact stepOk_create hs draft
  | register requestId => exact stepOk_setStage hs _ _
  | read projectRoot requestId response => exact stepOk_read hs projectRoot requestId response
  | deliver p => exact stepOk_deliver hs p
  | markUndelivered p => exact stepOk_markUndelivered hs p hl
  | handle requestId stale fails => exact stepOk_handle hs requestId stale fails
  | cancelWaiters turnId => exact stepOk_setStage hs _ _
  | abortTurn turnId => exact stepOk_abortTurn hs turnId
  | interruptTurn turnId terminalOutcome => exact stepOk_interruptTurn hs turnId terminalOutcome
  | recover => exact stepOk_recover hs hl
  | processStop => exact ⟨tableLater_refl _, endedKept_refl _, reviewOk_start s.store⟩
  | beginDecision projectRoot requestId decision => exact stepOk_beginDecision hs projectRoot requestId decision
  | writeDecision stale => exact stepOk_writeDecision hs stale
  | endDecision failed => exact stepOk_endDecision hs failed
  | claim projectRoot requestName requestId runId => exact stepOk_claim hs projectRoot requestName requestId runId
  | finish requestId runId outcome terminalOutcome => exact stepOk_finish hs requestId runId outcome terminalOutcome

end Step

/-! ## Claims -/

/-- No step at all takes a row back. -/
theorem later_step (s : ReviewSystem) (l : ReviewStep) :
    TableLater s.store.environmentOperations (s.step l).store.environmentOperations := by
  have hrefl : ∀ {s' : ReviewSystem}, s'.store = s.store →
      TableLater s.store.environmentOperations s'.store.environmentOperations := by
    intro s' h
    rw [h]
    exact tableLater_refl _
  cases l with
  | create draft =>
    rcases create_cases s draft with heq | ⟨store, hc, heq | ⟨turnId, -, -, heq⟩⟩
    · exact hrefl (by rw [ReviewSystem.step, heq])
    · rw [ReviewSystem.step, heq]
      exact create_later hc
    · rw [ReviewSystem.step, heq]
      exact create_later hc
  | register requestId => exact hrefl rfl
  | read projectRoot requestId response =>
    rcases read_cases s projectRoot requestId response with heq | ⟨row, -, -, heq⟩
    · exact hrefl (by rw [ReviewSystem.step, heq])
    · exact hrefl (by rw [ReviewSystem.step, heq])
  | deliver p =>
    rcases deliver_cases s p with heq | ⟨-, heq | heq⟩
    · exact hrefl (by rw [ReviewSystem.step, heq])
    · exact hrefl (by rw [ReviewSystem.step, heq]; rfl)
    · exact hrefl (by rw [ReviewSystem.step, heq])
  | markUndelivered p =>
    rcases markUndelivered_cases s p with heq | ⟨-, heq⟩
    · exact hrefl (by rw [ReviewSystem.step, heq])
    · rw [ReviewSystem.step, heq]
      exact decide_later _ _ _ (by simp)
  | handle requestId stale fails =>
    rcases handle_cases s requestId stale fails with heq | ⟨-, heq | ⟨decision, heq⟩⟩
    · exact hrefl (by rw [ReviewSystem.step, heq])
    · exact hrefl (by rw [ReviewSystem.step, heq])
    · rw [ReviewSystem.step, heq]
      exact decide_later _ _ _ (decisionStatus_ne_requested _ _)
  | cancelWaiters turnId => exact hrefl rfl
  | abortTurn turnId => exact hrefl rfl
  | interruptTurn turnId terminalOutcome => exact interrupt_later _ _ _
  | recover => exact recover_later _
  | processStop => exact hrefl rfl
  | beginDecision projectRoot requestId decision =>
    rcases beginDecision_cases s projectRoot requestId decision with heq | ⟨row, -, -, -, heq⟩
    · exact hrefl (by rw [ReviewSystem.step, heq])
    · exact hrefl (by rw [ReviewSystem.step, heq])
  | writeDecision stale =>
    rcases writeDecision_cases s stale with heq | ⟨d, -, -, heq⟩
    · exact hrefl (by rw [ReviewSystem.step, heq])
    · rw [ReviewSystem.step, heq]
      exact decide_later _ _ _ (decisionStatus_ne_requested _ _)
  | endDecision failed =>
    rcases endDecision_cases s failed with heq | heq | ⟨d, -, heq⟩
    · exact hrefl (by rw [ReviewSystem.step, heq])
    · exact hrefl (by rw [ReviewSystem.step, heq])
    · rw [ReviewSystem.step, heq]
      exact finish_later _ _ (by simp)
  | claim projectRoot requestName requestId runId =>
    obtain ⟨store, hstore, heq | ⟨-, heq⟩⟩ := claim_cases s projectRoot requestName requestId runId
    · rw [ReviewSystem.step, heq, hstore]
      exact claim_later _ _ _ _ _
    · rw [ReviewSystem.step, heq, hstore]
      exact claim_later _ _ _ _ _
  | finish requestId runId outcome terminalOutcome =>
    rcases finish_cases s requestId runId outcome terminalOutcome with heq | ⟨-, heq⟩
    · exact hrefl (by rw [ReviewSystem.step, heq])
    · rw [ReviewSystem.step, heq]
      exact finish_later _ _ (end_ne_requested outcome)

/-- A claim finds its request without a run and leaves it with one. -/
theorem claimed_spec {s : ReviewSystem} {l : ReviewStep} {requestId : String} (h : s.claimed l = some requestId) :
    (∃ row, s.request requestId = some row ∧ row.runId = none) ∧
      ∃ row, (s.step l).request requestId = some row ∧ row.runId.isSome = true := by
  cases l with
  | claim projectRoot requestName requestId' runId =>
    simp only [ReviewSystem.claimed] at h
    split at h
    · rename_i hclaimed
      cases h
      obtain ⟨hbefore, row, hrow, -, hrun⟩ := claim_true hclaimed
      refine ⟨hbefore, row, ?_, by rw [hrun]; rfl⟩
      obtain ⟨store, hstore, heq | ⟨-, heq⟩⟩ := claim_cases s projectRoot requestName requestId runId
      · rw [ReviewSystem.step, heq, ReviewSystem.request, hstore]
        exact hrow
      · rw [ReviewSystem.step, heq, ReviewSystem.request, hstore]
        exact hrow
    · cases h
  | _ => cases h

theorem claimedOnce (s : ReviewSystem) (trace : List ReviewStep) : ClaimedOnce s trace := by
  intro before l between l' rest _ requestId hclaim hclaim'
  obtain ⟨-, row, hrow, hrun⟩ := claimed_spec hclaim
  have hlater : TableLater ((Run.after ReviewSystem.step s before).step l).store.environmentOperations
      (Run.after ReviewSystem.step s (before ++ l :: between)).store.environmentOperations := by
    rw [Run.after_append, Run.after_cons]
    exact Run.invariant (I := fun u : ReviewSystem =>
        TableLater ((Run.after ReviewSystem.step s before).step l).store.environmentOperations u.store.environmentOperations)
      (fun u l hu => tableLater_trans hu (later_step u l)) between (tableLater_refl _)
  obtain ⟨row', hrow', hl⟩ := hlater requestId row hrow
  obtain ⟨⟨row'', hrow'', hnone⟩, -⟩ := claimed_spec hclaim'
  have hsame : row'' = row' := Option.some.inj (hrow''.symm.trans hrow')
  have hsome := hl.claimed hrun
  rw [← hsame, hnone] at hsome
  cases hsome

theorem staysEnded {s : ReviewSystem} (hs : ReviewOk s) {trace : List ReviewStep}
    (h : Run.Along ReviewSystem.step SparesPending s trace) : StaysEnded s trace := by
  intro before between rest heq requestId row hrow hended
  rw [heq, Run.along_append, Run.along_append] at h
  obtain ⟨⟨hbefore, hbetween⟩, -⟩ := h
  have hmid := Run.invariant_along (I := ReviewOk) (fun u l hu hl => (stepOk_step hu hl).ok) hs hbefore
  rw [Run.after_append]
  have hkept := Run.invariant_along (I := fun u : ReviewSystem => ReviewOk u ∧
      ∃ row, u.request requestId = some row ∧ row.status.isEnded = true) ?_ ⟨hmid, row, hrow, hended⟩ hbetween
  · exact hkept.2
  · intro u l hu hl
    obtain ⟨hok, row, hrow, he⟩ := hu
    have hstep := stepOk_step hok hl
    exact ⟨hstep.ok, hstep.ended requestId row hrow he⟩

end ReviewAux

open ReviewAux

/-- In every run from a store with nothing in progress, no request is claimed twice; and as long as no step ends a request whose
decision is still to be written, a request that has ended never becomes approved or running again. -/
theorem ended_requests_stay (store : Store) (trace : List ReviewStep) : ClaimedOnce (.start store) trace ∧
      (Run.Along ReviewSystem.step SparesPending (.start store) trace → StaysEnded (.start store) trace) :=
  ⟨claimedOnce _ trace, fun h => staysEnded (reviewOk_start store) h⟩

/-! ## Two responses to one request -/

/-- A request of the Agent to install a package. -/
def installDraft : EnvironmentOperationDraft where
  requestId := "envreq_1"
  turnId := some "turn_1"
  source := .agent
  requestName := "environment.package_install"
  projectRoot := "/project"
  argumentsJson := "\x7b\x7d"
  workspaceId := "ws"
  stateRevision := 0
  projectRevision := 0
  beforeSnapshotId := none

theorem emptyStore_normalized : normalizeProjectRoot "/project" = "/project" := rfl

def emptyStore : Store where
  runs := .empty _
  environmentOperations := .empty _
  approvals := .empty _
  projectRoot := "/project"
  normalized := emptyStore_normalized
  identity := none

/-- The user's approval, on its way to the handler. -/
def approving : Responder where
  requestId := "envreq_1"
  turnId := some "turn_1"
  response := ⟨"approve", none⟩
  undelivered := false

/-- A request that is approved, carried out and completed, and stays so through a recovery. -/
theorem ended_requests_stay_completed :
    let trace : List ReviewStep :=
      [.create installDraft, .register "envreq_1", .read "/project" "envreq_1" ⟨"approve", none⟩, .deliver approving,
        .handle "envreq_1" false false, .claim "/project" "environment.package_install" "envreq_1" "exec_1",
        .finish "envreq_1" "exec_1" .completed "completed", .recover]
    ((Run.after ReviewSystem.step (.start emptyStore) trace).request "envreq_1").map (·.status) = some .completed ∧
      StaysEnded (.start emptyStore) trace := by
  refine ⟨rfl, (ended_requests_stay emptyStore _).2 ?_⟩
  refine ⟨trivial, trivial, trivial, trivial, trivial, trivial, trivial, ?_, trivial⟩
  intro d hd
  cases hd

/-- Two responses that both find the request pending: the first is delivered, the second finds no channel and marks the request
interrupted, and then the handler writes the approval of the first. The request has ended, and is approved and run. -/
theorem ended_request_revived :
    let trace : List ReviewStep :=
      [.create installDraft, .register "envreq_1", .read "/project" "envreq_1" ⟨"approve", none⟩,
        .read "/project" "envreq_1" ⟨"approve", none⟩, .deliver approving, .deliver approving,
        .markUndelivered { approving with undelivered := true }, .handle "envreq_1" false false,
        .claim "/project" "environment.package_install" "envreq_1" "exec_1"]
    ((Run.after ReviewSystem.step (.start emptyStore) (trace.take 7)).request "envreq_1").map (·.status) = some .interrupted ∧
      ((Run.after ReviewSystem.step (.start emptyStore) (trace.take 8)).request "envreq_1").map (·.status) = some .approved ∧
      ((Run.after ReviewSystem.step (.start emptyStore) trace).request "envreq_1").map (·.status) = some .running ∧
      ¬StaysEnded (.start emptyStore) trace := by
  refine ⟨rfl, rfl, rfl, ?_⟩
  intro hstays
  obtain ⟨row, hrow, hended⟩ := hstays
    [.create installDraft, .register "envreq_1", .read "/project" "envreq_1" ⟨"approve", none⟩,
      .read "/project" "envreq_1" ⟨"approve", none⟩, .deliver approving, .deliver approving,
      .markUndelivered { approving with undelivered := true }]
    [.handle "envreq_1" false false] [.claim "/project" "environment.package_install" "envreq_1" "exec_1"] rfl "envreq_1" _
    rfl rfl
  cases hrow
  cases hended

end Rho
