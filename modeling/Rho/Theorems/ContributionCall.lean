import Mathlib.Data.List.Induction
import Rho.Extension.ContributionCall
import Rho.Theorems.Contribution
import Rho.Theorems.JsonSchema
import Rho.Theorems.WasmHost

/-!
# What a call of a contribution keeps to

Over any calls on a session, with any store, clock and host passed to each of them: at most one outcome, none of a call that is
over, only the handles that were supplied, and a result of the broker only for a request that waits for it.
-/

namespace Rho

open Effect SessionAnswer Fallible

/-! ## What a session has exchanged -/

def GuestStep.isRequest (step : GuestStep) : Bool := !step.isTerminal

/-- A broker request has the handle that was supplied for its permission. -/
def GuestStep.NamesSupplied (handles : SuppliedHandles) : GuestStep → Prop
  | .brokerRequest _ handleId permission _ _ => handles.get permission = some handleId
  | .complete _ _ | .error _ _ => True

/-- The store, the reading of the clock and the host that a call looks at. -/
def SessionCall.passed : SessionCall → Option (ContributionStore × Nat × WasmPluginHost)
  | .resume registry _ _ now _ host | .finish registry _ now _ host => some (registry, now, host)
  | .cancel _ _ | .invalidateBeforePublish => none

namespace SessionEvent

/-- The call has returned an outcome. -/
def isOutcome (e : SessionEvent) : Bool :=
  match e.answer with
  | .finished _ => true
  | .resumed _ | .cancelled _ | .invalidated | .refused _ => false

/-- A cancellation that has returned `Ok`, or an invalidation. -/
def isWithdrawal (e : SessionEvent) : Bool :=
  match e.answer with
  | .cancelled _ | .invalidated => true
  | .resumed _ | .finished _ | .refused _ => false

/-- The call was made at or after the deadline, or at its own host when the route of the contribution was another one. -/
def FindsOver (s : ContributionCallSession) (e : SessionEvent) : Prop :=
  ∃ registry now host, e.call.passed = some (registry, now, host) ∧
    (s.deadlineMillis ≤ now ∨ (isCurrentHost s.identity host = true ∧ s.isRouted registry = false))

/-- After this call there is no outcome. -/
def Closes (s : ContributionCallSession) (e : SessionEvent) : Prop := e.isOutcome ∨ e.isWithdrawal ∨ e.FindsOver s

end SessionEvent

/-- What passes between the broker and the guest: a result that is handed over, and a step that is accepted. -/
inductive Exchange where
  | answered
  | accepted (step : GuestStep)
  deriving DecidableEq

def SessionEvent.exchanges (e : SessionEvent) : List Exchange :=
  match e.delivered, e.answer with
  | true, .resumed step => [.answered, .accepted step]
  | true, _ => [.answered]
  | false, _ => []

/-- What holds of the calls on a session, after the first step of the guest. -/
structure SessionSafe (s : ContributionCallSession) (first : GuestStep) (events : List SessionEvent) : Prop where
  one_outcome : events.countP (·.isOutcome) ≤ 1
  /-- A call that returns an outcome is in time, at the host of the session, and the store routes the contribution to it. -/
  outcome_live : ∀ e ∈ events, e.isOutcome = true → ∃ registry now host, e.call.passed = some (registry, now, host) ∧
    now < s.deadlineMillis ∧ isCurrentHost s.identity host = true ∧ s.isRouted registry = true
  outcome_open : ∀ before e rest, events = before ++ e :: rest → e.isOutcome = true → ∀ e' ∈ before, ¬e'.Closes s
  handles_supplied : ∀ step, step = first ∨ (∃ e ∈ events, e.answer = .resumed step) → step.NamesSupplied s.suppliedHandles
  /-- A result reaches the guest when what was exchanged last is a request that was accepted. -/
  request_waits : ∀ before e rest, events = before ++ e :: rest → e.delivered = true →
    ∃ step, step.isRequest = true ∧ (.accepted first :: before.flatMap (·.exchanges)).getLast? = some (.accepted step)

namespace ContributionCallAux

open ContributionCallSession

variable {s t : ContributionCallSession} {host : WasmPluginHost} {registry : ContributionStore} {now : Nat} {env : CallEnv}

/-! ## Parts of a call -/

theorem ensureCall_ok {condition : Bool} {code : ContributionCallErrorCode} {message : String} {u : Unit}
    (h : ensureCall condition code message = .ok u) : condition = true := by
  unfold ensureCall at h
  split at h
  · next hcondition => exact hcondition
  · cases h

theorem orCallError_ok {α : Type} {value : Option α} {code : ContributionCallErrorCode} {message : String} {a : α}
    (h : orCallError value code message = .ok a) : value = some a := by
  cases value with
  | none => cases h
  | some v =>
    cases h
    rfl

/-- Only the flags and the number of steps may differ. -/
def Fixed (s t : ContributionCallSession) : Prop :=
  t = { s with brokerSteps := t.brokerSteps, waitingForBroker := t.waitingForBroker, terminal := t.terminal }

theorem Fixed.trans {u : ContributionCallSession} (h₁ : Fixed s t) (h₂ : Fixed t u) : Fixed s u := by
  unfold Fixed at h₁ h₂ ⊢
  rw [h₁] at h₂
  exact h₂

theorem Fixed.deadlineMillis (h : Fixed s t) : t.deadlineMillis = s.deadlineMillis := by rw [h]

theorem Fixed.identity (h : Fixed s t) : t.identity = s.identity := by rw [h]

theorem Fixed.suppliedHandles (h : Fixed s t) : t.suppliedHandles = s.suppliedHandles := by rw [h]

theorem Fixed.isRouted (h : Fixed s t) (registry : ContributionStore) : t.isRouted registry = s.isRouted registry := by
  rw [h]
  rfl

theorem onHost_ends {α : Type} (operation : HostM α) (state : ContributionCallSession × WasmPluginHost) :
    Ends (fun _ u => u.1 = state.1) (fun _ _ => False) (onHost operation state) := by
  unfold onHost
  split <;> rfl

theorem cancelOnHost_ends (env : CallEnv) (state : ContributionCallSession × WasmPluginHost) :
    Ends (fun _ u => u.1 = state.1) (fun _ _ => False) (cancelOnHost env state) :=
  onHost_ends _ state

/-- A session takes a step of its call that has, if it is a request, the supplied handle; it waits after a request only. -/
theorem acceptStep_ok {step : GuestStep} (h : s.acceptStep step = .ok t) :
    Fixed s t ∧ t.terminal = s.terminal ∧ t.waitingForBroker = step.isRequest ∧ step.NamesSupplied s.suppliedHandles := by
  unfold acceptStep at h
  split at h
  · cases h
  · cases step with
    | brokerRequest callId handleId permission operation args =>
      simp only at h
      split at h
      · cases h
      · next hsupplied =>
        cases h
        exact ⟨rfl, rfl, rfl, not_not.mp hsupplied⟩
    | complete callId result =>
      cases h
      exact ⟨rfl, rfl, rfl, trivial⟩
    | error callId code =>
      cases h
      exact ⟨rfl, rfl, rfl, trivial⟩

theorem takeStep_ends (env : CallEnv) (step : GuestStep) (state : ContributionCallSession × WasmPluginHost) :
    Ends (fun a u => a = step ∧ state.1.acceptStep step = .ok u.1) (fun _ u => u.1 = state.1) (takeStep env step state) := by
  unfold takeStep
  refine ends_bind (P := fun a u => a = state ∧ u = state) ⟨rfl, rfl⟩ ?_
  rintro _ _ ⟨ha, hu⟩
  rw [ha, hu]
  cases haccept : state.1.acceptStep step with
  | ok s => exact ⟨rfl, rfl⟩
  | error e =>
    refine ends_certain (cancelOnHost_ends env _) ?_
    rintro _ u hu
    exact hu

theorem abandon_ends (env : CallEnv) (error : ContributionCallError) (state : ContributionCallSession × WasmPluginHost) :
    Ends (fun _ _ => False) (fun _ u => u.1 = state.1.closed) (abandon env error state) := by
  unfold abandon
  refine ends_certain (cancelOnHost_ends env _) ?_
  rintro _ u hu
  change u.1.closed = _
  rw [hu]

/-- A session that is live is left as it was; one that is over is closed; at another host nothing is done. -/
theorem ensureLive_ends (registry : ContributionStore) (now : Nat) (env : CallEnv) (s : ContributionCallSession)
    (host : WasmPluginHost) : Ends
      (fun _ u => u = (s, host) ∧ now < s.deadlineMillis ∧ isCurrentHost s.identity host = true ∧ s.isRouted registry = true)
      (fun _ u => u.1 = s.closed ∨ (u.1 = s ∧ now < s.deadlineMillis ∧ isCurrentHost s.identity host = false))
      (ensureLive registry now env (s, host)) := by
  unfold ensureLive
  refine ends_get ?_
  split
  · exact (abandon_ends env _ _).mono (fun _ _ h => h.elim) fun _ _ h => Or.inl h
  · next hdeadline =>
    have htime : now < s.deadlineMillis := Nat.not_le.mp hdeadline
    refine ends_bind (P := fun _ u => u = (s, host) ∧ isCurrentHost s.identity host = true) (ends_ofResult ?_ ?_) ?_
    · intro _ hensure
      exact ⟨rfl, ensureCall_ok hensure⟩
    · intro _ hensure
      simp only [ensureCurrentHost, ensureCall] at hensure
      split at hensure
      · cases hensure
      · next hcurrent => exact Or.inr ⟨rfl, htime, Bool.eq_false_of_not_eq_true hcurrent⟩
    · rintro _ _ ⟨rfl, hcurrent⟩
      split
      · exact (abandon_ends env _ _).mono (fun _ _ h => h.elim) fun _ _ h => Or.inl h
      · next hrouted => exact ⟨rfl, htime, hcurrent, by simpa using hrouted⟩

/-! ## What a call does to its session -/

/-- What a call does to the session and what its answer says. -/
structure Served (s : ContributionCallSession) (e : SessionEvent) (t : ContributionCallSession) : Prop where
  fixed : Fixed s t
  closes : e.Closes s → t.terminal = true
  stays : s.terminal = true → t.terminal = true ∧ e.isOutcome = false
  live : e.isOutcome = true → ∃ registry now host, e.call.passed = some (registry, now, host) ∧
    now < s.deadlineMillis ∧ isCurrentHost s.identity host = true ∧ s.isRouted registry = true
  names : ∀ step, e.answer = .resumed step → step.NamesSupplied s.suppliedHandles
  delivered : e.delivered = true → s.waitingForBroker = true
  waits : t.waitingForBroker = true → (e.exchanges = [] ∧ s.waitingForBroker = true) ∨
    ∃ step : GuestStep, step.isRequest = true ∧ e.exchanges.getLast? = some (.accepted step)

/-- The call has come in time, and at the host of the session it has found the route of the session. -/
def NotOver (s : ContributionCallSession) (registry : ContributionStore) (now : Nat) (host : WasmPluginHost) : Prop :=
  now < s.deadlineMillis ∧ (isCurrentHost s.identity host = true → s.isRouted registry = true)

theorem NotOver.not_findsOver {e : SessionEvent} (h : NotOver s registry now host)
    (hpassed : e.call.passed = some (registry, now, host)) : ¬e.FindsOver s := by
  rintro ⟨registry', now', host', hpassed', hover⟩
  cases hpassed.symm.trans hpassed'
  rcases hover with hlate | ⟨hcurrent, hrouted⟩
  · exact Nat.not_lt.mpr hlate h.1
  · cases hrouted.symm.trans (h.2 hcurrent)

theorem served_of_ends {α : Type} {call : SessionCall} {delivered : Bool} {answer : α → SessionAnswer}
    {r : EStateM.Result ContributionCallError (ContributionCallSession × WasmPluginHost) α}
    (h : Ends (fun a u => Served s ⟨call, delivered, answer a⟩ u.1) (fun e u => Served s ⟨call, delivered, .refused e⟩ u.1) r) :
    Served s ⟨call, delivered, (ofResult answer r).1⟩ (ofResult answer r).2 := by
  cases r with
  | ok a u => exact h
  | error e u => exact h

/-- A call that is refused before it reaches the guest, and leaves the session as it was. -/
theorem served_refused {call : SessionCall} (error : ContributionCallError)
    (hover : ¬SessionEvent.FindsOver s ⟨call, false, .refused error⟩) : Served s ⟨call, false, .refused error⟩ s where
  fixed := rfl
  closes := by
    rintro (h | h | h)
    · cases h
    · cases h
    · exact absurd h hover
  stays h := ⟨h, rfl⟩
  live h := by cases h
  names _ h := by cases h
  delivered h := by cases h
  waits h := Or.inl ⟨rfl, h⟩

/-- A call that closes the session without an outcome. -/
theorem served_closed {call : SessionCall} {answer : SessionAnswer} (houtcome : SessionEvent.isOutcome ⟨call, false, answer⟩ = false)
    (hresumed : ∀ step, answer ≠ .resumed step) : Served s ⟨call, false, answer⟩ s.closed where
  fixed := rfl
  closes _ := rfl
  stays _ := ⟨rfl, houtcome⟩
  live h := by
    rw [houtcome] at h
    cases h
  names step h := absurd h (hresumed step)
  delivered h := by cases h
  waits h := by cases h

/-! ## The calls -/

theorem finish_served {F : Type} [LinearOrder F] (num : Numbers F) (crates : WasmCrates) (s : ContributionCallSession)
    (registry : ContributionStore) (step : GuestStep) (now : Nat) (env : CallEnv) (host : WasmPluginHost) :
    Ends (fun outcome u => Served s ⟨.finish registry step now env host, false, .finished outcome⟩ u.1)
      (fun e u => Served s ⟨.finish registry step now env host, false, .refused e⟩ u.1)
      (finish num crates registry step now env (s, host)) := by
  have hclosed : ∀ error, Served s ⟨.finish registry step now env host, false, .refused error⟩ s.closed :=
    fun error => served_closed rfl nofun
  unfold finish
  refine ends_seq (ensureLive_ends registry now env s host) ?_ ?_
  · rintro e u (hu | ⟨hu, htime, hother⟩)
    · rw [hu]
      exact hclosed e
    · rw [hu]
      refine served_refused e (NotOver.not_findsOver ⟨htime, ?_⟩ rfl)
      intro hcurrent
      cases hother.symm.trans hcurrent
  · rintro _ _ ⟨rfl, htime, hcurrent, hrouted⟩
    have hrefused : ∀ error, Served s ⟨.finish registry step now env host, false, .refused error⟩ s :=
      fun error => served_refused error (NotOver.not_findsOver ⟨htime, fun _ => hrouted⟩ rfl)
    refine ends_get ?_
    split
    · exact hrefused _
    · next hopen =>
      have houtcome : ∀ outcome, Served s ⟨.finish registry step now env host, false, .finished outcome⟩ s.closed := by
        intro outcome
        refine ⟨rfl, fun _ => rfl, fun h => absurd h hopen, ?_, ?_, ?_, ?_⟩
        · exact fun _ => ⟨registry, now, host, rfl, htime, hcurrent, hrouted⟩
        · exact nofun
        · exact nofun
        · exact nofun
      split
      · exact hrefused _
      · cases step with
        | complete callId result =>
          refine ends_bind (P := fun _ u => u = (s.closed, host)) rfl ?_
          rintro _ _ rfl
          refine ends_bind (P := fun _ u => u = (s.closed, host)) (ends_ofResult (fun _ _ => rfl) ?_) ?_
          · exact fun e _ => hclosed e
          · rintro _ _ rfl
            exact houtcome _
        | error callId code => exact houtcome _
        | brokerRequest callId handleId permission operation args => exact hrefused _

theorem cancel_served (s : ContributionCallSession) (env : CallEnv) (host : WasmPluginHost) :
    Ends (fun cancelled u => Served s ⟨.cancel env host, false, .cancelled cancelled⟩ u.1)
      (fun e u => Served s ⟨.cancel env host, false, .refused e⟩ u.1) (cancel env (s, host)) := by
  unfold cancel
  refine ends_get ?_
  split
  · next hterminal =>
    refine ⟨rfl, fun _ => hterminal, fun h => ⟨h, rfl⟩, ?_, ?_, ?_, fun h => Or.inl ⟨rfl, h⟩⟩
    · exact nofun
    · exact nofun
    · exact nofun
  · refine ends_certain (cancelOnHost_ends env (s, host)) ?_
    rintro answer u hu
    cases answer with
    | error e =>
      change Served s _ u.1
      rw [hu]
      refine served_refused _ ?_
      rintro ⟨_, _, _, hpassed, _⟩
      cases hpassed
    | ok cancelled =>
      change Served s _ u.1.closed
      rw [hu]
      exact served_closed rfl nofun

/-- A resumption that reaches the guest has found the session waiting, and takes its request back. -/
theorem admitResume_ends (registry : ContributionStore) (now : Nat) (env : CallEnv) (s : ContributionCallSession)
    (host : WasmPluginHost) : Ends
      (fun _ u => u.1 = { s with waitingForBroker := false } ∧ s.waitingForBroker = true ∧ s.terminal = false ∧
        NotOver s registry now host)
      (fun _ u => u.1 = s.closed ∨ (u.1 = s ∧ NotOver s registry now host)) (admitResume registry now env (s, host)) := by
  unfold admitResume
  refine ends_seq (ensureLive_ends registry now env s host) ?_ ?_
  · rintro e u (hu | ⟨hu, htime, hother⟩)
    · exact Or.inl hu
    · refine Or.inr ⟨hu, htime, ?_⟩
      intro hcurrent
      cases hother.symm.trans hcurrent
  · rintro _ _ ⟨rfl, htime, hcurrent, hrouted⟩
    refine ends_get ?_
    split
    · exact Or.inr ⟨rfl, htime, fun _ => hrouted⟩
    · next hwaiting =>
      rw [Bool.or_eq_true, not_or, Bool.not_eq_true, Bool.not_eq_true, Bool.not_eq_false'] at hwaiting
      exact ⟨rfl, hwaiting.2, hwaiting.1, htime, fun _ => hrouted⟩

theorem deliver_ends (crates : WasmCrates) (brokerResult : Json) (rawResultBytes : Nat) (env : CallEnv)
    (state : ContributionCallSession × WasmPluginHost) :
    Ends (fun step u => state.1.acceptStep step = .ok u.1) (fun _ u => u.1 = state.1)
      (deliver crates brokerResult rawResultBytes env state) := by
  unfold deliver
  refine ends_bind (P := fun a u => a = state ∧ u = state) ⟨rfl, rfl⟩ ?_
  rintro _ _ ⟨ha, hu⟩
  rw [ha, hu]
  refine ends_certain (onHost_ends _ state) ?_
  rintro answer u hu
  cases answer with
  | error e => exact hu
  | ok step =>
    rw [← hu]
    refine (takeStep_ends env step u).mono ?_ fun _ _ h => h
    rintro _ v ⟨rfl, haccept⟩
    exact haccept

theorem resume_served (crates : WasmCrates) (s : ContributionCallSession) (registry : ContributionStore) (brokerResult : Json)
    (rawResultBytes now : Nat) (env : CallEnv) (host : WasmPluginHost) : Served s
      ⟨.resume registry brokerResult rawResultBytes now env host,
        s.delivers (.resume registry brokerResult rawResultBytes now env host),
        (ofResult .resumed (resume crates registry brokerResult rawResultBytes now env (s, host))).1⟩
      (ofResult .resumed (resume crates registry brokerResult rawResultBytes now env (s, host))).2 := by
  have hadmit := admitResume_ends registry now env s host
  unfold resume delivers
  simp only
  cases h : admitResume registry now env (s, host) with
  | error e u =>
    rw [h] at hadmit
    rw [bind_of_error h]
    rcases hadmit with hu | ⟨hu, hnot⟩
    · change Served s ⟨_, false, .refused e⟩ u.1
      rw [hu]
      exact served_closed rfl nofun
    · change Served s ⟨_, false, .refused e⟩ u.1
      rw [hu]
      exact served_refused e (hnot.not_findsOver rfl)
  | ok a u =>
    rw [h] at hadmit
    obtain ⟨hu, hwaiting, hopen, hnot⟩ := hadmit
    rw [bind_of_ok h]
    refine served_of_ends ((deliver_ends crates brokerResult rawResultBytes env u).mono ?_ ?_)
    · intro step v haccept
      obtain ⟨hfixed, hterminal, hwaits, hnames⟩ := acceptStep_ok haccept
      rw [hu] at hfixed hterminal hnames
      refine ⟨Fixed.trans (t := { s with waitingForBroker := false }) rfl hfixed, ?_, ?_, ?_, ?_, fun _ => hwaiting, ?_⟩
      · rintro (h | h | h)
        · cases h
        · cases h
        · exact absurd h (hnot.not_findsOver rfl)
      · intro hclosed
        cases hopen.symm.trans hclosed
      · exact nofun
      · rintro _ ⟨rfl⟩
        exact hnames
      · intro hv
        exact Or.inr ⟨step, hwaits.symm.trans hv, rfl⟩
    · intro e v hv
      rw [hv, hu]
      refine ⟨rfl, ?_, ?_, ?_, ?_, fun _ => hwaiting, ?_⟩
      · rintro (h | h | h)
        · cases h
        · cases h
        · exact absurd h (hnot.not_findsOver rfl)
      · intro hclosed
        cases hopen.symm.trans hclosed
      · exact nofun
      · exact nofun
      · exact nofun

section Runs

variable {F : Type} [LinearOrder F] (num : Numbers F) (crates : WasmCrates)

theorem step_served (s : ContributionCallSession) (call : SessionCall) :
    Served s (s.event num crates call) (s.step num crates call) := by
  cases call with
  | resume registry brokerResult rawResultBytes now env host =>
    exact resume_served crates s registry brokerResult rawResultBytes now env host
  | finish registry step now env host => exact served_of_ends (finish_served num crates s registry step now env host)
  | cancel env host => exact served_of_ends (cancel_served s env host)
  | invalidateBeforePublish => exact served_closed rfl nofun

/-! ## Runs -/

theorem Fixed.closes {e : SessionEvent} (hfixed : Fixed s t) (h : e.Closes s) : e.Closes t := by
  rcases h with h | h | ⟨registry, now, host, hpassed, hover⟩
  · exact Or.inl h
  · exact Or.inr (Or.inl h)
  · refine Or.inr (Or.inr ⟨registry, now, host, hpassed, ?_⟩)
    rw [hfixed.deadlineMillis, hfixed.identity, hfixed.isRouted]
    exact hover

/-- What a session remembers of the calls on it: whether one of them has closed it, and whether a request waits. -/
structure Remembers (start : ContributionCallSession) (first : GuestStep) (events : List SessionEvent)
    (s : ContributionCallSession) : Prop where
  fixed : Fixed start s
  closed : (∃ e ∈ events, e.Closes start) → s.terminal = true
  waits : s.waitingForBroker = true → ∃ step : GuestStep, step.isRequest = true ∧
    (.accepted first :: events.flatMap (·.exchanges)).getLast? = some (.accepted step)

theorem Served.remembers {start : ContributionCallSession} {first : GuestStep} {events : List SessionEvent} {e : SessionEvent}
    (hserved : Served s e t) (h : Remembers start first events s) : Remembers start first (events ++ [e]) t := by
  refine ⟨h.fixed.trans hserved.fixed, ?_, ?_⟩
  · rintro ⟨e', hmem, hcloses⟩
    rcases List.mem_append.mp hmem with hmem | hmem
    · exact (hserved.stays (h.closed ⟨e', hmem, hcloses⟩)).1
    · obtain rfl := List.mem_singleton.mp hmem
      exact hserved.closes (h.fixed.closes hcloses)
  · intro hwaits
    rw [List.flatMap_append, List.flatMap_singleton, ← List.cons_append]
    rcases hserved.waits hwaits with ⟨hnone, hwaiting⟩ | ⟨step, hrequest, hlast⟩
    · rw [hnone, List.append_nil]
      exact h.waits hwaiting
    · refine ⟨step, hrequest, ?_⟩
      rw [List.getLast?_append, hlast]
      rfl

theorem remembers_run {start : ContributionCallSession} {first : GuestStep} (hstart : Remembers start first [] start)
    (trace : List SessionCall) :
    Remembers start first (Run.outputs (step num crates) (event num crates) start trace)
      (Run.after (step num crates) start trace) := by
  induction trace using List.reverseRecOn with
  | nil => exact hstart
  | append_singleton trace call ih =>
    rw [Run.outputs_append, Run.after_append]
    exact (step_served num crates _ call).remembers ih

/-- There is no outcome after the end of a call. -/
theorem no_outcome_of_terminal (hterminal : s.terminal = true) (trace : List SessionCall) :
    (Run.outputs (step num crates) (event num crates) s trace).countP (·.isOutcome) = 0 := by
  induction trace generalizing s with
  | nil => rfl
  | cons call trace ih =>
    obtain ⟨hnext, hnone⟩ := (step_served num crates s call).stays hterminal
    rw [Run.outputs, List.countP_cons_of_neg (by rw [hnone]; exact Bool.false_ne_true)]
    exact ih hnext

theorem one_outcome_run (s : ContributionCallSession) (trace : List SessionCall) :
    (Run.outputs (step num crates) (event num crates) s trace).countP (·.isOutcome) ≤ 1 := by
  induction trace generalizing s with
  | nil => exact Nat.zero_le 1
  | cons call trace ih =>
    rw [Run.outputs, List.countP_cons]
    split
    · next houtcome =>
      have hclosed := (step_served num crates s call).closes (Or.inl houtcome)
      rw [no_outcome_of_terminal num crates hclosed trace]
    · exact ih _

theorem sessionSafe_run {start : ContributionCallSession} {first : GuestStep} (hstart : Remembers start first [] start)
    (hfirst : first.NamesSupplied start.suppliedHandles) (trace : List SessionCall) :
    SessionSafe start first (Run.outputs (step num crates) (event num crates) start trace) := by
  refine ⟨one_outcome_run num crates start trace, ?_, ?_, ?_, ?_⟩
  · intro e hmem houtcome
    obtain ⟨before, rest, hsplit⟩ := List.append_of_mem hmem
    obtain ⟨t₁, call, -, -, -, rfl, -⟩ := Run.outputs_eq_append _ hsplit
    have hfixed := (remembers_run num crates hstart t₁).fixed
    obtain ⟨registry, now, host, hpassed, htime, hcurrent, hrouted⟩ := (step_served num crates _ call).live houtcome
    rw [hfixed.deadlineMillis] at htime
    rw [hfixed.identity] at hcurrent
    rw [hfixed.isRouted] at hrouted
    exact ⟨registry, now, host, hpassed, htime, hcurrent, hrouted⟩
  · intro before e rest hsplit houtcome e' hmem hcloses
    obtain ⟨t₁, call, -, -, rfl, rfl, -⟩ := Run.outputs_eq_append _ hsplit
    have hterminal := (remembers_run num crates hstart t₁).closed ⟨e', hmem, hcloses⟩
    cases ((step_served num crates _ call).stays hterminal).2.symm.trans houtcome
  · rintro step (rfl | ⟨e, hmem, hresumed⟩)
    · exact hfirst
    · obtain ⟨before, rest, hsplit⟩ := List.append_of_mem hmem
      obtain ⟨t₁, call, -, -, -, rfl, -⟩ := Run.outputs_eq_append _ hsplit
      have hnames := (step_served num crates _ call).names step hresumed
      rw [(remembers_run num crates hstart t₁).fixed.suppliedHandles] at hnames
      exact hnames
  · intro before e rest hsplit hdelivered
    obtain ⟨t₁, call, -, -, rfl, rfl, -⟩ := Run.outputs_eq_append _ hsplit
    exact (remembers_run num crates hstart t₁).waits ((step_served num crates _ call).delivered hdelivered)

/-! ## Admission -/

/-- What an admission has found: the record of the contribution, at the host that is passed to it. -/
theorem admission_ok {request : ContributionCallRequest} {record : ContributionRecord} {outputSchema : BoundedJsonSchema}
    (h : admission num crates registry request host = .ok (record, outputSchema)) :
    registry.get request.projectId request.contributionId = some record ∧ isCurrentHost record.identity host = true := by
  unfold admission at h
  obtain ⟨_, -, h⟩ := bind_eq_ok h
  obtain ⟨record', hrecord, h⟩ := bind_eq_ok h
  obtain ⟨_, -, h⟩ := bind_eq_ok h
  obtain ⟨_, hcurrent, h⟩ := bind_eq_ok h
  obtain ⟨_, -, h⟩ := bind_eq_ok h
  obtain ⟨_, -, h⟩ := bind_eq_ok h
  obtain ⟨_, -, h⟩ := bind_eq_ok h
  obtain ⟨_, -, h⟩ := bind_eq_ok h
  cases h
  exact ⟨orCallError_ok hrecord, ensureCall_ok hcurrent⟩

/-- The record of an admission is the route of its session. -/
theorem isRouted_opened {request : ContributionCallRequest} {record : ContributionRecord}
    (hrecord : registry.get request.projectId request.contributionId = some record) (outputSchema : BoundedJsonSchema)
    (requestId : HostRequestId) (callId : String) (deadlineMillis : Nat) :
    (opened record outputSchema request requestId callId deadlineMillis).isRouted registry = true := by
  have hkey := registry.keyed _ (OrdMap.mem_of_get hrecord)
  have hproject : record.projectId = request.projectId := (congrArg (fun key => (ofLex key).1) hkey).symm
  have hget : registry.get (opened record outputSchema request requestId callId deadlineMillis).identity.projectId
      (opened record outputSchema request requestId callId deadlineMillis).contributionId = some record := by
    change registry.get record.projectId request.contributionId = some record
    rw [hproject, hrecord]
  unfold isRouted
  rw [hget]
  simp [opened, ContributionRecord.identity]

theorem begin_ok {request : ContributionCallRequest} {first : GuestStep} {host' : WasmPluginHost}
    (h : begin num crates registry request now env host = .ok (s, first) host') :
    ∃ record outputSchema s₀, admission num crates registry request host = .ok (record, outputSchema) ∧
      s₀ = opened record outputSchema request env.requestId first.callId (now + contributionCallDeadlineMillis) ∧
      s₀.acceptStep first = .ok s := by
  unfold begin at h
  split at h
  · cases h
  · next record outputSchema hadmit =>
    split at h
    · cases h
    · split at h
      · cases h
      · next step host₁ hbegin =>
        simp only at h
        have hends := takeStep_ends env step
          (opened record outputSchema request env.requestId step.callId (now + contributionCallDeadlineMillis), host₁)
        split at h
        · next step' u htake =>
          rw [htake] at hends
          obtain ⟨rfl, haccept⟩ := hends
          cases h
          exact ⟨record, outputSchema, _, hadmit, rfl, haccept⟩
        · cases h

end Runs

end ContributionCallAux

/-! ## The theorem -/

open ContributionCallAux in
/-- A call that was admitted: whatever guest, clock, store and host do between and during the calls on its session, at most one of
them returns an outcome, none after the deadline, while the route of the contribution is another one or after a withdrawal; a
broker request has the handle that was supplied for its permission; and a result reaches the guest only for a request that was
accepted last and is not answered. -/
theorem contribution_call_safe {F : Type} [LinearOrder F] (num : Numbers F) (crates : WasmCrates) (registry : ContributionStore)
    (request : ContributionCallRequest) (now : Nat) (env : CallEnv) (host host' : WasmPluginHost) (s : ContributionCallSession)
    (first : GuestStep) (hbegin : ContributionCallSession.begin num crates registry request now env host = .ok (s, first) host')
    (trace : List SessionCall) :
    s.deadlineMillis = now + contributionCallDeadlineMillis ∧ s.suppliedHandles = request.suppliedHandles ∧
      isCurrentHost s.identity host = true ∧ s.isRouted registry = true ∧
      SessionSafe s first (Run.outputs (ContributionCallSession.step num crates) (ContributionCallSession.event num crates) s trace)
    := by
  obtain ⟨record, outputSchema, _, hadmit, rfl, haccept⟩ := begin_ok num crates hbegin
  obtain ⟨hrecord, hcurrent⟩ := admission_ok num crates hadmit
  obtain ⟨hfixed, -, hwaits, hnames⟩ := acceptStep_ok haccept
  have hstart : Remembers s first [] s := by
    refine ⟨rfl, ?_, ?_⟩
    · rintro ⟨_, hmem, _⟩
      cases hmem
    · exact fun hwaiting => ⟨first, hwaits.symm.trans hwaiting, rfl⟩
  refine ⟨hfixed.deadlineMillis, hfixed.suppliedHandles, ?_, ?_, ?_⟩
  · rw [hfixed.identity]
    exact hcurrent
  · rw [hfixed.isRouted]
    exact isRouted_opened hrecord outputSchema env.requestId first.callId _
  · refine sessionSafe_run num crates hstart ?_ trace
    rw [hfixed.suppliedHandles]
    exact hnames

/-! ## A call -/

namespace SampleCall

open SampleHost

def request : ContributionCallRequest where
  projectId := SampleContribution.identity.projectId
  contributionId := SampleContribution.declaration.id
  origin := .userCommand
  input := .obj []
  suppliedHandles := ⟨[("project.fs.read", handleId)], List.pairwise_singleton _ _⟩

/-- An active host of the instance that has published the tool, with room for the envelope of a call. -/
def host : WasmPluginHost :=
  let identity : WasmHostIdentity :=
    { projectId := SampleContribution.identity.projectId
      pluginId := SampleContribution.identity.pluginId
      packageDigest := SampleContribution.identity.packageDigest
      activationGeneration := SampleContribution.identity.activationGeneration
      hostInstanceId := SampleContribution.identity.hostInstanceId }
  Run.after (WasmPluginHost.step crates) (WasmPluginHost.fromRuntime identity ⟨true, []⟩)
    [frame (.hello 1), (.handleFrame ⟨"instance.1", .activate⟩, quiet 0 (List.replicate 1024 0))]

def env (text : String) : CallEnv := ⟨replies text, succeeds, "request.1"⟩

def begun : EStateM.Result ContributionCallError WasmPluginHost (ContributionCallSession × GuestStep) :=
  ContributionCallSession.begin SampleSchema.integers crates SampleContribution.published request 1000 (env requestText) host

/-- The result of the broker, the outcome, and the same outcome again. -/
def calls : List SessionCall :=
  [.resume SampleContribution.published (.obj []) 2 2000 (env completeText) (final begun),
    .finish SampleContribution.published (.complete "call.000000000000002a" (.obj [])) 3000 (env completeText) host,
    .finish SampleContribution.published (.complete "call.000000000000002a" (.obj [])) 3000 (env completeText) host]

def events (s : ContributionCallSession) : List SessionEvent :=
  Run.outputs (ContributionCallSession.step SampleSchema.integers crates)
    (ContributionCallSession.event SampleSchema.integers crates) s calls

/-- The session of a call that was admitted. -/
def sessionOf : EStateM.Result ContributionCallError WasmPluginHost (ContributionCallSession × GuestStep) →
    Option ContributionCallSession
  | .ok (s, _) _ => some s
  | .error _ _ => none

end SampleCall

open SampleCall in
/-- The sample comes to one outcome, and its calls are safe. -/
theorem sample_call_is_safe :
    ∃ s first host', begun = .ok (s, first) host' ∧ (events s).countP (·.isOutcome) = 1 ∧ SessionSafe s first (events s) := by
  have hcount : (sessionOf begun).map (fun s => (events s).countP (·.isOutcome)) = some 1 := by decide +kernel
  obtain ⟨s, first, host', hbegun⟩ : ∃ s first host', begun = .ok (s, first) host' := by
    generalize begun = result at hcount
    cases result with
    | error e host' => cases hcount
    | ok r host' => exact ⟨r.1, r.2, host', rfl⟩
  rw [hbegun] at hcount
  have hsafe := contribution_call_safe SampleSchema.integers SampleHost.crates SampleContribution.published request 1000
    (env SampleHost.requestText) host host' s first hbegun calls
  exact ⟨s, first, host', hbegun, Option.some.inj hcount, hsafe.2.2.2.2⟩

end Rho
