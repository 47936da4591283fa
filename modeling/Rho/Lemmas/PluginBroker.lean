import Rho.Desktop.PluginCalls
import Rho.Theorems.ContributionCall
import Rho.Theorems.Grant

/-!
# What an access of a broker call leaves

What each access of a call does to the grants that are in flight and to the calls that are pending at the hosts, whichever way it
ends. A call has at most one handle admitted and one request pending; every lemma says which of the two are left.
-/

namespace Rho.PluginBroker

open Effect PluginPermission WasmPluginHost WasmHostAux

/-! ## Hosts -/

section Hosts

variable {h : WasmPluginHost} {crates : WasmCrates} {env : HostEnv} {requestId : HostRequestId}

/-- A sound host of the same instance. -/
structure SameHost (h t : WasmPluginHost) : Prop where
  sound : HostSound t
  identity : t.identity = h.identity

theorem SameHost.trans {t u : WasmPluginHost} (h₁ : SameHost h t) (h₂ : SameHost t u) : SameHost h u :=
  ⟨h₂.sound, h₂.identity.trans h₁.identity⟩

/-- An operation that ends in one of its ways and keeps the identity. -/
theorem sameHost_ends {α : Type} {op : HostOp} {x : HostM α} {P : α → WasmPluginHost → Prop}
    {R : HostProtocolError → WasmPluginHost → Prop} (hsound : HostSound h) (hidentity : Keeps WasmPluginHost.identity x)
    (hends : Ends (fun a t => HostEnd crates op env h t ∧ P a t) (fun e t => HostEnd crates op env h t ∧ R e t) (x h)) :
    Ends (fun a t => SameHost h t ∧ P a t) (fun e t => SameHost h t ∧ R e t) (x h) :=
  (hends.and (ends_of_keeps hidentity h)).mono (fun _ _ h => ⟨⟨h.1.1.sound hsound, h.2⟩, h.1.2⟩)
    fun _ _ h => ⟨⟨h.1.1.sound hsound, h.2⟩, h.1.2⟩

theorem beginBounded_host (hsound : HostSound h) (hidle : h.brokerCall = none) (request : Json) (op : HostOp)
    (maximumInputBytes maximumReturnBytes : Nat)
    (hgood : StepReply crates env (callIdOf env.nextCallId) maximumReturnBytes (fun _ _ => True) → op.GoodReply crates env h) :
    Ends (fun step t => SameHost h t ∧ Pends requestId 1 step t) (fun _ t => SameHost h t ∧ t.brokerCall = none)
      (beginBrokerCallBounded crates env requestId request maximumInputBytes maximumReturnBytes h) :=
  (sameHost_ends hsound (identity_beginBounded crates env requestId request _ _)
    (beginBounded_ends hsound requestId request _ _ hgood)).onError fun _ _ h => ⟨h.1, h.2 hidle⟩

variable (crates env requestId) in
theorem beginBrokerCall_host (hsound : HostSound h) (hidle : h.brokerCall = none) (request : Json) :
    Ends (fun step t => SameHost h t ∧ Pends requestId 1 step t) (fun _ t => SameHost h t ∧ t.brokerCall = none)
      (beginBrokerCall crates env requestId request h) :=
  beginBounded_host hsound hidle request (.beginBrokerCall requestId request) _ _ id

variable (crates env requestId) in
theorem beginContributionCall_host (hsound : HostSound h) (hidle : h.brokerCall = none) (request : Json) :
    Ends (fun step t => SameHost h t ∧ Pends requestId 1 step t) (fun _ t => SameHost h t ∧ t.brokerCall = none)
      (beginContributionCall crates env requestId request h) :=
  beginBounded_host hsound hidle request (.beginContributionCall requestId request) _ _ id

/-- What a resumption that succeeds has found, and what it leaves. -/
def Advances (requestId : HostRequestId) (h : WasmPluginHost) (step : GuestStep) (t : WasmPluginHost) : Prop :=
  ∃ call, h.brokerCall = some call ∧ call.requestId = requestId ∧ call.steps < maxGuestBrokerSteps ∧
    Pends requestId (call.steps + 1) step t

theorem resumeBounded_host (hsound : HostSound h) (result : Json) (bytes : Nat) (op : HostOp) (maximumReturnBytes : Nat)
    (hresume : op.isResume = true) (hgood : ∀ call, h.brokerCall = some call → StepReply crates env call.callId maximumReturnBytes
      (fun encoded step => repeats (crates.sha256 encoded) call.lastStepDigest step = false) → op.GoodReply crates env h) :
    Ends (fun step t => SameHost h t ∧ Advances requestId h step t) (fun _ t => SameHost h t ∧ t.brokerCall = none)
      (resumeBrokerCallBounded crates env requestId result bytes maximumReturnBytes h) :=
  (sameHost_ends hsound (identity_resumeBounded crates env requestId result bytes _)
    (resumeBounded_ends hsound requestId result bytes _ hresume hgood)).mono (fun _ _ h => ⟨h.1, h.2.2⟩) fun _ _ h => h

variable (crates env requestId) in
theorem resumeBrokerCall_host (hsound : HostSound h) (result : Json) (bytes : Nat) :
    Ends (fun step t => SameHost h t ∧ Advances requestId h step t) (fun _ t => SameHost h t ∧ t.brokerCall = none)
      (resumeBrokerCall crates env requestId result bytes h) :=
  resumeBounded_host hsound result bytes (.resumeBrokerCall requestId result bytes) _ rfl fun call hcall hreply => ⟨call, hcall, hreply⟩

variable (crates env requestId) in
theorem resumeContributionCall_host (hsound : HostSound h) (result : Json) (bytes : Nat) :
    Ends (fun step t => SameHost h t ∧ Advances requestId h step t) (fun _ t => SameHost h t ∧ t.brokerCall = none)
      (resumeContributionCall crates env requestId result bytes h) :=
  resumeBounded_host hsound result bytes (.resumeContributionCall requestId result bytes) _ rfl fun call hcall hreply => ⟨call, hcall, hreply⟩

theorem cancelBrokerCall_host (env : HostEnv) (requestId : HostRequestId) (hsound : HostSound h) :
    SameHost h (final (cancelBrokerCall env requestId h)) := by
  let crates : WasmCrates := ⟨fun _ => [], fun _ => none, id⟩
  have hends : OpEnds crates _ env h (cancelBrokerCall env requestId h) := cancelBrokerCall_ends hsound requestId
  exact ⟨(final_of_ends (P := HostEnd crates _ env h) hends).sound hsound, identity_cancelBrokerCall env requestId h⟩

variable (env) in
/-- The handshake and the activation begin no call. -/
theorem hello_idle (instanceId : HostInstanceId) (version : Nat) (hidle : h.brokerCall = none) :
    Ends (fun _ t => t.brokerCall = none) (fun _ _ => True) (handleFrame env ⟨instanceId, .hello version⟩ h) := by
  unfold handleFrame hello
  refine ends_get ?_
  split
  · trivial
  split
  · trivial
  dsimp only
  refine ends_get ?_
  split
  · trivial
  split
  · trivial
  exact hidle

variable (env) in
theorem activate_idle (hsound : HostSound h) (instanceId : HostInstanceId) (hidle : h.brokerCall = none) :
    Ends (fun _ t => t.brokerCall = none) (fun _ _ => True) (handleFrame env ⟨instanceId, .activate⟩ h) := by
  unfold handleFrame activate
  refine ends_get ?_
  split
  · trivial
  split
  · trivial
  dsimp only
  refine ends_get ?_
  split
  · trivial
  · next hguard =>
    have hready : h.state = .ready := Decidable.not_not.mp (not_or.mp hguard).1
    refine statusCall_ends false (hsound.runtime_iff.mpr (Or.inr (Or.inl hready))) (fun _ _ _ => trivial) ?_
    intro t hmid _
    exact hmid.brokerCall.trans hidle

/-- A host that has been started is sound and has no call. -/
theorem startHost_idle {m : Moment} {c : Candidate} (hstart : startHost m c = some h) : HostSound h ∧ h.brokerCall = none := by
  unfold startHost at hstart
  have hnew := sound_fromRuntime c.identity c.runtime
  have hcrates : WasmCrates := ⟨fun _ => [], fun _ => none, id⟩
  have hends : OpEnds hcrates _ _ _ (handleFrame m.env.operation _ _) :=
    handleFrame_ends hnew ⟨c.identity.hostInstanceId, .hello hostProtocolVersion⟩
  have hfirst := hello_idle m.env.operation c.identity.hostInstanceId hostProtocolVersion
    (show (fromRuntime c.identity c.runtime).brokerCall = none from rfl)
  split at hstart
  · next host hhello =>
    rw [hhello] at hends hfirst
    have hsound : HostSound host := hends.sound hnew
    have hends' : OpEnds hcrates _ _ _ (handleFrame m.env.operation _ _) :=
      handleFrame_ends hsound ⟨c.identity.hostInstanceId, .activate⟩
    have hsecond := activate_idle m.env.operation hsound c.identity.hostInstanceId hfirst
    split at hstart
    · next host' hactivate =>
      rw [hactivate] at hends' hsecond
      cases hstart
      exact ⟨hends'.sound hsound, hsecond⟩
    · cases hstart
    · cases hstart
  · cases hstart
  · cases hstart

end Hosts

/-! ## Sessions -/

section Sessions

open ContributionCallAux

variable {F : Type} [LinearOrder F] {num : Numbers F} {crates : WasmCrates} {s : ContributionCallSession} {h : WasmPluginHost}

/-- The session's request at a host: every call that is pending there is the session's. -/
def Requests (s : ContributionCallSession) (h : WasmPluginHost) : Prop := ∀ call, h.brokerCall = some call → call.requestId = s.requestId

theorem requests_of_pends {steps : Nat} {step : GuestStep} (hpends : Pends s.requestId steps step h) : Requests s h := by
  intro call hcall
  unfold Pends at hpends
  split at hpends
  · cases hcall.symm.trans hpends
  · obtain ⟨call', hcall', hid, -⟩ := hpends
    cases hcall.symm.trans hcall'
    exact hid

/-- A cancellation leaves the session as it was, and a host without a call. -/
theorem cancelOnHost_host (env : CallEnv) (hsound : HostSound h) (hrequest : Requests s h) :
    Ends (fun _ u => u.1 = s ∧ SameHost h u.2 ∧ u.2.brokerCall = none) (fun _ _ => False)
      (Rho.ContributionCallSession.cancelOnHost env (s, h)) := by
  have hhost := cancelBrokerCall_host env.cancellation s.requestId hsound
  have hidle := cancelBrokerCall_idle env.cancellation hsound s.requestId hrequest
  unfold Rho.ContributionCallSession.cancelOnHost
  refine ends_get ?_
  unfold Rho.ContributionCallSession.onHost
  dsimp only
  cases hcancel : cancelBrokerCall env.cancellation s.requestId h with
  | ok result t =>
    rw [hcancel] at hhost hidle
    exact ⟨rfl, hhost, hidle⟩
  | error e t =>
    rw [hcancel] at hhost hidle
    exact ⟨rfl, hhost, hidle⟩

/-- A step that the session does not take is the end of its call at the host. -/
theorem takeStep_host (env : CallEnv) (step : GuestStep) (hsound : HostSound h) (hrequest : Requests s h) :
    Ends (fun a u => a = step ∧ (Fixed s u.1 ∧ u.1.terminal = s.terminal) ∧ u.2 = h) (fun _ u => u.1 = s ∧ SameHost h u.2 ∧ u.2.brokerCall = none)
      (Rho.ContributionCallSession.takeStep env step (s, h)) := by
  unfold Rho.ContributionCallSession.takeStep
  refine ends_get ?_
  dsimp only
  cases haccept : s.acceptStep step with
  | ok t =>
    obtain ⟨hfixed, hterminal, -⟩ := acceptStep_ok haccept
    exact ⟨rfl, ⟨hfixed, hterminal⟩, rfl⟩
  | error e =>
    refine ends_certain (cancelOnHost_host env hsound hrequest) ?_
    intro _ u hu
    exact hu

theorem abandon_host (env : CallEnv) (error : ContributionCallError) (hsound : HostSound h) (hrequest : Requests s h) :
    Ends (fun _ _ => False) (fun _ u => SameHost h u.2 ∧ u.2.brokerCall = none)
      (Rho.ContributionCallSession.abandon env error (s, h)) := by
  unfold Rho.ContributionCallSession.abandon
  refine ends_certain (cancelOnHost_host env hsound hrequest) ?_
  intro _ u hu
  exact hu.2

/-- The host after a refusal: it has no call, or it is as it was. -/
def Refused (h t : WasmPluginHost) : Prop := SameHost h t ∧ (t.brokerCall = none ∨ t = h)

theorem Refused.same (hsound : HostSound h) : Refused h h := ⟨⟨hsound, rfl⟩, Or.inr rfl⟩

theorem ensureLive_host (registry : ContributionStore) (now : Nat) (env : CallEnv) (hsound : HostSound h) (hrequest : Requests s h) :
    Ends (fun _ u => u = (s, h)) (fun _ u => Refused h u.2) (Rho.ContributionCallSession.ensureLive registry now env (s, h)) := by
  have habandon : ∀ error, Ends (fun _ u => u = (s, h)) (fun _ u => Refused h u.2)
      (Rho.ContributionCallSession.abandon env error (s, h)) := fun error =>
    (abandon_host env error hsound hrequest).mono (fun _ _ h => h.elim) fun _ _ h => ⟨h.1, Or.inl h.2⟩
  unfold Rho.ContributionCallSession.ensureLive
  refine ends_get ?_
  split
  · exact habandon _
  · refine ends_ofResult_bind (fun _ _ => .same hsound) fun _ _ => ?_
    split
    · exact habandon _
    · exact rfl

variable (num crates) in
/-- A session that has begun at a host without a call is open, and has the identity of its contribution's record. -/
theorem begin_host (registry : ContributionStore) (request : ContributionCallRequest) (now : Nat) (env : CallEnv)
    (hsound : HostSound h) (hidle : h.brokerCall = none) : Ends
      (fun r t => SameHost h t ∧ Pends r.1.requestId 1 r.2 t ∧ r.1.terminal = false ∧ isCurrentHost r.1.identity h = true ∧
        ∃ record, registry.get request.projectId request.contributionId = some record ∧ r.1.identity = record.identity)
      (fun _ t => SameHost h t ∧ t.brokerCall = none) (Rho.ContributionCallSession.begin num crates registry request now env h) := by
  have hsame : SameHost h h ∧ h.brokerCall = none := ⟨⟨hsound, rfl⟩, hidle⟩
  unfold Rho.ContributionCallSession.begin
  generalize now + contributionCallDeadlineMillis = deadline
  cases hadmit : admission num crates registry request h with
  | error e => exact hsame
  | ok admitted =>
    obtain ⟨record, outputSchema⟩ := admitted
    have hadmitted := admission_ok num crates hadmit
    dsimp only
    split
    · exact hsame
    have hbegin := beginContributionCall_host crates env.operation env.requestId hsound hidle
      (Rho.ContributionCallSession.envelope record request)
    cases hresult : beginContributionCall crates env.operation env.requestId (Rho.ContributionCallSession.envelope record request) h with
    | error e t =>
      rw [hresult] at hbegin
      exact hbegin
    | ok step t =>
      rw [hresult] at hbegin
      obtain ⟨hhost, hpends⟩ := hbegin
      have htake := takeStep_host (s := Rho.ContributionCallSession.opened record outputSchema request env.requestId step.callId
        deadline) env step hhost.sound (requests_of_pends hpends)
      dsimp only
      split
      · next step' u hstep =>
        rw [hstep] at htake
        obtain ⟨rfl, ⟨hfixed, hterminal⟩, hu⟩ := htake
        have hidentity : u.1.identity = record.identity := by rw [hfixed]; rfl
        have hid : u.1.requestId = env.requestId := by rw [hfixed]; rfl
        refine ⟨hu ▸ hhost, ?_, hterminal, hidentity ▸ hadmitted.2, record, hadmitted.1, hidentity⟩
        rw [hu, hid]
        exact hpends
      · next e u hstep =>
        rw [hstep] at htake
        exact ⟨hhost.trans htake.2.1, htake.2.2⟩

variable (crates) in
/-- A resumption takes the session's call one step further, or is refused. -/
theorem resume_host (registry : ContributionStore) (result : Json) (bytes now : Nat) (env : CallEnv) (hsound : HostSound h)
    (hrequest : Requests s h) :
    Ends (fun step u => (Fixed s u.1 ∧ u.1.terminal = s.terminal) ∧ SameHost h u.2 ∧ Advances s.requestId h step u.2) (fun _ u => Refused h u.2)
      (Rho.ContributionCallSession.resume crates registry result bytes now env (s, h)) := by
  unfold Rho.ContributionCallSession.resume
  refine ends_bind (P := fun _ u => (Fixed s u.1 ∧ u.1.terminal = s.terminal) ∧ u.2 = h) ?_ ?_
  · unfold Rho.ContributionCallSession.admitResume
    refine ends_bind (ensureLive_host registry now env hsound hrequest) ?_
    rintro _ _ rfl
    refine ends_get ?_
    split
    · exact .same hsound
    · exact ⟨⟨rfl, rfl⟩, rfl⟩
  · rintro _ ⟨t, host⟩ ⟨⟨hfixed, hterminal⟩, hhost⟩
    change Fixed s t at hfixed
    change t.terminal = s.terminal at hterminal
    obtain rfl : host = h := hhost
    have hid : t.requestId = s.requestId := by rw [hfixed]
    unfold Rho.ContributionCallSession.deliver
    refine ends_get ?_
    unfold Rho.ContributionCallSession.onHost
    dsimp only
    have hresume := resumeContributionCall_host crates env.operation t.requestId hsound result bytes
    cases hresult : resumeContributionCall crates env.operation t.requestId result bytes host with
    | error e resumed =>
      rw [hresult] at hresume
      refine ends_bind (P := fun r u => (∃ e, r = .error e) ∧ u = (t, resumed)) (by rw [hresult]; exact ⟨⟨e, rfl⟩, rfl⟩) ?_
      rintro _ _ ⟨⟨_, rfl⟩, rfl⟩
      exact ⟨hresume.1, Or.inl hresume.2⟩
    | ok step resumed =>
      rw [hresult] at hresume
      obtain ⟨hhost, hadvances⟩ := hresume
      refine ends_bind (P := fun r u => r = .ok step ∧ u = (t, resumed)) (by rw [hresult]; exact ⟨rfl, rfl⟩) ?_
      rintro _ _ ⟨rfl, rfl⟩
      obtain ⟨call, hcall, hcallId, hsteps, hpends⟩ := hadvances
      refine (takeStep_host env step hhost.sound (requests_of_pends hpends)).mono ?_ ?_
      · rintro _ u ⟨rfl, ⟨hfixed', hterminal'⟩, hu⟩
        rw [hu]
        exact ⟨⟨hfixed.trans hfixed', hterminal'.trans hterminal⟩, hhost, call, hcall, hcallId.trans hid, hsteps, hid ▸ hpends⟩
      · rintro _ u ⟨-, hhost', hidle⟩
        exact ⟨hhost.trans hhost', Or.inl hidle⟩

variable (num crates s) in
/-- At a host without a call a session is finished and leaves it so. -/
theorem finish_host (registry : ContributionStore) (step : GuestStep) (now : Nat) (env : CallEnv) (hsound : HostSound h)
    (hidle : h.brokerCall = none) :
    Ends (fun _ u => SameHost h u.2 ∧ u.2.brokerCall = none) (fun _ u => SameHost h u.2 ∧ u.2.brokerCall = none)
      (Rho.ContributionCallSession.finish num crates registry step now env (s, h)) := by
  have hsame : SameHost h h ∧ h.brokerCall = none := ⟨⟨hsound, rfl⟩, hidle⟩
  unfold Rho.ContributionCallSession.finish
  refine ends_seq (ensureLive_host registry now env hsound fun _ hcall => by cases hidle.symm.trans hcall) ?_ ?_
  · rintro _ u ⟨hhost, hcall | rfl⟩
    · exact ⟨hhost, hcall⟩
    · exact ⟨hhost, hidle⟩
  · rintro _ _ rfl
    refine ends_get ?_
    split
    · exact hsame
    split
    · exact hsame
    cases step with
    | complete callId result =>
      dsimp only
      refine ends_bind (P := fun _ (u : ContributionCallSession × WasmPluginHost) => u.2 = h) rfl ?_
      rintro _ ⟨t, host⟩ hhost
      obtain rfl : host = h := hhost
      exact ends_bind (P := fun _ u => u = (t, host)) (ends_ofResult (fun _ _ => rfl) fun _ _ => hsame) fun _ _ hu => hu ▸ hsame
    | error callId code => exact hsame
    | brokerRequest callId handleId permission operation args => exact hsame

/-- A session that is cancelled leaves no call of its own. -/
theorem cancel_host (env : CallEnv) (hsound : HostSound h) (hopen : s.terminal = false) (hrequest : Requests s h) :
    SameHost h (final (Rho.ContributionCallSession.cancel env (s, h))).2 ∧
      (final (Rho.ContributionCallSession.cancel env (s, h))).2.brokerCall = none := by
  refine final_of_ends (P := fun (u : ContributionCallSession × WasmPluginHost) => SameHost h u.2 ∧ u.2.brokerCall = none) ?_
  unfold Rho.ContributionCallSession.cancel
  refine ends_get ?_
  dsimp only
  rw [hopen, if_neg Bool.false_ne_true]
  refine ends_certain (cancelOnHost_host env hsound hrequest) ?_
  rintro result u ⟨-, hu⟩
  cases result with
  | error e => exact hu
  | ok cancelled => exact hu

end Sessions

/-! ## Grants -/

section Grants

variable {s : GrantStore} {d : Option String}

/-- No handle is in flight but the one with this digest, which is of an `allow once` grant. -/
def ReservesOnly (s : GrantStore) (d : Option String) : Prop :=
  ∀ k g, s.grants.get k = some g → g.inFlight = true → d = some k ∧ g.grantSource = .allowOnce

theorem ReservesOnly.weaken (h : ReservesOnly s none) (d : Option String) : ReservesOnly s d := by
  intro k g hget hflight
  cases (h k g hget hflight).1

/-- What is in flight after an operation was so before, or has been admitted by it. -/
theorem ReservesOnly.step (h : ReservesOnly s d) (sha256 : String → String) (call : GrantCall) {k : String} {g : PluginGrant}
    (hget : (s.step sha256 call).grants.get k = some g) (hflight : g.inFlight = true) :
    (d = some k ∨ admits sha256 k (s.event sha256 call) = true) ∧ g.grantSource = .allowOnce := by
  have hmove : RowMove sha256 _ _ _ _ := rowMove_step s call k
  rw [hget] at hmove
  generalize hrow : s.grants.get k = row at hmove
  cases hmove with
  | kept => exact (h k g hrow hflight).imp Or.inl id
  | issued => cases hflight
  | revoked g' => exact (h k g' hrow hflight).imp Or.inl id
  | admitted g' hsource _ _ hadmits => exact ⟨Or.inr hadmits, hsource⟩
  | completed => cases hflight

/-- An operation that admits nothing. -/
theorem ReservesOnly.keep (h : ReservesOnly s d) (sha256 : String → String) (call : GrantCall)
    (hadmits : ∀ k, admits sha256 k (s.event sha256 call) = false) : ReservesOnly (s.step sha256 call) d := by
  intro k g hget hflight
  obtain ⟨hor, hsource⟩ := h.step sha256 call hget hflight
  rw [hadmits k] at hor
  exact ⟨hor.resolve_right Bool.false_ne_true, hsource⟩

theorem ReservesOnly.invalidateHost (h : ReservesOnly s d) (hostInstanceId : HostInstanceId) (now : Nat) :
    ReservesOnly (s.invalidateHost hostInstanceId now).2 d :=
  h.keep id ⟨now, .invalidateHost hostInstanceId⟩ fun _ => rfl

theorem ReservesOnly.revokeDurableGrant (h : ReservesOnly s d) (grantId : String) (now : Nat) :
    ReservesOnly (s.revokeDurableGrant grantId now).2 d :=
  h.keep id ⟨now, .revokeDurableGrant grantId⟩ fun _ => rfl

theorem ReservesOnly.grant (h : ReservesOnly s d) (sha256 : String → String) (request : GrantRequest) (now : Nat)
    (token : Vector UInt8 32) : ReservesOnly (s.grant sha256 request now token).2 d :=
  h.keep sha256 ⟨now, .grant request token⟩ fun _ => rfl

/-- An admission puts its handle in flight, and a refusal nothing. -/
theorem ReservesOnly.revalidate (h : ReservesOnly s none) (sha256 : String → String) (request : RevalidationRequest) (now : Nat) :
    ReservesOnly (s.revalidate sha256 request now).2 (some (sha256 request.handleId)) ∧
      ((s.revalidate sha256 request now).1 ≠ .allowed → ReservesOnly (s.revalidate sha256 request now).2 none) := by
  have hstep := fun k g => h.step sha256 ⟨now, .revalidate request⟩ (k := k) (g := g)
  have hevent : ∀ k, admits sha256 k (s.event sha256 ⟨now, .revalidate request⟩) = true →
      (s.revalidate sha256 request now).1 = .allowed ∧ sha256 request.handleId = k := by
    intro k hadmits
    unfold GrantStore.event GrantStore.serve at hadmits
    dsimp only [Prod.map] at hadmits
    cases houtcome : (s.revalidate sha256 request now).1 with
    | denied error =>
      rw [houtcome] at hadmits
      cases hadmits
    | allowed =>
      rw [houtcome] at hadmits
      exact ⟨rfl, beq_iff_eq.mp hadmits⟩
  constructor
  · intro k g hget hflight
    obtain ⟨hor, hsource⟩ := hstep k g hget hflight
    have hadmits := hor.resolve_left nofun
    exact ⟨congrArg some (hevent k hadmits).2, hsource⟩
  · intro hdenied k g hget hflight
    obtain ⟨hor, -⟩ := hstep k g hget hflight
    exact absurd (hevent k (hor.resolve_left nofun)).1 hdenied

/-- A completion takes its handle back. -/
theorem ReservesOnly.complete {sha256 : String → String} {handleId : String} (h : ReservesOnly s (some (sha256 handleId)))
    (completion : CompletionClass) : ReservesOnly (s.complete sha256 handleId completion).2 none := by
  unfold GrantStore.complete
  cases hget : s.grants.get (sha256 handleId) with
  | none =>
    intro k g hget' hflight
    obtain ⟨⟨rfl⟩, -⟩ := h k g hget' hflight
    cases hget.symm.trans hget'
  | some g =>
    dsimp only
    split
    · next hnothing =>
      intro k g' hget' hflight
      obtain ⟨⟨rfl⟩, hsource⟩ := h k g' hget' hflight
      cases hget.symm.trans hget'
      rcases hnothing with hnot | hnot
      · exact absurd hsource hnot
      · cases hnot.symm.trans hflight
    · intro k g' hget' hflight
      rw [get_edit] at hget'
      split at hget'
      · obtain ⟨g'', -, rfl⟩ := Option.map_eq_some_iff.mp hget'
        cases hflight
      · next hkey =>
        obtain ⟨⟨rfl⟩, -⟩ := h k g' hget' hflight
        exact absurd rfl hkey

end Grants

/-! ## The registry -/

/-- A request of a guest that is to be answered: at which host, and with how many steps taken. -/
structure PendingCall where
  pluginId : String
  requestId : HostRequestId
  steps : Nat
  identity : WasmHostIdentity

/-- The request of a call. -/
def BrokerCall.pending (c : BrokerCall) (steps : Nat) (identity : WasmHostIdentity) : PendingCall :=
  ⟨c.pluginId, c.requestId, steps, identity⟩

/-- The call of a host is this one. -/
def PendingCall.IsAt (c : PendingCall) (pluginId : String) (h : WasmPluginHost) (call : GuestBrokerCallState) : Prop :=
  c.pluginId = pluginId ∧ call.requestId = c.requestId ∧ call.steps = c.steps ∧ h.identity = c.identity

/-- Which handle may be in flight and which request may be pending; every host is sound. -/
structure Broker.At (b : Broker) (d : Option String) (c : Option PendingCall) : Prop where
  reserves : ReservesOnly b.grants d
  sound : ∀ p a, b.active p = some a → HostSound a.host
  pending : ∀ p a call, b.active p = some a → a.host.brokerCall = some call → ∃ c' ∈ c, c'.IsAt p a.host call

section Registry

attribute [local irreducible] PermissionDb.recordCallEvent

variable {F : Type} {w : Surroundings F} {ctx : RuntimeContext} {b : Broker} {d : Option String} {c : Option PendingCall}

theorem Broker.At.idle {p : String} {a : Runtime} (h : b.At d none) (ha : b.active p = some a) : a.host.brokerCall = none := by
  cases hcall : a.host.brokerCall with
  | none => rfl
  | some call =>
    obtain ⟨c', hc', -⟩ := h.pending p a call ha hcall
    cases hc'

/-- Nothing of this is said about records and contributions. -/
theorem Broker.At.of_eq {b' : Broker} (h : b.At d c) (hactive : b'.active = b.active) (hgrants : b'.grants = b.grants) : b'.At d c := by
  obtain ⟨hreserves, hsound, hpending⟩ := h
  rw [← hactive] at hsound hpending
  rw [← hgrants] at hreserves
  exact ⟨hreserves, hsound, hpending⟩

theorem Broker.At.withGrants {d' : Option String} (h : b.At d c) {grants : GrantStore} (hgrants : ReservesOnly grants d') :
    ({ b with grants := grants } : Broker).At d' c :=
  ⟨hgrants, h.sound, h.pending⟩

theorem Broker.At.weaken (h : b.At none none) (d : Option String) (c : Option PendingCall) : b.At d c := by
  refine ⟨h.reserves.weaken d, h.sound, ?_⟩
  intro p a call ha hcall
  cases (h.idle ha).symm.trans hcall

/-- The request of a plugin that is not active is pending nowhere. -/
theorem Broker.At.gone {c : PendingCall} (h : b.At d (some c)) (hgone : b.active c.pluginId = none) : b.At d none := by
  refine ⟨h.reserves, h.sound, ?_⟩
  intro p a call ha hcall
  obtain ⟨c', ⟨rfl⟩, rfl, -⟩ := h.pending p a call ha hcall
  cases hgone.symm.trans ha

/-- What is active of one plugin changes; what was pending is kept or was pending there. -/
theorem Broker.At.update {c' : Option PendingCall} (h : b.At d c) (p : String) (r : Option Runtime)
    (hrest : c' = c ∨ ∀ c₀ ∈ c, c₀.pluginId = p)
    (hnew : ∀ a ∈ r, HostSound a.host ∧ ∀ call, a.host.brokerCall = some call → ∃ c₀ ∈ c', c₀.IsAt p a.host call) :
    ({ b with active := Function.update b.active p r } : Broker).At d c' := by
  refine ⟨h.reserves, ?_, ?_⟩
  · intro q a ha
    change Function.update b.active p r q = some a at ha
    by_cases hq : q = p
    · rw [hq, Function.update_self] at ha
      exact (hnew a ha).1
    · rw [Function.update_of_ne hq] at ha
      exact h.sound q a ha
  · intro q a call ha hcall
    change Function.update b.active p r q = some a at ha
    by_cases hq : q = p
    · subst hq
      rw [Function.update_self] at ha
      exact (hnew a ha).2 call hcall
    · rw [Function.update_of_ne hq] at ha
      obtain ⟨c₀, hc₀, hat⟩ := h.pending q a call ha hcall
      rcases hrest with rfl | hrest
      · exact ⟨c₀, hc₀, hat⟩
      · exact absurd (hat.1.symm.trans (hrest c₀ hc₀)) hq

/-- A runtime is removed, and what was pending at it with it. -/
theorem Broker.At.remove (h : b.At d c) (p : String) (now : Nat) :
    (b.removeActive p now).At d c ∧ (b.removeActive p now).active p = none := by
  unfold Broker.removeActive
  cases ha : b.active p with
  | none => exact ⟨h, ha⟩
  | some a =>
    have hupdate := h.update p none (Or.inl rfl) fun _ ha => by cases ha
    exact ⟨(hupdate.withGrants (h.reserves.invalidateHost a.host.identity.hostInstanceId now)).of_eq rfl rfl, Function.update_self _ _ _⟩

theorem Broker.At.removePending {c : PendingCall} (h : b.At d (some c)) (now : Nat) : (b.removeActive c.pluginId now).At d none := by
  obtain ⟨hat, hgone⟩ := h.remove c.pluginId now
  exact hat.gone hgone

/-! ## Users -/

variable (w ctx) in
theorem mintHandle_at (m : Moment) (candidate : Candidate) (request : GrantRequest) (token : Vector UInt8 32) (h : b.At d c) :
    (mintHandle w ctx m candidate request token b).2.At d c ∧ (mintHandle w ctx m candidate request token b).2.active = b.active := by
  have hgrant := h.reserves.grant w.sha256 request m.millis token
  unfold mintHandle
  cases hresult : b.grants.grant w.sha256 request m.millis token with
  | mk result grants =>
    rw [hresult] at hgrant
    cases result with
    | error e => exact ⟨h.withGrants (hgrant.invalidateHost _ _), rfl⟩
    | ok handle =>
      dsimp only
      split
      · exact ⟨h.withGrants (hgrant.invalidateHost _ _), rfl⟩
      · exact ⟨(h.withGrants hgrant).of_eq rfl rfl, rfl⟩

variable (w ctx) in
theorem mintHandles_at (m : Moment) (candidate : Candidate) (requests : List (GrantRequest × Vector UInt8 32)) (h : b.At d c) :
    (mintHandles w ctx m candidate requests b).2.At d c ∧ (mintHandles w ctx m candidate requests b).2.active = b.active := by
  induction requests generalizing b with
  | nil => exact ⟨h, rfl⟩
  | cons request requests ih =>
    obtain ⟨request, token⟩ := request
    have hmint := mintHandle_at w ctx m candidate request token h
    rw [mintHandles]
    cases hresult : mintHandle w ctx m candidate request token b with
    | mk handle b' =>
      rw [hresult] at hmint
      cases handle with
      | none => exact hmint
      | some handle =>
        obtain ⟨hat, hactive⟩ := ih hmint.1
        dsimp only
        cases hrest : mintHandles w ctx m candidate requests b' with
        | mk handles b'' =>
          rw [hrest] at hat hactive
          cases handles with
          | none => exact ⟨hat, hactive.trans hmint.2⟩
          | some handles => exact ⟨hat, hactive.trans hmint.2⟩

/-- A runtime becomes active without a call. -/
theorem enable_at (m : Moment) (p : String) (candidate : Candidate) (contributions : ContributionStore) (h : b.At d c) :
    (b.enable w ctx m p candidate contributions).At d c := by
  unfold Broker.enable
  split
  · next host hfree hstart =>
    obtain ⟨hsound, hidle⟩ := startHost_idle hstart
    have hmint := mintHandles_at w ctx m candidate candidate.minted h
    cases hresult : mintHandles w ctx m candidate candidate.minted b with
    | mk handles b' =>
      rw [hresult] at hmint
      cases handles with
      | none => exact hmint.1
      | some handles =>
        refine (hmint.1.update p _ (Or.inl rfl) ?_).of_eq rfl rfl
        rintro _ ⟨rfl⟩
        exact ⟨hsound, fun call hcall => by cases hidle.symm.trans hcall⟩
  · exact h

theorem apply_at (m : Moment) (action : UserAction) (h : b.At d c) : (UserAction.apply w ctx m b action).At d c := by
  cases action with
  | revokeDurable grantId =>
    unfold UserAction.apply
    dsimp only
    split
    · exact h.of_eq rfl rfl
    · exact h
  | revokeLive grantId =>
    refine ⟨h.reserves.revokeDurableGrant grantId m.millis, ?_, ?_⟩
    · intro p a ha
      obtain ⟨a', ha', rfl⟩ := Option.map_eq_some_iff.mp ha
      exact h.sound p a' ha'
    · intro p a call ha hcall
      obtain ⟨a', ha', rfl⟩ := Option.map_eq_some_iff.mp ha
      exact h.pending p a' call ha' hcall
  | disable pluginId => exact (h.remove pluginId m.millis).1
  | enable pluginId candidate contributions => exact enable_at m pluginId candidate contributions h

/-- Whatever a user does puts no handle in flight and begins no call. -/
theorem tick_at (h : b.At d c) : (b.tick w ctx).At d c := by
  unfold Broker.tick
  have hstart : ({ b with position := b.position + 1 } : Broker).At d c := h.of_eq rfl rfl
  generalize ({ b with position := b.position + 1 } : Broker) = start at hstart ⊢
  induction (w.moments b.position).actions generalizing start with
  | nil => exact hstart
  | cons action actions ih => exact ih _ (apply_at _ action hstart)

/-! ## Accesses -/

/-- A call that leaves with its things in order leaves no handle in flight and no request pending. -/
def LeftIdle : Exit → Broker → Prop
  | .failed _, b => b.At none none
  | .lapsed _, _ => True

theorem leftIdle_of_at {e : Exit} (h : b.At none none) : LeftIdle e b := by
  cases e with
  | failed message => exact h
  | lapsed message => trivial

/-- The request has been answered: the call is over, or the guest has made its next request. -/
def Answered (c : PendingCall) (step : GuestStep) (b : Broker) : Prop :=
  if step.isTerminal then b.At none none
  else c.steps < maxGuestBrokerSteps ∧ b.At none (some { c with steps := c.steps + 1 })

theorem ends_enter {α : Type} {f : Moment → BrokerM α} {Q : α → Broker → Prop} {E : Exit → Broker → Prop} (h : b.At d c)
    (hf : ∀ m b', b'.At d c → Ends Q E (f m b')) : Ends Q E ((enter w ctx >>= f) b) := by
  refine ends_bind (P := fun _ b' => b'.At d c) ?_ hf
  exact (tick_at h : (b.tick w ctx).At d c)

theorem openStore_at (h : b.At d c) : Ends (fun _ b' => b'.At d c) (fun e b' => b'.At d c ∧ LeftIdle e b') (openStore w ctx b) := by
  unfold openStore
  refine ends_enter h ?_
  intro m b' h'
  refine ends_attempt (fun _ => h') ?_
  intro e he
  obtain ⟨message, -, rfl⟩ := Option.map_eq_some_iff.mp he
  exact ⟨h', trivial⟩

theorem openStore_ends (h : b.At d c) : Ends (fun _ b' => b'.At d c) LeftIdle (openStore w ctx b) :=
  (openStore_at h).onError fun _ _ h => h.2

theorem recordEvent_ends (h : b.At d c) (pluginId packageDigest : String) (e : CallEvent) :
    Ends (fun _ b' => b'.At d c) (fun _ b' => b'.At d c) (recordEvent w ctx pluginId packageDigest e b) := by
  unfold recordEvent
  refine ends_enter h ?_
  intro m b' h'
  refine ends_bind (P := fun _ b' => b'.At d c) (ends_attempt (fun _ => h') fun _ _ => h') ?_
  intro _ b' h'
  refine ends_get ?_
  refine ends_bind (P := fun _ b' => b'.At d c) (ends_ofResult (fun _ _ => h') fun _ _ => h') ?_
  exact fun _ _ _ => h'.of_eq rfl rfl

theorem completeHandle_ends {handleId : String} (h : b.At (some (w.sha256 handleId)) c) (completion : CompletionClass) :
    Ends (fun _ b' => b'.At none c) (fun _ _ => False) (completeHandle w ctx handleId completion b) := by
  unfold completeHandle
  refine ends_enter h ?_
  exact fun _ b' h' => ends_modify (h'.withGrants (h'.reserves.complete completion))

/-- What was done for a request is put in order before its error is handed on. -/
theorem cleaning_ends {α : Type} {cleanup : BrokerM Unit} {x : BrokerM α} {Q : α → Broker → Prop} {R : Broker → Prop}
    (hx : Ends Q (fun _ b' => R b') (x b)) (hcleanup : ∀ b', R b' → Ends (fun _ b'' => b''.At none none) (fun _ _ => False) (cleanup b')) :
    Ends Q LeftIdle (cleaning cleanup x b) := by
  refine ends_handle hx (fun _ _ h => h) ?_
  intro e b' h
  refine ends_certain (hcleanup b' h) ?_
  exact fun _ _ h => leftIdle_of_at h

/-- An error that is handed on as it stands. -/
theorem bare_ends {α : Type} {x : BrokerM α} {Q : α → Broker → Prop} {E : Exit → Broker → Prop} (hx : Ends Q E (x b)) :
    Ends Q LeftIdle (bare x b) :=
  ends_handle hx (fun _ _ h => h) fun _ _ _ => trivial

/-! ## The pending request of a plugin -/

section Pending

variable {c : PendingCall}

variable {a : Runtime} {host : WasmPluginHost}

/-- The host at which a request may be pending, after an operation. -/
theorem Broker.At.putHost {c' : Option PendingCall} (h : b.At d (some c)) (hsound : HostSound host)
    (hpending : ∀ call, host.brokerCall = some call → ∃ c₀ ∈ c', c₀.IsAt c.pluginId host call) :
    (b.putHost c.pluginId a host).At d c' := by
  refine h.update c.pluginId _ (Or.inr ?_) ?_
  · rintro _ ⟨rfl⟩
    rfl
  · rintro _ ⟨rfl⟩
    exact ⟨hsound, hpending⟩

theorem Broker.At.putIdle (h : b.At d (some c)) (hsound : HostSound host)
    (hidle : host.brokerCall = none) : (b.putHost c.pluginId a host).At d none :=
  h.putHost hsound fun call hcall => by cases hidle.symm.trans hcall

/-- The call that is pending at the plugin's host. -/
theorem Broker.At.isAt {call : GuestBrokerCallState} (h : b.At d (some c)) (ha : b.active c.pluginId = some a)
    (hcall : a.host.brokerCall = some call) : c.IsAt c.pluginId a.host call := by
  obtain ⟨_, ⟨rfl⟩, hat⟩ := h.pending c.pluginId a call ha hcall
  exact hat

/-- The next step of a guest whose request was pending. -/
theorem Broker.At.answered {step : GuestStep} (h : b.At none (some c))
    (ha : b.active c.pluginId = some a) (hhost : SameHost a.host host) (hadvances : Advances c.requestId a.host step host) :
    Answered c step (b.putHost c.pluginId a host) := by
  obtain ⟨call, hcall, -, hsteps, hpends⟩ := hadvances
  obtain ⟨-, -, hcount, hidentity⟩ := h.isAt ha hcall
  rw [hcount] at hsteps hpends
  unfold Answered
  unfold Pends at hpends
  split at hpends
  · next hterminal =>
    rw [if_pos hterminal]
    exact h.putIdle hhost.sound hpends
  · next hmore =>
    rw [if_neg hmore]
    obtain ⟨next, hnext, hid, hcount'⟩ := hpends
    refine ⟨hsteps, h.putHost hhost.sound ?_⟩
    intro call' hcall'
    cases hnext.symm.trans hcall'
    exact ⟨_, rfl, rfl, hid, hcount', hhost.identity.trans hidentity⟩

theorem cancelCall_at {requestId : HostRequestId} (h : b.At d (some c)) (hrequest : c.requestId = requestId) (m : Moment) :
    (b.cancelCall c.pluginId requestId m).At d none := by
  unfold Broker.cancelCall
  cases ha : b.active c.pluginId with
  | none => exact h.gone ha
  | some a =>
    have hsound := h.sound c.pluginId a ha
    refine h.putIdle (cancelBrokerCall_host _ requestId hsound).sound ?_
    refine cancelBrokerCall_idle _ hsound requestId ?_
    intro call hcall
    exact (h.isAt ha hcall).2.1.trans hrequest

theorem cancelPluginCall_ends {requestId : HostRequestId} (h : b.At d (some c)) (hrequest : c.requestId = requestId) :
    Ends (fun _ b' => b'.At d none) (fun _ _ => False) (cancelPluginCall w ctx c.pluginId requestId b) := by
  unfold cancelPluginCall
  refine ends_enter h ?_
  exact fun m b' h' => ends_modify (cancelCall_at h' hrequest m)

theorem resumeError_ends {requestId : HostRequestId} (h : b.At none (some c)) (hrequest : c.requestId = requestId) (code : String) :
    Ends (Answered c) LeftIdle (resumeError w ctx c.pluginId requestId code b) := by
  unfold resumeError
  refine ends_enter h ?_
  intro m b' h'
  refine ends_get ?_
  cases ha : b'.active c.pluginId with
  | none => exact h'.gone ha
  | some a =>
    have hresume := resumeBrokerCall_host w.wasm m.env.operation requestId
      (h'.sound c.pluginId a ha) (.obj [("error", .obj [("code", .str code)]), ("ok", .bool false)]) 0
    dsimp only
    cases hresult : resumeBrokerCall w.wasm m.env.operation requestId
        (.obj [("error", .obj [("code", .str code)]), ("ok", .bool false)]) 0 a.host with
    | ok step host =>
      rw [hresult] at hresume
      exact h'.answered ha hresume.1 (hrequest ▸ hresume.2)
    | error e host =>
      rw [hresult] at hresume
      have hremoved := (h'.putIdle (a := a) hresume.1.sound hresume.2).remove c.pluginId m.millis
      exact hremoved.1.withGrants (hremoved.1.reserves.invalidateHost _ _)

/-- A result that is handed over: the handle is taken back, and the guest makes its next step. An error leaves no handle in flight,
unless the admission had lapsed. -/
theorem deliver_ends {requestId : HostRequestId} {r : RevalidationRequest} (h : b.At (some (w.sha256 r.handleId)) (some c))
    (hrequest : c.requestId = requestId) (value : Json) (bytes : Nat) {stale : Moment → Broker → Broker} {staleExit : String → Exit}
    (hstale : ∀ m b' message, b'.At (some (w.sha256 r.handleId)) (some c) → LeftIdle (staleExit message) (stale m b')) :
    Ends (Answered c) LeftIdle (deliver w ctx c.pluginId requestId r value bytes stale staleExit b) := by
  unfold deliver
  refine ends_enter h ?_
  intro m b' h'
  refine ends_get ?_
  split
  · exact hstale m b' _ h'
  · have hcompleted := h'.withGrants (h'.reserves.complete .success)
    dsimp only
    cases ha : b'.active c.pluginId with
    | none => exact hcompleted.gone ha
    | some a =>
      have hresume := resumeBrokerCall_host w.wasm m.env.operation requestId
        (h'.sound c.pluginId a ha) (.obj [("ok", .bool true), ("value", value)]) bytes
      dsimp only
      cases hresult : resumeBrokerCall w.wasm m.env.operation requestId (.obj [("ok", .bool true), ("value", value)]) bytes a.host with
      | ok step host =>
        rw [hresult] at hresume
        exact hcompleted.answered ha hresume.1 (hrequest ▸ hresume.2)
      | error e host =>
        rw [hresult] at hresume
        exact hcompleted.putIdle hresume.1.sound hresume.2

/-- A delivery that fails is recorded; the exit stays of its kind. -/
theorem orRemove_ends {delivery : BrokerM GuestStep} {recorded : BrokerM Unit} (hdelivery : Ends (Answered c) LeftIdle (delivery b))
    (hrecorded : ∀ b' : Broker, b'.At none none → Ends (fun _ b'' => b''.At none none) (fun _ b'' => b''.At none none) (recorded b')) :
    Ends (Answered c) LeftIdle (orRemove w ctx c.pluginId delivery recorded b) := by
  refine ends_handle hdelivery (fun _ _ h => h) ?_
  intro e b' h
  cases e with
  | failed message =>
    refine ends_enter (show b'.At none none from h) ?_
    intro m b' h'
    refine ends_bind (P := fun _ b'' => b''.At none none) (ends_modify (h'.remove c.pluginId m.millis).1) ?_
    intro _ b' h'
    exact ends_handle (hrecorded b' h') (fun _ _ h => h) fun _ _ h => h
  | lapsed message =>
    refine ends_bind (P := fun _ _ => True) (show Ends _ _ (.ok (w.moments b'.position) (b'.tick w ctx)) from trivial) ?_
    intro m b' _
    refine ends_bind (P := fun _ _ => True) (ends_modify trivial) ?_
    intro _ b' _
    exact ends_handle (P := fun _ _ => True) (R := fun _ _ => True) (ends_of_forall (fun _ _ => trivial) fun _ _ => trivial)
      (fun _ _ _ => trivial) fun _ _ _ => trivial

end Pending

/-! ## The pending request of a contribution -/

section Contributions

variable {c : PendingCall} {s : ContributionCallSession}

/-- The session is open, and the request is the session's, at the host that the session was begun at. -/
structure Serves (s : ContributionCallSession) (c : PendingCall) : Prop where
  pluginId : c.pluginId = ContributionCallSession.pluginId s
  requestId : c.requestId = s.requestId
  isOpen : s.terminal = false
  current : ∀ host : WasmPluginHost, host.identity = c.identity → isCurrentHost s.identity host = true

/-- The same request some steps later. -/
theorem Serves.later (h : Serves s c) {t : ContributionCallSession} (hfixed : ContributionCallAux.Fixed s t)
    (hterminal : t.terminal = s.terminal) (steps : Nat) : Serves t { c with steps := steps } := by
  obtain ⟨hplugin, hrequest, hopen, hcurrent⟩ := h
  have hidentity := hfixed.identity
  have hid : t.requestId = s.requestId := by rw [hfixed]
  refine ⟨?_, hrequest.trans hid.symm, hterminal.trans hopen, ?_⟩
  · unfold ContributionCallSession.pluginId
    rw [hidentity]
    exact hplugin
  · rw [hidentity]
    exact hcurrent

theorem isCurrentHost_congr {identity : ContributionInstanceIdentity} {host host' : WasmPluginHost} (h : host'.identity = host.identity) :
    isCurrentHost identity host' = isCurrentHost identity host := by
  unfold isCurrentHost
  rw [h]

/-- The calls of the host are requests of the session. -/
theorem Serves.requests (hs : Serves s c) (h : b.At d (some c)) {a : Runtime}
    (ha : b.active (ContributionCallSession.pluginId s) = some a) : Requests s a.host := by
  rw [← hs.pluginId] at ha
  intro call hcall
  exact (h.isAt ha hcall).2.1.trans hs.requestId

theorem cancelContribution_ends (h : b.At d (some c)) (hs : Serves s c) :
    Ends (fun _ b' => b'.At d none) (fun _ _ => False) (cancelContribution w ctx s b) := by
  unfold cancelContribution
  refine ends_enter h ?_
  intro m b' h'
  refine ends_modify ?_
  cases ha : b'.active (ContributionCallSession.pluginId s) with
  | none =>
    refine h'.gone ?_
    rw [hs.pluginId]
    exact ha
  | some a =>
    have hrequests := hs.requests h' ha
    rw [← hs.pluginId] at ha ⊢
    obtain ⟨hhost, hidle⟩ := cancel_host m.env (h'.sound c.pluginId a ha) hs.isOpen hrequests
    exact h'.putIdle hhost.sound hidle

/-- The answer to a request, with the session afterwards. -/
def Resumed (c : PendingCall) (r : ContributionCallSession × GuestStep) (b : Broker) : Prop :=
  Serves r.1 { c with steps := c.steps + 1 } ∧ Answered c r.2 b

theorem resumeContribution_ends (h : b.At none (some c)) (hs : Serves s c) (result : Json) (bytes : Nat) :
    Ends (Resumed c) LeftIdle (resumeContribution w ctx s result bytes b) := by
  unfold resumeContribution
  refine ends_enter h ?_
  intro m b' h'
  refine ends_get ?_
  cases ha : b'.active (ContributionCallSession.pluginId s) with
  | none =>
    refine h'.gone ?_
    rw [hs.pluginId]
    exact ha
  | some a =>
    have hrequests := hs.requests h' ha
    have hid := hs.requestId
    rw [← hs.pluginId] at ha ⊢
    have hresume := resume_host w.wasm b'.contributions result bytes m.millis m.env (h'.sound c.pluginId a ha) hrequests
    dsimp only
    cases hresult : Rho.ContributionCallSession.resume w.wasm b'.contributions result bytes m.millis m.env (s, a.host) with
    | ok step state =>
      rw [hresult] at hresume
      obtain ⟨⟨hfixed, hterminal⟩, hhost, hadvances⟩ := hresume
      exact ⟨hs.later hfixed hterminal _, h'.answered ha hhost (hid ▸ hadvances)⟩
    | error e state =>
      rw [hresult] at hresume
      obtain ⟨hhost, hrefused⟩ := hresume
      have hput : (b'.putHost c.pluginId a state.2).At none (some c) := by
        rcases hrefused with hidle | hsame
        · exact (h'.putIdle hhost.sound hidle).weaken _ _
        · refine h'.putHost hhost.sound ?_
          rw [hsame]
          exact fun call hcall => ⟨c, rfl, h'.isAt ha hcall⟩
      dsimp only
      change Broker.At (if isCurrentHost s.identity state.2 = true then _ else _) none none
      split
      · exact hput.removePending m.millis
      · next hother =>
        rcases hrefused with hidle | hsame
        · exact h'.putIdle hhost.sound hidle
        · refine h'.putHost hhost.sound ?_
          intro call hcall
          rw [hsame] at hcall
          refine absurd (hs.current state.2 ?_) hother
          rw [hsame]
          exact (h'.isAt ha hcall).2.2.2

theorem finishContribution_ends [LinearOrder F] (h : b.At none none) (step : GuestStep) :
    Ends (fun _ b' => b'.At none none) LeftIdle (finishContribution w ctx s step b) := by
  unfold finishContribution
  refine ends_enter h ?_
  intro m b' h'
  refine ends_get ?_
  cases ha : b'.active (ContributionCallSession.pluginId s) with
  | none => exact h'
  | some a =>
    dsimp only
    split
    · exact h'
    have hput : ∀ host, SameHost a.host host ∧ host.brokerCall = none →
        (b'.putHost (ContributionCallSession.pluginId s) a host).At none none := by
      intro host hhost
      refine h'.update _ _ (Or.inl rfl) ?_
      rintro _ ⟨rfl⟩
      exact ⟨hhost.1.sound, fun call hcall => by cases hhost.2.symm.trans hcall⟩
    have hfinish := finish_host w.num w.wasm s b'.contributions step m.millis m.env
      (h'.sound _ a ha) (h'.idle ha)
    cases hresult : Rho.ContributionCallSession.finish w.num w.wasm b'.contributions step m.millis m.env (s, a.host) with
    | ok outcome state =>
      rw [hresult] at hfinish
      exact hput state.2 hfinish
    | error e state =>
      rw [hresult] at hfinish
      exact hput state.2 hfinish

/-- A contribution's call that has begun is over, or its guest has made its first request. -/
def Begun (r : ContributionCallSession × GuestStep) (b : Broker) : Prop :=
  ∃ c, Serves r.1 c ∧ if r.2.isTerminal then b.At none none else c.steps = 1 ∧ b.At none (some c)

theorem beginContribution_ends [LinearOrder F] (h : b.At none none) (contributionId : CapabilityId) (origin : ContributionInvocationOrigin) (input : Json) :
    Ends Begun LeftIdle (beginContribution w ctx contributionId origin input b) := by
  unfold beginContribution
  refine ends_enter h ?_
  intro m b' h'
  refine ends_get ?_
  cases hrecord : b'.contributions.get ctx.projectScopeId contributionId with
  | none => exact h'
  | some record =>
    dsimp only
    cases ha : b'.active record.pluginId.value with
    | none => exact h'
    | some a =>
      have hbegin := begin_host w.num w.wasm b'.contributions
        ⟨ctx.projectScopeId, contributionId, origin, input, a.suppliedHandles⟩ m.millis m.env (h'.sound _ a ha) (h'.idle ha)
      dsimp only
      cases hresult : Rho.ContributionCallSession.begin w.num w.wasm b'.contributions
          ⟨ctx.projectScopeId, contributionId, origin, input, a.suppliedHandles⟩ m.millis m.env a.host with
      | error e host =>
        rw [hresult] at hbegin
        refine h'.update _ _ (Or.inl rfl) ?_
        rintro _ ⟨rfl⟩
        exact ⟨hbegin.1.sound, fun call hcall => by cases hbegin.2.symm.trans hcall⟩
      | ok begun host =>
        rw [hresult] at hbegin
        obtain ⟨hhost, hpends, hopen, hcurrent, record', hrecord', hidentity⟩ := hbegin
        cases hrecord.symm.trans hrecord'
        refine ⟨⟨record.pluginId.value, begun.1.requestId, 1, a.host.identity⟩, ⟨?_, rfl, hopen, ?_⟩, ?_⟩
        · unfold ContributionCallSession.pluginId
          rw [hidentity]
          rfl
        · intro host' hhost'
          rw [isCurrentHost_congr hhost']
          exact hcurrent
        · unfold Pends at hpends
          split at hpends
          · next hterminal =>
            rw [if_pos hterminal]
            refine h'.update _ _ (Or.inl rfl) ?_
            rintro _ ⟨rfl⟩
            exact ⟨hhost.sound, fun call hcall => by cases hpends.symm.trans hcall⟩
          · next hmore =>
            rw [if_neg hmore]
            obtain ⟨call, hcall, hid, hsteps⟩ := hpends
            refine ⟨rfl, h'.update _ _ (Or.inr nofun) ?_⟩
            rintro _ ⟨rfl⟩
            refine ⟨hhost.sound, fun call' hcall' => ?_⟩
            cases hcall.symm.trans hcall'
            exact ⟨_, rfl, rfl, hid, hsteps, hhost.identity⟩

end Contributions

end Registry

end Rho.PluginBroker
