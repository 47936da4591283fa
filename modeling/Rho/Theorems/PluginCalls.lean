import Rho.Lemmas.PluginBroker
import Rho.Theorems.PluginNetwork

/-!
# What a call of a plugin leaves behind

Whatever a guest does, whatever the store answers and whatever a user does in between: a call that leaves the broker with a result,
or with an error after it has put its things in order, leaves no handle in flight and no request pending at an active host. The
exits by a `?` with nothing put in order are the exception, and the reason why the property does not hold of the code.
-/

namespace Rho.PluginBroker

open Effect PluginPermission

attribute [local irreducible] PermissionDb.recordCallEvent

section Calls

variable {F : Type} {w : Surroundings F} {ctx : RuntimeContext} {b : Broker} {c : BrokerCall} {n : Nat}
  {identity : WasmHostIdentity}

/-! ## What the calls do alike -/

/-- A request is answered with its things in order, or the call leaves. -/
abbrev Answers (c : BrokerCall) (n : Nat) (identity : WasmHostIdentity) (r : EStateM.Result Exit Broker GuestStep) : Prop :=
  Ends (Answered (c.pending n identity)) LeftIdle r

theorem abandon_ends {handleId : String} (h : b.At (some (w.sha256 handleId)) (some (c.pending n identity))) :
    Ends (fun _ b' => b'.At none none) (fun _ _ => False) (abandon w ctx c handleId b) := by
  unfold abandon releaseAdmission
  refine ends_bind (completeHandle_ends h .failureBeforeDispatch) ?_
  exact fun _ b' h' => cancelPluginCall_ends h' rfl

theorem deny_ends (h : b.At none (some (c.pending n identity))) (event : EventIdentity) (code : String) :
    Answers c n identity (deny w ctx c event code b) := by
  unfold deny
  refine ends_bind (cleaning_ends (recordEvent_ends h _ _ _) ?_) ?_
  · exact fun b' h' => cancelPluginCall_ends h' rfl
  · exact fun _ b' h' => resumeError_ends h' rfl code

variable {r : RevalidationRequest} {serve : String → String → String → Json → BrokerM GuestStep} {d : Option String}

theorem refuse_ends (h : b.At (some (w.sha256 r.handleId)) (some (c.pending n identity))) (e : CallEvent)
    (code : String) : Answers c n identity (refuse w ctx c r e code b) := by
  unfold refuse releaseAdmission
  refine ends_bind (cleaning_ends (recordEvent_ends h _ _ _) fun b' h' => abandon_ends h') ?_
  intro _ b' h'
  refine ends_certain (completeHandle_ends h' _) ?_
  exact fun _ b' h' => resumeError_ends h' rfl code

theorem serveRequest_ends {α : Type} (h : b.At none (some (c.pending n identity))) (decode : Json → Option α) (permission operation : String)
    (args : Json) {serve : α → BrokerM GuestStep} (hserve : ∀ request, Answers c n identity (serve request b)) :
    Answers c n identity (serveRequest w ctx c decode permission operation args serve b) := by
  unfold serveRequest
  split
  · exact resumeError_ends h rfl _
  · cases decode args with
    | none => exact resumeError_ends h rfl _
    | some request => exact hserve request

/-- An admission: a handle that is admitted may be in flight from now on. -/
def Admitted (w : Surroundings F) (c : PendingCall) (handleId : String) (a : Admission) (b : Broker) : Prop :=
  a.revalidation.handleId = handleId ∧
    b.At (if a.outcome = .allowed then some (w.sha256 handleId) else none) (some c)

theorem admit_at (h : b.At none (some (c.pending n identity))) (request : RevalidationRequest) (now : Nat) :
    Admitted w (c.pending n identity) request.handleId (b.admitHandle w request now).1 (b.admitHandle w request now).2 := by
  obtain ⟨hallowed, hdenied⟩ := h.reserves.revalidate w.sha256 request now
  refine ⟨rfl, ?_⟩
  change Broker.At _ (if (b.grants.revalidate w.sha256 request now).1 = .allowed then _ else _) _
  split
  · exact h.withGrants hallowed
  · next hnot => exact h.withGrants (hdenied hnot)

theorem admit_ends (h : b.At none (some (c.pending n identity))) (handleId : String) (permission : PermissionKind) (use : PermissionUse)
    (workspace : Option WorkspaceGrantIdentity) (missing : String) :
    Ends (Admitted w (c.pending n identity) handleId) LeftIdle (admitRequest w ctx c.pluginId handleId permission use workspace missing b) := by
  unfold admitRequest
  refine ends_enter h ?_
  intro m b' h'
  refine ends_get ?_
  cases ha : b'.active c.pluginId with
  | none => exact h'.gone ha
  | some a => exact admit_at h' _ m.millis

/-- A call that is begun is over, or its guest has made its first request. -/
theorem beginCall_ends (h : b.At none none) (checkDigest : Bool) (request : Json) :
    Ends (fun step b' => ∃ identity, if step.isTerminal then b'.At none none else b'.At none (some (c.pending 1 identity))) LeftIdle
      (beginCall w ctx c checkDigest request b) := by
  unfold beginCall
  refine ends_enter h ?_
  intro m b' h'
  refine ends_get ?_
  cases ha : b'.active c.pluginId with
  | none => exact h'
  | some a =>
    dsimp only
    split
    · exact h'
    split
    · exact h'
    have hbegin := beginBrokerCall_host w.wasm m.env.operation c.requestId (h'.sound _ a ha)
      (h'.idle ha) (a.callInput request)
    cases hresult : WasmPluginHost.beginBrokerCall w.wasm m.env.operation c.requestId (a.callInput request) a.host with
    | error e host =>
      rw [hresult] at hbegin
      refine h'.update _ _ (Or.inl rfl) ?_
      rintro _ ⟨rfl⟩
      exact ⟨hbegin.1.sound, fun call hcall => by cases hbegin.2.symm.trans hcall⟩
    | ok step host =>
      rw [hresult] at hbegin
      obtain ⟨hhost, hpends⟩ := hbegin
      refine ⟨a.host.identity, ?_⟩
      unfold WasmHostAux.Pends at hpends
      split at hpends
      · next hterminal =>
        rw [if_pos hterminal]
        refine h'.update _ _ (Or.inl rfl) ?_
        rintro _ ⟨rfl⟩
        exact ⟨hhost.sound, fun call hcall => by cases hpends.symm.trans hcall⟩
      · next hmore =>
        rw [if_neg hmore]
        obtain ⟨call, hcall, hid, hsteps⟩ := hpends
        refine h'.update _ _ (Or.inr nofun) ?_
        rintro _ ⟨rfl⟩
        refine ⟨hhost.sound, fun call' hcall' => ?_⟩
        cases hcall.symm.trans hcall'
        exact ⟨_, rfl, rfl, hid, hsteps, hhost.identity⟩

/-- The loop of a call, whose requests are all served so: the host ends it before the loop would. -/
theorem brokerLoop_ends
    (hserve : ∀ (n : Nat) (b : Broker) (handleId permission operation : String) (args : Json), b.At none (some (c.pending n identity)) →
      Answers c n identity (serve handleId permission operation args b)) :
    ∀ (fuel n steps : Nat) (step : GuestStep) (b : Broker), fuel + n = maxGuestBrokerSteps + 1 →
      (if step.isTerminal then b.At none none else n ≤ maxGuestBrokerSteps ∧ b.At none (some (c.pending n identity))) →
      Ends (fun _ b' => b'.At none none) LeftIdle (brokerLoop serve fuel steps step b) := by
  intro fuel
  induction fuel with
  | zero =>
    intro n steps step b hn h
    cases step with
    | complete callId result => exact h
    | error callId code => exact h
    | brokerRequest callId handleId permission operation args =>
      have hle : n ≤ maxGuestBrokerSteps := h.1
      omega
  | succ fuel ih =>
    intro n steps step b hn h
    cases step with
    | complete callId result => exact h
    | error callId code => exact h
    | brokerRequest callId handleId permission operation args =>
      refine ends_bind (hserve n b handleId permission operation args h.2) ?_
      intro next b' hnext
      refine ih (n + 1) (steps + 1) next b' (by omega) ?_
      unfold Answered at hnext
      split at hnext
      · next hterminal =>
        rw [if_pos hterminal]
        exact hnext
      · next hmore =>
        rw [if_neg hmore]
        exact ⟨hnext.1, hnext.2⟩

/-- A call whose requests are all served so. -/
theorem call_ends
    (hserve : ∀ (n : Nat) (identity : WasmHostIdentity) (b : Broker) (handleId permission operation : String) (args : Json),
      b.At none (some (c.pending n identity)) → Answers c n identity (serve handleId permission operation args b))
    (checkDigest : Bool) (request : Json) (h : b.At none none) : Ends (fun _ b' => b'.At none none) LeftIdle
      ((do let step ← beginCall w ctx c checkDigest request; brokerLoop serve maxGuestBrokerSteps 0 step) b) := by
  refine ends_bind (beginCall_ends h checkDigest request) ?_
  rintro step b' ⟨identity, hbegun⟩
  refine brokerLoop_ends (fun n => hserve n identity) maxGuestBrokerSteps 1 0 step b' rfl ?_
  split at hbegun
  · next hterminal =>
    rw [if_pos hterminal]
    exact hbegun
  · next hmore =>
    rw [if_neg hmore]
    exact ⟨by decide, hbegun⟩

/-! ## Files -/

theorem finishFile_ends (h : b.At (some (w.sha256 r.handleId)) (some (c.pending n identity))) (grantId : String)
    (value : Json) (size : Nat) : Answers c n identity (finishFile w ctx c r grantId value size b) := by
  unfold finishFile
  refine ends_enter h ?_
  intro m b' h'
  refine ends_get ?_
  split
  · exact refuse_ends h' _ _
  · refine ends_bind (cleaning_ends (recordEvent_ends h' _ _ _) fun b'' h'' => abandon_ends h'') ?_
    intro _ b'' h''
    refine orRemove_ends (c := c.pending n identity) (deliver_ends (c := c.pending n identity) h'' rfl value size ?_) ?_
    · intro m b₁ message h₁
      exact cancelCall_at (h₁.withGrants (h₁.reserves.complete .uncertain)) rfl m
    · exact fun b₁ h₁ => recordEvent_ends h₁ _ _ _

theorem serveAdmittedFile_ends (h : b.At (some (w.sha256 r.handleId)) (some (c.pending n identity)))
    (grantId : String) : Answers c n identity (serveAdmittedFile w ctx c r grantId b) := by
  unfold serveAdmittedFile readProjectFile
  refine ends_bind (cleaning_ends (recordEvent_ends h _ _ _) fun b' h' => abandon_ends h') ?_
  intro _ b' h'
  split
  · trivial
  refine ends_enter h' ?_
  intro m b'' h''
  cases m.answer with
  | error code => exact refuse_ends h'' _ _
  | ok read => exact finishFile_ends h'' grantId read.1 read.2

theorem serveFile_ends (h : b.At none (some (c.pending n identity))) (handleId permission operation : String) (args : Json) :
    Answers c n identity (serveFile w ctx c handleId permission operation args b) := by
  refine serveRequest_ends h _ permission operation args fun request => ?_
  refine ends_bind (admit_ends h _ _ _ _ _) ?_
  rintro a b' ⟨hhandle, hat⟩
  cases houtcome : a.outcome with
  | denied error =>
    rw [houtcome, if_neg (by nofun)] at hat
    exact deny_ends hat _ _
  | allowed =>
    rw [houtcome, if_pos rfl, ← hhandle] at hat
    cases a.grantId with
    | none =>
      refine ends_bind (P := fun _ _ => True) ?_ fun _ _ _ => trivial
      exact (cancelPluginCall_ends hat rfl).mono (fun _ _ _ => trivial) fun _ _ h => h.elim
    | some grantId => exact serveAdmittedFile_ends hat grantId

/-! ## The workspace -/

/-- An event of a store that is opened for it. -/
theorem reopened_ends {b : Broker} (h : b.At none none) (pluginId packageDigest : String) (e : CallEvent) :
    Ends (fun _ b' => b'.At none none) (fun _ b' => b'.At none none)
      ((do openStore w ctx; recordEvent w ctx pluginId packageDigest e) b) := by
  refine ends_seq (openStore_at h) (fun _ _ h => h.1) ?_
  exact fun _ b' h' => recordEvent_ends h' pluginId packageDigest e

theorem finishWorkspace_ends (h : b.At (some (w.sha256 r.handleId)) (some (c.pending n identity)))
    (grantId : String) (value : Json) (size : Nat) : Answers c n identity (finishWorkspace w ctx c r grantId value size b) := by
  unfold finishWorkspace
  refine ends_enter h ?_
  intro m b' h'
  refine ends_get ?_
  split
  · refine ends_bind (openStore_ends h') ?_
    exact fun _ b'' h'' => refuse_ends h'' _ _
  · refine ends_bind (openStore_ends h') ?_
    intro _ b' h'
    refine ends_bind (cleaning_ends (recordEvent_ends h' _ _ _) fun b'' h'' => abandon_ends h'') ?_
    intro _ b'' h''
    refine orRemove_ends (c := c.pending n identity) (deliver_ends (c := c.pending n identity) h'' rfl value size ?_) ?_
    · exact fun m b₁ message h₁ => trivial
    · exact fun b₁ h₁ => reopened_ends h₁ _ _ _

/-- A request that was admitted and fails, recorded in a store that is opened for it. -/
theorem reopenedRefuse_ends (h : b.At (some (w.sha256 r.handleId)) (some (c.pending n identity))) (e : CallEvent)
    (code : String) : Answers c n identity ((do openStore w ctx; refuse w ctx c r e code) b) := by
  refine ends_bind (openStore_ends h) ?_
  exact fun _ b' h' => refuse_ends h' e code

theorem serveAdmittedWorkspace_ends (h : b.At (some (w.sha256 r.handleId)) (some (c.pending n identity)))
    (grantId : String) : Answers c n identity (serveAdmittedWorkspace w ctx c r grantId b) := by
  unfold serveAdmittedWorkspace
  refine ends_bind (openStore_ends h) ?_
  intro _ b' h'
  refine ends_bind (cleaning_ends (recordEvent_ends h' _ _ _) fun b'' h'' => abandon_ends h'') ?_
  intro _ b' h'
  refine ends_enter h' ?_
  intro m b' h'
  cases m.answer with
  | error code => exact reopenedRefuse_ends h' _ _
  | ok _ =>
    change Answers c n identity (projectWorkspace w ctx c r grantId b')
    unfold projectWorkspace
    refine ends_enter h' ?_
    intro m b'' h''
    cases m.answer with
    | error code => exact reopenedRefuse_ends h'' _ _
    | ok projected => exact finishWorkspace_ends h'' grantId projected.1 projected.2

theorem admitWorkspace_ends (h : b.At none (some (c.pending n identity))) (handleId : String) (use : PermissionUse) :
    Ends (Admitted w (c.pending n identity) handleId) LeftIdle (admitWorkspace w ctx c.pluginId handleId use b) := by
  unfold admitWorkspace
  refine ends_enter h ?_
  intro m b' h'
  refine ends_get ?_
  cases m.answer with
  | error code => trivial
  | ok _ =>
    cases ha : b'.active c.pluginId with
    | none => exact h'.gone ha
    | some a => exact admit_at h' _ m.millis

/-- A request that is not admitted, recorded in a store that is opened for it. -/
theorem reopenedDeny_ends (h : b.At none (some (c.pending n identity))) (event : EventIdentity) (code : String) :
    Answers c n identity ((do openStore w ctx; deny w ctx c event code) b) := by
  refine ends_bind (openStore_ends h) ?_
  exact fun _ b' h' => deny_ends h' event code

theorem serveWorkspace_ends (h : b.At none (some (c.pending n identity))) (handleId permission operation : String) (args : Json) :
    Answers c n identity (serveWorkspace w ctx c handleId permission operation args b) := by
  refine serveRequest_ends h _ permission operation args fun request => ?_
  refine ends_bind (admitWorkspace_ends h _ _) ?_
  rintro a b' ⟨hhandle, hat⟩
  cases houtcome : a.outcome with
  | denied error =>
    rw [houtcome, if_neg (by nofun)] at hat
    exact reopenedDeny_ends hat _ _
  | allowed =>
    rw [houtcome, if_pos rfl, ← hhandle] at hat
    cases a.grantId with
    | none => trivial
    | some grantId => exact serveAdmittedWorkspace_ends hat grantId

/-! ## The network -/

theorem after_at {p : Option PendingCall} (h : b.At d p) (accesses : Nat) : (b.after w ctx accesses).At d p := by
  induction accesses with
  | zero => exact h
  | succ accesses ih => exact tick_at ih

theorem fetchPlugin_ends {p : Option PendingCall} (h : b.At d p) (r : RevalidationRequest) (grantId : String)
    (request : NetworkFetchRequest) (policy : NetworkFetchPolicy) :
    Ends (fun _ b' => b'.At d p) LeftIdle (fetchPlugin w ctx c r grantId request policy b) :=
  (after_at h _).of_eq rfl rfl

theorem fetchFailed_ends (h : b.At (some (w.sha256 r.handleId)) (some (c.pending n identity))) (grantId : String)
    (e : NetworkFetchError) : Answers c n identity (fetchFailed w ctx c r grantId e b) := by
  unfold fetchFailed
  refine ends_bind (openStore_ends h) ?_
  intro _ b' h'
  refine ends_bind (P := fun _ b'' => b''.At (some (w.sha256 r.handleId)) (some (c.pending n identity))) ?_ ?_
  · exact ends_handle (recordEvent_ends h' _ _ _) (fun _ _ h => h) fun _ _ h => h
  intro persisted b' h'
  refine ends_certain (completeHandle_ends h' _) ?_
  intro _ b' h'
  cases persisted with
  | none => exact resumeError_ends h' rfl _
  | some exit =>
    refine ends_certain (cancelPluginCall_ends h' rfl) ?_
    exact fun _ _ h => leftIdle_of_at h

theorem finishNetwork_ends (h : b.At (some (w.sha256 r.handleId)) (some (c.pending n identity))) (grantId : String)
    (result : NetworkFetchResult) : Answers c n identity (finishNetwork w ctx c r grantId result b) := by
  unfold finishNetwork
  refine ends_enter h ?_
  intro m b' h'
  refine ends_get ?_
  split
  · exact reopenedRefuse_ends h' _ _
  · refine ends_bind (openStore_ends h') ?_
    intro _ b' h'
    refine ends_bind (cleaning_ends (recordEvent_ends h' _ _ _) ?_) ?_
    · intro b'' h''
      exact ends_bind (completeHandle_ends h'' .uncertain) fun _ b₁ h₁ => cancelPluginCall_ends h₁ rfl
    intro _ b'' h''
    refine orRemove_ends (c := c.pending n identity) (deliver_ends (c := c.pending n identity) h'' rfl _ _ ?_) ?_
    · exact fun m b₁ message h₁ => trivial
    · exact fun b₁ h₁ => reopened_ends h₁ _ _ _

theorem serveAdmittedNetwork_ends (h : b.At (some (w.sha256 r.handleId)) (some (c.pending n identity)))
    (grantId : String) (request : NetworkFetchRequest) (policy : NetworkFetchPolicy) :
    Answers c n identity (serveAdmittedNetwork w ctx c r grantId request policy b) := by
  unfold serveAdmittedNetwork
  refine ends_bind (openStore_ends h) ?_
  intro _ b' h'
  refine ends_bind (cleaning_ends (recordEvent_ends h' _ _ _) fun b'' h'' => abandon_ends h'') ?_
  intro _ b' h'
  refine ends_bind (fetchPlugin_ends h' r grantId request policy) ?_
  intro result b' h'
  cases result with
  | error e => exact fetchFailed_ends h' grantId e
  | ok result => exact finishNetwork_ends h' grantId result

/-- An admission for the network, or a refusal. -/
def NetworkAdmitted (w : Surroundings F) (p : PendingCall) (r : Except (EventIdentity × String) (Admission × NetworkFetchPolicy))
    (b : Broker) : Prop :=
  match r with
  | .error _ => b.At none (some p)
  | .ok (a, _) => b.At (some (w.sha256 a.revalidation.handleId)) (some p)

theorem admitNetwork_ends (h : b.At none (some (c.pending n identity))) (handleId : String) (request : NetworkFetchRequest) :
    Ends (NetworkAdmitted w (c.pending n identity)) LeftIdle (admitNetwork w ctx c.pluginId handleId request b) := by
  unfold admitNetwork
  refine ends_enter h ?_
  intro m b' h'
  refine ends_get ?_
  cases ha : b'.active c.pluginId with
  | none => exact h'.gone ha
  | some a =>
    dsimp only
    cases b'.networkSetup w ctx handleId request with
    | error code => exact h'
    | ok setup =>
      obtain ⟨policy, initial⟩ := setup
      have hadmit := admit_at (w := w) h' (revalidationOf a.host.identity handleId .networkFetch
        (.networkFetch initial.scheme initial.host initial.method initial.requestedResponseBytes) none) m.millis
      dsimp only
      generalize b'.admitHandle w (revalidationOf a.host.identity handleId .networkFetch
        (.networkFetch initial.scheme initial.host initial.method initial.requestedResponseBytes) none) m.millis = admitted at hadmit ⊢
      obtain ⟨admission, b₁⟩ := admitted
      obtain ⟨hhandle, hat⟩ := hadmit
      refine ends_bind (P := fun _ b₂ => b₂ = b₁) rfl ?_
      rintro _ _ rfl
      cases houtcome : admission.outcome with
      | denied error =>
        rw [houtcome, if_neg (by nofun)] at hat
        exact hat
      | allowed =>
        rw [houtcome, if_pos rfl, ← hhandle] at hat
        exact hat

theorem serveNetwork_ends (h : b.At none (some (c.pending n identity))) (handleId permission operation : String) (args : Json) :
    Answers c n identity (serveNetwork w ctx c handleId permission operation args b) := by
  refine serveRequest_ends h _ permission operation args fun request => ?_
  refine ends_bind (admitNetwork_ends h handleId request) ?_
  intro r b' h'
  cases r with
  | error refused => exact reopenedDeny_ends h' _ _
  | ok admitted =>
    obtain ⟨a, policy⟩ := admitted
    dsimp only
    cases a.grantId with
    | none => trivial
    | some grantId => exact serveAdmittedNetwork_ends h' grantId request policy

/-! ## Contributions -/

section Contributions

variable {s : ContributionCallSession} {p : PendingCall} {contributionId : CapabilityId}

theorem abandonContribution_ends {handleId : String} (h : b.At (some (w.sha256 handleId)) (some p)) (hs : Serves s p) :
    Ends (fun _ b' => b'.At none none) (fun _ _ => False) (abandonContribution w ctx s handleId b) := by
  unfold abandonContribution releaseAdmission
  refine ends_bind (completeHandle_ends h .failureBeforeDispatch) ?_
  exact fun _ b' h' => cancelContribution_ends h' hs

/-- The call of a contribution is cancelled and fails. -/
theorem cancelThrow_ends {d : Option String} (h : b.At d (some p)) (hs : Serves s p) (message : String) (hd : d = none) :
    Ends (Resumed p) LeftIdle
      ((do cancelContribution w ctx s; throw (.failed message) : BrokerM (ContributionCallSession × GuestStep)) b) := by
  subst hd
  refine ends_certain (cancelContribution_ends h hs) ?_
  exact fun _ _ h => h

theorem denyContribution_ends (h : b.At none (some p)) (hs : Serves s p) (r : RevalidationRequest) (code : String) :
    Ends (Resumed p) LeftIdle (denyContribution w ctx contributionId s r code b) := by
  unfold denyContribution
  refine ends_bind (bare_ends (recordEvent_ends h _ _ _)) ?_
  exact fun _ b' h' => cancelThrow_ends h' hs _ rfl

theorem refuseContribution_ends {r : RevalidationRequest} (h : b.At (some (w.sha256 r.handleId)) (some p)) (hs : Serves s p)
    (grantId code : String) (elapsed : Nat) :
    Ends (Resumed p) LeftIdle (refuseContribution w ctx contributionId s r grantId code elapsed b) := by
  unfold refuseContribution releaseAdmission
  refine ends_bind (P := fun _ b' => b'.At (some (w.sha256 r.handleId)) (some p)) ?_ ?_
  · exact ends_handle (recordEvent_ends h _ _ _) (fun _ _ h => h) fun _ _ h => h
  intro event b' h'
  refine ends_certain (completeHandle_ends h' _) ?_
  intro _ b' h'
  cases event with
  | some exit => trivial
  | none => exact resumeContribution_ends h' hs _ _

theorem settleContribution_ends {r : RevalidationRequest} (h : b.At (some (w.sha256 r.handleId)) (some p)) (hs : Serves s p) :
    Ends (fun _ b' => b'.At none (some p)) LeftIdle (settleContribution w ctx s r b) := by
  unfold settleContribution
  refine ends_enter h ?_
  intro m b' h'
  refine ends_get ?_
  split
  · refine ends_bind (P := fun _ b'' => b''.At none (some p)) (ends_set (h'.withGrants (h'.reserves.complete .uncertain))) ?_
    intro _ b'' h''
    refine ends_certain (cancelContribution_ends h'' hs) ?_
    exact fun _ _ h => h
  · exact h'.withGrants (h'.reserves.complete .success)

theorem finishContributionFile_ends {r : RevalidationRequest} (h : b.At (some (w.sha256 r.handleId)) (some p)) (hs : Serves s p)
    (grantId : String) (value : Json) (size : Nat) :
    Ends (Resumed p) LeftIdle (finishContributionFile w ctx contributionId s r grantId value size b) := by
  unfold finishContributionFile
  refine ends_enter h ?_
  intro m b' h'
  refine ends_get ?_
  split
  · refine ends_bind (bare_ends (recordEvent_ends h' _ _ _)) ?_
    intro _ b' h'
    refine ends_certain (abandonContribution_ends h' hs) ?_
    exact fun _ _ h => h
  · refine ends_bind (cleaning_ends (recordEvent_ends h' _ _ _) fun b'' h'' => abandonContribution_ends h'' hs) ?_
    intro _ b' h'
    refine ends_bind (settleContribution_ends h' hs) ?_
    intro _ b' h'
    refine ends_handle (resumeContribution_ends h' hs _ _) (fun _ _ h => h) ?_
    intro e b' h'
    cases e with
    | failed message => exact ends_handle (recordEvent_ends h' _ _ _) (fun _ _ h => h) fun _ _ h => h
    | lapsed message =>
      exact ends_handle (P := fun _ _ => True) (R := fun _ _ => True) (ends_of_forall (fun _ _ => trivial) fun _ _ => trivial)
        (fun _ _ _ => trivial) fun _ _ _ => trivial

theorem serveContribution_ends (h : b.At none (some p)) (hs : Serves s p) (handleId permission operation : String) (args : Json) :
    Ends (Resumed p) LeftIdle (serveContribution w ctx contributionId s handleId permission operation args b) := by
  unfold serveContribution
  split
  · exact resumeContribution_ends h hs _ _
  cases w.decodeFileRequest args with
  | none => exact resumeContribution_ends h hs _ _
  | some request =>
    let c : BrokerCall := ⟨p.pluginId, p.requestId, .projectFsRead⟩
    have hadmit : Ends (Admitted w (c.pending p.steps p.identity) handleId) LeftIdle (admitRequest w ctx c.pluginId _ _ _ _ _ b) :=
      admit_ends h handleId .projectFsRead (.projectFsRead request.projectRelativePath request.maxBytes) none
        "contribution host disappeared before file admission"
    rw [show c.pluginId = ContributionCallSession.pluginId s from hs.pluginId] at hadmit
    refine ends_bind hadmit ?_
    rintro a b' ⟨hhandle, hat⟩
    change Broker.At _ _ (some p) at hat
    cases houtcome : a.outcome with
    | denied error =>
      rw [houtcome, if_neg (by nofun)] at hat
      exact denyContribution_ends hat hs _ _
    | allowed =>
      rw [houtcome, if_pos rfl, ← hhandle] at hat
      cases a.grantId with
      | none => trivial
      | some grantId =>
        change Ends _ _ (serveAdmittedContribution w ctx contributionId s a.revalidation grantId b')
        unfold serveAdmittedContribution readProjectFile
        refine ends_bind (cleaning_ends (recordEvent_ends hat _ _ _) fun b'' h'' => abandonContribution_ends h'' hs) ?_
        intro _ b' h'
        split
        · trivial
        refine ends_enter h' ?_
        intro m b'' h''
        cases m.answer with
        | error code => exact refuseContribution_ends h'' hs _ _ _
        | ok read => exact finishContributionFile_ends h'' hs grantId read.1 read.2

/-- The loop of a contribution's call: the host ends it before the loop would. -/
theorem contributionLoop_ends [LinearOrder F] :
    ∀ (fuel : Nat) (s : ContributionCallSession) (p : PendingCall) (step : GuestStep) (b : Broker), fuel + p.steps = maxGuestBrokerSteps + 1 →
      Serves s p → (if step.isTerminal then b.At none none else p.steps ≤ maxGuestBrokerSteps ∧ b.At none (some p)) →
      Ends (fun _ b' => b'.At none none) LeftIdle (contributionLoop w ctx contributionId fuel s step b) := by
  intro fuel
  induction fuel with
  | zero =>
    intro s p step b hn hs h
    cases step with
    | complete callId result => exact finishContribution_ends h _
    | error callId code => exact finishContribution_ends h _
    | brokerRequest callId handleId permission operation args =>
      have hle : p.steps ≤ maxGuestBrokerSteps := h.1
      omega
  | succ fuel ih =>
    intro s p step b hn hs h
    cases step with
    | complete callId result => exact finishContribution_ends h _
    | error callId code => exact finishContribution_ends h _
    | brokerRequest callId handleId permission operation args =>
      refine ends_bind (serveContribution_ends h.2 hs handleId permission operation args) ?_
      rintro ⟨t, next⟩ b' ⟨hserves, hnext⟩
      refine ih t _ next b' (show fuel + (p.steps + 1) = _ by omega) hserves ?_
      unfold Answered at hnext
      split at hnext
      · next hterminal =>
        rw [if_pos hterminal]
        exact hnext
      · next hmore =>
        rw [if_neg hmore]
        exact ⟨hnext.1, hnext.2⟩

theorem invokeFileContributionInner_ends [LinearOrder F] (h : b.At none none) (origin : ContributionInvocationOrigin) (input : Json) :
    Ends (fun _ b' => b'.At none none) LeftIdle (invokeFileContributionInner w ctx contributionId origin input b) := by
  unfold invokeFileContributionInner
  refine ends_bind (P := fun _ b' => b'.At none none) ?_ ?_
  · unfold checkOrigin
    refine ends_enter h ?_
    intro m b' h'
    refine ends_get ?_
    cases b'.contributions.get ctx.projectScopeId contributionId with
    | none => exact h'
    | some record =>
      dsimp only
      split
      · exact h'
      · exact h'
  intro _ b' h'
  refine ends_bind (beginContribution_ends h' contributionId origin input) ?_
  rintro ⟨s, step⟩ b'' ⟨p, hserves, hbegun⟩
  by_cases hterminal : step.isTerminal = true
  · rw [if_pos hterminal] at hbegun
    refine contributionLoop_ends maxGuestBrokerSteps s { p with steps := 1 } step b'' rfl ?_ ?_
    · exact hserves.later (t := s) rfl rfl 1
    rw [if_pos hterminal]
    exact hbegun
  · rw [if_neg hterminal] at hbegun
    obtain ⟨hsteps, hat⟩ := hbegun
    refine contributionLoop_ends maxGuestBrokerSteps s p step b'' (by rw [hsteps]) hserves ?_
    rw [if_neg hterminal, hsteps]
    exact ⟨by decide, hat⟩

end Contributions

/-! ## Any call -/

/-- A crash that is looked for after an error leaves what was left. -/
theorem watchingCrashes_ends {α : Type} (crash : Option CrashIdentity) {x : BrokerM α}
    (hx : Ends (fun _ b' => b'.At none none) LeftIdle (x b)) :
    Ends (fun _ b' => b'.At none none) LeftIdle (watchingCrashes w ctx crash x b) := by
  refine ends_handle hx (fun _ _ h => h) ?_
  intro e b' h
  cases crash with
  | none => exact h
  | some crash =>
    cases e with
    | failed message =>
      refine ends_enter (show b'.At none none from h) ?_
      intro m b' h'
      refine ends_bind (P := fun _ b'' => b''.At none none) (ends_modify ?_) fun _ _ h => h
      unfold Broker.removeCrashed
      split
      · exact (h'.remove _ _).1
      · exact h'
    | lapsed message =>
      refine ends_bind (P := fun _ _ => True) (show Ends _ _ (.ok (w.moments b'.position) (b'.tick w ctx)) from trivial) ?_
      intro m b' _
      exact ends_bind (P := fun _ _ => True) (ends_modify trivial) fun _ _ _ => trivial

/-- Whatever call it is: with a result, or with its things in order, it leaves no handle in flight and no request pending. -/
theorem call_leaves_idle [LinearOrder F] (call : PluginCall) (h : b.At none none) :
    Ends (fun _ b' => b'.At none none) LeftIdle (call.run w ctx b) := by
  unfold PluginCall.run
  cases call with
  | file pluginId requestId request =>
    refine ends_bind (P := fun _ b' => b'.At none none) ?_ fun _ _ h => h
    unfold invokePlugin
    refine ends_bind (P := fun _ b' => b'.At none none) ?_ ?_
    · refine ends_enter h ?_
      exact fun m b' h' => ends_get h'
    intro crash b' h'
    refine watchingCrashes_ends crash ?_
    exact call_ends (c := ⟨pluginId, requestId, .projectFsRead⟩)
      (fun n identity b'' handleId permission operation args h'' => serveFile_ends h'' handleId permission operation args) true request h'
  | network pluginId requestId request =>
    refine ends_bind (P := fun _ b' => b'.At none none) ?_ fun _ _ h => h
    exact call_ends (c := ⟨pluginId, requestId, .networkFetch⟩)
      (fun n identity b'' handleId permission operation args h'' => serveNetwork_ends h'' handleId permission operation args) false request h
  | workspace pluginId requestId request =>
    refine ends_bind (P := fun _ b' => b'.At none none) ?_ fun _ _ h => h
    unfold invokeWorkspacePlugin
    split
    · exact h
    exact call_ends (c := ⟨pluginId, requestId, .workspaceRInspect⟩)
      (fun n identity b'' handleId permission operation args h'' => serveWorkspace_ends h'' handleId permission operation args) false request h
  | contribution contributionId origin input =>
    refine ends_bind (P := fun _ b' => b'.At none none) ?_ fun _ _ h => h
    unfold invokeFileContribution
    refine ends_bind (P := fun _ b' => b'.At none none) ?_ ?_
    · refine ends_enter h ?_
      exact fun m b' h' => ends_get h'
    intro crash b' h'
    exact watchingCrashes_ends crash (invokeFileContributionInner_ends h' origin input)

end Calls

/-! ## Runs -/

/-- No handle is in flight, and no active host has a call pending. -/
structure Broker.Idle (b : Broker) : Prop where
  handles : ∀ d g, b.grants.grants.get d = some g → g.inFlight = false
  hosts : ∀ p a, b.active p = some a → a.host.brokerCall = none

theorem Broker.At.isIdle {b : Broker} (h : b.At none none) : b.Idle := by
  refine ⟨?_, fun p a ha => h.idle ha⟩
  intro d g hget
  rw [← Bool.not_eq_true]
  intro hflight
  cases (h.reserves d g hget hflight).1

/-- The registry when the program starts. -/
def Broker.start (contributions : ContributionStore) (permissions : PermissionDb) : Broker where
  active := fun _ => none
  contributions := contributions
  grants := .new
  permissions := permissions
  dispatched := []
  position := 0

theorem start_at (contributions : ContributionStore) (permissions : PermissionDb) : (Broker.start contributions permissions).At none none :=
  ⟨fun _ _ hget => (nomatch hget), fun _ _ ha => (nomatch ha), fun _ _ _ ha => (nomatch ha)⟩

/-- A call of a plugin, in the context that it is asked for in. -/
structure Invocation where
  ctx : RuntimeContext
  call : PluginCall

section Runs

variable {F : Type} [LinearOrder F] (w : Surroundings F)

/-- The registry when the call returns, with a result or an error. -/
def Invocation.step (b : Broker) (i : Invocation) : Broker := final (i.call.run w i.ctx b)

/-- No access fails whose error the call hands on as it stands. -/
def Invocation.orderly (b : Broker) (i : Invocation) : Bool :=
  match i.call.run w i.ctx b with
  | .error (.lapsed _) _ => false
  | .ok _ _ | .error (.failed _) _ => true

variable {w}

theorem Invocation.step_at {b : Broker} {i : Invocation} (h : b.At none none) (horderly : i.orderly w b = true) :
    (i.step w b).At none none := by
  have hends : Ends _ _ (i.call.run w i.ctx b) := call_leaves_idle i.call h
  unfold Invocation.orderly at horderly
  unfold Invocation.step
  cases hresult : i.call.run w i.ctx b with
  | ok a b' =>
    rw [hresult] at hends
    exact hends
  | error e b' =>
    rw [hresult] at hends horderly
    cases e with
    | failed message => exact hends
    | lapsed message => cases horderly

end Runs

/-! ## A call that is left -/

namespace SampleCalls

open SampleHost

/-- A guest that asks to inspect an object of the workspace. -/
def inspectText : String :=
  "\x7b\"type\":\"broker_request\",\"call_id\":\"call.000000000000002a\",\"handle_id\":\"" ++ handleId ++
    "\",\"permission\":\"workspace.r.inspect\",\"operation\":\"workspace.r.inspect\",\"args\":\x7b\x7d\x7d"

def wasm : WasmCrates where
  encode := crates.encode
  decodeStep text :=
    if text = inspectText then
      some (.brokerRequest "call.000000000000002a" handleId "workspace.r.inspect" "workspace.r.inspect" (.obj []))
    else crates.decodeStep text
  sha256 text := if text = inspectText then "18addeec825476bc4faabb6c0c349ba916b10287d7fa262ba7948b404c8bb5aa" else crates.sha256 text

def context : RuntimeContext where
  projectRoot := "/p"
  projectRevision := 1
  projectScopeId := ⟨"project.a", SampleHost.project_valid⟩
  workspace := some SampleGrant.workspace

/-- Nothing happens, the store answers, and the guest returns. -/
def calm (operation : HostEnv) : Moment where
  actions := []
  millis := 1000
  instant := 0
  elapsed := 1
  fault := none
  env := ⟨operation, succeeds, "request.2"⟩
  answer := .ok (.obj [], 2)
  sameWorkspace := true
  resolved := none
  sent := none

/-- A package without permissions. -/
def candidate : Candidate where
  packageDigest := "digest.1"
  identity := identity
  runtime := runtime
  contributionIdentity := none
  minted := []

/-- The user enables the plugin while another one is called, which is not enabled. -/
def enabling : Moment := { calm succeeds with actions := [.enable "plugin.sample" candidate .new] }

def surroundings (moments : List Moment) : Surroundings Int where
  num := SampleSchema.integers
  wasm := wasm
  crates := ⟨fun _ => none, fun _ => "2026-08-01T00:01:00+00:00", fun _ => true, fun _ => ""⟩
  network := SampleFetch.library
  sha256 := SampleGrant.sha256
  decodeFileRequest _ := some ⟨"data/a.csv", 1024⟩
  decodeNetworkRequest _ := none
  decodeInspectRequest _ := some .metadata
  uuid n := String.ofList (List.replicate n 'a')
  moments n := moments.getD n (calm succeeds)

/-- The object that the guest names is not known. -/
def unknownObject : Surroundings Int :=
  surroundings [enabling, calm (replies inspectText), { calm succeeds with answer := .error "unknown_reference" }]

def inspections : List Invocation :=
  [⟨context, .workspace "plugin.other" "request.1" (.obj [])⟩, ⟨context, .workspace "plugin.sample" "request.1" (.obj [])⟩]

/-- The guest asks for a file, is refused, and completes. -/
def refusedFile : Surroundings Int :=
  surroundings [enabling, calm succeeds, calm (replies requestText), calm succeeds, calm succeeds, calm (replies completeText)]

def reads : List Invocation :=
  [⟨context, .workspace "plugin.other" "request.1" (.obj [])⟩, ⟨context, .file "plugin.sample" "request.1" (.obj [])⟩]

end SampleCalls

end Rho.PluginBroker
