import Rho.Extension.WasmHost

/-!
# What an operation of the Wasm host can do

Each operation ends in one of seven ways (`HostEnd`), whatever the guest does and whenever cancellations arrive. Up to its end an
operation only lets cancellations in, runs the guest and changes the guest's memory (`Mid`).
-/

namespace Rho

open Effect WasmPluginHost HostEvent

/-! ## What holds between operations -/

/-- What holds of a host between two operations. -/
structure HostSound (h : WasmPluginHost) : Prop where
  runtime_iff : h.runtime.isSome = true ↔ h.state = .created ∨ h.state = .ready ∨ h.state = .active ∨ h.state = .quiescing
  not_disposing : h.state ≠ .disposing
  slot : h.active = h.brokerCall.map (·.requestId)
  call_live : h.brokerCall.isSome = true → h.state = .active ∨ h.state = .quiescing
  bounds : ∀ call, h.brokerCall = some call → call.steps ≤ maxGuestBrokerSteps ∧
    call.cumulativeResultBytes ≤ maxGuestBrokerResultBytes
  runtime_found : HostEvent.runtimeMissing ∉ h.history

/-- How often the guest was entered. -/
def guestEntries (h : WasmPluginHost) : Nat := h.history.count .guestEntered

/-- The guest has returned a step that the host accepts for the call. -/
def StepReply (crates : WasmCrates) (env : HostEnv) (callId : String) (maximumReturnBytes : Nat)
    (accepts : String → GuestStep → Prop) : Prop :=
  ∃ packed encoded step, env.outcome = .returned packed ∧ readUtf8 env.memory packed maximumReturnBytes = .ok encoded ∧
    decodeGuestStep crates encoded callId maximumReturnBytes = .ok step ∧ accepts encoded step

/-- The reply that the operation needs of the guest: a status of zero, a text, or a step of the call that does not repeat the
request before it. -/
def HostOp.GoodReply (crates : WasmCrates) (env : HostEnv) (h : WasmPluginHost) : HostOp → Prop
  | .beginBrokerCall _ _ => StepReply crates env (callIdOf env.nextCallId) maxGuestStepBytes fun _ _ => True
  | .beginContributionCall _ _ =>
    StepReply crates env (callIdOf env.nextCallId) maxGuestContributionReturnBytes fun _ _ => True
  | .resumeBrokerCall _ _ _ => ∃ call, h.brokerCall = some call ∧ StepReply crates env call.callId maxGuestStepBytes
      fun encoded step => repeats (crates.sha256 encoded) call.lastStepDigest step = false
  | .resumeContributionCall _ _ _ => ∃ call, h.brokerCall = some call ∧
      StepReply crates env call.callId maxGuestContributionReturnBytes
        fun encoded step => repeats (crates.sha256 encoded) call.lastStepDigest step = false
  | .cancelBrokerCall _ => env.outcome = .returned 0
  | .quarantineForTimeout | .cancelInflight _ => False
  | .handleFrame frame =>
    match frame.message with
    | .echo _ _ => ∃ packed text, env.outcome = .returned packed ∧ readUtf8 env.memory packed maxEchoPayloadBytes = .ok text
    | .activate | .heartbeat | .quiesce | .dispose => env.outcome = .returned 0
    | .hello _ | .cancel _ => False

def HostOp.isResume : HostOp → Bool
  | .resumeBrokerCall _ _ _ | .resumeContributionCall _ _ _ => true
  | .beginBrokerCall _ _ | .beginContributionCall _ _ | .cancelBrokerCall _ | .quarantineForTimeout | .handleFrame _
  | .cancelInflight _ => false

/-- An echo that reaches the slot while a call is pending whose cancellation was requested, be it just before. -/
def HostOp.Disarms (env : HostEnv) (h : WasmPluginHost) : HostOp → Prop
  | .handleFrame ⟨instanceId, .echo _ payload⟩ =>
    instanceId = h.identity.hostInstanceId ∧ h.state = .active ∧ payload.utf8ByteSize ≤ maxEchoPayloadBytes ∧
      ∃ call, h.brokerCall = some call ∧ (h.cancelled = true ∨ call.requestId ∈ env.beforeReset)
  | _ => False

/-! ## Cancellations that are outstanding -/

/-- A cancellation of the request was accepted, and no call of the request has begun since. -/
def Outstanding (requestId : HostRequestId) (history : List HostEvent) : Prop :=
  ∃ before between, history = before ++ .cancelAccepted requestId :: between ∧ HostEvent.begun requestId ∉ between

/-- While a cancellation of the request is outstanding, the flag is set. -/
def Armed (h : WasmPluginHost) (requestId : HostRequestId) : Prop := Outstanding requestId h.history → h.cancelled = true

namespace WasmHostAux

variable {requestId : HostRequestId} {event : HostEvent} {state : HostInstanceState} {α : Type} {Q : α → WasmPluginHost → Prop}
  {E : HostProtocolError → WasmPluginHost → Prop} {runtime : WasmRuntime} {β : Type} {x : HostM α} {steps : Nat}
  {step : GuestStep}

theorem outstanding_append {history : List HostEvent} : Outstanding requestId (history ++ [event]) ↔
      event = .cancelAccepted requestId ∨ (Outstanding requestId history ∧ event ≠ .begun requestId) := by
  constructor
  · rintro ⟨before, between, hsplit, hnot⟩
    rcases List.eq_nil_or_concat between with rfl | ⟨between, last, rfl⟩
    · obtain ⟨-, hlast⟩ := List.append_inj' hsplit rfl
      exact Or.inl (List.cons.inj hlast).1
    · rw [List.concat_eq_append, ← List.cons_append, ← List.append_assoc] at hsplit
      obtain ⟨hhistory, hlast⟩ := List.append_inj' hsplit rfl
      obtain rfl := (List.cons.inj hlast).1
      rw [List.concat_eq_append, List.mem_append, not_or, List.mem_singleton] at hnot
      exact Or.inr ⟨⟨before, between, hhistory, hnot.1⟩, fun h => hnot.2 h.symm⟩
  · rintro (rfl | ⟨⟨before, between, rfl, hnot⟩, hevent⟩)
    · exact ⟨history, [], rfl, List.not_mem_nil⟩
    · refine ⟨before, between ++ [event], by simp, ?_⟩
      rw [List.mem_append, List.mem_singleton]
      rintro (h | h)
      · exact hnot h
      · exact hevent h.symm

/-! ## Up to the end of an operation -/

/-- Only cancellations, runs of the guest and changes of its memory lie between. -/
structure Mid (h t : WasmPluginHost) : Prop where
  identity : t.identity = h.identity
  state : t.state = h.state
  brokerCall : t.brokerCall = h.brokerCall
  active : t.active = h.active
  runtime : t.runtime.isSome = h.runtime.isSome
  missing : HostEvent.runtimeMissing ∈ t.history ↔ HostEvent.runtimeMissing ∈ h.history
  armed : ∀ requestId, Armed h requestId → Armed t requestId

variable {h t u : WasmPluginHost} {env : HostEnv}

theorem Mid.refl (h : WasmPluginHost) : Mid h h := ⟨rfl, rfl, rfl, rfl, rfl, Iff.rfl, fun _ h => h⟩

theorem Mid.trans (h₁ : Mid h t) (h₂ : Mid t u) : Mid h u where
  identity := h₂.identity.trans h₁.identity
  state := h₂.state.trans h₁.state
  brokerCall := h₂.brokerCall.trans h₁.brokerCall
  active := h₂.active.trans h₁.active
  runtime := h₂.runtime.trans h₁.runtime
  missing := h₂.missing.trans h₁.missing
  armed := fun requestId h => h₂.armed requestId (h₁.armed requestId h)

/-- An event that is neither an acceptance nor a missing runtime. -/
theorem mid_record (haccepted : ∀ requestId, event ≠ .cancelAccepted requestId)
    (hmissing : event ≠ .runtimeMissing) (h : WasmPluginHost) : Mid h (record event h) := by
  refine ⟨rfl, rfl, rfl, rfl, rfl, ?_, ?_⟩
  · unfold record
    rw [List.mem_append, List.mem_singleton]
    exact or_iff_left fun h => hmissing h.symm
  · intro requestId harmed hout
    rcases outstanding_append.mp hout with h | h
    · exact absurd h (haccepted requestId)
    · exact harmed h.1

theorem mid_cancelInflight (requestId : HostRequestId) (h : WasmPluginHost) : Mid h (cancelInflight requestId h).2 := by
  unfold cancelInflight
  split
  · exact Mid.refl h
  · refine ⟨rfl, rfl, rfl, rfl, rfl, ?_, fun _ _ _ => rfl⟩
    change runtimeMissing ∈ h.history ++ [cancelAccepted requestId] ↔ _
    rw [List.mem_append, List.mem_singleton]
    exact or_iff_left nofun

theorem entries_cancelInflight (requestId : HostRequestId) (h : WasmPluginHost) :
    guestEntries (cancelInflight requestId h).2 = guestEntries h := by
  unfold cancelInflight
  split
  · rfl
  · change (h.history ++ [cancelAccepted requestId]).count _ = _
    rw [List.count_append]
    rfl

/-- Cancellations arrive: nothing else happens, and a flag that was set stays set. -/
theorem mid_cancelEach (requestIds : List HostRequestId) (h : WasmPluginHost) :
    Mid h (cancelEach requestIds h) ∧ guestEntries (cancelEach requestIds h) = guestEntries h ∧
      (h.cancelled = true → (cancelEach requestIds h).cancelled = true) ∧ (cancelEach requestIds h).runtime = h.runtime := by
  induction requestIds generalizing h with
  | nil => exact ⟨Mid.refl h, rfl, id, rfl⟩
  | cons requestId requestIds ih =>
    obtain ⟨hmid, hentries, hflag, hruntime⟩ := ih (cancelInflight requestId h).2
    refine ⟨(mid_cancelInflight requestId h).trans hmid, hentries.trans (entries_cancelInflight requestId h), ?_, ?_⟩
    · intro hset
      refine hflag ?_
      unfold cancelInflight
      split
      · exact hset
      · rfl
    · refine hruntime.trans ?_
      unfold cancelInflight
      split
      · rfl
      · rfl

/-! ## The end of the host -/

/-- The host has lost its runtime, its call and what was in the slot. -/
structure Ended (state : HostInstanceState) (h t : WasmPluginHost) : Prop where
  state_eq : t.state = state
  runtime : t.runtime = none
  brokerCall : t.brokerCall = none
  active : t.active = none
  missing : HostEvent.runtimeMissing ∈ t.history ↔ HostEvent.runtimeMissing ∈ h.history

theorem Mid.ended (hmid : Mid h t) (hended : Ended state t u) : Ended state h u :=
  { hended with missing := hended.missing.trans hmid.missing }

theorem ended_cleared (state : HostInstanceState) (h : WasmPluginHost) : Ended state h (cleared state h) :=
  ⟨rfl, rfl, rfl, rfl, Iff.rfl⟩

theorem fail_ends {α : Type} {Q : α → WasmPluginHost → Prop} (code : HostProtocolErrorCode) (h : WasmPluginHost) :
    Ends Q (fun _ t => Ended .quarantined h t) (fail code h) :=
  ended_cleared .quarantined h

/-! ## Entries into the guest -/

/-- A guest that returns leaves the host as it was, with the memory it leaves; it was entered with the flag not set. -/
theorem callGuest_ends (broker : Bool) (hruntime : h.runtime.isSome = true) : Ends
      (fun value t => Mid h t ∧ h.cancelled = false ∧ env.outcome = .returned value ∧
        ∃ runtime, t.runtime = some runtime ∧ runtime.memory = env.memory)
      (fun _ t => Ended .quarantined h t) (callGuest env broker h) := by
  obtain ⟨hmid, -, hflag, hsame⟩ := mid_cancelEach env.beforeLoad h
  unfold callGuest
  refine ends_bind (P := fun _ t => t = cancelEach env.beforeLoad h) rfl ?_
  rintro _ _ rfl
  refine ends_get ?_
  cases hcancelled : (cancelEach env.beforeLoad h).cancelled with
  | true =>
    simp only [if_true]
    exact (fail_ends _ _).onError fun _ _ h => hmid.ended h
  | false =>
    simp only [Bool.false_eq_true, if_false]
    obtain ⟨runtime, hrt⟩ := Option.isSome_iff_exists.mp hruntime
    rw [hsame, hrt]
    simp only
    split
    · exact (fail_ends _ _).onError fun _ _ h => hmid.ended h
    · split
      · exact (fail_ends _ _).onError fun _ _ h => hmid.ended h
      · have hentered : Mid h (cancelEach env.inGuest (record .guestEntered (cancelEach env.beforeLoad h))) :=
          (hmid.trans (mid_record (fun _ h => by cases h) (fun h => by cases h) _)).trans (mid_cancelEach env.inGuest _).1
        refine ends_bind (P := fun _ t => t = record .guestEntered (cancelEach env.beforeLoad h)) rfl ?_
        rintro _ _ rfl
        refine ends_bind (P := fun _ t => t = cancelEach env.inGuest (record .guestEntered (cancelEach env.beforeLoad h))) rfl ?_
        rintro _ _ rfl
        refine ends_bind (P := fun d t => d = t ∧
          t = cancelEach env.inGuest (record .guestEntered (cancelEach env.beforeLoad h))) ⟨rfl, rfl⟩ ?_
        rintro _ _ ⟨rfl, rfl⟩
        cases houtcome : env.outcome with
        | returned value =>
          refine ⟨?_, ?_, rfl, _, rfl, rfl⟩
          · refine hentered.trans ⟨rfl, rfl, rfl, rfl, ?_, Iff.rfl, fun _ h => h⟩
            rw [hentered.runtime, hruntime]
            rfl
          · cases hset : h.cancelled with
            | true => rw [hflag hset] at hcancelled; cases hcancelled
            | false => rfl
        | trapped trap => exact (fail_ends _ _).onError fun _ _ h => hentered.ended h
        | failed => exact (fail_ends _ _).onError fun _ _ h => hentered.ended h
        | panicked => exact (fail_ends _ _).onError fun _ _ h => hentered.ended h

theorem requireSuccess_ends (status : Nat) (h : WasmPluginHost) :
    Ends (fun _ t => t = h ∧ status = 0) (fun _ t => Ended .quarantined h t) (requireSuccess status h) := by
  unfold requireSuccess
  split
  · next hzero => exact ⟨rfl, hzero⟩
  · exact fail_ends _ h

/-- An entry whose status is checked. -/
theorem statusCall_ends (broker : Bool) (hruntime : h.runtime.isSome = true) {rest : HostM α}
    (hfailed : ∀ e t, Ended .quarantined h t → E e t) (hrest : ∀ t, Mid h t → env.outcome = .returned 0 → Ends Q E (rest t)) :
    Ends Q E ((callGuest env broker >>= fun status => requireSuccess status >>= fun _ => rest) h) := by
  refine ends_seq (callGuest_ends broker hruntime) hfailed ?_
  rintro status t ⟨hmid, -, houtcome, -⟩
  refine ends_seq (requireSuccess_ends status t) (fun e u hu => hfailed e u (hmid.ended hu)) ?_
  rintro _ _ ⟨rfl, rfl⟩
  exact hrest _ hmid houtcome

theorem readGuest_ends (hruntime : h.runtime = some runtime) (packed maximumBytes : Nat) :
    Ends (fun text t => t = h ∧ readUtf8 runtime.memory packed maximumBytes = .ok text)
      (fun _ t => Ended .quarantined h t) (readGuest packed maximumBytes h) := by
  unfold readGuest
  refine ends_get ?_
  rw [hruntime]
  simp only
  cases hread : readUtf8 runtime.memory packed maximumBytes with
  | ok text => exact ⟨rfl, rfl⟩
  | error code => exact fail_ends code _

/-- Writing the input changes the guest's memory at most. -/
theorem writeGuest_ends (hruntime : h.runtime.isSome = true) (bytes : List UInt8) (maximumBytes : Nat) :
    Ends (fun _ t => Mid h t ∧ guestEntries t = guestEntries h ∧ t.cancelled = h.cancelled ∧ t.history = h.history) (fun _ _ => False)
      (writeGuest bytes maximumBytes h) := by
  have hsame : Mid h h ∧ guestEntries h = guestEntries h ∧ h.cancelled = h.cancelled ∧ h.history = h.history :=
    ⟨Mid.refl h, rfl, rfl, rfl⟩
  unfold writeGuest
  refine ends_get ?_
  obtain ⟨runtime, hrt⟩ := Option.isSome_iff_exists.mp hruntime
  split
  · exact hsame
  · rw [hrt]
    simp only
    split
    · exact hsame
    · refine ⟨⟨rfl, rfl, rfl, rfl, ?_, Iff.rfl, fun _ h => h⟩, rfl, rfl, rfl⟩
      rw [hruntime]
      rfl

theorem readStep_ends (crates : WasmCrates) (hruntime : h.runtime = some runtime) (packed : Nat)
    (callId : String) (maximumReturnBytes : Nat) : Ends
      (fun read t => t = h ∧ readUtf8 runtime.memory packed maximumReturnBytes = .ok read.1 ∧
        decodeGuestStep crates read.1 callId maximumReturnBytes = .ok read.2)
      (fun _ t => Ended .quarantined h t) (readStep crates packed callId maximumReturnBytes h) := by
  unfold readStep
  refine ends_bind (readGuest_ends hruntime packed maximumReturnBytes) ?_
  rintro encoded _ ⟨rfl, hread⟩
  cases hdecode : decodeGuestStep crates encoded callId maximumReturnBytes with
  | ok step => exact ⟨rfl, hread, hdecode⟩
  | error code => exact fail_ends code _

/-- An entry that returns a step of a call. -/
theorem stepCall_ends (crates : WasmCrates) (hruntime : h.runtime.isSome = true) (callId : String)
    (maximumReturnBytes : Nat) {rest : String × GuestStep → HostM α} (hfailed : ∀ e t, Ended .quarantined h t → E e t)
    (hrest : ∀ encoded step t, Mid h t → h.cancelled = false →
      (∃ packed, env.outcome = .returned packed ∧ readUtf8 env.memory packed maximumReturnBytes = .ok encoded ∧
        decodeGuestStep crates encoded callId maximumReturnBytes = .ok step) → Ends Q E (rest (encoded, step) t)) :
    Ends Q E ((callGuest env true >>= fun packed => readStep crates packed callId maximumReturnBytes >>= rest) h) := by
  refine ends_seq (callGuest_ends true hruntime) hfailed ?_
  rintro packed t ⟨hmid, hflag, houtcome, runtime, hreturned, hmemory⟩
  refine ends_bind ((readStep_ends crates hreturned packed callId maximumReturnBytes).mono (fun _ _ h => h)
    fun e u hended => hfailed e u (hmid.ended hended)) ?_
  rintro ⟨encoded, step⟩ _ ⟨rfl, hread, hdecode⟩
  rw [hmemory] at hread
  exact hrest encoded step _ hmid hflag ⟨packed, houtcome, hread, hdecode⟩

/-! ## The slot -/

theorem cancelEach_cancelled {requestIds : List HostRequestId} (hset : (cancelEach requestIds h).cancelled = true) :
    h.cancelled = true ∨ ∃ requestId ∈ requestIds, h.active = some requestId := by
  induction requestIds generalizing h with
  | nil => exact Or.inl hset
  | cons requestId requestIds ih =>
    rcases ih hset with hflag | ⟨other, hmem, hactive⟩
    · simp only [cancelInflight] at hflag
      split at hflag
      · exact Or.inl hflag
      · next hactive => exact Or.inr ⟨requestId, List.mem_cons_self, Decidable.not_not.mp hactive⟩
    · rw [(mid_cancelInflight requestId h).active] at hactive
      exact Or.inr ⟨other, List.mem_cons_of_mem _ hmem, hactive⟩

/-- What is left as it was when a request asks for the slot. -/
structure Asked (env : HostEnv) (h t : WasmPluginHost) : Prop where
  identity : t.identity = h.identity
  state : t.state = h.state
  brokerCall : t.brokerCall = h.brokerCall
  runtime : t.runtime = h.runtime
  missing : HostEvent.runtimeMissing ∈ t.history ↔ HostEvent.runtimeMissing ∈ h.history
  guestEntries : guestEntries t = guestEntries h
  armed : (cancelEach env.beforeReset h).cancelled = false → ∀ requestId, Armed h requestId → Armed t requestId

theorem asked_reset (env : HostEnv) (h : WasmPluginHost) :
    Asked env h (cancelEach env.beforeSlot { cancelEach env.beforeReset h with cancelled := false }) ∧
      (cancelEach env.beforeSlot { cancelEach env.beforeReset h with cancelled := false }).active = h.active := by
  obtain ⟨hmid, hentries, -, hruntime⟩ := mid_cancelEach env.beforeReset h
  obtain ⟨hmid', hentries', -, hruntime'⟩ := mid_cancelEach env.beforeSlot { cancelEach env.beforeReset h with cancelled := false }
  refine ⟨⟨hmid'.identity.trans hmid.identity, hmid'.state.trans hmid.state, hmid'.brokerCall.trans hmid.brokerCall,
    hruntime'.trans hruntime, hmid'.missing.trans hmid.missing, hentries'.trans hentries, ?_⟩, hmid'.active.trans hmid.active⟩
  intro hflag requestId harmed
  refine hmid'.armed requestId fun hout => ?_
  -- The flag was not set, so nothing is outstanding.
  cases hflag.symm.trans (hmid.armed requestId harmed hout)

/-- A request takes the slot if it is free, and leaves it alone otherwise. -/
theorem beginRequest_ends (env : HostEnv) (requestId : HostRequestId) (h : WasmPluginHost) : Ends
      (fun taken t => Asked env h t ∧
        ((taken = true ∧ h.active = none ∧ t.active = some requestId) ∨ (taken = false ∧ t.active = h.active)))
      (fun _ _ => False) (beginRequest env requestId h) := by
  obtain ⟨hasked, hactive⟩ := asked_reset env h
  change Ends _ _ (EStateM.Result.ok (takeSlot requestId _).1 (takeSlot requestId _).2)
  unfold takeSlot
  split
  · exact ⟨{ hasked with }, Or.inr ⟨rfl, hactive⟩⟩
  · split
    · exact ⟨hasked, Or.inr ⟨rfl, hactive⟩⟩
    · next hfree =>
      rw [hactive, Option.not_isSome_iff_eq_none] at hfree
      exact ⟨{ hasked with }, Or.inl ⟨rfl, hfree, rfl⟩⟩

/-- What the end of a request leaves. -/
theorem finishRequest_ends (env : HostEnv) (requestId : HostRequestId) (h : WasmPluginHost) : Ends
      (fun _ t => t.state = h.state ∧ t.brokerCall = h.brokerCall ∧ t.runtime = h.runtime ∧ guestEntries t = guestEntries h ∧
        (runtimeMissing ∈ t.history ↔ runtimeMissing ∈ h.history) ∧
        (h.active = none ∨ h.active = some requestId → t.active = none))
      (fun _ _ => False) (finishRequest env requestId h) := by
  obtain ⟨hmid, hentries, -, hruntime⟩ := mid_cancelEach env.beforeFinish h
  refine ⟨hmid.state, hmid.brokerCall, hruntime, hentries, hmid.missing, ?_⟩
  intro hactive
  change (if (cancelEach env.beforeFinish h).active = some requestId then none else _) = none
  rw [hmid.active]
  rcases hactive with hactive | hactive
  · rw [hactive, if_neg fun h => by cases h]
  · rw [hactive, if_pos rfl]

/-! ## How operations end -/

/-- How an operation ends. -/
inductive HostEnd (crates : WasmCrates) (op : HostOp) (env : HostEnv) (h : WasmPluginHost) : WasmPluginHost → Prop where
  | same {t : WasmPluginHost} (hstate : t.state = h.state) (hcall : t.brokerCall = h.brokerCall) (hactive : t.active = h.active)
      (hruntime : t.runtime.isSome = h.runtime.isSome)
      (hmissing : HostEvent.runtimeMissing ∈ t.history ↔ HostEvent.runtimeMissing ∈ h.history) (hentries : guestEntries t = guestEntries h)
      (harmed : ¬op.Disarms env h → ∀ call, h.brokerCall = some call → Armed h call.requestId → Armed t call.requestId) :
      HostEnd crates op env h t
  | moved {t u : WasmPluginHost} (state : HostInstanceState) (hmid : Mid h t) (hu : u = { t with state := state })
      (hlive : h.runtime.isSome = true) (hnext : state = .active ∨ state = .quiescing)
      (hstate : h.state = .ready ∨ h.state = .active) (hgood : op.GoodReply crates env h) : HostEnd crates op env h u
  | negotiated {t : WasmPluginHost} (version : Nat) (hstate : h.state = .created)
      (ht : t = { h with negotiatedVersion := some version, state := .ready }) : HostEnd crates op env h t
  | freed {t : WasmPluginHost} (hstate : t.state = h.state) (hcall : t.brokerCall = none) (hactive : t.active = none)
      (hruntime : t.runtime.isSome = h.runtime.isSome)
      (hmissing : HostEvent.runtimeMissing ∈ t.history ↔ HostEvent.runtimeMissing ∈ h.history)
      (hgood : guestEntries t = guestEntries h ∨ op.GoodReply crates env h) : HostEnd crates op env h t
  | yielded {t : WasmPluginHost} (call : GuestBrokerCallState) (hstate : t.state = h.state) (hcall : t.brokerCall = some call)
      (hactive : t.active = some call.requestId) (hruntime : t.runtime.isSome = h.runtime.isSome)
      (hmissing : HostEvent.runtimeMissing ∈ t.history ↔ HostEvent.runtimeMissing ∈ h.history)
      (hlive : h.state = .active ∨ h.brokerCall.isSome = true)
      (hbounds : call.steps ≤ maxGuestBrokerSteps ∧ call.cumulativeResultBytes ≤ maxGuestBrokerResultBytes)
      (harmed : (∀ before, h.brokerCall = some before → Armed h before.requestId) → Armed t call.requestId)
      (hgood : op.GoodReply crates env h) : HostEnd crates op env h t
  | quarantined {t : WasmPluginHost} (hended : Ended .quarantined h t) (hstate : h.state ≠ .disposed ∨ op.isResume = true) :
      HostEnd crates op env h t
  | disposed {t : WasmPluginHost} (hended : Ended .disposed h t) (hstate : h.state ≠ .quarantined)
      (hgood : op.GoodReply crates env h) : HostEnd crates op env h t

theorem HostEnd.refl (crates : WasmCrates) (op : HostOp) (env : HostEnv) (h : WasmPluginHost) : HostEnd crates op env h h :=
  .same rfl rfl rfl rfl Iff.rfl rfl fun _ _ _ harmed => harmed

/-- Both ends of an operation. -/
abbrev OpEnds {α : Type} (crates : WasmCrates) (op : HostOp) (env : HostEnv) (h : WasmPluginHost)
    (r : EStateM.Result HostProtocolError WasmPluginHost α) : Prop :=
  Ends (fun _ t => HostEnd crates op env h t) (fun _ t => HostEnd crates op env h t) r

variable {crates : WasmCrates} {op : HostOp}

/-- The beginning of an operation, which reads the host. -/
theorem get_ends {f : WasmPluginHost → HostM α} (hrest : Ends Q E (f h h)) : Ends Q E ((get >>= f) h) := hrest

theorem throw_ends (e : HostProtocolError) : OpEnds crates op env h ((throw e : HostM α) h) :=
  HostEnd.refl crates op env h

theorem fail_opEnds (code : HostProtocolErrorCode) (hstate : h.state ≠ .disposed ∨ op.isResume = true) :
    OpEnds crates op env h ((fail code : HostM α) h) :=
  (fail_ends code h).onError fun _ _ hended => .quarantined hended hstate

/-! ## Frames -/

theorem hello_ends (apiVersion : Nat) : OpEnds crates op env h (hello apiVersion h) := by
  unfold hello
  refine get_ends ?_
  split
  · exact throw_ends _
  · next hstate =>
    split
    · exact throw_ends _
    · exact .negotiated apiVersion (Decidable.not_not.mp hstate) rfl

theorem activate_ends (hsound : HostSound h) (hgood : env.outcome = .returned 0 → op.GoodReply crates env h) :
    OpEnds crates op env h (activate env h) := by
  unfold activate
  refine get_ends ?_
  split
  · exact throw_ends _
  · next hguard =>
    obtain ⟨hstate, -⟩ := not_or.mp hguard
    have hready : h.state = .ready := Decidable.not_not.mp hstate
    have hruntime := hsound.runtime_iff.mpr (Or.inr (Or.inl hready))
    refine statusCall_ends false hruntime (fun e t hended => .quarantined hended (Or.inl ?_)) ?_
    · rw [hready]
      exact nofun
    · intro t hmid houtcome
      exact .moved .active hmid rfl hruntime (Or.inl rfl) (Or.inl hready) (hgood houtcome)

theorem heartbeat_ends (hsound : HostSound h) (hgood : env.outcome = .returned 0 → op.GoodReply crates env h) :
    OpEnds crates op env h (heartbeat env h) := by
  unfold heartbeat
  refine get_ends ?_
  split
  · exact throw_ends _
  · next hguard =>
    have hactive : h.state = .active := Decidable.not_not.mp hguard
    have hruntime := hsound.runtime_iff.mpr (Or.inr (Or.inr (Or.inl hactive)))
    refine statusCall_ends false hruntime (fun e t hended => .quarantined hended (Or.inl ?_)) ?_
    · rw [hactive]
      exact nofun
    · intro t hmid houtcome
      refine .moved .active hmid ?_ hruntime (Or.inl rfl) (Or.inr hactive) (hgood houtcome)
      rw [← hactive, ← hmid.state]

theorem cancelBeforeDispatch_ends (requestId : HostRequestId) : OpEnds crates op env h (cancelBeforeDispatch requestId h) := by
  unfold cancelBeforeDispatch
  refine get_ends ?_
  split
  · exact throw_ends _
  · split
    · exact throw_ends _
    · exact .same rfl rfl rfl rfl Iff.rfl rfl fun _ _ _ harmed => harmed

theorem quiesce_ends (hsound : HostSound h) (hgood : env.outcome = .returned 0 → op.GoodReply crates env h) :
    OpEnds crates op env h (quiesce env h) := by
  unfold quiesce
  refine get_ends ?_
  split
  · exact throw_ends _
  · next hguard =>
    have hstate : h.state = .ready ∨ h.state = .active := by
      rcases Decidable.not_and_iff_not_or_not.mp hguard with h | h
      · exact Or.inr (Decidable.not_not.mp h)
      · exact Or.inl (Decidable.not_not.mp h)
    have hruntime := hsound.runtime_iff.mpr (by rcases hstate with h | h <;> simp [h])
    refine statusCall_ends false hruntime (fun e t hended => .quarantined hended (Or.inl ?_)) ?_
    · rcases hstate with h | h <;> simp [h]
    · intro t hmid houtcome
      exact .moved .quiescing hmid rfl hruntime (Or.inr rfl) hstate (hgood houtcome)

theorem dispose_ends (hsound : HostSound h) (hgood : env.outcome = .returned 0 → op.GoodReply crates env h) :
    OpEnds crates op env h (dispose env h) := by
  unfold dispose
  refine get_ends ?_
  split
  · exact throw_ends _
  · next hguard =>
    have hstate : h.state = .ready ∨ h.state = .active ∨ h.state = .quiescing := by
      by_contra hnot
      obtain ⟨h₁, h₂, h₃⟩ := not_or.mp hnot |>.imp id not_or.mp
      exact hguard ⟨h₁, h₂, h₃⟩
    have hruntime := hsound.runtime_iff.mpr (Or.inr hstate)
    -- The guest is entered in the state that nobody sees.
    let disposing : WasmPluginHost := { h with state := .disposing }
    have hdisposing : disposing.runtime.isSome = true := hruntime
    refine ends_bind (P := fun _ t => t = disposing) (show Ends _ _ (.ok _ disposing) from rfl) ?_
    rintro _ _ rfl
    refine ends_handle (P := fun _ t => Mid disposing t ∧ env.outcome = .returned 0)
      (R := fun _ t => Ended .quarantined disposing t) ?_ ?_ ?_
    · refine ends_bind (callGuest_ends false hdisposing) ?_
      rintro status t ⟨hmid, -, houtcome, -⟩
      refine (requireSuccess_ends status t).mono ?_ fun _ _ hended => hmid.ended hended
      rintro _ _ ⟨rfl, rfl⟩
      exact ⟨hmid, houtcome⟩
    · rintro _ t ⟨hmid, houtcome⟩
      refine .disposed ⟨rfl, rfl, rfl, rfl, hmid.missing⟩ ?_ (hgood houtcome)
      rcases hstate with h | h | h <;> simp [h]
    · intro e t hended
      refine .quarantined ⟨hended.state_eq, rfl, hended.brokerCall, hended.active, hended.missing⟩ (Or.inl ?_)
      rcases hstate with h | h | h <;> simp [h]

/-- Finishing a request on a host that has ended. -/
theorem Ended.finish (hended : Ended state h t) (requestId : HostRequestId) :
    Ends (fun _ u => Ended state h u) (fun _ _ => False) (finishRequest env requestId t) := by
  refine (finishRequest_ends env requestId t).mono ?_ fun _ _ h => h
  rintro _ u ⟨hstate, hcall, hruntime, -, hmissing, hfree⟩
  exact ⟨hstate.trans hended.state_eq, hruntime.trans hended.runtime, hcall.trans hended.brokerCall, hfree (Or.inl hended.active),
    hmissing.trans hended.missing⟩

/-- A failure after a request is finished. -/
theorem finish_fail_ends (requestId : HostRequestId) (code : HostProtocolErrorCode)
    (hmissing : runtimeMissing ∈ t.history ↔ runtimeMissing ∈ h.history) :
    Ends Q (fun _ u => Ended .quarantined h u) ((finishRequest env requestId >>= fun _ => (fail code : HostM α)) t) := by
  refine ends_certain (finishRequest_ends env requestId t) ?_
  rintro _ u ⟨-, -, -, -, hmissing', -⟩
  exact (fail_ends code u).onError fun _ _ hended => { hended with missing := hended.missing.trans (hmissing'.trans hmissing) }

/-- A request that asks for the slot while nothing disarms leaves a pending call as it was. -/
theorem Asked.same (hsound : HostSound h) (hasked : Asked env h t) (hactive : t.active = h.active)
    (hdisarms : ∀ call, h.brokerCall = some call → h.cancelled = true ∨ call.requestId ∈ env.beforeReset → op.Disarms env h) :
    HostEnd crates op env h t := by
  refine .same hasked.state hasked.brokerCall hactive (by rw [hasked.runtime]) hasked.missing hasked.guestEntries ?_
  intro hnot call hcall harmed
  refine hasked.armed ?_ _ harmed
  by_contra hset
  rw [Bool.not_eq_false] at hset
  refine hnot (hdisarms call hcall ?_)
  refine (cancelEach_cancelled hset).imp id ?_
  rintro ⟨requestId, hmem, hslot⟩
  rw [hsound.slot, hcall] at hslot
  cases hslot
  exact hmem

theorem echo_ends (hsound : HostSound h) (requestId : HostRequestId) (payload : String)
    (hdisarms : h.state = .active → payload.utf8ByteSize ≤ maxEchoPayloadBytes → ∀ call, h.brokerCall = some call →
      h.cancelled = true ∨ call.requestId ∈ env.beforeReset → op.Disarms env h)
    (hgood : ∀ packed text, env.outcome = .returned packed → readUtf8 env.memory packed maxEchoPayloadBytes = .ok text →
      op.GoodReply crates env h) : OpEnds crates op env h (echo env requestId payload h) := by
  unfold echo
  refine get_ends ?_
  split
  · exact throw_ends _
  · next hguard =>
    have hactive : h.state = .active := Decidable.not_not.mp hguard
    have hnot : h.state ≠ .disposed ∨ op.isResume = true := Or.inl (by rw [hactive]; exact nofun)
    split
    · exact throw_ends _
    · next hpayload =>
      refine ends_certain (beginRequest_ends env requestId h) ?_
      rintro taken t ⟨hasked, ⟨rfl, hfree, hslot⟩ | ⟨rfl, hslot⟩⟩
      · -- The slot was free, so no call is pending.
        have hcall : h.brokerCall = none := by
          have hnone := hsound.slot
          rw [hfree] at hnone
          exact Option.map_eq_none_iff.mp hnone.symm
        obtain ⟨runtime, hruntime⟩ := Option.isSome_iff_exists.mp (hsound.runtime_iff.mpr (Or.inr (Or.inr (Or.inl hactive))))
        simp only [Bool.not_true, Bool.false_eq_true, if_false]
        refine get_ends ?_
        rw [hasked.runtime, hruntime]
        simp only
        split
        · exact (finish_fail_ends requestId _ hasked.missing).onError fun _ _ hended => .quarantined hended hnot
        · let written : WasmPluginHost :=
            { t with
              runtime := some { runtime with memory := payload.toUTF8.toList ++ runtime.memory.drop payload.utf8ByteSize } }
          refine ends_bind (P := fun _ u => u = written) (show Ends _ _ (.ok _ written) from rfl) ?_
          rintro _ _ rfl
          refine ends_bind
            (P := fun packed u => env.outcome = .returned packed ∧ u.state = h.state ∧ u.brokerCall = none ∧ u.active = none ∧
              (∃ runtime, u.runtime = some runtime ∧ runtime.memory = env.memory) ∧
              (runtimeMissing ∈ u.history ↔ runtimeMissing ∈ h.history)) ?_ ?_
          · refine ends_handle (callGuest_ends false (show written.runtime.isSome = true from rfl)) ?_ ?_
            · rintro packed u ⟨hmid, -, houtcome, runtime', hruntime', hmemory⟩
              refine ends_certain (finishRequest_ends env requestId u) ?_
              rintro _ w ⟨hstate, hcall', hruntime'', -, hmissing, hfreed⟩
              exact ⟨houtcome, hstate.trans (hmid.state.trans hasked.state),
                hcall'.trans (hmid.brokerCall.trans (hasked.brokerCall.trans hcall)),
                hfreed (Or.inr (hmid.active.trans hslot)), ⟨runtime', hruntime''.trans hruntime', hmemory⟩,
                hmissing.trans (hmid.missing.trans hasked.missing)⟩
            · intro e u hended
              refine ends_certain (hended.finish requestId) ?_
              intro _ w hended'
              exact .quarantined { hended' with missing := hended'.missing.trans hasked.missing } hnot
          · rintro packed u ⟨houtcome, hstate, hcall', hactive', ⟨runtime', hruntime', hmemory⟩, hmissing⟩
            refine ends_bind ((readGuest_ends hruntime' packed maxEchoPayloadBytes).onError fun _ _ hended =>
              .quarantined { hended with missing := hended.missing.trans hmissing } hnot) ?_
            rintro text _ ⟨rfl, hread⟩
            rw [hmemory] at hread
            refine .freed hstate hcall' hactive' ?_ hmissing (Or.inr (hgood packed text houtcome hread))
            rw [hruntime', hruntime]
            rfl
      · simp only [Bool.not_false, if_true]
        exact hasked.same hsound hslot (hdisarms hactive (Nat.not_lt.mp hpayload))

theorem handleFrame_ends (hsound : HostSound h) (frame : HostFrame) :
    OpEnds crates (.handleFrame frame) env h (handleFrame env frame h) := by
  obtain ⟨instanceId, message⟩ := frame
  unfold handleFrame
  refine get_ends ?_
  split
  · exact throw_ends _
  · next hinstance =>
    split
    · exact throw_ends _
    · cases message with
      | hello apiVersion => exact hello_ends apiVersion
      | activate => exact activate_ends hsound id
      | echo requestId payload =>
        refine echo_ends hsound requestId payload ?_ fun packed text houtcome hread => ⟨packed, text, houtcome, hread⟩
        intro hstate hpayload call hcall hset
        exact ⟨Decidable.not_not.mp hinstance, hstate, hpayload, call, hcall, hset⟩
      | heartbeat => exact heartbeat_ends hsound id
      | cancel requestId => exact cancelBeforeDispatch_ends requestId
      | quiesce => exact quiesce_ends hsound id
      | dispose => exact dispose_ends hsound id

/-! ## Broker calls -/

/-- A call that has begun has no cancellation outstanding. -/
theorem armed_begun (requestId : HostRequestId) (h : WasmPluginHost) : Armed (record (.begun requestId) h) requestId := by
  intro hout
  rcases outstanding_append.mp hout with hevent | ⟨-, hevent⟩
  · cases hevent
  · exact absurd rfl hevent

/-- After a step a host's call is over, or it waits for the answer to the request with that many steps taken. -/
def Pends (requestId : HostRequestId) (steps : Nat) (step : GuestStep) (h : WasmPluginHost) : Prop :=
  if step.isTerminal then h.brokerCall = none
  else ∃ call, h.brokerCall = some call ∧ call.requestId = requestId ∧ call.steps = steps

theorem pends_of_terminal (hterminal : step.isTerminal = true) (hnone : h.brokerCall = none) : Pends requestId steps step h := by
  rw [Pends, if_pos hterminal]
  exact hnone

theorem pends_of_request {call : GuestBrokerCallState}
    (hrequest : ¬ step.isTerminal = true) (hcall : h.brokerCall = some call) (hid : call.requestId = requestId)
    (hsteps : call.steps = steps) : Pends requestId steps step h := by
  rw [Pends, if_neg hrequest]
  exact ⟨call, hcall, hid, hsteps⟩

/-- A host begins a call of its request; a host without a call has none still where it fails. -/
theorem beginBounded_ends (hsound : HostSound h) (requestId : HostRequestId) (request : Json)
    (maximumInputBytes maximumReturnBytes : Nat)
    (hgood : StepReply crates env (callIdOf env.nextCallId) maximumReturnBytes (fun _ _ => True) → op.GoodReply crates env h) :
    Ends (fun step t => HostEnd crates op env h t ∧ Pends requestId 1 step t)
      (fun _ t => HostEnd crates op env h t ∧ (h.brokerCall = none → t.brokerCall = none))
      (beginBrokerCallBounded crates env requestId request maximumInputBytes maximumReturnBytes h) := by
  unfold beginBrokerCallBounded
  refine get_ends ?_
  split
  · exact ⟨HostEnd.refl crates op env h, id⟩
  · next hguard =>
    obtain ⟨hstate, -⟩ := not_or.mp hguard
    have hactive : h.state = .active := Decidable.not_not.mp hstate
    have hnot : h.state ≠ .disposed ∨ op.isResume = true := Or.inl (by rw [hactive]; exact nofun)
    have hruntime := hsound.runtime_iff.mpr (Or.inr (Or.inr (Or.inl hactive)))
    have hfails : ∀ u, Ended .quarantined h u → HostEnd crates op env h u ∧ (h.brokerCall = none → u.brokerCall = none) :=
      fun u hended => ⟨.quarantined hended hnot, fun _ => hended.brokerCall⟩
    split
    · exact (fail_ends _ h).onError fun _ u hended => hfails u hended
    · next hidle =>
      have hcall : h.brokerCall = none := Option.not_isSome_iff_eq_none.mp hidle
      refine ends_certain (beginRequest_ends env requestId h) ?_
      rintro taken t ⟨hasked, ⟨rfl, -, hslot⟩ | ⟨rfl, hslot⟩⟩
      · simp only [Bool.not_true, Bool.false_eq_true, if_false]
        refine ends_bind (P := fun _ u => u = record (.begun requestId) t) rfl ?_
        rintro _ _ rfl
        have hbegun : Mid t (record (.begun requestId) t) := mid_record (fun _ h => by cases h) (fun h => by cases h) t
        have hentries : guestEntries (record (.begun requestId) t) = guestEntries h := by
          refine Eq.trans ?_ hasked.guestEntries
          unfold guestEntries record
          rw [List.count_append]
          rfl
        have hpresent : (record (.begun requestId) t).runtime.isSome = true := by
          rw [hbegun.runtime, hasked.runtime]
          exact hruntime
        have hmissing := hbegun.missing.trans hasked.missing
        split
        · -- The request is too large; the guest is not entered.
          refine ends_certain (finishRequest_ends env requestId _) ?_
          rintro _ u ⟨hstate', hcall', hruntime', hentries', hmissing', hfree⟩
          have hnone := hcall'.trans (hasked.brokerCall.trans hcall)
          refine ⟨.freed (hstate'.trans hasked.state) hnone (hfree (Or.inr hslot)) ?_ (hmissing'.trans hmissing)
            (Or.inl (hentries'.trans hentries)), fun _ => hnone⟩
          rw [hruntime', hpresent, hruntime]
        · refine ends_certain (writeGuest_ends hpresent _ _) ?_
          rintro written u ⟨hmid, -, -, -⟩
          cases written with
          | error code =>
            exact (finish_fail_ends requestId code (hmid.missing.trans hmissing)).onError fun _ w hended => hfails w hended
          | ok _ =>
            refine stepCall_ends crates (hmid.runtime.trans hpresent) _ _ (fun e w hended =>
              hfails w { hended with missing := hended.missing.trans (hmid.missing.trans hmissing) }) ?_
            rintro encoded step v hmid' - ⟨packed, houtcome, hread, hdecode⟩
            have hreply := hgood ⟨packed, encoded, step, houtcome, hread, hdecode, trivial⟩
            have hall : Mid (record (.begun requestId) t) _ := hmid.trans hmid'
            have hstate' := hall.state.trans hasked.state
            have hmissing' := hall.missing.trans hmissing
            have hruntime' : _ = h.runtime.isSome := (hall.runtime.trans hpresent).trans hruntime.symm
            have hslot' : _ = some requestId := hall.active.trans hslot
            split
            · next hterminal =>
              refine ends_certain (finishRequest_ends env requestId _) ?_
              rintro _ w ⟨hstate'', hcall'', hruntime'', -, hmissing'', hfree⟩
              have hnone := hcall''.trans (hall.brokerCall.trans (hasked.brokerCall.trans hcall))
              exact ⟨.freed (hstate''.trans hstate') hnone (hfree (Or.inr hslot')) (by rw [hruntime'']; exact hruntime')
                (hmissing''.trans hmissing') (Or.inr hreply), pends_of_terminal hterminal hnone⟩
            · next hmore =>
              refine ⟨.yielded _ hstate' rfl hslot' hruntime' hmissing' (Or.inl hactive)
                ⟨show 1 ≤ maxGuestBrokerSteps by decide, Nat.zero_le _⟩ ?_ hreply, pends_of_request hmore rfl rfl rfl⟩
              intro _
              exact hall.armed requestId (armed_begun requestId t)
      · simp only [Bool.not_false, if_true]
        refine ⟨hasked.same hsound hslot ?_, fun hnone => hasked.brokerCall.trans hnone⟩
        intro call hsome
        rw [hcall] at hsome
        cases hsome

/-- A resumption takes the call one step further, as long as there are steps left, or ends it. -/
theorem resumeBounded_ends (hsound : HostSound h) (requestId : HostRequestId) (result : Json)
    (rawResultBytes maximumReturnBytes : Nat) (hresume : op.isResume = true)
    (hgood : ∀ call, h.brokerCall = some call → StepReply crates env call.callId maximumReturnBytes
      (fun encoded step => repeats (crates.sha256 encoded) call.lastStepDigest step = false) → op.GoodReply crates env h) :
    Ends (fun step t => HostEnd crates op env h t ∧ h.cancelled = false ∧ ∃ call, h.brokerCall = some call ∧
        call.requestId = requestId ∧ call.steps < maxGuestBrokerSteps ∧ Pends requestId (call.steps + 1) step t)
      (fun _ t => HostEnd crates op env h t ∧ t.brokerCall = none)
      (resumeBrokerCallBounded crates env requestId result rawResultBytes maximumReturnBytes h) := by
  have hfails : ∀ u, Ended .quarantined h u → HostEnd crates op env h u ∧ u.brokerCall = none :=
    fun u hended => ⟨.quarantined hended (Or.inr hresume), hended.brokerCall⟩
  have fails : ∀ {α : Type} {Q : α → WasmPluginHost → Prop} (code : HostProtocolErrorCode) {t : WasmPluginHost}, Mid h t →
      Ends Q (fun _ u => HostEnd crates op env h u ∧ u.brokerCall = none) ((fail code : HostM α) t) :=
    fun {_ _} code {t} hmid => (fail_ends code t).onError fun _ u hended => hfails u (hmid.ended hended)
  unfold resumeBrokerCallBounded
  refine get_ends ?_
  cases hcall : h.brokerCall with
  | none => exact fails _ (Mid.refl h)
  | some call =>
    have hlive := hsound.call_live (by rw [hcall]; rfl)
    have hruntime := hsound.runtime_iff.mpr (Or.inr (Or.inr hlive))
    simp only
    split
    · exact fails _ (Mid.refl h)
    · next hrequest =>
      have hid : call.requestId = requestId := Decidable.not_not.mp hrequest
      split
      · exact fails _ (Mid.refl h)
      · next hsteps =>
        split
        · exact fails _ (Mid.refl h)
        · next hbytes =>
          split
          · exact fails _ (Mid.refl h)
          · refine ends_certain (writeGuest_ends hruntime _ _) ?_
            rintro written u ⟨hmid, -, hflag, -⟩
            cases written with
            | error code => exact fails code hmid
            | ok _ =>
              refine stepCall_ends crates (hmid.runtime.trans hruntime) _ _ (fun e w hended =>
                hfails w (hmid.ended hended)) ?_
              rintro encoded step v hmid' hclear ⟨packed, houtcome, hread, hdecode⟩
              have hall := hmid.trans hmid'
              have hcancelled := hflag.symm.trans hclear
              simp only
              split
              · exact fails _ hall
              · next hfresh =>
                have hreply := hgood call hcall ⟨packed, encoded, step, houtcome, hread, hdecode, Bool.eq_false_of_not_eq_true hfresh⟩
                have hslot : v.active = some requestId := by
                  rw [hall.active, hsound.slot, hcall, ← hid]
                  rfl
                have hleft := Nat.not_le.mp hsteps
                split
                · next hterminal =>
                  refine ends_bind (P := fun _ (w : WasmPluginHost) => w = { v with brokerCall := none }) rfl ?_
                  rintro _ _ rfl
                  refine ends_certain (finishRequest_ends env requestId _) ?_
                  rintro _ w ⟨hstate', hcall', hruntime', -, hmissing', hfree⟩
                  exact ⟨.freed (hstate'.trans hall.state) hcall' (hfree (Or.inr hslot)) (by rw [hruntime']; exact hall.runtime)
                    (hmissing'.trans hall.missing) (Or.inr hreply), hcancelled, call, rfl, hid, hleft, pends_of_terminal hterminal hcall'⟩
                · next hmore =>
                  have hsame := hall.brokerCall.trans hcall
                  refine ⟨.yielded _ hall.state (congrArg (Option.map _) hsame) ?_ hall.runtime hall.missing (Or.inr (by rw [hcall]; rfl)) ⟨?_, ?_⟩ ?_ hreply,
                    hcancelled, call, rfl, hid, hleft, pends_of_request hmore (congrArg (Option.map _) hsame) hid rfl⟩
                  · exact hslot.trans (congrArg some hid.symm)
                  · exact hleft
                  · exact Nat.not_lt.mp hbytes
                  · intro harmed
                    exact hall.armed _ (harmed call hcall)

/-- What a resumption that succeeds has found: the call of its request, and no cancellation. -/
abbrev Resumed (requestId : HostRequestId) (h : WasmPluginHost) : Prop :=
  ∃ call, h.brokerCall = some call ∧ call.requestId = requestId ∧ h.cancelled = false

theorem resumed_ends {result : Json} {rawResultBytes maximumReturnBytes : Nat} (hsound : HostSound h) (hresume : op.isResume = true)
    (hgood : ∀ call, h.brokerCall = some call → StepReply crates env call.callId maximumReturnBytes
      (fun encoded step => repeats (crates.sha256 encoded) call.lastStepDigest step = false) → op.GoodReply crates env h) :
    Ends (fun _ t => HostEnd crates op env h t ∧ Resumed requestId h) (fun _ t => HostEnd crates op env h t)
      (resumeBrokerCallBounded crates env requestId result rawResultBytes maximumReturnBytes h) :=
  (resumeBounded_ends hsound requestId result rawResultBytes maximumReturnBytes hresume hgood).mono
    (fun _ _ ⟨hend, hcancelled, call, hcall, hid, _⟩ => ⟨hend, call, hcall, hid, hcancelled⟩) fun _ _ h => h.1

theorem resumeBrokerCall_ends (crates : WasmCrates) (env : HostEnv) (hsound : HostSound h) (requestId : HostRequestId)
    (result : Json) (rawResultBytes : Nat) :
    Ends (fun _ t => HostEnd crates (.resumeBrokerCall requestId result rawResultBytes) env h t ∧ Resumed requestId h)
      (fun _ t => HostEnd crates (.resumeBrokerCall requestId result rawResultBytes) env h t)
      (resumeBrokerCall crates env requestId result rawResultBytes h) := by
  exact resumed_ends hsound rfl fun call hcall hreply => ⟨call, hcall, hreply⟩

theorem resumeContributionCall_ends (crates : WasmCrates) (env : HostEnv) (hsound : HostSound h) (requestId : HostRequestId)
    (result : Json) (rawResultBytes : Nat) :
    Ends (fun _ t => HostEnd crates (.resumeContributionCall requestId result rawResultBytes) env h t ∧ Resumed requestId h)
      (fun _ t => HostEnd crates (.resumeContributionCall requestId result rawResultBytes) env h t)
      (resumeContributionCall crates env requestId result rawResultBytes h) := by
  exact resumed_ends hsound rfl fun call hcall hreply => ⟨call, hcall, hreply⟩

theorem cancelBrokerCall_ends (hsound : HostSound h) (requestId : HostRequestId) :
    OpEnds crates (.cancelBrokerCall requestId) env h (cancelBrokerCall env requestId h) := by
  unfold cancelBrokerCall
  refine get_ends ?_
  cases hcall : h.brokerCall with
  | none => exact HostEnd.refl _ _ env h
  | some call =>
    have hlive := hsound.call_live (by rw [hcall]; rfl)
    have hruntime := hsound.runtime_iff.mpr (Or.inr (Or.inr hlive))
    have hnot : h.state ≠ .disposed := by rcases hlive with h | h <;> simp [h]
    simp only
    split
    · exact fail_opEnds _ (Or.inl hnot)
    · next hrequest =>
      refine statusCall_ends true hruntime (fun e t hended => .quarantined hended (Or.inl hnot)) ?_
      intro t hmid houtcome
      refine ends_bind (P := fun _ (w : WasmPluginHost) => w = { t with brokerCall := none }) rfl ?_
      rintro _ _ rfl
      refine ends_certain (finishRequest_ends env requestId _) ?_
      rintro _ w ⟨hstate', hcall', hruntime', -, hmissing', hfree⟩
      refine .freed (hstate'.trans hmid.state) hcall' (hfree (Or.inr ?_)) ?_ (hmissing'.trans hmid.missing) (Or.inr houtcome)
      · refine hmid.active.trans ?_
        rw [hsound.slot, hcall, ← Decidable.not_not.mp hrequest]
        rfl
      · rw [hruntime']
        exact hmid.runtime

theorem quarantineForTimeout_ends : OpEnds crates .quarantineForTimeout env h (quarantineForTimeout h) := by
  unfold quarantineForTimeout
  refine get_ends ?_
  split
  · exact HostEnd.refl _ _ env h
  · next hstate => exact .quarantined (ended_cleared .quarantined h) (Or.inl (not_or.mp hstate).1)

theorem cancelInflight_end (requestId : HostRequestId) : HostEnd crates op env h (cancelInflight requestId h).2 := by
  have hmid := mid_cancelInflight requestId h
  exact .same hmid.state hmid.brokerCall hmid.active hmid.runtime hmid.missing (entries_cancelInflight requestId h)
    fun _ call _ => hmid.armed call.requestId

/-! ## Any operation -/

theorem ends_map {Q : WasmPluginHost → Prop} (f : α → β)
    (hx : Ends (fun _ t => Q t) (fun _ t => Q t) (x h)) : Q (final ((f <$> x) h)) := by
  change Q (final (EStateM.map f x h))
  unfold EStateM.map
  cases hrun : x h with
  | ok a t =>
    rw [hrun] at hx
    exact hx
  | error e t =>
    rw [hrun] at hx
    exact hx

/-- Whatever the operation, the guest and the cancellations, the operation ends in one of its ways. -/
theorem step_end (crates : WasmCrates) (hsound : HostSound h) (op : HostOp) (env : HostEnv) :
    HostEnd crates op env h (h.step crates (op, env)) := by
  unfold WasmPluginHost.step
  cases op with
  | beginBrokerCall requestId request => exact ends_map _ ((beginBounded_ends hsound requestId request _ _ id).mono (fun _ _ h => h.1) fun _ _ h => h.1)
  | beginContributionCall requestId request => exact ends_map _ ((beginBounded_ends hsound requestId request _ _ id).mono (fun _ _ h => h.1) fun _ _ h => h.1)
  | resumeBrokerCall requestId result rawResultBytes =>
    exact ends_map _ ((resumeBrokerCall_ends crates env hsound requestId result rawResultBytes).mono (fun _ _ h => h.1) fun _ _ h => h)
  | resumeContributionCall requestId result rawResultBytes =>
    exact ends_map _ ((resumeContributionCall_ends crates env hsound requestId result rawResultBytes).mono (fun _ _ h => h.1) fun _ _ h => h)
  | cancelBrokerCall requestId => exact ends_map _ (cancelBrokerCall_ends hsound requestId)
  | quarantineForTimeout => exact ends_map _ quarantineForTimeout_ends
  | handleFrame frame => exact ends_map _ (handleFrame_ends hsound frame)
  | cancelInflight requestId => exact cancelInflight_end requestId

/-! ## The identity of a host -/

/-- Both ends of an operation have the identity that the host had. -/
abbrev KeepsIdentity {α : Type} (h : WasmPluginHost) (result : EStateM.Result HostProtocolError WasmPluginHost α) : Prop :=
  Ends (fun _ t => t.identity = h.identity) (fun _ t => t.identity = h.identity) result

theorem identity_fail (code : HostProtocolErrorCode) : Keeps identity (fail code : HostM α) := fun _ => rfl

theorem identity_cancelEach (requestIds : List HostRequestId) : Keeps identity (modify (cancelEach requestIds) : HostM PUnit) :=
  keeps_modify fun h => (mid_cancelEach requestIds h).1.identity

theorem identity_beginRequest (env : HostEnv) (requestId : HostRequestId) : Keeps identity (beginRequest env requestId) :=
  keeps_bind (identity_cancelEach _) fun _ => keeps_bind (keeps_modify fun _ => rfl) fun _ =>
    keeps_bind (identity_cancelEach _) fun _ => keeps_modifyGet fun h => by
      unfold takeSlot
      split
      · rfl
      split
      · rfl
      · rfl

theorem identity_finishRequest (env : HostEnv) (requestId : HostRequestId) : Keeps identity (finishRequest env requestId) :=
  keeps_bind (identity_cancelEach _) fun _ => keeps_modify fun _ => rfl

theorem identity_writeGuest (bytes : List UInt8) (maximumBytes : Nat) : Keeps identity (writeGuest bytes maximumBytes) := by
  refine keeps_looking fun h => ?_
  split
  · rfl
  cases h.runtime with
  | none => rfl
  | some runtime =>
    dsimp only
    split
    · rfl
    · rfl

theorem identity_readStep (crates : WasmCrates) (packed : Nat) (callId : String) (maximumReturnBytes : Nat) :
    Keeps identity (readStep crates packed callId maximumReturnBytes) := by
  refine keeps_bind (keeps_looking fun h => ?_) fun encoded => ?_
  · cases h.runtime with
    | none => rfl
    | some runtime =>
      dsimp only
      cases readUtf8 runtime.memory packed maximumReturnBytes with
      | ok text => rfl
      | error code => rfl
  · split
    · exact keeps_pure _ _
    · exact identity_fail _

theorem identity_callGuest (env : HostEnv) (broker : Bool) : Keeps identity (callGuest env broker) := by
  refine keeps_bind (identity_cancelEach _) fun _ => keeps_looking fun h => ?_
  split
  · rfl
  cases h.runtime with
  | none => rfl
  | some runtime =>
    dsimp only
    split
    · rfl
    split
    · rfl
    refine keeps_bind (f := identity) (keeps_modify (g := record .guestEntered) fun _ => rfl)
      (fun _ => keeps_bind (identity_cancelEach _) fun _ => keeps_looking fun h => ?_) h
    cases env.outcome with
    | returned value => rfl
    | trapped trap => rfl
    | failed => rfl
    | panicked => rfl

theorem identity_requireSuccess (status : Nat) : Keeps identity (requireSuccess status) := by
  unfold requireSuccess
  split
  · exact keeps_pure _ _
  · exact identity_fail _

theorem identity_cancelBrokerCall (env : HostEnv) (requestId : HostRequestId) : Keeps identity (cancelBrokerCall env requestId) := by
  refine keeps_bind (keeps_get _) fun h => ?_
  split
  · exact keeps_pure _ _
  split
  · exact identity_fail _
  exact keeps_bind (identity_callGuest env true) fun status => keeps_bind (identity_requireSuccess status) fun _ =>
    keeps_bind (keeps_modify fun _ => rfl) fun _ => keeps_bind (identity_finishRequest env requestId) fun _ => keeps_pure _ _

theorem identity_quiesce (env : HostEnv) (instanceId : HostInstanceId) :
    Keeps identity (handleFrame env ⟨instanceId, .quiesce⟩) := by
  refine keeps_bind (keeps_get _) fun h => ?_
  split
  · exact keeps_throw _ _
  split
  · exact keeps_throw _ _
  refine keeps_bind (keeps_get _) fun h => ?_
  split
  · exact keeps_throw _ _
  exact keeps_bind (identity_callGuest env false) fun status => keeps_bind (identity_requireSuccess status) fun _ =>
    keeps_bind (keeps_modify fun _ => rfl) fun _ => keeps_pure _ _

theorem identity_beginBounded (crates : WasmCrates) (env : HostEnv) (requestId : HostRequestId) (request : Json)
    (maximumInputBytes maximumReturnBytes : Nat) :
    Keeps identity (beginBrokerCallBounded crates env requestId request maximumInputBytes maximumReturnBytes) := by
  refine keeps_bind (keeps_get _) fun h => ?_
  split
  · exact keeps_throw _ _
  split
  · exact identity_fail _
  refine keeps_bind (identity_beginRequest env requestId) fun taken => ?_
  split
  · exact keeps_throw _ _
  refine keeps_bind (keeps_modify fun _ => rfl) fun _ => ?_
  dsimp only
  split
  · exact keeps_bind (identity_finishRequest env requestId) fun _ => keeps_throw _ _
  refine keeps_bind (identity_writeGuest _ _) fun written => ?_
  split
  · exact keeps_bind (identity_finishRequest env requestId) fun _ => identity_fail _
  refine keeps_bind (identity_callGuest env true) fun packed => keeps_bind (identity_readStep crates packed _ _) fun _ => ?_
  split
  · exact keeps_bind (identity_finishRequest env requestId) fun _ => keeps_pure _ _
  · exact keeps_bind (keeps_modify fun _ => rfl) fun _ => keeps_pure _ _

theorem identity_resumeBounded (crates : WasmCrates) (env : HostEnv) (requestId : HostRequestId) (result : Json)
    (rawResultBytes maximumReturnBytes : Nat) :
    Keeps identity (resumeBrokerCallBounded crates env requestId result rawResultBytes maximumReturnBytes) := by
  refine keeps_bind (keeps_get _) fun h => ?_
  split
  · exact identity_fail _
  split
  · exact identity_fail _
  split
  · exact identity_fail _
  split
  · exact identity_fail _
  split
  · exact identity_fail _
  refine keeps_bind (identity_writeGuest _ _) fun written => ?_
  split
  · exact identity_fail _
  refine keeps_bind (identity_callGuest env true) fun packed => keeps_bind (identity_readStep crates packed _ _) fun _ => ?_
  dsimp only
  split
  · exact identity_fail _
  split
  · exact keeps_bind (keeps_modify fun _ => rfl) fun _ => keeps_bind (identity_finishRequest env requestId) fun _ => keeps_pure _ _
  · exact keeps_bind (keeps_modify fun _ => rfl) fun _ => keeps_pure _ _

/-! ## The call of a host -/

/-- No call is left of a request that is cancelled. -/
theorem cancelBrokerCall_idle (env : HostEnv) (hsound : HostSound h) (requestId : HostRequestId)
    (hrequest : ∀ call, h.brokerCall = some call → call.requestId = requestId) :
    (final (cancelBrokerCall env requestId h)).brokerCall = none := by
  refine final_of_ends (P := fun (t : WasmPluginHost) => t.brokerCall = none) ?_
  unfold cancelBrokerCall
  refine ends_get ?_
  cases hcall : h.brokerCall with
  | none => exact hcall
  | some call =>
    have hlive := hsound.call_live (by rw [hcall]; rfl)
    have hruntime := hsound.runtime_iff.mpr (Or.inr (Or.inr hlive))
    dsimp only
    rw [if_neg (not_not.mpr (hrequest call hcall))]
    refine statusCall_ends true hruntime (fun _ _ hended => hended.brokerCall) ?_
    intro t _ _
    refine ends_bind (P := fun _ (w : WasmPluginHost) => w.brokerCall = none) (ends_modify rfl) ?_
    intro _ w hnone
    refine ends_certain (finishRequest_ends env requestId w) ?_
    rintro _ x ⟨-, hcall', -⟩
    exact hcall'.trans hnone

end WasmHostAux

end Rho
