import Rho.Lemmas.WasmHost

/-!
# What a Wasm host keeps

The four coupled fields of the host after any operations, that its final states are final, and that a cancellation is not lost.
The first holds always. The second fails when a call is resumed on a host that was disposed, the third when an echo comes between
the cancellation of a pending call and its resumption.
-/

namespace Rho

open Effect WasmPluginHost

namespace WasmHostAux

variable {crates : WasmCrates} {op : HostOp} {env : HostEnv} {h t : WasmPluginHost}

/-! ## The invariant -/

theorem Ended.sound {state : HostInstanceState} (hended : Ended state h t)
    (hstate : state = .disposed ∨ state = .quarantined) (hsound : HostSound h) : HostSound t := by
  obtain ⟨hstate', hruntime, hcall, hactive, hmissing⟩ := hended
  refine ⟨?_, ?_, ?_, ?_, ?_, fun h => hsound.runtime_found (hmissing.mp h)⟩
  · rw [hruntime, hstate']
    rcases hstate with rfl | rfl <;> simp
  · rw [hstate']
    rcases hstate with rfl | rfl <;> simp
  · rw [hactive, hcall]
    rfl
  · rw [hcall]
    exact nofun
  · rw [hcall]
    exact nofun

theorem HostEnd.sound (hend : HostEnd crates op env h t) (hsound : HostSound h) : HostSound t := by
  cases hend with
  | same hstate hcall hactive hruntime hmissing hentries harmed =>
    refine ⟨?_, ?_, ?_, ?_, ?_, fun h => hsound.runtime_found (hmissing.mp h)⟩
    · rw [hruntime, hstate]
      exact hsound.runtime_iff
    · rw [hstate]
      exact hsound.not_disposing
    · rw [hactive, hcall]
      exact hsound.slot
    · rw [hcall, hstate]
      exact hsound.call_live
    · rw [hcall]
      exact hsound.bounds
  | moved state hmid hu hlive hnext hstate hgood =>
    subst hu
    refine ⟨?_, ?_, ?_, ?_, ?_, fun h => hsound.runtime_found (hmid.missing.mp h)⟩
    · refine iff_of_true (hmid.runtime.trans hlive) ?_
      exact Or.inr (Or.inr hnext)
    · rcases hnext with rfl | rfl <;> simp
    · exact (hmid.active.trans hsound.slot).trans (by rw [hmid.brokerCall])
    · exact fun _ => hnext
    · intro call hcall
      exact hsound.bounds call (hmid.brokerCall.symm.trans hcall)
  | negotiated version hstate ht =>
    subst ht
    have hnone : h.brokerCall = none := by
      by_contra hsome
      rcases hsound.call_live (Option.isSome_iff_ne_none.mpr hsome) with h' | h' <;> rw [hstate] at h' <;> cases h'
    refine ⟨?_, ?_, hsound.slot, ?_, hsound.bounds, hsound.runtime_found⟩
    · exact iff_of_true (hsound.runtime_iff.mpr (Or.inl hstate)) (Or.inr (Or.inl rfl))
    · exact nofun
    · intro hsome
      rw [hnone] at hsome
      cases hsome
  | freed hstate hcall hactive hruntime hmissing hgood =>
    refine ⟨?_, ?_, ?_, ?_, ?_, fun h => hsound.runtime_found (hmissing.mp h)⟩
    · rw [hruntime, hstate]
      exact hsound.runtime_iff
    · rw [hstate]
      exact hsound.not_disposing
    · rw [hactive, hcall]
      rfl
    · rw [hcall]
      exact nofun
    · rw [hcall]
      exact nofun
  | yielded call hstate hcall hactive hruntime hmissing hlive hbounds harmed hgood =>
    refine ⟨?_, ?_, ?_, ?_, ?_, fun h => hsound.runtime_found (hmissing.mp h)⟩
    · rw [hruntime, hstate]
      exact hsound.runtime_iff
    · rw [hstate]
      exact hsound.not_disposing
    · rw [hactive, hcall]
      rfl
    · intro _
      rw [hstate]
      exact hlive.elim Or.inl hsound.call_live
    · intro call' hcall'
      cases hcall.symm.trans hcall'
      exact hbounds
  | quarantined hended hstate => exact hended.sound (Or.inr rfl) hsound
  | disposed hended hstate hgood => exact hended.sound (Or.inl rfl) hsound

theorem sound_fromRuntime (identity : WasmHostIdentity) (runtime : WasmRuntime) : HostSound (fromRuntime identity runtime) := by
  refine ⟨iff_of_true rfl (Or.inl rfl), ?_, rfl, ?_, ?_, List.not_mem_nil⟩
  · exact nofun
  · exact nofun
  · exact nofun

theorem sound_run (crates : WasmCrates) (identity : WasmHostIdentity) (runtime : WasmRuntime) (trace : List (HostOp × HostEnv)) :
    HostSound (Run.after (step crates) (fromRuntime identity runtime) trace) :=
  Run.invariant (I := HostSound) (fun _ op hsound => (step_end crates hsound op.1 op.2).sound hsound) trace
    (sound_fromRuntime identity runtime)

/-! ## Replies -/

/-- An entry into the guest whose reply is not good is the end of the host. -/
theorem HostEnd.reply (hend : HostEnd crates op env h t) (hentered : guestEntries t ≠ guestEntries h)
    (hbad : ¬op.GoodReply crates env h) : t.state = .quarantined ∧ t.brokerCall = none := by
  cases hend with
  | same hstate hcall hactive hruntime hmissing hentries harmed => exact absurd hentries hentered
  | moved state hmid hu hlive hnext hstate hgood => exact absurd hgood hbad
  | negotiated version hstate ht => exact absurd (by rw [ht]; rfl) hentered
  | freed hstate hcall hactive hruntime hmissing hgood =>
    rcases hgood with hentries | hgood
    · exact absurd hentries hentered
    · exact absurd hgood hbad
  | yielded call hstate hcall hactive hruntime hmissing hlive hbounds harmed hgood => exact absurd hgood hbad
  | quarantined hended hstate => exact ⟨hended.state_eq, hended.brokerCall⟩
  | disposed hended hstate hgood => exact absurd hgood hbad

/-! ## Final states -/

theorem HostEnd.quarantined_stays (hend : HostEnd crates op env h t) (hstate : h.state = .quarantined) :
    t.state = .quarantined := by
  cases hend with
  | same hsame => exact hsame.trans hstate
  | moved state hmid hu hlive hnext hready hgood =>
    rw [hstate] at hready
    rcases hready with h | h <;> cases h
  | negotiated version hcreated ht =>
    rw [hstate] at hcreated
    cases hcreated
  | freed hsame => exact hsame.trans hstate
  | yielded call hsame => exact hsame.trans hstate
  | quarantined hended => exact hended.state_eq
  | disposed hended hnot hgood => exact absurd hstate hnot

theorem HostEnd.disposed_stays (hend : HostEnd crates op env h t) (hstate : h.state = .disposed)
    (hresume : op.isResume = false) : t.state = .disposed := by
  cases hend with
  | same hsame => exact hsame.trans hstate
  | moved state hmid hu hlive hnext hready hgood =>
    rw [hstate] at hready
    rcases hready with h | h <;> cases h
  | negotiated version hcreated ht =>
    rw [hstate] at hcreated
    cases hcreated
  | freed hsame => exact hsame.trans hstate
  | yielded call hsame => exact hsame.trans hstate
  | quarantined hended hnot =>
    rcases hnot with hnot | hnot
    · exact absurd hstate hnot
    · rw [hresume] at hnot
      cases hnot
  | disposed hended => exact hended.state_eq

/-! ## Cancellations -/

/-- The pending call, if there is one, is armed. -/
def CallArmed (h : WasmPluginHost) : Prop := ∀ call, h.brokerCall = some call → Armed h call.requestId

theorem HostEnd.armed (hend : HostEnd crates op env h t) (harmed : CallArmed h) (hdisarms : ¬op.Disarms env h) : CallArmed t := by
  intro call hcall
  cases hend with
  | same hstate hsame hactive hruntime hmissing hentries hkeeps =>
    rw [hsame] at hcall
    exact hkeeps hdisarms call hcall (harmed call hcall)
  | moved state hmid hu hlive hnext hready hgood =>
    subst hu
    exact hmid.armed _ (harmed call (hmid.brokerCall.symm.trans hcall))
  | negotiated version hcreated ht =>
    subst ht
    exact harmed call hcall
  | freed hstate hnone =>
    rw [hnone] at hcall
    cases hcall
  | yielded call' hstate hyielded hactive hruntime hmissing hlive hbounds hnext hgood =>
    cases hyielded.symm.trans hcall
    exact hnext harmed
  | quarantined hended hnot =>
    rw [hended.brokerCall] at hcall
    cases hcall
  | disposed hended hnot hgood =>
    rw [hended.brokerCall] at hcall
    cases hcall

theorem armed_run {identity : WasmHostIdentity} {runtime : WasmRuntime} {trace : List (HostOp × HostEnv)}
    (halong : Run.Along (step crates) (fun h op => ¬op.1.Disarms op.2 h) (fromRuntime identity runtime) trace) :
    CallArmed (Run.after (step crates) (fromRuntime identity runtime) trace) := by
  have hstart : HostSound (fromRuntime identity runtime) ∧ CallArmed (fromRuntime identity runtime) :=
    ⟨sound_fromRuntime identity runtime, nofun⟩
  refine (Run.invariant_along (I := fun h => HostSound h ∧ CallArmed h) ?_ hstart halong).2
  rintro h ⟨op, env⟩ ⟨hsound, harmed⟩ hdisarms
  have hend := step_end crates hsound op env
  exact ⟨hend.sound hsound, hend.armed harmed hdisarms⟩

/-- A resumption that succeeds has found no cancellation outstanding. -/
theorem not_outstanding_of_resumed (harmed : CallArmed h) {requestId : HostRequestId} (hresumed : Resumed requestId h) :
    ¬Outstanding requestId h.history := by
  obtain ⟨call, hcall, rfl, hflag⟩ := hresumed
  intro hout
  cases hflag.symm.trans (harmed call hcall hout)

end WasmHostAux

/-! ## The theorems -/

/-- After any operations, whatever the guest does: the runtime is there exactly in the four live states, no operation ends in the
disposing state or has missed the runtime, the slot holds the request of the pending call and nothing else, and a pending call is
within its bounds; and an operation that enters the guest and does not get the reply it needs leaves the host quarantined
without a call. -/
theorem wasm_host_sound (crates : WasmCrates) (identity : WasmHostIdentity) (runtime : WasmRuntime)
    (trace : List (HostOp × HostEnv)) :
    HostSound (Run.after (step crates) (fromRuntime identity runtime) trace) ∧
      ∀ (op : HostOp) (env : HostEnv) (h : WasmPluginHost), h = Run.after (step crates) (fromRuntime identity runtime) trace →
        guestEntries (h.step crates (op, env)) ≠ guestEntries h → ¬op.GoodReply crates env h →
          (h.step crates (op, env)).state = .quarantined ∧ (h.step crates (op, env)).brokerCall = none := by
  have hsound := WasmHostAux.sound_run crates identity runtime trace
  refine ⟨hsound, ?_⟩
  rintro op env _ rfl hentered hbad
  exact (WasmHostAux.step_end crates hsound op env).reply hentered hbad

/-- In a run in which no call is resumed on a disposed host, a host that is disposed or quarantined stays so. -/
theorem final_states_stay (crates : WasmCrates) (identity : WasmHostIdentity) (runtime : WasmRuntime)
    (trace rest : List (HostOp × HostEnv))
    (halong : Run.Along (step crates) (fun h op => h.state = .disposed → op.1.isResume = false) (fromRuntime identity runtime)
      (trace ++ rest)) (state : HostInstanceState) (hfinal : state = .disposed ∨ state = .quarantined)
    (hstate : (Run.after (step crates) (fromRuntime identity runtime) trace).state = state) :
    (Run.after (step crates) (fromRuntime identity runtime) (trace ++ rest)).state = state := by
  have hsound := WasmHostAux.sound_run crates identity runtime trace
  rw [Run.after_append]
  refine (Run.invariant_along (I := fun h => HostSound h ∧ h.state = state) ?_ ⟨hsound, hstate⟩ (Run.along_append.mp halong).2).2
  rintro h ⟨op, env⟩ ⟨hsound, hstate⟩ hresume
  have hend := WasmHostAux.step_end crates hsound op env
  refine ⟨hend.sound hsound, ?_⟩
  rcases hfinal with rfl | rfl
  · exact hend.disposed_stays hstate (hresume hstate)
  · exact hend.quarantined_stays hstate

/-- In a run in which no echo comes while a call is pending whose cancellation was requested, a call is not resumed after its
cancellation was accepted, unless a call of the same request has begun since. -/
theorem cancellation_is_kept (crates : WasmCrates) (identity : WasmHostIdentity) (runtime : WasmRuntime)
    (trace : List (HostOp × HostEnv))
    (halong : Run.Along (step crates) (fun h op => ¬op.1.Disarms op.2 h) (fromRuntime identity runtime) trace)
    (requestId : HostRequestId)
    (hout : Outstanding requestId (Run.after (step crates) (fromRuntime identity runtime) trace).history) (result : Json)
    (rawResultBytes : Nat) (env : HostEnv) (answer : GuestStep) (t : WasmPluginHost) :
    resumeBrokerCall crates env requestId result rawResultBytes (Run.after (step crates) (fromRuntime identity runtime) trace) ≠
        .ok answer t ∧ resumeContributionCall crates env requestId result rawResultBytes
        (Run.after (step crates) (fromRuntime identity runtime) trace) ≠ .ok answer t := by
  have hsound := WasmHostAux.sound_run crates identity runtime trace
  have harmed := WasmHostAux.armed_run halong
  constructor
  · intro hrun
    have hends := WasmHostAux.resumeBrokerCall_ends crates env hsound requestId result rawResultBytes
    rw [hrun] at hends
    exact WasmHostAux.not_outstanding_of_resumed harmed hends.2 hout
  · intro hrun
    have hends := WasmHostAux.resumeContributionCall_ends crates env hsound requestId result rawResultBytes
    rw [hrun] at hends
    exact WasmHostAux.not_outstanding_of_resumed harmed hends.2 hout

/-! ## Runs of a host -/

namespace SampleHost

def handleId : String := "handle.aaaaaaaaaaaaaaaaaaaaaaaaaaaaaaaaaaaaaaaaaaaaaaaaaaaaaaaaaaaaaaaa"

/-- A guest that asks to read a file. -/
def requestText : String :=
  "\x7b\"type\":\"broker_request\",\"call_id\":\"call.000000000000002a\",\"handle_id\":\"" ++ handleId ++
    "\",\"permission\":\"project.fs.read\",\"operation\":\"project.fs.read\",\"args\":\x7b\x7d\x7d"

/-- The same guest, done. -/
def completeText : String := "\x7b\"type\":\"complete\",\"call_id\":\"call.000000000000002a\",\"result\":\x7b\x7d\x7d"

def crates : WasmCrates where
  encode value := value.print.flatMap String.utf8EncodeChar
  decodeStep text :=
    if text = requestText then
      some (.brokerRequest "call.000000000000002a" handleId "project.fs.read" "project.fs.read" (.obj []))
    else if text = completeText then some (.complete "call.000000000000002a" (.obj []))
    else none
  sha256 text :=
    if text = requestText then "0b62d51d91277e0ce25b6c88aff2cb45f02e16b940226d1a3214a0124a08a209"
    else if text = completeText then "0d8daa5ef4a74189e6f1ebbf53249aa69392f34247f082acf6691ba4f7ec3ca1"
    else ""

theorem project_valid : validateIdentifier "project.a" = none := by decide +kernel
theorem plugin_valid : validateIdentifier "plugin.sample" = none := by decide +kernel

def identity : WasmHostIdentity where
  projectId := ⟨"project.a", project_valid⟩
  pluginId := ⟨"plugin.sample", plugin_valid⟩
  packageDigest := "digest.1"
  activationGeneration := ⟨1, one_nonzero⟩
  hostInstanceId := "instance.1"

def runtime : WasmRuntime := ⟨true, List.replicate 512 0⟩

/-- No cancellation arrives, and the guest returns. -/
def quiet (value : Nat) (memory : List UInt8) : HostEnv where
  beforeReset := []
  beforeSlot := []
  beforeLoad := []
  inGuest := []
  beforeFinish := []
  prepared := true
  outcome := .returned value
  memory := memory
  nextCallId := 42

/-- The guest returns the status zero. -/
def succeeds : HostEnv := quiet 0 runtime.memory

/-- The guest returns the text at the start of its memory. -/
def replies (text : String) : HostEnv := quiet text.utf8ByteSize (text.toUTF8.toList ++ List.replicate 512 0)

def frame (message : HostMessage) : HostOp × HostEnv := (.handleFrame ⟨"instance.1", message⟩, succeeds)

/-- A host with a pending call. -/
def pendingCall : List (HostOp × HostEnv) :=
  [frame (.hello 1), frame .activate, (.beginBrokerCall "request.1" (.obj []), replies requestText)]

/-- The pending call is cancelled. -/
def cancelledCall : List (HostOp × HostEnv) := pendingCall ++ [(.cancelInflight "request.1", succeeds)]

def disposedHost : List (HostOp × HostEnv) := [frame (.hello 1), frame .dispose]

/-- A later resumption of the call. -/
def lateResume : HostOp × HostEnv := (.resumeBrokerCall "request.1" (.obj []) 2, replies completeText)

def after (trace : List (HostOp × HostEnv)) : WasmPluginHost := Run.after (step crates) (fromRuntime identity runtime) trace

/-- The step with which a resumption of the call after a run succeeds. -/
def resumed (trace : List (HostOp × HostEnv)) : Option GuestStep :=
  match resumeBrokerCall crates (replies completeText) "request.1" (.obj []) 2 (after trace) with
  | .ok step _ => some step
  | .error _ _ => none

/-- The run to the pending call, evaluated once, and what a trapped heartbeat, a cancellation and an echo make of it. -/
theorem pendingCall_runs : (after pendingCall).active = some "request.1" ∧
    guestEntries ((after pendingCall).step crates
      (.handleFrame ⟨"instance.1", .heartbeat⟩, { succeeds with outcome := .trapped .other })) ≠ guestEntries (after pendingCall) ∧
    (after cancelledCall).history = [.guestEntered, .begun "request.1", .guestEntered] ++ [.cancelAccepted "request.1"] ∧
    (after (cancelledCall ++ [frame (.echo "request.2" "a")])).history =
      [.guestEntered, .begun "request.1", .guestEntered] ++ [.cancelAccepted "request.1"] ∧
    (after (cancelledCall ++ [frame (.echo "request.2" "a")])).active = some "request.1" ∧
    resumed (cancelledCall ++ [frame (.echo "request.2" "a")]) = some (.complete "call.000000000000002a" (.obj [])) := by
  decide +kernel

end SampleHost

/-- Between two operations the pending call of the sample has its request in the slot; and a heartbeat that traps is the end of the
host and of the call. -/
theorem trapped_heartbeat_ends_call : (SampleHost.after SampleHost.pendingCall).active = some "request.1" ∧
      ((SampleHost.after SampleHost.pendingCall).step SampleHost.crates
          (.handleFrame ⟨"instance.1", .heartbeat⟩, { SampleHost.succeeds with outcome := .trapped .other })).state =
          .quarantined ∧
      ((SampleHost.after SampleHost.pendingCall).step SampleHost.crates
          (.handleFrame ⟨"instance.1", .heartbeat⟩, { SampleHost.succeeds with outcome := .trapped .other })).brokerCall =
          none := by
  obtain ⟨hactive, hentered, -⟩ := SampleHost.pendingCall_runs
  refine ⟨hactive, ?_⟩
  refine (wasm_host_sound SampleHost.crates SampleHost.identity SampleHost.runtime SampleHost.pendingCall).2
    (.handleFrame ⟨"instance.1", .heartbeat⟩) { SampleHost.succeeds with outcome := .trapped .other } _ rfl hentered ?_
  intro hreply
  cases hreply

/-- A host that was disposed is quarantined when a call is resumed late. -/
theorem disposed_host_is_quarantined : (SampleHost.after SampleHost.disposedHost).state = .disposed ∧
      (SampleHost.after (SampleHost.disposedHost ++ [SampleHost.lateResume])).state = .quarantined := by
  decide +kernel

/-- A disposed host is left as it is by a late frame and by a late timeout. -/
theorem disposed_host_stays : (SampleHost.after (SampleHost.disposedHost ++
      [SampleHost.frame .heartbeat, (.quarantineForTimeout, SampleHost.succeeds)])).state = .disposed :=
  final_states_stay SampleHost.crates SampleHost.identity SampleHost.runtime SampleHost.disposedHost
    [SampleHost.frame .heartbeat, (.quarantineForTimeout, SampleHost.succeeds)] (by decide +kernel) .disposed (Or.inl rfl)
    (by decide +kernel)

/-- An echo of another request between the cancellation of a call and its resumption: the cancellation was accepted and the call is
still the pending one, and the resumption succeeds. -/
theorem cancellation_is_lost :
    Outstanding "request.1" (SampleHost.after (SampleHost.cancelledCall ++ [SampleHost.frame (.echo "request.2" "a")])).history ∧
      (SampleHost.after (SampleHost.cancelledCall ++ [SampleHost.frame (.echo "request.2" "a")])).active = some "request.1" ∧
      SampleHost.resumed (SampleHost.cancelledCall ++ [SampleHost.frame (.echo "request.2" "a")]) =
        some (.complete "call.000000000000002a" (.obj [])) := by
  obtain ⟨-, -, -, hhistory, hactive, hresumed⟩ := SampleHost.pendingCall_runs
  exact ⟨⟨_, _, hhistory, List.not_mem_nil⟩, hactive, hresumed⟩

/-- Without the echo the call is not resumed. -/
theorem cancelled_call_not_resumed : SampleHost.resumed SampleHost.cancelledCall = none := by
  have hkept := fun answer t => (cancellation_is_kept SampleHost.crates SampleHost.identity SampleHost.runtime
    SampleHost.cancelledCall ⟨id, id, id, id, trivial⟩ "request.1"
    ⟨_, _, SampleHost.pendingCall_runs.2.2.1, List.not_mem_nil⟩ (.obj []) 2
    (SampleHost.replies SampleHost.completeText) answer t).1
  unfold SampleHost.resumed
  split
  · next answer t hrun => exact absurd hrun (hkept answer t)
  · rfl

end Rho
