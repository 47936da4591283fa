import Rho.Extension.Grant
import Rho.Lib.Effect

/-!
# The host of a Wasm guest

One plugin instance in Wasm (`wasm_host.rs`): its lifecycle, the one broker call that the guest may have yielded from, and the
slot through which another thread cancels a request. The guest is outside of the model: every entry into it returns, traps or
panics as the environment of the operation says, and leaves its memory as the environment says. The environment also says which
cancellations arrive at which of the operation's accesses to the slot, so an operation stands for all of its interleavings with
the cancellation handle.
-/

namespace Rho

open Effect

def maxPendingWasmCancellations : Nat := 256
def guestAbiV1 : Nat := 1
def guestAbiV2 : Nat := 2
def maxGuestStepBytes : Nat := 64 * 1024
def maxGuestContributionEnvelopeBytes : Nat := 384 * 1024
def maxGuestContributionReturnBytes : Nat := 1088 * 1024
def maxGuestBrokerSteps : Nat := 8
def maxGuestBrokerResultBytes : Nat := 1024 * 1024
def maxGuestBrokerResumeBytes : Nat := 1536 * 1024
def hostProtocolVersion : Nat := 1
def maxEchoPayloadBytes : Nat := 16 * 1024

/-! ## The protocol -/

abbrev HostRequestId := String

inductive HostProtocolErrorCode where
  | malformedFrame | unknownInstance | versionMismatch | payloadTooLarge | invalidStateTransition | timeout | unknownRequest
  | moduleTooLarge | invalidModule | forbiddenImport | missingExport | invalidExport | resourceLimit | fuelExhausted | guestTrap
  | invalidGuestOutput | invalidBrokerStep | brokerSequenceViolation | brokerStepLimit | brokerResultLimit | guestRejected
  | cancelled
  deriving DecidableEq, Repr

structure HostProtocolError where
  code : HostProtocolErrorCode
  message : Option String
  deriving DecidableEq, Repr

inductive HostInstanceState where
  | created | ready | active | quiescing | disposing | disposed | quarantined
  deriving DecidableEq, Repr

/-- The name in debug output. -/
def HostInstanceState.debug : HostInstanceState → String
  | created => "Created"
  | ready => "Ready"
  | active => "Active"
  | quiescing => "Quiescing"
  | disposing => "Disposing"
  | disposed => "Disposed"
  | quarantined => "Quarantined"

def protocolError (code : HostProtocolErrorCode) : HostProtocolError := ⟨code, none⟩

def invalidState (state : HostInstanceState) : HostProtocolError :=
  ⟨.invalidStateTransition, some ("invalid transition from " ++ state.debug)⟩

inductive HostMessage where
  | hello (apiVersion : Nat)
  | activate
  | echo (requestId : HostRequestId) (payload : String)
  | heartbeat
  | quiesce
  | dispose
  | cancel (requestId : HostRequestId)
  deriving DecidableEq, Repr

structure HostFrame where
  instanceId : HostInstanceId
  message : HostMessage
  deriving DecidableEq, Repr

inductive HostResponse where
  | ready (apiVersion : Nat)
  | activated
  | echoResult (requestId : HostRequestId) (payload : String)
  | heartbeatAck
  | quiesced
  | disposed
  deriving DecidableEq, Repr

/-- One yield of a guest. -/
inductive GuestStep where
  | brokerRequest (callId handleId permission operation : String) (args : Json)
  | complete (callId : String) (result : Json)
  | error (callId code : String)
  deriving DecidableEq

def GuestStep.callId : GuestStep → String
  | brokerRequest callId _ _ _ _ | complete callId _ | error callId _ => callId

/-- `step_is_terminal`. -/
def GuestStep.isTerminal : GuestStep → Bool
  | brokerRequest _ _ _ _ _ => false
  | complete _ _ | error _ _ => true

/-- What other crates compute: the JSON bytes of a value, the step that a JSON text is, and the hash of a text in hexadecimal. -/
structure WasmCrates where
  encode : Json → List UInt8
  decodeStep : String → Option GuestStep
  sha256 : String → String

/-! ## The guest and its surroundings -/

inductive WasmTrap where
  | outOfFuel | interrupt | allocationTooLarge | other
  deriving DecidableEq, Repr

/-- How an entry into the guest ends: a status or a packed pointer and length, an error of the engine, or a panic. -/
inductive GuestOutcome where
  | returned (value : Nat)
  | trapped (trap : WasmTrap)
  | failed
  | panicked
  deriving DecidableEq, Repr

def classifyTrap (cancellationRequested : Bool) : WasmTrap → HostProtocolErrorCode
  | .outOfFuel => .fuelExhausted
  | .interrupt => if cancellationRequested then .cancelled else .timeout
  | .allocationTooLarge => .resourceLimit
  | .other => .guestTrap

/-- What happens around one operation: the cancellations that arrive before each of its accesses to the slot, whether the store
could be prepared, how the entry into the guest ends and with which memory, and the next number for a call. -/
structure HostEnv where
  beforeReset : List HostRequestId
  beforeSlot : List HostRequestId
  beforeLoad : List HostRequestId
  inGuest : List HostRequestId
  beforeFinish : List HostRequestId
  prepared : Bool
  outcome : GuestOutcome
  memory : List UInt8
  nextCallId : UInt64
  deriving DecidableEq

/-! ## The host -/

structure WasmHostIdentity where
  projectId : ScopeId
  pluginId : PluginId
  packageDigest : PackageDigest
  activationGeneration : ActivationGeneration
  hostInstanceId : HostInstanceId
  deriving DecidableEq

structure GuestBrokerCallState where
  requestId : HostRequestId
  callId : String
  callIdNumeric : UInt64
  steps : Nat
  cumulativeResultBytes : Nat
  lastStepDigest : String
  deriving DecidableEq

/-- The instance: whether it binds the broker exports, and its memory. -/
structure WasmRuntime where
  broker : Bool
  memory : List UInt8
  deriving DecidableEq

/-- What has happened, for what is said about runs; no operation reads it. -/
inductive HostEvent where
  | begun (requestId : HostRequestId)
  | cancelAccepted (requestId : HostRequestId)
  | guestEntered
  | runtimeMissing
  deriving DecidableEq, Repr

structure WasmPluginHost where
  identity : WasmHostIdentity
  runtime : Option WasmRuntime
  state : HostInstanceState
  negotiatedVersion : Option Nat
  guestAbiVersion : Nat
  brokerCall : Option GuestBrokerCallState
  /-- The request in the cancellation slot. -/
  active : Option HostRequestId
  /-- The requests cancelled before their dispatch. -/
  pending : List HostRequestId
  cancelled : Bool
  history : List HostEvent
  deriving DecidableEq

abbrev HostM := EStateM HostProtocolError WasmPluginHost

namespace WasmPluginHost

/-- `from_bytes`, of a module that could be instantiated. -/
def fromRuntime (identity : WasmHostIdentity) (runtime : WasmRuntime) : WasmPluginHost where
  identity := identity
  runtime := some runtime
  state := .created
  negotiatedVersion := none
  guestAbiVersion := if runtime.broker then guestAbiV2 else guestAbiV1
  brokerCall := none
  active := none
  pending := []
  cancelled := false
  history := []

def record (event : HostEvent) (h : WasmPluginHost) : WasmPluginHost := { h with history := h.history ++ [event] }

/-! ## Cancellation -/

/-- `cancel_inflight`, of the cancellation handle. -/
def cancelInflight (requestId : HostRequestId) (h : WasmPluginHost) : Bool × WasmPluginHost :=
  if h.active ≠ some requestId then (false, h)
  else (true, record (.cancelAccepted requestId) { h with cancelled := true })

/-- Cancellations that arrive one after the other. -/
def cancelEach (requestIds : List HostRequestId) (h : WasmPluginHost) : WasmPluginHost :=
  requestIds.foldl (fun h requestId => (cancelInflight requestId h).2) h

/-- The request takes the slot, unless it was cancelled before or the slot is taken. -/
def takeSlot (requestId : HostRequestId) (h : WasmPluginHost) : Bool × WasmPluginHost :=
  if requestId ∈ h.pending then (false, { h with pending := h.pending.erase requestId })
  else if h.active.isSome then (false, h)
  else (true, { h with active := some requestId })

/-- `begin_request`: the flag is reset before the slot is looked at. -/
def beginRequest (env : HostEnv) (requestId : HostRequestId) : HostM Bool := do
  modify (cancelEach env.beforeReset)
  modify fun h => { h with cancelled := false }
  modify (cancelEach env.beforeSlot)
  modifyGet (takeSlot requestId)

/-- `finish_request`. -/
def releaseSlot (requestId : HostRequestId) (h : WasmPluginHost) : WasmPluginHost :=
  { h with active := if h.active = some requestId then none else h.active, cancelled := false }

def finishRequest (env : HostEnv) (requestId : HostRequestId) : HostM Unit := do
  modify (cancelEach env.beforeFinish)
  modify (releaseSlot requestId)

/-- The host without its runtime, its call and what was in the slot. -/
def cleared (state : HostInstanceState) (h : WasmPluginHost) : WasmPluginHost :=
  { h with runtime := none, brokerCall := none, active := none, pending := [], cancelled := false, state := state }

def fail {α : Type} (code : HostProtocolErrorCode) : HostM α := do
  modify (cleared .quarantined)
  throw (protocolError code)

/-! ## Guest calls -/

/-- The error of an entry that finds no runtime. -/
def missingRuntime {α : Type} (error : HostProtocolError) : HostM α := do
  modify (record .runtimeMissing)
  throw error

/-- `call_guest`, of a broker export or of another one. -/
def callGuest (env : HostEnv) (broker : Bool) : HostM Nat := do
  modify (cancelEach env.beforeLoad)
  let h ← get
  if h.cancelled then fail .cancelled
  else
    match h.runtime with
    | none => missingRuntime (invalidState h.state)
    | some runtime =>
      if !env.prepared then fail .resourceLimit
      else if broker && !runtime.broker then fail .guestTrap
      else do
        modify (record .guestEntered)
        modify (cancelEach env.inGuest)
        let h ← get
        match env.outcome with
        | .returned value =>
          set { h with runtime := some { runtime with memory := env.memory } }
          return value
        | .trapped trap => fail (classifyTrap h.cancelled trap)
        | .failed => fail .resourceLimit
        | .panicked => fail .guestTrap

def requireSuccess (status : Nat) : HostM Unit := if status = 0 then pure () else fail .guestRejected

/-- `read_guest_utf8`, of the memory of a runtime: the high half of the packed value points to so many bytes as the low half says. -/
def readUtf8 (memory : List UInt8) (packed maximumBytes : Nat) : Except HostProtocolErrorCode String :=
  let pointer := packed / 2 ^ 32 % 2 ^ 32
  let length := packed % 2 ^ 32
  if maximumBytes < length then .error .payloadTooLarge
  else if memory.length < pointer + length then .error .invalidGuestOutput
  else
    match String.fromUTF8? ⟨((memory.drop pointer).take length).toArray⟩ with
    | some text => .ok text
    | none => .error .invalidGuestOutput

/-- `read_guest_utf8`, with the end of the host where it fails. -/
def readGuest (packed maximumBytes : Nat) : HostM String := do
  let h ← get
  match h.runtime with
  | none =>
    modify (record .runtimeMissing)
    fail .invalidStateTransition
  | some runtime =>
    match readUtf8 runtime.memory packed maximumBytes with
    | .ok text => return text
    | .error code => fail code

/-- `write_guest_input`. -/
def writeGuest (bytes : List UInt8) (maximumBytes : Nat) : HostM (Except HostProtocolErrorCode Unit) := do
  let h ← get
  if maximumBytes < bytes.length ∨ 2 ^ 31 ≤ bytes.length then return .error .payloadTooLarge
  else
    match h.runtime with
    | none =>
      modify (record .runtimeMissing)
      return .error .invalidStateTransition
    | some runtime =>
      if runtime.memory.length < bytes.length then return .error .invalidGuestOutput
      else
        set { h with runtime := some { runtime with memory := bytes ++ runtime.memory.drop bytes.length } }
        return .ok ()

/-! ## Broker calls -/

/-- A text of lower-case letters, digits and `.`, `_`, `-`, of at most 128 bytes. -/
def validCode (text : String) : Bool :=
  !text.isEmpty && decide (text.utf8ByteSize ≤ 128) &&
    text.toList.all fun c => c.isLower || c.isDigit || c == '.' || c == '_' || c == '-'

/-- A capability handle as a guest names it. -/
def validHandleId (handleId : String) : Bool :=
  "handle.".toList.isPrefixOf handleId.toList && (handleId.toList.drop 7).length == 64 &&
    (handleId.toList.drop 7).all fun c => c.isDigit || (decide ('a' ≤ c) && decide (c ≤ 'f'))

def knownPermission (permission : String) : Bool :=
  permission == "project.fs.read" || permission == "workspace.r.inspect" || permission == "network.fetch"

/-- The fields of a step, and its length where it is not the result of a call. -/
def validateStep (encoded : String) : GuestStep → Except HostProtocolErrorCode Unit
  | .brokerRequest _ handleId permission operation args =>
    if maxGuestStepBytes < encoded.utf8ByteSize then .error .payloadTooLarge
    else if validHandleId handleId && knownPermission permission && validCode operation && args.asObject.isSome then .ok ()
    else .error .invalidBrokerStep
  | .complete _ _ => .ok ()
  | .error _ code =>
    if maxGuestStepBytes < encoded.utf8ByteSize then .error .payloadTooLarge
    else if validCode code then .ok ()
    else .error .invalidBrokerStep

variable (crates : WasmCrates)

def decodeGuestStep (encoded expectedCallId : String) (maximumTerminalBytes : Nat) : Except HostProtocolErrorCode GuestStep :=
  if maximumTerminalBytes < encoded.utf8ByteSize then .error .payloadTooLarge
  else
    match crates.decodeStep encoded with
    | none => .error .invalidBrokerStep
    | some step =>
      if step.callId ≠ expectedCallId then .error .brokerSequenceViolation
      else
        match validateStep encoded step with
        | .ok _ => .ok step
        | .error code => .error code

/-- The step that a guest has returned, with its text; a malformed one is the end of the host. -/
def readStep (packed : Nat) (callId : String) (maximumReturnBytes : Nat) : HostM (String × GuestStep) := do
  let encoded ← readGuest packed maximumReturnBytes
  match decodeGuestStep crates encoded callId maximumReturnBytes with
  | .ok step => return (encoded, step)
  | .error code => fail code

/-- `format!("call.{:016x}")`. -/
def callIdOf (n : UInt64) : String :=
  String.ofList ("call.".toList ++ (List.range 16).map fun i => Json.hexDigit (n.toNat / 16 ^ (15 - i) % 16))

/-- `begin_broker_call_bounded`. -/
def beginBrokerCallBounded (env : HostEnv) (requestId : HostRequestId) (request : Json)
    (maximumInputBytes maximumReturnBytes : Nat) : HostM GuestStep := do
  let h ← get
  if h.state ≠ .active ∨ h.guestAbiVersion ≠ guestAbiV2 then throw (invalidState h.state)
  else if h.brokerCall.isSome then fail .brokerSequenceViolation
  else if !(← beginRequest env requestId) then throw (protocolError .cancelled)
  else
    modify (record (.begun requestId))
    let callId := callIdOf env.nextCallId
    let input := crates.encode (.obj [("call_id", .str callId), ("request", request)])
    if maximumInputBytes < input.length then
      finishRequest env requestId
      throw (protocolError .payloadTooLarge)
    else
      match ← writeGuest input maximumInputBytes with
      | .error code =>
        finishRequest env requestId
        fail code
      | .ok _ =>
        let packed ← callGuest env true
        let (encoded, step) ← readStep crates packed callId maximumReturnBytes
        if step.isTerminal then finishRequest env requestId
        else
          modify fun h =>
            { h with
              brokerCall := some
                { requestId := requestId
                  callId := callId
                  callIdNumeric := env.nextCallId
                  steps := 1
                  cumulativeResultBytes := 0
                  lastStepDigest := crates.sha256 encoded } }
        return step

def beginBrokerCall (env : HostEnv) (requestId : HostRequestId) (request : Json) : HostM GuestStep :=
  beginBrokerCallBounded crates env requestId request maxGuestStepBytes maxGuestStepBytes

def beginContributionCall (env : HostEnv) (requestId : HostRequestId) (request : Json) : HostM GuestStep :=
  beginBrokerCallBounded crates env requestId request maxGuestContributionEnvelopeBytes maxGuestContributionReturnBytes

/-- A broker request that repeats the one before it. -/
def repeats (digest previous : String) : GuestStep → Bool
  | .brokerRequest _ _ _ _ _ => digest == previous
  | .complete _ _ | .error _ _ => false

/-- `resume_broker_call_bounded`. -/
def resumeBrokerCallBounded (env : HostEnv) (requestId : HostRequestId) (result : Json) (rawResultBytes maximumReturnBytes : Nat) :
    HostM GuestStep := do
  let h ← get
  match h.brokerCall with
  | none => fail .brokerSequenceViolation
  | some call =>
    if call.requestId ≠ requestId then fail .brokerSequenceViolation
    else if maxGuestBrokerSteps ≤ call.steps then fail .brokerStepLimit
    else if maxGuestBrokerResultBytes < call.cumulativeResultBytes + rawResultBytes then fail .brokerResultLimit
    else if maxGuestBrokerResumeBytes < (crates.encode result).length then fail .brokerResultLimit
    else
      match ← writeGuest (crates.encode result) maxGuestBrokerResumeBytes with
      | .error code => fail code
      | .ok _ =>
        let packed ← callGuest env true
        let (encoded, step) ← readStep crates packed call.callId maximumReturnBytes
        if repeats (crates.sha256 encoded) call.lastStepDigest step then fail .brokerSequenceViolation
        else
          if step.isTerminal then
            modify fun h => { h with brokerCall := none }
            finishRequest env requestId
          else
            modify fun h =>
              { h with
                brokerCall := h.brokerCall.map fun call =>
                  { call with
                    steps := call.steps + 1
                    cumulativeResultBytes := call.cumulativeResultBytes + rawResultBytes
                    lastStepDigest := crates.sha256 encoded } }
          return step

def resumeBrokerCall (env : HostEnv) (requestId : HostRequestId) (result : Json) (rawResultBytes : Nat) : HostM GuestStep :=
  resumeBrokerCallBounded crates env requestId result rawResultBytes maxGuestStepBytes

def resumeContributionCall (env : HostEnv) (requestId : HostRequestId) (result : Json) (rawResultBytes : Nat) : HostM GuestStep :=
  resumeBrokerCallBounded crates env requestId result rawResultBytes maxGuestContributionReturnBytes

def cancelBrokerCall (env : HostEnv) (requestId : HostRequestId) : HostM Bool := do
  let h ← get
  match h.brokerCall with
  | none => return false
  | some call =>
    if call.requestId ≠ requestId then fail .brokerSequenceViolation
    else
      let status ← callGuest env true
      requireSuccess status
      modify fun h => { h with brokerCall := none }
      finishRequest env requestId
      return true

/-- `quarantine_for_timeout`: whether there was a host to quarantine. -/
def quarantineForTimeout : HostM Bool := do
  let h ← get
  if h.state = .disposed ∨ h.state = .quarantined then return false
  else
    modify (cleared .quarantined)
    return true

/-! ## Frames -/

def hello (apiVersion : Nat) : HostM (Option HostResponse) := do
  let h ← get
  if h.state ≠ .created then throw (invalidState h.state)
  else if apiVersion ≠ hostProtocolVersion then throw (protocolError .versionMismatch)
  else
    set { h with negotiatedVersion := some apiVersion, state := .ready }
    return some (.ready apiVersion)

def activate (env : HostEnv) : HostM (Option HostResponse) := do
  let h ← get
  if h.state ≠ .ready ∨ h.negotiatedVersion ≠ some hostProtocolVersion then throw (invalidState h.state)
  else
    let status ← callGuest env false
    requireSuccess status
    modify fun h => { h with state := .active }
    return some .activated

def echo (env : HostEnv) (requestId : HostRequestId) (payload : String) : HostM (Option HostResponse) := do
  let h ← get
  if h.state ≠ .active then throw (invalidState h.state)
  else if maxEchoPayloadBytes < payload.utf8ByteSize then throw (protocolError .payloadTooLarge)
  else if !(← beginRequest env requestId) then throw (protocolError .cancelled)
  else
    let h ← get
    match h.runtime with
    | none => missingRuntime (invalidState h.state)
    | some runtime =>
      if runtime.memory.length < payload.utf8ByteSize then
        finishRequest env requestId
        fail .invalidGuestOutput
      else
        set { h with
          runtime := some { runtime with memory := payload.toUTF8.toList ++ runtime.memory.drop payload.utf8ByteSize } }
        -- The request is finished whether the guest returned or not.
        let packed ← handle (callGuest env false)
          (fun packed => do
            finishRequest env requestId
            return packed)
          fun e => do
            finishRequest env requestId
            throw e
        let response ← readGuest packed maxEchoPayloadBytes
        return some (.echoResult requestId response)

def heartbeat (env : HostEnv) : HostM (Option HostResponse) := do
  let h ← get
  if h.state ≠ .active then throw (invalidState h.state)
  else
    let status ← callGuest env false
    requireSuccess status
    return some .heartbeatAck

def cancelBeforeDispatch (requestId : HostRequestId) : HostM (Option HostResponse) := do
  let h ← get
  if h.state ≠ .active ∧ h.state ≠ .quiescing then throw (invalidState h.state)
  else if maxPendingWasmCancellations ≤ h.pending.length ∧ requestId ∉ h.pending then throw (protocolError .resourceLimit)
  else
    set { h with pending := h.pending.insert requestId }
    return none

def quiesce (env : HostEnv) : HostM (Option HostResponse) := do
  let h ← get
  if h.state ≠ .active ∧ h.state ≠ .ready then throw (invalidState h.state)
  else
    let status ← callGuest env false
    requireSuccess status
    modify fun h => { h with state := .quiescing }
    return some .quiesced

def dispose (env : HostEnv) : HostM (Option HostResponse) := do
  let h ← get
  if h.state ≠ .ready ∧ h.state ≠ .active ∧ h.state ≠ .quiescing then throw (invalidState h.state)
  else
    set { h with state := .disposing }
    handle (do requireSuccess (← callGuest env false))
      (fun _ => do
        modify (cleared .disposed)
        return some .disposed)
      fun e => do
        modify fun h => { h with runtime := none }
        throw e

def handleFrame (env : HostEnv) (frame : HostFrame) : HostM (Option HostResponse) := do
  let h ← get
  if frame.instanceId ≠ h.identity.hostInstanceId then throw (protocolError .unknownInstance)
  else if h.state = .disposed ∨ h.state = .quarantined then throw (invalidState h.state)
  else
    match frame.message with
    | .hello apiVersion => hello apiVersion
    | .activate => activate env
    | .echo requestId payload => echo env requestId payload
    | .heartbeat => heartbeat env
    | .cancel requestId => cancelBeforeDispatch requestId
    | .quiesce => quiesce env
    | .dispose => dispose env

end WasmPluginHost

/-! ## Operations -/

inductive HostOp where
  | beginBrokerCall (requestId : HostRequestId) (request : Json)
  | beginContributionCall (requestId : HostRequestId) (request : Json)
  | resumeBrokerCall (requestId : HostRequestId) (result : Json) (rawResultBytes : Nat)
  | resumeContributionCall (requestId : HostRequestId) (result : Json) (rawResultBytes : Nat)
  | cancelBrokerCall (requestId : HostRequestId)
  | quarantineForTimeout
  | handleFrame (frame : HostFrame)
  | cancelInflight (requestId : HostRequestId)
  deriving DecidableEq

inductive HostAnswer where
  | step (step : GuestStep)
  | done (result : Bool)
  | response (response : Option HostResponse)
  deriving DecidableEq

/-- An operation in its surroundings. -/
def HostOp.run (crates : WasmCrates) (env : HostEnv) : HostOp → HostM HostAnswer
  | .beginBrokerCall requestId request => HostAnswer.step <$> WasmPluginHost.beginBrokerCall crates env requestId request
  | .beginContributionCall requestId request =>
    HostAnswer.step <$> WasmPluginHost.beginContributionCall crates env requestId request
  | .resumeBrokerCall requestId result rawResultBytes =>
    HostAnswer.step <$> WasmPluginHost.resumeBrokerCall crates env requestId result rawResultBytes
  | .resumeContributionCall requestId result rawResultBytes =>
    HostAnswer.step <$> WasmPluginHost.resumeContributionCall crates env requestId result rawResultBytes
  | .cancelBrokerCall requestId => HostAnswer.done <$> WasmPluginHost.cancelBrokerCall env requestId
  | .quarantineForTimeout => HostAnswer.done <$> WasmPluginHost.quarantineForTimeout
  | .handleFrame frame => HostAnswer.response <$> WasmPluginHost.handleFrame env frame
  | .cancelInflight requestId => HostAnswer.done <$> modifyGet (WasmPluginHost.cancelInflight requestId)

/-- The host after an operation, whether it succeeds or not. -/
def WasmPluginHost.step (crates : WasmCrates) (h : WasmPluginHost) (op : HostOp × HostEnv) : WasmPluginHost :=
  final (op.1.run crates op.2 h)

end Rho
