import Rho.Extension.Package
import Rho.Lib.FileName
import Rho.Lib.Proc

/-!
# File edits that an agent proposes

`main.rs`: a proposal is applied and undone by requests that wait for each other in a lane of the file; the user's commands write, create
and delete the file under the lock of the active context. What became of a proposal is not kept but read from the events of its turn.
Every access to the disk, the store, a lane or the lock is one action, so any two of them may have another program's between them.
-/

namespace Rho

open Proc

def maxEditableFileBytes : Nat := 8 * 1024 * 1024

/-! ## The project on disk -/

/-- What stands at a path: a file that is text, another file by its size, or a directory. -/
inductive DiskEntry where
  | text (content : String)
  | binary (size : Nat)
  | directory
  deriving DecidableEq, Repr

def DiskEntry.isFile : DiskEntry → Bool
  | .text _ | .binary _ => true
  | .directory => false

def DiskEntry.size : DiskEntry → Nat
  | .text content => content.utf8ByteSize
  | .binary size => size
  | .directory => 0

/-- The components of a path, without those that name the directory itself. -/
def pathComponents (path : String) : List String :=
  ((List.splitOn '/' path.toList).map String.ofList).filter fun c => c ≠ "" && c ≠ "."

/-- `project_path`, relative to the root. -/
def projectPath (relative : String) : Except String String := do
  ensure (!(trim relative).isEmpty) "Project file path is empty"
  ensure (relative.toList.head? ≠ some '/') "Project file path must be relative"
  ensure (!(pathComponents relative).contains "..") "Project file path contains a parent, root or drive prefix"
  return "/".intercalate (pathComponents relative)

def editableFileNames : List String :=
  ["description", "namespace", "license", "news", ".rbuildignore", ".gitignore", ".renviron", ".rprofile"]

def editableFileExtensions : List String :=
  ["r", "rmd", "qmd", "rd", "rproj", "md", "txt", "csv", "tsv", "yaml", "yml", "json", "toml", "ini", "html", "css", "js", "ts", "jsx",
    "tsx", "sql", "stan", "c", "cc", "cpp", "h", "hpp", "sh", "ps1", "bat"]

def ensureEditableFile (path : String) : Except String Unit :=
  let fileName := FileName.toAsciiLowercase ((pathComponents path).getLast?.getD "")
  ensure (editableFileNames.contains fileName || editableFileExtensions.contains ((FileName.extension fileName).getD ""))
    ("Unsupported or binary project file: " ++ fileName)

def ensureEditableContentSize (content : String) : Except String Unit :=
  ensure (content.utf8ByteSize ≤ maxEditableFileBytes) "Project file content is too large for the source editor"

def ensureEditableFileSize (entry : DiskEntry) : Except String Unit :=
  ensure (entry.size ≤ maxEditableFileBytes) "Project file is too large for the source editor"

/-- `read_to_string`. -/
def DiskEntry.readToString : DiskEntry → Except String String
  | .text content => .ok content
  | .binary _ => .error "stream did not contain valid UTF-8"
  | .directory => .error "Is a directory (os error 21)"

/-- `atomic_write`: the file replaces whatever is there, unless that is a directory. -/
def atomicWrite (content : String) : Option DiskEntry → Except String (Option DiskEntry)
  | some .directory => .error "Is a directory (os error 21)"
  | _ => .ok (some (.text content))

/-- `atomic_write_new`: nothing may be there. -/
def atomicWriteNew (content : String) : Option DiskEntry → Except String (Option DiskEntry)
  | some _ => .error "File exists (os error 17)"
  | none => .ok (some (.text content))

/-- `remove_file`. -/
def removeFile : Option DiskEntry → Except String (Option DiskEntry)
  | none => .error "No such file or directory (os error 2)"
  | some .directory => .error "Operation not permitted (os error 1)"
  | some _ => .ok none

/-- `project_delete_target`. -/
def projectDeleteTarget (path : String) (entry : Option DiskEntry) : Except String Unit := do
  let entry ← orError entry ("Project file does not exist: " ++ path)
  ensure entry.isFile ("Project path is not a file: " ++ path)

/-! ## Proposals -/

/-- What the turn was told of the editor. -/
structure EditorContext where
  activePath : Option String
  selectionStart : Option Nat
  selectionEnd : Option Nat
  selectionText : Option String
  anchorBefore : Option String
  anchorAfter : Option String
  deriving DecidableEq

structure PersistedAgentFileProposal where
  path : String
  operation : String
  content : String
  editorContext : Option EditorContext
  deriving DecidableEq

/-- A turn with the proposals that its events carry, by the identity of the event. -/
structure AgentTurnDetail where
  status : String
  proposal : Int → Except String PersistedAgentFileProposal

def ensureAgentFileProposalTurnTerminal (turn : Option AgentTurnDetail) : Except String Unit := do
  let turn ← orError turn "Agent file proposal turn was not found in the active project"
  ensure (!(["queued", "running", "waiting"].contains turn.status))
    "AGENT_FILE_TURN_ACTIVE: Wait for this Agent turn to finish before accepting its file proposal."

def persistedAgentFileProposal (turn : Option AgentTurnDetail) (proposalEventId : Int) : Except String PersistedAgentFileProposal := do
  ensure (0 < proposalEventId) "Agent file proposal event identity is invalid"
  let turn ← orError turn "Agent file proposal turn was not found in the active project"
  let proposal ← turn.proposal proposalEventId
  ensure (["replace_selection", "insert_at_cursor", "append", "create"].contains proposal.operation)
    "Agent file proposal operation is unsupported"
  return proposal

def validatePersistedAgentFileProposalStructure (proposal : PersistedAgentFileProposal) : Except String Unit :=
  if !(["replace_selection", "insert_at_cursor"].contains proposal.operation) then .ok ()
  else do
    let context ← orError proposal.editorContext "AGENT_FILE_PROPOSAL_INVALID: The proposal omitted its editor context."
    ensure (context.activePath = some proposal.path)
      "AGENT_FILE_PROPOSAL_INVALID: The proposal target does not match the captured active file."
    let start ← orError context.selectionStart "AGENT_FILE_PROPOSAL_INVALID: The proposal start offset is missing."
    let finish ← orError context.selectionEnd "AGENT_FILE_PROPOSAL_INVALID: The proposal end offset is missing."
    ensure (start ≤ finish) "AGENT_FILE_PROPOSAL_INVALID: The proposal range is inverted."
    if proposal.operation = "replace_selection" then
      ensure (start < finish && !(context.selectionText.getD "").isEmpty)
        "AGENT_FILE_PROPOSAL_INVALID: Replace selection requires non-empty text selected when the turn starts."
    else ensure (finish = start) "AGENT_FILE_PROPOSAL_INVALID: Insert at cursor requires an empty captured range."

def lenUtf16 (c : Char) : Nat := if 0x10000 ≤ c.toNat then 2 else 1

def utf16Length (content : List Char) : Nat := (content.map lenUtf16).sum

/-- `utf16_offset_to_byte_index`, as the number of characters before the offset. -/
def utf16OffsetToIndex : List Char → Nat → Option Nat
  | _, 0 => some 0
  | [], _ + 1 => none
  | c :: rest, n + 1 => if n + 1 < lenUtf16 c then none else (utf16OffsetToIndex rest (n + 1 - lenUtf16 c)).map (· + 1)

/-- The content after the edit, and where the inserted text stands in it. -/
def calculatePersistedAgentFileEdit (proposal : PersistedAgentFileProposal) (beforeContent : String) :
    Except String (String × Nat × Nat) :=
  let inserted := proposal.content.toList
  let before := beforeContent.toList
  if proposal.operation = "create" then do
    ensure beforeContent.isEmpty "A create proposal cannot use existing editor content"
    return (proposal.content, 0, utf16Length inserted)
  else if proposal.operation = "append" then
    .ok (beforeContent ++ proposal.content, utf16Length before, utf16Length before + utf16Length inserted)
  else if proposal.operation = "replace_selection" ∨ proposal.operation = "insert_at_cursor" then do
    let context ← orError proposal.editorContext "Agent file proposal omitted its editor context"
    ensure (context.activePath = some proposal.path) "Agent file proposal target no longer matches its editor context"
    let startUtf16 ← orError context.selectionStart "Agent file proposal start offset is missing"
    let endUtf16 ← orError context.selectionEnd "Agent file proposal end offset is missing"
    ensure (startUtf16 ≤ endUtf16) "Agent file proposal range is inverted"
    let start ← orError (utf16OffsetToIndex before startUtf16) "Agent file proposal start offset is no longer valid"
    let finish ← orError (utf16OffsetToIndex before endUtf16) "Agent file proposal end offset is no longer valid"
    if proposal.operation = "replace_selection" then
      ensure (start < finish && (before.take finish).drop start = (context.selectionText.getD "").toList)
        "The selected text changed after this proposal was created"
    else
      ensure ((context.anchorBefore.getD "").toList.isSuffixOf (before.take start) &&
          (context.anchorAfter.getD "").toList.isPrefixOf (before.drop finish))
        "The cursor context changed after this proposal was created"
    return (String.ofList (before.take start ++ inserted ++ before.drop finish), startUtf16, startUtf16 + utf16Length inserted)
  else .error "Agent file proposal operation is unsupported"

/-! ## The events of a mutation -/

inductive AgentFileMutationAction where
  | apply | undo
  deriving DecidableEq, Repr

def AgentFileMutationAction.asStr : AgentFileMutationAction → String
  | .apply => "apply"
  | .undo => "undo"

structure AgentFileMutationLedger where
  mutationId : String
  action : AgentFileMutationAction
  path : String
  operation : String
  proposalEventId : Int
  expectedBeforeSha256 : Option String
  expectedBeforeAbsent : Bool
  restoreContentSha256 : Option String
  intendedAfterSha256 : Option String
  intendedAfterAbsent : Bool
  deriving DecidableEq

/-- The type of an event with the details that are read back. -/
inductive FileEditRecord where
  | mutationStarted (ledger : AgentFileMutationLedger)
  | applied (mutationId : String)
  | undone (mutationId : String)
  | recovered (mutationId : String) (action : AgentFileMutationAction)
  | mutationNotApplied (mutationId : String) (action : AgentFileMutationAction)
  | mutationFailed (mutationId : String) (action : AgentFileMutationAction)
  | outcomeUncertain (mutationId : String) (action : AgentFileMutationAction)
  | resourceStale (action : AgentFileMutationAction) (reason : String)
  | cancelled (action : AgentFileMutationAction)
  deriving DecidableEq

/-- The identity of the mutation that an event is about. -/
def FileEditRecord.mutationId : FileEditRecord → Option String
  | .mutationStarted ledger => some ledger.mutationId
  | .applied id | .undone id | .recovered id _ | .mutationNotApplied id _ | .mutationFailed id _ | .outcomeUncertain id _ => some id
  | .resourceStale _ _ | .cancelled _ => none

structure FileEditEvent where
  turnId : String
  path : String
  operation : String
  proposalEventId : Int
  record : FileEditRecord
  deriving DecidableEq

inductive AgentFileProposalMutationState where
  | available | mutating
  | applied (ledger : AgentFileMutationLedger)
  | undone | stale | uncertain
  deriving DecidableEq

/-- What has been read of the events so far. -/
structure MutationReading where
  state : AgentFileProposalMutationState := .available
  ledgers : List (String × AgentFileMutationLedger) := []
  successfulApply : Option AgentFileMutationLedger := none

/-- The state that a request which came to nothing leaves the proposal in. -/
def MutationReading.decided (r : MutationReading) : AgentFileProposalMutationState :=
  match r.successfulApply with
  | some applied => .applied applied
  | none => .available

def MutationReading.recordApplied (r : MutationReading) (mutationId : String) : Except String MutationReading := do
  let ledger ← orError (OrdMap.get r.ledgers mutationId) "Applied Agent file mutation has no matching start record"
  ensure (ledger.action = .apply) "Applied Agent file mutation references the wrong action"
  return { r with successfulApply := some ledger, state := .applied ledger }

def MutationReading.recordUndone (r : MutationReading) (mutationId : String) : Except String MutationReading := do
  let ledger ← orError (OrdMap.get r.ledgers mutationId) "Undone Agent file mutation has no matching start record"
  ensure (ledger.action = .undo && r.successfulApply.isSome) "Agent file Undo has no durable applied predecessor"
  return { r with state := .undone }

/-- One event of the proposal. -/
def MutationReading.read (proposalEventId : Int) (r : MutationReading) (event : FileEditEvent) : Except String MutationReading :=
  match event.record with
  | .mutationStarted ledger => do
    ensure (ledger.proposalEventId = proposalEventId && ledger.path = event.path && ledger.operation = event.operation)
      "Agent file mutation ledger does not match its event"
    return { r with ledgers := OrdMap.insert ledger.mutationId ledger r.ledgers, state := .mutating }
  | .applied id | .recovered id .apply => r.recordApplied id
  | .undone id | .recovered id .undo => r.recordUndone id
  | .mutationNotApplied _ _ | .mutationFailed _ _ | .cancelled _ => .ok { r with state := r.decided }
  | .resourceStale _ _ => .ok { r with state := .stale }
  | .outcomeUncertain _ _ => .ok { r with state := .uncertain }

/-- The events are those of the project, in their order. -/
def persistedAgentFileMutationState (turn : Option AgentTurnDetail) (events : List FileEditEvent) (turnId : String)
    (proposalEventId : Int) : Except String AgentFileProposalMutationState := do
  let _ ← orError turn "Agent file proposal turn was not found in the active project"
  let own := events.filter fun event => event.turnId = turnId && event.proposalEventId = proposalEventId
  let reading ← own.foldlM (MutationReading.read proposalEventId) {}
  return reading.state

def ensureAgentFileApplyAvailable : AgentFileProposalMutationState → Except String Unit
  | .available => .ok ()
  | .mutating => .error "AGENT_FILE_MUTATION_BUSY: This Agent file proposal is already being changed."
  | .applied _ | .undone => .error "AGENT_FILE_ALREADY_DECIDED: This Agent file proposal was already applied."
  | .stale => .error "AGENT_FILE_RESOURCE_STALE: This Agent file proposal is stale; generate a fresh proposal."
  | .uncertain => .error "AGENT_FILE_OUTCOME_UNCERTAIN: Inspect the current file before taking another action."

def durableAgentFileUndoLedger : AgentFileProposalMutationState → Except String AgentFileMutationLedger
  | .applied ledger => .ok ledger
  | .available => .error "AGENT_FILE_NOT_APPLIED: This Agent file proposal has not been applied."
  | .mutating => .error "AGENT_FILE_MUTATION_BUSY: This Agent file proposal is already being changed."
  | .undone => .error "AGENT_FILE_ALREADY_DECIDED: This Agent file proposal was already undone."
  | .stale => .error "AGENT_FILE_RESOURCE_STALE: This Agent file proposal no longer has a safe Undo."
  | .uncertain => .error "AGENT_FILE_OUTCOME_UNCERTAIN: Inspect the current file before taking another action."

/-! ## What the programs share -/

inductive AgentFileClaimStatus where
  | queued | running | cancelled
  deriving DecidableEq, Repr

/-- A request that has been admitted to the queue, by its place among the programs. -/
structure AgentFileMutationClaim where
  request : Nat
  turnId : String
  path : String
  status : AgentFileClaimStatus
  deriving DecidableEq

/-- What a mutation's write found at its path. -/
structure AgentFileReplacement where
  mutationId : String
  path : String
  found : Option DiskEntry
  deriving DecidableEq

structure AgentFileWorld where
  disk : String → Option DiskEntry
  turns : String → Option AgentTurnDetail
  events : List FileEditEvent
  claims : List AgentFileMutationClaim
  /-- Who is in the lane of a file. -/
  lanes : String → Option Nat
  /-- Who holds the lock of the active context. -/
  context : Option Nat
  /-- What the writes of mutations have found. -/
  replaced : List AgentFileReplacement

/-- Whether the system refuses an action, and what a generator of identities gives. -/
structure AgentFileInput where
  fault : Option String
  uuid : String

/-- What an action is about, as far as other programs care: it follows the read of a file that is to be replaced, it replaces or deletes
the file, or it is a save of the user. -/
inductive AgentFileAccess where
  | other
  | pending (path : String)
  | writing (path : String)
  | saving (path : String)
  deriving DecidableEq, Repr

abbrev AgentFileM := Proc AgentFileAccess AgentFileInput AgentFileWorld String

namespace AgentFileWorld

/-- An action that the system may refuse. -/
def attempted {α : Type} (f : AgentFileInput → AgentFileWorld → Except String α × AgentFileWorld) (i : AgentFileInput)
    (w : AgentFileWorld) : Except String α × AgentFileWorld :=
  match i.fault with
  | some e => (.error e, w)
  | none => f i w

def appendEvent (w : AgentFileWorld) (event : FileEditEvent) : AgentFileWorld := { w with events := w.events ++ [event] }

/-- A change of what stands at a path. -/
def writeDisk (path : String) (change : Option DiskEntry → Except String (Option DiskEntry)) (w : AgentFileWorld) :
    Except String Unit × AgentFileWorld :=
  match change (w.disk path) with
  | .error e => (.error e, w)
  | .ok entry => (.ok (), { w with disk := Function.update w.disk path entry })

/-- A mutation's write, with what it has found. -/
def replace (mutationId path : String) (change : Option DiskEntry → Except String (Option DiskEntry)) (w : AgentFileWorld) :
    Except String Unit × AgentFileWorld :=
  match w.writeDisk path change with
  | (.error e, _) => (.error e, w)
  | (.ok (), w') => (.ok (), { w' with replaced := w.replaced ++ [⟨mutationId, path, w.disk path⟩] })

def register (w : AgentFileWorld) (request : Nat) (turnId path : String) : AgentFileWorld :=
  { w with claims := w.claims ++ [⟨request, turnId, path, .queued⟩] }

def beginRunning (w : AgentFileWorld) (request : Nat) : Bool × AgentFileWorld :=
  match w.claims.find? (·.request = request) with
  | none => (false, w)
  | some claim =>
    if claim.status = .cancelled then (false, w)
    else (true, { w with claims := w.claims.map fun c => if c.request = request then { c with status := .running } else c })

def cancelQueuedTurn (w : AgentFileWorld) (turnId : String) : AgentFileWorld :=
  { w with claims := w.claims.map fun c => if c.turnId = turnId ∧ c.status = .queued then { c with status := .cancelled } else c }

/-- A claim is dropped with its guard. -/
def dropClaim (request : Nat) (w : AgentFileWorld) : AgentFileWorld :=
  { w with claims := w.claims.filter fun c => c.request ≠ request }

def enterLane (request : Nat) (path : String) (w : AgentFileWorld) : Option (Unit × AgentFileWorld) :=
  match w.lanes path with
  | some _ => none
  | none => some ((), { w with lanes := Function.update w.lanes path (some request) })

def leaveLane (path : String) (w : AgentFileWorld) : AgentFileWorld := { w with lanes := Function.update w.lanes path none }

def lockContext (request : Nat) (w : AgentFileWorld) : Option (Unit × AgentFileWorld) :=
  match w.context with
  | some _ => none
  | none => some ((), { w with context := some request })

def unlockContext (w : AgentFileWorld) : AgentFileWorld := { w with context := none }

end AgentFileWorld

namespace AgentFile

open AgentFileWorld

def appendAgentFileMutationEvent (l : AgentFileAccess) (event : FileEditEvent) : AgentFileM Unit :=
  perform l (attempted fun _ w => (.ok (), w.appendEvent event))

/-- A condition whose failure makes the proposal stale. -/
def ensureFresh {α : Type} (stale : FileEditEvent) (message : String) (result : Except String α) : AgentFileM α :=
  match result with
  | .ok a => .done a
  | .error _ => do
    appendAgentFileMutationEvent .other stale
    .fail message

/-- Under the lock of the active context, the workspace's revision is raised and saved. -/
def recordAgentFileProjectChange (self : Nat) : AgentFileM Unit := do
  await .other fun _ w => w.lockContext self
  guarded .other unlockContext (perform .other (attempted fun _ w => (.ok (), w)))

/-! ## Observing a file -/

inductive AgentFileObservation where
  | absent
  | digest (sha256 : String)
  | unknown (reason : String)
  deriving DecidableEq

def observationMatches (observation : AgentFileObservation) (digest : Option String) (absent : Bool) : Bool :=
  match observation with
  | .absent => absent
  | .digest actual => digest = some actual
  | .unknown _ => false

section Requests

variable (sha256 : List UInt8 → Vector UInt8 32)

def textSha256 (content : String) : String := hexEncode (sha256 (bytesOf content)).toList

def observeAgentFile : Option DiskEntry → AgentFileObservation
  | none => .absent
  | some entry =>
    if !entry.isFile then .unknown "target is not a regular project file"
    else
      match (do ensureEditableFileSize entry; entry.readToString) with
      | .ok content => .digest (textSha256 sha256 content)
      | .error e => .unknown e

/-- The digest of the text at a path, unless it is too large to be edited. -/
def diskDigest (entry : Option DiskEntry) : Except String String := do
  let entry ← orError entry "No such file or directory (os error 2)"
  ensureEditableFileSize entry
  return textSha256 sha256 (← entry.readToString)

/-! ## Ends of a mutation that has started -/

/-- The event that ends a mutation. -/
def endEvent (turnId : String) (ledger : AgentFileMutationLedger) (record : FileEditRecord) : FileEditEvent :=
  ⟨turnId, ledger.path, ledger.operation, ledger.proposalEventId, record⟩

def agentFileWriteFailure {α : Type} (turnId : String) (ledger : AgentFileMutationLedger) (error : String) : AgentFileM α := do
  let observation ← read .other fun w => .ok (observeAgentFile sha256 (w.disk ledger.path))
  let unchanged := observationMatches observation ledger.expectedBeforeSha256 ledger.expectedBeforeAbsent
  let record := if unchanged then .mutationFailed ledger.mutationId ledger.action
    else .outcomeUncertain ledger.mutationId ledger.action
  let _ ← (appendAgentFileMutationEvent .other (endEvent turnId ledger record)).attempt
  .fail ((if unchanged then "AGENT_FILE_WRITE_FAILED" else "AGENT_FILE_OUTCOME_UNCERTAIN") ++ ": The Agent file " ++
    ledger.action.asStr ++ " did not complete cleanly: " ++ error)

def agentFilePostwriteFailure {α : Type} (turnId : String) (ledger : AgentFileMutationLedger) (error : String) : AgentFileM α := do
  let _ ← (appendAgentFileMutationEvent .other
    (endEvent turnId ledger (.outcomeUncertain ledger.mutationId ledger.action))).attempt
  .fail ("AGENT_FILE_OUTCOME_UNCERTAIN: The file reached its intended disk state, but " ++
    ledger.action.asStr ++ " persistence failed: " ++ error)

/-- After the write: the project's change and the event of the end, whose failures leave the outcome uncertain. -/
def recordMutationEnd (self : Nat) (turnId : String) (ledger : AgentFileMutationLedger) (record : FileEditRecord) :
    AgentFileM Unit := do
  let result ← (do
    recordAgentFileProjectChange self
    appendAgentFileMutationEvent .other (endEvent turnId ledger record) : AgentFileM Unit).attempt
  match result with
  | .ok () => .done ()
  | .error error => agentFilePostwriteFailure turnId ledger error

/-! ## The start and the write of a mutation -/

/-- The record of a mutation that starts, under a new identity. -/
def startMutation (l : AgentFileAccess) (turnId : String) (ledger : String → AgentFileMutationLedger) :
    AgentFileM AgentFileMutationLedger :=
  perform l (attempted fun i w =>
    let ledger := ledger ("agent_file_mutation_" ++ i.uuid)
    (.ok ledger, w.appendEvent (endEvent turnId ledger (.mutationStarted ledger))))

/-- A mutation's write, and what its failure leaves. -/
def writeMutation (l : AgentFileAccess) (turnId : String) (ledger : AgentFileMutationLedger)
    (change : Option DiskEntry → Except String (Option DiskEntry)) : AgentFileM Unit := do
  let result ← (perform l (attempted fun _ w => w.replace ledger.mutationId ledger.path change) : AgentFileM Unit).attempt
  match result with
  | .ok () => .done ()
  | .error error => agentFileWriteFailure sha256 turnId ledger error

/-! ## Apply -/

structure AgentFileApplyRequest where
  turnId : String
  proposalEventId : Int
  path : String
  expectedDiskSha256 : Option String
  beforeContent : String
  deriving DecidableEq

structure AgentFileMutationResponse where
  status : String
  path : String
  content : Option String
  start : Nat
  finish : Nat
  afterSha256 : Option String
  deriving DecidableEq

def validSha256 (value : String) : Bool :=
  value.utf8ByteSize = 64 && value.toList.all fun c => c.isDigit || ('a' ≤ c && c ≤ 'f') || ('A' ≤ c && c ≤ 'F')

namespace AgentFileApplyRequest

/-- The event that makes the proposal stale. -/
def stale (request : AgentFileApplyRequest) (operation reason : String) : FileEditEvent :=
  ⟨request.turnId, request.path, operation, request.proposalEventId, .resourceStale .apply reason⟩

/-- The proposal and whether it can be applied still. -/
def available (request : AgentFileApplyRequest) : AgentFileM PersistedAgentFileProposal := do
  let proposal ← read .other fun w => persistedAgentFileProposal (w.turns request.turnId) request.proposalEventId
  ensure (proposal.path = request.path) "Agent file proposal path does not match its durable event"
  validatePersistedAgentFileProposalStructure proposal
  read .other fun w => do
    ensureAgentFileApplyAvailable
      (← persistedAgentFileMutationState (w.turns request.turnId) w.events request.turnId request.proposalEventId)
  return proposal

/-- The file must not be there. -/
def observeAbsent (request : AgentFileApplyRequest) : AgentFileM (Option String) := do
  ensure request.expectedDiskSha256.isNone "Create proposals must expect an absent file"
  let entry ← read .other fun w => .ok (w.disk request.path)
  ensureFresh (request.stale "create" "create_target_exists")
    ("AGENT_FILE_RESOURCE_STALE: Cannot create " ++ request.path ++ " because the file now exists.")
    (ensure entry.isNone "")
  return none

/-- The file must have the digest that the request expects. -/
def observeDigest (request : AgentFileApplyRequest) (operation : String) : AgentFileM (Option String) := do
  let found ← read .other fun w => .ok (w.disk request.path)
  ensureFresh (request.stale operation "edit_target_missing")
    ("AGENT_FILE_RESOURCE_STALE: Cannot edit " ++ request.path ++ " because the file no longer exists.")
    (ensure (found.any DiskEntry.isFile) "")
  let actual ← read .other fun w => diskDigest sha256 (w.disk request.path)
  let expected ← orError request.expectedDiskSha256 "Existing-file proposals require an expected disk digest"
  ensureFresh (request.stale operation "content_digest_changed")
    ("AGENT_FILE_RESOURCE_STALE: " ++ request.path ++ " changed before the Agent edit acquired its file lane.")
    (ensure (actual = expected) "")
  return some actual

def observe (request : AgentFileApplyRequest) (operation : String) : AgentFileM (Option String) :=
  if operation = "create" then request.observeAbsent else request.observeDigest sha256 operation

/-- The request with its proposal, in the lane of the file. -/
def applyProposal (self : Nat) (request : AgentFileApplyRequest) (proposal : PersistedAgentFileProposal) :
    AgentFileM AgentFileMutationResponse := do
  let create := decide (proposal.operation = "create")
  let actual ← request.observe sha256 proposal.operation
  let (content, start, finish) ← ensureFresh (request.stale proposal.operation "editor_context_changed")
    ("AGENT_FILE_RESOURCE_STALE: " ++ request.path ++ " no longer matches the proposal context")
    (calculatePersistedAgentFileEdit proposal request.beforeContent)
  ensureEditableContentSize content
  let ledger ← startMutation (if create then .other else .pending request.path) request.turnId fun mutationId => {
    mutationId := mutationId
    action := .apply
    path := request.path
    operation := proposal.operation
    proposalEventId := request.proposalEventId
    expectedBeforeSha256 := actual
    expectedBeforeAbsent := create
    restoreContentSha256 := some (textSha256 sha256 request.beforeContent)
    intendedAfterSha256 := some (textSha256 sha256 content)
    intendedAfterAbsent := false }
  writeMutation sha256 (if create then .other else .writing request.path) request.turnId ledger
    (if create then atomicWriteNew content else atomicWrite content)
  recordMutationEnd self request.turnId ledger (.applied ledger.mutationId)
  return ⟨"applied", request.path, some content, start, finish, some (textSha256 sha256 content)⟩

end AgentFileApplyRequest

/-- A request that was cancelled while it waited ends with an event that says so. -/
def ifAdmitted {α : Type} (admitted : Bool) (cancelled : FileEditEvent) (message : String) (body : AgentFileM α) : AgentFileM α :=
  if admitted then body
  else do
    appendAgentFileMutationEvent .other cancelled
    .fail message

/-- The claim and the lane of a file, which end with the request. -/
def inLane {α : Type} (self : Nat) (turnId path : String) (cancelled : FileEditEvent) (message : String)
    (body : AgentFileM α) : AgentFileM α := do
  perform .other fun _ w => (.ok (), w.register self turnId path)
  guarded .other (dropClaim self) do
    await .other fun _ w => w.enterLane self path
    guarded .other (leaveLane path) do
      let admitted ← perform .other fun _ w => ((.ok (w.beginRunning self).1 : Except String Bool), (w.beginRunning self).2)
      ifAdmitted admitted cancelled message body

def applyAgentFileEditState (self : Nat) (request : AgentFileApplyRequest) : AgentFileM AgentFileMutationResponse := do
  ensureEditableContentSize request.beforeContent
  ensure (request.expectedDiskSha256.all validSha256) "Expected file digest is invalid"
  let normalizedPath ← projectPath request.path
  ensureEditableFile normalizedPath
  ensure (normalizedPath = request.path) "Agent file proposal path is not normalized"
  read .other fun w => ensureAgentFileProposalTurnTerminal (w.turns request.turnId)
  inLane self request.turnId request.path
    ⟨request.turnId, request.path, "unknown", request.proposalEventId, .cancelled .apply⟩
    "AGENT_FILE_CANCELLED: The Agent file edit was cancelled before admission." do
      let proposal ← request.available
      request.applyProposal sha256 self proposal

/-! ## Undo -/

structure AgentFileUndoRequest where
  turnId : String
  proposalEventId : Int
  path : String
  expectedAfterSha256 : String
  beforeContent : String
  created : Bool
  deriving DecidableEq

namespace AgentFileUndoRequest

def stale (request : AgentFileUndoRequest) (operation reason : String) : FileEditEvent :=
  ⟨request.turnId, request.path, operation, request.proposalEventId, .resourceStale .undo reason⟩

/-- What the ledger of the apply must say. -/
def checkLedger (request : AgentFileUndoRequest) (proposal : PersistedAgentFileProposal) (applied : AgentFileMutationLedger) :
    Except String Unit := do
  ensure (applied.path = request.path && applied.operation = proposal.operation &&
      applied.proposalEventId = request.proposalEventId && applied.expectedBeforeAbsent = request.created &&
      !applied.intendedAfterAbsent)
    "Agent file Undo does not match its durable Apply ledger"
  ensure (applied.intendedAfterSha256 = some request.expectedAfterSha256)
    "AGENT_FILE_RESOURCE_STALE: The requested Undo digest does not match the durable Apply result."
  ensure (applied.restoreContentSha256 = some (textSha256 sha256 request.beforeContent))
    "AGENT_FILE_RESOURCE_STALE: The requested Undo content does not match the durable pre-Apply editor snapshot."
  ensure (!request.created || request.beforeContent.isEmpty && applied.expectedBeforeSha256.isNone)
    "Agent file create Undo has invalid before-content state"

/-- The proposal whose apply can be undone still. -/
def available (request : AgentFileUndoRequest) : AgentFileM PersistedAgentFileProposal := do
  let proposal ← read .other fun w => persistedAgentFileProposal (w.turns request.turnId) request.proposalEventId
  ensure (proposal.path = request.path && (proposal.operation == "create") = request.created)
    "Agent file Undo does not match its durable proposal"
  let applied ← read .other fun w => do
    durableAgentFileUndoLedger
      (← persistedAgentFileMutationState (w.turns request.turnId) w.events request.turnId request.proposalEventId)
  request.checkLedger sha256 proposal applied
  return proposal

/-- The file must have the digest that the apply has left. -/
def observeDigest (request : AgentFileUndoRequest) (operation : String) : AgentFileM String := do
  let found ← read .other fun w => .ok (w.disk request.path)
  ensureFresh (request.stale operation "undo_target_missing")
    ("AGENT_FILE_RESOURCE_STALE: Cannot undo " ++ request.path ++ " because the applied file is missing.")
    (ensure (found.any DiskEntry.isFile) "")
  let actual ← read .other fun w => diskDigest sha256 (w.disk request.path)
  ensureFresh (request.stale operation "undo_content_digest_changed")
    ("AGENT_FILE_RESOURCE_STALE: " ++ request.path ++ " changed after the Agent edit, so automatic Undo was stopped.")
    (ensure (actual = request.expectedAfterSha256) "")
  return actual

/-- `safe_delete_project_file` for the file that the apply created. -/
def deleteCreated (turnId : String) (ledger : AgentFileMutationLedger) : AgentFileM Unit := do
  let target ← (read (.pending ledger.path) fun w => projectDeleteTarget ledger.path (w.disk ledger.path) : AgentFileM Unit).attempt
  match target with
  | .ok () => writeMutation sha256 (.writing ledger.path) turnId ledger removeFile
  | .error error => agentFileWriteFailure sha256 turnId ledger error

/-- The write of the undo. -/
def restore (request : AgentFileUndoRequest) (ledger : AgentFileMutationLedger) : AgentFileM Unit :=
  if request.created then deleteCreated sha256 request.turnId ledger
  else writeMutation sha256 (.writing request.path) request.turnId ledger (atomicWrite request.beforeContent)

def undoProposal (self : Nat) (request : AgentFileUndoRequest) (proposal : PersistedAgentFileProposal) :
    AgentFileM AgentFileMutationResponse := do
  let actual ← request.observeDigest sha256 proposal.operation
  let afterSha256 := if request.created then none else some (textSha256 sha256 request.beforeContent)
  let ledger ← startMutation (.pending request.path) request.turnId fun mutationId => {
    mutationId := mutationId
    action := .undo
    path := request.path
    operation := proposal.operation
    proposalEventId := request.proposalEventId
    expectedBeforeSha256 := some actual
    expectedBeforeAbsent := false
    restoreContentSha256 := none
    intendedAfterSha256 := afterSha256
    intendedAfterAbsent := request.created }
  request.restore sha256 ledger
  recordMutationEnd self request.turnId ledger (.undone ledger.mutationId)
  return ⟨"undone", request.path, if request.created then none else some request.beforeContent, 0, 0, afterSha256⟩

end AgentFileUndoRequest

def undoAgentFileEditState (self : Nat) (request : AgentFileUndoRequest) : AgentFileM AgentFileMutationResponse := do
  ensure (validSha256 request.expectedAfterSha256) "Expected applied-file digest is invalid"
  ensureEditableContentSize request.beforeContent
  let normalizedPath ← projectPath request.path
  ensureEditableFile normalizedPath
  ensure (normalizedPath = request.path) "Agent file proposal path is not normalized"
  inLane self request.turnId request.path
    ⟨request.turnId, request.path, "unknown", request.proposalEventId, .cancelled .undo⟩
    "AGENT_FILE_CANCELLED: The Agent file Undo was cancelled before admission." do
      let proposal ← request.available sha256
      request.undoProposal sha256 self proposal

/-! ## Recovery -/

/-- The mutations without an event that ends them, with their turns. -/
def incompleteMutations (events : List FileEditEvent) : List (String × String × AgentFileMutationLedger) :=
  events.foldl (fun pending event =>
    match event.record, event.record.mutationId with
    | .mutationStarted ledger, _ => OrdMap.insert ledger.mutationId (event.turnId, ledger) pending
    | _, some id => pending.filter fun p => p.1 ≠ id
    | _, none => pending) []

def recoveredRecord (observation : AgentFileObservation) (ledger : AgentFileMutationLedger) : FileEditRecord :=
  if observationMatches observation ledger.intendedAfterSha256 ledger.intendedAfterAbsent then
    .recovered ledger.mutationId ledger.action
  else if observationMatches observation ledger.expectedBeforeSha256 ledger.expectedBeforeAbsent then
    .mutationNotApplied ledger.mutationId ledger.action
  else .outcomeUncertain ledger.mutationId ledger.action

def recoverEach : List (String × String × AgentFileMutationLedger) → AgentFileM Unit
  | [] => .done ()
  | (_, turnId, ledger) :: rest => do
    let observation ← read .other fun w => .ok (observeAgentFile sha256 (w.disk ledger.path))
    appendAgentFileMutationEvent .other (endEvent turnId ledger (recoveredRecord observation ledger))
    recoverEach rest

def recoverIncompleteAgentFileMutations : AgentFileM Unit := do
  let events ← read .other fun w => .ok w.events
  recoverEach sha256 (incompleteMutations events)

/-! ## The user's commands -/

/-- What a command does under the lock of the active context: its access to the disk, and the workspace's revision. -/
def underContext (self : Nat) (save : AgentFileM Unit) : AgentFileM Unit := do
  await .other fun _ w => w.lockContext self
  guarded .other unlockContext do
    save
    perform .other (attempted fun _ w => (.ok (), w))

def projectWriteFile (self : Nat) (path content : String) : AgentFileM Unit := do
  ensureEditableContentSize content
  let file ← projectPath path
  ensureEditableFile file
  underContext self (perform (.saving file) (attempted fun _ w => w.writeDisk file (atomicWrite content)))

def projectCreateFile (self : Nat) (path content : String) : AgentFileM Unit := do
  ensureEditableContentSize content
  let file ← projectPath path
  ensureEditableFile file
  read .other fun w => ensure (w.disk file).isNone ("Project file already exists: " ++ path)
  underContext self (perform (.saving file) (attempted fun _ w => w.writeDisk file (atomicWriteNew content)))

def projectDeleteFile (self : Nat) (path : String) : AgentFileM Unit :=
  underContext self do
    let file ← projectPath path
    ensureEditableFile file
    read .other fun w => projectDeleteTarget path (w.disk file)
    perform (.saving file) (attempted fun _ w => w.writeDisk file removeFile)

/-! ## Runs -/

inductive AgentFileCommand where
  | apply (request : AgentFileApplyRequest)
  | undo (request : AgentFileUndoRequest)
  | write (path content : String)
  | create (path content : String)
  | delete (path : String)
  | recover

/-- The program of a command, by its place. -/
def AgentFileCommand.program (self : Nat) : AgentFileCommand → AgentFileM Unit
  | .apply request => do let _ ← applyAgentFileEditState sha256 self request
  | .undo request => do let _ ← undoAgentFileEditState sha256 self request
  | .write path content => projectWriteFile self path content
  | .create path content => projectCreateFile self path content
  | .delete path => projectDeleteFile self path
  | .recover => recoverIncompleteAgentFileMutations sha256

inductive AgentFileStep where
  | start (command : AgentFileCommand)
  | act (n : Nat) (input : AgentFileInput)
  | cancelTurn (turnId : String)
  /-- Agents have worked on turns. -/
  | work (turns : String → Option AgentTurnDetail)
  /-- The process ends; what is on disk and in the store stays. -/
  | stop

abbrev AgentFileSystem := Pool AgentFileAccess AgentFileInput AgentFileWorld String Unit

def stopped (w : AgentFileWorld) : AgentFileWorld := { w with claims := [], lanes := fun _ => none, context := none }

def step (s : AgentFileSystem) : AgentFileStep → AgentFileSystem
  | .start command => s.start (command.program sha256 s.procs.length)
  | .act n input => s.act n input
  | .cancelTurn turnId => { s with state := s.state.cancelQueuedTurn turnId }
  | .work turns => { s with state := { s.state with turns } }
  | .stop => ⟨stopped s.state, []⟩

end Requests

end AgentFile

end Rho
