import Mathlib.Data.List.Sort
import Rho.Lib.JsonParse
import Rho.Lib.Table
import Rho.Server.Protocol

/-!
# The workbench projections

`workbench.rs`: the read-only views of a project. A database is its tables, each a list of rows in the order of their row ids with
a primary key; of each row the columns are kept that a projection reads. A projection is one or two SELECT statements and what is
made of their rows. Text is compared by its bytes, which is the order of the characters.
-/

namespace Rho

/-! ## Tables -/

structure WorkbenchRun where
  runId : String
  parentRunId : Option String := none
  projectRoot : String
  origin : String
  status : String
  startedAt : String
  finishedAt : Option String := none
  terminalReason : Option String := none
  requestType : String
  code : String
  sourcePath : Option String := none
  stdout : Option String := none
  valueText : Option String := none
  messagesJson : String := "[]"
  warningsJson : String := "[]"
  errorMessage : Option String := none
  tracebackJson : String := "[]"
  environmentSnapshotId : Option String := none
  deriving DecidableEq

structure WorkbenchArtifact where
  artifactId : String
  artifactKind : String
  runId : Option String
  projectRoot : String
  outputPath : String
  sourcePath : Option String
  mediaType : String
  provenanceComplete : Bool
  incompleteReason : Option String
  createdAt : String
  deriving DecidableEq

structure WorkbenchPlot where
  plotId : String
  projectRoot : String
  deriving DecidableEq

structure WorkbenchSnapshot where
  snapshotId : String
  projectRoot : String
  firstCapturedAt : String
  deriving DecidableEq

structure WorkbenchApproval where
  requestId : String
  turnId : String
  projectRoot : String
  tool : String
  policy : String
  status : String
  decision : Option String
  reason : Option String
  requestedAt : String
  respondedAt : Option String
  deriving DecidableEq

/-- The tables that the projections read. No column of `environment_operation_requests` is ever read: the two statements that
name the table do not compile. -/
structure WorkbenchDb where
  runs : Table WorkbenchRun.runId := Table.empty _
  artifacts : Table WorkbenchArtifact.artifactId := Table.empty _
  plots : Table WorkbenchPlot.plotId := Table.empty _
  snapshots : Table WorkbenchSnapshot.snapshotId := Table.empty _
  approvals : Table WorkbenchApproval.requestId := Table.empty _
  activeProjectRoot : Option String := none
  identity : Option WorkspaceIdentity := none

/-- Why a projection gives no answer. The last is the panic of a string that is cut inside a character. -/
inductive WorkbenchError where
  | invalidCursor
  | noSuchColumn (name : String)
  | malformedList (text : String)
  | charBoundary
  deriving DecidableEq, Repr

/-! ## Helpers -/

def maxPageSize : Nat := 200

def clampPageSize (size : Nat) : Nat := max 1 (min size maxPageSize)

def truncateStr (s : String) (maxChars : Nat) : String := String.ofList (s.toList.take maxChars)

/-- The text before and after the first bar. -/
def splitAtBar : List Char → Option (List Char × List Char)
  | [] => none
  | c :: s => if c = '|' then some ([], s) else (splitAtBar s).map (fun parts => (c :: parts.1, parts.2))

/-- `splitn(2, '|')` of a cursor. -/
def parseCursor (cursor : String) : Option (String × String) :=
  (splitAtBar cursor.toList).map (fun parts => (String.ofList parts.1, String.ofList parts.2))

/-- `decode_string_list`. -/
def decodeStringList (text : String) : Except WorkbenchError (List String) :=
  match (Json.fromText text).bind Json.asArray with
  | none => .error (.malformedList text)
  | some values =>
    match values.mapM Json.asStr with
    | none => .error (.malformedList text)
    | some strings => .ok strings

/-- The first bytes of a text, unless they end inside a character. -/
def bytePrefix : Nat → List Char → Option (List Char)
  | _, [] => some []
  | n, c :: s =>
    if n = 0 then some []
    else if c.utf8Size ≤ n then (bytePrefix (n - c.utf8Size) s).map (c :: ·)
    else none

/-- Characters that `LIKE` does not tell apart. -/
def likeChar (a b : Char) : Bool := a.toLower == b.toLower

/-- `LIKE`: `%` stands for any text, `_` for any character. -/
def sqlLike : List Char → List Char → Bool
  | [], text => text.isEmpty
  | '%' :: pattern, [] => sqlLike pattern []
  | '%' :: pattern, c :: text => sqlLike pattern (c :: text) || sqlLike ('%' :: pattern) text
  | '_' :: pattern, _ :: text => sqlLike pattern text
  | p :: pattern, c :: text => likeChar p c && sqlLike pattern text
  | _ :: _, [] => false

/-! ## Pages -/

structure WorkbenchPage (α : Type) where
  items : List α
  after : Option String
  hasMore : Bool
  pageSize : Nat
  deriving DecidableEq

/-- The cursor clause: the rows after a cursor in the order newest first. -/
def beforeCursor (cursor : Option (String × String)) (key : String × String) : Bool :=
  match cursor with
  | none => true
  | some (time, id) => decide (key.1 < time) || (decide (key.1 = time) && decide (key.2 < id))

/-- `ORDER BY time DESC, id DESC`. -/
def newestFirst (a b : String × String) : Bool := decide (b.1 < a.1) || (decide (a.1 = b.1) && decide (b.2 ≤ a.2))

/-- The four lists with a cursor of a time and an id: a SELECT of the project's rows, one row more than the page holds, and the
page that is made of them. -/
def projectPage {α β : Type} (rows : List α) (projectRoot : α → String) (selected : α → Bool) (key : α → String × String)
    (mapRow : α → Except WorkbenchError β) (cursorOf : β → String) (root : String) (after : Option String) (pageSize : Nat) :
    Except WorkbenchError (WorkbenchPage β) := do
  let pageSize := clampPageSize pageSize
  let cursor ← match after with
    | none => pure none
    | some cursor =>
      match parseCursor cursor with
      | none => throw .invalidCursor
      | some parts => pure (some parts)
  let found := (rows.filter (fun r => projectRoot r = root)).filter (fun r => selected r && beforeCursor cursor (key r))
  let page ← ((found.insertionSort (fun a b => newestFirst (key a) (key b) = true)).take (pageSize + 1)).mapM mapRow
  let items := page.take pageSize
  return ⟨items, items.getLast?.map cursorOf, decide (pageSize < page.length), pageSize⟩

/-! ## Projections -/

structure ProjectSummary where
  projectId : String
  totalRunCount : Nat
  totalArtifactCount : Nat
  totalPlotCount : Nat
  unresolvedProblemCount : Nat
  deriving DecidableEq

structure WorkspaceStatus where
  workspaceId : String
  kernelInstanceId : String
  executionSeq : Nat
  stateRevision : Nat
  projectRevision : Nat
  running : Bool
  startedAt : String
  deriving DecidableEq

structure RunSummary where
  runId : String
  parentRunId : Option String
  origin : String
  status : String
  startedAt : String
  finishedAt : Option String
  terminalReason : Option String
  requestType : String
  sourcePath : Option String
  hasError : Bool
  hasWarnings : Option Bool
  problemCount : Option Nat
  artifactCount : Option Nat
  deriving DecidableEq

structure WorkbenchRunDetail where
  summary : RunSummary
  codePreview : Option String
  codeTruncated : Bool
  stdoutPreview : Option String
  stdoutTruncated : Bool
  valuePreview : Option String
  valueTruncated : Bool
  errorMessage : Option String
  messages : List String
  warnings : List String
  environmentSnapshotId : Option String
  artifactIds : List String
  deriving DecidableEq

structure ProblemSummary where
  problemId : String
  runId : String
  severity : String
  title : String
  sourcePath : Option String
  sourceLine : Option Nat
  recordedAt : String
  deriving DecidableEq

structure OutputSummary where
  artifactId : String
  artifactKind : String
  runId : Option String
  outputPath : String
  sourcePath : Option String
  mediaType : String
  createdAt : String
  provenanceComplete : Bool
  incompleteReason : Option String
  deriving DecidableEq

structure EnvironmentEvidence where
  evidenceId : String
  evidenceKind : String
  operationName : Option String
  operationStatus : Option String
  operationDecision : Option String
  capturedAt : String
  deriving DecidableEq

structure ApprovalSummary where
  requestId : String
  turnId : String
  tool : String
  policy : String
  status : String
  decision : Option String
  reason : Option String
  requestedAt : String
  respondedAt : Option String
  deriving DecidableEq

structure ProvenanceLink where
  resourceId : String
  producingRunId : Option String
  environmentSnapshotId : Option String
  sourcePath : Option String
  provenanceComplete : Bool
  incompleteReason : Option String
  deriving DecidableEq

namespace WorkbenchDb

variable (db : WorkbenchDb) (root : String)

/-- `WHERE project_root = ?1` of each table. -/
def projectRuns : List WorkbenchRun := db.runs.rows.filter (fun r => r.projectRoot = root)
def projectArtifacts : List WorkbenchArtifact := db.artifacts.rows.filter (fun r => r.projectRoot = root)
def projectPlots : List WorkbenchPlot := db.plots.rows.filter (fun r => r.projectRoot = root)
def projectSnapshots : List WorkbenchSnapshot := db.snapshots.rows.filter (fun r => r.projectRoot = root)
def projectApprovals : List WorkbenchApproval := db.approvals.rows.filter (fun r => r.projectRoot = root)

def workbenchProjectStatus : ProjectSummary where
  projectId := root
  totalRunCount := (db.projectRuns root).length
  totalArtifactCount := (db.projectArtifacts root).length
  totalPlotCount := (db.projectPlots root).length
  unresolvedProblemCount := (db.projectRuns root).countP (fun r => r.errorMessage.isSome)

/-- The workspace belongs to the active project only. -/
def workbenchWorkspaceStatus : Option WorkspaceStatus :=
  if db.activeProjectRoot.filter (fun value => !value.isEmpty) ≠ some root then none
  else
    db.identity.map (fun identity =>
      { workspaceId := identity.workspaceId, kernelInstanceId := identity.kernelInstanceId,
        executionSeq := identity.executionSeq, stateRevision := identity.stateRevision,
        projectRevision := identity.projectRevision, running := true, startedAt := "" })

def runSummary (r : WorkbenchRun) : RunSummary where
  runId := r.runId
  parentRunId := r.parentRunId
  origin := r.origin
  status := r.status
  startedAt := r.startedAt
  finishedAt := r.finishedAt
  terminalReason := r.terminalReason
  requestType := r.requestType
  sourcePath := r.sourcePath
  hasError := r.errorMessage.isSome
  hasWarnings := none
  problemCount := none
  artifactCount := none

def workbenchRunList (after : Option String) (pageSize : Nat) : Except WorkbenchError (WorkbenchPage RunSummary) :=
  projectPage db.runs.rows WorkbenchRun.projectRoot (fun _ => true) (fun r => (r.startedAt, r.runId)) (fun r => .ok (runSummary r))
    (fun item => item.startedAt ++ "|" ++ item.runId) root after pageSize

/-- `get_run_detail` and what the projection shows of it. -/
def workbenchRunGet (runId : String) : Except WorkbenchError (Option WorkbenchRunDetail) :=
  match (db.projectRuns root).find? (fun r => r.runId = runId) with
  | none => .ok none
  | some r => do
    let messages ← decodeStringList r.messagesJson
    let warnings ← decodeStringList r.warningsJson
    let _ ← decodeStringList r.tracebackJson
    return some {
      summary := { runSummary r with
        hasWarnings := some (!warnings.isEmpty), problemCount := some (if r.errorMessage.isSome then 1 else 0),
        artifactCount := some 0 }
      codePreview := some (truncateStr r.code 2000)
      codeTruncated := decide (2000 < r.code.utf8ByteSize)
      stdoutPreview := r.stdout.map (truncateStr · 2000)
      stdoutTruncated := r.stdout.any (fun s => decide (2000 < s.utf8ByteSize))
      valuePreview := r.valueText.map (truncateStr · 500)
      valueTruncated := r.valueText.any (fun s => decide (500 < s.utf8ByteSize))
      errorMessage := r.errorMessage
      messages := messages
      warnings := warnings
      environmentSnapshotId := r.environmentSnapshotId
      artifactIds := [] }

/-- `map_problem_row`. -/
def problemSummary (r : WorkbenchRun) : Except WorkbenchError ProblemSummary :=
  match bytePrefix 8 r.runId.toList with
  | none => .error .charBoundary
  | some start =>
    .ok { problemId := String.ofList start ++ "-err", runId := r.runId, severity := "error",
          title := truncateStr (r.errorMessage.getD "") 120, sourcePath := r.sourcePath, sourceLine := none,
          recordedAt := r.startedAt }

def workbenchProblemList (after : Option String) (pageSize : Nat) : Except WorkbenchError (WorkbenchPage ProblemSummary) :=
  projectPage db.runs.rows WorkbenchRun.projectRoot (fun r => r.errorMessage.isSome) (fun r => (r.startedAt, r.runId)) problemSummary
    (fun item => item.recordedAt ++ "|" ++ item.runId) root after pageSize

/-- `trim_end_matches("-err")`, on the reversed text. -/
def trimErr : List Char → List Char
  | 'r' :: 'r' :: 'e' :: '-' :: text => trimErr text
  | text => text

/-- The newest problem whose run id starts like the problem id; of several with one time the first in the table. -/
def workbenchProblemGet (problemId : String) : Except WorkbenchError (Option ProblemSummary) :=
  let runPrefix := (trimErr problemId.toList.reverse).reverse
  if (String.ofList runPrefix).utf8ByteSize < 8 then .ok none
  else
    let found := (db.projectRuns root).filter (fun r => r.errorMessage.isSome && sqlLike (runPrefix ++ ['%']) r.runId.toList)
    match (found.insertionSort (fun a b => b.startedAt ≤ a.startedAt)).head? with
    | none => .ok none
    | some r => (problemSummary r).map some

def outputSummary (r : WorkbenchArtifact) : OutputSummary where
  artifactId := r.artifactId
  artifactKind := r.artifactKind
  runId := r.runId
  outputPath := r.outputPath
  sourcePath := r.sourcePath
  mediaType := r.mediaType
  createdAt := r.createdAt
  provenanceComplete := r.provenanceComplete
  incompleteReason := r.incompleteReason

def workbenchOutputList (after : Option String) (pageSize : Nat) : Except WorkbenchError (WorkbenchPage OutputSummary) :=
  projectPage db.artifacts.rows WorkbenchArtifact.projectRoot (fun _ => true) (fun r => (r.createdAt, r.artifactId))
    (fun r => .ok (outputSummary r)) (fun item => item.createdAt ++ "|" ++ item.artifactId) root after pageSize

def workbenchOutputGet (artifactId : String) : Option OutputSummary :=
  ((db.projectArtifacts root).find? (fun r => r.artifactId = artifactId)).map outputSummary

/-- The statement names a column `created_at` of `environment_operation_requests`, which has `requested_at` instead, so it is
refused after the cursor has been read. -/
def workbenchEnvironmentEvidenceList (_db : WorkbenchDb) (_root : String) (after : Option String) (_pageSize : Nat) :
    Except WorkbenchError (WorkbenchPage EnvironmentEvidence) :=
  match after with
  | none => .error (.noSuchColumn "created_at")
  | some cursor =>
    match (parseCursor cursor).bind (fun parts => parseCursor parts.2) with
    | none => .error .invalidCursor
    | some _ => .error (.noSuchColumn "created_at")

/-- A snapshot is found; any other id gets as far as the statement on the operation requests. -/
def workbenchEnvironmentEvidenceGet (evidenceId : String) : Except WorkbenchError (Option EnvironmentEvidence) :=
  match (db.projectSnapshots root).find? (fun r => r.snapshotId = evidenceId) with
  | some r =>
    .ok (some { evidenceId := r.snapshotId, evidenceKind := "snapshot", operationName := none, operationStatus := none,
                operationDecision := none, capturedAt := r.firstCapturedAt })
  | none => .error (.noSuchColumn "created_at")

def approvalSummary (r : WorkbenchApproval) : ApprovalSummary where
  requestId := r.requestId
  turnId := r.turnId
  tool := r.tool
  policy := r.policy
  status := r.status
  decision := r.decision
  reason := r.reason
  requestedAt := r.requestedAt
  respondedAt := r.respondedAt

def workbenchApprovalList (after : Option String) (pageSize : Nat) : Except WorkbenchError (WorkbenchPage ApprovalSummary) :=
  projectPage db.approvals.rows WorkbenchApproval.projectRoot (fun _ => true) (fun r => (r.requestedAt, r.requestId))
    (fun r => .ok (approvalSummary r)) (fun item => item.requestedAt ++ "|" ++ item.requestId) root after pageSize

def workbenchApprovalGet (requestId : String) : Option ApprovalSummary :=
  ((db.projectApprovals root).find? (fun r => r.requestId = requestId)).map approvalSummary

/-- `SELECT environment_snapshot_id FROM runs WHERE run_id = ?1`: the project is not asked for. -/
def snapshotOfRun (runId : String) : Option String := (db.runs.get runId).bind (·.environmentSnapshotId)

def workbenchProvenanceGet (resourceId : String) : Option ProvenanceLink :=
  match (db.projectArtifacts root).find? (fun r => r.artifactId = resourceId) with
  | some r =>
    some { resourceId := r.artifactId, producingRunId := r.runId, environmentSnapshotId := r.runId.bind db.snapshotOfRun,
           sourcePath := r.sourcePath, provenanceComplete := r.provenanceComplete, incompleteReason := r.incompleteReason }
  | none =>
    ((db.projectRuns root).find? (fun r => r.runId = resourceId)).map (fun r =>
      { resourceId := r.runId, producingRunId := some r.runId, environmentSnapshotId := r.environmentSnapshotId,
        sourcePath := r.sourcePath, provenanceComplete := r.environmentSnapshotId.isSome,
        incompleteReason := if r.environmentSnapshotId.isNone then some "no environment snapshot recorded" else none })

end WorkbenchDb

end Rho
