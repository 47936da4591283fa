import Rho.Lib.Table
import Rho.Store.Snapshots

/-!
# Comparing two runs

`compare.rs` and `compare_runs` of the store: two runs of a project, side by side, with their problems, artifacts and environment
snapshots. Problems and artifacts come from the newest rows of the whole project, of which those of the two runs are kept. The columns
that hold a list of strings are the lists that the store writes into them; of a row the columns are kept that a comparison reads.
-/

namespace Rho.Compare

/-! ## What is compared -/

structure RunDetail where
  runId : String
  parentRunId : Option String := none
  projectRoot : String
  origin : String
  status : String
  startedAt : String
  finishedAt : Option String := none
  terminalReason : Option String := none
  requestType : String
  operationClass : String
  code : String
  argumentsJson : String
  sourcePath : Option String := none
  executionMode : Option String := none
  documentVersion : Option Int := none
  workspaceId : Option String := none
  stateRevisionBefore : Option Int := none
  projectRevisionBefore : Option Int := none
  stateRevisionAfter : Option Int := none
  projectRevisionAfter : Option Int := none
  environmentSnapshotId : Option String := none
  stdout : Option String := none
  messages : List String := []
  warnings : List String := []
  errorMessage : Option String := none
  errorCall : Option String := none
  traceback : List String := []
  deriving DecidableEq

/-- `ProblemSummary` of the store: the run with the error and its message. -/
structure RunProblem where
  runId : String
  message : String
  deriving DecidableEq

structure ArtifactRecord where
  artifactId : String
  runId : Option String
  projectRoot : String
  outputPath : String
  createdAt : String
  deriving DecidableEq

structure SnapshotRow where
  snapshotId : String
  canonicalJson : String
  deriving DecidableEq

structure CompareSummary where
  same : Nat
  different : Nat
  unknown : Nat
  limitations : Nat
  deriving DecidableEq

structure CompareRunsResponse where
  schemaVersion : Nat
  projectRoot : String
  generatedAt : String
  leftRunId : String
  rightRunId : String
  summary : CompareSummary
  sections : List CompareSection
  truncated : Bool
  truncationReasons : List String
  deriving DecidableEq

/-- What a comparison takes from its libraries: digests, the instants of times in nanoseconds, and the time at which it is made. -/
structure Host where
  sha256Hex : String → String
  parseFromRfc3339 : String → Option Int
  now : String

/-! ## Sections -/

def compareString (a b : String) : CompareField := if a = b then .same else .different

def compareOptI64 : Option Int → Option Int → CompareField
  | none, none => .unknown
  | some _, none => .leftOnly
  | none, some _ => .rightOnly
  | some a, some b => if a = b then .same else .different

/-- Two optional texts, side by side. -/
def optStringField (name : String) (left right : Option String) : CompareFieldEntry := field name (compareOptString left right) left right

def optI64Field (name : String) (left right : Option Int) : CompareFieldEntry :=
  field name (compareOptI64 left right) (left.map toString) (right.map toString)

def stringField (name left right : String) : CompareFieldEntry := field name (compareString left right) (some left) (some right)

/-- Two counts, which are shown and not compared. -/
def countField (name : String) (left right : Nat) : CompareFieldEntry :=
  field name .notApplicable (some (toString left)) (some (toString right))

section Sections

variable (host : Host)

/-- Whole milliseconds, towards zero. -/
def computeDuration (started : String) (finished : Option String) : Option Int := do
  let start ← host.parseFromRfc3339 started
  let finish ← finished
  let finish ← host.parseFromRfc3339 finish
  return Int.tdiv (finish - start) 1000000

def compareIdentity (left right : RunDetail) : CompareSection where
  id := "identity"
  label := "Identity & Execution"
  fields :=
    [optStringField "parent_run_id" left.parentRunId right.parentRunId,
     stringField "origin" left.origin right.origin,
     stringField "request_type" left.requestType right.requestType,
     stringField "operation_class" left.operationClass right.operationClass,
     stringField "status" left.status right.status,
     optStringField "terminal_reason" left.terminalReason right.terminalReason,
     field "duration_ms" .notApplicable ((computeDuration host left.startedAt left.finishedAt).map toString)
       ((computeDuration host right.startedAt right.finishedAt).map toString),
     optStringField "workspace_id" left.workspaceId right.workspaceId,
     optI64Field "state_revision_before" left.stateRevisionBefore right.stateRevisionBefore,
     optI64Field "project_revision_before" left.projectRevisionBefore right.projectRevisionBefore,
     optI64Field "state_revision_after" left.stateRevisionAfter right.stateRevisionAfter,
     optI64Field "project_revision_after" left.projectRevisionAfter right.projectRevisionAfter]

def compareSource (left right : RunDetail) : CompareSection where
  id := "source"
  label := "Source & Request"
  fields :=
    [optStringField "source_path" left.sourcePath right.sourcePath,
     optStringField "execution_mode" left.executionMode right.executionMode,
     optI64Field "document_version" left.documentVersion right.documentVersion,
     stringField "code_digest" (host.sha256Hex left.code) (host.sha256Hex right.code),
     countField "code_length" left.code.utf8ByteSize right.code.utf8ByteSize,
     stringField "arguments_json" left.argumentsJson right.argumentsJson]

/-- The texts of a `BTreeSet`, each once. -/
def textSet (l : List String) : List String := l.dedup

/-- The texts that both sets have. -/
def shared (left right : List String) : List String := left.filter (· ∈ right)

def problemsState (matched leftOnly rightOnly : Nat) : CompareField :=
  if matched = 0 ∧ leftOnly = 0 ∧ rightOnly = 0 then .unknown
  else if leftOnly = 0 ∧ rightOnly = 0 then .same
  else .different

def compareOutcome (left right : RunDetail) (leftProblems rightProblems : List RunProblem) : CompareSection :=
  let leftTraceback := "\n".intercalate left.traceback
  let rightTraceback := "\n".intercalate right.traceback
  let leftMessages := textSet (leftProblems.map (·.message))
  let rightMessages := textSet (rightProblems.map (·.message))
  let matched := (shared leftMessages rightMessages).length
  let leftOnly := leftMessages.length - matched
  let rightOnly := rightMessages.length - matched
  { id := "outcome", label := "Outcome & Problems",
    fields :=
      [optStringField "error_message" left.errorMessage right.errorMessage,
       optStringField "error_call" left.errorCall right.errorCall,
       countField "message_count" left.messages.length right.messages.length,
       countField "warning_count" left.warnings.length right.warnings.length,
       field "traceback_matched"
         (if leftTraceback = "" ∧ rightTraceback = "" then .unknown else if leftTraceback = rightTraceback then .same else .different)
         (some (String.ofList (leftTraceback.toList.take 512))) (some (String.ofList (rightTraceback.toList.take 512))),
       optStringField "stdout_digest" (left.stdout.map host.sha256Hex) (right.stdout.map host.sha256Hex),
       countField "problem_count" leftProblems.length rightProblems.length,
       field "problems_matched" (problemsState matched leftOnly rightOnly) (some (toString leftOnly)) (some (toString rightOnly))] }

def compareArtifacts (leftArtifacts rightArtifacts : List ArtifactRecord) : CompareSection :=
  let leftPaths := textSet (leftArtifacts.map (·.outputPath))
  let rightPaths := textSet (rightArtifacts.map (·.outputPath))
  let sharedCount := (shared leftPaths rightPaths).length
  let leftOnly := (leftPaths.filter (· ∉ rightPaths)).length
  let rightOnly := (rightPaths.filter (· ∉ leftPaths)).length
  let state : CompareField :=
    if leftOnly = 0 ∧ rightOnly = 0 ∧ 0 < sharedCount then .same
    else if 0 < sharedCount ∨ 0 < leftOnly ∨ 0 < rightOnly then .different
    else .unknown
  { id := "artifacts", label := "Artifacts",
    fields :=
      [countField "artifact_count" leftArtifacts.length rightArtifacts.length,
       field "artifacts_comparison" state
         (some ("left_only: " ++ toString leftOnly ++ ", right_only: " ++ toString rightOnly ++ ", shared: " ++ toString sharedCount))
         none] }

/-! ## The response -/

def summarize (sections : List CompareSection) : CompareSummary :=
  let fields := sections.flatMap (·.fields)
  { same := fields.countP (fun f => f.state = .same), different := fields.countP (fun f => f.state = .different),
    unknown := fields.countP (fun f => f.state = .unknown), limitations := fields.countP (fun f => f.limitation.isSome) }

/-- `CompareRunsResponse::compute`. -/
def compute (projectRoot : String) (left right : RunDetail) (leftProblems rightProblems : List RunProblem)
    (leftSnapshot rightSnapshot : Option EnvironmentSnapshotRecord) (leftArtifacts rightArtifacts : List ArtifactRecord) :
    CompareRunsResponse :=
  let sections :=
    [compareIdentity host left right, compareSource host left right,
     compareEnvironment ⟨left.environmentSnapshotId⟩ ⟨right.environmentSnapshotId⟩ leftSnapshot rightSnapshot,
     compareOutcome host left right leftProblems rightProblems, compareArtifacts leftArtifacts rightArtifacts]
  { schemaVersion := 1, projectRoot := projectRoot, generatedAt := host.now, leftRunId := left.runId, rightRunId := right.runId,
    summary := summarize sections, sections := sections, truncated := false, truncationReasons := [] }

end Sections

/-! ## `compare_runs` -/

/-- The tables that a comparison reads. -/
structure Db where
  runs : Table RunDetail.runId := Table.empty _
  artifacts : Table ArtifactRecord.artifactId := Table.empty _
  snapshots : Table SnapshotRow.snapshotId := Table.empty _

inductive CompareError where
  | sameRun | noRow | notScientific
  deriving DecidableEq, Repr

namespace Db

variable (db : Db) (root : String)

def getRunDetail (runId : String) : Option RunDetail := (db.runs.get runId).filter (fun r => r.projectRoot = root)

/-- The runs of a project that have an error. -/
def problemRuns : List RunDetail := (db.runs.rows.filter (fun r => r.projectRoot = root)).filter (fun r => r.errorMessage.isSome)

def projectArtifacts : List ArtifactRecord := db.artifacts.rows.filter (fun r => r.projectRoot = root)

def problemOf (r : RunDetail) : RunProblem := ⟨r.runId, r.errorMessage.getD ""⟩

/-- `list_problems`: the newest runs with an error; of several with one time the first in the table. -/
def listProblems (limit : Nat) : List RunProblem :=
  (((db.problemRuns root).insertionSort (fun a b => b.startedAt ≤ a.startedAt)).take limit).map problemOf

/-- `list_artifact_records`, of all sessions. -/
def listArtifactRecords (limit : Nat) : List ArtifactRecord :=
  ((db.projectArtifacts root).insertionSort (fun a b => b.createdAt ≤ a.createdAt)).take limit

/-- `get_environment_snapshot`: the project is not asked for. -/
def getEnvironmentSnapshot (snapshotId : String) : Option EnvironmentSnapshotRecord :=
  (db.snapshots.get snapshotId).map (fun r => ⟨r.canonicalJson⟩)

/-- `compare_runs`. -/
def compareRuns (host : Host) (leftRunId rightRunId : String) : Except CompareError CompareRunsResponse :=
  if leftRunId = rightRunId then .error .sameRun
  else
    match db.getRunDetail root leftRunId with
    | none => .error .noRow
    | some left =>
      match db.getRunDetail root rightRunId with
      | none => .error .noRow
      | some right =>
        if left.operationClass ≠ "scientific" ∨ right.operationClass ≠ "scientific" then .error .notScientific
        else
          .ok (compute host root left right
            ((db.listProblems root 100).filter (fun p => p.runId = leftRunId))
            ((db.listProblems root 100).filter (fun p => p.runId = rightRunId))
            (left.environmentSnapshotId.bind db.getEnvironmentSnapshot) (right.environmentSnapshotId.bind db.getEnvironmentSnapshot)
            ((db.listArtifactRecords root 100).filter (fun a => a.runId = some leftRunId))
            ((db.listArtifactRecords root 100).filter (fun a => a.runId = some rightRunId)))

end Db

end Rho.Compare
