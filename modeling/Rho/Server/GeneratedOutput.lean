import Rho.Lib.FileName
import Rho.Server.Dispatch

/-!
# Generated outputs of a run

The files of a project are listed before R code is handed to the kernel and once more when it has ended without a failure; what is
new in the second list, or differs from the first, is recorded as a generated file of the run. Each list comes from a walk of the
project that stops at a depth, at a number of entries and at a number of files.
-/

namespace Rho

open FileName (toAsciiLowercase slashed)

/-! ## A project on disk -/

structure FileMetadata where
  len : Nat
  /-- Nanoseconds since the epoch, where the system keeps a time of change. -/
  modified : Option Int
  deriving DecidableEq

inductive ProjectNode where
  | file (metadata : FileMetadata)
  | directory (entries : List (String × ProjectNode))
  | symlink
  | other

/-- What the system refuses during a walk, by the path under the root. -/
structure ScanFaults where
  canonicalizeRoot : Bool := false
  readDir : List String → Bool := fun _ => false
  /-- The entry is lost from the listing of its directory. -/
  dirEntry : List String → Bool := fun _ => false
  fileType : List String → Bool := fun _ => false
  canonicalize : List String → Bool := fun _ => false
  metadata : List String → Bool := fun _ => false

/-- The project as a walk finds it: each directory in the order the system lists it. -/
structure ProjectTree where
  entries : List (String × ProjectNode)
  faults : ScanFaults := {}

/-! ## The snapshot -/

def maxGeneratedOutputDepth : Nat := 8

def maxGeneratedOutputEntries : Nat := 10000

def maxGeneratedOutputFiles : Nat := 2000

def maxGeneratedOutputRecords : Nat := 100

structure GeneratedOutputSignature where
  sizeBytes : Nat
  modifiedNanos : Nat
  deriving DecidableEq

/-- A time before the epoch, like a missing one, is recorded as zero. -/
def FileMetadata.signature (m : FileMetadata) : GeneratedOutputSignature := ⟨m.len, (m.modified.map Int.toNat).getD 0⟩

structure GeneratedOutputSnapshot where
  files : List (String × GeneratedOutputSignature) := []
  truncated : Bool := false
  deriving DecidableEq

def generatedOutputExtensions : List String :=
  ["csv", "tsv", "txt", "json", "rds", "rda", "rdata", "html", "htm", "pdf", "png", "jpg", "jpeg", "svg", "xlsx", "xls", "parquet",
   "feather", "arrow", "docx", "pptx", "zip", "gz"]

def generatedOutputExtension (name : String) : Bool :=
  generatedOutputExtensions.contains (toAsciiLowercase ((FileName.extension name).getD ""))

def ignoredGeneratedOutputDirectory (name : String) : Bool :=
  [".git", ".rho", ".rproj.user", ".worktrees", "target", "renv", "node_modules"].contains (toAsciiLowercase name)

/-- The entries of a directory as the walk goes through them. -/
def listedEntries (faults : ScanFaults) (directory : List String) (entries : List (String × ProjectNode)) :
    List (String × ProjectNode) :=
  (entries.filter (fun e => !faults.dirEntry (directory ++ [e.1]))).insertionSort
    (fun a b => toAsciiLowercase a.1 ≤ toAsciiLowercase b.1)

/-- The state of a walk. -/
structure OutputScan where
  scannedEntries : Nat := 0
  snapshot : GeneratedOutputSnapshot := {}
  deriving DecidableEq

namespace OutputScan

/-- Neither another entry nor another file is taken. -/
def full (s : OutputScan) : Bool :=
  decide (maxGeneratedOutputEntries ≤ s.scannedEntries) || decide (maxGeneratedOutputFiles ≤ s.snapshot.files.length)

def truncate (s : OutputScan) : OutputScan := { s with snapshot := { s.snapshot with truncated := true } }

def count (s : OutputScan) : OutputScan := { s with scannedEntries := s.scannedEntries + 1 }

def insert (path : String) (signature : GeneratedOutputSignature) (s : OutputScan) : OutputScan :=
  { s with snapshot := { s.snapshot with files := OrdMap.insert path signature s.snapshot.files } }

end OutputScan

/-- The body of the loop over the entries of a directory, for an entry that is counted. -/
def scanEntry (collect : List String → List (String × ProjectNode) → OutputScan → OutputScan) (faults : ScanFaults)
    (directory : List String) (entry : String × ProjectNode) (s : OutputScan) : OutputScan :=
  let path := directory ++ [entry.1]
  if faults.fileType path then s.truncate
  else
    match entry.2 with
    | .symlink => s
    | .directory entries =>
      if ignoredGeneratedOutputDirectory entry.1 then s
      else if faults.canonicalize path then s.truncate
      else collect path entries s
    | .other => s
    | .file metadata =>
      if !generatedOutputExtension entry.1 then s
      else if faults.metadata path then s.truncate
      else s.insert (slashed path) metadata.signature

def scanEntries (collect : List String → List (String × ProjectNode) → OutputScan → OutputScan) (faults : ScanFaults)
    (directory : List String) : List (String × ProjectNode) → OutputScan → OutputScan
  | [], s => s
  | entry :: entries, s =>
    if s.full then s.truncate
    else scanEntries collect faults directory entries (scanEntry collect faults directory entry s.count)

/-- The walk of a directory, over the number of levels that the depth still allows. -/
def collectGeneratedOutputFiles (faults : ScanFaults) : Nat → List String → List (String × ProjectNode) → OutputScan → OutputScan
  | 0, _, _, s => s.truncate
  | levels + 1, directory, entries, s =>
    if s.full then s.truncate
    else if faults.readDir directory then s.truncate
    else scanEntries (collectGeneratedOutputFiles faults levels) faults directory (listedEntries faults directory entries) s

def captureGeneratedOutputSnapshot (tree : ProjectTree) : GeneratedOutputSnapshot :=
  if tree.faults.canonicalizeRoot then { truncated := true }
  else (collectGeneratedOutputFiles tree.faults (maxGeneratedOutputDepth + 1) [] tree.entries {}).snapshot

/-! ## The deltas -/

inductive ChangeKind where
  | created
  | modified
  deriving DecidableEq

def ChangeKind.asStr : ChangeKind → String
  | .created => "created"
  | .modified => "modified"

structure GeneratedOutputDelta where
  path : String
  changeKind : ChangeKind
  signature : GeneratedOutputSignature
  deriving DecidableEq

/-- What is said of a file of the later snapshot. -/
def fileDelta (before : GeneratedOutputSnapshot) (file : String × GeneratedOutputSignature) : Option GeneratedOutputDelta :=
  match OrdMap.get before.files file.1 with
  | none => some ⟨file.1, .created, file.2⟩
  | some previous => if previous ≠ file.2 then some ⟨file.1, .modified, file.2⟩ else none

def generatedOutputDeltas (before after : GeneratedOutputSnapshot) : List GeneratedOutputDelta :=
  (after.files.filterMap (fileDelta before)).take maxGeneratedOutputRecords

/-! ## The records -/

structure ArtifactRecordDraft where
  artifactId : String
  artifactKind : String
  runId : Option String
  projectRoot : String
  outputPath : String
  sourcePath : Option String
  executionMode : Option String
  documentVersion : Option Int
  workspaceId : Option String
  stateRevision : Option Nat
  projectRevision : Option Nat
  mediaType : String
  /-- The object whose text is kept. -/
  metadata : Json
  provenanceComplete : Bool
  incompleteReason : Option String

def artifactProvenanceStatus (runId sourcePath : Option String) (documentVersion : Option Int) : Bool × Option String :=
  if runId.isNone then (false, some "run_link_unavailable")
  else if sourcePath.isNone then (false, some "source_path_unavailable")
  else if documentVersion.isNone then (false, some "document_version_unavailable")
  else (true, none)

def inferOutputMediaType (path : String) : String :=
  let name := String.ofList (path.toList.reverse.takeWhile (· ≠ '/')).reverse
  match toAsciiLowercase ((FileName.extension name).getD "") with
  | "html" | "htm" => "text/html"
  | "pdf" => "application/pdf"
  | "png" => "image/png"
  | "jpg" | "jpeg" => "image/jpeg"
  | "svg" => "image/svg+xml"
  | "csv" => "text/csv"
  | "tsv" => "text/tab-separated-values"
  | "txt" => "text/plain"
  | "json" => "application/json"
  | "rds" | "rda" | "rdata" => "application/x-r-data"
  | "xlsx" => "application/vnd.openxmlformats-officedocument.spreadsheetml.sheet"
  | "xls" => "application/vnd.ms-excel"
  | "parquet" => "application/vnd.apache.parquet"
  | "feather" | "arrow" => "application/vnd.apache.arrow.file"
  | "docx" => "application/vnd.openxmlformats-officedocument.wordprocessingml.document"
  | "pptx" => "application/vnd.openxmlformats-officedocument.presentationml.presentation"
  | "zip" => "application/zip"
  | "gz" => "application/gzip"
  | _ => "application/octet-stream"

/-- A request whose R code has come to an end, with the project before and after it. -/
structure OutputRun where
  requestType : String
  executionId : String
  projectRoot : String
  arguments : Json
  result : Json
  workspace : WorkspaceIdentity
  before : ProjectTree
  after : ProjectTree
  /-- How many records are in the store when a statement fails, if one does. -/
  stored : Nat

namespace OutputRun

variable (run : OutputRun)

def generatedOutputBefore : Option GeneratedOutputSnapshot :=
  if run.requestType = "workspace.execute" then some (captureGeneratedOutputSnapshot run.before) else none

def generatedOutputAfter : Option GeneratedOutputSnapshot :=
  if !workspaceResultFailed run.result && decide (run.requestType = "workspace.execute") then
    some (captureGeneratedOutputSnapshot run.after)
  else none

def deltas : List GeneratedOutputDelta :=
  match run.generatedOutputBefore, run.generatedOutputAfter with
  | some before, some after => generatedOutputDeltas before after
  | _, _ => []

/-- The deltas whose records reach the store. -/
def recorded : List GeneratedOutputDelta := run.deltas.take run.stored

/-- Whether a walk has stopped at one of its limits. -/
def scanTruncated : Bool :=
  run.generatedOutputBefore.any (·.truncated) || run.generatedOutputAfter.any (·.truncated)

/-- The record of a delta. -/
def artifact (sha256Hex : String → String) (delta : GeneratedOutputDelta) : ArtifactRecordDraft :=
  let sourcePath := stringArgument run.arguments "source_path"
  let documentVersion := (run.arguments.get "document_version").bind Json.asI64
  let provenance := artifactProvenanceStatus (some run.executionId) sourcePath documentVersion
  { artifactId := "artifact_" ++ run.executionId ++ "_file_" ++ ((sha256Hex delta.path).take 16).toString
    artifactKind := "generated_file"
    runId := some run.executionId
    projectRoot := run.projectRoot
    outputPath := delta.path
    sourcePath
    executionMode := stringArgument run.arguments "execution_mode"
    documentVersion
    workspaceId := some run.workspace.workspaceId
    stateRevision := some run.workspace.stateRevision
    projectRevision := some run.workspace.projectRevision
    mediaType := inferOutputMediaType delta.path
    metadata := .obj [("discovery", .str "project_file_delta"), ("change_kind", .str delta.changeKind.asStr),
      ("size_bytes", .int delta.signature.sizeBytes), ("scan_truncated", .bool run.scanTruncated)]
    provenanceComplete := provenance.1
    incompleteReason := provenance.2 }

end OutputRun

end Rho
