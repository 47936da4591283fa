import Mathlib.Data.List.Infix
import Rho.Lib.FileName
import Rho.Lib.JsonParse
import Rho.Lib.Rows
import Rho.Lib.Table

/-!
# The audit of a project's reproducibility

`audit.rs`: the rules are put to the runs and the artifacts of a project, as the store lists them, and to its source files, as they
are read from the disk. What a rule objects to is a finding; the status of the audit comes from the findings. Of a row the columns
are kept that a rule reads.
-/

namespace Rho.Audit

/-! ## What is audited -/

inductive AuditScope where
  | project
  | currentProject
  | run (target : String)
  | artifact (target : String)

structure AuditLimits where
  maxSourceFiles : Nat := 2000
  maxFileBytes : Nat := 8 * 1024 * 1024
  maxAggregateBytes : Nat := 16 * 1024 * 1024
  maxFindings : Nat := 1000
  maxRuns : Nat := 200
  maxArtifacts : Nat := 500

structure RunSummary where
  runId : String
  projectRoot : String
  startedAt : String
  status : String
  sourcePath : Option String
  documentVersion : Option Int
  environmentSnapshotId : Option String
  errorMessage : Option String
  deriving DecidableEq

structure ArtifactRecordSummary where
  artifactId : String
  runId : Option String
  projectRoot : String
  outputPath : String
  provenanceComplete : Bool
  createdAt : String
  deriving DecidableEq

structure EnvironmentSnapshotRecord where
  snapshotId : String
  canonicalJson : String

/-- The tables that the audit reads, and which of its statements fail. -/
structure Db where
  runs : Table RunSummary.runId := Table.empty _
  artifacts : Table ArtifactRecordSummary.artifactId := Table.empty _
  snapshots : Table EnvironmentSnapshotRecord.snapshotId := Table.empty _
  runsFail : Bool := false
  artifactsFail : Bool := false
  snapshotFails : Bool := false

/-- What a path of the project leads to; a link is what it leads to itself. -/
inductive SourceNode where
  /-- A file, with what `read_to_string` makes of it. -/
  | file (text : Option String)
  | directory (readable : Bool) (entries : List (String × SourceNode))
  /-- The entry is lost from its listing, or the system does not say what it is. -/
  | refused (node : SourceNode)
  | other

structure ProjectFiles where
  root : List (String × SourceNode)
  rootReadable : Bool := true
  /-- `Path::exists`, of a path joined to the root. -/
  fileExists : String → Bool
  /-- What `read_to_string` makes of `renv.lock`. -/
  renvLock : Option String

/-! ## Source files -/

structure SourceFile where
  path : String
  content : String
  skipped : Bool
  skipReason : Option String
  deriving DecidableEq

def binaryExtensions : List String :=
  ["rds", "png", "jpg", "jpeg", "pdf", "xlsx", "RData", "rda", "feather", "parquet", "h5", "hdf5"]

def sourceExtensions : List String := ["R", "r", "Rmd", "rmd", "qmd", "Qmd", "Rnw", "rnw"]

/-- Neither a hidden file nor one of another language; a file without an extension is taken. -/
def isSourceName (toLowercase : String → String) (name : String) : Bool :=
  let ext := (FileName.extension name).getD ""
  !name.startsWith "." && !binaryExtensions.contains (toLowercase ext) &&
    (ext.isEmpty || sourceExtensions.any (fun e => FileName.toAsciiLowercase e == FileName.toAsciiLowercase ext))

def isSourceDirectory (name : String) : Bool :=
  !name.startsWith "." && !(["renv", "node_modules", ".git", "packrat", "__pycache__"].contains name)

/-- A path that is collected, with the text behind it. -/
abbrev SourcePath := String × Option String

mutual

/-- `collect_source_paths`, of a directory that is listed. -/
def collectSourcePaths (toLowercase : String → String) (directory : List String) : List (String × SourceNode) → List SourcePath
  | [] => []
  | (name, node) :: entries =>
    collectNode toLowercase directory name node ++ collectSourcePaths toLowercase directory entries

def collectNode (toLowercase : String → String) (directory : List String) (name : String) : SourceNode → List SourcePath
  | .directory readable entries =>
    if isSourceDirectory name && readable then collectSourcePaths toLowercase (directory ++ [name]) entries else []
  | .file text => if isSourceName toLowercase name then [(FileName.slashed (directory ++ [name]), text)] else []
  | .refused _ => []
  | .other => []

end

def skippedFile (path reason : String) : SourceFile := ⟨path, "", true, some reason⟩

/-- The loop over the paths, with the number of files and the bytes so far. -/
def readSourceFiles (limits : AuditLimits) : List SourcePath → Nat → Nat → List SourceFile
  | [], _, _ => []
  | (path, text) :: paths, files, aggregateBytes =>
    if limits.maxSourceFiles ≤ files then []
    else
      match text with
      | none => skippedFile path "read_error" :: readSourceFiles limits paths (files + 1) aggregateBytes
      | some content =>
        if limits.maxFileBytes < content.utf8ByteSize then
          skippedFile path "file_too_large" :: readSourceFiles limits paths (files + 1) aggregateBytes
        else if limits.maxAggregateBytes < aggregateBytes + content.utf8ByteSize then
          skippedFile path "aggregate_limit" :: readSourceFiles limits paths (files + 1) aggregateBytes
        else ⟨path, content, false, none⟩ :: readSourceFiles limits paths (files + 1) (aggregateBytes + content.utf8ByteSize)

def scanSourceFiles (toLowercase : String → String) (limits : AuditLimits) (project : ProjectFiles) : List SourceFile :=
  readSourceFiles limits (if project.rootReadable then collectSourcePaths toLowercase [] project.root else []) 0 0

/-! ## Lines of code -/

/-- `char::is_whitespace`: the characters with the property White_Space. -/
def isWhitespace (c : Char) : Bool :=
  (9 ≤ c.toNat && c.toNat ≤ 13) || (0x2000 ≤ c.toNat && c.toNat ≤ 0x200A) ||
    [0x20, 0x85, 0xA0, 0x1680, 0x2028, 0x2029, 0x202F, 0x205F, 0x3000].contains c.toNat

def trimStart (text : List Char) : List Char := text.dropWhile isWhitespace

def trimEnd (text : List Char) : List Char := (text.reverse.dropWhile isWhitespace).reverse

def trim (text : List Char) : List Char := trimStart (trimEnd text)

/-- `str::lines`, with the characters of the line that is read, the last one first. -/
def linesFrom (read : List Char) : List Char → List (List Char)
  | [] => if read.isEmpty then [] else [read.reverse]
  | '\n' :: text =>
    match read with
    | '\r' :: read => read.reverse :: linesFrom [] text
    | read => read.reverse :: linesFrom [] text
  | c :: text => linesFrom (c :: read) text

def lines (content : String) : List (List Char) := linesFrom [] content.toList

def containsText (pattern : String) (line : List Char) : Bool := decide (pattern.toList <:+: line)

/-- `match_indices`: what stands before each match and what stands after it. -/
def matchesFrom (pattern : List Char) : Nat → List Char → List Char → List (List Char × List Char)
  | 0, _, _ => []
  | fuel + 1, before, text =>
    if pattern.isPrefixOf text then
      (before, text.drop pattern.length) :: matchesFrom pattern fuel (before ++ pattern) (text.drop pattern.length)
    else
      match text with
      | [] => []
      | c :: text => matchesFrom pattern fuel (before ++ [c]) text

def matchIndices (pattern : String) (line : List Char) : List (List Char × List Char) :=
  matchesFrom pattern.toList (line.length + 1) [] line

/-- What the audit takes from its libraries: the Unicode tables that are too large to be written here. -/
structure AuditHost where
  toLowercase : String → String
  isAlphanumeric : Char → Bool

def isIdentifierChar (host : AuditHost) (c : Char) : Bool := host.isAlphanumeric c || c == '.' || c == '_'

def extractFirstArg (host : AuditHost) (rest : List Char) : Option String :=
  match trimStart rest with
  | [] => none
  | c :: text =>
    if c == '"' || c == '\x27' then
      if text.contains c then some (String.ofList (text.takeWhile (· != c))) else none
    else
      let name := (c :: text).takeWhile (isIdentifierChar host)
      if name.length = (c :: text).length || name.isEmpty then none else some (String.ofList name)

def extractIdentifierBeforeColons (host : AuditHost) (before : List Char) : Option String :=
  match (trimEnd before).reverse with
  | [] => none
  | last :: text =>
    let name :=
      if last == '\x60' || last == '"' || last == '\x27' then
        if text.contains last then (text.takeWhile (· != last)).reverse else []
      else ((last :: text).takeWhile (isIdentifierChar host)).reverse
    if name.isEmpty then none else some (String.ofList name)

def extractPackagesFromLine (host : AuditHost) (line : List Char) : List String :=
  (matchIndices "library(" line).filterMap (fun m => extractFirstArg host m.2) ++
    (matchIndices "require(" line).filterMap (fun m => extractFirstArg host m.2) ++
    (matchIndices "::" line).filterMap (fun m => extractIdentifierBeforeColons host m.1)

def isAsciiAlphabetic (c : Char) : Bool := ('a' ≤ c && c ≤ 'z') || ('A' ≤ c && c ≤ 'Z')

/-- The drive letter must not be the end of a longer word. -/
def containsWindowsDriveAbsolutePath (line : List Char) : Bool :=
  (List.range line.length).any (fun i =>
    match line.drop i with
    | drive :: ':' :: separator :: _ =>
      isAsciiAlphabetic drive && (separator == '/' || separator == '\\') &&
        (i == 0 || !((getElem? line (i - 1)).any (fun c => isAsciiAlphabetic c || ('0' ≤ c && c ≤ '9') || c == '_')))
    | _ => false)

/-! ## Packages -/

structure PkgInfo where
  name : String
  version : String

def packageVersion (pkg : Json) : String := ((pkg.get "Version").bind Json.asStr).getD "unknown"

def parseLockfilePackages (renvLock : Option String) : Option (List PkgInfo) := do
  let json ← Json.fromText (← renvLock)
  let packages ← (← json.get "Packages").asObject
  return packages.map (fun entry => ⟨entry.1, packageVersion entry.2⟩)

/-- One package without a name and the list is not used. -/
def parseSnapshotPackages (canonicalJson : String) : Option (List PkgInfo) := do
  let json ← Json.fromText canonicalJson
  let installed ← (← json.get "installed_packages").asArray
  installed.mapM (fun pkg => do
    let name ← (← pkg.get "Package").asStr
    return ⟨name, packageVersion pkg⟩)

def snapshotCompleteness (canonicalJson : String) : Option String := do
  let json ← Json.fromText canonicalJson
  (← json.get "completeness").asStr

def snapshotHasLockfileDrift (canonicalJson : String) : Bool :=
  ((Json.fromText canonicalJson).bind (·.get "renv_lock_drift")).isSome

/-! ## Findings -/

inductive AuditSeverity where
  | info | warning | error
  deriving DecidableEq

structure AuditEvidence where
  kind : String
  path : Option String := none
  line : Option Nat := none
  excerpt : Option String := none
  runId : Option String := none
  snapshotId : Option String := none
  deriving DecidableEq

/-- A finding; each rule is of version 1. -/
structure AuditFinding where
  ruleId : String
  severity : AuditSeverity
  category : String
  summary : String
  evidence : List AuditEvidence
  limitations : List String := []
  deriving DecidableEq

/-- The findings so far, and whether one had no place among them. -/
structure Findings where
  findings : List AuditFinding := []
  truncationReasons : List String := []
  truncated : Bool := false
  deriving DecidableEq

def pushFinding (limits : AuditLimits) (s : Findings) (finding : AuditFinding) : Findings :=
  if limits.maxFindings ≤ s.findings.length then
    { s with
      truncated := true
      truncationReasons :=
        if s.truncationReasons.contains "max_findings" then s.truncationReasons else s.truncationReasons ++ ["max_findings"] }
  else { s with findings := s.findings ++ [finding] }

/-! ## Rules

Each check is given as the findings that it pushes, in their order. -/

def finding (rule : String) (severity : AuditSeverity) (category summary : String) (evidence : AuditEvidence)
    (limitations : List String := []) : AuditFinding :=
  ⟨"rho.repro.v1." ++ rule, severity, category, summary, [evidence], limitations⟩

/-- The finding, where its rule applies. -/
def when (applies : Bool) (f : AuditFinding) : List AuditFinding := if applies then [f] else []

def runEvidence (run : RunSummary) : AuditEvidence := { kind := "run_id", runId := some run.runId }

def artifactEvidence (kind : String) (artifact : ArtifactRecordSummary) : AuditEvidence :=
  { kind, path := some artifact.outputPath, runId := artifact.runId }

def checkEvidence (runs : List RunSummary) (artifacts : List ArtifactRecordSummary) (project : ProjectFiles)
    (referenceSnapshot : Option EnvironmentSnapshotRecord) : List AuditFinding :=
  runs.flatMap (fun run =>
    when run.environmentSnapshotId.isNone
        (finding "evidence.run.env_snapshot_missing" .warning "evidence"
          ("Run " ++ run.runId ++ " has no environment snapshot recorded") (runEvidence run)) ++
      when (run.sourcePath.isNone || run.documentVersion.isNone)
        (finding "evidence.run.source_revision_missing" .warning "evidence"
          ("Run " ++ run.runId ++ " is missing source_path or document_version") (runEvidence run))) ++
  artifacts.flatMap (fun artifact =>
    when artifact.runId.isNone
        (finding "evidence.artifact.producing_run_missing" .error "evidence"
          ("Artifact " ++ artifact.artifactId ++ " has no producing run recorded") (artifactEvidence "artifact_id" artifact)) ++
      when (!artifact.provenanceComplete)
        (finding "evidence.artifact.provenance_incomplete" .warning "evidence"
          ("Artifact " ++ artifact.artifactId ++ " has incomplete provenance") (artifactEvidence "artifact_id" artifact)) ++
      when (!project.fileExists artifact.outputPath)
        (finding "evidence.artifact.file_missing" .error "evidence"
          ("Output file for artifact " ++ artifact.artifactId ++ " does not exist on disk: " ++ artifact.outputPath)
          (artifactEvidence "file_path" artifact))) ++
  (match referenceSnapshot with
    | none => []
    | some snap =>
      (match snapshotCompleteness snap.canonicalJson with
        | none => []
        | some completeness =>
          when (completeness != "complete")
            (finding "evidence.env.snapshot_incomplete" .warning "evidence"
              ("Environment snapshot " ++ snap.snapshotId ++ " reports completeness as '" ++ completeness ++ "'")
              { kind := "snapshot_id", excerpt := some ("completeness: " ++ completeness), snapshotId := some snap.snapshotId })) ++
        when (snapshotHasLockfileDrift snap.canonicalJson)
          (finding "evidence.env.lockfile_drift" .warning "evidence"
            ("Environment snapshot " ++ snap.snapshotId ++ " reports lockfile drift")
            { kind := "snapshot_id", snapshotId := some snap.snapshotId })) ++
  when (!project.fileExists "renv.lock")
    (finding "evidence.env.lockfile_missing" .error "evidence" "No renv.lock found in project root"
      { kind := "file_path", path := some "renv.lock" })

/-- The lines of the files that were read, with their numbers. -/
def numberedLines (file : SourceFile) : List (List Char × Nat) :=
  if file.skipped then [] else (lines file.content).zipIdx 1

def lineEvidence (path : String) (line : List Char) (number : Nat) : AuditEvidence :=
  { kind := "source_range", path := some path, line := some number, excerpt := some (String.ofList (trim line)) }

def lineFinding (rule summary path : String) (line : List Char) (number : Nat) : AuditFinding :=
  finding rule .warning "portability" (summary ++ path ++ ":" ++ toString number) (lineEvidence path line number)

def checkPortability (sourceFiles : List SourceFile) : List AuditFinding :=
  sourceFiles.flatMap (fun file => (numberedLines file).flatMap (fun (line, number) =>
    when (containsWindowsDriveAbsolutePath line)
        (lineFinding "portability.absolute_path.windows" "Windows absolute path detected in " file.path line number) ++
      when (containsText "/home/" line || containsText "/Users/" line || containsText "/tmp/" line)
        (lineFinding "portability.absolute_path.posix" "POSIX absolute path detected in " file.path line number) ++
      when (containsText "~/" line)
        (lineFinding "portability.home_path.literal" "Home-relative path (~/) detected in " file.path line number) ++
      when (containsText "setwd(\"" line || containsText "setwd('" line)
        (lineFinding "portability.setwd.literal" "setwd() call detected in " file.path line number)))

def rngFunctions : List String :=
  ["rnorm(", "runif(", "rpois(", "rbinom(", "rexp(", "rgamma(", "rbeta(", "rt(", "rf(", "rchisq(", "rwilcox(", "rsignrank(",
   "rmultinom(", "rgeom(", "rhyper(", "rlnorm(", "rnbinom(", "rweibull(", "rcauchy(", "rlogis(", "sample("]

/-- The lines of a file up to the one that sets a seed: at most one finding for each. -/
def checkFileRandomness (path : String) : List (List Char × Nat) → List AuditFinding
  | [] => []
  | (line, number) :: rest =>
    if containsText "set.seed(" line then []
    else
      (match rngFunctions.find? (fun f => containsText f line) with
        | none => []
        | some f =>
          [finding "randomness.rng_without_seed" .info "randomness"
            ("RNG call " ++ (f.dropEndWhile (· == '(')).toString ++ " without set.seed() in " ++ path ++ ":" ++ toString number)
            (lineEvidence path line number) ["dynamic_rng_not_detected", "dplyr_rng_not_detected"]]) ++
        checkFileRandomness path rest

def checkRandomness (sourceFiles : List SourceFile) : List AuditFinding :=
  sourceFiles.flatMap (fun file => checkFileRandomness file.path (numberedLines file))

/-- The packages that the source files refer to, each once. -/
def usedPackages (host : AuditHost) (sourceFiles : List SourceFile) : List String :=
  (sourceFiles.flatMap (fun file => (numberedLines file).flatMap (fun l => extractPackagesFromLine host l.1))).foldl
    (fun used pkg => if used.contains pkg then used else used ++ [pkg]) []

def checkPackages (host : AuditHost) (sourceFiles : List SourceFile) (snapshotPackages lockfilePackages : Option (List PkgInfo)) :
    List AuditFinding :=
  (match snapshotPackages with
    | none => []
    | some snapshot =>
      (usedPackages host sourceFiles).flatMap (fun name =>
        when (!snapshot.any (·.name == name))
          (finding "packages.not_recorded" .warning "packages"
            ("Package '" ++ name ++ "' used in source but not found in environment snapshot")
            { kind := "source_range", excerpt := some ("package: " ++ name) }
            ["dynamic_library_detection_limited", "string_interpolation_not_parsed"]))) ++
  (match snapshotPackages, lockfilePackages with
    | some snapshot, some lockfile =>
      snapshot.flatMap (fun pkg =>
        when (!lockfile.any (·.name == pkg.name))
          (finding "packages.installed_not_locked" .info "packages"
            ("Package '" ++ pkg.name ++ "' " ++ pkg.version ++ " is installed but not in lockfile")
            { kind := "snapshot_id", excerpt := some (pkg.name ++ "@" ++ pkg.version) })) ++
      lockfile.flatMap (fun pkg =>
        when (!snapshot.any (·.name == pkg.name))
          (finding "packages.locked_not_installed" .warning "packages"
            ("Package '" ++ pkg.name ++ "' " ++ pkg.version ++ " is locked but not installed")
            { kind := "file_path", path := some "renv.lock", excerpt := some (pkg.name ++ "@" ++ pkg.version) })) ++
      snapshot.flatMap (fun sp =>
        match lockfile.find? (·.name == sp.name) with
        | none => []
        | some lp =>
          when (sp.version != lp.version)
            (finding "packages.version_drift" .warning "packages"
              ("Package '" ++ sp.name ++ "' version drift: snapshot=" ++ sp.version ++ ", lockfile=" ++ lp.version)
              { kind := "snapshot_id"
                excerpt := some ("snapshot: " ++ sp.name ++ "@" ++ sp.version ++ ", lockfile: " ++ lp.name ++ "@" ++ lp.version) }))
    | _, _ => [])

def checkRuns (runs : List RunSummary) (artifacts : List ArtifactRecordSummary) : List AuditFinding :=
  runs.flatMap (fun run =>
    when (run.status == "failed")
        (finding "runs.failed" .error "runs" ("Run " ++ run.runId ++ " failed") { runEvidence run with excerpt := run.errorMessage }) ++
      when (run.status == "cancelled")
        (finding "runs.cancelled" .warning "runs" ("Run " ++ run.runId ++ " was cancelled") (runEvidence run)) ++
      when (run.status == "interrupted")
        (finding "runs.interrupted" .warning "runs" ("Run " ++ run.runId ++ " was interrupted") (runEvidence run))) ++
  artifacts.flatMap (fun artifact =>
    match artifact.runId with
    | none => []
    | some runId =>
      when ((runs.find? (·.runId == runId)).all (·.status != "completed"))
        (finding "runs.artifact_incomplete_run" .warning "runs"
          ("Artifact " ++ artifact.artifactId ++ " from run " ++ runId ++ " that did not complete successfully")
          (artifactEvidence "artifact_id" artifact)))

/-! ## The audit -/

inductive AuditStatus where
  | complete | findings | incomplete | unavailable | error
  deriving DecidableEq

structure AuditSummary where
  totalFindings : Nat
  info : Nat
  warning : Nat
  error : Nat
  byCategory : List (String × Nat)
  filesScanned : Nat
  runsChecked : Nat

structure AuditCoverage where
  filesScanned : Nat
  filesSkipped : Nat
  skippedReasons : List String
  runsConsidered : Nat
  artifactsConsidered : Nat
  snapshotAvailable : Bool

structure AuditResponse where
  projectRoot : String
  scope : String
  referenceSnapshotId : Option String
  status : AuditStatus
  findings : List AuditFinding
  summary : AuditSummary
  coverage : AuditCoverage
  truncated : Bool
  truncationReasons : List String

namespace Db

variable (db : Db) (root : String)

def projectRuns : List RunSummary := db.runs.rows.filter (fun r => r.projectRoot = root)

def projectArtifacts : List ArtifactRecordSummary := db.artifacts.rows.filter (fun a => a.projectRoot = root)

/-- `list_runs`, or nothing where it fails. -/
def listRuns (limit : Nat) : List RunSummary :=
  if db.runsFail then [] else Rows.firstRows (fun a b => b.startedAt ≤ a.startedAt) limit (db.projectRuns root)

/-- `list_artifact_records`, of all sessions, or nothing where it fails. -/
def listArtifactRecords (limit : Nat) : List ArtifactRecordSummary :=
  if db.artifactsFail then [] else Rows.firstRows (fun a b => b.createdAt ≤ a.createdAt) limit (db.projectArtifacts root)

/-- `get_environment_snapshot`. -/
def getEnvironmentSnapshot (snapshotId : String) : Option EnvironmentSnapshotRecord :=
  if db.snapshotFails then none else db.snapshots.get snapshotId

end Db

namespace AuditScope

def text : AuditScope → String
  | .project => "project"
  | .currentProject => "project_current"
  | .run id => "run:" ++ id
  | .artifact id => "artifact:" ++ id

/-- The runs of a scope; for an artifact it is the one that it came from. -/
def selectRuns (scope : AuditScope) (artifacts : List ArtifactRecordSummary) (runs : List RunSummary) : List RunSummary :=
  match scope with
  | .project => runs
  | .currentProject => []
  | .run target => runs.filter (fun r => r.runId = target)
  | .artifact target =>
    match (artifacts.find? (fun a => a.artifactId = target)).bind (·.runId) with
    | some runId => runs.filter (fun r => r.runId = runId)
    | none => []

def selectArtifacts (scope : AuditScope) (artifacts : List ArtifactRecordSummary) : List ArtifactRecordSummary :=
  match scope with
  | .project => artifacts
  | .currentProject => []
  | .run target => artifacts.filter (fun a => a.runId = some target)
  | .artifact target => artifacts.filter (fun a => a.artifactId = target)

end AuditScope

/-- `sort` and `dedup`. -/
def sortedReasons (files : List SourceFile) : List String := ((files.filterMap (·.skipReason)).insertionSort (· ≤ ·)).dedup

/-- What one audit is made of. -/
structure AuditRequest where
  host : AuditHost
  limits : AuditLimits
  db : Db
  project : ProjectFiles
  projectRoot : String
  scope : AuditScope
  referenceSnapshotId : Option String

namespace AuditRequest

variable (a : AuditRequest)

/-- The artifacts before the scope is asked for. -/
def listedArtifacts : List ArtifactRecordSummary := a.db.listArtifactRecords a.projectRoot a.limits.maxArtifacts

def runs : List RunSummary := a.scope.selectRuns a.listedArtifacts (a.db.listRuns a.projectRoot a.limits.maxRuns)

def artifacts : List ArtifactRecordSummary := a.scope.selectArtifacts a.listedArtifacts

def sourceFiles : List SourceFile := scanSourceFiles a.host.toLowercase a.limits a.project

def referenceSnapshot : Option EnvironmentSnapshotRecord := a.referenceSnapshotId.bind a.db.getEnvironmentSnapshot

/-- What the checks push. -/
def pushed : List AuditFinding :=
  checkEvidence a.runs a.artifacts a.project a.referenceSnapshot ++ checkPortability a.sourceFiles ++ checkRandomness a.sourceFiles ++
    checkPackages a.host a.sourceFiles (a.referenceSnapshot.bind (fun snap => parseSnapshotPackages snap.canonicalJson))
      (parseLockfilePackages a.project.renvLock) ++
    checkRuns a.runs a.artifacts

def found : Findings := a.pushed.foldl (pushFinding a.limits) {}

/-- `audit_reproducibility`. -/
def response : AuditResponse :=
  let findings := a.found.findings
  let ofSeverity := fun severity => findings.countP (fun f => f.severity = severity)
  { projectRoot := a.projectRoot
    scope := a.scope.text
    referenceSnapshotId := a.referenceSnapshotId
    status :=
      if a.found.truncationReasons.any (·.startsWith "error.") then .error
      else if findings.length = 0 && !a.found.truncated then .complete
      else if 0 < ofSeverity .error then .findings
      else if a.found.truncated then .incomplete
      else .findings
    findings := findings.insertionSort (fun f g => f.ruleId ≤ g.ruleId)
    summary :=
      { totalFindings := findings.length
        info := ofSeverity .info
        warning := ofSeverity .warning
        error := ofSeverity .error
        byCategory := OrdMap.ofList (findings.map (fun f => (f.category, findings.countP (fun g => g.category = f.category))))
        filesScanned := a.sourceFiles.countP (fun f => !f.skipped)
        runsChecked := a.runs.length }
    coverage :=
      { filesScanned := a.sourceFiles.countP (fun f => !f.skipped)
        filesSkipped := a.sourceFiles.countP (fun f => f.skipped)
        skippedReasons := sortedReasons a.sourceFiles
        runsConsidered := a.runs.length
        artifactsConsidered := a.artifacts.length
        snapshotAvailable := a.referenceSnapshot.isSome || a.runs.any (fun r => r.environmentSnapshotId.isSome) }
    truncated := a.found.truncated
    truncationReasons := a.found.truncationReasons }

end AuditRequest

end Rho.Audit
