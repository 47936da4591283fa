import Mathlib.Data.List.Dedup
import Mathlib.Data.List.Induction
import Rho.Store.Audit

/-!
# What an audit covers

An audit that calls a project complete has not always seen all of it. Files that it could not read are counted, but do not keep the
status from being complete; files behind a directory that cannot be listed or past the limit of their number, and runs and artifacts
past the length of their lists, are not even counted.
-/

namespace Rho.Audit

open Rows AuditRequest

/-! ## The source files of a project -/

mutual

/-- The source files of a directory, whether or not the system lets them be listed. -/
def sourcesIn (toLowercase : String → String) (directory : List String) : List (String × SourceNode) → List SourcePath
  | [] => []
  | (name, node) :: entries => sourcesOf toLowercase directory name node ++ sourcesIn toLowercase directory entries

def sourcesOf (toLowercase : String → String) (directory : List String) (name : String) : SourceNode → List SourcePath
  | .directory _ entries => if isSourceDirectory name then sourcesIn toLowercase (directory ++ [name]) entries else []
  | .file text => if isSourceName toLowercase name then [(FileName.slashed (directory ++ [name]), text)] else []
  | .refused node => sourcesOf toLowercase directory name node
  | .other => []

end

mutual

/-- Those of them that stand behind a refusal of the system: in a directory that cannot be listed, or lost from a listing. -/
def unlistedIn (toLowercase : String → String) (directory : List String) : List (String × SourceNode) → List SourcePath
  | [] => []
  | (name, node) :: entries => unlistedOf toLowercase directory name node ++ unlistedIn toLowercase directory entries

def unlistedOf (toLowercase : String → String) (directory : List String) (name : String) : SourceNode → List SourcePath
  | .directory readable entries =>
    if isSourceDirectory name then
      if readable then unlistedIn toLowercase (directory ++ [name]) entries else sourcesIn toLowercase (directory ++ [name]) entries
    else []
  | .file _ => []
  | .refused node => sourcesOf toLowercase directory name node
  | .other => []

end

mutual

/-- Every source file is either collected or behind a refusal. -/
theorem collect_sources (toLowercase : String → String) (directory : List String) : ∀ entries,
    (collectSourcePaths toLowercase directory entries).Sublist (sourcesIn toLowercase directory entries) ∧
      (collectSourcePaths toLowercase directory entries).length + (unlistedIn toLowercase directory entries).length =
        (sourcesIn toLowercase directory entries).length
  | [] => ⟨List.Sublist.refl _, rfl⟩
  | (name, node) :: entries => by
    obtain ⟨hnode, hnode'⟩ := collect_sourcesOf toLowercase directory name node
    obtain ⟨hrest, hrest'⟩ := collect_sources toLowercase directory entries
    refine ⟨hnode.append hrest, ?_⟩
    simp only [collectSourcePaths, unlistedIn, sourcesIn, List.length_append]
    omega

theorem collect_sourcesOf (toLowercase : String → String) (directory : List String) (name : String) : ∀ node,
    (collectNode toLowercase directory name node).Sublist (sourcesOf toLowercase directory name node) ∧
      (collectNode toLowercase directory name node).length + (unlistedOf toLowercase directory name node).length =
        (sourcesOf toLowercase directory name node).length
  | .directory readable entries => by
    have h := collect_sources toLowercase (directory ++ [name]) entries
    simp only [collectNode, unlistedOf, sourcesOf]
    cases isSourceDirectory name with
    | false => simp
    | true =>
      cases readable with
      | true => simpa using h
      | false => simp
  | .file text => by
    simp only [collectNode, unlistedOf, sourcesOf]
    exact ⟨List.Sublist.refl _, rfl⟩
  | .refused node => by
    simp only [collectNode, unlistedOf, sourcesOf]
    exact ⟨List.nil_sublist _, by simp⟩
  | .other => ⟨List.Sublist.refl _, rfl⟩

end

/-! ## Reading them -/

/-- The file can be read and is not too large. -/
def Readable (limits : AuditLimits) (file : SourcePath) : Prop :=
  ∃ content, file.2 = some content ∧ content.utf8ByteSize ≤ limits.maxFileBytes

def bytesOf (files : List SourcePath) : Nat := (files.map (fun f => (f.2.map String.utf8ByteSize).getD 0)).sum

/-- The files that are put to the rules. -/
def scannedOf (files : List SourceFile) : List SourcePath :=
  (files.filter (fun f => !f.skipped)).map (fun f => (f.path, some f.content))

theorem scannedOf_skipped (path reason : String) (files : List SourceFile) :
    scannedOf (skippedFile path reason :: files) = scannedOf files := rfl

theorem length_scannedOf_le (files : List SourceFile) : (scannedOf files).length ≤ files.length := by
  rw [scannedOf, List.length_map]
  exact List.length_filter_le _ _

theorem length_readSourceFiles (limits : AuditLimits) (paths : List SourcePath) (files bytes : Nat) :
    (readSourceFiles limits paths files bytes).length = min paths.length (limits.maxSourceFiles - files) := by
  induction paths generalizing files bytes with
  | nil => simp [readSourceFiles]
  | cons p paths ih =>
    obtain ⟨path, text⟩ := p
    unfold readSourceFiles
    split
    · simp only [List.length_nil]
      omega
    split
    · rw [List.length_cons, ih, List.length_cons]
      omega
    split
    · rw [List.length_cons, ih, List.length_cons]
      omega
    split
    · rw [List.length_cons, ih, List.length_cons]
      omega
    · rw [List.length_cons, ih, List.length_cons]
      omega

/-- All paths are scanned exactly when there are not too many of them and each of them, and all together, can be read. -/
theorem scanned_readSourceFiles_iff (limits : AuditLimits) (paths : List SourcePath) {files bytes : Nat}
    (hfiles : files ≤ limits.maxSourceFiles) (hbytes : bytes ≤ limits.maxAggregateBytes) :
    scannedOf (readSourceFiles limits paths files bytes) = paths ↔
      files + paths.length ≤ limits.maxSourceFiles ∧ (∀ p ∈ paths, Readable limits p) ∧
        bytes + bytesOf paths ≤ limits.maxAggregateBytes := by
  induction paths generalizing files bytes with
  | nil => exact iff_of_true rfl ⟨hfiles, fun _ h => absurd h List.not_mem_nil, hbytes⟩
  | cons p paths ih =>
    obtain ⟨path, text⟩ := p
    -- a path that is skipped leaves fewer files than there are paths
    have hskipped : ∀ reason bytes', scannedOf (skippedFile path reason :: readSourceFiles limits paths (files + 1) bytes') ≠
        (path, text) :: paths := by
      intro reason bytes' heq
      have hlength := congrArg List.length heq
      have hle := length_scannedOf_le (readSourceFiles limits paths (files + 1) bytes')
      rw [length_readSourceFiles] at hle
      rw [scannedOf_skipped, List.length_cons] at hlength
      omega
    unfold readSourceFiles
    split
    · refine iff_of_false nofun ?_
      rintro ⟨hcount, -⟩
      rw [List.length_cons] at hcount
      omega
    rename_i hroom
    split
    · refine iff_of_false (hskipped _ _) ?_
      rintro ⟨-, hall, -⟩
      obtain ⟨content, hcontent, -⟩ := hall _ List.mem_cons_self
      cases hcontent
    rename_i content
    split
    · rename_i hlarge
      refine iff_of_false (hskipped _ _) ?_
      rintro ⟨-, hall, -⟩
      obtain ⟨content', hcontent, hsize⟩ := hall _ List.mem_cons_self
      cases hcontent
      omega
    rename_i hsize
    have hsum : bytesOf ((path, some content) :: paths) = content.utf8ByteSize + bytesOf paths := by simp [bytesOf]
    split
    · refine iff_of_false (hskipped _ _) ?_
      rintro ⟨-, -, htotal⟩
      omega
    · rename_i hfits
      have hcons : scannedOf (⟨path, content, false, none⟩ :: readSourceFiles limits paths (files + 1) (bytes + content.utf8ByteSize)) =
          (path, some content) :: scannedOf (readSourceFiles limits paths (files + 1) (bytes + content.utf8ByteSize)) := rfl
      rw [hcons, List.cons.injEq, and_iff_right rfl, ih (by omega) (by omega), List.forall_mem_cons, List.length_cons, hsum]
      have hread : Readable limits (path, some content) := ⟨content, rfl, by omega⟩
      constructor
      · rintro ⟨hcount, hall, htotal⟩
        exact ⟨by omega, ⟨hread, hall⟩, by omega⟩
      · rintro ⟨hcount, ⟨-, hall⟩, htotal⟩
        exact ⟨by omega, hall, by omega⟩

/-! ## When no rule applies -/

@[simp] theorem when_eq_nil {applies : Bool} {f : AuditFinding} : when applies f = [] ↔ applies = false := by
  cases applies <;> simp [when]

def CleanRun (r : RunSummary) : Prop :=
  r.environmentSnapshotId ≠ none ∧ r.sourcePath ≠ none ∧ r.documentVersion ≠ none ∧ r.status ∉ ["failed", "cancelled", "interrupted"]

/-- The artifact is there, and comes from one of the runs, which was completed. -/
def CleanArtifact (project : ProjectFiles) (runs : List RunSummary) (x : ArtifactRecordSummary) : Prop :=
  x.provenanceComplete = true ∧ project.fileExists x.outputPath = true ∧
    ∃ runId, x.runId = some runId ∧ ∃ r, runs.find? (·.runId == runId) = some r ∧ r.status = "completed"

def CleanSnapshot (snap : EnvironmentSnapshotRecord) : Prop :=
  (∀ completeness, snapshotCompleteness snap.canonicalJson = some completeness → completeness = "complete") ∧
    snapshotHasLockfileDrift snap.canonicalJson = false

def CleanLine (line : List Char) : Prop :=
  containsWindowsDriveAbsolutePath line = false ∧
    ∀ pattern ∈ ["/home/", "/Users/", "/tmp/", "~/", "setwd(\"", "setwd('"], containsText pattern line = false

/-- No random number is drawn before a seed is set. -/
def Seeded (lines : List (List Char × Nat)) : Prop :=
  ∀ l ∈ lines.takeWhile (fun l => !containsText "set.seed(" l.1), ∀ f ∈ rngFunctions, containsText f l.1 = false

def Recorded (used : List String) (snapshot : List PkgInfo) : Prop := ∀ name ∈ used, ∃ p ∈ snapshot, p.name = name

/-- The snapshot and the lockfile have the same packages, in the same versions. -/
def Locked (snapshot lockfile : List PkgInfo) : Prop :=
  (∀ p ∈ snapshot, ∃ q ∈ lockfile, q.name = p.name) ∧ (∀ q ∈ lockfile, ∃ p ∈ snapshot, p.name = q.name) ∧
    ∀ p ∈ snapshot, ∀ q, lockfile.find? (·.name == p.name) = some q → p.version = q.version

section Rows

variable {runs : List RunSummary} {artifacts : List ArtifactRecordSummary} {project : ProjectFiles}

theorem checkEvidence_eq_nil_iff {snapshot : Option EnvironmentSnapshotRecord} :
    checkEvidence runs artifacts project snapshot = [] ↔
      (∀ r ∈ runs, r.environmentSnapshotId ≠ none ∧ r.sourcePath ≠ none ∧ r.documentVersion ≠ none) ∧
        (∀ x ∈ artifacts, x.runId ≠ none ∧ x.provenanceComplete = true ∧ project.fileExists x.outputPath = true) ∧
        (∀ snap ∈ snapshot, CleanSnapshot snap) ∧ project.fileExists "renv.lock" = true := by
  unfold checkEvidence
  rw [List.append_eq_nil_iff, List.append_eq_nil_iff, List.append_eq_nil_iff, and_assoc, and_assoc]
  refine and_congr ?_ (and_congr ?_ (and_congr ?_ ?_))
  · simp [Option.isSome_iff_ne_none]
  · simp [Option.isSome_iff_ne_none, and_assoc]
  · cases snapshot with
    | none => simp
    | some snap =>
      cases hcompleteness : snapshotCompleteness snap.canonicalJson <;> simp [CleanSnapshot, hcompleteness]
  · simp

theorem checkRuns_eq_nil_iff : checkRuns runs artifacts = [] ↔
      (∀ r ∈ runs, r.status ∉ ["failed", "cancelled", "interrupted"]) ∧
        ∀ x ∈ artifacts, ∀ runId, x.runId = some runId → ∃ r, runs.find? (·.runId == runId) = some r ∧ r.status = "completed" := by
  unfold checkRuns
  rw [List.append_eq_nil_iff, List.flatMap_eq_nil_iff, List.flatMap_eq_nil_iff]
  refine and_congr ?_ (forall₂_congr fun x _ => ?_)
  · simp [and_assoc]
  · cases x.runId with
    | none => simp
    | some runId => cases hfind : runs.find? (fun r => r.runId == runId) <;> simp [hfind]

end Rows

theorem checkPortability_eq_nil_iff {files : List SourceFile} :
    checkPortability files = [] ↔ ∀ file ∈ files, ∀ l ∈ numberedLines file, CleanLine l.1 := by
  simp [checkPortability, CleanLine, and_assoc]

theorem checkFileRandomness_eq_nil_iff {path : String} {lines : List (List Char × Nat)} :
    checkFileRandomness path lines = [] ↔ Seeded lines := by
  induction lines with
  | nil => simp [checkFileRandomness, Seeded]
  | cons l rest ih =>
    obtain ⟨line, number⟩ := l
    unfold checkFileRandomness
    split
    · rename_i hseed
      simp [Seeded, hseed]
    · rename_i hseed
      rw [List.append_eq_nil_iff, ih, Seeded, Seeded, List.takeWhile_cons_of_pos (by simpa using hseed), List.forall_mem_cons]
      refine and_congr_left fun _ => ?_
      cases hfind : rngFunctions.find? (fun f => containsText f line) with
      | none =>
        refine iff_of_true rfl fun f hf => ?_
        simpa using List.find?_eq_none.mp hfind f hf
      | some f =>
        refine iff_of_false nofun fun h => ?_
        have := h f (List.mem_of_find?_eq_some hfind)
        rw [List.find?_some hfind] at this
        cases this

theorem checkPackages_eq_nil_iff {host : AuditHost} {files : List SourceFile} {snapshot lockfile : Option (List PkgInfo)} :
    checkPackages host files snapshot lockfile = [] ↔
      (∀ s ∈ snapshot, Recorded (usedPackages host files) s) ∧ ∀ s ∈ snapshot, ∀ l ∈ lockfile, Locked s l := by
  have hmissing : ∀ (l : List PkgInfo) (name : String), (!l.any (·.name == name)) = false ↔ ∃ p ∈ l, p.name = name := by
    intro l name
    simp
  cases snapshot with
  | none => exact iff_of_true rfl ⟨nofun, nofun⟩
  | some s =>
    have hrecorded : (usedPackages host files).flatMap (fun name =>
        when (!s.any (·.name == name))
          (finding "packages.not_recorded" .warning "packages"
            ("Package '" ++ name ++ "' used in source but not found in environment snapshot")
            { kind := "source_range", excerpt := some ("package: " ++ name) }
            ["dynamic_library_detection_limited", "string_interpolation_not_parsed"])) = [] ↔ Recorded (usedPackages host files) s := by
      simp only [List.flatMap_eq_nil_iff, when_eq_nil, hmissing, Recorded]
    rw [checkPackages.eq_def]
    cases lockfile with
    | none =>
      simp only [List.append_nil, hrecorded, Option.mem_def, Option.some.injEq, forall_eq']
      exact ⟨fun h => ⟨h, nofun⟩, And.left⟩
    | some l =>
      simp only [List.append_eq_nil_iff, hrecorded, Option.mem_def, Option.some.injEq, forall_eq']
      refine and_congr_right fun _ => ?_
      simp only [List.flatMap_eq_nil_iff, when_eq_nil, hmissing, Locked, and_assoc]
      refine and_congr_right fun _ => and_congr_right fun _ => forall₂_congr fun p _ => ?_
      cases l.find? (fun q => q.name == p.name) <;> simp

/-- Every check comes back without a finding. -/
structure AuditRequest.Clean (a : AuditRequest) : Prop where
  runs : ∀ r ∈ a.runs, CleanRun r
  artifacts : ∀ x ∈ a.artifacts, CleanArtifact a.project a.runs x
  snapshot : ∀ snap ∈ a.referenceSnapshot, CleanSnapshot snap
  lockfile : a.project.fileExists "renv.lock" = true
  portable : ∀ file ∈ a.sourceFiles, ∀ l ∈ numberedLines file, CleanLine l.1
  seeded : ∀ file ∈ a.sourceFiles, Seeded (numberedLines file)
  recorded : ∀ s ∈ a.referenceSnapshot.bind (fun snap => parseSnapshotPackages snap.canonicalJson),
    Recorded (usedPackages a.host a.sourceFiles) s
  locked : ∀ s ∈ a.referenceSnapshot.bind (fun snap => parseSnapshotPackages snap.canonicalJson),
    ∀ l ∈ parseLockfilePackages a.project.renvLock, Locked s l

variable (a : AuditRequest)

theorem pushed_eq_nil_iff : a.pushed = [] ↔ a.Clean := by
  unfold pushed
  rw [List.append_eq_nil_iff, List.append_eq_nil_iff, List.append_eq_nil_iff, List.append_eq_nil_iff, checkEvidence_eq_nil_iff,
    checkRuns_eq_nil_iff, checkPortability_eq_nil_iff, checkPackages_eq_nil_iff, checkRandomness, List.flatMap_eq_nil_iff]
  simp only [checkFileRandomness_eq_nil_iff]
  constructor
  · rintro ⟨⟨⟨⟨⟨hruns, hartifacts, hsnapshot, hlock⟩, hportable⟩, hseeded⟩, hrecorded, hlocked⟩, hstatus, hfrom⟩
    refine ⟨?_, ?_, hsnapshot, hlock, hportable, hseeded, hrecorded, hlocked⟩
    · intro r hr
      obtain ⟨henv, hpath, hversion⟩ := hruns r hr
      exact ⟨henv, hpath, hversion, hstatus r hr⟩
    · intro x hx
      obtain ⟨hrun, hcomplete, hfile⟩ := hartifacts x hx
      obtain ⟨runId, hrunId⟩ := Option.ne_none_iff_exists'.mp hrun
      exact ⟨hcomplete, hfile, runId, hrunId, hfrom x hx runId hrunId⟩
  · rintro ⟨hruns, hartifacts, hsnapshot, hlock, hportable, hseeded, hrecorded, hlocked⟩
    refine ⟨⟨⟨⟨⟨?_, ?_, hsnapshot, hlock⟩, hportable⟩, hseeded⟩, hrecorded, hlocked⟩, ?_, ?_⟩
    · intro r hr
      obtain ⟨henv, hpath, hversion, -⟩ := hruns r hr
      exact ⟨henv, hpath, hversion⟩
    · intro x hx
      obtain ⟨hcomplete, hfile, runId, hrunId, -⟩ := hartifacts x hx
      exact ⟨by simp [hrunId], hcomplete, hfile⟩
    · intro r hr
      exact (hruns r hr).2.2.2
    · intro x hx runId hrunId
      obtain ⟨-, -, runId', hrunId', hrun⟩ := hartifacts x hx
      obtain rfl : runId' = runId := Option.some.inj (hrunId'.symm.trans hrunId)
      exact hrun

/-! ## The status -/

theorem foldl_pushFinding (limits : AuditLimits) (l : List AuditFinding) : l.foldl (pushFinding limits) {} =
      { findings := l.take limits.maxFindings
        truncationReasons := if limits.maxFindings < l.length then ["max_findings"] else []
        truncated := decide (limits.maxFindings < l.length) } := by
  induction l using List.reverseRecOn with
  | nil => simp
  | append_singleton l f ih =>
    rw [List.foldl_append, ih, List.foldl_cons, List.foldl_nil, pushFinding, List.length_take, List.length_append, List.length_singleton]
    by_cases hroom : limits.maxFindings ≤ l.length
    · rw [if_pos (by omega), List.take_append_of_le_length hroom]
      by_cases hlt : limits.maxFindings < l.length
      · simp [hlt, Nat.lt_succ_of_lt hlt]
      · simp [hlt, Nat.lt_succ_of_le hroom]
    · rw [if_neg (by omega), List.take_of_length_le (by omega), List.take_of_length_le (by simp; omega)]
      have hold : ¬ limits.maxFindings < l.length := by omega
      have hnew : ¬ limits.maxFindings < l.length + 1 := by omega
      simp [hold, hnew]

/-- No other reason than a cut list of findings is ever given. -/
theorem truncationReasons_eq {reason : String} (h : reason ∈ a.response.truncationReasons) : reason = "max_findings" := by
  change reason ∈ (a.pushed.foldl (pushFinding a.limits) {}).truncationReasons at h
  rw [foldl_pushFinding] at h
  simp only at h
  split at h
  · exact List.mem_singleton.mp h
  · exact absurd h List.not_mem_nil

theorem status_complete_iff : a.response.status = .complete ↔ a.Clean := by
  rw [← pushed_eq_nil_iff]
  have hnoError : ∀ reasons : List String, (∀ r ∈ reasons, r = "max_findings") → reasons.any (·.startsWith "error.") = false := by
    intro reasons h
    rw [List.any_eq_false]
    intro r hr
    rw [h r hr]
    decide +kernel
  have herror := hnoError a.found.truncationReasons (fun r hr => truncationReasons_eq a hr)
  have hfound : a.found = _ := foldl_pushFinding a.limits a.pushed
  simp only [response, herror, Bool.false_eq_true, if_false]
  by_cases hnone : a.pushed = []
  · rw [hfound, hnone]
    simp
  · refine iff_of_false ?_ hnone
    have hsome : (decide (a.found.findings.length = 0) && !a.found.truncated) = false := by
      have hpos := List.length_pos_of_ne_nil hnone
      rw [hfound, List.length_take]
      by_cases hlt : a.limits.maxFindings < a.pushed.length
      · simp [hlt]
      · have hmin : ¬ min a.limits.maxFindings a.pushed.length = 0 := by omega
        simp [hmin]
    rw [if_neg (by rw [hsome]; exact Bool.false_ne_true)]
    split
    · exact nofun
    split
    · exact nofun
    · exact nofun

/-! ## What is in scope, and what is said to be left out -/

namespace AuditRequest

def sources : List SourcePath := sourcesIn a.host.toLowercase [] a.project.root

/-- The source files that are never listed. -/
def unlisted : List SourcePath :=
  if a.project.rootReadable then unlistedIn a.host.toLowercase [] a.project.root else a.sources

/-- Every source file of the project is put to the rules, with its text. -/
def AllScanned : Prop := scannedOf a.sourceFiles = a.sources

def runsInScope : List RunSummary := a.scope.selectRuns (a.db.projectArtifacts a.projectRoot) (a.db.projectRuns a.projectRoot)

def artifactsInScope : List ArtifactRecordSummary := a.scope.selectArtifacts (a.db.projectArtifacts a.projectRoot)

def AllRuns : Prop := ∀ r ∈ a.runsInScope, r ∈ a.runs

def AllArtifacts : Prop := ∀ x ∈ a.artifactsInScope, x ∈ a.artifacts

/-- The response gives a limit other than that of the findings. -/
def ReportsCut : Prop := ∃ reason ∈ a.response.truncationReasons, reason ≠ "max_findings"

/-- The response accounts for every source file, those that it skipped with their reasons, or gives a limit. -/
def ReportsFiles : Prop :=
  (a.response.coverage.filesScanned + a.response.coverage.filesSkipped = a.sources.length ∧
      ∀ f ∈ a.sourceFiles, f.skipped = true → ∃ reason ∈ a.response.coverage.skippedReasons, f.skipReason = some reason) ∨
    a.ReportsCut

/-- A complete audit has covered everything in its scope, and one that left something out is not complete and says so. -/
structure Thorough : Prop where
  complete : a.response.status = .complete → a.AllScanned ∧ a.AllRuns ∧ a.AllArtifacts
  files : ¬ a.AllScanned → a.response.status ≠ .complete ∧ a.ReportsFiles
  runs : ¬ a.AllRuns → a.response.status ≠ .complete ∧ a.ReportsCut
  artifacts : ¬ a.AllArtifacts → a.response.status ≠ .complete ∧ a.ReportsCut

/-- Each source file can be read, and they are not too many bytes together. -/
def AllReadable : Prop := (∀ f ∈ a.sources, Readable a.limits f) ∧ bytesOf a.sources ≤ a.limits.maxAggregateBytes

/-- Nothing is left out in silence: every source file is listed and has a place among those that are read, every run and every
artifact in scope is among the newest of the project, and where a file cannot be read some rule has an objection. -/
structure NothingSilent : Prop where
  listed : a.unlisted = []
  files : a.sources.length ≤ a.limits.maxSourceFiles
  runs : ∀ r ∈ a.runsInScope,
    a.db.runsFail = false ∧ r ∈ firstRows (fun r s => s.startedAt ≤ r.startedAt) a.limits.maxRuns (a.db.projectRuns a.projectRoot)
  artifacts : ∀ x ∈ a.artifactsInScope,
    a.db.artifactsFail = false ∧
      x ∈ firstRows (fun x y => y.createdAt ≤ x.createdAt) a.limits.maxArtifacts (a.db.projectArtifacts a.projectRoot)
  read : a.AllReadable ∨ ¬ a.Clean

end AuditRequest

/-! ## Files -/

theorem skipReason_of_mem {limits : AuditLimits} {paths : List SourcePath} {files bytes : Nat} {f : SourceFile}
    (h : f ∈ readSourceFiles limits paths files bytes) (hskipped : f.skipped = true) : ∃ reason, f.skipReason = some reason := by
  induction paths generalizing files bytes with
  | nil => exact absurd h List.not_mem_nil
  | cons p paths ih =>
    obtain ⟨path, text⟩ := p
    have hcons : ∀ {g : SourceFile} {rest : List SourceFile}, f ∈ g :: rest → (g.skipped = true → ∃ reason, g.skipReason = some reason) →
        (f ∈ rest → ∃ reason, f.skipReason = some reason) → ∃ reason, f.skipReason = some reason := by
      intro g rest hmem hhead htail
      rcases List.mem_cons.mp hmem with rfl | hmem
      · exact hhead hskipped
      · exact htail hmem
    unfold readSourceFiles at h
    split at h
    · exact absurd h List.not_mem_nil
    split at h
    · exact hcons h (fun _ => ⟨_, rfl⟩) ih
    split at h
    · exact hcons h (fun _ => ⟨_, rfl⟩) ih
    split at h
    · exact hcons h (fun _ => ⟨_, rfl⟩) ih
    · exact hcons h nofun ih

/-- What was collected, and what was not. -/
theorem exists_collected : ∃ collected : List SourcePath, a.sourceFiles = readSourceFiles a.limits collected 0 0 ∧
    collected.Sublist a.sources ∧ collected.length + a.unlisted.length = a.sources.length := by
  refine ⟨_, rfl, ?_⟩
  unfold unlisted
  split
  · exact collect_sources a.host.toLowercase [] a.project.root
  · exact ⟨List.nil_sublist _, Nat.zero_add _⟩

theorem allScanned_iff : a.AllScanned ↔ a.unlisted = [] ∧ a.sources.length ≤ a.limits.maxSourceFiles ∧ a.AllReadable := by
  obtain ⟨collected, hfiles, hsub, hlength⟩ := exists_collected a
  have hread := scanned_readSourceFiles_iff a.limits collected (Nat.zero_le _) (Nat.zero_le _)
  rw [Nat.zero_add, Nat.zero_add] at hread
  have hall : a.unlisted = [] → collected = a.sources := by
    intro h
    rw [h, List.length_nil, Nat.add_zero] at hlength
    exact hsub.eq_of_length hlength
  rw [AuditRequest.AllScanned, hfiles]
  constructor
  · intro h
    have hscanned := length_scannedOf_le (readSourceFiles a.limits collected 0 0)
    rw [h, length_readSourceFiles] at hscanned
    have hnone : a.unlisted = [] := List.eq_nil_of_length_eq_zero (by omega)
    have heq := hall hnone
    rw [heq] at h hread
    exact ⟨hnone, hread.mp h⟩
  · rintro ⟨hnone, hrest⟩
    have heq := hall hnone
    rw [heq] at hread ⊢
    exact hread.mpr hrest

theorem not_reportsCut : ¬ a.ReportsCut := by
  rintro ⟨reason, hreason, hne⟩
  exact hne (truncationReasons_eq a hreason)

theorem reportsFiles_iff : a.ReportsFiles ↔ a.unlisted = [] ∧ a.sources.length ≤ a.limits.maxSourceFiles := by
  obtain ⟨collected, hfiles, -, hlength⟩ := exists_collected a
  have hcount : a.response.coverage.filesScanned + a.response.coverage.filesSkipped = a.sourceFiles.length := by
    have h := List.length_eq_countP_add_countP (l := a.sourceFiles) (fun f => !f.skipped)
    simp only [Bool.not_eq_true', Bool.not_eq_false, Bool.decide_eq_true] at h
    exact h.symm
  have hreasons : ∀ f ∈ a.sourceFiles, f.skipped = true → ∃ reason ∈ a.response.coverage.skippedReasons, f.skipReason = some reason := by
    intro f hf hskipped
    obtain ⟨reason, hreason⟩ := skipReason_of_mem (hfiles ▸ hf) hskipped
    refine ⟨reason, ?_, hreason⟩
    change reason ∈ sortedReasons a.sourceFiles
    rw [sortedReasons, List.mem_dedup, List.mem_insertionSort, List.mem_filterMap]
    exact ⟨f, hf, hreason⟩
  rw [AuditRequest.ReportsFiles, or_iff_left (not_reportsCut a), and_iff_left hreasons, hcount, hfiles, length_readSourceFiles]
  constructor
  · intro h
    exact ⟨List.eq_nil_of_length_eq_zero (by omega), by omega⟩
  · rintro ⟨hnone, hfew⟩
    rw [hnone, List.length_nil] at hlength
    omega

/-! ## Runs and artifacts -/

variable {db : Db} {root : String} {limit : Nat} {r : RunSummary} {x : ArtifactRecordSummary}

theorem mem_listRuns_iff : r ∈ db.listRuns root limit ↔
      db.runsFail = false ∧ r ∈ firstRows (fun r s => s.startedAt ≤ r.startedAt) limit (db.projectRuns root) := by
  unfold Db.listRuns
  cases db.runsFail <;> simp

theorem mem_listArtifactRecords_iff : x ∈ db.listArtifactRecords root limit ↔
      db.artifactsFail = false ∧ x ∈ firstRows (fun x y => y.createdAt ≤ x.createdAt) limit (db.projectArtifacts root) := by
  unfold Db.listArtifactRecords
  cases db.artifactsFail <;> simp

theorem allArtifacts_iff : a.AllArtifacts ↔ ∀ x ∈ a.artifactsInScope, x ∈ a.listedArtifacts := by
  refine forall₂_congr fun x hx => ?_
  unfold artifacts
  unfold artifactsInScope at hx
  cases hscope : a.scope with
  | project => rfl
  | currentProject =>
    rw [hscope] at hx
    exact absurd hx List.not_mem_nil
  | run target =>
    rw [hscope] at hx
    simp [AuditScope.selectArtifacts, of_decide_eq_true (List.mem_filter.mp hx).2]
  | artifact target =>
    rw [hscope] at hx
    simp [AuditScope.selectArtifacts, of_decide_eq_true (List.mem_filter.mp hx).2]

/-- An artifact that is listed is the one that is found by its id. -/
theorem find?_listed {target : String}
    (h : (a.db.projectArtifacts a.projectRoot).find? (fun y => y.artifactId = target) = some x) (hlisted : x ∈ a.listedArtifacts) :
    a.listedArtifacts.find? (fun y => y.artifactId = target) = some x := by
  have hid : x.artifactId = target := by simpa using List.find?_some h
  have hrow : ∀ y ∈ a.listedArtifacts, y ∈ a.db.artifacts.rows := by
    intro y hy
    exact List.mem_of_mem_filter (mem_of_mem_firstRows (mem_listArtifactRecords_iff.mp hy).2)
  cases hfound : a.listedArtifacts.find? (fun y => y.artifactId = target) with
  | none => exact absurd (decide_eq_true hid) (List.find?_eq_none.mp hfound x hlisted)
  | some y =>
    have hy : y.artifactId = target := by simpa using List.find?_some hfound
    have hsame := List.inj_on_of_nodup_map a.db.artifacts.nodup (hrow y (List.mem_of_find?_eq_some hfound)) (hrow x hlisted)
      (hy.trans hid.symm)
    rw [hsame]

theorem allRuns_of_listed (hruns : ∀ r ∈ a.runsInScope, r ∈ a.db.listRuns a.projectRoot a.limits.maxRuns)
    (hartifacts : ∀ x ∈ a.artifactsInScope, x ∈ a.listedArtifacts) : a.AllRuns := by
  intro r hr
  have hlisted := hruns r hr
  unfold runsInScope at hr
  unfold artifactsInScope at hartifacts
  unfold runs
  cases hscope : a.scope with
  | project => exact hlisted
  | currentProject =>
    rw [hscope] at hr
    exact absurd hr List.not_mem_nil
  | run target =>
    rw [hscope] at hr
    exact List.mem_filter.mpr ⟨hlisted, (List.mem_filter.mp hr).2⟩
  | artifact target =>
    rw [hscope] at hr hartifacts
    simp only [AuditScope.selectRuns] at hr ⊢
    cases hfind : (a.db.projectArtifacts a.projectRoot).find? (fun y => y.artifactId = target) with
    | none =>
      rw [hfind] at hr
      exact absurd hr List.not_mem_nil
    | some x =>
      have hid : x.artifactId = target := by simpa using List.find?_some hfind
      have hx := hartifacts x (List.mem_filter.mpr ⟨List.mem_of_find?_eq_some hfind, decide_eq_true hid⟩)
      rw [find?_listed a hfind hx]
      rw [hfind] at hr
      cases hrun : x.runId with
      | none =>
        simp only [Option.bind_some, hrun] at hr
        exact absurd hr List.not_mem_nil
      | some runId =>
        simp only [Option.bind_some, hrun] at hr ⊢
        exact List.mem_filter.mpr ⟨hlisted, (List.mem_filter.mp hr).2⟩

theorem mem_listRuns_of_mem_runs (h : r ∈ a.runs) : r ∈ a.db.listRuns a.projectRoot a.limits.maxRuns := by
  unfold runs AuditScope.selectRuns at h
  split at h
  · exact h
  · exact absurd h List.not_mem_nil
  · exact List.mem_of_mem_filter h
  · split at h
    · exact List.mem_of_mem_filter h
    · exact absurd h List.not_mem_nil

/-! ## The audit -/

/-- For every project, scope and limits, the status and the report of an audit can be relied on exactly when nothing is left out in
silence. -/
theorem audit_thorough_iff : a.Thorough ↔ a.NothingSilent := by
  constructor
  · intro h
    have hruns : a.AllRuns := by
      by_contra hnot
      exact not_reportsCut a (h.runs hnot).2
    have hartifacts : a.AllArtifacts := by
      by_contra hnot
      exact not_reportsCut a (h.artifacts hnot).2
    have hfiles : a.unlisted = [] ∧ a.sources.length ≤ a.limits.maxSourceFiles ∧ (a.AllReadable ∨ ¬ a.Clean) := by
      by_cases hscanned : a.AllScanned
      · obtain ⟨hnone, hfew, hreadable⟩ := (allScanned_iff a).mp hscanned
        exact ⟨hnone, hfew, Or.inl hreadable⟩
      · obtain ⟨hstatus, hreport⟩ := h.files hscanned
        obtain ⟨hnone, hfew⟩ := (reportsFiles_iff a).mp hreport
        exact ⟨hnone, hfew, Or.inr (fun hclean => hstatus ((status_complete_iff a).mpr hclean))⟩
    obtain ⟨hnone, hfew, hread⟩ := hfiles
    refine ⟨hnone, hfew, ?_, ?_, hread⟩
    · intro r hr
      exact mem_listRuns_iff.mp (mem_listRuns_of_mem_runs a (hruns r hr))
    · intro x hx
      exact mem_listArtifactRecords_iff.mp ((allArtifacts_iff a).mp hartifacts x hx)
  · intro h
    have hlisted : ∀ x ∈ a.artifactsInScope, x ∈ a.listedArtifacts :=
      fun x hx => mem_listArtifactRecords_iff.mpr (h.artifacts x hx)
    have hruns := allRuns_of_listed a (fun r hr => mem_listRuns_iff.mpr (h.runs r hr)) hlisted
    have hartifacts := (allArtifacts_iff a).mpr hlisted
    have hscanned : a.AllReadable → a.AllScanned := fun hreadable => (allScanned_iff a).mpr ⟨h.listed, h.files, hreadable⟩
    refine ⟨?_, ?_, fun hnot => absurd hruns hnot, fun hnot => absurd hartifacts hnot⟩
    · intro hcomplete
      rcases h.read with hreadable | hobjection
      · exact ⟨hscanned hreadable, hruns, hartifacts⟩
      · exact absurd ((status_complete_iff a).mp hcomplete) hobjection
    · intro hnot
      have hobjection := h.read.resolve_left (fun hreadable => hnot (hscanned hreadable))
      exact ⟨fun hcomplete => hobjection ((status_complete_iff a).mp hcomplete), (reportsFiles_iff a).mpr ⟨h.listed, h.files⟩⟩

/-- A project with a lockfile and one script, which is not UTF-8. -/
def latinProject : AuditRequest where
  host := { toLowercase := FileName.toAsciiLowercase, isAlphanumeric := Char.isAlphanum }
  limits := {}
  db := {}
  project :=
    { root := [("analysis.R", .file none), ("renv.lock", .file (some "\x7b\"Packages\":\x7b\x7d\x7d"))]
      fileExists := fun path => path == "analysis.R" || path == "renv.lock"
      renvLock := some "\x7b\"Packages\":\x7b\x7d\x7d" }
  projectRoot := "/project"
  scope := .project
  referenceSnapshotId := none

/-- The script was not read, and the audit is complete. -/
theorem unread_source_complete : ¬ latinProject.Thorough := by
  intro h
  have hcomplete : latinProject.response.status = .complete := by decide +kernel
  have hscanned : scannedOf latinProject.sourceFiles = latinProject.sources := (h.complete hcomplete).1
  exact absurd hscanned (by decide +kernel)

end Rho.Audit
