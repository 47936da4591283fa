import Rho.Extension.Package
import Rho.Lib.Timed
import Rho.Store.Audit

/-!
# The Git review

`git_review.rs`: a file's diff is shown with a revision token, and a mutation is given the token back. The token is computed by
several commands, and a mutation computes it again before its own command runs; other programs may change the working files, the index
and HEAD between any two commands. What `git` and the file system answer in a world is a parameter.
-/

namespace Rho

open Json

def maxDiffHunks : Nat := 128
def maxDiffLines : Nat := 4000
def maxGitPathBytes : Nat := 4096

/-- What a directory entry is. -/
inductive EntryKind where
  | file | directory | linkOrReparsePoint
  deriving DecidableEq

/-- `git` and the file system for one project root, in a world; paths and outputs are UTF-8. A message is that of the failed command. -/
structure Git (World : Type) where
  canonicalize : World → String → Except String String
  filesystemInstance : World → String → Except String String
  hasGitMarker : World → List String → Bool
  readDir : World → List String → Except String (List String)
  entryKind : World → List String → Except String EntryKind
  present : World → String → Bool
  revParse : World → List String → Except String String
  lsFilesUnmatched : World → String → Except String String
  lsFilesStage : World → String → Except String String
  lsTree : World → String → Except String String
  hashObject : World → String → Except String String
  status : World → String → Except String String
  shortStatus : World → String → Except String String
  writeTree : World → Except String String
  stagedNames : World → Except String String
  /-- The output, or nothing when it is longer than may be shown. -/
  diff : World → String → Bool → Except String (Option String)
  patchFile : World → Except String Unit
  /-- A command's output, and the world that it leaves. -/
  applyCached : World → String → Except String String × World
  add : World → String → Except String String × World
  checkout : World → String → Except String String × World
  commit : World → String → Except String String × World

namespace GitReview

/-- `token`. -/
def token (sha256 : List UInt8 → Vector UInt8 32) (value : String) : String := hexEncode (sha256 (bytesOf value)).toList

/-- `context`: what the error says instead. -/
def context {α : Type} (message : String) : Except String α → Except String α
  | .ok a => .ok a
  | .error _ => .error message

section Programs

variable {World : Type} (git : Git World) (sha256 : List UInt8 → Vector UInt8 32)

/-- A program of the review. -/
abbrev Step (World α : Type) := Timed World String α

open Timed

/-! ## Paths -/

def validateRepository : Step World String := do
  let canonicalRoot ← observe fun w => context "Git project root is unavailable" (git.canonicalize w "")
  let top ← observe fun w => git.revParse w ["--show-toplevel"]
  let canonicalTop ← observe fun w => context "Git worktree root is unavailable" (git.canonicalize w (trim top))
  if canonicalRoot ≠ canonicalTop then throw "Git project root must exactly match the repository worktree root"
  else pure canonicalRoot

/-- `canonical_git_directory`: a reported path is taken from the project root. -/
def canonicalGitDirectory (argument label : String) : Step World String := do
  let value ← observe fun w => git.revParse w [argument]
  observe fun w => context (label ++ " is unavailable") (git.canonicalize w (trim value))

/-- The components of a path between slashes. -/
def componentsOf (filePath : String) : List String := (filePath.toList.splitOn '/').map String.ofList

/-- The checks of the text of a path. -/
def validatePathText (filePath : String) : Except String Unit := do
  let text := filePath.toList
  if (trim filePath).isEmpty || decide (maxGitPathBytes < filePath.utf8ByteSize) ||
      text.any (fun c => c == '\\' || c == '\x00' || c == '\n' || c == '\r') || text.head? == some '/' then
    .error "Git path must be a non-empty project-relative path"
  else if (componentsOf filePath).contains ".." || (componentsOf filePath).head? == some "." then
    .error "Git path must be normalized inside the project root"
  else if (componentsOf filePath).any (fun component => component.isEmpty || component == ".git") then
    .error "Git path contains a reserved or empty component"
  else .ok ()

/-- The walk down the components of a path, the components before them being given. -/
def walkComponents (filePath : String) (current : List String) : List String → Step World Unit
  | [] => do
    let marked ← observe fun w => .ok (git.hasGitMarker w current)
    if marked then throw "Git path resolves to a nested repository"
    else
      let kind ← attempt (observe fun w => git.entryKind w current)
      if kind matches .ok .directory then throw "Git review path must identify one file" else pure ()
  | component :: components => do
    let marked ← observe fun w => .ok (decide (current ≠ []) && git.hasGitMarker w current)
    if marked then throw "Git path crosses a nested repository"
    else
      let names ← observe fun w =>
        context ("Git path parent is unavailable: " ++ "/".intercalate current) (git.readDir w current)
      if component ∈ names then
        let kind ← observe fun w => context "Git path metadata is unavailable" (git.entryKind w (current ++ [component]))
        if kind = .linkOrReparsePoint then throw "Git path contains a symlink or reparse point"
        else walkComponents filePath (current ++ [component]) components
      else if components ≠ [] then throw "Git path does not exactly match the filesystem"
      else
        let tracked ← observe fun w =>
          context "Git path does not exactly match a tracked or working file" (git.lsFilesUnmatched w filePath)
        if tracked ≠ filePath ++ "\x00" then throw "Git path does not exactly match the index" else pure ()

def validateRelativePath (filePath : String) : Step World Unit := do
  let _ ← validateRepository git
  let _ ← observe fun _ => validatePathText filePath
  walkComponents git filePath [] (componentsOf filePath)

/-! ## Tokens -/

/-- The parts of the text that a repository's token is taken of. -/
structure RepositoryReads where
  root : String
  rootInstance : String
  gitDir : String
  gitDirInstance : String
  commonDir : String
  commonDirInstance : String
  objectFormat : String
  head : String
  deriving DecidableEq

def RepositoryReads.text (r : RepositoryReads) : String :=
  "root\x00" ++ r.root ++ "\x00" ++ r.rootInstance ++ "\x00git-dir\x00" ++ r.gitDir ++ "\x00" ++ r.gitDirInstance ++
    "\x00common-dir\x00" ++ r.commonDir ++ "\x00" ++ r.commonDirInstance ++ "\x00object-format\x00" ++ trim r.objectFormat ++
    "\x00head\x00" ++ trim r.head

/-- What `git rev-parse --verify HEAD` prints, or that HEAD is unborn. -/
def headText (w : World) : Except String String :=
  match git.revParse w ["--verify", "HEAD"] with
  | .ok head => .ok head
  | .error _ => .ok "unborn"

/-- The commands of `repository_revision`. -/
def repositoryReads : Step World RepositoryReads := do
  let root ← validateRepository git
  let gitDir ← canonicalGitDirectory git "--git-dir" "Git worktree directory"
  let commonDir ← canonicalGitDirectory git "--git-common-dir" "Git common directory"
  let objectFormat ← observe fun w => git.revParse w ["--show-object-format"]
  let head ← observe fun w => headText git w
  let rootInstance ← observe fun w => git.filesystemInstance w root
  let gitDirInstance ← observe fun w => git.filesystemInstance w gitDir
  let commonDirInstance ← observe fun w => git.filesystemInstance w commonDir
  pure ⟨root, rootInstance, gitDir, gitDirInstance, commonDir, commonDirInstance, objectFormat, head⟩

/-- The parts of the text that a file's token is taken of. -/
structure FileReads where
  repository : RepositoryReads
  status : String
  index : String
  head : String
  working : String
  deriving DecidableEq

def FileReads.text (r : FileReads) : String :=
  "repository\x00" ++ token sha256 r.repository.text ++ "status\x00" ++ r.status ++ "index\x00" ++ r.index ++ "head\x00" ++ r.head ++
    "working\x00" ++ r.working

/-- The entry of HEAD: when the command fails, HEAD may be missing. -/
def readHead (filePath : String) : Step World String := do
  match ← attempt (observe fun w => git.lsTree w filePath) with
  | .ok head => pure head
  | .error e =>
    match ← attempt (observe fun w => git.revParse w ["--verify", "HEAD"]) with
    | .error _ => pure "missing-head"
    | .ok _ => throw e

def readWorking (filePath : String) (staged : Bool) : Step World String := do
  if staged then pure "staged-view"
  else
    let present ← observe fun w => .ok (git.present w filePath)
    if present then observe fun w => git.hashObject w filePath else pure "missing-working-file"

/-- The commands of `file_revision`. -/
def fileReads (filePath : String) (staged : Bool) : Step World FileReads := do
  validateRelativePath git filePath
  let repository ← repositoryReads git
  let status ← observe fun w => git.status w filePath
  let index ← observe fun w => git.lsFilesStage w filePath
  let head ← readHead git filePath
  let working ← readWorking git filePath staged
  pure ⟨repository, status, index, head, working⟩

def fileRevision (filePath : String) (staged : Bool) : Step World String := do
  let reads ← fileReads git filePath staged
  pure (token sha256 (reads.text sha256))

/-- The parts of the text that the token of the staged changes is taken of. -/
structure StagedReads where
  repository : RepositoryReads
  tree : String
  deriving DecidableEq

def StagedReads.text (r : StagedReads) : String :=
  "repository\x00" ++ token sha256 r.repository.text ++ "tree\x00" ++ trim r.tree

/-- The commands of `staged_revision`. -/
def stagedReads : Step World StagedReads := do
  let repository ← repositoryReads git
  let tree ← observe fun w => git.writeTree w
  pure ⟨repository, tree⟩

def stagedRevision : Step World String := do
  let reads ← stagedReads git
  pure (token sha256 (reads.text sha256))

/-! ## The diff -/

structure GitReviewHunk where
  index : Nat
  header : String
  oldStart : Nat
  oldCount : Nat
  newStart : Nat
  newCount : Nat
  content : String
  deriving DecidableEq

structure GitReviewDiff where
  path : String
  staged : Bool
  revision : String
  hunks : List GitReviewHunk
  lineCount : Nat
  truncated : Bool
  deriving DecidableEq

abbrev Line := List Char

/-- What stands before the first `@@`. -/
def beforeMarker : List Char → Option (List Char)
  | '@' :: '@' :: _ => some []
  | c :: text => (beforeMarker text).map (c :: ·)
  | [] => none

/-- `split_whitespace`. -/
def words (text : List Char) : List (List Char) := (text.splitOnP isWhiteSpace).filter (· ≠ [])

/-- `parse_range`. -/
def parseRange (value : List Char) : Option (Nat × Nat) :=
  match value.splitOn ',' with
  | [_] => (Serde.parseU64 (String.ofList value)).map (·, 1)
  | start :: rest => do
    return (← Serde.parseU64 (String.ofList start), ← Serde.parseU64 (String.ofList (",".toList.intercalate rest)))
  | [] => none

def parseHunkHeader (header : Line) : Option ((Nat × Nat) × (Nat × Nat)) :=
  match (trim (String.ofList header)).toList with
  | '@' :: '@' :: remainder => do
    match words (← beforeMarker remainder) with
    | ('-' :: old) :: ('+' :: new) :: _ => return (← parseRange old, ← parseRange new)
    | _ => none
  | _ => none

def startsWith (pre : String) (line : Line) : Bool := pre.toList.isPrefixOf line

/-- The lines before the first hunk, less those of the blobs, and the lines of the hunks. -/
def splitHunks (lines : List Line) : List Line × List (List Line) :=
  lines.foldl (fun (heading, raw) line =>
    if startsWith "@@" line then (heading, raw ++ [[line]])
    else
      match raw.getLast? with
      | some hunk => (heading, raw.dropLast ++ [hunk ++ [line]])
      | none => if startsWith "index " line then (heading, raw) else (heading ++ [line], raw)) ([], [])

/-- The loop over the hunks. -/
def renderHunks (heading : List Line) : Nat → List GitReviewHunk → List (List Line) → List GitReviewHunk
  | _, hunks, [] => hunks
  | rendered, hunks, lines :: raw =>
    if maxDiffLines ≤ rendered then hunks
    else if maxDiffLines < rendered + lines.length then hunks
    else
      match parseHunkHeader (lines.headD []) with
      | none => renderHunks heading rendered hunks raw
      | some ((oldStart, oldCount), (newStart, newCount)) =>
        let hunk : GitReviewHunk := {
          index := hunks.length
          header := String.ofList (lines.headD [])
          oldStart := oldStart
          oldCount := oldCount
          newStart := newStart
          newCount := newCount
          content := String.ofList ((heading ++ lines).flatMap (· ++ ['\n'])) }
        renderHunks heading (rendered + lines.length) (hunks ++ [hunk]) raw

/-- What `review_diff` makes of a diff and a revision. -/
def renderDiff (filePath : String) (staged : Bool) (revision : String) : Option String → GitReviewDiff
  | none => ⟨filePath, staged, revision, [], maxDiffLines + 1, true⟩
  | some output =>
    let lines := Audit.lines output
    let (heading, raw) := splitHunks lines
    let hunks := renderHunks heading 0 [] (raw.take maxDiffHunks)
    ⟨filePath, staged, revision, hunks, lines.length, decide (hunks.length < raw.length) || decide (maxDiffLines < lines.length)⟩

def diffOutput (filePath : String) (staged : Bool) : Step World (Option String) := do
  validateRelativePath git filePath
  observe fun w => git.diff w filePath staged

def reviewDiff (filePath : String) (staged : Bool) : Step World GitReviewDiff := do
  let bounded ← diffOutput git filePath staged
  let revision ← fileRevision git sha256 filePath staged
  pure (renderDiff filePath staged revision bounded)

/-! ## Mutations -/

/-- The command of a mutation, which changes the world. -/
abbrev Command (World : Type) := World → Except String String × World

inductive Mutation where
  | stageHunk (filePath : String) (hunkIndex : Nat)
  | stageFile (filePath : String)
  | restoreFile (filePath : String)
  | commit (message : String)
  deriving DecidableEq

/-- What `stage_hunk` does before its command. -/
def stageHunk (filePath : String) (hunkIndex : Nat) (expectedRevision : String) : Step World (Command World) := do
  let diff ← reviewDiff git sha256 filePath false
  if diff.revision ≠ expectedRevision then throw "Stale working diff; refresh Git review before staging"
  else
    match (diff.hunks)[hunkIndex]? with
    | none => throw "Selected Git hunk is unavailable"
    | some hunk =>
      observe fun w => git.patchFile w
      pure fun w => git.applyCached w hunk.content

def stageFile (filePath expectedRevision : String) : Step World (Command World) := do
  let revision ← fileRevision git sha256 filePath false
  if revision ≠ expectedRevision then throw "Stale working file; refresh Git review before staging"
  else pure fun w => git.add w filePath

def restoreFile (filePath expectedRevision : String) : Step World (Command World) := do
  let revision ← fileRevision git sha256 filePath false
  if revision ≠ expectedRevision then throw "Stale working file; refresh Git review before restoring"
  else
    let status ← observe fun w => git.shortStatus w filePath
    if startsWith "??" status.toList then throw "Untracked files cannot be restored in Git review"
    else pure fun w => git.checkout w filePath

def commit (message expectedStagedRevision : String) : Step World (Command World) := do
  if (trim message).isEmpty then throw "Commit message cannot be empty"
  else
    let revision ← stagedRevision git sha256
    if revision ≠ expectedStagedRevision then throw "Stale staged changes; refresh Git review before committing"
    else
      let staged ← observe fun w => git.stagedNames w
      if (trim staged).isEmpty then throw "No staged changes to commit" else pure fun w => git.commit w (trim message)

/-- What a mutation does before its command. -/
def Mutation.prepare (m : Mutation) (expectedRevision : String) : Step World (Command World) :=
  match m with
  | .stageHunk filePath hunkIndex => GitReview.stageHunk git sha256 filePath hunkIndex expectedRevision
  | .stageFile filePath => GitReview.stageFile git sha256 filePath expectedRevision
  | .restoreFile filePath => GitReview.restoreFile git sha256 filePath expectedRevision
  | .commit message => GitReview.commit git sha256 message expectedRevision

/-- What came of a mutation, and the worlds before and after its command if it ran. -/
structure Outcome (World : Type) where
  result : Except String String
  ran : Option (World × World)

/-- A mutation along a timeline. The result of a commit is read from HEAD afterwards. -/
def Mutation.run (m : Mutation) (expectedRevision : String) (w : Nat → World) : Outcome World :=
  match (m.prepare git sha256 expectedRevision).run w 0 with
  | (.error e, _) => ⟨.error e, none⟩
  | (.ok command, t) =>
    let (result, after) := command (w t)
    match m, result with
    | .commit _, .ok _ => ⟨(git.revParse (w (t + 1)) ["HEAD"]).map trim, some (w t, after)⟩
    | _, .ok _ => ⟨.ok "", some (w t, after)⟩
    | _, .error e => ⟨.error e, some (w t, after)⟩

end Programs

end GitReview

end Rho
