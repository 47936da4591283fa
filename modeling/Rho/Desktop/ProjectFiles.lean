import Rho.Desktop.AgentFile
import Rho.Server.GeneratedOutput

/-!
# The files of a project

`project.rs`: the files that the editor offers are listed by a walk that ends at a depth, at a number of entries and at a number of
files. A directory that cannot be read is passed over; only the root has to be readable.
-/

namespace Rho

open FileName (toAsciiLowercase slashed)

def maxProjectFiles : Nat := 2000

def maxProjectEntries : Nat := 10000

def maxProjectDepth : Nat := 8

/-- A file of the list, by the names that lead to it from the root. -/
structure ProjectFile where
  names : List String
  sizeBytes : Nat
  deriving DecidableEq

/-- `relative_project_path`. -/
def ProjectFile.path (f : ProjectFile) : String := slashed f.names

def ignoredProjectDirectory (name : String) : Bool :=
  [".git", ".rproj.user", ".worktrees", "target", "renv", "node_modules"].contains (toAsciiLowercase name)

structure ProjectScan where
  files : List ProjectFile := []
  scannedEntries : Nat := 0
  deriving DecidableEq

/-- The first of the entries that the system lists, without those that are lost, and whether there are more of them. -/
def listedProjectEntries (faults : ScanFaults) (directory : List String) (entries : List (String × ProjectNode)) (remaining : Nat) :
    List (String × ProjectNode) × Bool :=
  let listed := (entries.take (remaining + 1)).filter (fun e => !faults.dirEntry (directory ++ [e.1]))
  ((listed.take remaining).insertionSort (fun a b => toAsciiLowercase a.1 ≤ toAsciiLowercase b.1), decide (remaining < listed.length))

/-- The file that an entry is, if it is one to be listed. -/
def projectFileOf (faults : ScanFaults) (directory : List String) (entry : String × ProjectNode) : Option ProjectFile :=
  match entry.2 with
  | .file metadata =>
    if faults.fileType (directory ++ [entry.1]) || !(ensureEditableFile entry.1).isOk || faults.metadata (directory ++ [entry.1]) then
      none
    else some ⟨directory ++ [entry.1], metadata.len⟩
  | .directory _ | .symlink | .other => none

/-- The directory that an entry is, if it is one to be walked. A directory that is no link is inside the root. -/
def projectDirectoryOf (faults : ScanFaults) (directory : List String) (entry : String × ProjectNode) :
    Option (String × List (String × ProjectNode)) :=
  match entry.2 with
  | .directory entries =>
    if faults.fileType (directory ++ [entry.1]) || ignoredProjectDirectory entry.1 || faults.canonicalize (directory ++ [entry.1]) then
      none
    else some (entry.1, entries)
  | .file _ | .symlink | .other => none

/-- The loop over the entries of a directory: its files are added, its directories are kept for later. Nothing is kept where the
number of files ended the loop. -/
def scanProjectEntries (faults : ScanFaults) (directory : List String) :
    List (String × ProjectNode) → ProjectScan → ProjectScan × Option (List (String × List (String × ProjectNode)))
  | [], s => (s, some [])
  | entry :: entries, s =>
    if maxProjectFiles ≤ s.files.length then (s, none)
    else
      let r := scanProjectEntries faults directory entries
        { s with files := s.files ++ (projectFileOf faults directory entry).toList }
      (r.1, r.2.map ((projectDirectoryOf faults directory entry).toList ++ ·))

/-- The loop over the directories of a directory, which ends where one of them is cut off. -/
def walkProjectDirectories (collect : List String → List (String × ProjectNode) → ProjectScan → ProjectScan × Bool)
    (directory : List String) : List (String × List (String × ProjectNode)) → ProjectScan → ProjectScan × Bool
  | [], s => (s, false)
  | d :: directories, s =>
    let r := collect (directory ++ [d.1]) d.2 s
    if r.2 then r else walkProjectDirectories collect directory directories r.1

/-- `collect_project_files`, over the number of levels that the depth still allows. -/
def collectProjectFiles (faults : ScanFaults) : Nat → List String → List (String × ProjectNode) → ProjectScan → ProjectScan × Bool
  | 0, _, _, s => (s, true)
  | levels + 1, directory, entries, s =>
    let remaining := maxProjectEntries - s.scannedEntries
    if remaining = 0 then (s, true)
    else if faults.readDir directory then (s, false)
    else
      let listed := listedProjectEntries faults directory entries remaining
      let r := scanProjectEntries faults directory listed.1 { s with scannedEntries := s.scannedEntries + listed.1.length }
      match r.2 with
      | none => (r.1, true)
      | some directories =>
        if listed.2 then (r.1, true) else walkProjectDirectories (collectProjectFiles faults levels) directory directories r.1

structure ProjectListing where
  files : List ProjectFile
  truncated : Bool
  deriving DecidableEq

/-- `list_project_files`. -/
def listProjectFiles (tree : ProjectTree) : Except String ProjectListing :=
  if tree.faults.readDir [] then .error "Permission denied (os error 13)"
  else
    let r := collectProjectFiles tree.faults (maxProjectDepth + 1) [] tree.entries {}
    .ok ⟨r.1.files.insertionSort (fun a b => a.path ≤ b.path), r.2⟩

end Rho
