import Mathlib.Data.Prod.Lex
import Mathlib.Order.WithBot
import Rho.Server.Bridge
import Rho.Server.Snapshot

/-!
# The capture of an environment

`canonicalize_environment_snapshot` of `coordinator.rs`: what R reports of a project's environment, put in order, with the lockfile
read and compared.
-/

namespace Rho

/-! ## What R reports -/

structure RawInstalledPackage where
  name : String
  version : Option String
  library : Option String
  deriving DecidableEq, Repr

structure RawInstalledPackages where
  values : List RawInstalledPackage
  truncated : Bool
  incompleteReason : Option String
  deriving DecidableEq, Repr

structure RawRenvState where
  status : Option String
  hasLockfile : Option Bool
  lockfilePath : Option String
  packageAvailable : Option Bool
  projectLibrary : Option String
  active : Option Bool
  deriving DecidableEq, Repr

structure RawBioconductorState where
  status : Option String
  version : Option String
  packageAvailable : Option Bool
  deriving DecidableEq, Repr

structure RawEnvironmentEvidence where
  projectDir : String
  runtime : CanonicalRuntimeState
  libraryPaths : List String
  installedPackages : RawInstalledPackages
  renv : RawRenvState
  bioconductor : RawBioconductorState
  deriving DecidableEq, Repr

/-- What reading a lockfile and parsing it as JSON comes to. -/
inductive LockfileRead where
  | failed (error : String)
  | unparsed (sha256 error : String)
  | parsed (sha256 : String) (value : Json)

/-! ## The lockfile -/

/-- `replace('\\', "/")`. -/
def forwardSlashes (s : String) : String := String.ofList (s.toList.map fun c => if c = '\\' then '/' else c)

def lockfilePackages (value : Json) : List CanonicalLockfilePackage :=
  (((value.get "Packages").bind Json.asObject).getD []).map (fun (name, value) =>
    ⟨name, (value.get "Version").bind Json.asStr, (value.get "Source").bind Json.asStr⟩)
    |>.insertionSort (fun left right => left.name ≤ right.name)

/-- `canonicalize_lockfile`, with the reasons for which the capture is incomplete. -/
def canonicalizeLockfile (read : String → LockfileRead) (hasLockfile : Bool) (lockfilePath : Option String) :
    CanonicalLockfileState × List String :=
  if !hasLockfile then (⟨false, none, false, []⟩, [])
  else
    match lockfilePath.filter (fun value => trim value ≠ "") with
    | none => (⟨true, none, false, []⟩, ["lockfile_path_missing"])
    | some path =>
      match read path with
      | .failed error => (⟨false, none, false, []⟩, ["lockfile_read_failed: " ++ error])
      | .unparsed sha256 error => (⟨true, some sha256, false, []⟩, ["lockfile_parse_failed: " ++ error])
      | .parsed sha256 value =>
        (⟨true, some sha256, ((value.get "Packages").bind Json.asObject).isSome, lockfilePackages value⟩, [])

/-! ## Synchronization -/

/-- The order of optional texts: a missing one comes before every other. -/
def optionRank (text : Option String) : WithBot String := text

/-- What the installed packages are sorted by. -/
def CanonicalInstalledPackage.sortKey (p : CanonicalInstalledPackage) : String ×ₗ WithBot String ×ₗ WithBot String :=
  toLex (p.name, toLex (optionRank p.version, optionRank p.library))

def sortInstalled (packages : List CanonicalInstalledPackage) : List CanonicalInstalledPackage :=
  packages.insertionSort (fun left right => left.sortKey ≤ right.sortKey)

/-- The version that is kept for a name: that of the first package of the list that has it. -/
def installedVersion (packages : List CanonicalInstalledPackage) (name : String) : Option (Option String) :=
  (packages.find? (fun p => p.name = name)).map (·.version)

def computeLockfileSyncState (installedPackages : List CanonicalInstalledPackage) (renvAvailable : Bool)
    (lockfile : CanonicalLockfileState) : String :=
  if !lockfile.exists_ then "no_lockfile"
  else if !renvAvailable then "renv_unavailable"
  else if !lockfile.valid then "invalid_lockfile"
  else if lockfile.packages.any (fun p => (installedVersion installedPackages p.name).join ≠ p.version) then "drifted"
  else "synchronized"

/-! ## The snapshot -/

def degradedEnvironmentSnapshot (projectRoot reason : String) : CanonicalEnvironmentSnapshot where
  projectRoot := projectRoot
  runtime := ⟨none, none⟩
  bioconductor := ⟨"unknown", none, false⟩
  libraryPaths := []
  installedPackages := []
  renv := ⟨"degraded", false, false, none, false, ⟨false, none, false, []⟩, "incomplete"⟩
  incompleteReason := some reason

/-- R reported nothing. -/
def RawEnvironmentEvidence.unavailable (raw : RawEnvironmentEvidence) : Bool :=
  raw.runtime.version.isNone && raw.runtime.platform.isNone && raw.installedPackages.values.isEmpty && raw.libraryPaths.isEmpty

def canonicalInstalled (packages : List RawInstalledPackage) : List CanonicalInstalledPackage :=
  sortInstalled (packages.map fun p => ⟨p.name, p.version, p.library.map forwardSlashes⟩)

def RawEnvironmentEvidence.lockfile (read : String → LockfileRead) (raw : RawEnvironmentEvidence) :
    CanonicalLockfileState × List String :=
  canonicalizeLockfile read (raw.renv.hasLockfile.getD false) raw.renv.lockfilePath

def canonicalizeEnvironmentSnapshot (read : String → LockfileRead) (projectRoot : String) (raw : RawEnvironmentEvidence) :
    CanonicalEnvironmentSnapshot :=
  let projectRoot := if projectRoot.isEmpty then forwardSlashes raw.projectDir else projectRoot
  if raw.unavailable then
    degradedEnvironmentSnapshot projectRoot "capture_failed: environment evidence was unavailable"
  else
    let (lockfile, reasons) := raw.lockfile read
    let installed := canonicalInstalled raw.installedPackages.values
    let reasons := (if raw.installedPackages.truncated then ["installed_packages_truncated_at_source"] else []) ++
      (raw.installedPackages.incompleteReason.map ("installed_packages_incomplete: " ++ ·)).toList ++ reasons
    { projectRoot
      runtime := raw.runtime
      bioconductor := ⟨raw.bioconductor.status.getD "unknown", raw.bioconductor.version,
        raw.bioconductor.packageAvailable.getD false⟩
      libraryPaths := raw.libraryPaths.map forwardSlashes
      installedPackages := installed
      renv := ⟨raw.renv.status.getD "unknown", raw.renv.hasLockfile.getD false, raw.renv.packageAvailable.getD false,
        raw.renv.projectLibrary.map forwardSlashes, raw.renv.active.getD false, lockfile,
        computeLockfileSyncState installed (raw.renv.packageAvailable.getD false) lockfile⟩
      incompleteReason := if reasons.isEmpty then none else some (" | ".intercalate reasons) }

end Rho
