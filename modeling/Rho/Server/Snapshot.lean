import Rho.Lib.Json

/-!
# Environment snapshots as the coordinator writes them

`coordinator.rs`: the canonical snapshot of a project's R environment, its JSON as the serializer derives it from the field names,
and the trimming to the byte budget.
-/

namespace Rho

/-! ## The snapshot -/

structure CanonicalRuntimeState where
  version : Option String
  platform : Option String
  deriving DecidableEq, Repr

structure CanonicalBioconductorState where
  status : String
  version : Option String
  packageAvailable : Bool
  deriving DecidableEq, Repr

structure CanonicalInstalledPackage where
  name : String
  version : Option String
  library : Option String
  deriving DecidableEq, Repr

structure CanonicalLockfilePackage where
  name : String
  version : Option String
  source : Option String
  deriving DecidableEq, Repr

structure CanonicalLockfileState where
  exists_ : Bool
  sha256 : Option String
  valid : Bool
  packages : List CanonicalLockfilePackage
  deriving DecidableEq, Repr

structure CanonicalRenvState where
  status : String
  hasLockfile : Bool
  packageAvailable : Bool
  projectLibrary : Option String
  active : Bool
  lockfile : CanonicalLockfileState
  synchronization : String
  deriving DecidableEq, Repr

structure CanonicalEnvironmentSnapshot where
  projectRoot : String
  runtime : CanonicalRuntimeState
  bioconductor : CanonicalBioconductorState
  libraryPaths : List String
  installedPackages : List CanonicalInstalledPackage
  renv : CanonicalRenvState
  incompleteReason : Option String
  deriving DecidableEq, Repr

/-! ## The JSON of a snapshot -/

/-- An optional string: its value, or `null`. -/
def optionJson : Option String → Json
  | some s => .str s
  | none => .null

def CanonicalRuntimeState.toJson (r : CanonicalRuntimeState) : Json :=
  .obj [("version", optionJson r.version), ("platform", optionJson r.platform)]

def CanonicalBioconductorState.toJson (b : CanonicalBioconductorState) : Json :=
  .obj [("status", .str b.status), ("version", optionJson b.version), ("package_available", .bool b.packageAvailable)]

def CanonicalInstalledPackage.toJson (p : CanonicalInstalledPackage) : Json :=
  .obj [("name", .str p.name), ("version", optionJson p.version), ("library", optionJson p.library)]

def CanonicalLockfilePackage.toJson (p : CanonicalLockfilePackage) : Json :=
  .obj [("name", .str p.name), ("version", optionJson p.version), ("source", optionJson p.source)]

def CanonicalLockfileState.toJson (l : CanonicalLockfileState) : Json :=
  .obj [("exists", .bool l.exists_), ("sha256", optionJson l.sha256), ("valid", .bool l.valid),
    ("packages", .arr (l.packages.map (·.toJson)))]

def CanonicalRenvState.toJson (r : CanonicalRenvState) : Json :=
  .obj [("status", .str r.status), ("has_lockfile", .bool r.hasLockfile), ("package_available", .bool r.packageAvailable),
    ("project_library", optionJson r.projectLibrary), ("active", .bool r.active), ("lockfile", r.lockfile.toJson),
    ("synchronization", .str r.synchronization)]

def CanonicalEnvironmentSnapshot.toJson (s : CanonicalEnvironmentSnapshot) : Json :=
  .obj [("project_root", .str s.projectRoot), ("runtime", s.runtime.toJson), ("bioconductor", s.bioconductor.toJson),
    ("library_paths", .arr (s.libraryPaths.map Json.str)),
    ("installed_packages", .arr (s.installedPackages.map (·.toJson))), ("renv", s.renv.toJson),
    ("incomplete_reason", optionJson s.incompleteReason)]

/-- `serde_json::to_string` of a snapshot. -/
def CanonicalEnvironmentSnapshot.encode (s : CanonicalEnvironmentSnapshot) : String := s.toJson.toText

/-! ## The byte budget -/

def maxCanonicalSnapshotBytes : Nat := 2 * 1024 * 1024

/-- The encoding is within the budget. -/
def CanonicalEnvironmentSnapshot.fits (s : CanonicalEnvironmentSnapshot) : Bool :=
  decide (s.encode.utf8ByteSize ≤ maxCanonicalSnapshotBytes)

theorem CanonicalEnvironmentSnapshot.fits_iff {s : CanonicalEnvironmentSnapshot} :
    s.fits = true ↔ s.encode.utf8ByteSize ≤ maxCanonicalSnapshotBytes := decide_eq_true_iff

theorem CanonicalEnvironmentSnapshot.fits_of_length {s : CanonicalEnvironmentSnapshot}
    (h : 4 * s.toJson.print.length ≤ maxCanonicalSnapshotBytes) : s.fits = true :=
  fits_iff.mpr ((Json.bytes_bounds _).2.trans h)

-- The loop below only asks whether a snapshot fits, and its equations are not to evaluate the encoding.
attribute [irreducible] CanonicalEnvironmentSnapshot.fits

/-- `append_incomplete_reason`: the reason is added unless it is there already. -/
def appendIncompleteReason (target : Option String) (reason : String) : Option String :=
  match target with
  | some existing => if (existing.splitOn " | ").contains reason then some existing else some (existing ++ " | " ++ reason)
  | none => some reason

/-- What one turn of the loop drops: the last installed package, else the last package of the lockfile, else the last library
path. -/
def CanonicalEnvironmentSnapshot.pop (s : CanonicalEnvironmentSnapshot) : Option CanonicalEnvironmentSnapshot :=
  if s.installedPackages ≠ [] then some { s with installedPackages := s.installedPackages.dropLast }
  else if s.renv.lockfile.packages ≠ [] then
    some { s with
      renv := { s.renv with lockfile := { s.renv.lockfile with packages := s.renv.lockfile.packages.dropLast } } }
  else if s.libraryPaths ≠ [] then some { s with libraryPaths := s.libraryPaths.dropLast }
  else none

/-- How many times something can be dropped. -/
def CanonicalEnvironmentSnapshot.droppable (s : CanonicalEnvironmentSnapshot) : Nat :=
  s.installedPackages.length + s.renv.lockfile.packages.length + s.libraryPaths.length

def budgetError : String := "environment snapshot exceeds byte budget even after trimming"

/-- The loop of `finalize_environment_snapshot_json`, with a bound on its turns. -/
def finalizeLoop : Nat → Bool → CanonicalEnvironmentSnapshot → Except String (String × CanonicalEnvironmentSnapshot)
  | fuel, budgetTrimmed, s =>
    if s.fits then
      if budgetTrimmed then
        let s := { s with incompleteReason := appendIncompleteReason s.incompleteReason "canonical_snapshot_trimmed_to_budget" }
        .ok (s.encode, s)
      else .ok (s.encode, s)
    else
      match fuel, s.pop with
      | fuel + 1, some s => finalizeLoop fuel true s
      | _, _ => .error budgetError

/-- `finalize_environment_snapshot_json`: the text that is stored, and the snapshot the call leaves. -/
def finalizeEnvironmentSnapshotJson (s : CanonicalEnvironmentSnapshot) : Except String (String × CanonicalEnvironmentSnapshot) :=
  finalizeLoop s.droppable false s

end Rho
