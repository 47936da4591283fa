import Mathlib.Data.List.Sort
import Rho.Lib.JsonParse

/-!
# Environment snapshots as the store reads them

`compare.rs` and `audit.rs`: the packages and the runtime that a comparison of two runs and an audit read out of a stored
snapshot.
-/

namespace Rho

/-! ## Comparing two runs -/

/-- The state of one compared field. -/
inductive CompareField where
  | same | different | leftOnly | rightOnly | unknown | notApplicable
  deriving DecidableEq, Repr

structure CompareFieldEntry where
  field : String
  state : CompareField
  leftValue : Option String
  rightValue : Option String
  limitation : Option String
  deriving DecidableEq, Repr

structure CompareSection where
  id : String
  label : String
  fields : List CompareFieldEntry
  deriving DecidableEq, Repr

def compareOptString : Option String → Option String → CompareField
  | none, none => .unknown
  | some _, none => .leftOnly
  | none, some _ => .rightOnly
  | some a, some b => if a = b then .same else .different

def field (name : String) (state : CompareField) (left right : Option String) : CompareFieldEntry :=
  { field := name, state := state, leftValue := left, rightValue := right, limitation := none }

def fieldLimited (name : String) (state : CompareField) (left right : Option String) (limitation : String) :
    CompareFieldEntry :=
  { field := name, state := state, leftValue := left, rightValue := right, limitation := some limitation }

/-- The pairs in the order of their names. -/
def sortByName (l : List (String × String)) : List (String × String) := l.insertionSort (fun a b => a.1 ≤ b.1)

/-- `extract_packages`: the name and version of the first 200 installed packages. -/
def extractPackages (snapshot : Json) : List (String × String) :=
  match (snapshot.get "installed_packages").bind Json.asArray with
  | some installed =>
    sortByName ((installed.take 200).map fun pkg =>
      (((pkg.get "Package").bind Json.asStr).getD "?", ((pkg.get "Version").bind Json.asStr).getD "?"))
  | none => []

def packageDiffEntry (name change : String) (left right : Json) : Json :=
  .obj [("change", .str change), ("left_version", left), ("package", .str name), ("right_version", right)]

/-- `diff_packages`: what the left has and the right has not or at another version, then what only the right has. -/
def diffPackages (left right : List (String × String)) : List Json :=
  let leftMap := OrdMap.ofList left
  let rightMap := OrdMap.ofList right
  let changed := leftMap.filterMap fun e =>
    match OrdMap.get rightMap e.1 with
    | none => some (packageDiffEntry e.1 "removed" (.str e.2) .null)
    | some rightVer =>
      if e.2 ≠ rightVer then some (packageDiffEntry e.1 "version_changed" (.str e.2) (.str rightVer)) else none
  let added := rightMap.filterMap fun e =>
    if (OrdMap.get leftMap e.1).isSome then none else some (packageDiffEntry e.1 "added" .null (.str e.2))
  (changed ++ added).take 200

/-- `R` and below it a key of a snapshot, as `compare_environment` looks it up. -/
def runtimeEvidence (snapshot : Json) (key : String) : Option String :=
  ((snapshot.get "R").bind (·.get key)).bind Json.asStr

/-- What `compare_environment` reads of a run: the id of its snapshot. -/
structure RunEnvironment where
  environmentSnapshotId : Option String
  deriving DecidableEq, Repr

/-- What it reads of a stored snapshot: the canonical JSON. -/
structure EnvironmentSnapshotRecord where
  canonicalJson : String
  deriving DecidableEq, Repr

/-- The fields compared when both snapshots are read. -/
def compareSnapshots (lj rj : Json) : List CompareFieldEntry :=
  let leftPkgs := extractPackages lj
  let rightPkgs := extractPackages rj
  let pkgDiff := diffPackages leftPkgs rightPkgs
  [field "r_version" (compareOptString (runtimeEvidence lj "version") (runtimeEvidence rj "version"))
      (runtimeEvidence lj "version") (runtimeEvidence rj "version"),
    field "r_platform" (compareOptString (runtimeEvidence lj "platform") (runtimeEvidence rj "platform"))
      (runtimeEvidence lj "platform") (runtimeEvidence rj "platform"),
    field "package_count_left" .notApplicable (some (toString leftPkgs.length)) none,
    field "package_count_right" .notApplicable none (some (toString rightPkgs.length)),
    field "package_diff" (if pkgDiff = [] then .same else .different) (some (Json.toText (.arr pkgDiff))) none]

/-- `compare_environment`. -/
def compareEnvironment (left right : RunEnvironment) (leftSnapshot rightSnapshot : Option EnvironmentSnapshotRecord) :
    CompareSection :=
  let leftAvailable := leftSnapshot.isSome
  let rightAvailable := rightSnapshot.isSome
  let available := field "snapshot_available"
    (if leftAvailable && rightAvailable then .same
      else if leftAvailable then .leftOnly
      else if rightAvailable then .rightOnly
      else .unknown)
    (some (toString leftAvailable)) (some (toString rightAvailable))
  let ids := field "snapshot_id" (compareOptString left.environmentSnapshotId right.environmentSnapshotId)
    left.environmentSnapshotId right.environmentSnapshotId
  let details :=
    match leftSnapshot, rightSnapshot with
    | some ls, some rs =>
      match Json.fromText ls.canonicalJson, Json.fromText rs.canonicalJson with
      | some lj, some rj => compareSnapshots lj rj
      | _, _ => [fieldLimited "environment_details" .unknown none none "snapshot_parse_error"]
    | _, _ => [fieldLimited "environment_details" .unknown none none "one_or_both_snapshots_unavailable"]
  { id := "environment", label := "Environment", fields := available :: ids :: details }

/-! ## Auditing -/

/-- A package as an audit sees it. -/
structure PkgInfo where
  name : String
  version : String
  deriving DecidableEq, Repr

/-- `parse_snapshot_packages`: every installed package, or nothing when one has no name. -/
def parseSnapshotPackages (canonicalJson : String) : Option (List PkgInfo) := do
  let json ← Json.fromText canonicalJson
  let installed ← (← json.get "installed_packages").asArray
  installed.mapM fun pkg => do
    let name ← (← pkg.get "Package").asStr
    return { name := name, version := ((pkg.get "Version").bind Json.asStr).getD "unknown" }

end Rho
