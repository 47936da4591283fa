import Rho.Extension.Manifest
import Rho.Lib.FileTree

/-!
# Plugin packages on disk

A package is a directory with a manifest. Discovery collects the inventory of its regular files, by their normalized paths, and takes
the digest of its stream. A path through a link leads nowhere in the trees of this model: the source follows it here and there and then
refuses the package, because it has a link.
-/

namespace Rho

open FileTree

/-! ## What the crates provide -/

structure PackageCrates (F : Type) where
  num : Numbers F
  manifest : ManifestCrates
  sha256 : List UInt8 → Vector UInt8 32

/-- The bytes of a text. -/
def bytesOf (text : String) : List UInt8 := text.toUTF8.data.toList

/-- `to_str`, of a text of bytes. -/
def textOf (bytes : List UInt8) : Option String := String.fromUTF8? ⟨bytes.toArray⟩

/-! ## Errors -/

/-- Why a package or a discovery is refused, with what the message names. -/
inductive PackageError where
  | depth
  | symlink (path : Path)
  | nonUtf8Path (path : Path)
  | notRegular (path : Path)
  | pathTooLong
  | fileTooLarge (path : Path)
  | tooManyFiles
  | caseCollision (path : List UInt8)
  | aggregate
  | declaredPathAbsent (key : String)
  | entryMissing
  | entryNotRegular
  | declaredPathMissing (path : String)
  | declaredPathLink (path : String)
  | declaredPathNotRegular (path : String)
  | skillMissing (path : String)
  | skillNotRegular (path : String)
  | manifestMissing
  | manifestNotRegular
  | manifestTooLarge (actual : Nat)
  | manifestRefused (error : ManifestError)
  | rootNotDirectory
  | otherPluginId
  | otherDigest
  | nonUtf8Directory
  | duplicateId (id : PluginId) (existing : Name)
  | noDiscoveryRoot
  | rhoNotDirectory
  | pluginsNotDirectory
  | linkedEntry (name : Name)
  | notDiscovered (id : PluginId)
  | discoveredDigest
  | changedWhileRead
  deriving DecidableEq

/-! ## The inventory -/

def maxPackageDepth : Nat := 32

def maxPackageFileBytes : Nat := 4 * 1024 * 1024

def maxPackageAggregateBytes : Nat := 32 * 1024 * 1024

def maxPackageFiles : Nat := 4096

def slash : UInt8 := 47

def backslash : UInt8 := 92

def slashedByte (b : UInt8) : UInt8 := if b = backslash then slash else b

def asciiLower (b : UInt8) : UInt8 := if 65 ≤ b ∧ b ≤ 90 then b + 32 else b

/-- The text of a relative path. -/
def joinPath (path : Path) : List UInt8 := List.intercalate [slash] path

def normalizeRelative (path : Path) : Except PackageError (List UInt8) :=
  match textOf (joinPath path) with
  | some _ => .ok ((joinPath path).map slashedByte)
  | none => .error (.nonUtf8Path path)

/-- The files read so far, by their normalized paths, and the sum of what was read. -/
structure Inventory where
  files : List (List UInt8 × List UInt8)
  aggregateBytes : Nat
  deriving DecidableEq

/-- What the walk does with a regular file. -/
def walkFile (path : Path) (content : List UInt8) (inventory : Inventory) : Except PackageError Inventory := do
  let normalized ← normalizeRelative path
  if maxRelativePathBytes < normalized.length then .error .pathTooLong
  else if maxPackageFileBytes < content.length then .error (.fileTooLarge path)
  else if maxPackageFiles < inventory.files.length + 1 then .error .tooManyFiles
  else if inventory.files.any (fun f => f.1.map asciiLower == normalized.map asciiLower) && (OrdMap.get inventory.files normalized).isNone then
    .error (.caseCollision normalized)
  else if maxPackageAggregateBytes < inventory.aggregateBytes + content.length then .error .aggregate
  else .ok ⟨OrdMap.insert normalized content inventory.files, inventory.aggregateBytes + content.length⟩

mutual

/-- `walk`: the entries of a directory in their order, each under the path it has in the package. -/
def walkEntries (depth : Nat) (path : Path) : List (Name × Node) → Inventory → Except PackageError Inventory
  | [], inventory => .ok inventory
  | (name, node) :: entries, inventory => do
    let inventory ← walkNode depth (path ++ [name]) node inventory
    walkEntries depth path entries inventory

def walkNode (depth : Nat) (path : Path) : Node → Inventory → Except PackageError Inventory
  | .symlink, _ => .error (.symlink path)
  | .dir entries, inventory => do
    let _ ← normalizeRelative path
    if maxPackageDepth < depth + 1 then .error .depth
    else walkEntries (depth + 1) path entries inventory
  | .other, _ => do
    let _ ← normalizeRelative path
    .error (.notRegular path)
  | .file content, inventory => walkFile path content inventory

end

/-- `normalize_manifest_relative`. -/
def normalizeManifestRelative (path : String) : List UInt8 :=
  (((bytesOf path).map slashedByte).reverse.dropWhile (· = slash)).reverse

/-- What `manifest_entry_keys` lists. -/
def WorkspacePluginManifest.manifestEntryKeys (m : WorkspacePluginManifest) : List String :=
  ((m.runtime.entry :: (m.provides.filterMap (·.path) ++ m.contributions.filterMap (·.skillPath))).mergeSort (· ≤ ·)).dedup

/-- A declared path is a file of the inventory or a directory with files. -/
def Inventory.declares (inventory : Inventory) (key : String) : Bool :=
  (OrdMap.get inventory.files (normalizeManifestRelative key)).isSome ||
    inventory.files.any (fun f => (normalizeManifestRelative key ++ [slash]).isPrefixOf f.1)

def collectPackageInventory (entries : List (Name × Node)) (entryKeys : List String) : Except PackageError Inventory := do
  let inventory ← walkEntries 0 [] entries ⟨[], 0⟩
  match entryKeys.find? (fun key => !inventory.declares key) with
  | some key => .error (.declaredPathAbsent key)
  | none => .ok inventory

/-- The names that a path goes through. -/
def splitComponents (path : List UInt8) : Path := (path.splitOn slash).filter (fun name => name ≠ [] && name ≠ [46])

/-! ## The digest -/

/-- The eight bytes of a length, the lowest first. -/
def lengthBytes (n : Nat) : List UInt8 := (List.range 8).map (fun i => UInt8.ofNat (n / 256 ^ i % 256))

/-- What `hash_bytes` feeds. -/
def hashBytes (bytes : List UInt8) : List UInt8 := lengthBytes bytes.length ++ bytes

/-- The stream that the digest of an inventory is taken of. -/
def inventoryStream (files : List (List UInt8 × List UInt8)) : List UInt8 :=
  files.flatMap (fun f => hashBytes f.1 ++ hashBytes f.2)

section Discovery

variable {F : Type} [LinearOrder F] (crates : PackageCrates F)

/-- `from_inventory`. -/
def fromInventory (files : List (List UInt8 × List UInt8)) : PackageDigest := hexEncode (crates.sha256 (inventoryStream files)).toList

/-! ## Manifests -/

def manifestFile : Name := bytesOf "rho-plugin.json"

/-- The manifest of a directory. -/
def readManifest (entries : List (Name × Node)) : Except PackageError WorkspacePluginManifest :=
  match OrdMap.get entries manifestFile with
  | none => .error .manifestMissing
  | some (.file bytes) =>
    if maxManifestBytes < bytes.length then .error (.manifestTooLarge bytes.length)
    else
      match WorkspacePluginManifest.parse crates.manifest crates.num bytes with
      | .ok m => .ok m
      | .error e => .error (.manifestRefused e)
  | some _ => .error .manifestNotRegular

/-- The runtime entry is a regular file. -/
def validateEntry (entries : List (Name × Node)) (path : String) : Except PackageError Unit :=
  match Node.find (splitComponents (normalizeManifestRelative path)) (.dir entries) with
  | none => .error .entryMissing
  | some (.file _) => .ok ()
  | some _ => .error .entryNotRegular

/-- A path that is provided; since the second schema it is a regular file. -/
def validateProvided (schemaVersion : Nat) (entries : List (Name × Node)) (path : String) : Except PackageError Unit :=
  match Node.find (splitComponents (normalizeManifestRelative path)) (.dir entries) with
  | none => .error (.declaredPathMissing path)
  | some .symlink => .error (.declaredPathLink path)
  | some (.file _) => .ok ()
  | some _ => if 2 ≤ schemaVersion then .error (.declaredPathNotRegular path) else .ok ()

def validateSkill (entries : List (Name × Node)) (path : String) : Except PackageError Unit :=
  match Node.find (splitComponents (normalizeManifestRelative path)) (.dir entries) with
  | none => .error (.skillMissing path)
  | some (.file _) => .ok ()
  | some _ => .error (.skillNotRegular path)

def validateManifestPaths (entries : List (Name × Node)) (m : WorkspacePluginManifest) : Except PackageError Unit := do
  validateEntry entries m.runtime.entry
  (m.provides.filterMap (·.path)).forM (validateProvided m.schemaVersion entries)
  (m.contributions.filterMap (·.skillPath)).forM (validateSkill entries)

/-! ## Discovery -/

structure DiscoveredPlugin where
  directory : Name
  manifest : WorkspacePluginManifest
  digest : PackageDigest
  deriving DecidableEq

/-- `discover_one`, of a real directory with its name. -/
def discoverOne (name : Name) (entries : List (Name × Node)) : Except PackageError DiscoveredPlugin := do
  let manifest ← readManifest crates entries
  validateManifestPaths entries manifest
  let inventory ← collectPackageInventory entries manifest.manifestEntryKeys
  .ok ⟨name, manifest, fromInventory crates inventory.files⟩

end Discovery

end Rho
