import Rho.Extension.Grant
import Rho.Lib.Base64
import Rho.Lib.FileName
import Rho.Lib.LinkTree
import Rho.Store.Store

/-!
# Project files for plugins

`plugin_fs.rs`: a plugin asks for a file of the project by its relative path and is given bytes. The file system is a tree with links that
stands still during the call. Names are texts that are looked up as they are written, as on a volume that tells upper case from lower,
and what the system refuses is what is not there. On this system a path's identity is what its metadata says.
-/

namespace Rho.PluginFs

open LinkTree FileName

/-! ## Requests and results -/

def maxPluginFileReadBytes : Nat := 1024 * 1024

structure ProjectFsReadRequest where
  projectRelativePath : String
  maxBytes : Nat
  expectedProjectRevision : Nat
  deriving DecidableEq

structure ProjectFsReadResult where
  projectRelativePath : String
  mediaType : String
  contentEncoding : String
  content : String
  sizeBytes : Nat
  sha256 : String
  deriving DecidableEq

inductive ProjectFsReadErrorCode where
  | invalidProject | invalidPath | reservedPath | staleProject | symlinkOrReparse | nestedRepository | notRegularFile | outsideProject
  | tooLarge | fileChanged | ioFailed
  deriving DecidableEq, Repr

/-- `FileIdentity`. -/
structure FileIdentity where
  len : Nat
  modifiedNanos : Option Nat
  device : Nat
  inode : Nat
  deriving DecidableEq

abbrev ProjectFiles := FileSystem String FileIdentity

/-- `map_err` of what is not there. -/
def found {α : Type} (code : ProjectFsReadErrorCode) (x : Option α) : Except ProjectFsReadErrorCode α :=
  match x with
  | none => .error code
  | some a => .ok a

/-! ## Paths as texts -/

/-- `std::path::Component`, on this system. -/
inductive Component where
  | rootDir
  | curDir
  | parentDir
  | normal (name : List Char)
  deriving DecidableEq

/-- `Path::components`: empty names are passed over, and a dot that is not in front. -/
def components (path : List Char) : List Component :=
  (if path.head? = some '/' then [Component.rootDir] else []) ++
    (path.splitOn '/').zipIdx.filterMap fun s =>
      if s.1 = [] then none
      else if s.1 = ['.'] then (if s.2 = 0 then some .curDir else none)
      else if s.1 = ['.', '.'] then some .parentDir
      else some (.normal s.1)

/-- The names of a path that has no other components. -/
def normalNames : List Component → Except ProjectFsReadErrorCode (List (List Char))
  | [] => .ok []
  | .normal name :: rest =>
    if name = [] ∨ name = ['.'] ∨ name = ['.', '.'] then .error .invalidPath else do return name :: (← normalNames rest)
  | _ :: _ => .error .invalidPath

def validateRelativePath (value : String) : Except ProjectFsReadErrorCode (List String) :=
  let text := value.toList
  if value.isEmpty || decide (4096 < value.utf8ByteSize) || text.head? == some '/' || text.head? == some '\\' || text.contains '\\' ||
      text.contains ':' || text.any isControl then .error .invalidPath
  else do
    let names ← normalNames (components text)
    if names.isEmpty || ['/'].intercalate names != text then .error .invalidPath
    else return names.map String.ofList

def reservedFirst : List String := [".git", ".rho", ".ssh", ".gnupg", ".aws", ".azure"]

def reservedLast : List String :=
  [".env", ".renviron", "id_rsa", "id_ed25519", "id_ecdsa", "id_dsa", "known_hosts", "authorized_keys"]

def reservedSuffixes : List String := [".pem", ".key", ".p12", ".pfx"]

def reservedPairs : List (String × String) :=
  [("library", "keychains"), ("microsoft", "credentials"), ("microsoft", "protect"), (".config", "gcloud")]

def reservedPath (components : List String) : Bool :=
  let lower := components.map toAsciiLowercase
  let first := lower.head?.getD ""
  let last := lower.getLast?.getD ""
  reservedFirst.contains first || reservedLast.contains last || ".env.".toList.isPrefixOf last.toList ||
    reservedSuffixes.any (fun suffix => suffix.toList.isSuffixOf last.toList) ||
    (lower.zip lower.tail).any (fun pair => reservedPairs.contains pair)

/-- The media type by the extension of the file. -/
def mediaType (name : String) : String :=
  match (extension name).map toAsciiLowercase with
  | some "csv" => "text/csv"
  | some "tsv" => "text/tab-separated-values"
  | some "json" => "application/json"
  | some "r" => "text/x-r"
  | some "rmd" => "text/x-r-markdown"
  | some "qmd" | some "md" => "text/markdown"
  | some "txt" | some "log" => "text/plain"
  | _ => "application/octet-stream"

/-! ## Paths in the file system -/

/-- The route of a path. -/
def routeOf (path : String) : Route String where
  absolute := path.toList.head? = some '/'
  comps :=
    if path.isEmpty then []
    else (path.toList.splitOn '/').map fun s =>
      if s = [] ∨ s = ['.'] then .here else if s = ['.', '.'] then .up else .child (String.ofList s)

/-- The text of a canonical path. -/
def placeText (place : Place String) : String := "/" ++ "/".intercalate place

/-- The metadata of the project's root with its canonical path. -/
def openRoot (fs : ProjectFiles) (trustedProjectRoot : String) : Except ProjectFsReadErrorCode (FileIdentity × Place String) := do
  let metadata ← found .invalidProject (fs.symlinkMetadata (routeOf trustedProjectRoot))
  if !metadata.isDir || metadata.isLink then .error .invalidProject
  else do
    let canonicalRoot ← found .invalidProject (fs.canonicalize (routeOf trustedProjectRoot))
    if normalizeProjectRoot trustedProjectRoot ≠ normalizeProjectRoot (placeText canonicalRoot) then .error .invalidProject
    else return (metadata.info, canonicalRoot)

/-- The loop over the components of the path. -/
def walkComponents (fs : ProjectFiles) : Route String → List String → Except ProjectFsReadErrorCode (Route String)
  | current, [] => .ok current
  | current, component :: rest => do
    let current := current.push component
    let metadata ← found .ioFailed (fs.symlinkMetadata current)
    if metadata.isLink then .error .symlinkOrReparse
    else if rest.isEmpty then if !metadata.isFile then .error .notRegularFile else .ok current
    else if !metadata.isDir then .error .notRegularFile
    else if (fs.symlinkMetadata (current.push ".git")).isSome then .error .nestedRepository
    else walkComponents fs current rest

/-- `take` and `read_to_end` of what is open. -/
def readUpTo (limit : Nat) : Node String FileIdentity → Option (List UInt8)
  | .file _ bytes => some (bytes.take limit)
  | _ => none

/-- The file is opened, found to be what stood at its path, and read. -/
def readOpened (fs : ProjectFiles) (canonicalRoot : Place String) (current : Route String) (maxBytes : Nat) :
    Except ProjectFsReadErrorCode (FileIdentity × Place String × Node String FileIdentity × List UInt8) := do
  let beforePath ← found .ioFailed (fs.symlinkMetadata current)
  let canonicalFile ← found .ioFailed (fs.canonicalize current)
  if !canonicalRoot.isPrefixOf canonicalFile then .error .outsideProject
  else do
    let file ← found .ioFailed (fs.open_ current)
    if file.info ≠ beforePath.info then .error .fileChanged
    else do
      let bytes ← found .ioFailed (readUpTo (maxBytes + 1) file)
      if maxBytes < bytes.length then .error .tooLarge
      else return (beforePath.info, canonicalFile, file, bytes)

/-- What is compared after the read. -/
def checkUnchanged (fs : ProjectFiles) (trustedProjectRoot : String) (rootIdentity : FileIdentity) (canonicalRoot : Place String)
    (current : Route String) (beforeFile : FileIdentity) (canonicalFile : Place String) (file : Node String FileIdentity) :
    Except ProjectFsReadErrorCode Unit := do
  let afterPath ← found .fileChanged (fs.symlinkMetadata current)
  let afterRoot ← found .fileChanged (fs.symlinkMetadata (routeOf trustedProjectRoot))
  let afterCanonicalRoot ← found .fileChanged (fs.canonicalize (routeOf trustedProjectRoot))
  let afterCanonicalFile ← found .fileChanged (fs.canonicalize current)
  if file.info ≠ beforeFile ∨ afterPath.info ≠ beforeFile ∨ afterRoot.info ≠ rootIdentity ∨ afterCanonicalRoot ≠ canonicalRoot ∨
      afterCanonicalFile ≠ canonicalFile ∨ !afterCanonicalRoot.isPrefixOf afterCanonicalFile then .error .fileChanged
  else .ok ()

section

variable (sha256 : List UInt8 → Vector UInt8 32)

/-- `read_project_file`. -/
def readProjectFile (fs : ProjectFiles) (trustedProjectRoot : String) (currentProjectRevision : Nat) (request : ProjectFsReadRequest) :
    Except ProjectFsReadErrorCode ProjectFsReadResult :=
  if request.expectedProjectRevision ≠ currentProjectRevision then .error .staleProject
  else if request.maxBytes = 0 ∨ maxPluginFileReadBytes < request.maxBytes then .error .tooLarge
  else do
    let components ← validateRelativePath request.projectRelativePath
    if reservedPath components then .error .reservedPath
    else do
      let (rootIdentity, canonicalRoot) ← openRoot fs trustedProjectRoot
      let current ← walkComponents fs (routeOf trustedProjectRoot) components
      let (beforeFile, canonicalFile, file, bytes) ← readOpened fs canonicalRoot current request.maxBytes
      let () ← checkUnchanged fs trustedProjectRoot rootIdentity canonicalRoot current beforeFile canonicalFile file
      return {
        projectRelativePath := request.projectRelativePath
        mediaType := mediaType (components.getLast?.getD "")
        contentEncoding := "base64"
        content := String.ofList (Base64.encode bytes)
        sizeBytes := bytes.length
        sha256 := hexEncode (sha256 bytes).toList }

end

end Rho.PluginFs
