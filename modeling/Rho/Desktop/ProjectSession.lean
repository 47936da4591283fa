import Mathlib.Logic.Function.Basic
import Rho.Desktop.State

/-!
# Project sessions

`project.rs`: what was open in a project is kept in a file of its own, named after a hash of the path of the root as it is shown.
Accesses to the disk may fail, and a failed write leaves the file that was there.
-/

namespace Rho

structure PanelSizes where
  left : Option UInt32 := none
  right : Option UInt32 := none
  dock : Option UInt32 := none
  deriving DecidableEq

structure ProjectDocumentSession where
  path : String
  cursorStart : Nat
  cursorEnd : Nat
  draftContent : Option String
  deriving DecidableEq

structure ProjectSessionSnapshot where
  openDocuments : List ProjectDocumentSession := []
  closedDocuments : List ProjectDocumentSession := []
  activeDocument : Option String := none
  selectedAgentConversationId : Option String := none
  panels : PanelSizes := {}
  deriving DecidableEq

def maxAgentConversationIdBytes : Nat := 256

def validAgentConversationId (value : String) : Bool :=
  !value.isEmpty && decide (value.utf8ByteSize ≤ maxAgentConversationIdBytes) && trim value == value &&
    !value.toList.any isControl

/-- The conversation that is selected has an id that is one. -/
def ProjectSessionSnapshot.isValid (snapshot : ProjectSessionSnapshot) : Bool :=
  snapshot.selectedAgentConversationId.all validAgentConversationId

/-- What the derived serialization and the system's paths do: the text of a snapshot, the snapshot of a text and the text of a path,
with a replacement character for what is no text in it. -/
structure SessionCrates where
  toStringPretty : ProjectSessionSnapshot → String
  fromStr : String → Except String ProjectSessionSnapshot
  toStringLossy : List UInt8 → String

/-- The hash of FNV-1a with 64 bits. -/
def fnv1a (bytes : List UInt8) : UInt64 :=
  bytes.foldl (fun hash byte => (hash ^^^ byte.toUInt64) * 0x100000001b3) 0xcbf29ce484222325

/-- `{hash:016x}`. -/
def hexPadded (hash : UInt64) : String :=
  String.ofList ((List.range 16).map fun i => Json.hexDigit (hash.toNat / 16 ^ (15 - i) % 16))

namespace SessionCrates

variable (crates : SessionCrates)

def stableProjectKey (root : List UInt8) : String := hexPadded (fnv1a (displayPath (crates.toStringLossy root)).toUTF8.toList)

/-- `session_path`, in the directory of the sessions. -/
def sessionPath (root : List UInt8) : String := crates.stableProjectKey root ++ ".json"

end SessionCrates

/-- The files in the directory of the sessions. -/
abbrev SessionFiles := String → Option String

section Store

variable (crates : SessionCrates)

/-- `load_session`, where the directory is made and the file is read without a fault. -/
def loadSession (files : SessionFiles) (root : List UInt8) : Except String ProjectSessionSnapshot :=
  match files (crates.sessionPath root) with
  | none => .ok {}
  | some content => do
    let snapshot ← crates.fromStr content
    if snapshot.isValid then return snapshot else return { snapshot with selectedAgentConversationId := none }

/-- `save_session`. The fault is what the disk refuses, if it does. -/
def saveSession (files : SessionFiles) (root : List UInt8) (snapshot : ProjectSessionSnapshot) (fault : Option String) :
    Except String Unit × SessionFiles :=
  if snapshot.isValid = false then (.error "selected Agent Conversation ID is invalid", files)
  else
    match fault with
    | some message => (.error message, files)
    | none => (.ok (), Function.update files (crates.sessionPath root) (some (crates.toStringPretty snapshot)))

/-- One call of `save_session`. -/
structure SessionSave where
  root : List UInt8
  snapshot : ProjectSessionSnapshot
  fault : Option String

/-- The snapshot is saved. -/
def SessionSave.Saved (save : SessionSave) : Prop := save.snapshot.isValid = true ∧ save.fault = none

instance (save : SessionSave) : Decidable save.Saved := inferInstanceAs (Decidable (_ ∧ _))

def saveStep (files : SessionFiles) (save : SessionSave) : SessionFiles :=
  (saveSession crates files save.root save.snapshot save.fault).2

/-- The files after calls from an empty directory. -/
def sessionFiles (saves : List SessionSave) : SessionFiles := saves.foldl (saveStep crates) fun _ => none

end Store

end Rho
