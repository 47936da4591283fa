import Rho.Extension.Package
import Rho.Store.PluginPermission

/-!
# Inspection of workspace objects by plugins

`plugin_workspace.rs`: a plugin holds opaque references to objects of the R workspace. They are issued from a snapshot; an inspection
is prepared from a reference, dispatched by the caller, and finished with the response. The ids and times of the references come from
outside.
-/

namespace Rho

open Json

def maxWorkspaceObjectReferences : Nat := 512
def maxWorkspaceSnapshotObjects : Nat := 200
def maxWorkspaceMetadataBytes : Nat := 64 * 1024
def maxWorkspacePreviewBytes : Nat := 256 * 1024
def maxWorkspacePreviewRows : Nat := 100
def maxWorkspacePreviewColumns : Nat := 50
def maxWorkspacePreviewDepth : Nat := 4

structure WorkspaceInspectionContext where
  projectRoot : String
  workspace : WorkspaceIdentity
  deriving DecidableEq

structure WorkspaceObjectReferenceView where
  referenceId : String
  name : String
  classes : List String
  objectType : String
  previewKind : String
  issuedAtMillis : Nat
  deriving DecidableEq

structure WorkspaceObjectReferenceRecord where
  view : WorkspaceObjectReferenceView
  projectRoot : String
  workspace : WorkspaceIdentity
  objectIdentityDigest : String
  deriving DecidableEq

inductive WorkspaceInspectOperation where
  | metadata | preview
  deriving DecidableEq, Repr

structure WorkspaceInspectRequest where
  objectReference : String
  operation : WorkspaceInspectOperation
  deriving DecidableEq

/-- The caller may change the first four fields before it finishes the inspection. -/
structure PreparedWorkspaceInspection where
  referenceId : String
  requestType : String
  arguments : Json
  expectedWorkspace : ExpectedWorkspace
  operation : WorkspaceInspectOperation
  record : WorkspaceObjectReferenceRecord
  deriving DecidableEq

inductive WorkspaceInspectErrorCode where
  | invalidProject | invalidSnapshot | referenceLimit | unknownReference | staleWorkspace | objectChanged | malformedResult
  | resultTooLarge
  deriving DecidableEq, Repr

/-! ## Checks -/

def sameWorkspaceLineage (left right : WorkspaceIdentity) : Bool :=
  decide (left.workspaceId = right.workspaceId) && decide (left.kernelInstanceId = right.kernelInstanceId) &&
    decide (left.stateRevision = right.stateRevision) && decide (left.projectRevision = right.projectRevision)

def validateContext (context : WorkspaceInspectionContext) : Except WorkspaceInspectErrorCode Unit :=
  if context.projectRoot.isEmpty || context.projectRoot == "legacy_unscoped" || context.projectRoot.toList.any (· == '\\') ||
      normalizeProjectRoot context.projectRoot != context.projectRoot || context.workspace.workspaceId.isEmpty ||
      context.workspace.kernelInstanceId.isEmpty then .error .invalidProject
  else .ok ()

/-- The derived reader of a workspace identity. -/
def WorkspaceIdentity.ofJson (value : Json) : Option WorkspaceIdentity := do
  match ← Serde.fields false ["workspace_id", "kernel_instance_id", "execution_seq", "state_revision", "project_revision"] value with
  | [workspaceId, kernelInstanceId, executionSeq, stateRevision, projectRevision] =>
    some ⟨← Serde.required Serde.string workspaceId, ← Serde.required Serde.string kernelInstanceId,
      ← Serde.required Serde.u64 executionSeq, ← Serde.required Serde.u64 stateRevision,
      ← Serde.required Serde.u64 projectRevision⟩
  | _ => none

def decodeWorkspace (response : Json) : Except WorkspaceInspectErrorCode WorkspaceIdentity :=
  match (response.get "workspace").bind WorkspaceIdentity.ofJson with
  | some workspace => .ok workspace
  | none => .error .malformedResult

/-- The part of a response that describes the execution: the response itself when it has no object for it. -/
def executionOf (response : Json) : Json :=
  match response.get "execution" with
  | some (.obj fields) => .obj fields
  | _ => response

/-- `bounded_string`. -/
def boundedString (value : Option Json) (maximum : Nat) : Except WorkspaceInspectErrorCode String :=
  match value.bind asStr with
  | some text =>
    if !text.isEmpty && decide (text.utf8ByteSize ≤ maximum) && !text.toList.any isControl &&
        !text.toList.any PluginPermission.isBidiOverride then .ok text
    else .error .malformedResult
  | none => .error .malformedResult

/-- What an object is known by. -/
structure ObjectDescriptor where
  name : String
  classes : List String
  objectType : String
  previewKind : String
  deriving DecidableEq

/-- What is hashed of a descriptor. -/
def ObjectDescriptor.identity (d : ObjectDescriptor) : Json :=
  .obj [("classes", .arr (d.classes.map .str)), ("name", .str d.name), ("preview_kind", .str d.previewKind),
    ("typeof", .str d.objectType)]

def decodeClasses : Option Json → Except WorkspaceInspectErrorCode (List String)
  | some (.str cls) => do return [← boundedString (some (.str cls)) 256]
  | some (.arr classes) => classes.mapM (fun value => boundedString (some value) 256)
  | _ => .error .malformedResult

/-- `decode_object_descriptor`, less the digest. -/
def decodeObjectDescriptor (value : Json) : Except WorkspaceInspectErrorCode ObjectDescriptor := do
  let name ← boundedString (value.get "name") 256
  let classes ← decodeClasses (value.get "classes")
  if 32 < classes.length then .error .malformedResult
  else
    let objectType ← boundedString (value.get "typeof") 128
    let previewKind ← boundedString (value.get "preview_kind") 128
    .ok ⟨name, classes, objectType, previewKind⟩

mutual

/-- `validate_preview`. -/
def validatePreview (depth : Nat) (value : Json) : Except WorkspaceInspectErrorCode Unit :=
  if maxWorkspacePreviewDepth < depth then .error .resultTooLarge
  else
    match value with
    | .arr values => if maxWorkspacePreviewRows < values.length then .error .resultTooLarge else validatePreviewList (depth + 1) values
    | .obj fields =>
      if maxWorkspacePreviewColumns < fields.length then .error .resultTooLarge else validatePreviewFields (depth + 1) fields
    | .str text => if 64 * 1024 < text.utf8ByteSize then .error .resultTooLarge else .ok ()
    | _ => .ok ()

def validatePreviewList (depth : Nat) : List Json → Except WorkspaceInspectErrorCode Unit
  | [] => .ok ()
  | value :: values =>
    match validatePreview depth value with
    | .error e => .error e
    | .ok () => validatePreviewList depth values

def validatePreviewFields (depth : Nat) : List (String × Json) → Except WorkspaceInspectErrorCode Unit
  | [] => .ok ()
  | (key, value) :: fields =>
    if 512 < key.utf8ByteSize ∨ key.toList.any isControl = true then .error .malformedResult
    else
      match validatePreview depth value with
      | .error e => .error e
      | .ok () => validatePreviewFields depth fields

end

/-! ## The registry -/

section Registry

variable (sha256 : List UInt8 → Vector UInt8 32)

/-- The digest of a descriptor. -/
def ObjectDescriptor.digest (d : ObjectDescriptor) : String := hexEncode (sha256 (bytesOf d.identity.toText)).toList

abbrev WorkspaceObjectReferenceRegistry := List (String × WorkspaceObjectReferenceRecord)

/-- What the id source and the clock give for the objects of one snapshot. -/
structure ReferenceSources where
  nextId : Nat → Vector UInt8 16
  nowMillis : Nat → Nat

namespace WorkspaceObjectReferenceRegistry

variable (registry : WorkspaceObjectReferenceRegistry)

/-- Two neighbours have one name. -/
def repeatsName : List ObjectDescriptor → Bool
  | a :: b :: decoded => decide (a.name = b.name) || repeatsName (b :: decoded)
  | _ => false

/-- The loop over the objects of a snapshot, the records staged so far being given. -/
def stage (context : WorkspaceInspectionContext) (sources : ReferenceSources) (staged : WorkspaceObjectReferenceRegistry) :
    List ObjectDescriptor → Except WorkspaceInspectErrorCode WorkspaceObjectReferenceRegistry
  | [] => .ok staged
  | d :: decoded =>
    let referenceId := "object." ++ hexEncode (sources.nextId staged.length).toList
    if (OrdMap.get registry referenceId).isSome || decide (referenceId ∈ staged.map (·.1)) then .error .referenceLimit
    else
      let view : WorkspaceObjectReferenceView := {
        referenceId := referenceId
        name := d.name
        classes := d.classes
        objectType := d.objectType
        previewKind := d.previewKind
        issuedAtMillis := sources.nowMillis staged.length }
      stage context sources (staged ++ [(referenceId, ⟨view, context.projectRoot, context.workspace, d.digest sha256⟩)]) decoded

/-- The records that a snapshot gives rise to. -/
def stageSnapshot (context : WorkspaceInspectionContext) (sources : ReferenceSources) (snapshotResponse : Json) :
    Except WorkspaceInspectErrorCode WorkspaceObjectReferenceRegistry := do
  validateContext context
  let workspace ← decodeWorkspace snapshotResponse
  if !sameWorkspaceLineage workspace context.workspace then .error .staleWorkspace
  else
    match ((executionOf snapshotResponse).get "objects").bind asArray with
    | none => .error .invalidSnapshot
    | some objects =>
      if maxWorkspaceSnapshotObjects < objects.length ∨ maxWorkspaceObjectReferences < registry.length + objects.length then
        .error .referenceLimit
      else
        let decoded ← objects.mapM decodeObjectDescriptor
        let decoded := decoded.insertionSort (fun left right => left.name ≤ right.name)
        if repeatsName decoded then .error .invalidSnapshot else stage sha256 registry context sources [] decoded

def issueFromSnapshot (context : WorkspaceInspectionContext) (sources : ReferenceSources) (snapshotResponse : Json) :
    Except WorkspaceInspectErrorCode (List WorkspaceObjectReferenceView) × WorkspaceObjectReferenceRegistry :=
  match registry.stageSnapshot sha256 context sources snapshotResponse with
  | .error e => (.error e, registry)
  | .ok staged => (.ok (staged.map (·.2.view)), staged.foldl (fun registry e => OrdMap.insert e.1 e.2 registry) registry)

def prepare (context : WorkspaceInspectionContext) (request : WorkspaceInspectRequest) :
    Except WorkspaceInspectErrorCode PreparedWorkspaceInspection := do
  validateContext context
  match OrdMap.get registry request.objectReference with
  | none => .error .unknownReference
  | some record =>
    if record.projectRoot ≠ context.projectRoot ∨ sameWorkspaceLineage record.workspace context.workspace = false then
      .error .staleWorkspace
    else
      .ok {
        referenceId := request.objectReference
        requestType := "workspace.inspect_object"
        arguments := .obj [("name", .str record.view.name)]
        expectedWorkspace := ⟨some context.workspace.kernelInstanceId, some context.workspace.stateRevision,
          some context.workspace.projectRevision⟩
        operation := request.operation
        record := record }

/-- The keys that are always projected. -/
def projectedKeys : List String := ["ok", "name", "classes", "dimensions", "size_bytes", "typeof", "preview_kind"]

/-- The keys that a preview adds. -/
def previewKeys : List String := ["preview", "structure"]

/-- The projection of some keys of a value. -/
def project (execution : Json) (keys : List String) (projected : List (String × Json)) : List (String × Json) :=
  keys.foldl (fun projected key =>
    match execution.get key with
    | some value => OrdMap.insert key value projected
    | none => projected) projected

/-- The checks of the previews that are there. -/
def validatePreviews (execution : Json) : List String → Except WorkspaceInspectErrorCode Unit
  | [] => .ok ()
  | key :: keys =>
    match execution.get key with
    | none => validatePreviews execution keys
    | some value =>
      match validatePreview 0 value with
      | .error e => .error e
      | .ok () => validatePreviews execution keys

/-- The registry is an argument of the source, which does not read it. -/
def finish (context : WorkspaceInspectionContext) (prepared : PreparedWorkspaceInspection) (response : Json) :
    Except WorkspaceInspectErrorCode Json := do
  validateContext context
  if prepared.record.projectRoot ≠ context.projectRoot ∨
      sameWorkspaceLineage prepared.record.workspace context.workspace = false ∨
      prepared.referenceId ≠ prepared.record.view.referenceId then .error .staleWorkspace
  else
    let workspace ← decodeWorkspace response
    if !sameWorkspaceLineage workspace context.workspace then .error .staleWorkspace
    else
      let execution := executionOf response
      let descriptor ← decodeObjectDescriptor execution
      if descriptor.digest sha256 ≠ prepared.record.objectIdentityDigest then .error .objectChanged
      else
        let projected := project execution projectedKeys []
        match prepared.operation with
        | .metadata =>
          let value := Json.obj projected
          if maxWorkspaceMetadataBytes < value.toText.utf8ByteSize then .error .resultTooLarge else .ok value
        | .preview =>
          validatePreviews execution previewKeys
          let value := Json.obj (project execution previewKeys projected)
          if maxWorkspacePreviewBytes < value.toText.utf8ByteSize then .error .resultTooLarge else .ok value

/-- The records that are kept, and how many are not. -/
def retain (keep : WorkspaceObjectReferenceRecord → Bool) : Nat × WorkspaceObjectReferenceRegistry :=
  let kept := registry.filter (fun e => keep e.2)
  (registry.length - kept.length, kept)

def invalidateProject (projectRoot : String) : Nat × WorkspaceObjectReferenceRegistry :=
  registry.retain (fun record => decide (record.projectRoot ≠ projectRoot))

def invalidateWorkspace (workspace : WorkspaceIdentity) : Nat × WorkspaceObjectReferenceRegistry :=
  registry.retain (fun record => decide (record.workspace ≠ workspace))

def listForContext (context : WorkspaceInspectionContext) : List WorkspaceObjectReferenceView :=
  ((registry.map (·.2)).filter (fun record => decide (record.projectRoot = context.projectRoot) &&
    sameWorkspaceLineage record.workspace context.workspace)).map (·.view)

end WorkspaceObjectReferenceRegistry

end Registry

end Rho
