import Mathlib.Data.List.Infix
import Mathlib.Data.Prod.Lex
import Rho.Extension.Grant
import Rho.Extension.JsonSchema
import Rho.Lib.Effect

/-!
# Contributions

What a plugin contributes to a project, and the store of what is published (`contribution.rs`). A publication replaces all
contributions of a plugin at once, against the identity that the publisher expects to be there. The store does not keep that
identity; it reads it off the records.
-/

namespace Rho

open Effect

def maxContributionsPerProject : Nat := 256
def maxContributionsPerPackage : Nat := 32
def maxContributionLabelBytes : Nat := 128
def maxContributionPurposeBytes : Nat := 1024
def maxContributionMediaTypes : Nat := 16
def maxContributionMediaTypeBytes : Nat := 128
def pluginDetailsPanelSlot : String := "plugin_details"

/-! ## Declarations -/

inductive ContributionKind where
  | command | viewer | source | tool | skill | panel
  deriving DecidableEq, Repr

namespace ContributionKind

/-- The prefixes of capability ids, in the order in which they are tried. -/
def prefixes : List (String × ContributionKind) :=
  [("ui.command.", .command), ("ui.viewer.", .viewer), ("source.", .source), ("tool.", .tool), ("skill.", .skill),
    ("ui.panel.", .panel)]

/-- The kind of the first prefix that fits; nothing after the prefix is no kind. -/
def parse (value : String) : Option ContributionKind :=
  match prefixes.find? (fun p => p.1.toList.isPrefixOf value.toList) with
  | some (found, kind) => if value.length = found.length then none else some kind
  | none => none

/-- The name in debug output. -/
def debug : ContributionKind → String
  | command => "Command"
  | viewer => "Viewer"
  | source => "Source"
  | tool => "Tool"
  | skill => "Skill"
  | panel => "Panel"

end ContributionKind

structure ContributionDeclaration where
  id : CapabilityId
  kind : ContributionKind
  contractMajor : Nat
  label : String
  purpose : String
  inputSchema : Option BoundedJsonSchema
  outputSchema : Option BoundedJsonSchema
  mediaTypes : List String
  skillPath : Option String
  panelSlot : Option String
  deriving DecidableEq

/-- A condition, or the text that it has failed. -/
def ensureText (condition : Bool) (reason : String) : Except String Unit := if condition then .ok () else .error reason

def holdsText (text part : String) : Bool := decide (part.toList <:+: text.toList)

def linkMarkers : List String := ["http://", "https://", "file://", "data:", "www."]

def reservedTerms : List String := ["approval", "credential", "password", "updater", "security alert", "system dialog"]

/-- `validate_untrusted_text`, with the lower-case form of a text. -/
def validateUntrustedText (toLowercase : String → String) (value : String) (maximumBytes : Nat) (field : String) :
    Except String Unit := do
  ensureText
    (!(value.isEmpty || trim value != value || decide (maximumBytes < value.utf8ByteSize) || value.toList.any isControl ||
      containsBidiOverride value))
    ("contribution " ++ field ++ " is empty, oversized, or contains unsafe controls")
  ensureText
    (!(value.toList.any (fun c => c == '<' || c == '>' || c == '\x60') || holdsText value "![" || holdsText value "](" ||
      linkMarkers.any (holdsText (toLowercase value))))
    ("contribution " ++ field ++ " must be plain text without markup or URLs")
  ensureText (!reservedTerms.any (holdsText (toLowercase value)))
    ("contribution " ++ field ++ " uses reserved trusted-surface terminology")

/-- A media type with one slash between two parts, in lower case and without wildcards and parameters. -/
def validMediaType (mediaType : String) : Bool :=
  !mediaType.isEmpty && decide (mediaType.utf8ByteSize ≤ maxContributionMediaTypeBytes) &&
    !mediaType.toList.contains '*' && !mediaType.toList.contains ';' && mediaType.toList.count '/' == 1 &&
    mediaType.toList.head? != some '/' && mediaType.toList.getLast? != some '/' &&
    mediaType.toList.all fun c => c.isLower || c.isDigit || c == '/' || c == '+' || c == '.' || c == '-'

def validateMediaTypesFrom : List String → List String → Except String Unit
  | _, [] => .ok ()
  | seen, mediaType :: rest => do
    ensureText (validMediaType mediaType && !seen.contains mediaType) ("invalid or duplicate media type: " ++ mediaType)
    validateMediaTypesFrom (mediaType :: seen) rest

def validateMediaTypes (mediaTypes : List String) : Except String Unit := do
  ensureText (decide (mediaTypes.length ≤ maxContributionMediaTypes)) "mediaTypes exceed 16 entries"
  validateMediaTypesFrom [] mediaTypes

namespace ContributionDeclaration

/-- What each kind must and may declare. -/
def validateKind (d : ContributionDeclaration) : Except String Unit :=
  let hasCallSchemas := d.inputSchema.isSome && d.outputSchema.isSome
  match d.kind with
  | .tool | .source | .command | .viewer => do
    ensureText hasCallSchemas ("contribution " ++ d.id.value ++ " requires call schemas")
    ensureText (!(d.skillPath.isSome || d.panelSlot.isSome))
      ("contribution " ++ d.id.value ++ " declares fields owned by another kind")
    ensureText (!(decide (d.kind ≠ .viewer) && !d.mediaTypes.isEmpty))
      ("contribution " ++ d.id.value ++ " cannot declare mediaTypes")
  | .panel =>
    ensureText
      (!(!hasCallSchemas || decide (d.panelSlot ≠ some pluginDetailsPanelSlot) || d.skillPath.isSome || !d.mediaTypes.isEmpty))
      ("panel " ++ d.id.value ++ " requires call schemas and panelSlot=plugin_details")
  | .skill =>
    ensureText (!(d.skillPath.isNone || hasCallSchemas || d.panelSlot.isSome || !d.mediaTypes.isEmpty))
      ("skill " ++ d.id.value ++ " must declare only skillPath metadata")

def validateShape (toLowercase : String → String) (d : ContributionDeclaration) : Except String Unit := do
  ensureText (d.contractMajor != 0) "contribution contractMajor must be positive"
  ensureText (decide (ContributionKind.parse d.id.value = some d.kind))
    ("contribution " ++ d.id.value ++ " does not match kind " ++ d.kind.debug)
  validateUntrustedText toLowercase d.label maxContributionLabelBytes "label"
  validateUntrustedText toLowercase d.purpose maxContributionPurposeBytes "purpose"
  validateMediaTypes d.mediaTypes
  ensureText (d.inputSchema.isSome == d.outputSchema.isSome) "inputSchema and outputSchema must be declared together"
  d.validateKind

end ContributionDeclaration

/-! ## Contributions -/

inductive ContributionError where
  | duplicate | unknown | wrongProject | wrongOwner | staleGeneration | wrongHostSession | invalid | limitExceeded
  | expectedOldMismatch
  deriving DecidableEq, Repr

structure Contribution where
  capability : CapabilityId
  kind : ContributionKind
  contractMajor : Nat
  label : String
  purpose : String
  inputSchema : Option BoundedJsonSchema
  outputSchema : Option BoundedJsonSchema
  mediaTypes : List String
  skillPath : Option String
  panelSlot : Option String
  deriving DecidableEq

namespace Contribution

def fromDeclaration (toLowercase : String → String) (d : ContributionDeclaration) : Except ContributionError Contribution :=
  match d.validateShape toLowercase with
  | .error _ => .error .invalid
  | .ok _ =>
    .ok
      { capability := d.id
        kind := d.kind
        contractMajor := d.contractMajor
        label := d.label
        purpose := d.purpose
        inputSchema := d.inputSchema
        outputSchema := d.outputSchema
        mediaTypes := d.mediaTypes
        skillPath := d.skillPath
        panelSlot := d.panelSlot }

/-- The declaration that a contribution comes from. -/
def declaration (c : Contribution) : ContributionDeclaration where
  id := c.capability
  kind := c.kind
  contractMajor := c.contractMajor
  label := c.label
  purpose := c.purpose
  inputSchema := c.inputSchema
  outputSchema := c.outputSchema
  mediaTypes := c.mediaTypes
  skillPath := c.skillPath
  panelSlot := c.panelSlot

def isValid (toLowercase : String → String) (c : Contribution) : Bool := (c.declaration.validateShape toLowercase).isOk

end Contribution

structure ContributionInstanceIdentity where
  projectId : ScopeId
  pluginId : PluginId
  packageDigest : PackageDigest
  activationGeneration : ActivationGeneration
  hostInstanceId : HostInstanceId
  deriving DecidableEq

structure ContributionRecord where
  contribution : Contribution
  pluginId : PluginId
  packageDigest : PackageDigest
  projectId : ScopeId
  activationGeneration : ActivationGeneration
  hostInstanceId : HostInstanceId
  deriving DecidableEq

/-- The instance that a record belongs to. -/
def ContributionRecord.identity (r : ContributionRecord) : ContributionInstanceIdentity :=
  ⟨r.projectId, r.pluginId, r.packageDigest, r.activationGeneration, r.hostInstanceId⟩

structure ContributionCandidate where
  identity : ContributionInstanceIdentity
  contributions : List Contribution
  deriving DecidableEq

/-! ## The store -/

/-- The exact project and capability. -/
abbrev ContributionKey := ScopeId ×ₗ CapabilityId

def ContributionRecord.key (r : ContributionRecord) : ContributionKey := toLex (r.projectId, r.contribution.capability)

/-- A map from project and capability: each record stands under its own. -/
structure ContributionStore where
  records : List (ContributionKey × ContributionRecord)
  sorted : OrdMap.Sorted records
  keyed : ∀ e ∈ records, e.1 = e.2.key
  deriving DecidableEq

abbrev ContributionM := EStateM ContributionError ContributionStore

namespace ContributionStore

def new : ContributionStore := ⟨[], List.Pairwise.nil, fun _ h => absurd h List.not_mem_nil⟩

def values (s : ContributionStore) : List ContributionRecord := s.records.map (·.2)

/-- `BTreeMap::retain`. -/
def retain (s : ContributionStore) (keep : ContributionKey → ContributionRecord → Bool) : ContributionStore where
  records := s.records.filter (fun e => keep e.1 e.2)
  sorted := s.sorted.filter _
  keyed := fun e he => s.keyed e (List.mem_of_mem_filter he)

protected def insert (s : ContributionStore) (r : ContributionRecord) : ContributionStore where
  records := OrdMap.insert r.key r s.records
  sorted := OrdMap.sorted_insert r.key r s.sorted
  keyed := by
    intro e he
    rcases OrdMap.mem_insert he with rfl | he
    · rfl
    · exact s.keyed e he

protected def get (s : ContributionStore) (projectId : ScopeId) (capability : CapabilityId) : Option ContributionRecord :=
  OrdMap.get s.records (toLex (projectId, capability))

/-- The contributions of declarations, after those with the ids seen. -/
def stageFrom (toLowercase : String → String) :
    List CapabilityId → List ContributionDeclaration → Except ContributionError (List Contribution)
  | _, [] => .ok []
  | seen, d :: rest =>
    if d.id ∈ seen then .error .duplicate
    else do
      let contribution ← Contribution.fromDeclaration toLowercase d
      let contributions ← stageFrom toLowercase (d.id :: seen) rest
      return contribution :: contributions

def stage (toLowercase : String → String) (identity : ContributionInstanceIdentity) (declarations : List ContributionDeclaration) :
    Except ContributionError ContributionCandidate :=
  if maxContributionsPerPackage < declarations.length then .error .limitExceeded
  else do
    let contributions ← stageFrom toLowercase [] declarations
    return ⟨identity, contributions⟩

/-- The identity of the records read so far, with that of one more record. -/
def mergeIdentity (identity : Option ContributionInstanceIdentity) (r : ContributionRecord) :
    Except ContributionError (Option ContributionInstanceIdentity) :=
  if identity.any (fun i => i ≠ r.identity) then .error .invalid else .ok (some r.identity)

/-- `current_identity`: that of the records of the plugin in the project, if they all have one. -/
def currentIdentity (s : ContributionStore) (projectId : ScopeId) (pluginId : PluginId) :
    Except ContributionError (Option ContributionInstanceIdentity) :=
  (s.values.filter (fun r => r.projectId = projectId ∧ r.pluginId = pluginId)).foldlM mergeIdentity none

/-- The record of a contribution of an instance. -/
def recordOf (identity : ContributionInstanceIdentity) (contribution : Contribution) : ContributionRecord where
  contribution := contribution
  pluginId := identity.pluginId
  packageDigest := identity.packageDigest
  projectId := identity.projectId
  activationGeneration := identity.activationGeneration
  hostInstanceId := identity.hostInstanceId

def register (toLowercase : String → String) (identity : ContributionInstanceIdentity) (contribution : Contribution) :
    ContributionM Unit := do
  let s ← get
  if !contribution.isValid toLowercase then throw .invalid
  else if maxContributionsPerProject ≤ (s.records.filter (fun e => (ofLex e.1).1 = identity.projectId)).length then
    throw .limitExceeded
  else if (s.get identity.projectId contribution.capability).isSome then throw .duplicate
  else set (s.insert (recordOf identity contribution))

/-- The contributions of one instance, one after the other. -/
def registerAll (toLowercase : String → String) (identity : ContributionInstanceIdentity) : List Contribution → ContributionM Unit
  | [] => pure ()
  | contribution :: rest => do
    register toLowercase identity contribution
    registerAll toLowercase identity rest

/-- What a publication keeps: the records of other plugins and other projects. -/
def isOther (projectId : ScopeId) (pluginId : PluginId) (key : ContributionKey) (r : ContributionRecord) : Bool :=
  decide ((ofLex key).1 ≠ projectId) || decide (r.pluginId ≠ pluginId)

/-- `publish`: the new records are made on a clone, which takes the place of the store at the end. -/
def publish (toLowercase : String → String) (candidate : ContributionCandidate)
    (expectedOld : Option ContributionInstanceIdentity) : ContributionM (Option ContributionInstanceIdentity) := do
  let s ← get
  let current ← ofResult (s.currentIdentity candidate.identity.projectId candidate.identity.pluginId)
  if current ≠ expectedOld then throw .expectedOldMismatch
  else
    match registerAll toLowercase candidate.identity candidate.contributions
      (s.retain (isOther candidate.identity.projectId candidate.identity.pluginId)) with
    | .ok _ next =>
      set next
      return current
    | .error e _ => throw e

def clearInstance (identity : ContributionInstanceIdentity) (s : ContributionStore) : ContributionStore :=
  s.retain (fun key r => (ofLex key).1 ≠ identity.projectId || r.pluginId ≠ identity.pluginId ||
    r.packageDigest ≠ identity.packageDigest || r.activationGeneration ≠ identity.activationGeneration ||
    r.hostInstanceId ≠ identity.hostInstanceId)

def unpublish (identity : ContributionInstanceIdentity) : ContributionM Unit := do
  let s ← get
  let current ← ofResult (s.currentIdentity identity.projectId identity.pluginId)
  if current ≠ some identity then throw .expectedOldMismatch else modify (clearInstance identity)

def clearProject (projectId : ScopeId) (s : ContributionStore) : ContributionStore :=
  s.retain (fun key _ => (ofLex key).1 ≠ projectId)

/-- `remove`, of a record of the instance. -/
def remove (identity : ContributionInstanceIdentity) (capability : CapabilityId) : ContributionM Unit := do
  let s ← get
  match s.get identity.projectId capability with
  | some r =>
    if r.pluginId ≠ identity.pluginId ∨ r.packageDigest ≠ identity.packageDigest then throw .wrongOwner
    else if r.activationGeneration ≠ identity.activationGeneration then throw .staleGeneration
    else if r.hostInstanceId ≠ identity.hostInstanceId then throw .wrongHostSession
    else set (s.retain (fun key _ => key ≠ toLex (identity.projectId, capability)))
  | none => if s.values.any (fun r => r.contribution.capability = capability) then throw .wrongProject else throw .unknown

end ContributionStore

inductive ContributionOp where
  | publish (candidate : ContributionCandidate) (expectedOld : Option ContributionInstanceIdentity)
  | unpublish (identity : ContributionInstanceIdentity)
  | clearProject (projectId : ScopeId)
  | clearInstance (identity : ContributionInstanceIdentity)
  | remove (identity : ContributionInstanceIdentity) (capability : CapabilityId)

def ContributionOp.run (toLowercase : String → String) : ContributionOp → ContributionM Unit
  | .publish candidate expectedOld => (fun _ => ()) <$> ContributionStore.publish toLowercase candidate expectedOld
  | .unpublish identity => ContributionStore.unpublish identity
  | .clearProject projectId => modify (ContributionStore.clearProject projectId)
  | .clearInstance identity => modify (ContributionStore.clearInstance identity)
  | .remove identity capability => ContributionStore.remove identity capability

/-- The store after an operation, whether it succeeds or not. -/
def ContributionStore.step (toLowercase : String → String) (s : ContributionStore) (op : ContributionOp) : ContributionStore :=
  final (op.run toLowercase s)

end Rho
