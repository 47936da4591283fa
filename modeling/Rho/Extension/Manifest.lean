import Rho.Extension.Contribution
import Rho.Lib.Serde

/-!
# Manifests of plugins

The manifest that describes a plugin package (`manifest.rs`): how it is read from its bytes, the checks it must pass, the
descriptor that the resolver gets of it, and the constraints of the permissions it asks for. A manifest grants nothing.
-/

namespace Rho

def maxManifestBytes : Nat := 256 * 1024
def maxManifestProvides : Nat := 64
def maxManifestRequires : Nat := 64
def maxManifestOptional : Nat := 64
def maxManifestPermissions : Nat := 64
def maxPermissionConstraintItems : Nat := 64
def maxPermissionPurposeBytes : Nat := 1024
def maxPermissionBytes : Nat := 1024 * 1024
def maxRelativePathBytes : Nat := 1024
def manifestSchemaVersion : Nat := 2
def minManifestSchemaVersion : Nat := 1

/-! ## Errors -/

/-- The errors with which a manifest is refused; the text of a parse error is that of the JSON library. -/
inductive ManifestError where
  | manifestTooLarge (actualBytes maximumBytes : Nat)
  | manifestParse
  | unsupportedManifestSchema (actual supported : Nat)
  | manifestValidation (reason : String)
  | limitExceeded (limit : LimitKind) (pluginId : PluginId) (actual maximum : Nat)
  deriving DecidableEq

/-- A condition, or the reason that it has failed. -/
def ensureManifest (condition : Bool) (reason : String) : Except ManifestError Unit :=
  if condition then .ok () else .error (.manifestValidation reason)

theorem ensureManifest_ok {condition : Bool} {reason : String} {u : Unit} (h : ensureManifest condition reason = .ok u) :
    condition = true := by
  unfold ensureManifest at h
  split at h
  · next hcondition => exact hcondition
  · cases h

/-- A number of entries within its limit. -/
def ensureLimit (limit : LimitKind) (pluginId : PluginId) (actual maximum : Nat) : Except ManifestError Unit :=
  if maximum < actual then .error (.limitExceeded limit pluginId actual maximum) else .ok ()

def IdentifierKind.display : IdentifierKind → String
  | plugin => "plugin"
  | capability => "capability"
  | operation => "operation"
  | scopeKind => "scope_kind"
  | scope => "scope"

def IdentifierCharacterClass.debug : IdentifierCharacterClass → String
  | nonAscii => "NonAscii"
  | pathSeparator => "PathSeparator"
  | whitespace => "Whitespace"
  | control => "Control"
  | uppercase => "Uppercase"
  | otherAscii => "OtherAscii"

def IdentifierErrorReason.display : IdentifierErrorReason → String
  | empty => "empty"
  | tooLong actualBytes maxBytes => "too_long(" ++ toString actualBytes ++ "_bytes,max_" ++ toString maxBytes ++ "_bytes)"
  | invalidCharacter byteIndex cls => "invalid_character(" ++ cls.debug ++ ",byte_" ++ toString byteIndex ++ ")"

/-! ## The manifest -/

structure RuntimeDeclaration where
  kind : RuntimeKind
  entry : String
  scope : ScopeKindId
  deriving DecidableEq

structure ManifestProvide where
  capability : CapabilityId
  contractMajor : Nat
  path : Option String
  deriving DecidableEq

structure ManifestRequire where
  capability : CapabilityId
  contractMajor : Nat
  deriving DecidableEq

structure PermissionRequest where
  name : String
  purpose : Option String
  paths : List String
  operations : List String
  schemes : List String
  hosts : List String
  methods : List String
  maxBytes : Option Nat
  maxResponseBytes : Option Nat
  deriving DecidableEq

structure UiDeclaration where
  commands : List String
  viewers : List String
  deriving DecidableEq

structure WorkspacePluginManifest where
  schemaVersion : Nat
  id : PluginId
  name : String
  version : String
  apiVersion : String
  runtime : RuntimeDeclaration
  activation : List String
  provides : List ManifestProvide
  requires : List ManifestRequire
  optional : List ManifestRequire
  permissions : List PermissionRequest
  contributions : List ContributionDeclaration
  ui : Option UiDeclaration
  deriving DecidableEq

/-- What other crates compute: whether a text is a semantic version, the error of a text that is no requirement on versions, and
the lower-case form of a text. -/
structure ManifestCrates where
  isVersion : String → Bool
  requirementError : String → Option String
  toLowercase : String → String

/-! ## Reading -/

/-- The newtypes of identifiers read a string and check it. -/
def Identifier.read {kind : IdentifierKind} (value : Json) : Option (Identifier kind) := do
  let text ← Serde.string value
  if h : validateIdentifier text = none then some ⟨text, h⟩ else none

/-- `deserialize_contract_major`: a positive number, or the text of one. -/
def readContractMajor (value : Json) : Option Nat :=
  let number := match value with
    | .str text => Serde.parseU64 text
    | value => Serde.u64 value
  number.filter (0 < ·)

def RuntimeKind.read : Json → Option RuntimeKind := Serde.unitVariant [("web-worker", .webWorker), ("wasm", .wasm)]

def ContributionKind.read : Json → Option ContributionKind :=
  Serde.unitVariant [("command", .command), ("viewer", .viewer), ("source", .source), ("tool", .tool), ("skill", .skill),
    ("panel", .panel)]

def RuntimeDeclaration.read (value : Json) : Option RuntimeDeclaration :=
  match Serde.fields true ["kind", "entry", "scope"] value with
  | some [kind, entry, scope] => do
    return {
      kind := ← Serde.required RuntimeKind.read kind
      entry := ← Serde.required Serde.string entry
      scope := ← Serde.required Identifier.read scope }
  | _ => none

def ManifestProvide.read (value : Json) : Option ManifestProvide :=
  match Serde.fields true ["capability", "contract_major", "path"] value with
  | some [capability, contractMajor, path] => do
    return {
      capability := ← Serde.required Identifier.read capability
      contractMajor := ← Serde.required readContractMajor contractMajor
      path := ← Serde.optional Serde.string path }
  | _ => none

def ManifestRequire.read (value : Json) : Option ManifestRequire :=
  match Serde.fields true ["capability", "contract_major"] value with
  | some [capability, contractMajor] => do
    return {
      capability := ← Serde.required Identifier.read capability
      contractMajor := ← Serde.required readContractMajor contractMajor }
  | _ => none

/-- A list of texts, empty where it is absent. -/
def readTexts : Option Json → Option (List String) := Serde.withDefault (Serde.list Serde.string) []

def PermissionRequest.read (value : Json) : Option PermissionRequest :=
  match Serde.fields true
    ["name", "purpose", "paths", "operations", "schemes", "hosts", "methods", "maxBytes", "maxResponseBytes"] value with
  | some [name, purpose, paths, operations, schemes, hosts, methods, maxBytes, maxResponseBytes] => do
    return {
      name := ← Serde.required Serde.string name
      purpose := ← Serde.optional Serde.string purpose
      paths := ← readTexts paths
      operations := ← readTexts operations
      schemes := ← readTexts schemes
      hosts := ← readTexts hosts
      methods := ← readTexts methods
      maxBytes := ← Serde.optional Serde.u64 maxBytes
      maxResponseBytes := ← Serde.optional Serde.u64 maxResponseBytes }
  | _ => none

def UiDeclaration.read (value : Json) : Option UiDeclaration :=
  match Serde.fields true ["commands", "viewers"] value with
  | some [commands, viewers] => do
    return { commands := ← readTexts commands, viewers := ← readTexts viewers }
  | _ => none

section Read

variable {F : Type} [LinearOrder F] (num : Numbers F) (crates : ManifestCrates)

/-- A schema is read as a value, whose objects are maps, and is checked. -/
def BoundedJsonSchema.read (value : Json) : Option BoundedJsonSchema := (BoundedJsonSchema.new num value.normalize).toOption

def ContributionDeclaration.read (value : Json) : Option ContributionDeclaration :=
  match Serde.fields true
    ["id", "kind", "contractMajor", "label", "purpose", "inputSchema", "outputSchema", "mediaTypes", "skillPath", "panelSlot"]
    value with
  | some [id, kind, contractMajor, label, purpose, inputSchema, outputSchema, mediaTypes, skillPath, panelSlot] => do
    return {
      id := ← Serde.required Identifier.read id
      kind := ← Serde.required ContributionKind.read kind
      contractMajor := ← Serde.required readContractMajor contractMajor
      label := ← Serde.required Serde.string label
      purpose := ← Serde.required Serde.string purpose
      inputSchema := ← Serde.optional (BoundedJsonSchema.read num) inputSchema
      outputSchema := ← Serde.optional (BoundedJsonSchema.read num) outputSchema
      mediaTypes := ← readTexts mediaTypes
      skillPath := ← Serde.optional Serde.string skillPath
      panelSlot := ← Serde.optional Serde.string panelSlot }
  | _ => none

/-- The text of a semantic version. -/
def readVersion (value : Json) : Option String := (Serde.string value).filter crates.isVersion

def WorkspacePluginManifest.read (value : Json) : Option WorkspacePluginManifest :=
  match Serde.fields true
    ["schemaVersion", "id", "name", "version", "apiVersion", "runtime", "activation", "provides", "requires", "optional",
      "permissions", "contributions", "ui"] value with
  | some [schemaVersion, id, name, version, apiVersion, runtime, activation, provides, requires, optional, permissions,
      contributions, ui] => do
    return {
      schemaVersion := ← Serde.required Serde.u64 schemaVersion
      id := ← Serde.required Identifier.read id
      name := ← Serde.required Serde.string name
      version := ← Serde.required (readVersion crates) version
      apiVersion := ← Serde.required Serde.string apiVersion
      runtime := ← Serde.required RuntimeDeclaration.read runtime
      activation := ← readTexts activation
      provides := ← Serde.withDefault (Serde.list ManifestProvide.read) [] provides
      requires := ← Serde.withDefault (Serde.list ManifestRequire.read) [] requires
      optional := ← Serde.withDefault (Serde.list ManifestRequire.read) [] optional
      permissions := ← Serde.withDefault (Serde.list PermissionRequest.read) [] permissions
      contributions := ← Serde.withDefault (Serde.list (ContributionDeclaration.read num)) [] contributions
      ui := ← Serde.optional UiDeclaration.read ui }
  | _ => none

end Read

/-! ## Checks -/

def validateComponent (path : String) (component : List Char) : Except ManifestError Unit := do
  ensureManifest (!(component == [] || component == ['.'])) ("path must already be normalized: " ++ path)
  ensureManifest (component != ['.', '.']) ("parent traversal is not allowed: " ++ path)
  ensureManifest (!component.contains ':') ("device/colon component is not allowed: " ++ path)

def validateRelativePath (path : String) : Except ManifestError Unit := do
  ensureManifest (!path.isEmpty) "path must not be empty"
  ensureManifest (decide (path.utf8ByteSize ≤ maxRelativePathBytes)) "path exceeds 1024 bytes"
  ensureManifest (!(path.toList.head? == some '/' || path.toList.head? == some '\\'))
    ("absolute path is not allowed: " ++ path)
  ensureManifest (!path.toList.contains '\\') ("alternate path separators are not allowed: " ++ path)
  (pathSegments path.toList).forM (validateComponent path)

def validateRelativePaths (paths : List String) : Except ManifestError Unit := paths.forM validateRelativePath

def validatePositiveBound (value : Option Nat) (name : String) : Except ManifestError Unit :=
  ensureManifest (value.any fun value => decide (0 < value) && decide (value ≤ maxPermissionBytes))
    (name ++ " must be between 1 and 1048576")

/-- `validate_host_pattern`, of the manifest. -/
def validateHostPattern (host : String) : Except ManifestError Unit :=
  let domain := (wildcardSuffix host.toList).getD host.toList
  ensureManifest
    (!(domain.isEmpty || !domain.contains '.' || domain.head? == some '.' || domain.getLast? == some '.' || domain.contains '*' ||
      domain.contains ':' || domain.contains '/' || !domain.all fun c => c.isLower || c.isDigit || c == '.' || c == '-'))
    ("invalid network host constraint: " ++ host)

/-- The purpose of a permission, as untrusted text. -/
def safePurpose (purpose : String) : Bool :=
  trim purpose == purpose && !purpose.isEmpty && decide (purpose.utf8ByteSize ≤ maxPermissionPurposeBytes) &&
    !purpose.toList.any isControl && !containsBidiOverride purpose

/-- The permission has only fields of its shape. -/
def ensureShape (condition : Bool) (name expected : String) : Except ManifestError Unit :=
  ensureManifest condition ("permission " ++ name ++ " has fields outside its " ++ expected ++ " constraint shape")

def validatePermissionRequest (p : PermissionRequest) : Except ManifestError Unit := do
  ensureManifest (p.purpose.all safePurpose) "permission purpose is empty, oversized, or contains unsafe controls"
  [("paths", p.paths), ("operations", p.operations), ("schemes", p.schemes), ("hosts", p.hosts), ("methods", p.methods)].forM
    fun (label, values) =>
      ensureManifest (decide (values.length ≤ maxPermissionConstraintItems)) ("permission " ++ label ++ " exceed 64 entries")
  if p.name = "project.fs.read" then do
    ensureShape
      (!p.paths.isEmpty && p.operations.isEmpty && p.schemes.isEmpty && p.hosts.isEmpty && p.methods.isEmpty &&
        p.maxResponseBytes.isNone)
      p.name "project filesystem"
    validateRelativePaths p.paths
    validatePositiveBound p.maxBytes "maxBytes"
  else if p.name = "workspace.r.inspect" then do
    ensureShape
      (!p.operations.isEmpty && p.paths.isEmpty && p.schemes.isEmpty && p.hosts.isEmpty && p.methods.isEmpty &&
        p.maxResponseBytes.isNone)
      p.name "Workspace R inspection"
    ensureManifest (p.operations.all fun operation => operation == "metadata" || operation == "preview")
      "workspace.r.inspect permits only metadata or preview"
    validatePositiveBound p.maxBytes "maxBytes"
  else if p.name = "network.fetch" then do
    ensureShape
      (!p.schemes.isEmpty && !p.hosts.isEmpty && !p.methods.isEmpty && p.paths.isEmpty && p.operations.isEmpty &&
        p.maxBytes.isNone)
      p.name "network fetch"
    ensureManifest (p.schemes.all (· == "https")) "network.fetch permits only https"
    p.hosts.forM validateHostPattern
    ensureManifest (p.methods.all fun method => method == "GET" || method == "HEAD") "network.fetch permits only GET or HEAD"
    validatePositiveBound p.maxResponseBytes "maxResponseBytes"
  else .error (.manifestValidation ("unsupported permission request: " ++ p.name))

/-- The permissions after those with the names seen. -/
def validatePermissionsFrom : List String → List PermissionRequest → Except ManifestError Unit
  | _, [] => .ok ()
  | seen, permission :: rest => do
    ensureManifest (!seen.contains permission.name) ("duplicate permission request: " ++ permission.name)
    validatePermissionRequest permission
    validatePermissionsFrom (permission.name :: seen) rest

def activationPrefix : String := "onCapability:"

/-- The activation events after those seen. -/
def validateActivationFrom : List String → List String → Except ManifestError Unit
  | _, [] => .ok ()
  | seen, event :: rest => do
    ensureManifest (activationPrefix.toList.isPrefixOf event.toList) ("unsupported activation event: " ++ event)
    match validateIdentifier (String.ofList (event.toList.drop activationPrefix.length)) with
    | some reason =>
      .error (.manifestValidation ("invalid activation capability: invalid " ++ IdentifierKind.capability.display ++
        " identifier: " ++ reason.display))
    | none => do
      ensureManifest (!seen.contains event) ("duplicate activation event: " ++ event)
      validateActivationFrom (event :: seen) rest

/-- The provided capabilities after those seen. -/
def validateProvidesFrom : List String → List ManifestProvide → Except ManifestError Unit
  | _, [] => .ok ()
  | seen, provide :: rest => do
    ensureManifest (provide.contractMajor != 0) ("capability " ++ provide.capability.value ++ " declares contract major 0")
    ensureManifest (!seen.contains provide.capability.value) ("duplicate provided capability: " ++ provide.capability.value)
    validateProvidesFrom (provide.capability.value :: seen) rest

section Validate

variable (crates : ManifestCrates)

/-- The shape of a contribution, with its reason. -/
def validateContributionShape (contribution : ContributionDeclaration) : Except ManifestError Unit :=
  match contribution.validateShape crates.toLowercase with
  | .ok _ => .ok ()
  | .error reason => .error (.manifestValidation ("invalid contribution " ++ contribution.id.value ++ ": " ++ reason))

/-- The contributions after those with the ids seen, each with the one entry that provides it. -/
def validateContributionsFrom (provides : List ManifestProvide) :
    List String → List ContributionDeclaration → Except ManifestError Unit
  | _, [] => .ok ()
  | seen, contribution :: rest => do
    ensureManifest (!seen.contains contribution.id.value) ("duplicate contribution: " ++ contribution.id.value)
    validateContributionShape crates contribution
    let matching := provides.filter fun provide => provide.capability = contribution.id
    ensureManifest (matching.map (·.contractMajor) == [contribution.contractMajor])
      ("contribution " ++ contribution.id.value ++ " must match exactly one provides entry and contract major")
    validateContributionsFrom provides (contribution.id.value :: seen) rest

namespace WorkspacePluginManifest

/-- The versions, the names and the paths of a manifest. -/
def validateHeader (m : WorkspacePluginManifest) : Except ManifestError Unit := do
  if m.schemaVersion < minManifestSchemaVersion ∨ manifestSchemaVersion < m.schemaVersion then
    .error (.unsupportedManifestSchema m.schemaVersion manifestSchemaVersion)
  else do
    ensureManifest (!(m.schemaVersion == minManifestSchemaVersion && !m.contributions.isEmpty))
      "Manifest V1 cannot declare live contributions"
    ensureManifest (!m.name.isEmpty) "name must not be empty"
    ensureManifest (!m.apiVersion.isEmpty) "apiVersion must not be empty"
    ensureManifest (crates.requirementError m.apiVersion).isNone
      ("apiVersion must be a valid semver requirement: " ++ (crates.requirementError m.apiVersion).getD "")
    ensureManifest (m.runtime.scope.value == "project") ("runtime scope must be project, got " ++ m.runtime.scope.value)
    validateRelativePaths [m.runtime.entry]
    validateRelativePaths (m.provides.filterMap (·.path))
    validateRelativePaths (m.contributions.filterMap (·.skillPath))

/-- The numbers of entries. -/
def validateLimits (m : WorkspacePluginManifest) : Except ManifestError Unit := do
  ensureLimit .providesPerPlugin m.id m.provides.length maxManifestProvides
  ensureLimit .requiredPerPlugin m.id m.requires.length maxManifestRequires
  ensureLimit .optionalPerPlugin m.id m.optional.length maxManifestOptional
  ensureManifest (decide (m.permissions.length ≤ maxManifestPermissions)) "permissions exceed 64 entries"
  ensureManifest (decide (m.contributions.length ≤ maxContributionsPerPackage)) "contributions exceed 32 entries"

def validate (m : WorkspacePluginManifest) : Except ManifestError Unit := do
  m.validateHeader crates
  m.validateLimits
  validatePermissionsFrom [] m.permissions
  validateActivationFrom [] m.activation
  validateProvidesFrom [] m.provides
  validateContributionsFrom crates m.provides [] m.contributions

/-- `parse`, of the bytes of a manifest. -/
def parse {F : Type} [LinearOrder F] (num : Numbers F) (bytes : List UInt8) : Except ManifestError WorkspacePluginManifest :=
  if maxManifestBytes < bytes.length then .error (.manifestTooLarge bytes.length maxManifestBytes)
  else
    match ((String.fromUTF8? ⟨bytes.toArray⟩).bind fun text => Json.rawParse text.toList).bind (read num crates) with
    | none => .error .manifestParse
    | some m => do
      m.validate crates
      return m

/-- `to_descriptor`. -/
def toDescriptor (m : WorkspacePluginManifest) : PluginDescriptor where
  id := m.id
  allowedScopes := [m.runtime.scope]
  provides := m.provides.map fun provide => ⟨provide.capability, provide.contractMajor⟩
  requires := m.requires.map fun require => ⟨require.capability, require.contractMajor⟩
  optional := m.optional.map fun require => ⟨require.capability, require.contractMajor⟩

end WorkspacePluginManifest

end Validate

/-! ## Constraints -/

def PermissionKind.parse (name : String) : Option PermissionKind :=
  if name = "project.fs.read" then some .projectFsRead
  else if name = "workspace.r.inspect" then some .workspaceRInspect
  else if name = "network.fetch" then some .networkFetch
  else none

namespace PermissionConstraints

def fromManifest (p : PermissionRequest) : Except ManifestError PermissionConstraints :=
  match PermissionKind.parse p.name with
  | none => .error (.manifestValidation ("unsupported permission request: " ++ p.name))
  | some permission =>
    let constraints : PermissionConstraints :=
      { paths := p.paths
        operations := p.operations
        schemes := p.schemes
        hosts := p.hosts
        methods := p.methods
        maxBytes := p.maxBytes
        maxResponseBytes := p.maxResponseBytes }
    match validateConstraints permission constraints with
    | .ok _ => .ok constraints
    | .error reason => .error (.manifestValidation reason)

/-- Further fields are ignored. -/
def read (value : Json) : Option PermissionConstraints :=
  match Serde.fields false ["paths", "operations", "schemes", "hosts", "methods", "maxBytes", "maxResponseBytes"] value with
  | some [paths, operations, schemes, hosts, methods, maxBytes, maxResponseBytes] => do
    return {
      paths := ← readTexts paths
      operations := ← readTexts operations
      schemes := ← readTexts schemes
      hosts := ← readTexts hosts
      methods := ← readTexts methods
      maxBytes := ← Serde.optional Serde.u64 maxBytes
      maxResponseBytes := ← Serde.optional Serde.u64 maxResponseBytes }
  | _ => none

/-- The constraints of a text. -/
def fromText (text : String) : Option PermissionConstraints := (Json.rawParse text.toList).bind read

end PermissionConstraints

end Rho
