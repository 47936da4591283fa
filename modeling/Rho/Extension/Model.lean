import Mathlib.Data.List.Sort
import Mathlib.Data.String.Basic
import Mathlib.Logic.Relation
import Mathlib.Order.Basic

/-!
# The extension runtime's data model

Identifiers, plugin descriptors, scopes and activation plans of `rho-extension-runtime` (`id.rs`, `model.rs`, `error.rs`).
Only what the resolver reads is here: a descriptor's version and activation policy are not, since no decision of the resolver
depends on them.
-/

namespace Rho

/-! ## Identifiers -/

/-- The newtypes that share the identifier grammar. -/
inductive IdentifierKind where
  | plugin | capability | operation | scopeKind | scope
  deriving DecidableEq, Repr

/-- Why a character is refused in an identifier. -/
inductive IdentifierCharacterClass where
  | nonAscii | pathSeparator | whitespace | control | uppercase | otherAscii
  deriving DecidableEq, Repr

inductive IdentifierErrorReason where
  | empty
  | tooLong (actualBytes maxBytes : Nat)
  | invalidCharacter (byteIndex : Nat) (cls : IdentifierCharacterClass)
  deriving DecidableEq, Repr

def maxIdentifierBytes : Nat := 128

/-- A character an identifier may hold: a lowercase ASCII letter, a digit, or one of `.`, `_`, `-`. -/
def identifierCharAccepted (c : Char) : Bool := c.isLower || c.isDigit || c == '.' || c == '_' || c == '-'

def identifierCharacterClass (c : Char) : IdentifierCharacterClass :=
  if 128 ≤ c.toNat then .nonAscii
  else if c = '/' ∨ c = '\\' then .pathSeparator
  else if c = ' ' ∨ c = '\t' ∨ c = '\n' ∨ c = '\x0c' ∨ c = '\r' then .whitespace
  else if c.toNat < 32 ∨ c.toNat = 127 then .control
  else if c.isUpper then .uppercase
  else .otherAscii

/-- The first refused character, with its byte offset. -/
def firstRefused : Nat → List Char → Option IdentifierErrorReason
  | _, [] => none
  | i, c :: cs =>
    if identifierCharAccepted c then firstRefused (i + c.utf8Size) cs
    else some (.invalidCharacter i (identifierCharacterClass c))

/-- `validate_identifier`: not empty, at most `maxIdentifierBytes` bytes, every character accepted. -/
def validateIdentifier (value : String) : Option IdentifierErrorReason :=
  if value.isEmpty then some .empty
  else if maxIdentifierBytes < value.utf8ByteSize then some (.tooLong value.utf8ByteSize maxIdentifierBytes)
  else firstRefused 0 value.toList

/-- A validated identifier: the constructor of the newtypes refuses any other string. -/
structure Identifier (kind : IdentifierKind) where
  value : String
  valid : validateIdentifier value = none
  deriving DecidableEq

abbrev PluginId := Identifier .plugin
abbrev CapabilityId := Identifier .capability
abbrev ScopeKindId := Identifier .scopeKind
abbrev ScopeId := Identifier .scope

theorem Identifier.value_injective {kind : IdentifierKind} :
    Function.Injective (fun a : Identifier kind => a.value) := by
  rintro ⟨a, _⟩ ⟨b, _⟩ rfl
  rfl

/-- Identifiers are ordered as their strings. -/
instance {kind : IdentifierKind} : LinearOrder (Identifier kind) :=
  LinearOrder.lift' Identifier.value Identifier.value_injective

/-- An activation generation is a nonzero 64-bit number. -/
structure ActivationGeneration where
  value : UInt64
  nonzero : value ≠ 0
  deriving DecidableEq

theorem one_nonzero : (1 : UInt64) ≠ 0 := by decide

instance : Ord ActivationGeneration := ⟨fun a b => compare a.value b.value⟩

/-! ## Plugin descriptors -/

/-- A capability with its contract major: what a plugin declares, and what it asks for. -/
structure CapabilityDeclaration where
  capabilityId : CapabilityId
  contractMajor : Nat
  deriving DecidableEq, Ord

abbrev CapabilityRequirement := CapabilityDeclaration

structure PluginDescriptor where
  id : PluginId
  allowedScopes : List ScopeKindId
  provides : List CapabilityDeclaration
  requires : List CapabilityRequirement
  optional : List CapabilityRequirement
  deriving DecidableEq

/-- Sorting by the derived order of a type. -/
def sortByOrd {α : Type*} [Ord α] (l : List α) : List α := l.insertionSort (fun a b => (compare a b).isLE)

/-- `PluginDescriptor::normalize`: every list sorted. -/
def PluginDescriptor.normalize (d : PluginDescriptor) : PluginDescriptor :=
  { d with
    allowedScopes := sortByOrd d.allowedScopes
    provides := sortByOrd d.provides
    requires := sortByOrd d.requires
    optional := sortByOrd d.optional }

/-! ## Scopes -/

structure ScopeIdentity where
  kind : ScopeKindId
  id : ScopeId
  parentId : Option ScopeId
  generation : ActivationGeneration
  deriving DecidableEq, Ord

structure ScopeKindRule where
  kind : ScopeKindId
  parentKind : Option ScopeKindId
  deriving DecidableEq

/-- The parent relation a list of rules states. -/
def ParentKind (rules : List ScopeKindRule) (child parent : ScopeKindId) : Prop :=
  ∃ r ∈ rules, r.kind = child ∧ r.parentKind = some parent

/-- A scope policy: what `ScopePolicy::from_host_rules` accepts. Every kind has one rule, every parent kind has a rule, and no
kind is its own ancestor. -/
structure ScopePolicy where
  rules : List ScopeKindRule
  kinds_nodup : (rules.map (·.kind)).Nodup
  parents_present : ∀ child parent, ParentKind rules child parent → ∃ r ∈ rules, r.kind = parent
  acyclic : ∀ kind, ¬Relation.TransGen (ParentKind rules) kind kind

/-- The rule of a kind: its parent kind, if it has one. -/
def ScopePolicy.get? (p : ScopePolicy) (kind : ScopeKindId) : Option (Option ScopeKindId) :=
  (p.rules.find? (fun r => r.kind = kind)).map (·.parentKind)

/-! ## Providers, bindings and plans -/

structure ProviderIdentity where
  pluginId : PluginId
  scope : ScopeIdentity
  contractMajor : Nat
  deriving DecidableEq, Ord

inductive RequirementKind where
  | required | optional
  deriving DecidableEq, Ord, Repr

inductive BindingResolution where
  | provider (provider : ProviderIdentity)
  | absentOptional
  deriving DecidableEq

structure RequirementBinding where
  requirement : CapabilityRequirement
  kind : RequirementKind
  resolution : BindingResolution
  deriving DecidableEq

/-- The diagnostic of an optional capability that no provider offers (`ExtensionDiagnostic::optional_absent`). -/
structure OptionalAbsent where
  pluginId : PluginId
  capabilityId : CapabilityId
  scopeId : ScopeId
  message : String
  deriving DecidableEq

def OptionalAbsent.new (pluginId : PluginId) (capabilityId : CapabilityId) (scopeId : ScopeId) : OptionalAbsent :=
  { pluginId, capabilityId, scopeId
    message := s!"optional capability {capabilityId.value} is absent for plugin {pluginId.value}" }

/-- An activation plan. The bindings are listed by plugin; the effective providers are a partial map from capabilities. -/
structure ActivationPlan where
  scope : ScopeIdentity
  activationOrder : List PluginId
  bindings : List (PluginId × List RequirementBinding)
  effectiveProviders : CapabilityId → Option ProviderIdentity
  diagnostics : List OptionalAbsent

/-! ## Errors -/

inductive DescriptorErrorReason where
  | noAllowedScopes
  | duplicateAllowedScope (scopeKind : ScopeKindId)
  | duplicateProvidedCapability (capabilityId : CapabilityId)
  | duplicateRequiredCapability (capabilityId : CapabilityId)
  | duplicateOptionalCapability (capabilityId : CapabilityId)
  | requiredAndOptionalCapability (capabilityId : CapabilityId)
  | scopeNotAllowed (scopeKind : ScopeKindId)
  deriving DecidableEq

inductive LimitKind where
  | pluginsPerScope | providesPerPlugin | requiredPerPlugin | optionalPerPlugin | resolvedEdges
  deriving DecidableEq, Repr

inductive InvalidParentReason where
  | missingParent | unexpectedParent | parentIdentityMissing | parentIdMismatch | parentKindMismatch
  deriving DecidableEq, Repr

structure InvalidParentContext where
  scopeId : ScopeId
  scopeKind : ScopeKindId
  parentScopeId : Option ScopeId
  parentScopeKind : Option ScopeKindId
  expectedParentKind : Option ScopeKindId
  deriving DecidableEq

/-- The errors of the resolver. -/
inductive ExtensionError where
  | invalidDescriptor (pluginId : PluginId) (reason : DescriptorErrorReason)
  | limitExceeded (limit : LimitKind) (pluginId : Option PluginId) (actual maximum : Nat)
  | duplicatePlugin (pluginId : PluginId)
  | duplicateProvider (capabilityId : CapabilityId) (providers : List ProviderIdentity)
  | missingRequiredCapability (pluginId : PluginId) (capabilityId : CapabilityId) (requiredMajor : Nat)
  | incompatibleCapabilityMajor (pluginId : PluginId) (capabilityId : CapabilityId) (requiredMajor providedMajor : Nat)
      (providerPluginId : PluginId)
  | invalidScopeUnknownKind (scopeId : ScopeId) (scopeKind : ScopeKindId)
  | invalidParent (context : InvalidParentContext) (reason : InvalidParentReason)
  | dependencyCycle (path : List PluginId)
  /-- The lookup `node_by_plugin[..]` of a plugin that is not a node panics. -/
  | missingNode (pluginId : PluginId)
  deriving DecidableEq

/-! ## Validation -/

def maxPluginsPerScope : Nat := 256
def maxProvidesPerPlugin : Nat := 64
def maxRequiredPerPlugin : Nat := 64
def maxOptionalPerPlugin : Nat := 64
def maxResolvedEdges : Nat := 8192

/-- The first two neighbours with equal keys. -/
def adjacentByKey {α κ : Type*} [DecidableEq κ] (key : α → κ) : List α → Option (α × α)
  | a :: b :: l => if key a = key b then some (a, b) else adjacentByKey key (b :: l)
  | _ => none

/-- `duplicate_by_key`: the second of the first two neighbours with equal keys. -/
def duplicateByKey {α κ : Type*} [DecidableEq κ] (key : α → κ) (l : List α) : Option α :=
  (adjacentByKey key l).map (·.2)

/-- `validate_for_scope`, on a normalized descriptor. -/
def PluginDescriptor.validateForScope (d : PluginDescriptor) (scopeKind : ScopeKindId) : Except ExtensionError Unit := do
  if maxProvidesPerPlugin < d.provides.length then
    throw (.limitExceeded .providesPerPlugin (some d.id) d.provides.length maxProvidesPerPlugin)
  if maxRequiredPerPlugin < d.requires.length then
    throw (.limitExceeded .requiredPerPlugin (some d.id) d.requires.length maxRequiredPerPlugin)
  if maxOptionalPerPlugin < d.optional.length then
    throw (.limitExceeded .optionalPerPlugin (some d.id) d.optional.length maxOptionalPerPlugin)
  if d.allowedScopes.isEmpty then
    throw (.invalidDescriptor d.id .noAllowedScopes)
  if let some kind := duplicateByKey (fun kind => kind) d.allowedScopes then
    throw (.invalidDescriptor d.id (.duplicateAllowedScope kind))
  if let some declaration := duplicateByKey (·.capabilityId) d.provides then
    throw (.invalidDescriptor d.id (.duplicateProvidedCapability declaration.capabilityId))
  if let some requirement := duplicateByKey (·.capabilityId) d.requires then
    throw (.invalidDescriptor d.id (.duplicateRequiredCapability requirement.capabilityId))
  if let some requirement := duplicateByKey (·.capabilityId) d.optional then
    throw (.invalidDescriptor d.id (.duplicateOptionalCapability requirement.capabilityId))
  if let some requirement := d.optional.find? (fun o => d.requires.any (fun r => r.capabilityId = o.capabilityId)) then
    throw (.invalidDescriptor d.id (.requiredAndOptionalCapability requirement.capabilityId))
  if scopeKind ∉ d.allowedScopes then
    throw (.invalidDescriptor d.id (.scopeNotAllowed scopeKind))

/-- `invalid_parent`: the error of a scope whose parent does not fit the policy. -/
def invalidParent (scope : ScopeIdentity) (parent : Option ScopeIdentity) (expectedParentKind : Option ScopeKindId)
    (reason : InvalidParentReason) : ExtensionError :=
  .invalidParent
    { scopeId := scope.id
      scopeKind := scope.kind
      parentScopeId := scope.parentId.or (parent.map (·.id))
      parentScopeKind := parent.map (·.kind)
      expectedParentKind := expectedParentKind } reason

/-- `ScopePolicy::validate_identity`: the scope's kind has a rule, and its parent is the one the rule asks for. -/
def ScopePolicy.validateIdentity (p : ScopePolicy) (scope : ScopeIdentity) (parent : Option ScopeIdentity) :
    Except ExtensionError Unit :=
  match p.get? scope.kind with
  | none => throw (.invalidScopeUnknownKind scope.id scope.kind)
  | some none =>
    if scope.parentId.isSome ∨ parent.isSome then throw (invalidParent scope parent none .unexpectedParent)
    else pure ()
  | some (some expectedKind) =>
    match scope.parentId, parent with
    | none, _ => throw (invalidParent scope parent (some expectedKind) .missingParent)
    | some _, none => throw (invalidParent scope none (some expectedKind) .parentIdentityMissing)
    | some parentId, some parent =>
      if parentId ≠ parent.id then throw (invalidParent scope (some parent) (some expectedKind) .parentIdMismatch)
      else if parent.kind ≠ expectedKind then
        throw (invalidParent scope (some parent) (some expectedKind) .parentKindMismatch)
      else pure ()

end Rho
