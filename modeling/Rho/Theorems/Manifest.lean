import Rho.Extension.Manifest
import Rho.Theorems.JsonSchema
import Rho.Theorems.Resolution

/-!
# Manifests and the resolver

What the checks of a manifest leave to the resolver. The descriptor of a manifest that was accepted passes the resolver's own
checks exactly when the capabilities that it asks for are distinct: the manifest is not checked for that.
-/

namespace Rho

open Fallible ScopePolicy WorkspacePluginManifest

/-- No capability is required twice, none is optional twice, and none is both. -/
def WorkspacePluginManifest.RequirementsDistinct (m : WorkspacePluginManifest) : Prop :=
  (m.requires.map (·.capability)).Nodup ∧ (m.optional.map (·.capability)).Nodup ∧
    ∀ require ∈ m.requires, ∀ other ∈ m.optional, require.capability ≠ other.capability

namespace ManifestAux

/-! ## The checks of the resolver -/

theorem unless_ok_iff {ε : Type} {e : ε} {rest : Unit → Except ε Unit} {c : Prop} [Decidable c] :
    (if c then throw e >>= rest else rest ()) = .ok () ↔ ¬c ∧ rest () = .ok () := by
  by_cases h : c
  · rw [if_pos h]
    exact iff_of_false throw_bind_ne_ok fun h' => h'.1 h
  · rw [if_neg h]
    exact (and_iff_right h).symm

/-- The checks of a descriptor, without their errors. -/
theorem validateForScope_ok_iff (d : PluginDescriptor) (kind : ScopeKindId) : d.validateForScope kind = .ok () ↔
      ¬maxProvidesPerPlugin < d.provides.length ∧ ¬maxRequiredPerPlugin < d.requires.length ∧
      ¬maxOptionalPerPlugin < d.optional.length ∧ ¬d.allowedScopes.isEmpty = true ∧
      duplicateByKey (fun kind => kind) d.allowedScopes = none ∧ duplicateByKey (·.capabilityId) d.provides = none ∧
      duplicateByKey (·.capabilityId) d.requires = none ∧ duplicateByKey (·.capabilityId) d.optional = none ∧
      d.optional.find? (fun o => d.requires.any (fun r => r.capabilityId = o.capabilityId)) = none ∧ kind ∈ d.allowedScopes := by
  unfold PluginDescriptor.validateForScope
  extract_lets scopeAllowed both optionalOnce requiredOnce providedOnce scopeOnce scopes optionalLimit requiredLimit
  have hscopeAllowed : scopeAllowed () = .ok () ↔ kind ∈ d.allowedScopes := by
    simp only [scopeAllowed]
    split
    · next h => exact iff_of_false nofun h
    · next h => exact iff_of_true rfl (not_not.mp h)
  have hboth : both () = .ok () ↔
      d.optional.find? (fun o => d.requires.any (fun r => r.capabilityId = o.capabilityId)) = none ∧ scopeAllowed () = .ok () := by
    simp only [both]
    cases d.optional.find? (fun o => d.requires.any (fun r => r.capabilityId = o.capabilityId)) with
    | none => exact (and_iff_right rfl).symm
    | some _ => exact iff_of_false throw_bind_ne_ok fun h => by cases h.1
  have hoptionalOnce : optionalOnce () = .ok () ↔ duplicateByKey (·.capabilityId) d.optional = none ∧ both () = .ok () := by
    simp only [optionalOnce]
    cases duplicateByKey (·.capabilityId) d.optional with
    | none => exact (and_iff_right rfl).symm
    | some _ => exact iff_of_false throw_bind_ne_ok fun h => by cases h.1
  have hrequiredOnce : requiredOnce () = .ok () ↔
      duplicateByKey (·.capabilityId) d.requires = none ∧ optionalOnce () = .ok () := by
    simp only [requiredOnce]
    cases duplicateByKey (·.capabilityId) d.requires with
    | none => exact (and_iff_right rfl).symm
    | some _ => exact iff_of_false throw_bind_ne_ok fun h => by cases h.1
  have hprovidedOnce : providedOnce () = .ok () ↔
      duplicateByKey (·.capabilityId) d.provides = none ∧ requiredOnce () = .ok () := by
    simp only [providedOnce]
    cases duplicateByKey (·.capabilityId) d.provides with
    | none => exact (and_iff_right rfl).symm
    | some _ => exact iff_of_false throw_bind_ne_ok fun h => by cases h.1
  have hscopeOnce : scopeOnce () = .ok () ↔
      duplicateByKey (fun kind => kind) d.allowedScopes = none ∧ providedOnce () = .ok () := by
    simp only [scopeOnce]
    cases duplicateByKey (fun kind => kind) d.allowedScopes with
    | none => exact (and_iff_right rfl).symm
    | some _ => exact iff_of_false throw_bind_ne_ok fun h => by cases h.1
  refine unless_ok_iff.trans (and_congr_right fun _ => ?_)
  refine unless_ok_iff.trans (and_congr_right fun _ => ?_)
  refine unless_ok_iff.trans (and_congr_right fun _ => ?_)
  refine unless_ok_iff.trans (and_congr_right fun _ => ?_)
  rw [hscopeOnce, hprovidedOnce, hrequiredOnce, hoptionalOnce, hboth, hscopeAllowed]

/-! ## Distinct capabilities -/

theorem duplicateByKey_none {α κ : Type} [DecidableEq κ] {key : α → κ} {l : List α} (h : (l.map key).Nodup) :
    duplicateByKey key l = none := by
  unfold duplicateByKey
  rw [Option.map_eq_none_iff]
  induction l with
  | nil => rfl
  | cons a l ih =>
    rw [List.map_cons, List.nodup_cons] at h
    cases l with
    | nil => rfl
    | cons b l =>
      unfold adjacentByKey
      rw [if_neg]
      · exact ih h.2
      · exact fun hkey => h.1 (List.mem_map.mpr ⟨b, List.mem_cons_self, hkey.symm⟩)

theorem duplicateByKey_sortByOrd (l : List CapabilityDeclaration) :
    duplicateByKey (·.capabilityId) (sortByOrd l) = none ↔ (l.map (·.capabilityId)).Nodup := by
  have hperm : ((sortByOrd l).map (·.capabilityId)).Perm (l.map (·.capabilityId)) :=
    (List.perm_insertionSort _ l).map _
  constructor
  · intro h
    have hsorted : (sortByOrd l).Pairwise (fun a b => a.capabilityId ≤ b.capabilityId) := by
      refine (ResolutionAux.pairwise_sortByOrd l).imp ?_
      intro a b hle
      rcases (ResolutionAux.declaration_le_iff a b).mp hle with hlt | ⟨heq, -⟩
      · exact hlt.le
      · exact heq.le
    exact hperm.nodup_iff.mp (ResolverAux.nodup_of_adjacentByKey _ _ hsorted (Option.map_eq_none_iff.mp h))
  · exact fun h => duplicateByKey_none (hperm.nodup_iff.mpr h)

/-! ## The checks of a manifest -/

theorem ensureLimit_ok {limit : LimitKind} {pluginId : PluginId} {actual maximum : Nat} {u : Unit}
    (h : ensureLimit limit pluginId actual maximum = .ok u) : actual ≤ maximum := by
  unfold ensureLimit at h
  split at h
  · cases h
  · next hlimit => exact Nat.not_lt.mp hlimit

variable {crates : ManifestCrates} {m : WorkspacePluginManifest}

/-- The provided capabilities of a manifest are distinct, and none of them is among those seen before. -/
theorem validateProvidesFrom_ok {seen : List String} {provides : List ManifestProvide} {u : Unit}
    (h : validateProvidesFrom seen provides = .ok u) :
    (provides.map (·.capability)).Nodup ∧ ∀ provide ∈ provides, provide.capability.value ∉ seen := by
  induction provides generalizing seen with
  | nil => exact ⟨List.nodup_nil, fun _ h => absurd h List.not_mem_nil⟩
  | cons provide rest ih =>
    unfold validateProvidesFrom at h
    obtain ⟨_, -, h⟩ := bind_eq_ok h
    obtain ⟨_, hfresh, h⟩ := bind_eq_ok h
    obtain ⟨hnodup, hnot⟩ := ih h
    have hseen : provide.capability.value ∉ seen := by simpa using ensureManifest_ok hfresh
    refine ⟨?_, ?_⟩
    · rw [List.map_cons, List.nodup_cons]
      refine ⟨?_, hnodup⟩
      intro hmem
      obtain ⟨other, hother, heq⟩ := List.mem_map.mp hmem
      exact hnot other hother (heq ▸ List.mem_cons_self)
    · intro other hother
      rcases List.mem_cons.mp hother with rfl | hother
      · exact hseen
      · exact fun hmem => hnot other hother (List.mem_cons_of_mem _ hmem)

/-- What the resolver looks at too: the scope, the numbers of entries, and the provided capabilities. -/
theorem validate_ok {u : Unit} (h : m.validate crates = .ok u) :
    m.runtime.scope = projectKind ∧ m.provides.length ≤ maxManifestProvides ∧ m.requires.length ≤ maxManifestRequires ∧
      m.optional.length ≤ maxManifestOptional ∧ (m.provides.map (·.capability)).Nodup := by
  unfold validate at h
  obtain ⟨_, hheader, h⟩ := bind_eq_ok h
  obtain ⟨_, hlimits, h⟩ := bind_eq_ok h
  obtain ⟨_, -, h⟩ := bind_eq_ok h
  obtain ⟨_, -, h⟩ := bind_eq_ok h
  obtain ⟨_, hprovides, -⟩ := bind_eq_ok h
  refine ⟨?_, ?_⟩
  · unfold validateHeader at hheader
    split at hheader
    · cases hheader
    · obtain ⟨_, -, hheader⟩ := bind_eq_ok hheader
      obtain ⟨_, -, hheader⟩ := bind_eq_ok hheader
      obtain ⟨_, -, hheader⟩ := bind_eq_ok hheader
      obtain ⟨_, -, hheader⟩ := bind_eq_ok hheader
      obtain ⟨_, hscope, -⟩ := bind_eq_ok hheader
      exact Identifier.value_injective (eq_of_beq (ensureManifest_ok hscope))
  · unfold validateLimits at hlimits
    obtain ⟨_, hprovided, hlimits⟩ := bind_eq_ok hlimits
    obtain ⟨_, hrequired, hlimits⟩ := bind_eq_ok hlimits
    obtain ⟨_, hoptional, -⟩ := bind_eq_ok hlimits
    exact ⟨ensureLimit_ok hprovided, ensureLimit_ok hrequired, ensureLimit_ok hoptional, (validateProvidesFrom_ok hprovides).1⟩

theorem parse_ok {F : Type} [LinearOrder F] {num : Numbers F} {bytes : List UInt8}
    (h : parse crates num bytes = .ok m) : m.validate crates = .ok () := by
  unfold parse at h
  split at h
  · cases h
  · split at h
    · cases h
    · obtain ⟨_, hvalid, h⟩ := bind_eq_ok h
      cases h
      exact hvalid

/-! ## The descriptor -/

theorem sortByOrd_length {α : Type} [Ord α] (l : List α) : (sortByOrd l).length = l.length :=
  List.length_insertionSort _ l

/-- No optional capability is required. -/
theorem find_required_none (requires optional : List CapabilityRequirement) :
    optional.find? (fun o => requires.any (fun r => r.capabilityId = o.capabilityId)) = none ↔
      ∀ r ∈ requires, ∀ o ∈ optional, r.capabilityId ≠ o.capabilityId := by
  rw [List.find?_eq_none]
  simp only [List.any_eq_true, decide_eq_true_eq, not_exists, not_and]
  exact ⟨fun h r hr o ho => h o ho r hr, fun h o ho r hr => h r hr o ho⟩

theorem requirements_capabilities (requires : List ManifestRequire) :
    (requires.map fun require => (⟨require.capability, require.contractMajor⟩ : CapabilityRequirement)).map (·.capabilityId) =
      requires.map (·.capability) := by
  rw [List.map_map]
  rfl

/-- The manifest asks for no capability twice, in terms of its descriptor. -/
theorem requirementsDistinct_iff (m : WorkspacePluginManifest) : m.RequirementsDistinct ↔
      (m.toDescriptor.requires.map (·.capabilityId)).Nodup ∧ (m.toDescriptor.optional.map (·.capabilityId)).Nodup ∧
        ∀ r ∈ m.toDescriptor.requires, ∀ o ∈ m.toDescriptor.optional, r.capabilityId ≠ o.capabilityId := by
  unfold WorkspacePluginManifest.RequirementsDistinct toDescriptor
  simp only [requirements_capabilities, List.forall_mem_map]

/-- What is left of the checks of a sorted descriptor once the manifest has passed its own. -/
theorem passes_iff (hvalid : m.validate crates = .ok ()) :
    m.toDescriptor.normalize.validateForScope projectKind = .ok () ↔ m.RequirementsDistinct := by
  obtain ⟨hscope, hprovides, hrequires, hoptional, hdistinct⟩ := validate_ok hvalid
  rw [validateForScope_ok_iff, requirementsDistinct_iff]
  simp only [PluginDescriptor.normalize, sortByOrd_length, duplicateByKey_sortByOrd, find_required_none, ResolverAux.mem_sortByOrd]
  constructor
  · rintro ⟨-, -, -, -, -, -, hr, ho, hboth, -⟩
    exact ⟨hr, ho, hboth⟩
  · rintro ⟨hr, ho, hboth⟩
    refine ⟨?_, ?_, ?_, ?_, ?_, ?_, hr, ho, hboth, ?_⟩
    · exact Nat.not_lt.mpr ((List.length_map _).le.trans hprovides)
    · exact Nat.not_lt.mpr ((List.length_map _).le.trans hrequires)
    · exact Nat.not_lt.mpr ((List.length_map _).le.trans hoptional)
    · exact Bool.false_ne_true
    · rfl
    · simpa [toDescriptor, List.map_map, Function.comp_def] using hdistinct
    · exact List.mem_singleton.mpr hscope.symm

/-- The descriptor passes as it is, in whatever order its lists are. -/
theorem passes_unsorted (hvalid : m.validate crates = .ok ()) (hdistinct : m.RequirementsDistinct) :
    m.toDescriptor.validateForScope projectKind = .ok () := by
  have hsorted := (passes_iff hvalid).mpr hdistinct
  obtain ⟨hr, ho, hboth⟩ := (requirementsDistinct_iff m).mp hdistinct
  rw [validateForScope_ok_iff] at hsorted ⊢
  simp only [PluginDescriptor.normalize, sortByOrd_length, duplicateByKey_sortByOrd, ResolverAux.mem_sortByOrd] at hsorted
  obtain ⟨hprovides, hrequires, hoptional, -, -, hprovided, -, -, -, hscope⟩ := hsorted
  refine ⟨hprovides, hrequires, hoptional, Bool.false_ne_true, rfl, duplicateByKey_none hprovided, duplicateByKey_none hr,
    duplicateByKey_none ho, ?_, hscope⟩
  exact (find_required_none _ _).mpr hboth

/-- A manifest of few letters is read from its letters. -/
theorem parse_text {F : Type} [LinearOrder F] {num : Numbers F} {text : List Char} (hsize : 4 * text.length ≤ maxManifestBytes)
    (hread : (Json.rawParse text).bind (read num crates) = some m) (hvalid : m.validate crates = .ok ()) :
    parse crates num (String.ofList text).toUTF8.toList = .ok m := by
  rw [parse, Json.fromUTF8_toList, Json.length_toUTF8, if_neg, Option.bind_some, String.toList_ofList, hread]
  · dsimp only
    rw [hvalid]
    rfl
  · exact Nat.not_lt.mpr ((Json.bytes_bounds text).2.trans hsize)

end ManifestAux

/-! ## The theorem -/

/-- The descriptor of a manifest that was accepted, sorted as the resolver sorts it, passes the checks of the resolver for the
project scope exactly when no capability is required twice, optional twice or both; then it passes them unsorted too. -/
theorem accepted_manifest_resolves_iff {F : Type} [LinearOrder F] (num : Numbers F) (crates : ManifestCrates)
    (bytes : List UInt8) (m : WorkspacePluginManifest) (hparse : WorkspacePluginManifest.parse crates num bytes = .ok m) :
    (m.toDescriptor.normalize.validateForScope projectKind = .ok () ↔ m.RequirementsDistinct) ∧
      (m.RequirementsDistinct → m.toDescriptor.validateForScope projectKind = .ok ()) := by
  have hvalid := ManifestAux.parse_ok hparse
  exact ⟨ManifestAux.passes_iff hvalid, ManifestAux.passes_unsorted hvalid⟩

/-! ## Two manifests -/

namespace SampleManifest

def crates : ManifestCrates where
  isVersion text := text == "0.1.0"
  requirementError text := if text = "^1.0" then none else some "unexpected end of input"
  toLowercase text := String.ofList (text.toList.map Char.toLower)

/-- The bytes of a manifest with a list of what it requires. -/
def bytes (requires : String) : List UInt8 :=
  ("\x7b\"schemaVersion\":1,\"id\":\"org.example.sample\",\"name\":\"Sample\",\"version\":\"0.1.0\",\"apiVersion\":\"^1.0\",\"runtime\":" ++
    "\x7b\"kind\":\"wasm\",\"entry\":\"dist/plugin.wasm\",\"scope\":\"project\"\x7d,\"requires\":[" ++ requires ++
    "]\x7d").toUTF8.toList

/-- The letters of the manifest. -/
def text (requires : List Char) : List Char :=
  "\x7b\"schemaVersion\":1,\"id\":\"org.example.sample\",\"name\":\"Sample\",\"version\":\"0.1.0\",\"apiVersion\":\"^1.0\",\"runtime\":".toList ++
    ("\x7b\"kind\":\"wasm\",\"entry\":\"dist/plugin.wasm\",\"scope\":\"project\"\x7d,\"requires\":[".toList ++
      (requires ++ "]\x7d".toList))

theorem ofList_append_toList (a b c d : String) : String.ofList (a.toList ++ (b.toList ++ (c.toList ++ d.toList))) = a ++ b ++ c ++ d := by
  simp only [String.ofList_append, String.ofList_toList, String.append_assoc]

theorem bytes_eq (requires : String) : bytes requires = (String.ofList (text requires.toList)).toUTF8.toList :=
  congrArg (fun s => s.toUTF8.toList) (ofList_append_toList _ _ requires _).symm

def require : String := "\x7b\"capability\":\"tool.base\",\"contract_major\":1\x7d"

def manifest (requires : List ManifestRequire) : WorkspacePluginManifest where
  schemaVersion := 1
  id := ⟨"org.example.sample", by decide +kernel⟩
  name := "Sample"
  version := "0.1.0"
  apiVersion := "^1.0"
  runtime := ⟨.wasm, "dist/plugin.wasm", projectKind⟩
  activation := []
  provides := []
  requires := requires
  optional := []
  permissions := []
  contributions := []
  ui := none

def required : ManifestRequire := ⟨⟨"tool.base", by decide +kernel⟩, 1⟩

end SampleManifest

open SampleManifest in
/-- A manifest that requires one capability twice is accepted, and the resolver refuses its descriptor. -/
theorem accepted_manifest_blocks_resolution :
    WorkspacePluginManifest.parse crates SampleSchema.integers (bytes (require ++ "," ++ require)) =
        .ok (manifest [required, required]) ∧
      (manifest [required, required]).toDescriptor.validateForScope projectKind =
        .error (.invalidDescriptor (manifest []).id (.duplicateRequiredCapability required.capability)) ∧
      (manifest [required, required]).toDescriptor.normalize.validateForScope projectKind =
        .error (.invalidDescriptor (manifest []).id (.duplicateRequiredCapability required.capability)) := by
  have htext : (require ++ "," ++ require).toList = require.toList ++ ',' :: require.toList := by
    rw [String.toList_append, String.toList_append, List.append_assoc]
    rfl
  refine ⟨?_, by decide +kernel⟩
  rw [bytes_eq, htext]
  exact ManifestAux.parse_text (by decide +kernel) (by decide +kernel) (by decide +kernel)

open SampleManifest in
/-- With the capability once it passes. -/
theorem accepted_manifest_passes :
    WorkspacePluginManifest.parse crates SampleSchema.integers (bytes require) = .ok (manifest [required]) ∧
      (manifest [required]).toDescriptor.normalize.validateForScope projectKind = .ok () := by
  have hparse : WorkspacePluginManifest.parse crates SampleSchema.integers (bytes require) = .ok (manifest [required]) := by
    rw [bytes_eq]
    exact ManifestAux.parse_text (by decide +kernel) (by decide +kernel) (by decide +kernel)
  refine ⟨hparse, (accepted_manifest_resolves_iff SampleSchema.integers crates _ _ hparse).1.mpr ⟨?_, ?_, ?_⟩⟩
  · exact List.nodup_singleton _
  · exact List.nodup_nil
  · exact fun _ _ _ h => absurd h List.not_mem_nil

end Rho
