import Rho.Extension.Scopes
import Rho.Theorems.Activation

/-!
# What a plan says, and what it does not depend on

The resolver sorts what it is given before it looks at it, so neither a plan nor an error depends on the order of the descriptors
or of their lists. Along a chain of plans, each resolved over the one before it, every capability has one provider.
-/

namespace Rho

open ResolverAux Fallible

variable {scc : ProviderGraph → List (List PluginId)} {policy : ScopePolicy} {scope : ScopeIdentity}
  {parentPlan : Option ActivationPlan} {descriptors : List PluginDescriptor} {plan : ActivationPlan}

/-! ## Presentation order -/

/-- Two descriptors that differ in the order of their lists only. -/
structure SameDescriptor (a b : PluginDescriptor) : Prop where
  id : a.id = b.id
  allowedScopes : a.allowedScopes = b.allowedScopes
  provides : a.provides.Perm b.provides
  requires : a.requires.Perm b.requires
  optional : a.optional.Perm b.optional

/-- Two lists of descriptors that differ in their order, and in the order of the descriptors' lists. -/
def SamePresentation (ds₁ ds₂ : List PluginDescriptor) : Prop := ∃ ds, ds₁.Perm ds ∧ List.Forall₂ SameDescriptor ds ds₂

namespace ResolutionAux

theorem compare_declaration (a b : CapabilityDeclaration) :
    compare a b = (compare a.capabilityId b.capabilityId).then (compare a.contractMajor b.contractMajor) := by
  obtain ⟨c, major⟩ := a
  obtain ⟨c', major'⟩ := b
  change (compare c c').then ((compare major major').then .eq) = _
  cases compare major major' with
  | lt => rfl
  | eq => rfl
  | gt => rfl

/-- The derived order of declarations: by capability, then by contract. -/
theorem declaration_le_iff (a b : CapabilityDeclaration) : (compare a b).isLE = true ↔
      a.capabilityId < b.capabilityId ∨ a.capabilityId = b.capabilityId ∧ a.contractMajor ≤ b.contractMajor := by
  rw [compare_declaration]
  rcases lt_trichotomy a.capabilityId b.capabilityId with hlt | heq | hgt
  · rw [compare_lt_iff_lt.mpr hlt]
    exact iff_of_true rfl (Or.inl hlt)
  · rw [compare_eq_iff_eq.mpr heq]
    simp [heq, Nat.isLE_compare]
  · rw [compare_gt_iff_gt.mpr hgt]
    refine iff_of_false Bool.false_ne_true ?_
    rintro (h | ⟨h, -⟩)
    · exact lt_asymm hgt h
    · exact hgt.ne' h

theorem pairwise_sortByOrd (l : List CapabilityDeclaration) : (sortByOrd l).Pairwise (fun a b => (compare a b).isLE = true) := by
  have : Std.Total (fun a b : CapabilityDeclaration => (compare a b).isLE = true) := by
    refine ⟨fun a b => ?_⟩
    rw [declaration_le_iff, declaration_le_iff]
    rcases lt_trichotomy a.capabilityId b.capabilityId with hlt | heq | hgt
    · exact Or.inl (Or.inl hlt)
    · rcases Nat.le_total a.contractMajor b.contractMajor with hle | hle
      · exact Or.inl (Or.inr ⟨heq, hle⟩)
      · exact Or.inr (Or.inr ⟨heq.symm, hle⟩)
    · exact Or.inr (Or.inl hgt)
  have : IsTrans CapabilityDeclaration (fun a b => (compare a b).isLE = true) := by
    refine ⟨fun a b c => ?_⟩
    rw [declaration_le_iff, declaration_le_iff, declaration_le_iff]
    rintro (hab | ⟨hab, hmajor⟩) (hbc | ⟨hbc, hmajor'⟩)
    · exact Or.inl (hab.trans hbc)
    · exact Or.inl (hbc ▸ hab)
    · exact Or.inl (hab ▸ hbc)
    · exact Or.inr ⟨hab.trans hbc, hmajor.trans hmajor'⟩
  exact List.pairwise_insertionSort _ _

/-- Declarations that are sorted come out the same in whatever order they go in. -/
theorem sortByOrd_eq_of_perm {l₁ l₂ : List CapabilityDeclaration} (h : l₁.Perm l₂) : sortByOrd l₁ = sortByOrd l₂ := by
  have hanti : ∀ a b : CapabilityDeclaration, (compare a b).isLE = true → (compare b a).isLE = true → a = b := by
    intro a b
    rw [declaration_le_iff, declaration_le_iff]
    rintro (hab | ⟨hab, hmajor⟩) (hba | ⟨hba, hmajor'⟩)
    · exact absurd hab (lt_asymm hba)
    · exact absurd hba hab.ne'
    · exact absurd hab hba.ne'
    · obtain ⟨c, major⟩ := a
      obtain ⟨c', major'⟩ := b
      cases hab
      cases Nat.le_antisymm hmajor hmajor'
      rfl
  refine List.Perm.eq_of_pairwise (fun a b _ _ => hanti a b) (pairwise_sortByOrd l₁) (pairwise_sortByOrd l₂) ?_
  exact (List.perm_insertionSort _ _).trans (h.trans (List.perm_insertionSort _ _).symm)

theorem normalize_eq {a b : PluginDescriptor} (h : SameDescriptor a b) : a.normalize = b.normalize := by
  unfold PluginDescriptor.normalize
  rw [sortByOrd_eq_of_perm h.provides, sortByOrd_eq_of_perm h.requires, sortByOrd_eq_of_perm h.optional, h.allowedScopes]
  cases a
  cases b
  cases h.id
  rfl

/-- The least id that occurs twice in a sorted list is read off the ids. -/
theorem adjacentByKey_map {α κ : Type*} [DecidableEq κ] (key : α → κ) (l : List α) :
    (adjacentByKey key l).map (fun p => key p.1) = (adjacentByKey (fun k => k) (l.map key)).map (·.1) := by
  induction l with
  | nil => rfl
  | cons a l ih =>
    cases l with
    | nil => rfl
    | cons b l =>
      simp only [List.map_cons, adjacentByKey]
      split
      · rfl
      · exact ih

variable {ds₁ ds₂ : List PluginDescriptor}

theorem normalized_perm (h : SamePresentation ds₁ ds₂) : (normalizedDescriptors ds₁).Perm (normalizedDescriptors ds₂) := by
  obtain ⟨ds, hperm, hsame⟩ := h
  have hmap : ds.map (·.normalize) = ds₂.map (·.normalize) := by
    clear hperm
    induction hsame with
    | nil => rfl
    | cons hd _ ih => rw [List.map_cons, List.map_cons, normalize_eq hd, ih]
  refine (normalizedDescriptors_perm ds₁).trans (List.Perm.trans ?_ (normalizedDescriptors_perm ds₂).symm)
  rw [← hmap]
  exact hperm.map _

theorem normalized_ids (h : SamePresentation ds₁ ds₂) :
    (normalizedDescriptors ds₁).map (·.id) = (normalizedDescriptors ds₂).map (·.id) := by
  have hsorted : ∀ ds, ((normalizedDescriptors ds).map (·.id)).Pairwise (· ≤ ·) := fun ds =>
    List.pairwise_map.mpr (normalizedDescriptors_sorted ds)
  exact List.Perm.eq_of_pairwise (fun _ _ _ _ => le_antisymm) (hsorted ds₁) (hsorted ds₂) ((normalized_perm h).map _)

/-- Without a duplicate id, the sorted descriptors are the same list. -/
theorem normalized_eq (h : SamePresentation ds₁ ds₂) (hnodup : adjacentByKey (fun d => d.id) (normalizedDescriptors ds₁) = none) :
    normalizedDescriptors ds₁ = normalizedDescriptors ds₂ := by
  refine List.Perm.eq_of_pairwise ?_ (normalizedDescriptors_sorted ds₁) (normalizedDescriptors_sorted ds₂) (normalized_perm h)
  intro a b ha hb hab hba
  exact List.inj_on_of_nodup_map (ids_nodup hnodup) ha ((normalized_perm h).mem_iff.mpr hb) (le_antisymm hab hba)

/-- With one, both lists report the least id that occurs twice. -/
theorem duplicate_eq (h : SamePresentation ds₁ ds₂) :
    (adjacentByKey (fun d => d.id) (normalizedDescriptors ds₁)).map (fun p => p.1.id) =
      (adjacentByKey (fun d => d.id) (normalizedDescriptors ds₂)).map (fun p => p.1.id) := by
  rw [adjacentByKey_map (fun d : PluginDescriptor => d.id), adjacentByKey_map (fun d : PluginDescriptor => d.id),
    normalized_ids h]

/-- The resolver reads the number of the descriptors and their sorted list. -/
theorem resolve_of_duplicate {ds : List PluginDescriptor} {pair : PluginDescriptor × PluginDescriptor}
    (h : adjacentByKey (fun d => d.id) (normalizedDescriptors ds) = some pair) :
    resolveActivationPlan scc policy scope parentPlan ds =
      (policy.validateIdentity scope (parentPlan.map (·.scope)) >>= fun _ =>
        if maxPluginsPerScope < ds.length then
          .error (.limitExceeded .pluginsPerScope none ds.length maxPluginsPerScope)
        else .error (.duplicatePlugin pair.1.id)) := by
  unfold resolveActivationPlan
  cases policy.validateIdentity scope (parentPlan.map (·.scope)) with
  | error e => rfl
  | ok _ =>
    simp only [h]
    split
    · rfl
    · rfl

end ResolutionAux

/-- The resolver does not depend on presentation order: the same plan, or the same error. -/
theorem resolveActivationPlan_presentation {ds₁ ds₂ : List PluginDescriptor} (h : SamePresentation ds₁ ds₂) :
    resolveActivationPlan scc policy scope parentPlan ds₁ = resolveActivationPlan scc policy scope parentPlan ds₂ := by
  have hlength : ds₁.length = ds₂.length := by
    obtain ⟨ds, hperm, hsame⟩ := h
    exact hperm.length_eq.trans hsame.length_eq
  have hduplicate := ResolutionAux.duplicate_eq h
  cases hadj : adjacentByKey (fun d => d.id) (normalizedDescriptors ds₁) with
  | none =>
    unfold resolveActivationPlan
    rw [ResolutionAux.normalized_eq h hadj, hlength]
  | some pair =>
    rw [hadj] at hduplicate
    obtain ⟨pair', hadj', hid⟩ := Option.map_eq_some_iff.mp hduplicate.symm
    rw [ResolutionAux.resolve_of_duplicate hadj, ResolutionAux.resolve_of_duplicate hadj', hlength, hid]

/-! A plugin that uses two capabilities of another, listed in either order. -/

namespace ResolutionAux

open ActivationAux

def provider (provides : List CapabilityDeclaration) : PluginDescriptor :=
  ⟨⟨"host", host_valid⟩, [⟨"application", application_valid⟩], provides, [], []⟩

def consumer (requires : List CapabilityRequirement) : PluginDescriptor :=
  ⟨⟨"client", by decide⟩, [⟨"application", application_valid⟩], [], requires, []⟩

def logThenPlot : List CapabilityDeclaration := [cap "log" log_valid, cap "plot" plot_valid]

end ResolutionAux

open ActivationAux ResolutionAux in
/-- The same plan in both orders. -/
theorem resolveActivationPlan_presentation_swapped :
    (resolveActivationPlan componentsOf hostPolicy applicationScope none [provider logThenPlot, consumer logThenPlot]).isOk = true ∧
      resolveActivationPlan componentsOf hostPolicy applicationScope none [provider logThenPlot, consumer logThenPlot] =
        resolveActivationPlan componentsOf hostPolicy applicationScope none
          [consumer logThenPlot.reverse, provider logThenPlot.reverse] := by
  refine ⟨by decide +kernel, resolveActivationPlan_presentation ?_⟩
  have hswap : logThenPlot.Perm logThenPlot.reverse := (List.reverse_perm _).symm
  refine ⟨[consumer logThenPlot, provider logThenPlot], List.Perm.swap _ _ _, ?_⟩
  refine .cons ⟨rfl, rfl, .refl _, hswap, .refl _⟩ (.cons ⟨rfl, rfl, hswap, .refl _, .refl _⟩ .nil)

/-! ## Chains of plans -/

structure ChainLevel where
  scope : ScopeIdentity
  descriptors : List PluginDescriptor

/-- The levels of a chain, the innermost first, and the plan of the innermost: each was resolved over the plan before it. -/
inductive PlanChain (scc : ProviderGraph → List (List PluginId)) (policy : ScopePolicy) :
    List ChainLevel → Option ActivationPlan → Prop where
  | nil : PlanChain scc policy [] none
  | cons {levels : List ChainLevel} {parentPlan : Option ActivationPlan} {scope : ScopeIdentity}
      {descriptors : List PluginDescriptor} {plan : ActivationPlan} : PlanChain scc policy levels parentPlan →
      resolveActivationPlan scc policy scope parentPlan descriptors = .ok plan →
        PlanChain scc policy (⟨scope, descriptors⟩ :: levels) (some plan)

/-- A descriptor of the level provides the capability. -/
def ChainLevel.Provides (level : ChainLevel) (capabilityId : CapabilityId) (p : ProviderIdentity) : Prop :=
  ∃ d ∈ level.descriptors, ∃ declaration ∈ d.provides, declaration.capabilityId = capabilityId ∧
    p = { pluginId := d.id, scope := level.scope, contractMajor := declaration.contractMajor }

/-- A level of the chain provides the capability. -/
def Provides (levels : List ChainLevel) (capabilityId : CapabilityId) (p : ProviderIdentity) : Prop :=
  ∃ level ∈ levels, level.Provides capabilityId p

/-- How a requirement is bound: to the provider in effect, and an optional one without a provider to none. -/
def boundTo (effectiveProviders : CapabilityId → Option ProviderIdentity) (r : CapabilityRequirement × RequirementKind) :
    RequirementBinding where
  requirement := r.1
  kind := r.2
  resolution :=
    match effectiveProviders r.1.capabilityId with
    | some provider => .provider provider
    | none => .absentOptional

/-- The requirements of a descriptor, required and optional. -/
def PluginDescriptor.asks (d : PluginDescriptor) : List (CapabilityRequirement × RequirementKind) :=
  d.requires.map (·, RequirementKind.required) ++ d.optional.map (·, RequirementKind.optional)

/-- What a plan over a chain says. -/
structure PlanSound (levels : List ChainLevel) (parentPlan : Option ActivationPlan) (level : ChainLevel) (plan : ActivationPlan) :
    Prop where
  /-- A required capability has one provider, in the scope or above it, of the contract that is asked for. -/
  required : ∀ d ∈ level.descriptors, ∀ r ∈ d.requires, ∃ p, p.contractMajor = r.contractMajor ∧
    ∀ q, Provides (level :: levels) r.capabilityId q ↔ q = p
  /-- The plugins of the scope have bindings, each once. -/
  plugins : (plan.bindings.map (·.1)).Nodup ∧ (plan.bindings.map (·.1)).Perm (level.descriptors.map (·.id))
  /-- The bindings of a plugin are its requirements, each once, bound to the provider that is there. -/
  bindings : ∀ d ∈ level.descriptors, ∀ bs, (d.id, bs) ∈ plan.bindings → bs.Perm (d.asks.map (boundTo plan.effectiveProviders))
  /-- The providers in effect are those of the parent plan and those of the scope. -/
  effective : ∀ capabilityId p, plan.effectiveProviders capabilityId = some p ↔
    parentProvidersOf parentPlan capabilityId = some p ∨ level.Provides capabilityId p
  /-- They are the providers along the chain, and no capability has two. -/
  chain : ∀ capabilityId p, plan.effectiveProviders capabilityId = some p ↔ Provides (level :: levels) capabilityId p

namespace ResolutionAux

variable {levels : List ChainLevel} {declared : List (CapabilityId × ProviderIdentity)}
  {parent : CapabilityId → Option ProviderIdentity} {c : CapabilityId} {ctx : ResolveContext} {id : PluginId}
  {s : ResolveState × List RequirementBinding} {r : CapabilityRequirement × RequirementKind} {d : PluginDescriptor}

theorem produced_of_chain (h : PlanChain scc policy levels parentPlan) :
    ∀ parent, parentPlan = some parent → Produced scc policy parent := by
  induction h with
  | nil =>
    intro parent heq
    cases heq
  | @cons levels parentPlan scope descriptors plan _ hres ih =>
    intro parent heq
    cases heq
    cases parentPlan with
    | none => exact .root hres
    | some above => exact .child (ih above rfl) hres

/-- What is declared is what the descriptors provide, before and after they are sorted. -/
theorem mem_declared (scope : ScopeIdentity) (descriptors : List PluginDescriptor) (c : CapabilityId) (p : ProviderIdentity) :
    (c, p) ∈ declaredProviders scope (normalizedDescriptors descriptors) ↔ ChainLevel.Provides ⟨scope, descriptors⟩ c p := by
  have hmem : ∀ d, d ∈ normalizedDescriptors descriptors ↔ ∃ d' ∈ descriptors, d'.normalize = d := by
    intro d
    rw [(normalizedDescriptors_perm descriptors).mem_iff, List.mem_map]
  unfold declaredProviders ChainLevel.Provides
  simp only [List.mem_flatMap, List.mem_map, hmem]
  constructor
  · rintro ⟨_, ⟨d, hd, rfl⟩, declaration, hdeclaration, heq⟩
    cases heq
    exact ⟨d, hd, declaration, (mem_sortByOrd _ _).mp hdeclaration, rfl, rfl⟩
  · rintro ⟨d, hd, declaration, hdeclaration, rfl, rfl⟩
    exact ⟨_, ⟨d, hd, rfl⟩, declaration, (mem_sortByOrd _ _).mpr hdeclaration, rfl⟩

/-- A capability that is declared in the scope has no provider above. -/
theorem parent_none {p : ProviderIdentity} (hcheck : ∀ c ∈ declared.map (·.1), checkProviders declared parent c = .ok ())
    (hmem : (c, p) ∈ declared) : parent c = none := by
  have hone := hcheck c (List.mem_map_of_mem hmem)
  unfold checkProviders at hone
  dsimp only at hone
  split at hone
  · cases hone
  · split at hone
    · cases hone
    · assumption

/-- The providers in effect are the parent's and the scope's own. -/
theorem effectiveProvidersOf_iff (hcheck : ∀ c ∈ declared.map (·.1), checkProviders declared parent c = .ok ())
    (c : CapabilityId) (p : ProviderIdentity) :
    effectiveProvidersOf declared parent c = some p ↔ parent c = some p ∨ (c, p) ∈ declared := by
  constructor
  · intro h
    exact (effectiveProvidersOf_cases h).symm
  · rintro (hparent | hmem)
    · unfold effectiveProvidersOf
      split
      · rename_i x hx
        have hc : x.1 = c := by simpa using List.find?_some hx
        have hmem : (c, x.2) ∈ declared := by
          rw [← hc]
          exact List.mem_of_find?_eq_some hx
        have hnone := parent_none hcheck hmem
        rw [hparent] at hnone
        cases hnone
      · exact hparent
    · exact effectiveProvidersOf_declared hcheck hmem

/-- Along a chain, the providers in effect are those that the levels provide. -/
theorem effective_of_chain (h : PlanChain scc policy levels parentPlan) (c : CapabilityId)
    (p : ProviderIdentity) : parentProvidersOf parentPlan c = some p ↔ Provides levels c p := by
  induction h with
  | nil =>
    refine iff_of_false nofun ?_
    rintro ⟨level, hlevel, -⟩
    cases hlevel
  | @cons levels parentPlan scope descriptors plan _ hres ih =>
    obtain ⟨-, -, hcheck, s, -, -, rfl⟩ := resolve_ok_inv hres
    change effectiveProvidersOf _ _ c = some p ↔ _
    rw [effectiveProvidersOf_iff hcheck, ih, mem_declared]
    unfold Provides
    constructor
    · rintro (⟨level, hlevel, hprovides⟩ | hown)
      · exact ⟨level, List.mem_cons_of_mem _ hlevel, hprovides⟩
      · exact ⟨_, List.mem_cons_self, hown⟩
    · rintro ⟨level, hlevel, hprovides⟩
      rcases List.mem_cons.mp hlevel with rfl | hlevel
      · exact Or.inr hprovides
      · exact Or.inl ⟨level, hlevel, hprovides⟩

/-! ### What the loop has checked -/

/-- A requirement that was bound has a provider of its contract; only an optional one may have none. -/
theorem bindRequirement_checked {s' : ResolveState × List RequirementBinding}
    (h : bindRequirement ctx id s r = .ok s') (hrequired : r.2 = .required) :
    ∃ p, ctx.effectiveProviders r.1.capabilityId = some p ∧ p.contractMajor = r.1.contractMajor := by
  unfold bindRequirement at h
  cases hp : ctx.effectiveProviders r.1.capabilityId with
  | none =>
    simp only [hp, if_pos hrequired] at h
    cases h
  | some p =>
    simp only [hp] at h
    split at h
    · cases h
    · rename_i hmajor
      exact ⟨p, rfl, not_not.mp hmajor⟩

theorem required_checked {ds : List PluginDescriptor} {s : ResolveState}
    (h : ds.foldlM (bindDescriptor ctx) ResolveState.init = .ok s) (hd : d ∈ ds)
    {r : CapabilityRequirement} (hr : r ∈ d.requires) :
    ∃ p, ctx.effectiveProviders r.capabilityId = some p ∧ p.contractMajor = r.contractMajor := by
  obtain ⟨t, t', ht⟩ := foldlM_mem _ _ _ h d hd
  obtain ⟨u, hu, -⟩ := bind_eq_ok ht
  have hmem : (r, RequirementKind.required) ∈ d.requirements := by
    refine (List.perm_insertionSort _ _).mem_iff.mpr (List.mem_append_left _ ?_)
    exact List.mem_map_of_mem hr
  obtain ⟨v, v', hv⟩ := foldlM_mem _ _ _ hu _ hmem
  exact bindRequirement_checked hv rfl

/-- The order of the requirements does not matter to which they are. -/
theorem requirements_perm (d : PluginDescriptor) : d.normalize.requirements.Perm d.asks := by
  refine (List.perm_insertionSort _ _).trans ?_
  exact ((List.perm_insertionSort _ d.requires).map _).append ((List.perm_insertionSort _ d.optional).map _)

/-! ### The lookup of a node -/

/-- Only a provider of the scope is looked up, and it is a node. -/
theorem bindRequirement_node {e : ExtensionError} (h : bindRequirement ctx id s r = .error e)
    (hnodes : ∀ c p, ctx.effectiveProviders c = some p → p.scope = ctx.scope → p.pluginId ∈ ctx.nodes) (hid : id ∈ ctx.nodes)
    (missing : PluginId) : e ≠ .missingNode missing := by
  unfold bindRequirement at h
  cases hp : ctx.effectiveProviders r.1.capabilityId with
  | none =>
    simp only [hp] at h
    split at h
    · cases h
      exact nofun
    · cases h
  | some p =>
    simp only [hp] at h
    split at h
    · cases h
      exact nofun
    split at h
    · cases h
      exact nofun
    split at h
    · rename_i hscope
      simp only [hnodes _ p hp hscope, not_true_eq_false, if_false] at h
      cases h
    · cases h

theorem validateIdentity_node {parent : Option ScopeIdentity} (missing : PluginId) :
    policy.validateIdentity scope parent ≠ .error (.missingNode missing) := by
  intro h
  unfold ScopePolicy.validateIdentity at h
  repeat' split at h
  all_goals cases h

theorem validateForScope_node {kind : ScopeKindId} (missing : PluginId) :
    d.validateForScope kind ≠ .error (.missingNode missing) := by
  intro h
  unfold PluginDescriptor.validateForScope at h
  extract_lets scopeAllowed both optionalOnce requiredOnce providedOnce scopeOnce scopes optionalLimit requiredLimit at h
  have hscopeAllowed : ∀ u, scopeAllowed u ≠ .error (.missingNode missing) := by
    intro u hu
    simp only [scopeAllowed] at hu
    split at hu
    · cases hu
    · cases hu
  have hboth : ∀ u, both u ≠ .error (.missingNode missing) := by
    intro u hu
    simp only [both] at hu
    split at hu
    · cases hu
    · exact hscopeAllowed () hu
  have hoptionalOnce : ∀ u, optionalOnce u ≠ .error (.missingNode missing) := by
    intro u hu
    simp only [optionalOnce] at hu
    split at hu
    · cases hu
    · exact hboth () hu
  have hrequiredOnce : ∀ u, requiredOnce u ≠ .error (.missingNode missing) := by
    intro u hu
    simp only [requiredOnce] at hu
    split at hu
    · cases hu
    · exact hoptionalOnce () hu
  have hprovidedOnce : ∀ u, providedOnce u ≠ .error (.missingNode missing) := by
    intro u hu
    simp only [providedOnce] at hu
    split at hu
    · cases hu
    · exact hrequiredOnce () hu
  have hscopeOnce : ∀ u, scopeOnce u ≠ .error (.missingNode missing) := by
    intro u hu
    simp only [scopeOnce] at hu
    split at hu
    · cases hu
    · exact hprovidedOnce () hu
  have hscopes : ∀ u, scopes u ≠ .error (.missingNode missing) := by
    intro u hu
    simp only [scopes] at hu
    split at hu
    · cases hu
    · exact hscopeOnce () hu
  have hoptionalLimit : ∀ u, optionalLimit u ≠ .error (.missingNode missing) := by
    intro u hu
    simp only [optionalLimit] at hu
    split at hu
    · cases hu
    · exact hscopes () hu
  have hrequiredLimit : ∀ u, requiredLimit u ≠ .error (.missingNode missing) := by
    intro u hu
    simp only [requiredLimit] at hu
    split at hu
    · cases hu
    · exact hoptionalLimit () hu
  split at h
  · cases h
  · exact hrequiredLimit () h

theorem checkProviders_node (missing : PluginId) : checkProviders declared parent c ≠ .error (.missingNode missing) := by
  intro h
  unfold checkProviders at h
  dsimp only at h
  repeat' split at h
  all_goals cases h

/-- No lookup fails, whatever else may. -/
theorem resolve_node (hparent : ∀ parent, parentPlan = some parent → Produced scc policy parent) (missing : PluginId) :
    resolveActivationPlan scc policy scope parentPlan descriptors ≠ .error (.missingNode missing) := by
  intro h
  unfold resolveActivationPlan at h
  rcases bind_eq_error h with herror | ⟨⟨⟩, hid, h⟩
  · exact validateIdentity_node missing herror
  dsimp only at h
  split at h
  · cases h
  split at h
  · cases h
  rcases bind_eq_error h with herror | ⟨⟨⟩, -, h⟩
  · obtain ⟨d, -, hd⟩ := forM_error _ _ herror
    exact validateForScope_node missing hd
  rcases bind_eq_error h with herror | ⟨⟨⟩, hcheck, h⟩
  · obtain ⟨c, -, hc⟩ := forM_error _ _ herror
    exact checkProviders_node missing hc
  rcases bind_eq_error h with herror | ⟨s, -, h⟩
  · have hdeclared : ∀ c p, effectiveProvidersOf (declaredProviders scope (normalizedDescriptors descriptors))
        (parentProvidersOf parentPlan) c = some p → p.scope = scope →
          p.pluginId ∈ (normalizedDescriptors descriptors).map (·.id) := by
      intro c p hp hscope
      rcases effectiveProvidersOf_cases hp with hmem | habove
      · obtain ⟨-, d, hd, hdid, -⟩ := declared_mem hmem
        exact List.mem_map.mpr ⟨d, hd, hdid⟩
      · exact absurd hscope (parent_scope_ne hid hparent habove)
    refine foldlM_error_mem (P := fun e => e ≠ .missingNode missing) _ ?_ _ _ herror rfl
    intro t d hd e he
    rcases bind_eq_error he with hfold | ⟨r, -, hret⟩
    · refine foldlM_error_mem (P := fun e => e ≠ .missingNode missing) _ ?_ _ _ hfold
      intro u r _ e hr
      exact bindRequirement_node hr hdeclared (List.mem_map_of_mem hd) missing
    · cases hret
  split at h
  · cases h
  · cases h

/-! ### The plan -/

theorem planSound (hchain : PlanChain scc policy levels parentPlan)
    (h : resolveActivationPlan scc policy scope parentPlan descriptors = .ok plan) :
    PlanSound levels parentPlan ⟨scope, descriptors⟩ plan := by
  have heffective := effective_of_chain (PlanChain.cons hchain h)
  obtain ⟨-, hadj, hcheck, s, hs, -, hplan⟩ := resolve_ok_inv h
  obtain ⟨hbindings, -, -⟩ := foldlM_bindDescriptor _ _ hs
  have hnodup := ids_nodup hadj
  have hplanBindings : plan.bindings = (normalizedDescriptors descriptors).map (fun d =>
      (d.id, d.requirements.map (boundTo plan.effectiveProviders))) := by
    rw [hplan]
    exact hbindings
  have hkeys : plan.bindings.map (·.1) = (normalizedDescriptors descriptors).map (·.id) := by
    rw [hplanBindings, List.map_map]
    rfl
  have hnormal : ∀ d ∈ descriptors, d.normalize ∈ normalizedDescriptors descriptors := fun d hd =>
    (normalizedDescriptors_perm descriptors).mem_iff.mpr (List.mem_map_of_mem hd)
  refine ⟨?_, ⟨by rw [hkeys]; exact hnodup, by rw [hkeys]; exact normalizedDescriptors_ids descriptors⟩, ?_, ?_, heffective⟩
  · intro d hd r hr
    obtain ⟨p, hp, hmajor⟩ := required_checked hs (hnormal d hd) ((mem_sortByOrd r d.requires).mpr hr)
    refine ⟨p, hmajor, ?_⟩
    intro q
    have hplanProvider : plan.effectiveProviders r.capabilityId = some p := by
      rw [hplan]
      exact hp
    rw [← heffective]
    change plan.effectiveProviders r.capabilityId = some q ↔ _
    rw [hplanProvider, Option.some_inj, eq_comm]
  · intro d hd bs hbs
    rw [hplanBindings] at hbs
    obtain ⟨d', hd', heq⟩ := List.mem_map.mp hbs
    obtain ⟨hid, rfl⟩ := Prod.mk.inj heq
    have hsame : d' = d.normalize := List.inj_on_of_nodup_map hnodup hd' (hnormal d hd) hid
    rw [hsame]
    exact (requirements_perm d).map _
  · intro c p
    rw [hplan]
    change effectiveProvidersOf _ _ c = some p ↔ _
    rw [effectiveProvidersOf_iff hcheck, mem_declared]

end ResolutionAux

/-- Over a chain of plans, no lookup of a node fails, and a plan that is returned says of every capability what the chain provides
of it. -/
theorem plans_of_chain_sound {levels : List ChainLevel} (hchain : PlanChain scc policy levels parentPlan) (level : ChainLevel) :
    (∀ missing, resolveActivationPlan scc policy level.scope parentPlan level.descriptors ≠ .error (.missingNode missing)) ∧
      ∀ plan, resolveActivationPlan scc policy level.scope parentPlan level.descriptors = .ok plan →
        PlanSound levels parentPlan level plan :=
  ⟨ResolutionAux.resolve_node (ResolutionAux.produced_of_chain hchain), fun _ h => ResolutionAux.planSound hchain h⟩

/-! An application, a project and a workspace; the workspace uses a capability of the application and one of its own project. -/

namespace ResolutionAux

open ActivationAux ScopePolicy

def levelAt (kind : ScopeKindId) (id : ScopeId) (parentId : Option ScopeId) (descriptors : List PluginDescriptor) : ChainLevel :=
  ⟨⟨kind, id, parentId, ⟨1, one_nonzero⟩⟩, descriptors⟩

def applicationLevel : ChainLevel :=
  levelAt applicationKind ⟨"app", app_valid⟩ none
    [⟨⟨"host", host_valid⟩, [applicationKind], [cap "log" log_valid], [], []⟩]

def projectLevel : ChainLevel :=
  levelAt projectKind ⟨"project", project_valid⟩ (some ⟨"app", app_valid⟩)
    [⟨⟨"figures", by decide⟩, [projectKind], [cap "plot" plot_valid], [cap "log" log_valid], []⟩]

def workspaceLevel : ChainLevel :=
  levelAt workspaceKind ⟨"workspace", workspace_valid⟩ (some ⟨"project", project_valid⟩)
    [⟨⟨"report", by decide⟩, [workspaceKind], [], [cap "plot" plot_valid, cap "log" log_valid], [cap "mail" (by decide)]⟩]

def resolveLevel (parentPlan : Option ActivationPlan) (level : ChainLevel) : Except ExtensionError ActivationPlan :=
  resolveActivationPlan componentsOf .phaseOne level.scope parentPlan level.descriptors

theorem ok_of_isOk {ε α : Type} {x : Except ε α} (h : x.isOk = true) : ∃ a, x = .ok a := by
  cases x with
  | error e => cases h
  | ok a => exact ⟨a, rfl⟩

end ResolutionAux

open ActivationAux ResolutionAux in
/-- All three resolve, and the workspace's plan is sound. -/
theorem plans_of_chain_sound_workspace :
    ∃ project plan, PlanChain componentsOf .phaseOne [projectLevel, applicationLevel] (some project) ∧
      resolveActivationPlan componentsOf .phaseOne workspaceLevel.scope (some project) workspaceLevel.descriptors = .ok plan ∧
      PlanSound [projectLevel, applicationLevel] (some project) workspaceLevel plan := by
  have happlication : (resolveLevel none applicationLevel).isOk = true := by decide +kernel
  have hproject : (resolveLevel none applicationLevel >>= fun a => resolveLevel (some a) projectLevel).isOk = true := by
    decide +kernel
  have hworkspace : (resolveLevel none applicationLevel >>= fun a => resolveLevel (some a) projectLevel >>= fun p =>
      resolveLevel (some p) workspaceLevel).isOk = true := by
    decide +kernel
  obtain ⟨application, ha⟩ := ok_of_isOk happlication
  rw [ha] at hproject hworkspace
  obtain ⟨project, hp⟩ : ∃ project, resolveLevel (some application) projectLevel = .ok project := ok_of_isOk hproject
  have hworkspace' : (resolveLevel (some application) projectLevel >>= fun p => resolveLevel (some p) workspaceLevel).isOk = true :=
    hworkspace
  rw [hp] at hworkspace'
  obtain ⟨plan, hplan⟩ : ∃ plan, resolveLevel (some project) workspaceLevel = .ok plan := ok_of_isOk hworkspace'
  have hchain : PlanChain componentsOf .phaseOne [projectLevel, applicationLevel] (some project) := .cons (.cons .nil ha) hp
  exact ⟨project, plan, hchain, hplan, (plans_of_chain_sound hchain workspaceLevel).2 plan hplan⟩

end Rho
