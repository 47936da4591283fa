import Rho.Theorems.Resolution

/-!
# The cycle that is reported

A resolution whose plugins are valid and whose requirements can all be bound fails exactly when some plugin depends on itself through
others of its scope. The path that is reported then is a cycle without repetitions, and starts at the least plugin on any cycle.
-/

namespace Rho

open Relation ResolverAux ResolutionAux Fallible PluginDescriptor

variable {scc : ProviderGraph → List (List PluginId)} {policy : ScopePolicy} {scope : ScopeIdentity}
  {parentPlan : Option ActivationPlan} {descriptors : List PluginDescriptor}

/-! ## What can be bound -/

/-- The provider that is in effect for a capability. -/
def providerInEffect (scope : ScopeIdentity) (parentPlan : Option ActivationPlan) (descriptors : List PluginDescriptor) :
    CapabilityId → Option ProviderIdentity :=
  (resolveContext scope parentPlan (normalizedDescriptors descriptors)).effectiveProviders

/-- A requirement is bound to a provider of its contract; only an optional one is left without. -/
def Satisfied (effective : CapabilityId → Option ProviderIdentity) (r : CapabilityRequirement × RequirementKind) : Prop :=
  match effective r.1.capabilityId with
  | none => r.2 = .optional
  | some provider => provider.contractMajor = r.1.contractMajor

instance (effective : CapabilityId → Option ProviderIdentity) : DecidablePred (Satisfied effective) := fun r =>
  match h : effective r.1.capabilityId with
  | none => decidable_of_iff (r.2 = .optional) (by rw [Satisfied, h])
  | some provider => decidable_of_iff (provider.contractMajor = r.1.contractMajor) (by rw [Satisfied, h])

/-- The descriptors are valid in the scope, every capability has one provider at most, and every requirement is satisfied, within
the limits. -/
structure Resolvable (policy : ScopePolicy) (scope : ScopeIdentity) (parentPlan : Option ActivationPlan)
    (descriptors : List PluginDescriptor) : Prop where
  identity : policy.validateIdentity scope (parentPlan.map (·.scope)) = .ok ()
  count : descriptors.length ≤ maxPluginsPerScope
  ids : (descriptors.map (·.id)).Nodup
  valid : ∀ d ∈ descriptors, d.normalize.validateForScope scope.kind = .ok ()
  unique : ((declaredProviders scope descriptors).map (·.1)).Nodup
  fresh : ∀ c ∈ (declaredProviders scope descriptors).map (·.1), parentProvidersOf parentPlan c = none
  satisfied : ∀ d ∈ descriptors, ∀ r ∈ d.asks, Satisfied (providerInEffect scope parentPlan descriptors) r
  edges : (descriptors.flatMap PluginDescriptor.asks).countP
    (fun r => (providerInEffect scope parentPlan descriptors r.1.capabilityId).isSome) ≤ maxResolvedEdges

namespace CycleAux

theorem adjacentByKey_eq_none {α κ : Type*} [DecidableEq κ] (key : α → κ) :
    ∀ l : List α, (l.map key).Nodup → adjacentByKey key l = none
  | [], _ => rfl
  | [_], _ => rfl
  | a :: b :: l, h => by
    obtain ⟨ha, hrest⟩ := List.nodup_cons.mp h
    have hne : key a ≠ key b := fun h => ha (h ▸ List.mem_cons_self)
    unfold adjacentByKey
    rw [if_neg hne]
    exact adjacentByKey_eq_none key (b :: l) hrest

theorem declaredProviders_perm (scope : ScopeIdentity) (descriptors : List PluginDescriptor) :
    (declaredProviders scope (normalizedDescriptors descriptors)).Perm (declaredProviders scope descriptors) := by
  unfold declaredProviders
  refine ((normalizedDescriptors_perm descriptors).flatMap_right _).trans ?_
  rw [List.flatMap_map]
  refine List.Perm.flatMap_left _ fun d _ => ?_
  exact (List.perm_insertionSort _ d.provides).map _

theorem checkProviders_ok {declared : List (CapabilityId × ProviderIdentity)} {parent : CapabilityId → Option ProviderIdentity}
    (hunique : (declared.map (·.1)).Nodup) {c : CapabilityId} (hfresh : parent c = none) :
    checkProviders declared parent c = .ok () := by
  have hone : (declared.filter (fun p => p.1 = c)).length ≤ 1 := by
    have hcount := List.nodup_iff_count_le_one.mp hunique c
    rw [List.count, List.countP_map] at hcount
    rw [← List.countP_eq_length_filter]
    exact hcount
  unfold checkProviders
  simp only [sortByOrd, List.length_insertionSort, List.length_map, if_neg (Nat.not_lt_of_le hone), hfresh]

/-! ## The loop succeeds -/

variable {ctx : ResolveContext} {effective : CapabilityId → Option ProviderIdentity}

/-- How many requirements are bound to a provider. -/
def boundCount (effective : CapabilityId → Option ProviderIdentity) (rs : List (CapabilityRequirement × RequirementKind)) : Nat :=
  rs.countP fun r => (effective r.1.capabilityId).isSome

theorem bindRequirement_of_satisfied {id : PluginId} {s : ResolveState × List RequirementBinding}
    {r : CapabilityRequirement × RequirementKind} (hr : Satisfied ctx.effectiveProviders r)
    (hnodes : ∀ c p, ctx.effectiveProviders c = some p → p.scope = ctx.scope → p.pluginId ∈ ctx.nodes) (hid : id ∈ ctx.nodes)
    (hedges : s.1.edgeCount + boundCount ctx.effectiveProviders [r] ≤ maxResolvedEdges) :
    ∃ s', bindRequirement ctx id s r = .ok s' ∧
      s'.1.edgeCount = s.1.edgeCount + boundCount ctx.effectiveProviders [r] := by
  unfold Satisfied at hr
  unfold boundCount at hedges ⊢
  unfold bindRequirement
  rw [List.countP_singleton] at hedges ⊢
  cases hp : ctx.effectiveProviders r.1.capabilityId with
  | none =>
    simp only [hp] at hr ⊢
    rw [if_neg (fun h => by rw [hr] at h; cases h)]
    exact ⟨_, rfl, rfl⟩
  | some p =>
    simp only [hp, Option.isSome_some, if_true] at hr hedges ⊢
    rw [if_neg (not_not.mpr hr), if_neg (Nat.not_lt_of_le hedges)]
    split
    · next hscope =>
      rw [if_neg (not_not.mpr (hnodes _ p hp hscope))]
      exact ⟨_, rfl, rfl⟩
    · exact ⟨_, rfl, rfl⟩

/-- The requirements of one plugin can all be bound, and count. -/
theorem bindRequirements_of_satisfied {id : PluginId} {rs : List (CapabilityRequirement × RequirementKind)}
    (hnodes : ∀ c p, ctx.effectiveProviders c = some p → p.scope = ctx.scope → p.pluginId ∈ ctx.nodes) (hid : id ∈ ctx.nodes)
    (hrs : ∀ r ∈ rs, Satisfied ctx.effectiveProviders r) (s : ResolveState × List RequirementBinding)
    (hedges : s.1.edgeCount + boundCount ctx.effectiveProviders rs ≤ maxResolvedEdges) :
    ∃ s', rs.foldlM (bindRequirement ctx id) s = .ok s' ∧
      s'.1.edgeCount = s.1.edgeCount + boundCount ctx.effectiveProviders rs := by
  obtain ⟨s', hs', -, hcount⟩ := foldlM_ok (f := bindRequirement ctx id)
    (P := fun rest t => (∀ r ∈ rest, Satisfied ctx.effectiveProviders r) ∧
      t.1.edgeCount + boundCount ctx.effectiveProviders rest = s.1.edgeCount + boundCount ctx.effectiveProviders rs)
    (by
      rintro r rest t ⟨hrest, hsum⟩
      have hcons : boundCount ctx.effectiveProviders (r :: rest) =
          boundCount ctx.effectiveProviders [r] + boundCount ctx.effectiveProviders rest := by
        unfold boundCount
        rw [← List.countP_append, List.singleton_append]
      rw [hcons] at hsum
      obtain ⟨t', ht', hcount⟩ := bindRequirement_of_satisfied (s := t) (hrest r List.mem_cons_self) hnodes hid (by omega)
      exact ⟨t', ht', fun r' hr' => hrest r' (List.mem_cons_of_mem _ hr'), by omega⟩)
    rs s ⟨hrs, rfl⟩
  exact ⟨s', hs', hcount⟩

/-- The loop over the descriptors succeeds. -/
theorem bindDescriptors_of_satisfied {ds : List PluginDescriptor}
    (hnodes : ∀ c p, ctx.effectiveProviders c = some p → p.scope = ctx.scope → p.pluginId ∈ ctx.nodes)
    (hids : ∀ d ∈ ds, d.id ∈ ctx.nodes) (hds : ∀ d ∈ ds, ∀ r ∈ d.requirements, Satisfied ctx.effectiveProviders r)
    (hedges : boundCount ctx.effectiveProviders (ds.flatMap requirements) ≤ maxResolvedEdges) :
    ∃ s, ds.foldlM (bindDescriptor ctx) ResolveState.init = .ok s := by
  obtain ⟨s, hs, -⟩ := foldlM_ok (f := bindDescriptor ctx)
    (P := fun rest t => (∀ d ∈ rest, d.id ∈ ctx.nodes ∧ ∀ r ∈ d.requirements, Satisfied ctx.effectiveProviders r) ∧
      t.edgeCount + boundCount ctx.effectiveProviders (rest.flatMap requirements) ≤ maxResolvedEdges)
    (by
      rintro d rest t ⟨hrest, hsum⟩
      obtain ⟨hid, hd⟩ := hrest d List.mem_cons_self
      rw [List.flatMap_cons, boundCount, List.countP_append] at hsum
      change t.edgeCount + (boundCount ctx.effectiveProviders d.requirements +
        boundCount ctx.effectiveProviders (rest.flatMap requirements)) ≤ maxResolvedEdges at hsum
      obtain ⟨t', ht', hcount⟩ := bindRequirements_of_satisfied hnodes hid hd (t, []) (by dsimp only; omega)
      refine ⟨{ t'.1 with bindings := t'.1.bindings ++ [(d.id, t'.2)] }, ?_, fun d' hd' => hrest d' (List.mem_cons_of_mem _ hd'), ?_⟩
      · unfold bindDescriptor
        rw [ht']
        rfl
      · dsimp only at hcount ⊢
        omega)
    ds ResolveState.init ⟨fun d hd => ⟨hids d hd, hds d hd⟩, by simpa [ResolveState.init] using hedges⟩
  exact ⟨s, hs⟩

/-! ## The path that is found -/

section Graph

variable {g : ProviderGraph}

/-- The first of two lists in their order begins with no greater element. -/
theorem head_le_of_le {α : Type*} [LinearOrder α] {a b : α} {l l' : List α} (h : a :: l ≤ b :: l') : a ≤ b := by
  by_contra hlt
  exact absurd h (not_le_of_gt (List.cons_lt_cons_iff.mpr (Or.inl (not_le.mp hlt))))

theorem le_of_insertionSort {α : Type*} [LinearOrder α] {l l' : List α} {a : α} (h : l.insertionSort (· ≤ ·) = a :: l') :
    ∀ b ∈ l, a ≤ b := by
  intro b hb
  rw [← (List.perm_insertionSort (· ≤ ·) l).mem_iff, h] at hb
  have hsorted := List.pairwise_insertionSort (· ≤ ·) l
  rw [h] at hsorted
  rcases List.mem_cons.mp hb with rfl | hb
  · exact le_refl b
  · exact (List.pairwise_cons.mp hsorted).1 b hb

/-- A cycle of a graph, written from its first node to its last, which is the first again. -/
structure CycleFrom (g : ProviderGraph) (start : PluginId) (path : List PluginId) : Prop where
  closed : ∃ inner, path = start :: (inner ++ [start]) ∧ (start :: inner).Nodup
  edges : path.IsChain g.HasEdge

/-- The search answers with a cycle from the least node that is on any. -/
theorem canonicalCycle_eq_some (hscc : SccSpec g (scc g)) (hnodes : ∀ e ∈ g.edges, e.1 ∈ g.nodes ∧ e.2.1 ∈ g.nodes)
    {path : List PluginId} (h : g.canonicalCycle scc = some path) :
    ∃ start, CycleFrom g start path ∧ TransGen g.HasEdge start start ∧ ∀ v, TransGen g.HasEdge v v → start ≤ v := by
  unfold ProviderGraph.canonicalCycle at h
  obtain ⟨component, hcomponent, h⟩ := Option.bind_eq_some_iff.mp h
  obtain ⟨start, hstart, h⟩ := Option.bind_eq_some_iff.mp h
  obtain ⟨tail, rfl⟩ : ∃ tail, component = start :: tail := List.head?_eq_some_iff.mp hstart
  obtain ⟨others, hothers⟩ := List.head?_eq_some_iff.mp hcomponent
  have hmem : start :: tail ∈ ((scc g).filter g.isCyclic).map (fun c => c.insertionSort (· ≤ ·)) := by
    rw [← (List.perm_insertionSort (· ≤ ·) _).mem_iff, hothers]
    exact List.mem_cons_self
  obtain ⟨c₀, hc₀, hsorted⟩ := List.mem_map.mp hmem
  obtain ⟨hc₀, hcyclic⟩ := List.mem_filter.mp hc₀
  have hstart₀ : start ∈ c₀ := by
    rw [← (List.perm_insertionSort (· ≤ ·) c₀).mem_iff, hsorted]
    exact List.mem_cons_self
  obtain ⟨rest, hclosed, hnodup, hchain⟩ := ClosedPath.find_sound _ _ _ _ _ h rfl (List.nodup_singleton start)
    (fun x hx => hx) (List.mem_singleton_self start) (List.isChain_singleton start)
  refine ⟨start, ⟨⟨rest, hclosed, hnodup⟩, ?_⟩, transGen_of_isCyclic hscc hc₀ hcyclic hstart₀, ?_⟩
  · rw [hclosed]
    exact hchain.imp fun u v huv => (g.mem_stableAdjacency u v).mp huv.1
  · -- the component of a node on a cycle is cyclic, so it does not come before the first one
    intro v hv
    obtain ⟨w, ⟨label, he⟩, -⟩ := TransGen.head'_iff.mp hv
    obtain ⟨c, hc, hvc⟩ := hscc.covers v (hnodes _ he).1
    have hcc := isCyclic_of_transGen hscc hc hnodes hvc hv
    obtain ⟨first, hfirst, hhead⟩ := head?_insertionSort (List.ne_nil_of_mem hvc)
    obtain ⟨after, hafter⟩ := List.head?_eq_some_iff.mp hhead
    have hle : start :: tail ≤ first :: after := by
      refine le_of_insertionSort hothers _ ?_
      rw [← hafter]
      exact List.mem_map_of_mem (List.mem_filter.mpr ⟨hc, hcc⟩)
    exact le_trans (head_le_of_le hle) (le_of_insertionSort hafter v hvc)

end Graph

/-- What is resolved comes down to the search for a cycle. -/
theorem resolve_of_resolvable (h : Resolvable policy scope parentPlan descriptors)
    (hparent : ∀ parent, parentPlan = some parent → Produced scc policy parent) :
    ∃ g : ProviderGraph, g.WellFormed ∧
      (∀ p c, g.HasEdge p c ↔ ResolvesTo (resolveContext scope parentPlan (normalizedDescriptors descriptors))
        (normalizedDescriptors descriptors) p c) ∧ (∀ p c, g.HasEdge p c ↔ DependsOn descriptors p c) ∧
      ∀ path, resolveActivationPlan scc policy scope parentPlan descriptors = .error (.dependencyCycle path) ↔
        g.canonicalCycle scc = some path := by
  have hperm := declaredProviders_perm scope descriptors
  have hunique : ((declaredProviders scope (normalizedDescriptors descriptors)).map (·.1)).Nodup :=
    (hperm.map (·.1)).nodup_iff.mpr h.unique
  have hcheck : ∀ c ∈ (declaredProviders scope (normalizedDescriptors descriptors)).map (·.1),
      checkProviders (declaredProviders scope (normalizedDescriptors descriptors)) (parentProvidersOf parentPlan) c = .ok () :=
    fun c hc => checkProviders_ok hunique (h.fresh c ((hperm.map (·.1)).mem_iff.mp hc))
  have hids : ((normalizedDescriptors descriptors).map (·.id)).Nodup := (normalizedDescriptors_ids descriptors).nodup_iff.mpr h.ids
  have hnormal : ∀ d ∈ normalizedDescriptors descriptors, ∃ d' ∈ descriptors, d'.normalize = d := by
    intro d hd
    rwa [(normalizedDescriptors_perm descriptors).mem_iff, List.mem_map] at hd
  have hforeign : ∀ c p, parentProvidersOf parentPlan c = some p → p.scope ≠ scope :=
    fun _ _ hp => parent_scope_ne h.identity hparent hp
  have hnodes : ∀ c p, (resolveContext scope parentPlan (normalizedDescriptors descriptors)).effectiveProviders c = some p →
      p.scope = scope → p.pluginId ∈ (normalizedDescriptors descriptors).map (·.id) := by
    intro c p hp hscope
    rcases effectiveProvidersOf_cases hp with hmem | habove
    · obtain ⟨-, d, hd, hdid, -⟩ := declared_mem hmem
      exact List.mem_map.mpr ⟨d, hd, hdid⟩
    · exact absurd hscope (hforeign c p habove)
  obtain ⟨s, hs⟩ : ∃ s, (normalizedDescriptors descriptors).foldlM
      (bindDescriptor (resolveContext scope parentPlan (normalizedDescriptors descriptors))) ResolveState.init = .ok s := by
    refine bindDescriptors_of_satisfied hnodes (fun d hd => List.mem_map_of_mem hd) ?_ ?_
    · intro d hd r hr
      obtain ⟨d', hd', rfl⟩ := hnormal d hd
      exact h.satisfied d' hd' r ((requirements_perm d').mem_iff.mp hr)
    · have hasks : ((normalizedDescriptors descriptors).flatMap requirements).Perm
          (descriptors.flatMap asks) := by
        refine ((normalizedDescriptors_perm descriptors).flatMap_right _).trans ?_
        rw [List.flatMap_map]
        exact List.Perm.flatMap_left _ fun d _ => requirements_perm d
      rw [boundCount, hasks.countP_eq]
      exact h.edges
  obtain ⟨hbindings, hedges, hjoin⟩ := foldlM_bindDescriptor _ _ hs
  have hresolves := fun p c => hasEdge_iff hedges ((normalizedDescriptors descriptors).map fun d => d.id) p c
  have hwell : ProviderGraph.WellFormed ⟨(normalizedDescriptors descriptors).map (fun d => d.id), s.edges⟩ :=
    ⟨hids, fun e he => (hjoin e he).1, fun e he => (hjoin e he).2⟩
  refine ⟨_, hwell, hresolves, ?_, ?_⟩
  · intro p c
    rw [hresolves, resolvesTo_iff_dependsOn hcheck hforeign, dependsOn_normalized]
  · intro path
    have hadj := adjacentByKey_eq_none (fun d : PluginDescriptor => d.id) (normalizedDescriptors descriptors) hids
    have hvalid : (normalizedDescriptors descriptors).forM (fun d => d.validateForScope scope.kind) = .ok () := by
      refine forM_ok _ fun d hd => ?_
      obtain ⟨d', hd', rfl⟩ := hnormal d hd
      exact h.valid d' hd'
    have hproviders : (OrdSet.ofList ((declaredProviders scope (normalizedDescriptors descriptors)).map (·.1))).forM
        (checkProviders (declaredProviders scope (normalizedDescriptors descriptors)) (parentProvidersOf parentPlan)) = .ok () :=
      forM_ok _ fun c hc => hcheck c (OrdSet.mem_ofList.mp hc)
    unfold resolveActivationPlan
    rw [h.identity, ok_bind]
    simp only [if_neg (Nat.not_lt_of_le h.count), hadj]
    rw [hvalid, ok_bind, hproviders, ok_bind, hs, ok_bind]
    split
    · next found hfound =>
      rw [show ProviderGraph.canonicalCycle scc ⟨(normalizedDescriptors descriptors).map fun d => d.id, s.edges⟩ = some found from hfound]
      constructor
      · intro hreported
        cases hreported
        rfl
      · intro hfound
        cases hfound
        rfl
    · next hnone =>
      exact iff_of_false (fun h => by cases h) (hnone path)

end CycleAux

open CycleAux

/-- A resolution fails for a cycle exactly when some plugin depends on itself, and what is reported is a cycle of the plugins' bindings
that comes to no plugin twice and starts at the least plugin that is on any. -/
theorem dependency_cycle_iff (hscc : ∀ g, g.WellFormed → SccSpec g (scc g))
    (hparent : ∀ parent, parentPlan = some parent → Produced scc policy parent)
    (h : Resolvable policy scope parentPlan descriptors) :
    ((∃ path, resolveActivationPlan scc policy scope parentPlan descriptors = .error (.dependencyCycle path)) ↔
      ∃ v, TransGen (DependsOn descriptors) v v) ∧
    ∀ path, resolveActivationPlan scc policy scope parentPlan descriptors = .error (.dependencyCycle path) →
      ∃ start inner, path = start :: (inner ++ [start]) ∧ (start :: inner).Nodup ∧
        path.IsChain (fun provider consumer => DependsOn descriptors provider consumer ∧
          ResolvesTo (resolveContext scope parentPlan (normalizedDescriptors descriptors)) (normalizedDescriptors descriptors)
            provider consumer) ∧
        TransGen (DependsOn descriptors) start start ∧ ∀ v, TransGen (DependsOn descriptors) v v → start ≤ v := by
  obtain ⟨g, hwell, hresolves, hdepends, hresolve⟩ := resolve_of_resolvable h hparent
  have hnodes : ∀ e ∈ g.edges, e.1 ∈ g.nodes ∧ e.2.1 ∈ g.nodes := fun e he => ⟨hwell.source_mem e he, hwell.target_mem e he⟩
  have hsame : g.HasEdge = DependsOn descriptors := funext fun p => funext fun c => propext (hdepends p c)
  simp only [hresolve]
  rw [← hsame]
  constructor
  · constructor
    · rintro ⟨path, hpath⟩
      obtain ⟨start, -, hcycle, -⟩ := canonicalCycle_eq_some (hscc g hwell) hnodes hpath
      exact ⟨start, hcycle⟩
    · rintro ⟨v, hv⟩
      by_contra hnone
      refine acyclic_of_canonicalCycle (hscc g hwell) hnodes ?_ v hv
      exact Option.eq_none_iff_forall_ne_some.mpr fun path hpath => hnone ⟨path, hpath⟩
  · intro path hpath
    obtain ⟨start, ⟨⟨inner, hclosed, hnodup⟩, hedges⟩, hcycle, hleast⟩ := canonicalCycle_eq_some (hscc g hwell) hnodes hpath
    refine ⟨start, inner, hclosed, hnodup, ?_, hcycle, hleast⟩
    exact hedges.imp fun p c hpc => ⟨hpc, (hresolves p c).mp hpc⟩

/-! Two plugins that use each other. -/

namespace CycleAux

open ActivationAux

def plotter : PluginDescriptor :=
  ⟨⟨"plotter", plotter_valid⟩, [⟨"application", application_valid⟩], [cap "plot" plot_valid], [cap "log" log_valid], []⟩

def logger : PluginDescriptor :=
  ⟨⟨"logger", logger_valid⟩, [⟨"application", application_valid⟩], [cap "log" log_valid], [], [cap "plot" plot_valid]⟩

def eachOther : List PluginDescriptor := [plotter, logger]

end CycleAux

open ActivationAux CycleAux in
/-- The cycle is reported from the one that comes first. -/
theorem dependency_cycle_each_other :
    resolveActivationPlan componentsOf hostPolicy applicationScope none eachOther =
        .error (.dependencyCycle [logger.id, plotter.id, logger.id]) ∧
      ∃ v, TransGen (DependsOn eachOther) v v := by
  have hreported : resolveActivationPlan componentsOf hostPolicy applicationScope none eachOther =
      .error (.dependencyCycle [logger.id, plotter.id, logger.id]) := by rfl
  have hresolvable : Resolvable hostPolicy applicationScope none eachOther :=
    ⟨by rfl, by decide, by decide, by decide +kernel, by decide +kernel, by decide +kernel, by decide +kernel, by decide +kernel⟩
  exact ⟨hreported, (dependency_cycle_iff (fun g hg => sccSpec_components g hg) (fun _ h => by cases h) hresolvable).1.mp ⟨_, hreported⟩⟩

end Rho
