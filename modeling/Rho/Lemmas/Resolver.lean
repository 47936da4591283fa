import Rho.Extension.Resolver
import Rho.Lib.Fallible

/-!
# What the resolver's loop builds

The inversion of a successful resolution, the correspondence of the graph's edges with the bindings that the loop records, and
the absence of cycles once `canonicalCycle` finds none.
-/

namespace Rho

open Fallible ProviderGraph PluginDescriptor

namespace ResolverAux

/-! ## The inversion of a resolution -/

/-- A sorted list without equal neighbours has distinct keys. -/
theorem nodup_of_adjacentByKey {α κ : Type*} [LinearOrder κ] [DecidableEq κ] (key : α → κ) :
    ∀ l : List α, l.Pairwise (fun a b => key a ≤ key b) → adjacentByKey key l = none → (l.map key).Nodup := by
  intro l
  induction l with
  | nil => intro _ _; exact List.nodup_nil
  | cons a l ih =>
    intro hs hn
    cases l with
    | nil => simp
    | cons b l =>
      rw [List.pairwise_cons] at hs
      unfold adjacentByKey at hn
      split at hn
      · exact absurd hn (by simp)
      · rename_i hab
        have hrest := ih hs.2 hn
        rw [List.map_cons, List.nodup_cons]
        refine ⟨?_, hrest⟩
        intro hmem
        obtain ⟨c, hc, hkey⟩ := List.mem_map.mp hmem
        have hlt : key a < key b := lt_of_le_of_ne (hs.1 b List.mem_cons_self) hab
        have hbc : key b ≤ key c := by
          rcases List.mem_cons.mp hc with rfl | hc
          · exact le_refl _
          · exact (List.pairwise_cons.mp hs.2).1 c hc
        exact absurd (hkey ▸ hbc) (not_le.mpr hlt)

variable {scc : ProviderGraph → List (List PluginId)} {policy : ScopePolicy} {scope : ScopeIdentity}
  {parentPlan : Option ActivationPlan} {descriptors : List PluginDescriptor} {plan : ActivationPlan}

/-- What a successful resolution has checked, and what it returns. -/
theorem resolve_ok_inv (h : resolveActivationPlan scc policy scope parentPlan descriptors = .ok plan) :
    policy.validateIdentity scope (parentPlan.map (·.scope)) = .ok () ∧
    adjacentByKey (fun d => d.id) (normalizedDescriptors descriptors) = none ∧
    (∀ c ∈ (declaredProviders scope (normalizedDescriptors descriptors)).map (·.1),
      checkProviders (declaredProviders scope (normalizedDescriptors descriptors)) (parentProvidersOf parentPlan) c = .ok ()) ∧
    ∃ s, (normalizedDescriptors descriptors).foldlM
        (bindDescriptor (resolveContext scope parentPlan (normalizedDescriptors descriptors))) ResolveState.init = .ok s ∧
      canonicalCycle scc ⟨(normalizedDescriptors descriptors).map (·.id), s.edges⟩ = none ∧ plan = {
        scope := scope
        activationOrder := stableKahnOrder ⟨(normalizedDescriptors descriptors).map (·.id), s.edges⟩
        bindings := s.bindings
        effectiveProviders := (resolveContext scope parentPlan (normalizedDescriptors descriptors)).effectiveProviders
        diagnostics := s.diagnostics } := by
  unfold resolveActivationPlan at h
  obtain ⟨⟨⟩, hid, h⟩ := bind_eq_ok h
  dsimp only at h
  split at h
  · exact absurd h throw_bind_ne_ok
  split at h
  · exact absurd h throw_bind_ne_ok
  rename_i hadj
  obtain ⟨⟨⟩, -, h⟩ := bind_eq_ok h
  obtain ⟨⟨⟩, hproviders, h⟩ := bind_eq_ok h
  obtain ⟨s, hs, h⟩ := bind_eq_ok h
  split at h
  · exact absurd h throw_bind_ne_ok
  rename_i hcycle
  refine ⟨hid, Option.eq_none_iff_forall_ne_some.mpr hadj, ?_, s, hs, Option.eq_none_iff_forall_ne_some.mpr hcycle, ?_⟩
  · intro c hc
    exact forM_mem _ hproviders c (OrdSet.mem_ofList.mpr hc)
  · exact (Except.ok.inj h).symm

/-! ## The descriptors -/

theorem normalizedDescriptors_perm (descriptors : List PluginDescriptor) :
    (normalizedDescriptors descriptors).Perm (descriptors.map (·.normalize)) :=
  List.perm_insertionSort _ _

theorem normalizedDescriptors_ids (descriptors : List PluginDescriptor) :
    ((normalizedDescriptors descriptors).map (·.id)).Perm (descriptors.map (·.id)) := by
  have h := (normalizedDescriptors_perm descriptors).map (fun d => d.id)
  rw [List.map_map] at h
  exact h

theorem normalizedDescriptors_sorted (descriptors : List PluginDescriptor) :
    (normalizedDescriptors descriptors).Pairwise (fun a b => a.id ≤ b.id) := by
  have : Std.Total (fun a b : PluginDescriptor => a.id ≤ b.id) := ⟨fun a b => le_total a.id b.id⟩
  have : IsTrans PluginDescriptor (fun a b => a.id ≤ b.id) := ⟨fun _ _ _ h h' => le_trans h h'⟩
  exact List.pairwise_insertionSort _ _

/-- The ids of a successful resolution's descriptors are distinct. -/
theorem ids_nodup (h : adjacentByKey (fun d => d.id) (normalizedDescriptors descriptors) = none) :
    ((normalizedDescriptors descriptors).map (·.id)).Nodup :=
  nodup_of_adjacentByKey _ _ (normalizedDescriptors_sorted descriptors) h

@[simp] theorem mem_sortByOrd {α : Type*} [Ord α] (a : α) (l : List α) : a ∈ sortByOrd l ↔ a ∈ l :=
  (List.perm_insertionSort _ l).mem_iff

/-- Normalizing the descriptors does not change which plugins depend on which. -/
theorem dependsOn_normalized (descriptors : List PluginDescriptor) (p c : PluginId) :
    DependsOn (normalizedDescriptors descriptors) p c ↔ DependsOn descriptors p c := by
  have hmem : ∀ d, d ∈ normalizedDescriptors descriptors ↔ ∃ d' ∈ descriptors, d'.normalize = d := by
    intro d
    rw [(normalizedDescriptors_perm descriptors).mem_iff, List.mem_map]
  simp only [DependsOn, hmem]
  constructor
  · rintro ⟨_, ⟨dp, hdp, rfl⟩, _, ⟨dc, hdc, rfl⟩, rfl, rfl, q, hq, r, hr, hqr⟩
    refine ⟨dp, hdp, dc, hdc, rfl, rfl, q, ?_, r, ?_, hqr⟩
    · simpa [PluginDescriptor.normalize] using hq
    · simpa [PluginDescriptor.normalize] using hr
  · rintro ⟨dp, hdp, dc, hdc, rfl, rfl, q, hq, r, hr, hqr⟩
    refine ⟨_, ⟨dp, hdp, rfl⟩, _, ⟨dc, hdc, rfl⟩, rfl, rfl, q, ?_, r, ?_, hqr⟩
    · simpa [PluginDescriptor.normalize] using hq
    · simpa [PluginDescriptor.normalize] using hr

/-! ## The loop in closed form -/

/-- The binding of one requirement. -/
def bindingOf (ctx : ResolveContext) (r : CapabilityRequirement × RequirementKind) : RequirementBinding where
  requirement := r.1
  kind := r.2
  resolution :=
    match ctx.effectiveProviders r.1.capabilityId with
    | some provider => .provider provider
    | none => .absentOptional

/-- The edge of one requirement: one when the provider is in the same scope. -/
def edgesOf (ctx : ResolveContext) (consumer : PluginId) (r : CapabilityRequirement × RequirementKind) :
    List (PluginId × PluginId × CapabilityId) :=
  match ctx.effectiveProviders r.1.capabilityId with
  | some provider => if provider.scope = ctx.scope then [(provider.pluginId, consumer, r.1.capabilityId)] else []
  | none => []

variable {ctx : ResolveContext} {consumer : PluginId}

/-- What one requirement adds. -/
theorem bindRequirement_ok {s s' : ResolveState × List RequirementBinding} {r : CapabilityRequirement × RequirementKind}
    (h : bindRequirement ctx consumer s r = .ok s') :
    s'.2 = s.2 ++ [bindingOf ctx r] ∧ s'.1.edges = s.1.edges ++ edgesOf ctx consumer r ∧ s'.1.bindings = s.1.bindings ∧
      ∀ e ∈ edgesOf ctx consumer r, e.1 ∈ ctx.nodes ∧ e.2.1 ∈ ctx.nodes := by
  unfold bindRequirement at h
  cases hp : ctx.effectiveProviders r.1.capabilityId with
  | none =>
    simp only [hp] at h
    split at h
    · cases h
    · cases h
      simp [bindingOf, edgesOf, hp]
  | some provider =>
    simp only [hp] at h
    split at h
    · cases h
    split at h
    · cases h
    by_cases hscope : provider.scope = ctx.scope
    · rw [if_pos hscope] at h
      split at h
      · cases h
      split at h
      · cases h
      rename_i hprovider hconsumer
      cases h
      refine ⟨by simp [bindingOf, hp], by simp [edgesOf, hp, hscope], rfl, ?_⟩
      intro e he
      simp only [edgesOf, hp, hscope, if_true, List.mem_singleton] at he
      subst he
      exact ⟨not_not.mp hprovider, not_not.mp hconsumer⟩
    · rw [if_neg hscope] at h
      cases h
      simp [bindingOf, edgesOf, hp, hscope]

/-- What the requirements of one plugin add. -/
theorem foldlM_bindRequirement (rs : List (CapabilityRequirement × RequirementKind))
    (s s' : ResolveState × List RequirementBinding) (h : rs.foldlM (bindRequirement ctx consumer) s = .ok s') :
    s'.2 = s.2 ++ rs.map (bindingOf ctx) ∧ s'.1.edges = s.1.edges ++ rs.flatMap (edgesOf ctx consumer) ∧
      s'.1.bindings = s.1.bindings ∧
      ∀ e ∈ rs.flatMap (edgesOf ctx consumer), e.1 ∈ ctx.nodes ∧ e.2.1 ∈ ctx.nodes := by
  refine foldlM_invariant (fun done t => t.2 = s.2 ++ done.map (bindingOf ctx) ∧
    t.1.edges = s.1.edges ++ done.flatMap (edgesOf ctx consumer) ∧ t.1.bindings = s.1.bindings ∧
    ∀ e ∈ done.flatMap (edgesOf ctx consumer), e.1 ∈ ctx.nodes ∧ e.2.1 ∈ ctx.nodes) ?_ rs [] s s' (by simp) h
  rintro done r t t' ⟨hb, he, hk, hn⟩ hstep
  obtain ⟨hb', he', hk', hn'⟩ := bindRequirement_ok hstep
  refine ⟨?_, ?_, hk'.trans hk, ?_⟩
  · rw [hb', hb, List.map_append, List.append_assoc, List.map_singleton]
  · rw [he', he, List.flatMap_append, List.append_assoc, List.flatMap_singleton]
  · intro e hmem
    rw [List.flatMap_append, List.flatMap_singleton, List.mem_append] at hmem
    rcases hmem with hmem | hmem
    · exact hn e hmem
    · exact hn' e hmem

/-- What the loop over the descriptors builds: the bindings of every plugin and the edges of every requirement. -/
theorem foldlM_bindDescriptor (ds : List PluginDescriptor) (s : ResolveState)
    (h : ds.foldlM (bindDescriptor ctx) ResolveState.init = .ok s) :
    s.bindings = ds.map (fun d => (d.id, d.requirements.map (bindingOf ctx))) ∧
    s.edges = ds.flatMap (fun d => d.requirements.flatMap (edgesOf ctx d.id)) ∧
    ∀ e ∈ s.edges, e.1 ∈ ctx.nodes ∧ e.2.1 ∈ ctx.nodes := by
  refine foldlM_invariant (fun done t => t.bindings = done.map (fun d => (d.id, d.requirements.map (bindingOf ctx))) ∧
    t.edges = done.flatMap (fun d => d.requirements.flatMap (edgesOf ctx d.id)) ∧
    ∀ e ∈ t.edges, e.1 ∈ ctx.nodes ∧ e.2.1 ∈ ctx.nodes) ?_ ds [] ResolveState.init s (by simp [ResolveState.init]) h
  rintro done d t t' ⟨hb, he, hn⟩ hstep
  obtain ⟨⟨u, bs⟩, hu, hret⟩ := bind_eq_ok hstep
  obtain ⟨hbs, hedges, hbindings, hnodes⟩ := foldlM_bindRequirement _ _ _ hu
  cases hret
  dsimp only at hbs hedges hbindings
  refine ⟨?_, ?_, ?_⟩
  · rw [hbindings, hb, hbs, List.nil_append, List.map_append, List.map_singleton]
  · rw [hedges, he, List.flatMap_append, List.flatMap_singleton]
  · intro e hmem
    rw [hedges, List.mem_append] at hmem
    rcases hmem with hmem | hmem
    · exact hn e hmem
    · exact hnodes e hmem

/-! ## No cycle is missed -/

section Cycles

open Relation

variable {g : ProviderGraph} {components : List (List PluginId)} {component : List PluginId}

/-- A way back to a node of a component stays inside the component. -/
theorem transGen_inside (hscc : SccSpec g components) (hc : component ∈ components)
    (hnodes : ∀ e ∈ g.edges, e.1 ∈ g.nodes ∧ e.2.1 ∈ g.nodes) {u w : PluginId} (hu : u ∈ component)
    (h : TransGen g.HasEdge u w) (hback : ReflTransGen g.HasEdge w u) :
    TransGen (fun a b => b ∈ g.stableAdjacency a ∧ b ∈ component) u w := by
  have inside : ∀ x y, g.HasEdge x y → ReflTransGen g.HasEdge u y → ReflTransGen g.HasEdge y u →
      y ∈ g.stableAdjacency x ∧ y ∈ component := by
    rintro x y ⟨label, he⟩ huy hyu
    exact ⟨(g.mem_stableAdjacency x y).mpr ⟨label, he⟩, (hscc.same_iff _ hc u hu y (hnodes _ he).2).mpr ⟨huy, hyu⟩⟩
  induction h with
  | single h => exact TransGen.single (inside _ _ h (ReflTransGen.single h) hback)
  | tail huw h ih =>
    have hwu := ReflTransGen.head h hback
    exact TransGen.tail (ih hwu) (inside _ _ h (huw.to_reflTransGen.tail h) hback)

/-- A cyclic component leads from any of its nodes back to it. -/
theorem transGen_of_isCyclic (hscc : SccSpec g components) (hc : component ∈ components) (hcyc : g.isCyclic component = true)
    {u : PluginId} (hu : u ∈ component) : TransGen g.HasEdge u u := by
  simp only [isCyclic, Bool.or_eq_true, decide_eq_true_eq] at hcyc
  rcases hcyc with hlen | hself
  · obtain ⟨w, hw, hne⟩ : ∃ w ∈ component, w ≠ u := by
      by_contra hall
      have hsub : component ⊆ [u] := fun w hw => by
        rw [List.mem_singleton]
        by_contra hwu
        exact hall ⟨w, hw, hwu⟩
      have hle := (List.subperm_of_subset (hscc.nodup _ hc) hsub).length_le
      simp at hle
      omega
    obtain ⟨huw, hwu⟩ := (hscc.same_iff _ hc u hu w (hscc.mem_nodes _ hc w hw)).mp hw
    rcases reflTransGen_iff_eq_or_transGen.mp huw with heq | huw
    · exact absurd heq hne
    · exact huw.trans_left hwu
  · cases component with
    | nil => cases hu
    | cons x rest =>
      simp only [List.head?_cons, List.any_eq_true, decide_eq_true_eq] at hself
      obtain ⟨⟨a, b, label⟩, he, ha, hb⟩ := hself
      dsimp only at ha hb
      rw [ha, hb] at he
      have hloop : g.HasEdge x x := ⟨label, he⟩
      obtain ⟨hux, hxu⟩ := (hscc.same_iff _ hc u hu x (hscc.mem_nodes _ hc x List.mem_cons_self)).mp List.mem_cons_self
      exact (TransGen.tail' hux hloop).trans_left hxu

/-- A node on a cycle makes its component cyclic. -/
theorem isCyclic_of_transGen (hscc : SccSpec g components) (hc : component ∈ components)
    (hnodes : ∀ e ∈ g.edges, e.1 ∈ g.nodes ∧ e.2.1 ∈ g.nodes) {v : PluginId} (hv : v ∈ component)
    (h : TransGen g.HasEdge v v) : g.isCyclic component = true := by
  simp only [isCyclic, Bool.or_eq_true, decide_eq_true_eq]
  by_cases hlen : 1 < component.length
  · exact Or.inl hlen
  · right
    obtain ⟨x, rfl⟩ : ∃ x, component = [x] := by
      apply List.length_eq_one_iff.mp
      have := List.length_pos_of_mem hv
      omega
    obtain rfl := List.mem_singleton.mp hv
    -- the first step away from the only node leads to a node of the component, so to itself
    obtain ⟨w, ⟨label, he⟩, hwv⟩ := TransGen.head'_iff.mp h
    have hw := (hscc.same_iff _ hc v hv w (hnodes _ he).2).mpr ⟨ReflTransGen.single ⟨label, he⟩, hwv⟩
    obtain rfl := List.mem_singleton.mp hw
    simp only [List.head?_cons, List.any_eq_true, decide_eq_true_eq]
    exact ⟨_, he, rfl, rfl⟩

/-- A nonempty list has a first element after sorting, and it is one of the list's. -/
theorem head?_insertionSort {α : Type*} [LinearOrder α] {l : List α} (h : l ≠ []) :
    ∃ a ∈ l, (l.insertionSort (· ≤ ·)).head? = some a := by
  have hperm := List.perm_insertionSort (· ≤ ·) l
  cases hl : l.insertionSort (· ≤ ·) with
  | nil =>
    rw [hl] at hperm
    exact absurd hperm.symm.eq_nil h
  | cons a rest => exact ⟨a, hperm.mem_iff.mp (hl ▸ List.mem_cons_self), rfl⟩

/-- A cyclic component makes the search for a cycle succeed. -/
theorem canonicalCycle_isSome {scc : ProviderGraph → List (List PluginId)} (hscc : SccSpec g (scc g))
    (hnodes : ∀ e ∈ g.edges, e.1 ∈ g.nodes ∧ e.2.1 ∈ g.nodes) (hc : component ∈ scc g)
    (hcyc : g.isCyclic component = true) : (g.canonicalCycle scc).isSome := by
  have hne : ((scc g).filter g.isCyclic).map (fun c => c.insertionSort (· ≤ ·)) ≠ [] :=
    List.ne_nil_of_mem (List.mem_map_of_mem (List.mem_filter.mpr ⟨hc, hcyc⟩))
  obtain ⟨first, hmem, hfirst⟩ := head?_insertionSort hne
  obtain ⟨c₀, hc₀, rfl⟩ := List.mem_map.mp hmem
  obtain ⟨hc₀, hcyc₀⟩ := List.mem_filter.mp hc₀
  have hne₀ : c₀ ≠ [] := by
    rintro rfl
    simp [isCyclic] at hcyc₀
  obtain ⟨start, hs, hstart⟩ := head?_insertionSort hne₀
  have hin := transGen_inside hscc hc₀ hnodes hs (transGen_of_isCyclic hscc hc₀ hcyc₀ hs) ReflTransGen.refl
  have hallowed : TransGen (fun a b => b ∈ g.stableAdjacency a ∧ b ∈ c₀.insertionSort (· ≤ ·)) start start :=
    TransGen.mono (fun a b hab => ⟨hab.1, (List.perm_insertionSort (· ≤ ·) c₀).mem_iff.mpr hab.2⟩) _ _ hin
  have hfind := ClosedPath.find_isSome_of_transGen hallowed
  simpa only [canonicalCycle, hfirst, hstart, Option.bind_eq_bind, Option.bind_some] using hfind

/-- When `canonicalCycle` finds nothing, the graph has no cycle. -/
theorem acyclic_of_canonicalCycle {scc : ProviderGraph → List (List PluginId)} (hscc : SccSpec g (scc g))
    (hnodes : ∀ e ∈ g.edges, e.1 ∈ g.nodes ∧ e.2.1 ∈ g.nodes) (h : g.canonicalCycle scc = none) (v : PluginId) :
    ¬TransGen g.HasEdge v v := by
  intro hv
  obtain ⟨w, ⟨label, he⟩, -⟩ := TransGen.head'_iff.mp hv
  obtain ⟨c, hc, hvc⟩ := hscc.covers v (hnodes _ he).1
  have hsome := canonicalCycle_isSome hscc hnodes hc (isCyclic_of_transGen hscc hc hnodes hvc hv)
  rw [h] at hsome
  exact absurd hsome (by simp)

end Cycles

/-! ## The order over the graph -/

/-- The edges of the adjacency map are the graph's, when they join nodes. -/
theorem toDigraph_edge (g : ProviderGraph) (hnodes : ∀ e ∈ g.edges, e.1 ∈ g.nodes ∧ e.2.1 ∈ g.nodes) (u v : PluginId) :
    g.toDigraph.Edge u v ↔ g.HasEdge u v := by
  simp only [Kahn.Digraph.Edge, toDigraph, sortedNodes, List.mem_filter, OrdSet.mem_ofList,
    g.mem_stableAdjacency, decide_eq_true_eq]
  constructor
  · exact fun h => h.2.1
  · rintro ⟨label, he⟩
    exact ⟨(hnodes _ he).1, ⟨label, he⟩, (hnodes _ he).2⟩

/-- The topological orders of the adjacency map are those of the graph's edges over the descriptors' ids. -/
theorem isTopological_iff (g : ProviderGraph) (hnodes : ∀ e ∈ g.edges, e.1 ∈ g.nodes ∧ e.2.1 ∈ g.nodes)
    (hnd : g.nodes.Nodup) (hids : g.nodes.Perm (descriptors.map (·.id))) (order : List PluginId) :
    g.toDigraph.IsTopological order ↔ TopologicalOrder descriptors g.HasEdge order := by
  have hmem : ∀ v, v ∈ g.toDigraph.nodes ↔ v ∈ g.nodes := fun v => OrdSet.mem_ofList
  constructor
  · intro h
    refine ⟨h.nodup, ?_, ?_⟩
    · refine List.Perm.trans ?_ hids
      exact (List.perm_ext_iff_of_nodup h.nodup hnd).mpr fun v => (h.mem_iff v).trans (hmem v)
    · intro l₁ c l₂ ho p hp
      obtain ⟨hpn, hadj⟩ := (toDigraph_edge g hnodes p c).mpr hp
      exact h.before l₁ c l₂ ho p hpn hadj
  · intro h
    refine ⟨h.nodup, ?_, ?_⟩
    · intro v
      rw [hmem, (h.perm.trans hids.symm).mem_iff]
    · intro l₁ c l₂ ho p hpn hadj
      exact h.sorted l₁ c l₂ ho p ((toDigraph_edge g hnodes p c).mp ⟨hpn, hadj⟩)

/-! ## Edges, bindings and declarations -/

@[simp] theorem mem_requirements (d : PluginDescriptor) (r : CapabilityRequirement) :
    (∃ k, (r, k) ∈ d.requirements) ↔ r ∈ d.requires ++ d.optional := by
  simp only [requirements, (List.perm_insertionSort _ _).mem_iff, List.mem_append, List.mem_map,
    Prod.mk.injEq]
  constructor
  · rintro ⟨k, ⟨a, ha, rfl, -⟩ | ⟨a, ha, rfl, -⟩⟩
    · exact Or.inl ha
    · exact Or.inr ha
  · rintro (h | h)
    · exact ⟨.required, Or.inl ⟨r, h, rfl, rfl⟩⟩
    · exact ⟨.optional, Or.inr ⟨r, h, rfl, rfl⟩⟩

/-- A requirement of `consumer` resolves to `provider` in the context's scope. -/
def ResolvesTo (ctx : ResolveContext) (ds : List PluginDescriptor) (provider consumer : PluginId) : Prop :=
  ∃ d ∈ ds, d.id = consumer ∧ ∃ r ∈ d.requires ++ d.optional, ∃ p,
    ctx.effectiveProviders r.capabilityId = some p ∧ p.scope = ctx.scope ∧ p.pluginId = provider

variable {ds : List PluginDescriptor} {declared : List (CapabilityId × ProviderIdentity)}
  {parent : CapabilityId → Option ProviderIdentity} {cap : CapabilityId} {p : ProviderIdentity}

/-- The edges of the loop are the resolved requirements. -/
theorem hasEdge_iff {s : ResolveState}
    (hs : s.edges = ds.flatMap (fun d => d.requirements.flatMap (edgesOf ctx d.id))) (nodes : List PluginId)
    (p c : PluginId) : ProviderGraph.HasEdge ⟨nodes, s.edges⟩ p c ↔ ResolvesTo ctx ds p c := by
  have hmem : ∀ (r : CapabilityRequirement × RequirementKind) (consumer : PluginId) (label : CapabilityId),
      (p, c, label) ∈ edgesOf ctx consumer r ↔ consumer = c ∧ label = r.1.capabilityId ∧
        ∃ q, ctx.effectiveProviders r.1.capabilityId = some q ∧ q.scope = ctx.scope ∧ q.pluginId = p := by
    intro r consumer label
    unfold edgesOf
    cases ctx.effectiveProviders r.1.capabilityId with
    | none => simp
    | some q =>
      by_cases hq : q.scope = ctx.scope
      · simp only [hq, if_true, List.mem_singleton, Prod.mk.injEq, Option.some.injEq, exists_eq_left']
        exact ⟨fun h => ⟨h.2.1.symm, h.2.2, trivial, h.1.symm⟩, fun h => ⟨h.2.2.2.symm, h.1.symm, h.2.1⟩⟩
      · simp [hq]
  simp only [ProviderGraph.HasEdge, hs, List.mem_flatMap, hmem, ResolvesTo]
  constructor
  · rintro ⟨label, d, hd, ⟨r, k⟩, hr, hid, -, q, hq⟩
    exact ⟨d, hd, hid, r, (mem_requirements d r).mp ⟨k, hr⟩, q, hq⟩
  · rintro ⟨d, hd, hid, r, hr, q, hq⟩
    obtain ⟨k, hk⟩ := (mem_requirements d r).mpr hr
    exact ⟨r.capabilityId, d, hd, (r, k), hk, hid, rfl, q, hq⟩

/-- The bindings of the loop are the resolved requirements. -/
theorem bindsInScope_iff
    (hb : plan.bindings = ds.map (fun d => (d.id, d.requirements.map (bindingOf ctx)))) (hscope : plan.scope = ctx.scope)
    (p c : PluginId) : plan.BindsInScope p c ↔ ResolvesTo ctx ds p c := by
  have hres : ∀ (r : CapabilityRequirement × RequirementKind) (q : ProviderIdentity),
      (bindingOf ctx r).resolution = .provider q ↔ ctx.effectiveProviders r.1.capabilityId = some q := by
    intro r q
    unfold bindingOf
    cases ctx.effectiveProviders r.1.capabilityId with
    | none => simp
    | some q' => simp
  simp only [ActivationPlan.BindsInScope, hb, hscope, List.mem_map, Prod.mk.injEq, ResolvesTo]
  constructor
  · rintro ⟨bs, ⟨d, hd, hid, rfl⟩, b, hbmem, q, hq, hqs⟩
    obtain ⟨⟨r, k⟩, hr, rfl⟩ := List.mem_map.mp hbmem
    exact ⟨d, hd, hid, r, (mem_requirements d r).mp ⟨k, hr⟩, q, (hres _ q).mp hq, hqs⟩
  · rintro ⟨d, hd, hid, r, hr, q, hq, hqs⟩
    obtain ⟨k, hk⟩ := (mem_requirements d r).mpr hr
    exact ⟨_, ⟨d, hd, hid, rfl⟩, _, List.mem_map_of_mem hk, q, (hres (r, k) q).mpr hq, hqs⟩

/-! ## The providers of the parent are of other scopes -/

/-- A declared provider is the plan's own: it is in the scope, and one of the descriptors declares its capability. -/
theorem declared_mem {x : CapabilityId × ProviderIdentity} (h : x ∈ declaredProviders scope ds) :
    x.2.scope = scope ∧ ∃ d ∈ ds, d.id = x.2.pluginId ∧ ∃ q ∈ d.provides, q.capabilityId = x.1 := by
  obtain ⟨d, hd, hx⟩ := List.mem_flatMap.mp h
  obtain ⟨q, hq, rfl⟩ := List.mem_map.mp hx
  exact ⟨rfl, d, hd, rfl, q, hq, rfl⟩

/-- A capability's effective provider is declared in the scope or comes from the parent. -/
theorem effectiveProvidersOf_cases
    (h : effectiveProvidersOf declared parent cap = some p) : (cap, p) ∈ declared ∨ parent cap = some p := by
  unfold effectiveProvidersOf at h
  split at h
  · rename_i x hx
    have hmem := List.mem_of_find?_eq_some hx
    have hcap : x.1 = cap := by simpa using List.find?_some hx
    cases h
    exact Or.inl (hcap ▸ hmem)
  · exact Or.inr h

/-- A scope with a parent plan has the parent's kind as its parent kind. -/
theorem parentKind_of_validateIdentity {parent : ScopeIdentity} (h : policy.validateIdentity scope (some parent) = .ok ()) :
    ParentKind policy.rules scope.kind parent.kind := by
  unfold ScopePolicy.validateIdentity at h
  split at h
  · cases h
  · simp [throw, throwThe, MonadExceptOf.throw] at h
  · rename_i expectedKind hrule
    split at h
    · cases h
    · cases h
    · split at h
      · cases h
      split at h
      · cases h
      rename_i parent' _ _ hpar _ hkind
      obtain ⟨rule, hfind, hexp⟩ := Option.map_eq_some_iff.mp hrule
      refine ⟨rule, List.mem_of_find?_eq_some hfind, by simpa using List.find?_some hfind, ?_⟩
      cases hpar
      rw [hexp, not_not.mp hkind]

/-- The providers in effect in a produced plan are of its scope's kind or of an ancestor's. -/
theorem Produced.ancestor (h : Produced scc policy plan) (hp : plan.effectiveProviders cap = some p) :
    Relation.ReflTransGen (ParentKind policy.rules) plan.scope.kind p.scope.kind := by
  induction h generalizing cap p with
  | root hres =>
    obtain ⟨-, -, -, s, -, -, rfl⟩ := resolve_ok_inv hres
    rcases effectiveProvidersOf_cases hp with hd | hd
    · rw [(declared_mem hd).1]
    · cases hd
  | child _ hres ih =>
    obtain ⟨hid, -, -, s, -, -, rfl⟩ := resolve_ok_inv hres
    rcases effectiveProvidersOf_cases hp with hd | hd
    · rw [(declared_mem hd).1]
    · exact Relation.ReflTransGen.head (parentKind_of_validateIdentity hid) (ih hd)

/-- No provider of the parent is of the scope itself: the policy has no cycles. -/
theorem parent_scope_ne (hid : policy.validateIdentity scope (parentPlan.map (·.scope)) = .ok ())
    (hparent : ∀ parent, parentPlan = some parent → Produced scc policy parent)
    (hp : parentProvidersOf parentPlan cap = some p) : p.scope ≠ scope := by
  cases parentPlan with
  | none => cases hp
  | some parent =>
    intro heq
    have hkind := parentKind_of_validateIdentity hid
    have hanc := Produced.ancestor (hparent parent rfl) hp
    rw [heq] at hanc
    exact policy.acyclic _ (Relation.TransGen.head' hkind hanc)

/-- With one provider for each declared capability, the effective provider is the one declared. -/
theorem effectiveProvidersOf_declared
    (hcheck : ∀ c ∈ declared.map (·.1), checkProviders declared parent c = .ok ()) (hmem : (cap, p) ∈ declared) :
    effectiveProvidersOf declared parent cap = some p := by
  have hone : (declared.filter (fun x => x.1 = cap)).length ≤ 1 := by
    have := hcheck cap (List.mem_map_of_mem hmem)
    unfold checkProviders at this
    dsimp only at this
    split at this
    · cases this
    · rename_i hlen
      simpa [sortByOrd, List.length_insertionSort] using hlen
  have hfilter : (cap, p) ∈ declared.filter (fun x => x.1 = cap) := List.mem_filter.mpr ⟨hmem, by simp⟩
  unfold effectiveProvidersOf
  cases hfind : declared.find? (fun x => x.1 = cap) with
  | none =>
    have := List.find?_eq_none.mp hfind (cap, p) hmem
    simp at this
  | some x =>
    have hx : x ∈ declared.filter (fun x => x.1 = cap) :=
      List.mem_filter.mpr ⟨List.mem_of_find?_eq_some hfind, by simpa using List.find?_some hfind⟩
    obtain ⟨y, hy⟩ : ∃ y, declared.filter (fun x => x.1 = cap) = [y] :=
      List.length_eq_one_iff.mp (le_antisymm hone (List.length_pos_of_mem hfilter))
    rw [hy, List.mem_singleton] at hx hfilter
    rw [hx, ← hfilter]

/-- A resolved requirement of the scope is a dependency between the descriptors, and conversely. -/
theorem resolvesTo_iff_dependsOn (hcheck : ∀ c ∈ (declaredProviders scope ds).map (·.1),
      checkProviders (declaredProviders scope ds) (parentProvidersOf parentPlan) c = .ok ())
    (hforeign : ∀ cap p, parentProvidersOf parentPlan cap = some p → p.scope ≠ scope) (p c : PluginId) :
    ResolvesTo (resolveContext scope parentPlan ds) ds p c ↔ DependsOn ds p c := by
  constructor
  · rintro ⟨d, hd, hid, r, hr, q, hq, hqs, hqp⟩
    rcases effectiveProvidersOf_cases hq with hdecl | hpar
    · obtain ⟨-, dp, hdp, hdpid, decl, hdecl, hcap⟩ := declared_mem hdecl
      exact ⟨dp, hdp, d, hd, hdpid.trans hqp, hid, decl, hdecl, r, hr, hcap⟩
    · exact absurd hqs (hforeign _ _ hpar)
  · rintro ⟨dp, hdp, dc, hdc, hpid, hcid, decl, hdecl, r, hr, hcap⟩
    have hmem : (r.capabilityId, (⟨dp.id, scope, decl.contractMajor⟩ : ProviderIdentity)) ∈ declaredProviders scope ds :=
      List.mem_flatMap.mpr ⟨dp, hdp, List.mem_map.mpr ⟨decl, hdecl, by rw [hcap]⟩⟩
    exact ⟨dc, hdc, hcid, r, hr, _, effectiveProvidersOf_declared hcheck hmem, rfl, hpid⟩

end ResolverAux

end Rho
