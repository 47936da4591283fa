import Rho.Extension.Model
import Rho.Lib.ClosedPath
import Rho.Lib.Kahn

/-!
# Resolving an activation plan

`resolver.rs`: one scope's plugins are validated, their requirements bound to providers of the scope or of its parent, and the
plugins ordered so that a provider comes before its consumers in the same scope.

The graph's nodes are the plugin ids (the descriptors have distinct ids by then). `petgraph`'s `kosaraju_scc` is a parameter.
-/

namespace Rho

/-! ## The provider graph -/

/-- The provider graph of a scope: an edge from provider to consumer for each binding, labelled by the capability. -/
structure ProviderGraph where
  nodes : List PluginId
  edges : List (PluginId × PluginId × CapabilityId)
  deriving DecidableEq

namespace ProviderGraph

/-- There is an edge from `source` to `target`. -/
def HasEdge (g : ProviderGraph) (source target : PluginId) : Prop := ∃ c, (source, target, c) ∈ g.edges

/-- The targets of a node's edges, with repetitions. -/
def targets (g : ProviderGraph) (source : PluginId) : List PluginId :=
  (g.edges.filter (fun e => e.1 = source)).map (·.2.1)

/-- `stable_adjacency`: for each node the set of its targets. -/
def stableAdjacency (g : ProviderGraph) (source : PluginId) : List PluginId := OrdSet.ofList (g.targets source)

theorem mem_stableAdjacency (g : ProviderGraph) (source target : PluginId) :
    target ∈ g.stableAdjacency source ↔ g.HasEdge source target := by
  simp only [stableAdjacency, targets, OrdSet.mem_ofList, List.mem_map, List.mem_filter, decide_eq_true_eq, HasEdge]
  constructor
  · rintro ⟨⟨s, t, c⟩, ⟨he, rfl⟩, rfl⟩
    exact ⟨c, he⟩
  · rintro ⟨c, he⟩
    exact ⟨(source, target, c), ⟨he, rfl⟩, rfl⟩

/-- A graph whose nodes are distinct and whose edges join nodes. -/
structure WellFormed (g : ProviderGraph) : Prop where
  nodup : g.nodes.Nodup
  source_mem : ∀ e ∈ g.edges, e.1 ∈ g.nodes
  target_mem : ∀ e ∈ g.edges, e.2.1 ∈ g.nodes

/-- The keys of the adjacency map, in order. -/
def sortedNodes (g : ProviderGraph) : List PluginId := OrdSet.ofList g.nodes

/-- The adjacency map as a graph. An edge to a plugin that is not a node does not arise (`WellFormed`); the restriction to
nodes makes the map a graph for any value. -/
def toDigraph (g : ProviderGraph) : Kahn.Digraph PluginId where
  nodes := g.sortedNodes
  adj u := (g.stableAdjacency u).filter (fun v => v ∈ g.sortedNodes)
  nodes_nodup := OrdSet.nodup_ofList _
  adj_nodup u := (OrdSet.nodup_ofList _).filter _
  adj_subset u := fun v hv => by simpa using (List.mem_filter.mp hv).2

/-- `stable_kahn_order`. -/
def stableKahnOrder (g : ProviderGraph) : List PluginId := Kahn.order g.toDigraph

/-- A component is cyclic when it has more than one node or its node has an edge to itself. -/
def isCyclic (g : ProviderGraph) (component : List PluginId) : Bool :=
  decide (1 < component.length) ||
    (match component.head? with
    | some node => g.edges.any (fun e => e.1 = node ∧ e.2.1 = node)
    | none => false)

/-- `canonical_cycle`: a closed path in the first cyclic component, starting at its least plugin. -/
def canonicalCycle (scc : ProviderGraph → List (List PluginId)) (g : ProviderGraph) : Option (List PluginId) := do
  let cyclicComponents := ((scc g).filter g.isCyclic).map (fun c => c.insertionSort (· ≤ ·))
  let component ← (cyclicComponents.insertionSort (· ≤ ·)).head?
  let start ← component.head?
  ClosedPath.find g.stableAdjacency start component (component.length + 1) start [start] [start]

end ProviderGraph

/-! ## Binding the requirements -/

/-- What the loop over the descriptors accumulates. -/
structure ResolveState where
  edgeCount : Nat
  edges : List (PluginId × PluginId × CapabilityId)
  bindings : List (PluginId × List RequirementBinding)
  diagnostics : List OptionalAbsent

/-- The parts of the loop that do not change: the scope, the effective providers and the nodes. -/
structure ResolveContext where
  scope : ScopeIdentity
  effectiveProviders : CapabilityId → Option ProviderIdentity
  nodes : List PluginId

/-- One requirement of a plugin: absent, or bound to the effective provider, with an edge when it is in the same scope. -/
def bindRequirement (ctx : ResolveContext) (consumer : PluginId) (s : ResolveState × List RequirementBinding)
    (r : CapabilityRequirement × RequirementKind) : Except ExtensionError (ResolveState × List RequirementBinding) :=
  let requirement := r.1
  match ctx.effectiveProviders requirement.capabilityId with
  | none =>
    if r.2 = .required then
      .error (.missingRequiredCapability consumer requirement.capabilityId requirement.contractMajor)
    else
      .ok ({ s.1 with diagnostics := s.1.diagnostics ++ [.new consumer requirement.capabilityId ctx.scope.id] },
        s.2 ++ [{ requirement := requirement, kind := r.2, resolution := .absentOptional }])
  | some provider =>
    if provider.contractMajor ≠ requirement.contractMajor then
      .error (.incompatibleCapabilityMajor consumer requirement.capabilityId requirement.contractMajor
        provider.contractMajor provider.pluginId)
    else if maxResolvedEdges < s.1.edgeCount + 1 then
      .error (.limitExceeded .resolvedEdges (some consumer) (s.1.edgeCount + 1) maxResolvedEdges)
    else
      let bindings := s.2 ++ [{ requirement := requirement, kind := r.2, resolution := .provider provider }]
      let counted := { s.1 with edgeCount := s.1.edgeCount + 1 }
      if provider.scope = ctx.scope then
        if provider.pluginId ∉ ctx.nodes then .error (.missingNode provider.pluginId)
        else if consumer ∉ ctx.nodes then .error (.missingNode consumer)
        else
          .ok ({ counted with edges := counted.edges ++ [(provider.pluginId, consumer, requirement.capabilityId)] }, bindings)
      else .ok (counted, bindings)

/-- The order in which a plugin's requirements are bound: by capability, required before optional. -/
def requirementLe (a b : CapabilityRequirement × RequirementKind) : Prop :=
  ((compare a.1.capabilityId b.1.capabilityId).then (compare a.2 b.2)).isLE = true

instance : DecidableRel requirementLe := fun _ _ => inferInstanceAs (Decidable (_ = true))

/-- A plugin's requirements in the order in which they are bound. -/
def PluginDescriptor.requirements (d : PluginDescriptor) : List (CapabilityRequirement × RequirementKind) :=
  (d.requires.map (·, RequirementKind.required) ++ d.optional.map (·, RequirementKind.optional)).insertionSort requirementLe

/-- One descriptor: all its requirements, and its bindings recorded. -/
def bindDescriptor (ctx : ResolveContext) (s : ResolveState) (d : PluginDescriptor) : Except ExtensionError ResolveState := do
  let r ← d.requirements.foldlM (bindRequirement ctx d.id) (s, [])
  return { r.1 with bindings := r.1.bindings ++ [(d.id, r.2)] }

/-! ## Providers of the scope -/

/-- The capabilities the descriptors declare, with their providers, in declaration order. -/
def declaredProviders (scope : ScopeIdentity) (descriptors : List PluginDescriptor) : List (CapabilityId × ProviderIdentity) :=
  descriptors.flatMap fun d => d.provides.map fun declaration =>
    (declaration.capabilityId, { pluginId := d.id, scope := scope, contractMajor := declaration.contractMajor })

/-- The check of one declared capability: one provider in the scope, and none in the parent. -/
def checkProviders (declared : List (CapabilityId × ProviderIdentity)) (parent : CapabilityId → Option ProviderIdentity)
    (capabilityId : CapabilityId) : Except ExtensionError Unit :=
  let providers := sortByOrd ((declared.filter (fun p => p.1 = capabilityId)).map (·.2))
  if 1 < providers.length then .error (.duplicateProvider capabilityId providers)
  else
    match parent capabilityId with
    | some parentProvider => .error (.duplicateProvider capabilityId (sortByOrd (parentProvider :: providers)))
    | none => .ok ()

/-- The providers in effect: those the scope declares, and those of the parent plan. -/
def effectiveProvidersOf (declared : List (CapabilityId × ProviderIdentity)) (parent : CapabilityId → Option ProviderIdentity)
    (capabilityId : CapabilityId) : Option ProviderIdentity :=
  match declared.find? (fun p => p.1 = capabilityId) with
  | some p => some p.2
  | none => parent capabilityId

/-- The descriptors normalized and sorted, as the rest of the resolver reads them. -/
def normalizedDescriptors (descriptors : List PluginDescriptor) : List PluginDescriptor :=
  (descriptors.map (·.normalize)).insertionSort (fun a b => a.id ≤ b.id)

/-- The effective providers of the parent plan, none without a parent. -/
def parentProvidersOf : Option ActivationPlan → CapabilityId → Option ProviderIdentity
  | some plan => plan.effectiveProviders
  | none => fun _ => none

/-- What the loop over the (normalized) descriptors reads. -/
def resolveContext (scope : ScopeIdentity) (parentPlan : Option ActivationPlan) (descriptors : List PluginDescriptor) :
    ResolveContext where
  scope := scope
  effectiveProviders := effectiveProvidersOf (declaredProviders scope descriptors) (parentProvidersOf parentPlan)
  nodes := descriptors.map (·.id)

/-- What the loop starts from. -/
def ResolveState.init : ResolveState := { edgeCount := 0, edges := [], bindings := [], diagnostics := [] }

/-- `resolve_activation_plan`. -/
def resolveActivationPlan (scc : ProviderGraph → List (List PluginId)) (policy : ScopePolicy) (scope : ScopeIdentity)
    (parentPlan : Option ActivationPlan) (descriptors : List PluginDescriptor) : Except ExtensionError ActivationPlan := do
  policy.validateIdentity scope (parentPlan.map (·.scope))
  if maxPluginsPerScope < descriptors.length then
    throw (.limitExceeded .pluginsPerScope none descriptors.length maxPluginsPerScope)
  let descriptors := normalizedDescriptors descriptors
  if let some duplicate := adjacentByKey (·.id) descriptors then
    throw (.duplicatePlugin duplicate.1.id)
  descriptors.forM (fun d => d.validateForScope scope.kind)
  let declared := declaredProviders scope descriptors
  (OrdSet.ofList (declared.map (·.1))).forM (checkProviders declared (parentProvidersOf parentPlan))
  let ctx := resolveContext scope parentPlan descriptors
  let s ← descriptors.foldlM (bindDescriptor ctx) ResolveState.init
  let graph : ProviderGraph := { nodes := ctx.nodes, edges := s.edges }
  if let some path := graph.canonicalCycle scc then
    throw (.dependencyCycle path)
  return {
    scope := scope
    activationOrder := graph.stableKahnOrder
    bindings := s.bindings
    effectiveProviders := ctx.effectiveProviders
    diagnostics := s.diagnostics }

/-! ## Plans and their dependencies -/

/-- The plan binds a requirement of `consumer` to `provider` in the plan's own scope. -/
def ActivationPlan.BindsInScope (plan : ActivationPlan) (provider consumer : PluginId) : Prop :=
  ∃ bs, (consumer, bs) ∈ plan.bindings ∧
    ∃ b ∈ bs, ∃ p, b.resolution = .provider p ∧ p.scope = plan.scope ∧ p.pluginId = provider

/-- Among the descriptors, `provider` declares a capability that `consumer` asks for, required or optional. -/
def DependsOn (descriptors : List PluginDescriptor) (provider consumer : PluginId) : Prop :=
  ∃ dp ∈ descriptors, ∃ dc ∈ descriptors, dp.id = provider ∧ dc.id = consumer ∧
    ∃ p ∈ dp.provides, ∃ r ∈ dc.requires ++ dc.optional, p.capabilityId = r.capabilityId

/-- The plans the resolver produces under a policy, each over an optional parent plan it produced. -/
inductive Produced (scc : ProviderGraph → List (List PluginId)) (policy : ScopePolicy) : ActivationPlan → Prop where
  | root {scope : ScopeIdentity} {descriptors : List PluginDescriptor} {plan : ActivationPlan} :
      resolveActivationPlan scc policy scope none descriptors = .ok plan → Produced scc policy plan
  | child {scope : ScopeIdentity} {parent : ActivationPlan} {descriptors : List PluginDescriptor} {plan : ActivationPlan} :
      Produced scc policy parent → resolveActivationPlan scc policy scope (some parent) descriptors = .ok plan →
        Produced scc policy plan

/-- What `kosaraju_scc` promises: the components are lists of nodes without repetition that cover the graph, and two nodes are in
one component exactly when each is reached from the other. -/
structure SccSpec (g : ProviderGraph) (components : List (List PluginId)) : Prop where
  nodup : ∀ c ∈ components, c.Nodup
  covers : ∀ v ∈ g.nodes, ∃ c ∈ components, v ∈ c
  mem_nodes : ∀ c ∈ components, ∀ v ∈ c, v ∈ g.nodes
  same_iff : ∀ c ∈ components, ∀ u ∈ c, ∀ v, v ∈ g.nodes →
    (v ∈ c ↔ Relation.ReflTransGen g.HasEdge u v ∧ Relation.ReflTransGen g.HasEdge v u)

/-- A topological order of a relation between plugins: it lists the ids of the descriptors, each once, and every plugin after
those that must come before it. -/
structure TopologicalOrder (descriptors : List PluginDescriptor) (before : PluginId → PluginId → Prop)
    (order : List PluginId) : Prop where
  nodup : order.Nodup
  perm : order.Perm (descriptors.map (·.id))
  sorted : ∀ l₁ c l₂, order = l₁ ++ c :: l₂ → ∀ p, before p c → p ∈ l₁

end Rho
