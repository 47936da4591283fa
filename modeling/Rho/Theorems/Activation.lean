import Rho.Lemmas.Resolver
import Rho.Lib.Components

/-!
# Activation order

A plan's activation order lists the scope's plugins, each after the plugins of the scope whose capabilities it uses, and it is
the lexicographically least such list.
-/

namespace Rho

open ResolverAux Components

variable {scc : ProviderGraph → List (List PluginId)} {policy : ScopePolicy} {scope : ScopeIdentity}
  {parentPlan : Option ActivationPlan} {descriptors : List PluginDescriptor} {plan : ActivationPlan}

namespace ActivationAux

/-- Two relations that hold of the same pairs have the same topological orders. -/
theorem topologicalOrder_congr {R S : PluginId → PluginId → Prop} (h : ∀ p c, R p c ↔ S p c) (order : List PluginId) :
    TopologicalOrder descriptors R order ↔ TopologicalOrder descriptors S order := by
  constructor
  · intro ho
    exact ⟨ho.nodup, ho.perm, fun l₁ c l₂ heq p hp => ho.sorted l₁ c l₂ heq p ((h p c).mpr hp)⟩
  · intro ho
    exact ⟨ho.nodup, ho.perm, fun l₁ c l₂ heq p hp => ho.sorted l₁ c l₂ heq p ((h p c).mp hp)⟩

/-- The bindings of a plan inside its scope are the dependencies between the descriptors. -/
theorem bindsInScope_iff_dependsOn (hparent : ∀ parent, parentPlan = some parent → Produced scc policy parent)
    (h : resolveActivationPlan scc policy scope parentPlan descriptors = .ok plan) (p c : PluginId) :
    plan.BindsInScope p c ↔ DependsOn descriptors p c := by
  obtain ⟨hid, -, hcheck, s, hs, -, rfl⟩ := resolve_ok_inv h
  obtain ⟨hb, -, -⟩ := foldlM_bindDescriptor _ _ hs
  rw [bindsInScope_iff hb rfl, resolvesTo_iff_dependsOn hcheck (fun cap q hq => parent_scope_ne hid hparent hq),
    dependsOn_normalized]

/-- The order is the least topological order of the plan's bindings. -/
theorem order_least (hscc : ∀ g, g.WellFormed → SccSpec g (scc g))
    (h : resolveActivationPlan scc policy scope parentPlan descriptors = .ok plan) :
    TopologicalOrder descriptors plan.BindsInScope plan.activationOrder ∧
      ∀ order, TopologicalOrder descriptors plan.BindsInScope order →
        plan.activationOrder = order ∨ List.Lex (· < ·) plan.activationOrder order := by
  obtain ⟨-, hadj, -, s, hs, hcycle, hplan⟩ := resolve_ok_inv h
  obtain ⟨hb, he, hnodes⟩ := foldlM_bindDescriptor _ _ hs
  have hnd := ids_nodup hadj
  have hids := normalizedDescriptors_ids descriptors
  let g : ProviderGraph := ⟨(normalizedDescriptors descriptors).map (·.id), s.edges⟩
  have hwf : g.WellFormed := ⟨hnd, fun e hm => (hnodes e hm).1, fun e hm => (hnodes e hm).2⟩
  have horder : plan.activationOrder = g.stableKahnOrder := by rw [hplan]
  have hsame : ∀ p c, g.HasEdge p c ↔ plan.BindsInScope p c := by
    intro p c
    rw [hasEdge_iff he, bindsInScope_iff (by rw [hplan]; exact hb) (by rw [hplan]; rfl)]
  have hacyclic : g.toDigraph.Acyclic := by
    intro v hv
    refine acyclic_of_canonicalCycle (hscc g hwf) hnodes hcycle v (Relation.TransGen.mono ?_ _ _ hv)
    intro a b hab
    exact (toDigraph_edge g hnodes a b).mp hab
  rw [horder]
  constructor
  · rw [← topologicalOrder_congr hsame, ← isTopological_iff g hnodes hnd hids]
    exact Kahn.order_isTopological _ hacyclic
  · intro order ho
    rw [← topologicalOrder_congr hsame, ← isTopological_iff g hnodes hnd hids] at ho
    exact Kahn.order_le _ order ho

end ActivationAux

/-- Components by bounded reachability are what `kosaraju_scc` promises. -/
theorem ActivationAux.sccSpec_components (g : ProviderGraph) (hg : g.WellFormed) :
    SccSpec g (components g.stableAdjacency g.nodes) := by
  have hadj : ∀ u, g.stableAdjacency u ⊆ g.nodes := by
    intro u v hv
    obtain ⟨label, he⟩ := (g.mem_stableAdjacency u v).mp hv
    exact hg.target_mem _ he
  have hrel : (fun a b => b ∈ g.stableAdjacency a) = g.HasEdge := by
    funext a b
    exact propext (g.mem_stableAdjacency a b)
  have hmem : ∀ u v, v ∈ component g.stableAdjacency g.nodes u ↔
      v ∈ g.nodes ∧ Relation.ReflTransGen g.HasEdge u v ∧ Relation.ReflTransGen g.HasEdge v u := by
    intro u v
    rw [mem_component hadj, hrel]
  have hcomp : ∀ c ∈ components g.stableAdjacency g.nodes,
      ∃ u ∈ g.nodes, component g.stableAdjacency g.nodes u = c := by
    intro c hc
    exact List.mem_map.mp (List.mem_dedup.mp hc)
  refine ⟨?_, ?_, ?_, ?_⟩
  · intro c hc
    obtain ⟨u, -, rfl⟩ := hcomp c hc
    exact hg.nodup.filter _
  · intro v hv
    exact ⟨_, List.mem_dedup.mpr (List.mem_map_of_mem hv), (hmem v v).mpr ⟨hv, .refl, .refl⟩⟩
  · intro c hc v hv
    obtain ⟨u, -, rfl⟩ := hcomp c hc
    exact ((hmem u v).mp hv).1
  · intro c hc u hu v hv
    obtain ⟨w, -, rfl⟩ := hcomp c hc
    obtain ⟨-, hwu, huw⟩ := (hmem w u).mp hu
    rw [hmem]
    constructor
    · rintro ⟨-, hwv, hvw⟩
      exact ⟨huw.trans hwv, hvw.trans hwu⟩
    · rintro ⟨huv, hvu⟩
      exact ⟨hv, hwu.trans huv, hvu.trans huw⟩

/-- Whenever the resolver returns a plan, its activation order lists the descriptors' ids, each exactly once, with every plugin
after the plugins of the scope whose capabilities it asks for, and no other such list comes before it. What the plan binds inside the scope is
what the descriptors declare and ask for. -/
theorem resolveActivationPlan_order_least (hscc : ∀ g, g.WellFormed → SccSpec g (scc g))
    (hparent : ∀ parent, parentPlan = some parent → Produced scc policy parent)
    (h : resolveActivationPlan scc policy scope parentPlan descriptors = .ok plan) :
    (∀ p c, plan.BindsInScope p c ↔ DependsOn descriptors p c) ∧
    TopologicalOrder descriptors plan.BindsInScope plan.activationOrder ∧
    ∀ order, TopologicalOrder descriptors plan.BindsInScope order →
      plan.activationOrder = order ∨ List.Lex (· < ·) plan.activationOrder order :=
  ⟨ActivationAux.bindsInScope_iff_dependsOn hparent h, ActivationAux.order_least hscc h⟩

namespace ActivationAux

/-! A workspace scope under an application scope: `b` of the workspace uses a capability of `c` of the workspace and one of the
application's plugin. -/

theorem application_valid : validateIdentifier "application" = none := by decide
theorem workspace_valid : validateIdentifier "workspace" = none := by decide
theorem project_valid : validateIdentifier "project" = none := by decide
theorem app_valid : validateIdentifier "app" = none := by decide
theorem host_valid : validateIdentifier "host" = none := by decide
theorem log_valid : validateIdentifier "log" = none := by decide
theorem plot_valid : validateIdentifier "plot" = none := by decide
theorem logger_valid : validateIdentifier "logger" = none := by decide
theorem plotter_valid : validateIdentifier "plotter" = none := by decide

def applicationScope : ScopeIdentity where
  kind := ⟨"application", application_valid⟩
  id := ⟨"app", app_valid⟩
  parentId := none
  generation := ⟨1, one_nonzero⟩

def workspaceScope : ScopeIdentity where
  kind := ⟨"workspace", workspace_valid⟩
  id := ⟨"w1", by decide⟩
  parentId := some ⟨"app", app_valid⟩
  generation := ⟨1, one_nonzero⟩

/-- Workspaces belong to the application. -/
def hostRules : List ScopeKindRule :=
  [⟨⟨"application", application_valid⟩, none⟩, ⟨⟨"workspace", workspace_valid⟩, some ⟨"application", application_valid⟩⟩]

theorem hostRules_parent {child parent : ScopeKindId} (h : ParentKind hostRules child parent) :
    child = ⟨"workspace", by decide⟩ ∧ parent = ⟨"application", by decide⟩ := by
  obtain ⟨r, hr, hchild, hparent⟩ := h
  simp only [hostRules, List.mem_cons, List.not_mem_nil, or_false] at hr
  rcases hr with rfl | rfl
  · cases hparent
  · exact ⟨hchild.symm, (Option.some.inj hparent).symm⟩

def hostPolicy : ScopePolicy where
  rules := hostRules
  kinds_nodup := by decide
  parents_present child parent h := by
    obtain ⟨-, rfl⟩ := hostRules_parent h
    exact ⟨_, List.mem_cons_self, rfl⟩
  acyclic kind h := by
    obtain ⟨mid, hstep, -⟩ := Relation.TransGen.head'_iff.mp h
    obtain ⟨mid', -, hlast⟩ := Relation.TransGen.tail'_iff.mp h
    have hclash := (hostRules_parent hstep).1.symm.trans (hostRules_parent hlast).2
    exact absurd hclash (by decide)

def cap (name : String) (h : validateIdentifier name = none) : CapabilityDeclaration := ⟨⟨name, h⟩, 1⟩

def applicationPlugins : List PluginDescriptor :=
  [⟨⟨"host", host_valid⟩, [⟨"application", application_valid⟩], [cap "log" log_valid], [], []⟩]

def workspacePlugins : List PluginDescriptor :=
  [⟨⟨"b", by decide⟩, [⟨"workspace", workspace_valid⟩], [], [cap "plot" plot_valid], [cap "log" log_valid]⟩,
    ⟨⟨"c", by decide⟩, [⟨"workspace", workspace_valid⟩], [cap "plot" plot_valid], [], []⟩]

def componentsOf (g : ProviderGraph) : List (List PluginId) := Components.components g.stableAdjacency g.nodes

/-- The plan of the application, and over it the plan of the workspace. -/
def applicationPlan : Except ExtensionError ActivationPlan :=
  resolveActivationPlan componentsOf hostPolicy applicationScope none applicationPlugins

end ActivationAux

open ActivationAux in
/-- Both scopes resolve, and in the workspace `c` comes before `b`. -/
theorem resolveActivationPlan_order_least_workspace : ∃ parent plan, Produced componentsOf hostPolicy parent ∧
      resolveActivationPlan componentsOf hostPolicy workspaceScope (some parent) workspacePlugins = .ok plan ∧
      plan.activationOrder.map (·.value) = ["c", "b"] ∧
      TopologicalOrder workspacePlugins plan.BindsInScope plan.activationOrder := by
  have hroot : applicationPlan.isOk = true := by decide +kernel
  cases hp : applicationPlan with
  | error e =>
    rw [hp] at hroot
    cases hroot
  | ok parent =>
    have horder : (applicationPlan >>= fun parent => resolveActivationPlan componentsOf hostPolicy workspaceScope (some parent)
        workspacePlugins).toOption.map (fun plan => plan.activationOrder.map (·.value)) = some ["c", "b"] := by
      decide +kernel
    rw [hp] at horder
    obtain ⟨plan, hplan, hvalues⟩ := Option.map_eq_some_iff.mp horder
    have hok : resolveActivationPlan componentsOf hostPolicy workspaceScope (some parent) workspacePlugins = .ok plan := by
      change (resolveActivationPlan componentsOf hostPolicy workspaceScope (some parent) workspacePlugins).toOption =
        some plan at hplan
      cases hres : resolveActivationPlan componentsOf hostPolicy workspaceScope (some parent) workspacePlugins with
      | error e =>
        rw [hres] at hplan
        cases hplan
      | ok plan' =>
        rw [hres] at hplan
        cases hplan
        rfl
    have hproduced : Produced componentsOf hostPolicy parent := .root hp
    refine ⟨parent, plan, hproduced, hok, hvalues, ?_⟩
    refine (resolveActivationPlan_order_least (fun g hg => sccSpec_components g hg) ?_ hok).2.1
    intro parent' heq
    cases heq
    exact hproduced

end Rho
