import Rho.Lemmas.Resolver
import Rho.Lemmas.Scopes
import Rho.Lib.Components

/-!
# The scope tree over whole runs

Three properties of the slots of the scope manager, over every sequence of builds, publications, clears, rollbacks and shutdowns:
the published scopes form a tree and what left it is disposed; the published workspace is bound to the published project; and
nothing routes after a shutdown. Each fails on some run, and holds on every run whose steps meet a condition.
-/

namespace Rho

open Run Fallible ScopeAux ScopeManager

/-! ## The tree -/

/-- The published workspace is a registered child of the published project and names it as its parent, that is a registered
child of the application, and every snapshot that was replaced, cleared or rejected is closed and disposed. -/
structure ScopesAgree (m : ScopeManager) : Prop where
  workspace : ∀ w, m.workspace = some w → ∃ p, m.project = some p ∧ m.NamesParent w p ∧ w ∈ m.childrenOf p
  project : ∀ p, m.project = some p → p ∈ m.childrenOf m.application
  retired : ∀ q ∈ m.retired, ¬m.Routable q ∧ m.Disposed q

/-- A tree publication that replaces a workspace: the workspace is disposed already, or the project above it is not and its
disposal carries that of the workspace through. -/
def ScopeManager.TreeReaches (m : ScopeManager) : ScopeStep → Prop
  | .publishProjectTree t => m.AcceptsTree t → ∀ p w, m.project = some p → m.workspace = some w →
      m.Disposed w ∨ ¬m.Disposed p ∧ (t.disposeProject.children w).CarriedThrough
  | _ => True

namespace ScopeAux

/-- Every retired snapshot is disposed. -/
def RetiredOk (m : ScopeManager) : Prop := ∀ q ∈ m.retired, m.Disposed q

variable {m m' : ScopeManager} {t : ScopeManager.TreePublication} {p w : Ptr} {scc : ProviderGraph → List (List PluginId)}

theorem RetiredOk.wound (hok : RetiredOk m) {r : List Ptr} (h : Wound m m' r) : RetiredOk m' := by
  intro q hq
  rw [h.history] at hq
  rcases List.mem_append.mp hq with hnew | hold
  · exact h.disposed q hnew
  · exact disposed_kept (kept_of_windsDown h.heap) (hok q hold)

theorem RetiredOk.edit (hok : RetiredOk m) {opened : List Ptr} (h : Edited m m' opened)
    (hhistory : m'.retired = m.retired) : RetiredOk m' := by
  intro q hq
  rw [hhistory] at hq
  exact disposed_kept h.kept (hok q hq)

theorem disposed_addSnapshot (s : ScopeSnapshot) {q : Ptr} (h : m.Disposed q) : (addSnapshot m s).Disposed q := by
  obtain ⟨t, ht, hreport⟩ := h
  exact ⟨t, (get_addSnapshot (List.getElem?_eq_some_iff.mp ht).1).trans ht, hreport⟩

theorem retired_installCandidate (m : ScopeManager) (slot : ScopeManager.Slot) (parent : Ptr) (previous : Option Ptr)
    (candidate : Ptr) : (m.installCandidate slot parent previous candidate).retired = m.retired := by
  cases slot with
  | project =>
    cases previous with
    | none => rfl
    | some old => rfl
  | workspace =>
    cases previous with
    | none => rfl
    | some old => rfl

theorem retired_uninstall (m : ScopeManager) (slot : ScopeManager.Slot) (parent : Option Ptr) (expected : Ptr) :
    (m.uninstall slot parent expected).retired = m.retired := by
  cases slot with
  | project =>
    cases parent with
    | none => rfl
    | some p => rfl
  | workspace =>
    cases parent with
    | none => rfl
    | some p => rfl

/-- A child of the published project is still one when the tree is replaced. -/
theorem child_treeInstalled (hok : SlotsOk m) (accepts : m.AcceptsTree t)
    (hp : m.project = some p) (hw : w ∈ m.childrenOf p) : w ∈ (treeInstalled m t).childrenOf p := by
  have hchildren := childrenOf_installTree (lt_of_stateOf accepts.project_ready) hok.application
    (hok.ne_application accepts.project_ready) p
  rw [show (treeInstalled m t).childrenOf p = _ from hchildren, if_neg (Ne.symm (hok.project p hp).2)]
  split
  · exact List.mem_append_left _ hw
  · exact hw

/-- The snapshot of an address with a child. -/
theorem get_of_mem_childrenOf {c : Ptr} (h : c ∈ m.childrenOf p) : ∃ s, m.heap[p]? = some s ∧ c ∈ s.children := by
  unfold childrenOf at h
  cases hs : m.heap[p]? with
  | none =>
    rw [hs] at h
    cases h
  | some s =>
    rw [hs] at h
    exact ⟨s, rfl, h⟩

/-- The disposal of the replaced project has come to the workspace below it. -/
theorem visits_replaced (hok : SlotsOk m) (accepts : m.AcceptsTree t)
    (hp : m.project = some p) (hw : m.workspace = some w) (hdisposed : ¬m.Disposed p)
    (hheap : m'.heap = (quiesceAndDispose t.disposeProject.teardown p (treeInstalled m t).heap).1) :
    ∃ h₀ s, h₀[w]? = some s ∧ WindsDown (quiesceAndDispose (t.disposeProject.children w) w h₀).1 m'.heap := by
  obtain ⟨p', hp', hnames, hmem⟩ := hok.workspace w hw
  rw [hp] at hp'
  cases hp'
  obtain ⟨s, hs, hc⟩ := get_of_mem_childrenOf (child_treeInstalled hok accepts hp hmem)
  have hnone : s.report = none := by
    cases hreport : s.report with
    | none => rfl
    | some report => exact absurd ((edited_treeInstalled m t).unreported p ⟨s, hs, by rw [hreport]; rfl⟩) hdisposed
  obtain ⟨h₀, hbefore, hafter⟩ := visits_quiesce (t := t.disposeProject.teardown) rfl hs hnone hc
  have hlt : w < (treeInstalled m t).heap.length := length_of_heapRel (edited_treeInstalled m t).kept (NamesParent.lt hnames)
  obtain ⟨sw, hsw, -⟩ := hbefore.get (List.getElem?_eq_getElem hlt)
  exact ⟨h₀, sw, hsw, by rw [hheap]; exact hafter⟩

theorem retiredOk_step (hslots : SlotsOk m) (hok : RetiredOk m)
    {l : ScopeStep} (hreaches : m.TreeReaches l) : RetiredOk (m.step scc l) := by
  have hshape := step_shape scc hslots.slotsIn l
  generalize m.step scc l = m' at hshape ⊢
  cases hshape with
  | wound r h => exact hok.wound h
  | built identity parent plan descriptors r hparent hplan h =>
    have hadded : RetiredOk (addSnapshot m (.newReady identity plan parent)) := fun q hq => disposed_addSnapshot _ (hok q hq)
    exact hadded.wound h
  | project expected candidate d r accepts h previous =>
    exact (hok.edit (edited_installCandidate ..) (retired_installCandidate ..)).wound h
  | workspace expected candidate d project r accepts h previous =>
    exact (hok.edit (edited_installCandidate ..) (retired_installCandidate ..)).wound h
  | attached t r ready h => exact (hok.edit (edited_children m t.projectCandidate _) rfl).wound h
  | tree t r accepts h previous =>
    intro q hq
    rw [h.history] at hq
    rcases List.mem_append.mp hq with hnew | hq
    · exact h.disposed q hnew
    rcases List.mem_append.mp hq with hworkspace | hold
    · -- The replaced workspace: only the disposal of the project above it can have reached it.
      have hw : m.workspace = some q := accepts.workspace.trans (Option.mem_toList.mp hworkspace)
      obtain ⟨p, hp, -, -⟩ := hslots.workspace q hw
      rcases hreaches accepts p q hp hw with hdisposed | ⟨hp', hcarried⟩
      · exact disposed_kept (kept_of_windsDown h.heap) (disposed_kept (edited_treeInstalled m t).kept hdisposed)
      · obtain ⟨-, hheap⟩ := previous p (accepts.project.symm.trans hp)
        obtain ⟨h₀, s, hs, hwinds⟩ := visits_replaced hslots accepts hp hw hp' hheap
        obtain ⟨s', hs', hreport⟩ := reported_quiesce hcarried hs
        obtain ⟨s'', hs'', hw''⟩ := hwinds.get hs'
        exact ⟨s'', hs'', hw''.report hreport⟩
    · exact disposed_kept (kept_of_windsDown h.heap) (disposed_kept (edited_treeInstalled m t).kept (hok q hold))
  | clearedProject p r hproject hworkspace h hp => exact (hok.edit (edited_uninstall ..) (retired_uninstall ..)).wound h
  | clearedWorkspace w r hworkspace h hw => exact (hok.edit (edited_uninstall ..) (retired_uninstall ..)).wound h

theorem slotsOk_run {descriptors : List PluginDescriptor}
    (hnew : new scc descriptors = .ok m) (trace : List ScopeStep) : SlotsOk (after (step scc) m trace) :=
  invariant (I := SlotsOk) (fun _ l hok => slotsOk_step scc hok l) trace (slotsOk_new hnew)

end ScopeAux

/-- In every run in which each tree publication reaches the workspace it replaces, the scopes agree in every state. -/
theorem scopes_agree {scc : ProviderGraph → List (List PluginId)} {descriptors : List PluginDescriptor} {m : ScopeManager}
    (hnew : ScopeManager.new scc descriptors = .ok m) {trace : List ScopeStep}
    (hreaches : Along (ScopeManager.step scc) ScopeManager.TreeReaches m trace) :
    ScopesAgree (after (ScopeManager.step scc) m trace) := by
  have hslots := slotsOk_run hnew trace
  have hretired : RetiredOk m := by
    obtain ⟨plan, -, hnew⟩ := bind_eq_ok hnew
    cases hnew
    exact nofun
  have hboth : SlotsOk (after (ScopeManager.step scc) m trace) ∧ RetiredOk (after (ScopeManager.step scc) m trace) :=
    invariant_along (I := fun m => SlotsOk m ∧ RetiredOk m)
      (fun m l hok hc => ⟨slotsOk_step scc hok.1 l, retiredOk_step hok.1 hok.2 hc⟩) ⟨slotsOk_new hnew, hretired⟩ hreaches
  refine ⟨hslots.workspace, ?_, ?_⟩
  · intro p hp
    rw [hslots.children, hp]
    exact List.mem_singleton.mpr rfl
  · intro q hq
    have hdisposed := hboth.2 q hq
    exact ⟨not_routable_of_disposed hdisposed, hdisposed⟩

namespace ScopeAux

/-! A host without plugins, with disposals that are carried through. -/

def graphComponents (g : ProviderGraph) : List (List PluginId) := Components.components g.stableAdjacency g.nodes

def calm : Disposal := ⟨false, fun _ => .finished false (fun _ => .finished false (fun _ => .skipped) false) false, false⟩

def activating : ScopeManager.Activation := ⟨fun _ => true, calm⟩

def projectA : ScopeId := ⟨"project-a", by decide⟩

def workspaceA : ScopeId := ⟨"workspace-a", by decide⟩

/-- What is computed from the first state holds of it. -/
theorem of_new {α : Type} (scc : ProviderGraph → List (List PluginId)) (descriptors : List PluginDescriptor)
    {f : ScopeManager → α} {a : α} (h : (new scc descriptors).toOption.map f = some a) :
    ∃ m, new scc descriptors = .ok m ∧ f m = a := by
  cases hnew : new scc descriptors with
  | error e =>
    rw [hnew] at h
    cases h
  | ok m =>
    rw [hnew] at h
    exact ⟨m, rfl, Option.some.inj h⟩

/-- A project with a workspace, published as a tree. -/
def treePublished : List ScopeStep :=
  [.buildProject projectA [] activating, .buildWorkspace 1 workspaceA [] activating,
    .publishProjectTree ⟨none, 1, none, 2, calm, calm⟩]

/-- The next generation of both. -/
def treeReplaced : List ScopeStep :=
  [.buildProject projectA [] activating, .buildWorkspace 3 workspaceA [] activating,
    .publishProjectTree ⟨some 1, 3, some 2, 4, calm, calm⟩]

/-- The published project is offered again and disposed in its slot; a workspace is published below it, and then replaced with
the project. -/
def orphaned : List ScopeStep :=
  [.buildProject projectA [] activating, .publishProject none 1 calm, .publishProject (some 1) 1 calm,
    .buildWorkspace 1 workspaceA [] activating, .publishWorkspace none 2 calm] ++ treeReplaced

end ScopeAux

/-- A tree that is published and replaced by its next generation. -/
theorem scopes_agree_tree : ∃ m, ScopeManager.new graphComponents [] = .ok m ∧
      ScopesAgree (after (ScopeManager.step graphComponents) m (treePublished ++ treeReplaced)) := by
  obtain ⟨m, hnew, hreport⟩ := of_new graphComponents []
    (f := fun m => ((after (ScopeManager.step graphComponents) m (treePublished ++ treeReplaced.take 2)).heap[1]?).map
      (fun s => s.report.isSome)) (a := some false) (by decide +kernel)
  refine ⟨m, hnew, scopes_agree hnew ?_⟩
  refine ⟨trivial, trivial, ?_, trivial, trivial, ?_, trivial⟩
  · intro accepts p w hp _
    have hnone := accepts.project.symm.trans hp
    cases hnone
  · intro accepts p w hp hw
    have hp₁ := accepts.project.symm.trans hp
    cases hp₁
    refine Or.inr ⟨?_, trivial⟩
    rintro ⟨s, hs, hreported⟩
    have hfalse := hreport
    simp only [treePublished, treeReplaced, List.take, List.cons_append, List.nil_append, after_cons, after_nil] at hfalse
    rw [hs, Option.map_some, hreported] at hfalse
    cases hfalse

/-- A workspace published below a project that is disposed already is replaced and goes on routing. -/
theorem scopes_disagree_orphan : ¬∀ m, ScopeManager.new graphComponents [] = .ok m →
      ∀ trace, ScopesAgree (after (ScopeManager.step graphComponents) m trace) := by
  intro hagree
  obtain ⟨m, hnew, hstate⟩ := of_new graphComponents []
    (f := fun m => (decide (2 ∈ (after (ScopeManager.step graphComponents) m orphaned).retired),
      ((after (ScopeManager.step graphComponents) m orphaned).heap[2]?).map (fun s => s.routing)))
    (a := (true, some true)) (by decide +kernel)
  obtain ⟨hretired, hrouting⟩ := Prod.mk.inj hstate
  obtain ⟨s, hs, hopen⟩ := Option.map_eq_some_iff.mp hrouting
  exact ((hagree m hnew orphaned).retired 2 (of_decide_eq_true hretired)).1 ⟨s, hs, hopen⟩

/-! ## The plan of the published workspace -/

/-- The plan binds a requirement to the provider. -/
def ActivationPlan.Binds (plan : ActivationPlan) (provider : ProviderIdentity) : Prop :=
  ∃ consumer bs, (consumer, bs) ∈ plan.bindings ∧ ∃ b ∈ bs, b.resolution = .provider provider

/-- The plan of the published workspace was resolved against the published project, and every provider it binds is of the
workspace itself, of that generation of the project, or of the application. -/
def WorkspaceBound (m : ScopeManager) : Prop :=
  ∀ w s, m.workspace = some w → m.heap[w]? = some s → s.parent = m.project ∧
    ∀ provider, s.plan.Binds provider → provider.scope = s.identity ∨ m.project.bind m.identityOf = some provider.scope ∨
      m.identityOf m.application = some provider.scope

/-- What is published was resolved against the plan of the snapshot it is published under. -/
def ScopeManager.BuiltInPlace (m : ScopeManager) : ScopeStep → Prop
  | .publishProject expected candidate _ => m.AcceptsProject expected candidate → m.parentOf candidate = some m.application
  | .publishWorkspace expected candidate _ => ∀ p, m.AcceptsWorkspace expected candidate p → m.parentOf candidate = some p
  | .publishProjectTree t => m.AcceptsTree t →
      m.parentOf t.projectCandidate = some m.application ∧ m.parentOf t.workspaceCandidate = some t.projectCandidate
  | _ => True

namespace ScopeAux

/-- A snapshot's plan binds effective providers, and these are its own or effective in the plan it was resolved against. -/
structure PlanOk (h : Heap) (s : ScopeSnapshot) : Prop where
  binds : ∀ provider, s.plan.Binds provider → ∃ c, s.plan.effectiveProviders c = some provider
  providers : ∀ c provider, s.plan.effectiveProviders c = some provider → provider.scope = s.identity ∨
    ∃ q t, s.parent = some q ∧ h[q]? = some t ∧ t.plan.effectiveProviders c = some provider

variable {h h' : Heap} {scc : ProviderGraph → List (List PluginId)} {identity : ScopeIdentity} {parent : Option Ptr}
  {descriptors : List PluginDescriptor} {plan : ActivationPlan} {m m' : ScopeManager}

theorem PlanOk.kept {s s' : ScopeSnapshot} (hok : PlanOk h s)
    (hheap : ∀ {q : Ptr} {t : ScopeSnapshot}, h[q]? = some t → ∃ t', h'[q]? = some t' ∧ ScopeSnapshot.plan t' = t.plan) (hs : Kept s s') : PlanOk h' s' := by
  refine ⟨?_, ?_⟩
  · rw [hs.plan]
    exact hok.binds
  · rw [hs.plan, hs.identity, hs.parent]
    intro c provider hc
    rcases hok.providers c provider hc with hown | ⟨q, t, hq, ht, htc⟩
    · exact Or.inl hown
    · obtain ⟨t', ht', hplan⟩ := hheap ht
      exact Or.inr ⟨q, t', hq, ht', by rw [hplan]; exact htc⟩

open ResolverAux in
/-- A resolved plan binds effective providers, and these are declared in the scope or effective in the parent plan. -/
theorem planOk_resolve
    (hplan : resolveActivationPlan scc .phaseOne identity (parent.bind fun q => (h[q]?).map ScopeSnapshot.plan) descriptors =
      .ok plan) (hheap : ∀ {q : Ptr} {t : ScopeSnapshot}, h[q]? = some t → h'[q]? = some t) : PlanOk h' (.newReady identity plan parent) := by
  obtain ⟨-, -, -, state, hfold, -, rfl⟩ := resolve_ok_inv hplan
  obtain ⟨hbindings, -, -⟩ := foldlM_bindDescriptor _ _ hfold
  refine ⟨?_, ?_⟩
  · rintro provider ⟨consumer, bs, hbs, b, hb, hres⟩
    rw [hbindings] at hbs
    obtain ⟨d, -, hd⟩ := List.mem_map.mp hbs
    cases hd
    obtain ⟨r, -, rfl⟩ := List.mem_map.mp hb
    refine ⟨r.1.capabilityId, ?_⟩
    unfold bindingOf at hres
    cases hp : (resolveContext identity (parent.bind fun q => (h[q]?).map ScopeSnapshot.plan)
        (normalizedDescriptors descriptors)).effectiveProviders r.1.capabilityId with
    | none =>
      simp only [hp] at hres
      cases hres
    | some p =>
      simp only [hp] at hres
      cases hres
      exact hp
  · intro c provider hc
    rcases effectiveProvidersOf_cases hc with hdeclared | hparent
    · exact Or.inl (declared_mem hdeclared).1
    · cases parent with
      | none => cases hparent
      | some q =>
        rw [Option.bind_some] at hparent
        cases ht : h[q]? with
        | none =>
          rw [ht] at hparent
          cases hparent
        | some t =>
          rw [ht] at hparent
          exact Or.inr ⟨q, t, rfl, hheap ht, hparent⟩

/-- Every plan is one of the resolver; the published project was resolved against the application, the published workspace
against the published project. -/
structure BoundOk (m : ScopeManager) : Prop where
  plans : ∀ {q : Ptr} {s : ScopeSnapshot}, m.heap[q]? = some s → PlanOk m.heap s
  application : m.parentOf m.application = none
  project : ∀ p, m.project = some p → m.parentOf p = some m.application
  workspace : ∀ w, m.workspace = some w → m.parentOf w = m.project

/-- What the snapshots are stays, and what is in the slots was built in place. -/
theorem BoundOk.edit (hok : BoundOk m) (hkept : HeapRel Kept m.heap m'.heap)
    (happ : m'.application = m.application) (hproject : ∀ p, m'.project = some p → m.parentOf p = some m.application)
    (hworkspace : ∀ w, m'.workspace = some w → m.parentOf w = m'.project) : BoundOk m' := by
  refine ⟨?_, ?_, ?_, ?_⟩
  · intro q s' hs'
    obtain ⟨s, hs, hk⟩ := hkept.get_before hs'
    refine (hok.plans hs).kept (fun ht => ?_) hk
    obtain ⟨t', ht', hkt⟩ := hkept.get ht
    exact ⟨t', ht', hkt.plan⟩
  · rw [happ, parentOf_kept hkept]
    exact hok.application
  · intro p hp
    rw [happ, parentOf_kept hkept]
    exact hproject p hp
  · intro w hw
    rw [parentOf_kept hkept]
    exact hworkspace w hw

theorem BoundOk.wound (hok : BoundOk m) {r : List Ptr} (h : Wound m m' r) : BoundOk m' := by
  refine hok.edit (kept_of_windsDown h.heap) h.application ?_ ?_
  · rw [h.project]
    exact hok.project
  · rw [h.project, h.workspace]
    exact hok.workspace

theorem boundOk_addSnapshot (hslots : SlotsOk m) (hok : BoundOk m)
    (hplan : resolveActivationPlan scc .phaseOne identity (parent.bind fun q => (m.heap[q]?).map ScopeSnapshot.plan)
      descriptors = .ok plan) : BoundOk (addSnapshot m (.newReady identity plan parent)) := by
  have hsame : ∀ {q : Ptr} {t : ScopeSnapshot}, m.heap[q]? = some t →
      (addSnapshot m (.newReady identity plan parent)).heap[q]? = some t :=
    fun ht => (get_addSnapshot (List.getElem?_eq_some_iff.mp ht).1).trans ht
  have hparentOf : ∀ {q : Ptr}, q < m.heap.length →
      (addSnapshot m (.newReady identity plan parent)).parentOf q = m.parentOf q := by
    intro q hq
    rw [parentOf, get_addSnapshot hq]
    rfl
  refine ⟨?_, ?_, ?_, ?_⟩
  · intro q s hs
    rcases Nat.lt_or_ge q m.heap.length with hlt | hge
    · rw [get_addSnapshot hlt] at hs
      exact (hok.plans hs).kept (fun ht => ⟨_, hsame ht, rfl⟩) (Kept.refl s)
    · rw [addSnapshot, List.getElem?_append_right hge, List.getElem?_singleton] at hs
      split at hs
      · cases hs
        exact planOk_resolve hplan hsame
      · cases hs
  · exact (hparentOf hslots.application).trans hok.application
  · intro p hp
    exact (hparentOf (hslots.project p hp).1).trans (hok.project p hp)
  · intro w hw
    exact (hparentOf (hslots.slotsIn .workspace _ hw)).trans (hok.workspace w hw)

theorem boundOk_step (hslots : SlotsOk m) (hok : BoundOk m)
    {l : ScopeStep} (hbuilt : m.BuiltInPlace l) : BoundOk (m.step scc l) := by
  have hshape := step_shape scc hslots.slotsIn l
  generalize m.step scc l = m' at hshape ⊢
  cases hshape with
  | wound r h => exact hok.wound h
  | built identity parent plan descriptors r hparent hplan h => exact (boundOk_addSnapshot hslots hok hplan).wound h
  | project expected candidate d r accepts h previous =>
    have hedited := edited_installCandidate m .project m.application expected candidate
    obtain ⟨hslot, hother⟩ := slots_installCandidate m .project m.application expected candidate
    refine BoundOk.wound (hok.edit hedited.kept hedited.application ?_ ?_) h
    · rw [hslot]
      rintro p ⟨⟩
      exact hbuilt accepts
    · rw [hother]
      intro w hw
      rw [show (m.setCurrent (some candidate) .project).workspace = none from accepts.1] at hw
      cases hw
  | workspace expected candidate d project r accepts h previous =>
    have hedited := edited_installCandidate m .workspace project expected candidate
    obtain ⟨hother, hslot⟩ := slots_installCandidate m .workspace project expected candidate
    refine BoundOk.wound (hok.edit hedited.kept hedited.application ?_ ?_) h
    · rw [hother]
      exact hok.project
    · rw [hother, hslot]
      rintro w ⟨⟩
      exact (hbuilt project accepts).trans accepts.1.symm
  | attached t r ready h =>
    exact (hok.edit (edited_children m t.projectCandidate _).kept rfl hok.project hok.workspace).wound h
  | tree t r accepts h previous =>
    have hedited := edited_treeInstalled m t
    obtain ⟨hproject, hworkspace⟩ := slots_treeInstalled m t
    obtain ⟨hp, hw⟩ := hbuilt accepts
    refine BoundOk.wound (hok.edit hedited.kept hedited.application ?_ ?_) h
    · rw [hproject]
      rintro p ⟨⟩
      exact hp
    · rw [hproject, hworkspace]
      rintro w ⟨⟩
      exact hw
  | clearedProject p r hproject hworkspace h hp =>
    refine BoundOk.wound (hok.edit (edited_uninstall m .project (some m.application) p).kept rfl nofun ?_) h
    intro w hw
    rw [show (m.uninstall .project (some m.application) p).workspace = none from hworkspace] at hw
    cases hw
  | clearedWorkspace w r hworkspace h hw =>
    have hedited := edited_uninstall m .workspace m.project w
    obtain ⟨hproject, hnone⟩ := slots_uninstallWorkspace m w
    refine BoundOk.wound (hok.edit hedited.kept hedited.application ?_ ?_) h
    · rw [hproject]
      exact hok.project
    · rw [hnone]
      exact nofun

theorem boundOk_new (hnew : new scc descriptors = .ok m) : BoundOk m := by
  obtain ⟨plan, hplan, hnew⟩ := bind_eq_ok hnew
  cases hnew
  refine ⟨?_, rfl, nofun, nofun⟩
  intro q s hs
  rw [List.getElem?_singleton] at hs
  split at hs
  · cases hs
    have hready : PlanOk [] (.newReady applicationIdentity plan none) :=
      planOk_resolve (h := []) hplan nofun
    exact hready.kept nofun (kept_markActive _)
  · cases hs

/-- The providers of the published workspace, one level after the other. -/
theorem workspaceBound_of_boundOk (hok : BoundOk m) : WorkspaceBound m := by
  intro w s hw hs
  have hparent : s.parent = m.project := by
    rw [← hok.workspace w hw, parentOf, hs]
    rfl
  refine ⟨hparent, ?_⟩
  intro provider hbinds
  obtain ⟨c, hc⟩ := (hok.plans hs).binds provider hbinds
  rcases (hok.plans hs).providers c provider hc with hown | ⟨p, sp, hp, hsp, hpc⟩
  · exact Or.inl hown
  rw [hparent] at hp
  rcases (hok.plans hsp).providers c provider hpc with hproject | ⟨a, sa, ha, hsa, hac⟩
  · refine Or.inr (Or.inl ?_)
    rw [hp, Option.bind_some, identityOf, hsp, Option.map_some, hproject]
  have happ : sp.parent = some m.application := by
    rw [← hok.project p hp, parentOf, hsp]
    rfl
  rw [happ] at ha
  cases ha
  rcases (hok.plans hsa).providers c provider hac with happlication | ⟨b, sb, hb, -, -⟩
  · refine Or.inr (Or.inr ?_)
    rw [identityOf, hsa, Option.map_some, happlication]
  · have hnone := hok.application
    rw [parentOf, hsa, Option.bind_some, hb] at hnone
    cases hnone

end ScopeAux

/-- In every run in which what is published was resolved against the snapshot it is published under, the published workspace is
bound to the published generation of the project in every state. -/
theorem workspace_bound {scc : ProviderGraph → List (List PluginId)} {descriptors : List PluginDescriptor} {m : ScopeManager}
    (hnew : ScopeManager.new scc descriptors = .ok m) {trace : List ScopeStep}
    (hbuilt : Along (ScopeManager.step scc) ScopeManager.BuiltInPlace m trace) :
    WorkspaceBound (after (ScopeManager.step scc) m trace) := by
  have hboth := invariant_along (I := fun m => SlotsOk m ∧ BoundOk m)
    (fun m l hok hc => ⟨slotsOk_step scc hok.1 l, boundOk_step hok.1 hok.2 hc⟩) ⟨slotsOk_new hnew, boundOk_new hnew⟩
    hbuilt
  exact workspaceBound_of_boundOk hboth.2

namespace ScopeAux

/-! A plugin of the project provides a capability that a plugin of the workspace asks for. -/

def sourceCapability : CapabilityDeclaration := ⟨⟨"source", by decide⟩, 1⟩

def projectPlugins : List PluginDescriptor :=
  [⟨⟨"provider", by decide⟩, [ScopePolicy.projectKind], [sourceCapability], [], []⟩]

def workspacePlugins : List PluginDescriptor :=
  [⟨⟨"consumer", by decide⟩, [ScopePolicy.workspaceKind], [], [sourceCapability], []⟩]

/-- The providers that a plan binds. -/
def boundProviders (plan : ActivationPlan) : List ProviderIdentity :=
  plan.bindings.flatMap fun entry => entry.2.filterMap fun b =>
    match b.resolution with
    | .provider p => some p
    | .absentOptional => none

theorem binds_of_mem {plan : ActivationPlan} {provider : ProviderIdentity} (h : provider ∈ boundProviders plan) :
    plan.Binds provider := by
  obtain ⟨⟨consumer, bs⟩, hentry, hmem⟩ := List.mem_flatMap.mp h
  obtain ⟨b, hb, hres⟩ := List.mem_filterMap.mp hmem
  refine ⟨consumer, bs, hentry, b, hb, ?_⟩
  split at hres
  · next p hp =>
    cases hres
    exact hp
  · cases hres

/-- The workspace is built, and published below the project it was built for. -/
def workspaceInPlace : List ScopeStep :=
  [.buildProject projectA projectPlugins activating, .publishProject none 1 calm,
    .buildWorkspace 1 workspaceA workspacePlugins activating, .publishWorkspace none 2 calm]

/-- The project is published again, with the same id, between the two. -/
def workspaceStale : List ScopeStep :=
  [.buildProject projectA projectPlugins activating, .publishProject none 1 calm,
    .buildWorkspace 1 workspaceA workspacePlugins activating, .buildProject projectA projectPlugins activating,
    .publishProject (some 1) 3 calm, .publishWorkspace none 2 calm]

/-- A provider of another scope than those the workspace may use. -/
def foreignProvider (m : ScopeManager) (s : ScopeSnapshot) (p : ProviderIdentity) : Bool :=
  decide (p.scope ≠ s.identity) && decide (m.project.bind m.identityOf ≠ some p.scope) &&
    decide (m.identityOf m.application ≠ some p.scope)

end ScopeAux

theorem workspace_bound_in_place : ∃ m, ScopeManager.new graphComponents [] = .ok m ∧
      WorkspaceBound (after (ScopeManager.step graphComponents) m workspaceInPlace) := by
  obtain ⟨m, hnew, hparents⟩ := of_new graphComponents []
    (f := fun m =>
      (decide ((after (ScopeManager.step graphComponents) m (workspaceInPlace.take 1)).parentOf 1 =
          some (after (ScopeManager.step graphComponents) m (workspaceInPlace.take 1)).application),
        decide ((after (ScopeManager.step graphComponents) m (workspaceInPlace.take 3)).parentOf 2 =
          (after (ScopeManager.step graphComponents) m (workspaceInPlace.take 3)).project)))
    (a := (true, true)) (by decide +kernel)
  obtain ⟨hproject, hworkspace⟩ := Prod.mk.inj hparents
  refine ⟨m, hnew, workspace_bound hnew ?_⟩
  refine ⟨trivial, fun _ => of_decide_eq_true hproject, trivial, ?_, trivial⟩
  intro p accepts
  exact (of_decide_eq_true hworkspace).trans accepts.1

/-- A workspace that was resolved against the previous generation of the project is published below the next one. -/
theorem workspace_bound_to_old_generation : ¬∀ m, ScopeManager.new graphComponents [] = .ok m →
      ∀ trace, WorkspaceBound (after (ScopeManager.step graphComponents) m trace) := by
  intro hbound
  obtain ⟨m, hnew, hstate⟩ := of_new graphComponents []
    (f := fun m =>
      ((after (ScopeManager.step graphComponents) m workspaceStale).workspace,
        ((after (ScopeManager.step graphComponents) m workspaceStale).heap[2]?).map (fun s => (boundProviders s.plan).any
          (foreignProvider (after (ScopeManager.step graphComponents) m workspaceStale) s))))
    (a := (some 2, some true)) (by decide +kernel)
  obtain ⟨hworkspace, hforeign⟩ := Prod.mk.inj hstate
  obtain ⟨s, hs, hany⟩ := Option.map_eq_some_iff.mp hforeign
  obtain ⟨p, hp, hbad⟩ := List.any_eq_true.mp hany
  simp only [foreignProvider, Bool.and_eq_true, decide_eq_true_eq] at hbad
  obtain ⟨⟨hown, hproject⟩, happlication⟩ := hbad
  rcases (hbound m hnew workspaceStale 2 s hworkspace hs).2 p (binds_of_mem hp) with h | h | h
  · exact hown h
  · exact hproject h
  · exact happlication h

/-! ## After a shutdown -/

/-- A tree publication that replaces a routing workspace: the project above is not disposed yet, and its disposal comes to the
workspace. -/
def ScopeManager.TreeCloses (m : ScopeManager) : ScopeStep → Prop
  | .publishProjectTree t => m.AcceptsTree t → ∀ p w, m.project = some p → m.workspace = some w →
      ¬m.Routable w ∨ ¬m.Disposed p ∧ (t.disposeProject.children w).Begun
  | _ => True

/-- The disposal of the application comes to the published project while that routes, and through it to the published workspace
while that does: no scope on the way is disposed already, and no deadline cuts it off before. -/
structure ScopeManager.ShutdownReaches (m : ScopeManager) (d : Disposal) : Prop where
  project : ∀ p, m.project = some p → m.Routable p → ¬m.Disposed m.application ∧ (d.children p).Begun
  workspace : ∀ p w, m.project = some p → m.workspace = some w → m.Routable w →
    ¬m.Disposed m.application ∧ ¬m.Disposed p ∧
      ∃ children, (d.children p).onChildren = some children ∧ (children w).Begun

/-- The step is no publication that the manager accepts. -/
def ScopeManager.PublishesNothing (m : ScopeManager) : ScopeStep → Prop
  | .publishProject expected candidate _ => ¬m.AcceptsProject expected candidate
  | .publishWorkspace expected candidate _ => ∀ p, ¬m.AcceptsWorkspace expected candidate p
  | .publishProjectTree t => ¬m.AcceptsTree t
  | _ => True

namespace ScopeAux

/-- Only the application and what is published routes. -/
def RoutesOk (m : ScopeManager) : Prop :=
  ∀ q, m.Routable q → q = m.application ∨ m.project = some q ∨ m.workspace = some q

variable {m m' : ScopeManager} {r : List Ptr} {q p : Ptr} {scc : ProviderGraph → List (List PluginId)} {l : ScopeStep}
  {d : Disposal}

theorem RoutesOk.wound (hok : RoutesOk m) (h : Wound m m' r) : RoutesOk m' := by
  intro q hq
  rw [h.application, h.project, h.workspace]
  exact hok q (routable_winds h.heap hq)

/-- What is retired in a step does not route after it. -/
theorem Wound.closed (h : Wound m m' r) (hq : q ∈ r) : ¬m'.Routable q :=
  not_routable_of_disposed (h.disposed q hq)

theorem routable_addSnapshot {identity : ScopeIdentity} {plan : ActivationPlan} {parent : Option Ptr}
    (h : (addSnapshot m (.newReady identity plan parent)).Routable q) : m.Routable q := by
  obtain ⟨s, hs, hrouting⟩ := h
  rcases Nat.lt_or_ge q m.heap.length with hlt | hge
  · rw [get_addSnapshot hlt] at hs
    exact ⟨s, hs, hrouting⟩
  · rw [addSnapshot, List.getElem?_append_right hge, List.getElem?_singleton] at hs
    split at hs
    · cases hs
      cases hrouting
    · cases hs

/-- A workspace that the replaced project's disposal comes to is closed. -/
theorem closed_replaced (hslots : SlotsOk m) {t : ScopeManager.TreePublication} (accepts : m.AcceptsTree t)
    {w : Ptr} (hp : m.project = some p) (hw : m.workspace = some w) (hdisposed : ¬m.Disposed p)
    (hbegun : (t.disposeProject.children w).Begun)
    (hheap : m'.heap = (quiesceAndDispose t.disposeProject.teardown p (treeInstalled m t).heap).1) : ¬m'.Routable w := by
  obtain ⟨h₀, -, -, hwinds⟩ := visits_replaced hslots accepts hp hw hdisposed hheap
  rintro ⟨s', hs', hrouting⟩
  obtain ⟨s, hs, hsw⟩ := hwinds.get_before hs'
  have hclosed := closed_quiesce hbegun hs
  rw [hsw.routing hrouting] at hclosed
  cases hclosed

theorem routesOk_step (hslots : SlotsOk m) (hok : RoutesOk m) (hcloses : m.TreeCloses l) : RoutesOk (m.step scc l) := by
  have hshape := step_shape scc hslots.slotsIn l
  generalize m.step scc l = m' at hshape ⊢
  cases hshape with
  | wound r h => exact hok.wound h
  | built identity parent plan descriptors r hparent hplan h =>
    have hadded : RoutesOk (addSnapshot m (.newReady identity plan parent)) := fun q hq => hok q (routable_addSnapshot hq)
    exact hadded.wound h
  | project expected candidate d r accepts h previous =>
    intro q hq
    have hedited := edited_installCandidate m .project m.application expected candidate
    rw [h.application, h.project, hedited.application, (slots_installCandidate m .project m.application expected candidate).1]
    rcases hedited.routable q (routable_winds h.heap hq) with hold | hnew
    · rcases hok q hold with happ | hproject | hworkspace
      · exact Or.inl happ
      · exact absurd hq (Wound.closed h (previous q (accepts.2.2.symm.trans hproject)))
      · rw [accepts.1] at hworkspace
        cases hworkspace
    · exact Or.inr (Or.inl (congrArg some (List.mem_singleton.mp hnew).symm))
  | workspace expected candidate d project r accepts h previous =>
    intro q hq
    have hedited := edited_installCandidate m .workspace project expected candidate
    obtain ⟨hproject, hworkspace⟩ := slots_installCandidate m .workspace project expected candidate
    rw [h.application, h.project, h.workspace, hedited.application, hproject, hworkspace]
    rcases hedited.routable q (routable_winds h.heap hq) with hold | hnew
    · rcases hok q hold with happ | hp | hw
      · exact Or.inl happ
      · exact Or.inr (Or.inl hp)
      · exact absurd hq (Wound.closed h (previous q (accepts.2.2.2.symm.trans hw)))
    · exact Or.inr (Or.inr (congrArg some (List.mem_singleton.mp hnew).symm))
  | attached t r ready h =>
    have hedited := edited_children m t.projectCandidate (fun s => s.children ++ [t.workspaceCandidate])
    have hattached : RoutesOk (m.attachTree t) := by
      intro q hq
      rcases hedited.routable q hq with hold | hnew
      · exact hok q hold
      · cases hnew
    exact hattached.wound h
  | tree t r accepts h previous =>
    intro q hq
    have hedited := edited_treeInstalled m t
    obtain ⟨hproject, hworkspace⟩ := slots_treeInstalled m t
    rw [h.application, h.project, h.workspace, hedited.application, hproject, hworkspace]
    rcases hedited.routable q (routable_winds h.heap hq) with hold | hnew
    · rcases hok q hold with happ | hp | hw
      · exact Or.inl happ
      · exact absurd hq (Wound.closed h (previous q (accepts.project.symm.trans hp)).1)
      · obtain ⟨p, hp, -, -⟩ := hslots.workspace q hw
        rcases hcloses accepts p q hp hw with hclosed | ⟨hdisposed, hbegun⟩
        · exact absurd hold hclosed
        · obtain ⟨-, hheap⟩ := previous p (accepts.project.symm.trans hp)
          exact absurd hq (closed_replaced hslots accepts hp hw hdisposed hbegun hheap)
    · rcases List.mem_cons.mp hnew with rfl | hnew
      · exact Or.inr (Or.inr rfl)
      · exact Or.inr (Or.inl (congrArg some (List.mem_singleton.mp hnew).symm))
  | clearedProject p r hproject hworkspace h hp =>
    intro q hq
    rw [h.application]
    rcases (edited_uninstall m .project (some m.application) p).routable q (routable_winds h.heap hq) with hold | hnew
    · rcases hok q hold with happ | hslot | hslot
      · exact Or.inl happ
      · rw [hproject] at hslot
        cases hslot
        exact absurd hq (Wound.closed h hp)
      · rw [hworkspace] at hslot
        cases hslot
    · cases hnew
  | clearedWorkspace w r hworkspace h hw =>
    intro q hq
    have hedited := edited_uninstall m .workspace m.project w
    rw [h.application, h.project, hedited.application, (slots_uninstallWorkspace m w).1]
    rcases hedited.routable q (routable_winds h.heap hq) with hold | hnew
    · rcases hok q hold with happ | hslot | hslot
      · exact Or.inl happ
      · exact Or.inr (Or.inl hslot)
      · rw [hworkspace] at hslot
        cases hslot
        exact absurd hq (Wound.closed h hw)
    · cases hnew

/-- A snapshot that is not disposed has no report. -/
theorem unreported_of_not_disposed {s : ScopeSnapshot} (hs : m.heap[p]? = some s) (h : ¬m.Disposed p) : s.report = none := by
  cases hreport : s.report with
  | none => rfl
  | some report => exact absurd ⟨s, hs, by rw [hreport]; rfl⟩ h

/-- The disposal of an application that is not disposed yet goes on to the published project, its only child. -/
theorem visits_shutdown (hslots : SlotsOk m) (happ : ¬m.Disposed m.application) (hp : m.project = some p) :
    ∃ s hnone, m.heap[m.application]? = some s ∧
      WindsDown (quiesceAndDispose (d.children p) p (m.heap.set m.application (s.enterDisposing hnone))).1
        (m.shutdown d).1.heap := by
  obtain ⟨s, hs⟩ : ∃ s, m.heap[m.application]? = some s := ⟨_, List.getElem?_eq_getElem hslots.application⟩
  have hnone := unreported_of_not_disposed hs happ
  have hchildren : s.children = [p] := by
    have h := hslots.children
    rw [childrenOf, hs, hp] at h
    exact h
  exact ⟨s, hnone, hs, visits_only_child (t := d.teardown) rfl hs hnone hchildren⟩

theorem closed_of_winds {h : Heap} (hclosed : ∀ s, h[q]? = some s → s.routing = false)
    (hwinds : WindsDown h m'.heap) : ¬m'.Routable q := by
  rintro ⟨s', hs', hrouting⟩
  obtain ⟨s, hs, hsw⟩ := hwinds.get_before hs'
  have hfalse := hclosed s hs
  rw [hsw.routing hrouting] at hfalse
  cases hfalse

/-- A shutdown that reaches what is published leaves nothing that routes. -/
theorem silent_shutdown (hslots : SlotsOk m) (hok : RoutesOk m)
    (hreaches : m.ShutdownReaches d) (q : Ptr) : ¬(m.shutdown d).1.Routable q := by
  intro hq
  have hold : m.Routable q := routable_winds (wound_dispose m d m.application).heap hq
  rcases hok q hold with rfl | hp | hw
  · exact not_routable_of_disposed (disposed_dispose hslots.application d) hq
  · obtain ⟨happ, hbegun⟩ := hreaches.project q hp hold
    obtain ⟨s, hnone, -, hwinds⟩ := visits_shutdown (d := d) hslots happ hp
    exact closed_of_winds (fun _ hs => closed_quiesce hbegun hs) hwinds hq
  · obtain ⟨p, hp, -, hmem⟩ := hslots.workspace q hw
    obtain ⟨happ, hpd, children, hchildren, hbegun⟩ := hreaches.workspace p q hp hw hold
    obtain ⟨s, hnone, -, hwinds⟩ := visits_shutdown (d := d) hslots happ hp
    obtain ⟨sp, hsp, hc⟩ := get_of_mem_childrenOf hmem
    -- The project is where it was when its own disposal begins.
    have hsp' : (m.heap.set m.application (s.enterDisposing hnone))[p]? = some sp := by
      rw [List.getElem?_set_ne (Ne.symm (hslots.project p hp).2)]
      exact hsp
    obtain ⟨h₀, -, hafter⟩ := visits_quiesce hchildren hsp' (unreported_of_not_disposed hsp hpd) hc
    exact closed_of_winds (fun _ hs => closed_quiesce hbegun hs) (hafter.trans hwinds) hq

/-- Where nothing routes, nothing routes after a step that publishes nothing. -/
theorem silent_step (hslots : SlotsOk m) (hsilent : ∀ q, ¬m.Routable q) (hnothing : m.PublishesNothing l) (q : Ptr) :
    ¬(m.step scc l).Routable q := by
  have hshape := step_shape scc hslots.slotsIn l
  generalize m.step scc l = m' at hshape ⊢
  intro hq
  have hedit : ∀ {m₁ : ScopeManager} {r : List Ptr}, Edited m m₁ [] → Wound m₁ m' r → False := by
    intro m₁ r hedited h
    rcases hedited.routable q (routable_winds h.heap hq) with hold | hnew
    · exact hsilent q hold
    · cases hnew
  cases hshape with
  | wound r h => exact hsilent q (routable_winds h.heap hq)
  | built identity parent plan descriptors r hparent hplan h =>
    exact hsilent q (routable_addSnapshot (routable_winds h.heap hq))
  | project expected candidate d r accepts h previous => exact hnothing accepts
  | workspace expected candidate d project r accepts h previous => exact hnothing project accepts
  | attached t r ready h => exact hedit (edited_children m t.projectCandidate _) h
  | tree t r accepts h previous => exact hnothing accepts
  | clearedProject p r hproject hworkspace h hp => exact hedit (edited_uninstall m .project (some m.application) p) h
  | clearedWorkspace w r hworkspace h hw => exact hedit (edited_uninstall m .workspace m.project w) h

theorem routesOk_new {descriptors : List PluginDescriptor} (hnew : new scc descriptors = .ok m) : RoutesOk m := by
  obtain ⟨plan, -, hnew⟩ := bind_eq_ok hnew
  cases hnew
  rintro q ⟨s, hs, -⟩
  rw [List.getElem?_singleton] at hs
  split at hs
  · next hq => exact Or.inl hq
  · cases hs

end ScopeAux

/-- In every run with a shutdown that reaches what is published, after tree publications that close what they replace and
before steps that publish nothing, no scope routes in any state after the shutdown. -/
theorem silent_after_shutdown {scc : ProviderGraph → List (List PluginId)} {descriptors : List PluginDescriptor}
    {m : ScopeManager} (hnew : ScopeManager.new scc descriptors = .ok m) {before rest : List ScopeStep} {d : Disposal}
    (hcloses : Along (ScopeManager.step scc) ScopeManager.TreeCloses m before)
    (hreaches : (after (ScopeManager.step scc) m before).ShutdownReaches d)
    (hnothing : Along (ScopeManager.step scc) ScopeManager.PublishesNothing
      (after (ScopeManager.step scc) m (before ++ [.shutdown d])) rest) (q : Ptr) :
    ¬(after (ScopeManager.step scc) m (before ++ .shutdown d :: rest)).Routable q := by
  have hbefore := invariant_along (I := fun m => SlotsOk m ∧ RoutesOk m)
    (fun m l hok hc => ⟨slotsOk_step scc hok.1 l, routesOk_step hok.1 hok.2 hc⟩)
    ⟨slotsOk_new hnew, routesOk_new hnew⟩ hcloses
  have hshutdown : after (ScopeManager.step scc) m (before ++ [.shutdown d]) =
      ((after (ScopeManager.step scc) m before).shutdown d).1 := after_append ..
  have hsilent : ∀ q, ¬(after (ScopeManager.step scc) m (before ++ [.shutdown d])).Routable q := by
    rw [hshutdown]
    exact silent_shutdown hbefore.1 hbefore.2 hreaches
  have hrun := invariant_along (I := fun m => SlotsOk m ∧ ∀ q, ¬m.Routable q)
    (fun m l hok hc => ⟨slotsOk_step scc hok.1 l, silent_step hok.1 hok.2 hc⟩)
    ⟨slotsOk_run hnew _, hsilent⟩ hnothing
  rw [← after_append, List.append_assoc] at hrun
  exact hrun.2 q

/-- A tree is published and the host shut down; the workspace does not route while other scopes are built and cleared. -/
theorem silent_after_shutdown_tree : ∃ m, ScopeManager.new graphComponents [] = .ok m ∧
      ∀ q, ¬(after (ScopeManager.step graphComponents) m
        (treePublished ++ .shutdown calm :: [.buildProject projectA [] activating, .clearWorkspace (some 2) calm])).Routable q := by
  obtain ⟨m, hnew, hreports⟩ := of_new graphComponents []
    (f := fun m => (after (ScopeManager.step graphComponents) m treePublished).heap.any (fun s => s.report.isSome))
    (a := false) (by decide +kernel)
  have hnone : ∀ q, ¬(after (ScopeManager.step graphComponents) m treePublished).Disposed q := by
    rintro q ⟨s, hs, hreport⟩
    exact List.any_eq_false.mp hreports s (List.mem_of_getElem? hs) hreport
  refine ⟨m, hnew, silent_after_shutdown hnew ?_ ⟨?_, ?_⟩ ⟨trivial, trivial, trivial⟩⟩
  · refine ⟨trivial, trivial, ?_, trivial⟩
    intro accepts p w hp _
    have hempty := accepts.project.symm.trans hp
    cases hempty
  · intro p _ _
    exact ⟨hnone _, trivial⟩
  · intro p w _ _ _
    exact ⟨hnone _, hnone _, _, rfl, trivial⟩

/-- A project that is published after the shutdown routes. -/
theorem routes_after_shutdown : ¬∀ m, ScopeManager.new graphComponents [] = .ok m → ∀ before d rest q,
      ¬(after (ScopeManager.step graphComponents) m (before ++ .shutdown d :: rest)).Routable q := by
  intro hsilent
  obtain ⟨m, hnew, hrouting⟩ := of_new graphComponents []
    (f := fun m => ((after (ScopeManager.step graphComponents) m
      [.shutdown calm, .buildProject projectA [] activating, .publishProject none 1 calm]).heap[1]?).map (fun s => s.routing))
    (a := some true) (by decide +kernel)
  obtain ⟨s, hs, hopen⟩ := Option.map_eq_some_iff.mp hrouting
  exact hsilent m hnew [] calm [.buildProject projectA [] activating, .publishProject none 1 calm] 1 ⟨s, hs, hopen⟩

end Rho
