import Rho.Extension.Resolver
import Rho.Lib.Run

/-!
# Scope snapshots and the scope manager

`lifecycle.rs`: a scope candidate is built outside the manager's gate, published into a slot with an expected-old comparison, and
torn down when it is replaced, cleared or refused. A snapshot is an `Arc`, here an address in a heap; the children of a snapshot
and the slots hold addresses, and two of them are the same snapshot when the addresses are equal.

The operations of the manager hold its publication gate from start to end, so each is one step. What the deadlines cut off and
how the plugins' cleanup ends is an argument of the step. Of a dispose report the outcome and the children's reports are kept;
the counts of remaining tasks and leases and the plugins' effect records are not read by the manager.
-/

namespace Rho

/-! ## The policy of the host -/

namespace ScopePolicy

def applicationKind : ScopeKindId := ⟨"application", by decide⟩
def projectKind : ScopeKindId := ⟨"project", by decide⟩
def workspaceKind : ScopeKindId := ⟨"workspace", by decide⟩
def agentKind : ScopeKindId := ⟨"agent", by decide⟩

def phaseOneRules : List ScopeKindRule :=
  [⟨applicationKind, none⟩, ⟨projectKind, some applicationKind⟩, ⟨workspaceKind, some projectKind⟩, ⟨agentKind, some projectKind⟩]

theorem phaseOne_parent {child parent : ScopeKindId} (h : ParentKind phaseOneRules child parent) :
    child = projectKind ∧ parent = applicationKind ∨ (child = workspaceKind ∨ child = agentKind) ∧ parent = projectKind := by
  obtain ⟨r, hr, hchild, hparent⟩ := h
  simp only [phaseOneRules, List.mem_cons, List.not_mem_nil, or_false] at hr
  rcases hr with rfl | rfl | rfl | rfl
  · cases hparent
  · exact Or.inl ⟨hchild.symm, (Option.some.inj hparent).symm⟩
  · exact Or.inr ⟨Or.inl hchild.symm, (Option.some.inj hparent).symm⟩
  · exact Or.inr ⟨Or.inr hchild.symm, (Option.some.inj hparent).symm⟩

/-- The depth of a kind below the application. -/
def phaseOneDepth (kind : ScopeKindId) : Nat := if kind = applicationKind then 0 else if kind = projectKind then 1 else 2

theorem phaseOneDepth_lt {child parent : ScopeKindId} (h : ParentKind phaseOneRules child parent) :
    phaseOneDepth parent < phaseOneDepth child := by
  rcases phaseOne_parent h with ⟨rfl, rfl⟩ | ⟨rfl | rfl, rfl⟩
  · decide
  · decide
  · decide

/-- `ScopePolicy::phase_one`: a project belongs to the application, a workspace or an agent to a project. -/
def phaseOne : ScopePolicy where
  rules := phaseOneRules
  kinds_nodup := by decide
  parents_present child parent h := by
    rcases phaseOne_parent h with ⟨-, rfl⟩ | ⟨-, rfl⟩
    · exact ⟨_, List.mem_cons_self, rfl⟩
    · exact ⟨_, List.mem_cons_of_mem _ List.mem_cons_self, rfl⟩
  acyclic kind h := by
    have hlt : ∀ {a b}, Relation.TransGen (ParentKind phaseOneRules) a b → phaseOneDepth b < phaseOneDepth a := by
      intro a b hab
      induction hab with
      | single hstep => exact phaseOneDepth_lt hstep
      | tail _ hstep ih => exact Nat.lt_trans (phaseOneDepth_lt hstep) ih
    exact Nat.lt_irrefl _ (hlt h)

end ScopePolicy

/-! ## Snapshots -/

inductive ScopeLifecycleState where
  | ready | active | quiescing | disposing | disposed | failed
  deriving DecidableEq, Repr

inductive DisposeOutcome where
  | disposed | failed
  deriving DecidableEq, Repr

inductive ScopeDisposeReport where
  | mk (scope : ScopeIdentity) (outcome : DisposeOutcome) (quiesceTimedOut : Bool) (childReports : List ScopeDisposeReport)

def ScopeDisposeReport.outcome : ScopeDisposeReport → DisposeOutcome
  | .mk _ outcome _ _ => outcome

/-- The report of a child that the deadline cut off. -/
def timedOutScopeReport (scope : ScopeIdentity) : ScopeDisposeReport := .mk scope .failed true []

/-- The address of a snapshot. -/
abbrev Ptr := Nat

/-- A scope snapshot. `parent` is the snapshot whose plan its own plan was resolved against, which the code does not keep. Only an
active scope routes, and a report is written with the final state. -/
structure ScopeSnapshot where
  identity : ScopeIdentity
  plan : ActivationPlan
  parent : Option Ptr
  routing : Bool
  state : ScopeLifecycleState
  children : List Ptr
  report : Option ScopeDisposeReport
  ok : (routing = true → state = .active) ∧ (report.isSome = true → state = .disposed ∨ state = .failed)

namespace ScopeSnapshot

/-- `new_ready`. -/
def newReady (identity : ScopeIdentity) (plan : ActivationPlan) (parent : Option Ptr) : ScopeSnapshot :=
  { identity, plan, parent, routing := false, state := .ready, children := [], report := none, ok := ⟨nofun, nofun⟩ }

/-- `mark_active`, which only a ready scope takes. -/
def markActive (s : ScopeSnapshot) : ScopeSnapshot :=
  if h : s.state = .ready then
    { s with
      routing := true
      state := .active
      ok := ⟨fun _ => rfl, fun hr => by rcases s.ok.2 hr with hs | hs <;> rw [h] at hs <;> cases hs⟩ }
  else s

/-- `begin_quiesce`: routing is closed whatever the state. -/
def beginQuiesce (s : ScopeSnapshot) : ScopeSnapshot :=
  { s with
    routing := false
    state := if s.state = .ready ∨ s.state = .active then .quiescing else s.state
    ok := ⟨nofun, fun hr => by rcases s.ok.2 hr with hs | hs <;> simp [hs]⟩ }

/-- The quiesce of a scope without a report is over. -/
def enterDisposing (s : ScopeSnapshot) (unreported : s.report = none) : ScopeSnapshot :=
  { s with routing := false, state := .disposing, ok := ⟨nofun, fun hr => by rw [unreported] at hr; cases hr⟩ }

/-- The disposal ends with a report. -/
def disposedAs (s : ScopeSnapshot) (report : ScopeDisposeReport) : ScopeSnapshot :=
  { s with
    routing := false
    state := match report.outcome with | .failed => .failed | .disposed => .disposed
    report := some report
    ok := ⟨nofun, fun _ => by cases report.outcome <;> simp⟩ }

def withChildren (s : ScopeSnapshot) (children : List Ptr) : ScopeSnapshot := { s with children := children }

/-- The children without the first occurrence of an old one. -/
def childrenWithout (children : List Ptr) : Option Ptr → List Ptr
  | some old => children.erase old
  | none => children

/-- `replace_child`: the old child goes, the new one comes last. The state of the parent is not read. -/
def replaceChild (s : ScopeSnapshot) (expected : Option Ptr) (candidate : Ptr) : ScopeSnapshot :=
  s.withChildren (childrenWithout s.children expected ++ [candidate])

/-- `remove_child`. -/
def removeChild (s : ScopeSnapshot) (expected : Ptr) : ScopeSnapshot := s.withChildren (s.children.filter (fun c => c ≠ expected))

end ScopeSnapshot

/-! ## Teardown -/

abbrev Heap := List ScopeSnapshot

/-- How one `quiesce_and_dispose` goes: not begun because the parent's deadline has passed, dropped by that deadline on the way
(before or after its own quiesce was over), or carried through. For each child, how the disposal of the child goes. -/
inductive Teardown where
  | skipped
  | abandoned (disposing : Bool) (children : Ptr → Teardown)
  | finished (quiesceTimedOut : Bool) (children : Ptr → Teardown) (pluginsFailed : Bool)

namespace Teardown

/-- The disposal begins: the scope is quiesced. -/
def Begun : Teardown → Prop
  | .skipped => False
  | .abandoned _ _ | .finished _ _ _ => True

/-- The disposal ends with a report. -/
def CarriedThrough : Teardown → Prop
  | .finished _ _ _ => True
  | .skipped | .abandoned _ _ => False

/-- How the disposals of the children go, if this one comes to them. -/
def onChildren : Teardown → Option (Ptr → Teardown)
  | .skipped | .abandoned false _ => none
  | .abandoned true children | .finished _ children _ => some children

end Teardown

/-- What the loop over the children has done: the heap, the reports, and whether a deadline cut one off. -/
structure ChildLoop where
  heap : Heap
  reports : List ScopeDisposeReport
  timedOut : Bool

/-- The result of one child's disposal. -/
def ChildLoop.record (loop : ChildLoop) (child : Ptr) : Heap × Option ScopeDisposeReport → ChildLoop
  | (heap, some report) => { loop with heap := heap, reports := loop.reports ++ [report] }
  | (heap, none) =>
    { heap := heap
      reports := loop.reports ++ ((heap[child]?).map (fun s => timedOutScopeReport s.identity)).toList
      timedOut := true }

/-- The loop over the children, the last attached one first. -/
def ChildLoop.run (dispose : Ptr → Heap → Heap × Option ScopeDisposeReport) (heap : Heap) (children : List Ptr) : ChildLoop :=
  children.reverse.foldl (fun (loop : ChildLoop) child => loop.record child (dispose child loop.heap)) ⟨heap, [], false⟩

/-- The report that a disposal carried through writes. -/
def disposeReport (s : ScopeSnapshot) (quiesceTimedOut : Bool) (loop : ChildLoop) (pluginsFailed : Bool) : ScopeDisposeReport :=
  let failed := quiesceTimedOut || loop.timedOut || loop.reports.any (fun r => r.outcome = .failed) || pluginsFailed
  .mk s.identity (if failed then .failed else .disposed) (quiesceTimedOut || loop.timedOut) loop.reports

/-- `quiesce_and_dispose`: a report that is there is returned; otherwise the scope quiesces, its children are disposed, then its
plugins, and the report is written. Without a result the call was dropped. -/
def quiesceAndDispose : Teardown → Ptr → Heap → Heap × Option ScopeDisposeReport
  | .skipped, _, heap => (heap, none)
  | .abandoned disposing children, p, heap =>
    match heap[p]? with
    | none => (heap, none)
    | some s =>
      match hreport : s.report with
      | some report => (heap, some report)
      | none =>
        if disposing then
          ((ChildLoop.run (fun child => quiesceAndDispose (children child) child)
            (heap.set p (s.enterDisposing hreport)) s.children).heap, none)
        else (heap.set p s.beginQuiesce, none)
  | .finished quiesceTimedOut children pluginsFailed, p, heap =>
    match heap[p]? with
    | none => (heap, none)
    | some s =>
      match hreport : s.report with
      | some report => (heap, some report)
      | none =>
        let loop := ChildLoop.run (fun child => quiesceAndDispose (children child) child)
          (heap.set p (s.enterDisposing hreport)) s.children
        let report := disposeReport s quiesceTimedOut loop pluginsFailed
        (loop.heap.set p (s.disposedAs report), some report)

/-- How a disposal goes that nobody cuts off: the manager waits for each of its own. -/
structure Disposal where
  quiesceTimedOut : Bool
  children : Ptr → Teardown
  pluginsFailed : Bool

def Disposal.teardown (d : Disposal) : Teardown := .finished d.quiesceTimedOut d.children d.pluginsFailed

/-! ## The manager -/

/-- The scope manager with the heap of all snapshots. `retired` is the history of the snapshots that were replaced, cleared or
rejected, which the code does not keep. -/
structure ScopeManager where
  nextGeneration : UInt64
  heap : Heap
  application : Ptr
  project : Option Ptr
  workspace : Option Ptr
  retired : List Ptr

namespace ScopeManager

def applicationIdentity : ScopeIdentity where
  kind := ScopePolicy.applicationKind
  id := ⟨"application", by decide⟩
  parentId := none
  generation := ⟨1, by decide⟩

/-- The manager of a new host: the application scope is active, the slots are empty. -/
def new (scc : ProviderGraph → List (List PluginId)) (descriptors : List PluginDescriptor) :
    Except ExtensionError ScopeManager := do
  let plan ← resolveActivationPlan scc .phaseOne applicationIdentity none descriptors
  return {
    nextGeneration := 2
    heap := [(ScopeSnapshot.newReady applicationIdentity plan none).markActive]
    application := 0
    project := none
    workspace := none
    retired := [] }

def identityOf (m : ScopeManager) (p : Ptr) : Option ScopeIdentity := (m.heap[p]?).map ScopeSnapshot.identity

def modify (m : ScopeManager) (p : Ptr) (f : ScopeSnapshot → ScopeSnapshot) : ScopeManager :=
  { m with heap := m.heap.modify p f }

def dispose (m : ScopeManager) (d : Disposal) (p : Ptr) : ScopeManager × Option ScopeDisposeReport :=
  let r := quiesceAndDispose d.teardown p m.heap
  ({ m with heap := r.1 }, r.2)

/-- A snapshot is disposed for good. An address outside the heap is no snapshot. -/
def retire (m : ScopeManager) (d : Disposal) (p : Ptr) : ScopeManager × Option ScopeDisposeReport :=
  if p < m.heap.length then
    let r := m.dispose d p
    ({ r.1 with retired := p :: r.1.retired }, r.2)
  else (m, none)

/-! ### Identities and candidates -/

inductive NextIdentityError where
  | activationGenerationExhausted
  | zeroActivationGeneration
  | scope (error : ExtensionError)

/-- `next_identity`: the generation is taken even when the policy then refuses the identity. -/
def nextIdentity (m : ScopeManager) (kind : ScopeKindId) (id : ScopeId) (parent : Option ScopeIdentity) :
    ScopeManager × Except NextIdentityError ScopeIdentity :=
  if m.nextGeneration.toNat + 1 = 2 ^ 64 then (m, .error .activationGenerationExhausted)
  else
    let taken := { m with nextGeneration := m.nextGeneration + 1 }
    if h : m.nextGeneration = 0 then (taken, .error .zeroActivationGeneration)
    else
      let identity : ScopeIdentity := { kind, id, parentId := parent.map (·.id), generation := ⟨m.nextGeneration, h⟩ }
      match ScopePolicy.phaseOne.validateIdentity identity parent with
      | .error e => (taken, .error (.scope e))
      | .ok () => (taken, .ok identity)

/-- What the plugins of a candidate do: which of them activate, and how the rollback goes if one does not. -/
structure Activation where
  activates : PluginId → Bool
  rollback : Disposal

inductive CandidateBuildError where
  | identity (error : NextIdentityError)
  | resolution (error : ExtensionError)
  | activation (pluginId : PluginId) (rollback : Option ScopeDisposeReport)
  /-- The parent is not a snapshot. -/
  | noParent

/-- The plan of the candidate is resolved; the candidate is ready when all its plugins activate, and disposed when one fails. -/
def addCandidate (m : ScopeManager) (identity : ScopeIdentity) (parent : Option Ptr) (plan : ActivationPlan) (a : Activation) :
    ScopeManager × Except CandidateBuildError Ptr :=
  let p := m.heap.length
  let built := { m with heap := m.heap ++ [.newReady identity plan parent] }
  match plan.activationOrder.find? (fun id => !a.activates id) with
  | none => (built, .ok p)
  | some pluginId =>
    let r := built.retire a.rollback p
    (r.1, .error (.activation pluginId r.2))

/-- `build_scope_candidate`, with the plan of a snapshot as the parent plan. -/
def buildScopeCandidate (scc : ProviderGraph → List (List PluginId)) (m : ScopeManager) (identity : ScopeIdentity)
    (parent : Option Ptr) (descriptors : List PluginDescriptor) (a : Activation) :
    ScopeManager × Except CandidateBuildError Ptr :=
  match parent with
  | none =>
    match resolveActivationPlan scc .phaseOne identity none descriptors with
    | .error e => (m, .error (.resolution e))
    | .ok plan => m.addCandidate identity none plan a
  | some q =>
    match m.heap[q]? with
    | none => (m, .error .noParent)
    | some s =>
      match resolveActivationPlan scc .phaseOne identity (some s.plan) descriptors with
      | .error e => (m, .error (.resolution e))
      | .ok plan => m.addCandidate identity (some q) plan a

/-- `build_project_candidate` and `build_workspace_candidate`: a fresh identity under the parent, then the candidate. -/
def buildChildCandidate (scc : ProviderGraph → List (List PluginId)) (m : ScopeManager) (kind : ScopeKindId) (parent : Ptr)
    (scopeId : ScopeId) (descriptors : List PluginDescriptor) (a : Activation) :
    ScopeManager × Except CandidateBuildError Ptr :=
  match m.heap[parent]? with
  | none => (m, .error .noParent)
  | some s =>
    match m.nextIdentity kind scopeId (some s.identity) with
    | (taken, .error e) => (taken, .error (.identity e))
    | (taken, .ok identity) => taken.buildScopeCandidate scc identity (some parent) descriptors a

/-! ### Publication -/

/-- The two slots that are published into. -/
inductive Slot where
  | project | workspace
  deriving DecidableEq, Repr

def current (m : ScopeManager) : Slot → Option Ptr
  | .project => m.project
  | .workspace => m.workspace

def setCurrent (m : ScopeManager) (p : Option Ptr) : Slot → ScopeManager
  | .project => { m with project := p }
  | .workspace => { m with workspace := p }

structure PublishReport where
  published : Option ScopeIdentity
  previous : Option ScopeIdentity
  previousDispose : Option ScopeDisposeReport

structure CandidatePublishError where
  expected : Option ScopeIdentity
  actual : Option ScopeIdentity
  rejected : Option ScopeIdentity
  rejectedDispose : Option ScopeDisposeReport
  reason : String

abbrev PublishResult := Except CandidatePublishError PublishReport

def stateName : ScopeLifecycleState → String
  | .ready => "Ready"
  | .active => "Active"
  | .quiescing => "Quiescing"
  | .disposing => "Disposing"
  | .disposed => "Disposed"
  | .failed => "Failed"

/-- `ScopeStateError::InvalidTransition` of a candidate that is not ready. -/
def invalidTransition (actual : ScopeLifecycleState) : String :=
  "invalid scope lifecycle transition: expected Ready, actual " ++ stateName actual

def invalidChildParent : String := "child scope parent does not match"

/-- The candidate is refused and disposed. -/
def refuse (m : ScopeManager) (slot : Slot) (expected : Option Ptr) (candidate : Ptr) (d : Disposal) (reason : String) :
    ScopeManager × PublishResult :=
  let r := m.retire d candidate
  (r.1, .error
    { expected := expected.bind m.identityOf
      actual := (m.current slot).bind m.identityOf
      rejected := m.identityOf candidate
      rejectedDispose := r.2
      reason := reason })

/-- The previous snapshot of a slot, if there is one, is closed. -/
def closePrevious (m : ScopeManager) : Option Ptr → ScopeManager
  | some old => m.modify old ScopeSnapshot.beginQuiesce
  | none => m

/-- A ready candidate takes the slot and opens, the previous one is closed, and the parent's children are brought up to date. -/
def installCandidate (m : ScopeManager) (slot : Slot) (parent : Ptr) (previous : Option Ptr) (candidate : Ptr) : ScopeManager :=
  (((m.setCurrent (some candidate) slot).modify candidate ScopeSnapshot.markActive).closePrevious previous).modify parent
    (fun s => s.replaceChild previous candidate)

/-- `publish_with`. The candidate's state cannot change between the check and `mark_active`, so that does not fail. -/
def publishWith (m : ScopeManager) (slot : Slot) (parent : Ptr) (expected : Option Ptr) (candidate : Ptr) (d : Disposal) :
    ScopeManager × PublishResult :=
  match (m.heap[candidate]?).map ScopeSnapshot.state with
  | some .ready =>
    if m.current slot ≠ expected then m.refuse slot expected candidate d "expected_old_mismatch"
    else
      let installed := m.installCandidate slot parent expected candidate
      let r := match expected with
        | some old => installed.retire d old
        | none => (installed, none)
      (r.1, .ok { published := m.identityOf candidate, previous := expected.bind m.identityOf, previousDispose := r.2 })
  | some actual => m.refuse slot expected candidate d (invalidTransition actual)
  | none => (m, .error ⟨none, none, none, none, ""⟩)

/-- `publish_project`. -/
def publishProject (m : ScopeManager) (expected : Option Ptr) (candidate : Ptr) (d : Disposal) : ScopeManager × PublishResult :=
  if m.workspace.isSome then m.refuse .project expected candidate d "workspace_tree_publication_required"
  else m.publishWith .project m.application expected candidate d

/-- `publish_workspace`. -/
def publishWorkspace (m : ScopeManager) (expected : Option Ptr) (candidate : Ptr) (d : Disposal) :
    ScopeManager × PublishResult :=
  match m.project with
  | none => m.refuse .workspace expected candidate d "workspace_parent_project_missing"
  | some project =>
    if (m.identityOf candidate).bind (·.parentId) ≠ (m.identityOf project).map (·.id) then
      m.refuse .workspace expected candidate d invalidChildParent
    else m.publishWith .workspace project expected candidate d

structure ProjectTreePublishReport where
  project : Option ScopeIdentity
  workspace : Option ScopeIdentity
  previousProject : Option ScopeIdentity
  previousWorkspace : Option ScopeIdentity
  previousDispose : Option ScopeDisposeReport

structure ProjectTreePublishError where
  expectedProject : Option ScopeIdentity
  actualProject : Option ScopeIdentity
  expectedWorkspace : Option ScopeIdentity
  actualWorkspace : Option ScopeIdentity
  rejectedProject : Option ScopeIdentity
  rejectedWorkspace : Option ScopeIdentity
  rejectedDispose : Option ScopeDisposeReport
  rejectedWorkspaceDispose : Option ScopeDisposeReport
  reason : String

abbrev ProjectTreeResult := Except ProjectTreePublishError ProjectTreePublishReport

/-- The arguments of `publish_project_tree`: the candidates, what the caller expects in the slots, and how the disposal of the
workspace (when refused) and of the project (the refused one or the previous one) go. -/
structure TreePublication where
  expectedProject : Option Ptr
  projectCandidate : Ptr
  expectedWorkspace : Option Ptr
  workspaceCandidate : Ptr
  disposeWorkspace : Disposal
  disposeProject : Disposal

/-- Both candidates are refused and disposed, the workspace first. -/
def refuseTree (m : ScopeManager) (t : TreePublication) (reason : String) : ScopeManager × ProjectTreeResult :=
  let w := m.retire t.disposeWorkspace t.workspaceCandidate
  let p := w.1.retire t.disposeProject t.projectCandidate
  (p.1, .error
    { expectedProject := t.expectedProject.bind m.identityOf
      actualProject := m.project.bind m.identityOf
      expectedWorkspace := t.expectedWorkspace.bind m.identityOf
      actualWorkspace := m.workspace.bind m.identityOf
      rejectedProject := m.identityOf t.projectCandidate
      rejectedWorkspace := m.identityOf t.workspaceCandidate
      rejectedDispose := p.2
      rejectedWorkspaceDispose := w.2
      reason := reason })

/-- `attach_child` of the workspace candidate to the ready project candidate. -/
def attachTree (m : ScopeManager) (t : TreePublication) : ScopeManager :=
  m.modify t.projectCandidate (fun s => s.withChildren (s.children ++ [t.workspaceCandidate]))

/-- Both candidates open, the previous project leaves the application and is closed. -/
def installTree (m : ScopeManager) (t : TreePublication) : ScopeManager :=
  let opened := ({ m with project := some t.projectCandidate, workspace := some t.workspaceCandidate }.modify
    t.projectCandidate ScopeSnapshot.markActive).modify t.workspaceCandidate ScopeSnapshot.markActive
  (opened.modify m.application (fun s => s.replaceChild t.expectedProject t.projectCandidate)).closePrevious t.expectedProject

/-- The previous project is disposed, and with it whatever is below it; the previous workspace is left to that. -/
def retireTree (m : ScopeManager) (t : TreePublication) : ScopeManager × Option ScopeDisposeReport :=
  let history := { m with retired := t.expectedWorkspace.toList ++ m.retired }
  match t.expectedProject with
  | some old => history.retire t.disposeProject old
  | none => (history, none)

/-- `publish_project_tree`. With one snapshot as both candidates the second lock of its gate waits forever, and so does every later
operation: nothing happens any more, which is the state that stays. -/
def publishProjectTree (m : ScopeManager) (t : TreePublication) : ScopeManager × Option ProjectTreeResult :=
  if t.projectCandidate = t.workspaceCandidate then (m, none)
  else
    match m.heap[t.projectCandidate]?, m.heap[t.workspaceCandidate]? with
    | some project, some workspace =>
      match [project, workspace].find? (fun s => s.state ≠ .ready) with
      | some s =>
        let r := m.refuseTree t (invalidTransition s.state)
        (r.1, some r.2)
      | none =>
        if workspace.identity.parentId ≠ some project.identity.id then
          let r := m.refuseTree t invalidChildParent
          (r.1, some r.2)
        else
          let attached := m.attachTree t
          if m.project ≠ t.expectedProject then
            let r := attached.refuseTree t "project_expected_old_mismatch"
            (r.1, some r.2)
          else if m.workspace ≠ t.expectedWorkspace then
            let r := attached.refuseTree t "workspace_expected_old_mismatch"
            (r.1, some r.2)
          else
            let r := (attached.installTree t).retireTree t
            (r.1, some (.ok
              { project := some project.identity
                workspace := some workspace.identity
                previousProject := t.expectedProject.bind m.identityOf
                previousWorkspace := t.expectedWorkspace.bind m.identityOf
                previousDispose := r.2 }))
    | _, _ => (m, none)

/-! ### Clearing and shutdown -/

structure StaleGenerationError where
  completed : Option ScopeIdentity
  actual : Option ScopeIdentity

abbrev ClearResult := Except StaleGenerationError (Option ScopeDisposeReport)

/-- The slot is emptied, the snapshot closed and removed from its parent. -/
def uninstall (m : ScopeManager) (slot : Slot) (parent : Option Ptr) (expected : Ptr) : ScopeManager :=
  let closed := (m.setCurrent none slot).modify expected ScopeSnapshot.beginQuiesce
  match parent with
  | some p => closed.modify p (fun s => s.removeChild expected)
  | none => closed

/-- The snapshot of a slot is taken out and disposed. -/
def clearSlot (m : ScopeManager) (slot : Slot) (parent : Option Ptr) (expected : Ptr) (d : Disposal) :
    ScopeManager × ClearResult :=
  if m.current slot ≠ some expected then
    (m, .error ⟨m.identityOf expected, (m.current slot).bind m.identityOf⟩)
  else
    let r := (m.uninstall slot parent expected).retire d expected
    (r.1, .ok r.2)

/-- `clear_project`: not while a workspace is published. -/
def clearProject (m : ScopeManager) (expected : Option Ptr) (d : Disposal) : ScopeManager × ClearResult :=
  match expected with
  | none => (m, .ok none)
  | some p =>
    match m.workspace with
    | some w => (m, .error ⟨m.identityOf p, m.identityOf w⟩)
    | none => m.clearSlot .project (some m.application) p d

/-- `clear_workspace`. -/
def clearWorkspace (m : ScopeManager) (expected : Option Ptr) (d : Disposal) : ScopeManager × ClearResult :=
  match expected with
  | none => (m, .ok none)
  | some w => m.clearSlot .workspace m.project w d

/-- `shutdown`. -/
def shutdown (m : ScopeManager) (d : Disposal) : ScopeManager × Option ScopeDisposeReport := m.dispose d m.application

end ScopeManager

/-! ## Runs -/

/-- What is asked of the host, one operation after the other. -/
inductive ScopeStep where
  | buildScope (identity : ScopeIdentity) (parent : Option Ptr) (descriptors : List PluginDescriptor)
      (a : ScopeManager.Activation)
  | buildProject (scopeId : ScopeId) (descriptors : List PluginDescriptor) (a : ScopeManager.Activation)
  | buildWorkspace (parent : Ptr) (scopeId : ScopeId) (descriptors : List PluginDescriptor) (a : ScopeManager.Activation)
  | publishProject (expected : Option Ptr) (candidate : Ptr) (d : Disposal)
  | publishWorkspace (expected : Option Ptr) (candidate : Ptr) (d : Disposal)
  | publishProjectTree (t : ScopeManager.TreePublication)
  | clearProject (expected : Option Ptr) (d : Disposal)
  | clearWorkspace (expected : Option Ptr) (d : Disposal)
  | rollbackCandidate (candidate : Ptr) (d : Disposal)
  | shutdown (d : Disposal)

def ScopeManager.step (scc : ProviderGraph → List (List PluginId)) (m : ScopeManager) : ScopeStep → ScopeManager
  | .buildScope identity parent descriptors a => (m.buildScopeCandidate scc identity parent descriptors a).1
  | .buildProject scopeId descriptors a =>
    (m.buildChildCandidate scc ScopePolicy.projectKind m.application scopeId descriptors a).1
  | .buildWorkspace parent scopeId descriptors a =>
    (m.buildChildCandidate scc ScopePolicy.workspaceKind parent scopeId descriptors a).1
  | .publishProject expected candidate d => (m.publishProject expected candidate d).1
  | .publishWorkspace expected candidate d => (m.publishWorkspace expected candidate d).1
  | .publishProjectTree t => (m.publishProjectTree t).1
  | .clearProject expected d => (m.clearProject expected d).1
  | .clearWorkspace expected d => (m.clearWorkspace expected d).1
  | .rollbackCandidate candidate d => (m.retire d candidate).1
  | .shutdown d => (m.shutdown d).1

/-- `attach_child`, which any holder of a running scope may call. -/
def ScopeManager.attachChild (m : ScopeManager) (parent child : Ptr) : ScopeManager × Except String Unit :=
  match m.heap[parent]?, m.heap[child]? with
  | some p, some c =>
    if p.state ≠ .ready ∧ p.state ≠ .active then
      (m, .error ("invalid scope lifecycle transition: expected Active, actual " ++ stateName p.state))
    else if c.identity.parentId ≠ some p.identity.id then (m, .error invalidChildParent)
    else (m.modify parent (fun s => s.withChildren (s.children ++ [child])), .ok ())
  | _, _ => (m, .error "")

/-- What is asked of the host, and what the holders of its scopes do to them. -/
inductive HostStep where
  | manager (l : ScopeStep)
  | attachChild (parent child : Ptr)

def ScopeManager.hostStep (scc : ProviderGraph → List (List PluginId)) (m : ScopeManager) : HostStep → ScopeManager
  | .manager l => m.step scc l
  | .attachChild parent child => (m.attachChild parent child).1

/-- A client that asks for a lease of the scope may get one. -/
def ScopeManager.Routable (m : ScopeManager) (p : Ptr) : Prop := ∃ s, m.heap[p]? = some s ∧ s.routing = true

def ScopeManager.childrenOf (m : ScopeManager) (p : Ptr) : List Ptr := ((m.heap[p]?).map ScopeSnapshot.children).getD []

def ScopeManager.stateOf (m : ScopeManager) (p : Ptr) : Option ScopeLifecycleState := (m.heap[p]?).map ScopeSnapshot.state

/-- The snapshot whose plan the snapshot's plan was resolved against. -/
def ScopeManager.parentOf (m : ScopeManager) (p : Ptr) : Option Ptr := (m.heap[p]?).bind ScopeSnapshot.parent

/-- The disposal of the scope has ended with a report. -/
def ScopeManager.Disposed (m : ScopeManager) (p : Ptr) : Prop := ∃ s, m.heap[p]? = some s ∧ s.report.isSome = true

/-! ## When a publication is accepted -/

/-- The first snapshot's identity names the second's as its parent. -/
def ScopeManager.NamesParent (m : ScopeManager) (w p : Ptr) : Prop :=
  ∃ wi pi, m.identityOf w = some wi ∧ m.identityOf p = some pi ∧ wi.parentId = some pi.id

def ScopeManager.AcceptsProject (m : ScopeManager) (expected : Option Ptr) (candidate : Ptr) : Prop :=
  m.workspace = none ∧ m.stateOf candidate = some .ready ∧ m.project = expected

def ScopeManager.AcceptsWorkspace (m : ScopeManager) (expected : Option Ptr) (candidate project : Ptr) : Prop :=
  m.project = some project ∧ m.NamesParent candidate project ∧ m.stateOf candidate = some .ready ∧ m.workspace = expected

structure ScopeManager.AcceptsTree (m : ScopeManager) (t : ScopeManager.TreePublication) : Prop where
  distinct : t.projectCandidate ≠ t.workspaceCandidate
  project_ready : m.stateOf t.projectCandidate = some .ready
  workspace_ready : m.stateOf t.workspaceCandidate = some .ready
  names : m.NamesParent t.workspaceCandidate t.projectCandidate
  project : m.project = t.expectedProject
  workspace : m.workspace = t.expectedWorkspace

end Rho
