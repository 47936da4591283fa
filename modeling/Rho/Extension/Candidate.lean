import Rho.Extension.Effects

/-!
# Building a scope candidate

`build_scope_candidate_with_passive_descriptors` and `quiesce_and_dispose` (`lifecycle.rs`) with the registry and the effects of the
plugins: they are activated in the order of the plan, and when one of them fails, what has been registered is disposed.

Of an activator it is known what it asks its sink to register, in order, and how it ends; a registration that is refused changes
nothing. A panic is caught where a future is polled. The call that makes the future is an argument of what catches, so a panic in the
call itself ends the build. Nobody else holds the candidate, so its locks are free and it has no children. What the clock decides is
an argument. The diagnostics, the cancellation, the handlers of the contributions and the counts in the report are left out.
-/

namespace Rho

/-! ## The registry -/

/-- The four maps of the registry. -/
inductive RegistryKind where
  | marker | source | workspaceTool | projectFileViewer
  deriving DecidableEq, Repr

/-- What a `RegistryHub` routes to: whether it does, and which plugin has registered what. The scope is the same for all owners. -/
structure ContributionRegistry where
  routing : Bool
  owner : RegistryKind → CapabilityId → Option PluginId

namespace ContributionRegistry

def candidate : ContributionRegistry := ⟨false, fun _ _ => none⟩

def closeRouting (r : ContributionRegistry) : ContributionRegistry := { r with routing := false }

def setOwner (r : ContributionRegistry) (kind : RegistryKind) (c : CapabilityId) (owner : Option PluginId) : ContributionRegistry :=
  { r with owner := fun kind' c' => if kind' = kind ∧ c' = c then owner else r.owner kind' c' }

/-- `register_marker`, `register_source`, `register_workspace_tool` and `register_project_file_viewer`: refused when there is one. -/
def register (r : ContributionRegistry) (kind : RegistryKind) (c : CapabilityId) (pluginId : PluginId) : Option ContributionRegistry :=
  if (r.owner kind c).isSome then none else some (r.setOwner kind c (some pluginId))

/-- The disposal of a registration: the entry is taken out if it is still the plugin's. -/
def unregister (r : ContributionRegistry) (kind : RegistryKind) (c : CapabilityId) (pluginId : PluginId) : ContributionRegistry :=
  if r.owner kind c = some pluginId then r.setOwner kind c none else r

end ContributionRegistry

/-! ## Plugins -/

/-- How the disposal of a plugin's own effect ends: as the wait for it does, or with a panic before there is anything to wait for. -/
inductive DisposerEnding where
  | settled (settled : EffectStack.Settled)
  | panickedInCall
  deriving DecidableEq, Repr

/-- What an effect is disposed by. -/
inductive Disposer where
  | registration (kind : RegistryKind) (capabilityId : CapabilityId)
  | own (ending : DisposerEnding)
  deriving DecidableEq

/-- What an activator asks its sink for. -/
inductive Registration where
  | contribution (kind : RegistryKind) (capabilityId : CapabilityId)
  | effect (ending : DisposerEnding)
  deriving DecidableEq

structure ActivationError where
  code : String
  message : String
  deriving DecidableEq, Repr

def ActivationError.activationPanicked : ActivationError :=
  ⟨"activation_panicked", "plugin activation panicked at the host boundary"⟩

inductive ActivationEnding where
  | ok
  | error (e : ActivationError)
  | panicked
  | panickedInCall
  deriving DecidableEq, Repr

/-- What an activator does. -/
structure Activator where
  registrations : List Registration
  ending : ActivationEnding
  deriving DecidableEq

structure InternalPlugin where
  descriptor : PluginDescriptor
  activator : Activator

/-- `EffectSink`: the records with what disposes each of them. -/
structure Sink where
  records : List EffectRecord
  disposers : List Disposer

namespace Sink

def empty : Sink := ⟨[], []⟩

def push (s : Sink) (disposer : Disposer) : Sink := ⟨EffectSink.push s.records, s.disposers ++ [disposer]⟩

end Sink

/-- A plugin that was activated, or failed to, with its effects. -/
structure ActivatedPlugin where
  pluginId : PluginId
  disposers : List Disposer
  effects : EffectStack

/-- `into_stack`. -/
def ActivatedPlugin.of (pluginId : PluginId) (sink : Sink) : ActivatedPlugin := ⟨pluginId, sink.disposers, .intoStack sink.records⟩

/-! ## The candidate -/

/-- A candidate that is being built or disposed. `called`, `registered`, `disposals` and `registries` are the history of the activators
called, of the effects registered, of the disposers called and of the states of the registry, which the code does not keep. -/
structure Candidate where
  registry : ContributionRegistry
  activated : List ActivatedPlugin
  called : List PluginId
  registered : List (PluginId × Nat)
  disposals : List (PluginId × Nat)
  registries : List ContributionRegistry

namespace Candidate

def new : Candidate := ⟨.candidate, [], [], [], [], [.candidate]⟩

def setRegistry (c : Candidate) (r : ContributionRegistry) : Candidate := { c with registry := r, registries := c.registries ++ [r] }

/-- An effect is pushed to the sink of a plugin. -/
def push (pluginId : PluginId) (s : Candidate × Sink) (disposer : Disposer) : Candidate × Sink :=
  ({ s.1 with registered := s.1.registered ++ [(pluginId, s.2.disposers.length)] }, s.2.push disposer)

/-- One registration of an activator. -/
def registerOne (pluginId : PluginId) (s : Candidate × Sink) : Registration → Candidate × Sink
  | .contribution kind capabilityId =>
    match s.1.registry.register kind capabilityId pluginId with
    | none => s
    | some registry => push pluginId (s.1.setRegistry registry, s.2) (.registration kind capabilityId)
  | .effect ending => push pluginId s (.own ending)

/-- The call of an activator. -/
def activate (c : Candidate) (pluginId : PluginId) (activator : Activator) : Candidate × Sink :=
  activator.registrations.foldl (registerOne pluginId) ({ c with called := c.called ++ [pluginId] }, .empty)

def addActivated (c : Candidate) (pluginId : PluginId) (sink : Sink) : Candidate :=
  { c with activated := c.activated ++ [.of pluginId sink] }

/-- How the loop over the activation order ends. -/
inductive Activated where
  | all
  | failed (pluginId : PluginId) (error : ActivationError)
  | unwound
  deriving DecidableEq

/-- Membership in a list of plugins is decided by comparing their ids. -/
local instance lawfulBEq_pluginId : LawfulBEq PluginId := inferInstance

/-- The loop over the activation order. A plugin that is in neither inventory is a failed assertion. -/
def activateAll (plugins : List InternalPlugin) (passiveIds : List PluginId) : List PluginId → Candidate → Activated × Candidate
  | [], c => (.all, c)
  | pluginId :: order, c =>
    match plugins.find? (fun p => p.descriptor.id = pluginId) with
    | none =>
      if pluginId ∈ passiveIds then activateAll plugins passiveIds order (c.addActivated pluginId .empty) else (.unwound, c)
    | some plugin =>
      let (c, sink) := c.activate pluginId plugin.activator
      match plugin.activator.ending with
      | .ok => activateAll plugins passiveIds order (c.addActivated pluginId sink)
      | .error e => (.failed pluginId e, c.addActivated pluginId sink)
      | .panicked => (.failed pluginId .activationPanicked, c.addActivated pluginId sink)
      | .panickedInCall => (.unwound, c)

/-! ## The rollback -/

/-- What the clock decides: whether the quiesce is cut off, and which effects no time is left for. -/
structure Timing where
  quiesceTimedOut : Bool
  late : PluginId → Nat → Bool

/-- The effects are disposed from the one before the given one down to the first. Without a report a panic has ended the loop. -/
def disposeFrom (plugin : ActivatedPlugin) (late : Nat → Bool) : Nat → Candidate → EffectStack → Candidate × Option EffectDisposeReport
  | 0, c, stack => (c, (stack.finish 0).report)
  | i + 1, c, stack =>
    match (plugin.disposers)[i]? with
    | none => disposeFrom plugin late i c stack
    | some disposer =>
      if late i then disposeFrom plugin late i c (stack.setRecord i .failed (some .scopeDisposeTimeout))
      else
        let disposing := { stack with effects := stack.effects.modify i (fun r => { r with status := .disposing }) }
        let called := { c with disposals := c.disposals ++ [(plugin.pluginId, i)] }
        match disposer with
        | .registration kind capabilityId =>
          disposeFrom plugin late i (called.setRegistry (c.registry.unregister kind capabilityId plugin.pluginId))
            (disposing.settle i .ok)
        | .own (.settled settled) => disposeFrom plugin late i called (disposing.settle i settled)
        | .own .panickedInCall => (called, none)

/-- `EffectStack::dispose`. -/
def disposeEffects (c : Candidate) (plugin : ActivatedPlugin) (late : Nat → Bool) : Candidate × Option EffectDisposeReport :=
  match plugin.effects.report with
  | some report => (c, some report)
  | none => disposeFrom plugin late plugin.disposers.length c plugin.effects

/-- The effects of the plugins, one plugin after the other. -/
def disposePlugins (late : PluginId → Nat → Bool) :
    List ActivatedPlugin → Candidate → Candidate × Option (List (PluginId × EffectDisposeReport))
  | [], c => (c, some [])
  | plugin :: plugins, c =>
    match c.disposeEffects plugin (late plugin.pluginId) with
    | (c, none) => (c, none)
    | (c, some report) =>
      let (c, reports) := disposePlugins late plugins c
      (c, reports.map (fun reports => (plugin.pluginId, report) :: reports))

/-- What the report of the rollback says of the candidate's plugins. -/
structure RollbackReport where
  outcome : DisposeOutcome
  quiesceTimedOut : Bool
  pluginReports : List (PluginId × EffectDisposeReport)
  deriving DecidableEq

/-- `quiesce_and_dispose`: routing is closed and the plugins are disposed, the last activated one first. -/
def quiesceAndDispose (c : Candidate) (timing : Timing) : Candidate × Option RollbackReport :=
  let closed := c.setRegistry c.registry.closeRouting
  let (c, reports) := disposePlugins timing.late closed.activated.reverse closed
  (c, reports.map fun reports =>
    let failed := timing.quiesceTimedOut || reports.any (fun r => r.2.outcome = .failed)
    { outcome := if failed then .failed else .disposed, quiesceTimedOut := timing.quiesceTimedOut, pluginReports := reports })

/-! ## The build -/

/-- How a build ends. -/
inductive Outcome where
  | resolution (error : ExtensionError)
  | ready
  | activation (pluginId : PluginId) (error : ActivationError) (rollback : RollbackReport)
  | unwound

/-- `build_scope_candidate_with_passive_descriptors`. -/
def build (scc : ProviderGraph → List (List PluginId)) (identity : ScopeIdentity) (parentPlan : Option ActivationPlan)
    (plugins : List InternalPlugin) (passive : List PluginDescriptor) (timing : Timing) : Outcome × Candidate :=
  match resolveActivationPlan scc .phaseOne identity parentPlan (plugins.map (·.descriptor) ++ passive) with
  | .error e => (.resolution e, new)
  | .ok plan =>
    match activateAll plugins (passive.map (·.id)) plan.activationOrder new with
    | (.all, c) => (.ready, c)
    | (.unwound, c) => (.unwound, c)
    | (.failed pluginId error, c) =>
      match c.quiesceAndDispose timing with
      | (c, some report) => (.activation pluginId error report, c)
      | (c, none) => (.unwound, c)

end Candidate

end Rho
