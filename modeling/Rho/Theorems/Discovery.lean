import Mathlib.Data.List.Induction
import Rho.Theorems.Manager

/-!
# What a replacement activates

A replacement takes the pending update, and the pending update should be what was discovered last. A discovery of the digest that
is running already leaves the update of an earlier discovery in place, and the earlier digest can still be accepted.
-/

namespace Rho

open Effect ManagerOp OrdMap

/-! ## The digest discovered last -/

/-- A discovery that the manager refuses is one where `refused` says so. -/
def ManagerOp.discovery (refused : Bool) (key : PluginKey) (m : PluginManager) : ManagerOp → Option PackageDigest
  | .discover pluginId projectId digest =>
    if toLex (projectId, pluginId) = key then
      match PluginManager.discover pluginId projectId digest m with
      | .ok _ _ => some digest
      | .error _ _ => if refused then some digest else none
    else none
  | .enable _ _ _ | .disable _ _ | .markCrashed _ _ _ | .replace _ _ _ _ _ | .rejectUpdate _ _ => none

/-- The digest most recently discovered for a plugin of a project, after these operations. -/
def lastDiscovered (refused : Bool) (key : PluginKey) (trace : List ManagerOp) : Option PackageDigest :=
  ((Run.outputs PluginManager.step (ManagerOp.discovery refused key) .new trace).filterMap id).getLast?

/-- The operation is a discovery that leaves the update of an earlier one pending: it is of the digest that the instance has
already, or one that is refused because the instance is not active. -/
def ManagerOp.LeavesOlder (refused : Bool) (m : PluginManager) : ManagerOp → Prop
  | .discover pluginId projectId digest =>
    ∃ i, OrdMap.get m.instances (toLex (projectId, pluginId)) = some i ∧
      (i.packageDigest = digest ∨ (refused = true ∧ i.state ≠ .active)) ∧
      ∃ pending, OrdMap.get m.pendingUpdates (toLex (projectId, pluginId)) = some pending ∧ pending ≠ digest
  | .enable _ _ _ | .disable _ _ | .markCrashed _ _ _ | .replace _ _ _ _ _ | .rejectUpdate _ _ => False

namespace ManagerAux

theorem lastDiscovered_append (refused : Bool) (key : PluginKey) (trace : List ManagerOp) (op : ManagerOp) :
    lastDiscovered refused key (trace ++ [op]) =
      (op.discovery refused key (Run.after PluginManager.step .new trace)).or (lastDiscovered refused key trace) := by
  unfold lastDiscovered
  rw [Run.outputs_append, List.filterMap_append, List.getLast?_append]
  congr 1
  cases hout : op.discovery refused key (Run.after PluginManager.step .new trace) with
  | none => simp [Run.outputs, hout]
  | some digest => simp [Run.outputs, hout]

/-! ## Pending updates -/

theorem keeps_getInstance {γ : Type} (f : PluginManager → γ) (key : PluginKey) : Keeps f (PluginManager.getInstance key) :=
  keeps_bind (keeps_get f) fun _ => keeps_ofResult f _

theorem keeps_transitionAt (key : PluginKey) (target : PluginLifecycleState) (reason : String) :
    Keeps PluginManager.pendingUpdates (PluginManager.transitionAt key target reason) :=
  keeps_bind (keeps_getInstance _ key) fun _ => keeps_bind (keeps_ofResult _ _) fun _ => keeps_modify fun _ => rfl

theorem keeps_clearHost (key : PluginKey) : Keeps PluginManager.pendingUpdates (PluginManager.clearHost key) :=
  keeps_bind (keeps_getInstance _ key) fun _ => keeps_modify fun _ => rfl

theorem keeps_awaitEnable (key : PluginKey) (state : PluginLifecycleState) :
    Keeps PluginManager.pendingUpdates (PluginManager.awaitEnable key state) := by
  unfold PluginManager.awaitEnable
  split
  · exact keeps_transitionAt key _ _
  · exact keeps_transitionAt key _ _
  · exact keeps_pure _ _

theorem keeps_enable (projectId : ScopeId) (pluginId : PluginId) (host : HostInstanceId) :
    Keeps PluginManager.pendingUpdates (PluginManager.enable projectId pluginId host) := by
  unfold PluginManager.enable PluginManager.activate
  refine keeps_bind (keeps_getInstance _ _) fun i => keeps_bind (keeps_ofResult _ _) fun next => ?_
  refine keeps_bind (keeps_awaitEnable _ _) fun _ => keeps_bind (keeps_transitionAt _ _ _) fun _ => ?_
  refine keeps_bind (keeps_transitionAt _ _ _) fun _ => keeps_bind (keeps_transitionAt _ _ _) fun _ => ?_
  exact keeps_bind (keeps_getInstance _ _) fun _ => keeps_bind (keeps_ofResult _ _) fun _ => keeps_modify fun _ => rfl

theorem keeps_disable (projectId : ScopeId) (pluginId : PluginId) :
    Keeps PluginManager.pendingUpdates (PluginManager.disable projectId pluginId) := by
  unfold PluginManager.disable
  refine keeps_bind (keeps_transitionAt _ _ _) fun _ => keeps_bind (keeps_transitionAt _ _ _) fun _ => ?_
  exact keeps_bind (keeps_transitionAt _ _ _) fun _ => keeps_clearHost _

theorem keeps_markCrashed (projectId : ScopeId) (pluginId : PluginId) (reason : String) :
    Keeps PluginManager.pendingUpdates (PluginManager.markCrashed projectId pluginId reason) :=
  keeps_bind (keeps_transitionAt _ _ _) fun _ => keeps_clearHost _

/-- A replacement that succeeds takes the pending update. -/
theorem replace_takes (projectId : ScopeId) (pluginId : PluginId) (expectedOld candidate : PackageDigest) (host : HostInstanceId)
    (m : PluginManager) : Ends
      (fun _ m' => get m.pendingUpdates (toLex (projectId, pluginId)) = some candidate ∧
        m'.pendingUpdates = erase m.pendingUpdates (toLex (projectId, pluginId)))
      (fun _ _ => True) (PluginManager.replace projectId pluginId expectedOld candidate host m) := by
  unfold PluginManager.replace
  generalize (toLex (projectId, pluginId) : PluginKey) = key
  refine ends_get ?_
  refine ends_ofResult_bind (fun _ _ => trivial) fun current _ => ?_
  refine ends_ofResult_bind (fun _ _ => trivial) fun _ _ => ?_
  by_cases hpending : get m.pendingUpdates key = some candidate
  · refine ends_ofResult_bind (fun _ _ => trivial) fun _ _ => ?_
    refine ends_bind (P := fun _ m' => m'.pendingUpdates = m.pendingUpdates)
      ((ends_of_keeps (keeps_getInstance PluginManager.pendingUpdates key) m).onError fun _ _ _ => trivial) ?_
    intro i m₁ h₁
    refine ends_bind (P := fun _ m' => m'.pendingUpdates = m.pendingUpdates)
      (ends_ofResult (fun _ _ => h₁) fun _ _ => trivial) ?_
    intro _ m₂ h₂
    refine ends_bind (P := fun _ m' => m'.pendingUpdates = m.pendingUpdates)
      (ends_ofResult (fun _ _ => h₂) fun _ _ => trivial) ?_
    intro next m₃ h₃
    refine ends_bind (P := fun _ (m' : PluginManager) => m'.pendingUpdates = m.pendingUpdates) h₃ ?_
    intro _ m₄ h₄
    refine ends_bind (P := fun _ m' => m'.pendingUpdates = m.pendingUpdates)
      (ends_ofResult (fun _ _ => h₄) fun _ _ => trivial) ?_
    intro generation m₅ h₅
    exact ⟨hpending, congrArg (erase · key) h₅⟩
  · have hguard : (guard (get m.pendingUpdates key = some candidate) : Option Unit) = none := by simp [guard, hpending]
    rw [hguard, orFail_none_bind]
    trivial

theorem final_map {ε σ α β : Type} (f : α → β) (x : EStateM ε σ α) (s : σ) : final ((f <$> x) s) = final (x s) := by
  change final (EStateM.map f x s) = _
  unfold EStateM.map
  cases x s with
  | ok a t => rfl
  | error e t => rfl

theorem get_erase_some {key k : PluginKey} {pending : List (PluginKey × PackageDigest)} {digest : PackageDigest}
    (h : get (erase pending key) k = some digest) : get pending k = some digest := by
  rw [get_erase] at h
  split at h
  · cases h
  · exact h

/-! ## A discovery -/

variable {m : PluginManager} {pluginId : PluginId} {projectId : ScopeId} {digest found : PackageDigest} {key : PluginKey}
  {i : PluginInstance} {refused : Bool}

theorem discover_new (hget : get m.instances (toLex (projectId, pluginId)) = none) :
    PluginManager.discover pluginId projectId found m =
      .ok .new (m.setInstance (toLex (projectId, pluginId)) (.discovered pluginId projectId found)) := by
  unfold PluginManager.discover
  rw [bind_of_ok (show (get : ManagerM _) m = .ok m m from rfl), hget]
  rfl

theorem discover_unchanged (hget : get m.instances (toLex (projectId, pluginId)) = some i)
    (hsame : i.packageDigest = found) : PluginManager.discover pluginId projectId found m = .ok .unchanged m := by
  unfold PluginManager.discover
  rw [bind_of_ok (show (get : ManagerM _) m = .ok m m from rfl), hget]
  simp only [if_pos hsame]
  rfl

theorem discover_updatePending (hget : get m.instances (toLex (projectId, pluginId)) = some i)
    (hother : i.packageDigest ≠ found) (hactive : i.state = .active) :
    PluginManager.discover pluginId projectId found m =
      .ok .updatePending { m with pendingUpdates := insert (toLex (projectId, pluginId)) found m.pendingUpdates } := by
  unfold PluginManager.discover
  rw [bind_of_ok (show (get : ManagerM _) m = .ok m m from rfl), hget]
  simp only [if_neg hother, if_pos hactive]
  rfl

theorem discover_refused (hget : get m.instances (toLex (projectId, pluginId)) = some i)
    (hother : i.packageDigest ≠ found) (hinactive : i.state ≠ .active) :
    PluginManager.discover pluginId projectId found m = .error .duplicateDiscovery m := by
  unfold PluginManager.discover
  rw [bind_of_ok (show (get : ManagerM _) m = .ok m m from rfl), hget]
  simp only [if_neg hother, if_neg hinactive]
  rfl

theorem discover_step (hsound : ViewSound (view m key))
    (hleaves : ¬(discover pluginId projectId found).LeavesOlder refused m)
    (hpending : get (final (PluginManager.discover pluginId projectId found m)).pendingUpdates key = some digest) :
    (discover pluginId projectId found).discovery refused key m = some digest ∨
      ((discover pluginId projectId found).discovery refused key m = none ∧
        get m.pendingUpdates key = some digest) := by
  simp only [discovery]
  by_cases hkey : toLex (projectId, pluginId) = key
  · rw [if_pos hkey]
    cases hget : get m.instances (toLex (projectId, pluginId)) with
    | none =>
      -- No update is pending for a plugin that was never seen.
      rw [discover_new hget] at hpending
      obtain ⟨i, hi, -⟩ := hsound.pending digest hpending
      rw [← hkey] at hi
      rw [show (view m (toLex (projectId, pluginId))).instance? = none from hget] at hi
      cases hi
    | some i =>
      have holder : ∀ pending, (i.packageDigest = found ∨ (refused = true ∧ i.state ≠ .active)) →
          get m.pendingUpdates key = some pending → pending = found := by
        intro pending hkind hget'
        by_contra hne
        exact hleaves ⟨i, hget, hkind, pending, hkey ▸ hget', hne⟩
      by_cases hsame : i.packageDigest = found
      · rw [discover_unchanged hget hsame] at hpending ⊢
        exact Or.inl (congrArg some (holder digest (Or.inl hsame) hpending).symm)
      · by_cases hactive : i.state = .active
        · rw [discover_updatePending hget hsame hactive] at hpending ⊢
          rw [final, get_insert, if_pos hkey] at hpending
          exact Or.inl hpending
        · rw [discover_refused hget hsame hactive] at hpending ⊢
          cases refused with
          | true => exact Or.inl (congrArg some (holder digest (Or.inr ⟨rfl, hactive⟩) hpending).symm)
          | false => exact Or.inr ⟨rfl, hpending⟩
  · rw [if_neg hkey]
    refine Or.inr ⟨rfl, ?_⟩
    have hends := discover_ends pluginId projectId found m
    cases hrun : PluginManager.discover pluginId projectId found m with
    | ok outcome m' =>
      rw [hrun] at hends hpending
      obtain ⟨v, -, hview⟩ := hends
      have hother := hview key
      rw [if_neg hkey] at hother
      exact (congrArg KeyView.pending hother).symm.trans hpending
    | error e m' =>
      rw [hrun] at hends hpending
      rw [final, show m' = m from hends] at hpending
      exact hpending

/-! ## Any operation -/

/-- After an operation that leaves no older update, an update is pending because the operation has discovered it, or because it was
pending before and the operation is no discovery of its key. -/
theorem pending_step {op : ManagerOp} (hsound : ViewSound (view m key)) (hleaves : ¬op.LeavesOlder refused m)
    (hpending : get (m.step op).pendingUpdates key = some digest) : op.discovery refused key m = some digest ∨
      (op.discovery refused key m = none ∧ get m.pendingUpdates key = some digest) := by
  unfold PluginManager.step at hpending
  cases op with
  | discover pluginId projectId found =>
    rw [run, final_map] at hpending
    exact discover_step hsound hleaves hpending
  | enable projectId pluginId host =>
    rw [run, final_map, keeps_enable projectId pluginId host m] at hpending
    exact Or.inr ⟨rfl, hpending⟩
  | disable projectId pluginId =>
    rw [run, final_map, keeps_disable projectId pluginId m] at hpending
    exact Or.inr ⟨rfl, hpending⟩
  | markCrashed projectId pluginId reason =>
    rw [run, final_map, keeps_markCrashed projectId pluginId reason m] at hpending
    exact Or.inr ⟨rfl, hpending⟩
  | replace projectId pluginId expectedOld candidate host =>
    rw [run, final_map] at hpending
    refine Or.inr ⟨rfl, ?_⟩
    have htakes := replace_takes projectId pluginId expectedOld candidate host m
    have hends := replace_ends projectId pluginId expectedOld candidate host m
    cases hrun : PluginManager.replace projectId pluginId expectedOld candidate host m with
    | ok answer m' =>
      rw [hrun] at htakes hpending
      rw [final, htakes.2] at hpending
      exact get_erase_some hpending
    | error e m' =>
      rw [hrun] at hends hpending
      rw [final, show m' = m from hends] at hpending
      exact hpending
  | rejectUpdate projectId pluginId =>
    rw [run, final_map] at hpending
    exact Or.inr ⟨rfl, get_erase_some hpending⟩

/-! ## A run -/

/-- In a run without an older update left, what is pending is what was discovered last. -/
theorem pending_last {trace : List ManagerOp}
    (h : Run.Along PluginManager.step (fun m op => ¬op.LeavesOlder refused m) .new trace)
    (hpending : get (Run.after PluginManager.step .new trace).pendingUpdates key = some digest) :
    lastDiscovered refused key trace = some digest := by
  induction trace using List.reverseRecOn generalizing digest with
  | nil => cases hpending
  | append_singleton trace op ih =>
    obtain ⟨hbefore, hop, -⟩ := Run.along_append.mp h
    rw [Run.after_append] at hpending
    have hsound : ViewSound (view (Run.after PluginManager.step .new trace) key) :=
      Run.invariant (I := fun m => ∀ key, ViewSound (view m key)) (fun m op h => viewSound_step h op) trace viewSound_new key
    rw [lastDiscovered_append]
    rcases pending_step hsound hop hpending with hfound | ⟨hnone, hold⟩
    · rw [hfound]
      rfl
    · rw [hnone]
      exact ih hbefore hold

end ManagerAux

/-! ## The theorem -/

/-- In a run in which no discovery leaves an older update pending, a replacement succeeds only for the digest that was discovered
last for its plugin in its project. -/
theorem replaced_was_discovered_last (refused : Bool) (trace : List ManagerOp)
    (h : Run.Along PluginManager.step (fun m op => ¬op.LeavesOlder refused m) .new trace) (projectId : ScopeId)
    (pluginId : PluginId) (expectedOld candidate : PackageDigest) (host : HostInstanceId) (m' : PluginManager)
    (hrun : PluginManager.replace projectId pluginId expectedOld candidate host (Run.after PluginManager.step .new trace) =
      .ok () m') : lastDiscovered refused (toLex (projectId, pluginId)) trace = some candidate := by
  have htakes := ManagerAux.replace_takes projectId pluginId expectedOld candidate host (Run.after PluginManager.step .new trace)
  rw [hrun] at htakes
  exact ManagerAux.pending_last h htakes.1

namespace SampleDiscovery

theorem project_valid : validateIdentifier "project.a" = none := by decide +kernel
theorem plugin_valid : validateIdentifier "plugin.sample" = none := by decide +kernel

def project : ScopeId := ⟨"project.a", project_valid⟩
def plugin : PluginId := ⟨"plugin.sample", plugin_valid⟩

def firstDigest : PackageDigest := "1111111111111111111111111111111111111111111111111111111111111111"
def secondDigest : PackageDigest := "2222222222222222222222222222222222222222222222222222222222222222"

/-- A package is found and enabled, and changes. -/
def changed : List ManagerOp :=
  [.discover plugin project firstDigest, .enable project plugin "host.1", .discover plugin project secondDigest]

/-- The change is taken back. -/
def withdrawn : List ManagerOp := changed ++ [.discover plugin project firstDigest]

def succeeds (r : EStateM.Result PluginManagerError PluginManager Unit) : Bool :=
  match r with
  | .ok _ _ => true
  | .error _ _ => false

theorem eq_ok_of_succeeds {r : EStateM.Result PluginManagerError PluginManager Unit} (h : succeeds r = true) :
    r = .ok () (final r) := by
  cases r with
  | ok a m => rfl
  | error e m => cases h

end SampleDiscovery

open SampleDiscovery in
/-- The digest of a changed package is accepted. -/
theorem changed_replacement : Run.Along PluginManager.step (fun m op => ¬op.LeavesOlder true m) .new changed ∧
      succeeds (PluginManager.replace project plugin firstDigest secondDigest "host.2"
        (Run.after PluginManager.step .new changed)) = true ∧
      lastDiscovered true (toLex (project, plugin)) changed = some secondDigest := by
  have hrun : succeeds (PluginManager.replace project plugin firstDigest secondDigest "host.2"
      (Run.after PluginManager.step .new changed)) = true := by decide +kernel
  have hfirst : OrdMap.get PluginManager.new.pendingUpdates (toLex (project, plugin)) = none := by decide +kernel
  have hsecond : OrdMap.get (Run.after PluginManager.step .new (changed.take 2)).pendingUpdates (toLex (project, plugin)) =
      none := by decide +kernel
  have halong : Run.Along PluginManager.step (fun m op => ¬op.LeavesOlder true m) .new changed := by
    refine ⟨?_, id, ?_, trivial⟩
    · rintro ⟨i, -, -, pending, hpending, -⟩
      cases hfirst.symm.trans hpending
    · rintro ⟨i, -, -, pending, hpending, -⟩
      cases hsecond.symm.trans hpending
  exact ⟨halong, hrun, replaced_was_discovered_last true changed halong project plugin firstDigest secondDigest "host.2" _
    (eq_ok_of_succeeds hrun)⟩

open SampleDiscovery in
/-- A package changes and the change is taken back; the digest in between is still accepted, whatever counts as a discovery. -/
theorem withdrawn_replacement : succeeds (PluginManager.replace project plugin firstDigest secondDigest "host.2"
        (Run.after PluginManager.step .new withdrawn)) = true ∧
      lastDiscovered true (toLex (project, plugin)) withdrawn = some firstDigest ∧
      lastDiscovered false (toLex (project, plugin)) withdrawn = some firstDigest ∧ firstDigest ≠ secondDigest := by
  decide +kernel

end Rho
