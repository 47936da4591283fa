import Rho.Extension.Manager

/-!
# What the plugin manager keeps

Every operation works on one project and plugin. What an operation can do to it is said once, by `KeyMove`; the invariant and what
the claims say of single operations follow from it.
-/

namespace Rho

open Effect PluginManager

/-! ## What is claimed -/

/-- What holds of the manager in every state. -/
structure ManagerSound (m : PluginManager) : Prop where
  active_iff : ∀ key i, OrdMap.get m.instances key = some i → (i.state = .active ↔ i.hostInstanceId.isSome = true)
  accepted : ∀ key i, OrdMap.get m.instances key = some i → i.state = .active → OrdMap.get m.accepted key = some i.packageDigest
  pending : ∀ key digest, OrdMap.get m.pendingUpdates key = some digest →
    ∃ i, OrdMap.get m.instances key = some i ∧ digest ≠ i.packageDigest

/-- The number of an instance's generation; an instance that was never activated has none. -/
def generationOf (i : Option PluginInstance) : Nat := ((i.bind (·.activationGeneration)).map (·.value.toNat)).getD 0

def ManagerOp.activates : ManagerOp → Bool
  | .enable _ _ _ | .replace _ _ _ _ _ => true
  | .discover _ _ _ | .disable _ _ | .markCrashed _ _ _ | .rejectUpdate _ _ => false

/-- What one operation may change. -/
structure OpSound (m : PluginManager) (op : ManagerOp) : Prop where
  grows : op.activates = true → ∀ answer m', op.run m = .ok answer m' →
    generationOf (OrdMap.get m.instances op.key) < generationOf (OrdMap.get m'.instances op.key)
  frame : ∀ key, key ≠ op.key → OrdMap.get (m.step op).instances key = OrdMap.get m.instances key ∧
    OrdMap.get (m.step op).accepted key = OrdMap.get m.accepted key ∧
    OrdMap.get (m.step op).pendingUpdates key = OrdMap.get m.pendingUpdates key
  refused : ∀ e m', op.run m = .error e m' → m' = m

namespace ManagerAux

/-! ## One key -/

/-- What the manager holds for one project and plugin. -/
structure KeyView where
  instance? : Option PluginInstance
  accepted : Option PackageDigest
  pending : Option PackageDigest

def view (m : PluginManager) (key : PluginKey) : KeyView :=
  ⟨OrdMap.get m.instances key, OrdMap.get m.accepted key, OrdMap.get m.pendingUpdates key⟩

/-- What an operation that succeeds can do to its key. -/
inductive KeyMove : KeyView → KeyView → Prop where
  | same (v : KeyView) : KeyMove v v
  | discovered (acc pend : Option PackageDigest) (i : PluginInstance) (hstate : i.state = .discovered)
      (hhost : i.hostInstanceId = none) : KeyMove ⟨none, acc, pend⟩ ⟨some i, acc, pend⟩
  | updated (i : PluginInstance) (acc pend : Option PackageDigest) (digest : PackageDigest) (hne : digest ≠ i.packageDigest) :
      KeyMove ⟨some i, acc, pend⟩ ⟨some i, acc, some digest⟩
  | enabled (i i' : PluginInstance) (acc pend : Option PackageDigest) (hstate : i'.state = .active)
      (hhost : i'.hostInstanceId.isSome = true) (hdigest : i'.packageDigest = i.packageDigest)
      (hgrows : generationOf (some i) < generationOf (some i')) :
      KeyMove ⟨some i, acc, pend⟩ ⟨some i', some i.packageDigest, pend⟩
  | stopped (i i' : PluginInstance) (acc pend : Option PackageDigest) (hstate : i'.state ≠ .active)
      (hhost : i'.hostInstanceId = none) (hdigest : i'.packageDigest = i.packageDigest) :
      KeyMove ⟨some i, acc, pend⟩ ⟨some i', acc, pend⟩
  | replaced (i i' : PluginInstance) (acc pend : Option PackageDigest) (hstate : i'.state = .active)
      (hhost : i'.hostInstanceId.isSome = true) (hgrows : generationOf (some i) < generationOf (some i')) :
      KeyMove ⟨some i, acc, pend⟩ ⟨some i', some i'.packageDigest, none⟩
  | rejected (i : Option PluginInstance) (acc pend : Option PackageDigest) : KeyMove ⟨i, acc, pend⟩ ⟨i, acc, none⟩

/-- Only this key has moved. -/
def Moved (m : PluginManager) (key : PluginKey) (m' : PluginManager) : Prop :=
  ∃ v, KeyMove (view m key) v ∧ ∀ k, view m' k = if key = k then v else view m k

/-- The invariant, key by key. -/
structure ViewSound (v : KeyView) : Prop where
  active_iff : ∀ i, v.instance? = some i → (i.state = .active ↔ i.hostInstanceId.isSome = true)
  accepted : ∀ i, v.instance? = some i → i.state = .active → v.accepted = some i.packageDigest
  pending : ∀ digest, v.pending = some digest → ∃ i, v.instance? = some i ∧ digest ≠ i.packageDigest

theorem ViewSound.move {v v' : KeyView} (h : ViewSound v) (hmove : KeyMove v v') : ViewSound v' := by
  cases hmove with
  | same => exact h
  | discovered acc pend i hstate hhost =>
    refine ⟨?_, ?_, ?_⟩
    · rintro _ ⟨⟩
      simp [hstate, hhost]
    · rintro _ ⟨⟩ hactive
      rw [hstate] at hactive
      cases hactive
    · intro digest hpend
      obtain ⟨_, hnone, -⟩ := h.pending digest hpend
      cases hnone
  | updated i acc pend digest hne =>
    refine ⟨h.active_iff, h.accepted, ?_⟩
    rintro _ ⟨⟩
    exact ⟨i, rfl, hne⟩
  | enabled i i' acc pend hstate hhost hdigest hgrows =>
    refine ⟨?_, ?_, ?_⟩
    · rintro _ ⟨⟩
      exact iff_of_true hstate hhost
    · rintro _ ⟨⟩ _
      exact congrArg some hdigest.symm
    · intro digest hpend
      obtain ⟨_, ⟨⟩, hne⟩ := h.pending digest hpend
      exact ⟨i', rfl, hdigest.symm ▸ hne⟩
  | stopped i i' acc pend hstate hhost hdigest =>
    refine ⟨?_, ?_, ?_⟩
    · rintro _ ⟨⟩
      rw [hhost]
      exact iff_of_false hstate Bool.false_ne_true
    · rintro _ ⟨⟩ hactive
      exact absurd hactive hstate
    · intro digest hpend
      obtain ⟨_, ⟨⟩, hne⟩ := h.pending digest hpend
      exact ⟨i', rfl, hdigest.symm ▸ hne⟩
  | replaced i i' acc pend hstate hhost hgrows =>
    refine ⟨?_, ?_, ?_⟩
    · rintro _ ⟨⟩
      exact iff_of_true hstate hhost
    · rintro _ ⟨⟩ _
      rfl
    · rintro _ ⟨⟩
  | rejected i acc pend =>
    refine ⟨h.active_iff, h.accepted, ?_⟩
    rintro _ ⟨⟩

/-! ## Steps on the instance of a key -/

/-- From one state to another, only the instance of a key may have changed. -/
structure Sets (m : PluginManager) (key : PluginKey) (i : PluginInstance) (m' : PluginManager) : Prop where
  instances : ∀ k, OrdMap.get m'.instances k = if key = k then some i else OrdMap.get m.instances k
  accepted : m'.accepted = m.accepted
  pending : m'.pendingUpdates = m.pendingUpdates

variable {m m' : PluginManager} {key : PluginKey} {i j : PluginInstance}

theorem Sets.get (h : Sets m key i m') : OrdMap.get m'.instances key = some i := by rw [h.instances, if_pos rfl]

theorem sets_refl (hget : OrdMap.get m.instances key = some i) : Sets m key i m := by
  refine ⟨?_, rfl, rfl⟩
  intro k
  split
  · next hk => rw [← hk, hget]
  · rfl

theorem Sets.set (h : Sets m key i m') (j : PluginInstance) : Sets m key j (m'.setInstance key j) := by
  refine ⟨?_, h.accepted, h.pending⟩
  intro k
  unfold setInstance
  rw [OrdMap.get_insert, h.instances]
  split
  · rfl
  · rfl

variable {ε σ α β : Type} {next : UInt64}

theorem orFail_some_bind (v : α) (e : ε) (g : α → EStateM ε σ β) (s : σ) : (ofResult (orFail (some v) e) >>= g) s = g v s := rfl

theorem orFail_none_bind (e : ε) (g : α → EStateM ε σ β) (s : σ) : (ofResult (orFail none e) >>= g) s = .error e s := rfl

theorem getInstance_some (hget : OrdMap.get m.instances key = some i) : getInstance key m = .ok i m := by
  change ofResult (orFail (OrdMap.get m.instances key) PluginManagerError.unknownPlugin) m = _
  rw [hget]
  rfl

theorem getInstance_none (hget : OrdMap.get m.instances key = none) :
    getInstance key m = .error .unknownPlugin m := by
  change ofResult (orFail (OrdMap.get m.instances key) PluginManagerError.unknownPlugin) m = _
  rw [hget]
  rfl

theorem transitionAt_unknown (hget : OrdMap.get m.instances key = none) (target : PluginLifecycleState) (reason : String) :
    transitionAt key target reason m = .error .unknownPlugin m :=
  bind_of_error (getInstance_none hget)

theorem transitionAt_refused (hget : OrdMap.get m.instances key = some i) {target : PluginLifecycleState}
    (hnot : allowedTransition i.state target = false) (reason : String) :
    transitionAt key target reason m = .error .forbiddenTransition m := by
  refine (bind_of_ok (getInstance_some hget)).trans (bind_of_error ?_)
  unfold PluginInstance.transition
  rw [hnot]
  rfl

theorem Sets.transition (h : Sets m key i m') (target : PluginLifecycleState) (reason : String)
    (hallowed : allowedTransition i.state target = true) :
    ∃ m'', transitionAt key target reason m' = .ok () m'' ∧ Sets m key (i.moved target reason) m'' := by
  refine ⟨_, (bind_of_ok (getInstance_some h.get)).trans (bind_of_ok (a := i.moved target reason) (t := m') ?_), h.set _⟩
  unfold PluginInstance.transition
  rw [hallowed]
  rfl

/-- A key whose instance alone has changed. -/
theorem Sets.moved (h : Sets m key i m')
    (hmove : KeyMove (view m key) ⟨some i, OrdMap.get m.accepted key, OrdMap.get m.pendingUpdates key⟩) : Moved m key m' := by
  refine ⟨_, hmove, ?_⟩
  intro k
  unfold view
  rw [h.instances, h.accepted, h.pending]
  split
  · next hk => rw [hk]
  · rfl

theorem view_some (hget : OrdMap.get m.instances key = some i) :
    view m key = ⟨some i, OrdMap.get m.accepted key, OrdMap.get m.pendingUpdates key⟩ := by
  unfold view
  rw [hget]

/-! ## Generations -/

theorem checkedSucc_spec {value : UInt64} (h : checkedSucc value = some next) : next ≠ 0 ∧ value.toNat < next.toNat := by
  unfold checkedSucc at h
  split at h
  · next hlt =>
    cases h
    have hnat : (value + 1).toNat = value.toNat + 1 := by
      rw [UInt64.toNat_add]
      exact Nat.mod_eq_of_lt hlt
    refine ⟨?_, by omega⟩
    intro hzero
    rw [hzero] at hnat
    exact absurd hnat (by simp)
  · cases h

theorem newGeneration_ok (h : next ≠ 0) : newGeneration next = .ok ⟨next, h⟩ := dif_pos h

/-- The generation of the next activation is a valid one, and later than the last. -/
theorem nextGeneration_spec (h : nextGeneration i.activationGeneration = some next) :
    next ≠ 0 ∧ generationOf (some i) < next.toNat := by
  unfold nextGeneration at h
  cases hgeneration : i.activationGeneration with
  | none =>
    rw [hgeneration] at h
    cases h
    refine ⟨by decide, ?_⟩
    simp [generationOf, hgeneration]
  | some g =>
    rw [hgeneration] at h
    obtain ⟨hne, hlt⟩ := checkedSucc_spec h
    refine ⟨hne, ?_⟩
    simpa [generationOf, hgeneration] using hlt

/-! ## The operations -/

/-- The key whose instance, accepted digest and pending update are given has moved. -/
theorem Sets.activate (h : Sets m key i m') (hne : next ≠ 0) (digest : PackageDigest) (host : HostInstanceId) :
    ∃ m'', activate key next digest host m' = .ok () m'' ∧ ∀ k, view m'' k = if key = k then
        ⟨some { i with activationGeneration := some ⟨next, hne⟩, hostInstanceId := some host }, some digest,
          OrdMap.get m.pendingUpdates key⟩ else view m k := by
  have hgeneration : (ofResult (newGeneration next) : ManagerM ActivationGeneration) m' = .ok ⟨next, hne⟩ m' := by
    rw [newGeneration_ok hne]
    rfl
  refine ⟨_, (bind_of_ok (getInstance_some h.get)).trans (bind_of_ok hgeneration), ?_⟩
  intro k
  unfold view setInstance
  rw [OrdMap.get_insert, OrdMap.get_insert, h.instances, h.accepted, h.pending]
  split
  · next hk => rw [hk]
  · rfl

/-- Enabling from the disabled state goes through. -/
theorem enable_disabled (h : Sets m key i m') (hstate : i.state = .disabled) (hne : next ≠ 0)
    (digest : PackageDigest) (host : HostInstanceId) :
    ∃ m'' i', (transitionAt key .resolving "enable requested" >>= fun _ =>
        transitionAt key .activating "resolved" >>= fun _ =>
        transitionAt key .active "activated" >>= fun _ =>
        activate key next digest host) m' = .ok () m'' ∧
      i'.state = .active ∧ i'.hostInstanceId = some host ∧ i'.packageDigest = i.packageDigest ∧
      i'.activationGeneration = some ⟨next, hne⟩ ∧
      ∀ k, view m'' k = if key = k then ⟨some i', some digest, OrdMap.get m.pendingUpdates key⟩ else view m k := by
  obtain ⟨m₁, hresolving, h₁⟩ := h.transition .resolving "enable requested" (by rw [hstate]; rfl)
  obtain ⟨m₂, hactivating, h₂⟩ := h₁.transition .activating "resolved" rfl
  obtain ⟨m₃, hactive, h₃⟩ := h₂.transition .active "activated" rfl
  obtain ⟨m₄, hactivate, hview⟩ := h₃.activate hne digest host
  refine ⟨m₄, _, ?_, ?_, ?_, ?_, ?_, hview⟩
  · rw [bind_of_ok hresolving, bind_of_ok hactivating, bind_of_ok hactive]
    exact hactivate
  · rfl
  · rfl
  · rfl
  · rfl

theorem enable_ends (projectId : ScopeId) (pluginId : PluginId) (host : HostInstanceId) (m : PluginManager) :
    Ends (fun _ m' => Moved m (toLex (projectId, pluginId)) m' ∧
        generationOf (OrdMap.get m.instances (toLex (projectId, pluginId))) <
          generationOf (OrdMap.get m'.instances (toLex (projectId, pluginId))))
      (fun _ m' => m' = m) (enable projectId pluginId host m) := by
  unfold enable
  generalize (toLex (projectId, pluginId) : PluginKey) = key
  cases hget : OrdMap.get m.instances key with
  | none =>
    rw [bind_of_error (getInstance_none hget)]
    rfl
  | some i =>
    rw [bind_of_ok (getInstance_some hget)]
    cases hnext : nextGeneration i.activationGeneration with
    | none =>
      rw [orFail_none_bind]
      rfl
    | some next =>
      rw [orFail_some_bind]
      obtain ⟨hne, hlater⟩ := nextGeneration_spec hnext
      -- What is left once the instance is disabled.
      have hrest : ∀ {j : PluginInstance} {m' : PluginManager}, Sets m key j m' → j.state = .disabled →
          j.packageDigest = i.packageDigest → Ends
            (fun _ m' => Moved m key m' ∧ generationOf (some i) < generationOf (OrdMap.get m'.instances key))
            (fun _ m' => m' = m)
            ((transitionAt key .resolving "enable requested" >>= fun _ =>
              transitionAt key .activating "resolved" >>= fun _ =>
              transitionAt key .active "activated" >>= fun _ =>
              activate key next i.packageDigest host) m') := by
        intro j m' hsets hstate hdigest
        obtain ⟨m'', i', hrun, hactive, hhost, hsame, hgeneration, hview⟩ :=
          enable_disabled hsets hstate hne i.packageDigest host
        rw [hrun]
        have hgrows : generationOf (some i) < generationOf (some i') := by
          simpa [generationOf, hgeneration] using hlater
        have hnew : OrdMap.get m''.instances key = some i' := by
          have hkey := hview key
          rw [if_pos rfl] at hkey
          exact congrArg KeyView.instance? hkey
        refine ⟨⟨_, ?_, hview⟩, by rw [hnew]; exact hgrows⟩
        rw [view_some hget]
        exact .enabled i i' _ _ hactive (by rw [hhost]; rfl) (hsame.trans hdigest) hgrows
      cases hstate : i.state with
      | discovered | stopped =>
        obtain ⟨m', hdisabled, hsets⟩ := (sets_refl hget).transition .disabled "awaiting enable" (by rw [hstate]; rfl)
        change Ends _ _ ((transitionAt key .disabled "awaiting enable" >>= _) m)
        rw [bind_of_ok hdisabled]
        exact hrest hsets rfl rfl
      | disabled => exact hrest (sets_refl hget) hstate rfl
      | _ =>
        change Ends _ _ ((transitionAt key .resolving "enable requested" >>= _) m)
        rw [bind_of_error (transitionAt_refused hget (by rw [hstate]; rfl) _)]
        rfl

/-- The end of an operation that stops an instance. -/
theorem Sets.clearHost (h : Sets m key i m') (hget : OrdMap.get m.instances key = some j) (hstate : i.state ≠ .active)
    (hdigest : i.packageDigest = j.packageDigest) : ∃ m'', clearHost key m' = .ok () m'' ∧ Moved m key m'' := by
  refine ⟨_, bind_of_ok (getInstance_some h.get), (h.set _).moved ?_⟩
  rw [view_some hget]
  exact .stopped j _ _ _ hstate rfl hdigest

theorem disable_ends (projectId : ScopeId) (pluginId : PluginId) (m : PluginManager) :
    Ends (fun _ m' => Moved m (toLex (projectId, pluginId)) m') (fun _ m' => m' = m)
      (disable projectId pluginId m) := by
  unfold disable
  generalize (toLex (projectId, pluginId) : PluginKey) = key
  cases hget : OrdMap.get m.instances key with
  | none =>
    rw [bind_of_error (transitionAt_unknown hget _ _)]
    rfl
  | some i =>
    cases hallowed : allowedTransition i.state .quiescing with
    | false =>
      rw [bind_of_error (transitionAt_refused hget hallowed _)]
      rfl
    | true =>
      obtain ⟨m₁, hquiescing, h₁⟩ := (sets_refl hget).transition .quiescing "disable requested" hallowed
      obtain ⟨m₂, hdisposing, h₂⟩ := h₁.transition .disposing "effects released" rfl
      obtain ⟨m₃, hstopped, h₃⟩ := h₂.transition .stopped "teardown complete" rfl
      obtain ⟨m₄, hclear, hmoved⟩ := h₃.clearHost hget nofun rfl
      rw [bind_of_ok hquiescing, bind_of_ok hdisposing, bind_of_ok hstopped, hclear]
      exact hmoved

theorem markCrashed_ends (projectId : ScopeId) (pluginId : PluginId) (reason : String) (m : PluginManager) :
    Ends (fun _ m' => Moved m (toLex (projectId, pluginId)) m') (fun _ m' => m' = m)
      (markCrashed projectId pluginId reason m) := by
  unfold markCrashed
  generalize (toLex (projectId, pluginId) : PluginKey) = key
  cases hget : OrdMap.get m.instances key with
  | none =>
    rw [bind_of_error (transitionAt_unknown hget _ _)]
    rfl
  | some i =>
    cases hallowed : allowedTransition i.state .crashed with
    | false =>
      rw [bind_of_error (transitionAt_refused hget hallowed _)]
      rfl
    | true =>
      obtain ⟨m₁, hcrashed, h₁⟩ := (sets_refl hget).transition .crashed reason hallowed
      obtain ⟨m₂, hclear, hmoved⟩ := h₁.clearHost hget nofun rfl
      rw [bind_of_ok hcrashed, hclear]
      exact hmoved

/-- A key whose pending update alone has changed. -/
theorem moved_pending (m : PluginManager) (key : PluginKey) (pending : List (PluginKey × PackageDigest))
    (hothers : ∀ k, key ≠ k → OrdMap.get pending k = OrdMap.get m.pendingUpdates k)
    (hmove : KeyMove (view m key) ⟨OrdMap.get m.instances key, OrdMap.get m.accepted key, OrdMap.get pending key⟩) :
    Moved m key { m with pendingUpdates := pending } := by
  refine ⟨_, hmove, ?_⟩
  intro k
  unfold view
  split
  · next hk => rw [hk]
  · next hk => rw [hothers k hk]

theorem discover_ends (pluginId : PluginId) (projectId : ScopeId) (digest : PackageDigest) (m : PluginManager) :
    Ends (fun _ m' => Moved m (toLex (projectId, pluginId)) m') (fun _ m' => m' = m)
      (discover pluginId projectId digest m) := by
  have hsame : Moved m (toLex (projectId, pluginId)) m := by
    refine ⟨_, .same _, ?_⟩
    intro k
    split
    · next hk => rw [hk]
    · rfl
  unfold discover
  refine ends_get ?_
  cases hget : OrdMap.get m.instances (toLex (projectId, pluginId)) with
  | none =>
    refine ends_bind (P := fun _ m' => Moved m (toLex (projectId, pluginId)) m') ?_ fun _ _ hmoved => hmoved
    refine ⟨⟨some (.discovered pluginId projectId digest), OrdMap.get m.accepted (toLex (projectId, pluginId)),
      OrdMap.get m.pendingUpdates (toLex (projectId, pluginId))⟩, ?_, ?_⟩
    · unfold view
      rw [hget]
      exact .discovered _ _ _ rfl rfl
    · intro k
      unfold view setInstance
      rw [OrdMap.get_insert]
      split
      · next hk => rw [hk]
      · rfl
  | some i =>
    by_cases hdigest : i.packageDigest = digest
    · simp only [if_pos hdigest]
      exact hsame
    · by_cases hactive : i.state = .active
      · simp only [if_neg hdigest, if_pos hactive]
        refine ends_bind (P := fun _ m' => Moved m (toLex (projectId, pluginId)) m') ?_ fun _ _ hmoved => hmoved
        refine moved_pending m _ _ ?_ ?_
        · intro k hk
          rw [OrdMap.get_insert, if_neg hk]
        · rw [OrdMap.get_insert, if_pos rfl, view_some hget, hget]
          exact .updated i _ _ digest fun h => hdigest h.symm
      · simp only [if_neg hdigest, if_neg hactive]
        rfl

theorem rejectUpdate_ends (projectId : ScopeId) (pluginId : PluginId) (m : PluginManager) :
    Ends (fun _ m' => Moved m (toLex (projectId, pluginId)) m') (fun _ m' => m' = m)
      (rejectUpdate projectId pluginId m) := by
  unfold rejectUpdate
  refine ends_get ?_
  refine ends_bind (P := fun _ m' => Moved m (toLex (projectId, pluginId)) m') ?_ fun _ _ hmoved => hmoved
  refine moved_pending m _ _ ?_ ?_
  · intro k hk
    rw [OrdMap.get_erase, if_neg hk]
  · rw [OrdMap.get_erase, if_pos rfl]
    exact .rejected _ _ _

theorem replace_ends (projectId : ScopeId) (pluginId : PluginId) (expectedOld candidate : PackageDigest) (host : HostInstanceId)
    (m : PluginManager) : Ends (fun _ m' => Moved m (toLex (projectId, pluginId)) m' ∧
        generationOf (OrdMap.get m.instances (toLex (projectId, pluginId))) <
          generationOf (OrdMap.get m'.instances (toLex (projectId, pluginId))))
      (fun _ m' => m' = m) (replace projectId pluginId expectedOld candidate host m) := by
  unfold replace
  generalize (toLex (projectId, pluginId) : PluginKey) = key
  refine ends_get ?_
  refine ends_ofResult_bind (fun _ _ => rfl) fun current _ => ?_
  refine ends_ofResult_bind (fun _ _ => rfl) fun _ _ => ?_
  refine ends_ofResult_bind (fun _ _ => rfl) fun _ _ => ?_
  cases hget : OrdMap.get m.instances key with
  | none =>
    rw [bind_of_error (getInstance_none hget)]
    rfl
  | some i =>
    rw [bind_of_ok (getInstance_some hget)]
    by_cases hactive : i.state = .active
    · have hguard : (guard (i.state = .active) : Option Unit) = some () := by simp [guard, hactive]
      rw [hguard, orFail_some_bind]
      cases hnext : i.activationGeneration.bind (fun g => checkedSucc g.value) with
      | none =>
        rw [orFail_none_bind]
        rfl
      | some next =>
        obtain ⟨g, hg, hsucc⟩ := Option.bind_eq_some_iff.mp hnext
        obtain ⟨hne, hlater⟩ := checkedSucc_spec hsucc
        have hgrows : generationOf (some i) <
            generationOf (some (replaced i candidate ⟨next, hne⟩ host projectId pluginId)) := by
          simpa [generationOf, hg, replaced] using hlater
        rw [orFail_some_bind]
        refine ends_bind (P := fun _ m' => m' = m.setInstance key { i with packageDigest := candidate }) rfl ?_
        rintro _ _ rfl
        rw [newGeneration_ok hne]
        refine ⟨⟨⟨some (replaced i candidate ⟨next, hne⟩ host projectId pluginId), some candidate, none⟩, ?_, ?_⟩, ?_⟩
        · rw [view_some hget]
          exact .replaced i _ _ _ hactive rfl hgrows
        · intro k
          unfold view setInstance
          rw [OrdMap.get_insert, OrdMap.get_insert, OrdMap.get_insert, OrdMap.get_erase]
          split
          · rfl
          · rfl
        · unfold setInstance
          rw [OrdMap.get_insert, if_pos rfl]
          exact hgrows
    · have hguard : (guard (i.state = .active) : Option Unit) = none := by simp [guard, hactive]
      rw [hguard, orFail_none_bind]
      rfl

/-! ## Any operation -/

theorem ends_map {x : EStateM ε σ α} {s : σ} {Q : σ → Prop} {E : ε → σ → Prop} (f : α → β)
    (h : Ends (fun _ t => Q t) E (x s)) : Ends (fun _ t => Q t) E ((f <$> x) s) := by
  change Ends _ _ (EStateM.map f x s)
  unfold EStateM.map
  cases hx : x s with
  | ok a t =>
    rw [hx] at h
    exact h
  | error e t =>
    rw [hx] at h
    exact h

/-- An operation moves its key only, an activation to a later generation; an operation that fails changes nothing. -/
theorem run_ends (m : PluginManager) (op : ManagerOp) : Ends (fun _ m' => Moved m op.key m' ∧
        (op.activates = true → generationOf (OrdMap.get m.instances op.key) < generationOf (OrdMap.get m'.instances op.key)))
      (fun _ m' => m' = m) (op.run m) := by
  cases op with
  | discover pluginId projectId digest =>
    exact ends_map _ ((discover_ends pluginId projectId digest m).mono (fun _ _ h => ⟨h, nofun⟩)
      fun _ _ h => h)
  | enable projectId pluginId host =>
    exact ends_map _ ((enable_ends projectId pluginId host m).mono (fun _ _ h => ⟨h.1, fun _ => h.2⟩) fun _ _ h => h)
  | disable projectId pluginId =>
    exact ends_map _ ((disable_ends projectId pluginId m).mono (fun _ _ h => ⟨h, nofun⟩) fun _ _ h => h)
  | markCrashed projectId pluginId reason =>
    exact ends_map _ ((markCrashed_ends projectId pluginId reason m).mono (fun _ _ h => ⟨h, nofun⟩)
      fun _ _ h => h)
  | replace projectId pluginId expectedOld candidate host =>
    exact ends_map _ ((replace_ends projectId pluginId expectedOld candidate host m).mono
      (fun _ _ h => ⟨h.1, fun _ => h.2⟩) fun _ _ h => h)
  | rejectUpdate projectId pluginId =>
    exact ends_map _ ((rejectUpdate_ends projectId pluginId m).mono (fun _ _ h => ⟨h, nofun⟩)
      fun _ _ h => h)

theorem moved_or_same (m : PluginManager) (op : ManagerOp) : Moved m op.key (m.step op) ∨ m.step op = m := by
  have hends := run_ends m op
  unfold step
  cases hrun : op.run m with
  | ok answer m' =>
    rw [hrun] at hends
    exact Or.inl hends.1
  | error e m' =>
    rw [hrun] at hends
    exact Or.inr hends

theorem opSound (m : PluginManager) (op : ManagerOp) : OpSound m op := by
  refine ⟨?_, ?_, ?_⟩
  · intro hactivates answer m' hrun
    have hends := run_ends m op
    rw [hrun] at hends
    exact hends.2 hactivates
  · intro key hkey
    rcases moved_or_same m op with ⟨v, -, hview⟩ | hsame
    · have hother := hview key
      rw [if_neg fun h => hkey h.symm] at hother
      exact ⟨congrArg KeyView.instance? hother, congrArg KeyView.accepted hother, congrArg KeyView.pending hother⟩
    · rw [hsame]
      exact ⟨rfl, rfl, rfl⟩
  · intro e m' hrun
    have hends := run_ends m op
    rw [hrun] at hends
    exact hends

/-! ## A run -/

theorem viewSound_step {m : PluginManager} (h : ∀ key, ViewSound (view m key)) (op : ManagerOp) (key : PluginKey) :
    ViewSound (view (m.step op) key) := by
  rcases moved_or_same m op with ⟨v, hmove, hview⟩ | hsame
  · rw [hview]
    split
    · exact (h op.key).move hmove
    · exact h key
  · rw [hsame]
    exact h key

theorem viewSound_new (key : PluginKey) : ViewSound (view .new key) := by
  refine ⟨?_, ?_, ?_⟩
  · rintro _ ⟨⟩
  · rintro _ ⟨⟩
  · rintro _ ⟨⟩

theorem managerSound_of_views {m : PluginManager} (h : ∀ key, ViewSound (view m key)) : ManagerSound m :=
  ⟨fun key => (h key).active_iff, fun key => (h key).accepted, fun key => (h key).pending⟩

end ManagerAux

/-! ## The theorem -/

/-- After any operations, the active instances are those with a host, with the digest that was accepted, and no pending update is
for the digest that is there already; and whatever operation comes next, it touches its own key only, a success of an activation
has a later generation, and an error changes nothing. -/
theorem plugin_manager_sound (trace : List ManagerOp) : ManagerSound (Run.after PluginManager.step .new trace) ∧
      ∀ op, OpSound (Run.after PluginManager.step .new trace) op := by
  refine ⟨ManagerAux.managerSound_of_views ?_, fun op => ManagerAux.opSound _ op⟩
  exact Run.invariant (I := fun m => ∀ key, ManagerAux.ViewSound (ManagerAux.view m key))
    (fun m op h => ManagerAux.viewSound_step h op) trace ManagerAux.viewSound_new

end Rho
