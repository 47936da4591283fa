import Rho.Store.PluginJournal

/-!
# Transitions over every interleaving

Two properties of the lifecycle journal. Whatever the connections do in whatever order, a plugin has one open transition at most, the
phases of a transition only go up, and a transition that is over stays as it is: an advance that waits writes the row only while
it still has the phase that was read. The state row of a plugin names its open transition as long as no package is restored while
one is open; `complete_restore` clears the name without asking.
-/

namespace Rho.PluginLifecycle

open Table LifecycleDb Fallible PluginState Journal

/-! ## What a step can do -/

/-- Every state row is still there and names the transition it named. -/
def KeepsTransitionIds (db db' : LifecycleDb) : Prop :=
  ∀ k s, db.states.get k = some s → ∃ s', db'.states.get k = some s' ∧ s'.transitionId = s.transitionId

/-- How an operation changes the transitions and the names of them in the state rows; `cleared` is the plugin it restores. -/
inductive JournalMove (cleared : Option (String × String)) (db : LifecycleDb) : LifecycleDb → Prop
  | kept (db' : LifecycleDb) (htransitions : db'.transitions = db.transitions) (hstates : KeepsTransitionIds db db') :
      JournalMove cleared db db'
  | requested (db' : LifecycleDb) (t : Transition) (hphase : t.phase = .requested) (hstatus : t.status = .pending)
      (hfree : db.openTransition t.projectRoot t.pluginId = none) (hinsert : db.transitions.insert t = some db'.transitions)
      (hnamed : ∃ s, db'.getState t.projectRoot t.pluginId = some s ∧ s.transitionId = some t.transitionId)
      (hothers : ∀ k, k ≠ (t.projectRoot, t.pluginId) → db'.states.get k = db.states.get k) : JournalMove cleared db db'
  | moved (db' : LifecycleDb) (t t' : Transition) (hget : db.transitions.get t.transitionId = some t)
      (hroot : t'.projectRoot = t.projectRoot) (hplugin : t'.pluginId = t.pluginId) (hid : t'.transitionId = t.transitionId)
      (hrank : t.phase.rank < t'.phase.rank) (hterminal : t'.status.isTerminal = true ↔ t'.phase = .completed)
      (hrows : ∀ id, db'.transitions.get id = if id = t.transitionId then some t' else db.transitions.get id)
      (hstates : KeepsTransitionIds db db') : JournalMove cleared db db'
  | restored (db' : LifecycleDb) (root pluginId : String) (hcleared : cleared = some (root, pluginId))
      (htransitions : db'.transitions = db.transitions)
      (hothers : ∀ k, k ≠ (root, pluginId) → db'.states.get k = db.states.get k) : JournalMove cleared db db'

/-- An operation that writes state rows only and leaves the name of the transition in each. -/
structure Quiet (db db' : LifecycleDb) : Prop where
  transitions : db'.transitions = db.transitions
  tombstones : db'.tombstones = db.tombstones
  states : KeepsTransitionIds db db'

section Moves

variable {db db' : LifecycleDb} {cleared : Option (String × String)}

theorem KeepsTransitionIds.of_eq (h : db'.states = db.states) : KeepsTransitionIds db db' := by
  intro k s hget
  exact ⟨s, by rw [h, hget], rfl⟩

variable {f : PluginState → PluginState} {root pluginId id : String} {t : Transition} {α : Type}

theorem keepsTransitionIds_editState (root pluginId : String) (hf : ∀ s, (f s).key = s.key)
    (hname : ∀ s, (f s).transitionId = s.transitionId) : KeepsTransitionIds db (db.editState root pluginId f hf) := by
  intro k s hget
  have hedit := get_update_key db.states (root, pluginId) f hf k
  by_cases hk : k = (root, pluginId)
  · refine ⟨f s, ?_, hname s⟩
    rw [editState, hedit, if_pos hk, hget]
    rfl
  · refine ⟨s, ?_, rfl⟩
    rw [editState, hedit, if_neg hk, hget]

theorem get_editState_of_ne (hf : ∀ s, (f s).key = s.key)
    {k : String × String} (hk : k ≠ (root, pluginId)) : (db.editState root pluginId f hf).states.get k = db.states.get k := by
  rw [editState, get_update_key, if_neg hk]

theorem getState_editState (hf : ∀ s, (f s).key = s.key) {s : PluginState} (hget : db.getState root pluginId = some s) :
    (db.editState root pluginId f hf).getState root pluginId = some (f s) := by
  unfold getState at hget ⊢
  rw [editState, get_update_key, if_pos rfl, hget]
  rfl

theorem get_of_getTransition (h : db.getTransition root id = some t) :
    db.transitions.get id = some t ∧ t.projectRoot = root ∧ t.transitionId = id := by
  obtain ⟨hget, hroot⟩ := Option.filter_eq_some_iff.mp h
  exact ⟨hget, of_decide_eq_true hroot, key_of_get hget⟩

theorem required_eq_ok {message : String} {row : Option α} {a : α} (h : required message row = .ok a) :
    row = some a := by
  cases row with
  | none => cases h
  | some b =>
    cases h
    rfl

/-- An operation that writes neither transitions nor state rows. -/
theorem JournalMove.of_eq (htransitions : db'.transitions = db.transitions) (hstates : db'.states = db.states) :
    JournalMove cleared db db' := .kept db' htransitions (KeepsTransitionIds.of_eq hstates)

theorem JournalMove.refl (db : LifecycleDb) {cleared : Option (String × String)} : JournalMove cleared db db := .of_eq rfl rfl

theorem Quiet.refl (db : LifecycleDb) : Quiet db db := ⟨rfl, rfl, .of_eq rfl⟩

theorem Quiet.move (h : Quiet db db') : JournalMove cleared db db' := .kept db' h.transitions h.states

/-- An operation that changes a state row and not the transition it names. -/
theorem quiet_editState (root pluginId : String) (hf : ∀ s, (f s).key = s.key)
    (hname : ∀ s, (f s).transitionId = s.transitionId) (eventType : EventType) (now : String) :
    Quiet db ((db.editState root pluginId f hf).record root pluginId eventType now) :=
  ⟨rfl, rfl, keepsTransitionIds_editState root pluginId hf hname⟩

theorem move_commit {x : Except String (α × LifecycleDb)} (h : ∀ r db', x = .ok (r, db') → JournalMove cleared db db') :
    JournalMove cleared db (commit db x) := by
  match x with
  | .error _ => exact .refl db
  | .ok (r, db') => exact h r db' rfl

/-- Completing a transition together with the state row moves it to the last phase. -/
theorem move_finished (hf : ∀ s, (f s).key = s.key)
    (hname : ∀ s, (f s).transitionId = s.transitionId) (reasonCode : Option String) (now : String) {kept : LifecycleDb}
    (htransitions : kept.transitions = db.transitions) (hstates : kept.states = db.states)
    (hget : db.getTransition root id = some t) (hphase : t.phase.rank < Phase.completed.rank) :
    JournalMove cleared db (((kept.editTransition id (Transition.finished reasonCode now)
      (Transition.finished_transitionId reasonCode now)).editState root pluginId f hf).record root pluginId
      .transitionCompleted now) := by
  obtain ⟨hget, hroot, hid⟩ := get_of_getTransition hget
  subst hid
  refine .moved _ t (t.finished reasonCode now) hget rfl rfl rfl hphase (by simp [Transition.finished, Status.isTerminal]) ?_ ?_
  · intro id
    simp only [record, editState, editTransition, get_update_key, htransitions]
    by_cases hid : id = t.transitionId
    · rw [if_pos hid, if_pos hid, hid, hget]
      rfl
    · rw [if_neg hid, if_neg hid]
  · intro k s hs
    exact keepsTransitionIds_editState root pluginId hf hname k s (by
      show kept.states.get k = some s
      rw [hstates, hs])

end Moves

/-! ## The operations -/

section Operations

variable {db db' : LifecycleDb} {cleared : Option (String × String)} {now : String}

theorem quiet_upsertDiscovered {draft : DiscoveredDraft} {semver : Bool} {r : Outcome × PluginState}
    (h : db.upsertDiscovered draft semver now = .ok (r, db')) : Quiet db db' := by
  unfold upsertDiscovered at h
  obtain ⟨d, -, h⟩ := bind_eq_ok h
  split at h
  · split at h
    · cases h
      exact .refl db
    · cases h
      exact quiet_editState d.projectRoot d.pluginId (discovered_key d) (fun _ => rfl) .discovery now
  · split at h
    · cases h
    · rename_i states hinsert
      cases h
      refine ⟨rfl, rfl, ?_⟩
      intro k s hget
      exact ⟨s, get_insert_of_get hinsert hget, rfl⟩

variable {r : RequestResult} {root pluginId transitionId hostSessionId : String} {draft : PurgeDraft}
  {reasonCode tombstoneId : String} {d : AdvanceDraft} {o : Outcome}

theorem move_requestTransition {draft : TransitionDraft}
    (h : db.requestTransition draft now = .ok (r, db')) : JournalMove cleared db db' := by
  unfold requestTransition at h
  obtain ⟨d, -, h⟩ := bind_eq_ok h
  split at h
  · obtain ⟨state, -, h⟩ := bind_eq_ok h
    split at h
    · cases h
      exact .refl db
    · cases h
  · obtain ⟨state, hstate, h⟩ := bind_eq_ok h
    have hstate := required_eq_ok hstate
    split at h
    · cases h
      exact .refl db
    split at h
    · cases h
      exact .refl db
    rename_i hopen
    have hfree : db.openTransition d.projectRoot d.pluginId = none := by simpa using hopen
    split at h
    · cases h
    · rename_i transitions hinsert
      cases h
      refine .requested _ (d.transition now) rfl rfl hfree hinsert ⟨state.requested d, ?_, rfl⟩ ?_
      · exact getState_editState (requested_key d) hstate
      · intro k hk
        exact get_editState_of_ne (requested_key d) hk

theorem quiet_allocateGeneration {expected : Int} {r : GenerationAllocation}
    (h : db.allocateGeneration root pluginId transitionId expected = .ok (r, db')) : Quiet db db' := by
  unfold allocateGeneration at h
  obtain ⟨root, -, h⟩ := bind_eq_ok h
  obtain ⟨pluginId, -, h⟩ := bind_eq_ok h
  obtain ⟨transitionId, -, h⟩ := bind_eq_ok h
  split at h
  · cases h
  split at h
  · cases h
    exact .refl db
  split at h
  · cases h
    exact ⟨rfl, rfl, keepsTransitionIds_editState root pluginId (allocated_key (expected + 1)) (fun _ => rfl)⟩
  · cases h
    exact .refl db

/-- Keeping a tombstone writes the tombstones only. -/
theorem keepTombstone_eq {d : TombstoneDraft} {tombstone : Tombstone} (h : db.keepTombstone d now = .ok (tombstone, db')) :
    db'.transitions = db.transitions ∧ db'.states = db.states := by
  unfold keepTombstone at h
  split at h
  · obtain ⟨⟨⟩, -, h⟩ := bind_eq_ok h
    cases h
    exact ⟨rfl, rfl⟩
  split at h
  · cases h
  split at h
  · cases h
  · cases h
    exact ⟨rfl, rfl⟩

theorem move_completeUninstall {draft : TombstoneDraft} {r : UninstallCompletion}
    (h : db.completeUninstall transitionId draft now = .ok (r, db')) : JournalMove cleared db db' := by
  unfold completeUninstall at h
  obtain ⟨id, -, h⟩ := bind_eq_ok h
  obtain ⟨d, -, h⟩ := bind_eq_ok h
  obtain ⟨t, ht, h⟩ := bind_eq_ok h
  obtain ⟨state, -, h⟩ := bind_eq_ok h
  split at h
  · cases h
  split at h
  · obtain ⟨tombstone, -, h⟩ := bind_eq_ok h
    obtain ⟨⟨⟩, -, h⟩ := bind_eq_ok h
    cases h
    exact .refl db
  split at h
  · cases h
    exact .refl db
  · rename_i hmoved
    obtain ⟨hphase, -⟩ := not_or.mp hmoved
    obtain ⟨⟨tombstone, kept⟩, hkept, h⟩ := bind_eq_ok h
    obtain ⟨htransitions, hstates⟩ := keepTombstone_eq hkept
    cases h
    refine move_finished uninstalled_key (fun _ => rfl) _ now htransitions hstates (required_eq_ok ht) ?_
    rw [not_not.mp hphase]
    decide

theorem move_completeReplacement
    (h : db.completeReplacement root transitionId hostSessionId now = .ok (r, db')) : JournalMove cleared db db' := by
  unfold completeReplacement at h
  obtain ⟨root, -, h⟩ := bind_eq_ok h
  obtain ⟨id, -, h⟩ := bind_eq_ok h
  obtain ⟨host, -, h⟩ := bind_eq_ok h
  obtain ⟨t, ht, h⟩ := bind_eq_ok h
  split at h
  · cases h
  obtain ⟨expectedOld, -, h⟩ := bind_eq_ok h
  obtain ⟨candidate, -, h⟩ := bind_eq_ok h
  obtain ⟨state, -, h⟩ := bind_eq_ok h
  split at h
  · cases h
    exact .refl db
  split at h
  · rename_i hexact
    cases h
    refine move_finished (replaced_key candidate expectedOld host) (fun _ => rfl) none now rfl rfl
      (required_eq_ok ht) ?_
    rw [hexact.1]
    decide
  · cases h
    exact .refl db

theorem move_expireTombstones {cutoff : Option String} {limit : Nat} {r : RetentionSweep}
    (h : db.expireTombstones root cutoff limit now = .ok (r, db')) : JournalMove cleared db db' := by
  unfold expireTombstones at h
  obtain ⟨root, -, h⟩ := bind_eq_ok h
  obtain ⟨cutoff, -, h⟩ := bind_eq_ok h
  split at h
  · cases h
  cases h
  -- each candidate edits the tombstones and adds an event
  generalize db.expiring root cutoff limit = candidates
  have hfold : ∀ start : LifecycleDb, (candidates.foldl (fun db t =>
        (db.editTombstone t.tombstoneId (Tombstone.classify .expired) (Tombstone.classify_tombstoneId .expired)).record
          root t.pluginId .recovery now) start).transitions = start.transitions ∧
      (candidates.foldl (fun db t =>
        (db.editTombstone t.tombstoneId (Tombstone.classify .expired) (Tombstone.classify_tombstoneId .expired)).record
          root t.pluginId .recovery now) start).states = start.states := by
    induction candidates with
    | nil =>
      intro start
      exact ⟨rfl, rfl⟩
    | cons t candidates ih =>
      intro start
      exact ih _
  exact .of_eq (hfold db).1 (hfold db).2

theorem move_requestPurge {r : PurgeResult} (h : db.requestPurge draft now = .ok (r, db')) : JournalMove cleared db db' := by
  unfold requestPurge at h
  obtain ⟨d, -, h⟩ := bind_eq_ok h
  obtain ⟨tombstone, -, h⟩ := bind_eq_ok h
  obtain ⟨⟨⟩, -, h⟩ := bind_eq_ok h
  split at h
  · cases h
    exact .refl db
  split at h
  · cases h
    exact .refl db
  split at h
  · cases h
    exact .refl db
  · cases h
    exact .refl db
  · cases h
    exact .of_eq rfl rfl

theorem move_completePurge {r : PurgeResult} (h : db.completePurge draft now = .ok (r, db')) : JournalMove cleared db db' := by
  unfold completePurge at h
  obtain ⟨d, -, h⟩ := bind_eq_ok h
  obtain ⟨tombstone, -, h⟩ := bind_eq_ok h
  obtain ⟨⟨⟩, -, h⟩ := bind_eq_ok h
  split at h
  · cases h
    exact .refl db
  split at h
  · cases h
    exact .refl db
  · cases h
    exact .of_eq rfl rfl

theorem quiet_recordRecoveryRequired {transitionId : Option String} {r : Outcome}
    (h : db.recordRecoveryRequired root pluginId transitionId reasonCode now = .ok (r, db')) : Quiet db db' := by
  unfold recordRecoveryRequired at h
  obtain ⟨root, -, h⟩ := bind_eq_ok h
  obtain ⟨pluginId, -, h⟩ := bind_eq_ok h
  obtain ⟨transitionId, -, h⟩ := bind_eq_ok h
  obtain ⟨reasonCode, -, h⟩ := bind_eq_ok h
  obtain ⟨state, -, h⟩ := bind_eq_ok h
  split at h
  · cases h
    exact .refl db
  split at h
  · cases h
    exact .refl db
  · obtain ⟨⟨⟩, -, h⟩ := bind_eq_ok h
    cases h
    exact quiet_editState root pluginId (failedAs_key .blocked reasonCode) (fun _ => rfl) .recovery now

theorem quiet_recordCrash {packageDigest cutoff : String} {r : CrashOutcome}
    (h : db.recordCrash root pluginId packageDigest hostSessionId reasonCode now cutoff = .ok (r, db')) :
    Quiet db db' := by
  unfold recordCrash at h
  obtain ⟨root, -, h⟩ := bind_eq_ok h
  obtain ⟨pluginId, -, h⟩ := bind_eq_ok h
  obtain ⟨packageDigest, -, h⟩ := bind_eq_ok h
  obtain ⟨host, -, h⟩ := bind_eq_ok h
  obtain ⟨reasonCode, -, h⟩ := bind_eq_ok h
  obtain ⟨state, -, h⟩ := bind_eq_ok h
  split at h
  · cases h
    exact .refl db
  · cases h
    exact quiet_editState root pluginId (failedAs_key _ _) (fun _ => rfl) .hostQuarantined now

/-! ### Restoring -/

/-- What `complete_restore` asks of a tombstone and of the state row before it writes them. -/
def restores (tombstone : Tombstone) (state : PluginState) : Bool :=
  tombstone.deletedAt.isNone && tombstone.restoredAt.isNone && tombstone.retentionClass == .recoverable &&
    state.directoryName == tombstone.originalDirectoryName && state.acceptedDigest == some tombstone.packageDigest &&
    state.desiredState == .uninstalled && state.observedState == .uninstalled

/-- A restore writes nothing, or it clears the state row of the tombstone's plugin. -/
theorem completeRestore_cases {r : RestoreCompletion} (h : db.completeRestore root tombstoneId now = .ok (r, db')) :
    db' = db ∨ ∃ root' id tombstone state, requiredProjectRoot root = .ok root' ∧
      checkIdentifier "tombstone id" tombstoneId = .ok id ∧ db.getTombstone root' id = some tombstone ∧
      db.getState root' tombstone.pluginId = some state ∧ restores tombstone state = true ∧ db'.transitions = db.transitions ∧
      ∀ k, k ≠ (root', tombstone.pluginId) → db'.states.get k = db.states.get k := by
  unfold completeRestore at h
  obtain ⟨root', hroot, h⟩ := bind_eq_ok h
  obtain ⟨id, hid, h⟩ := bind_eq_ok h
  obtain ⟨tombstone, htombstone, h⟩ := bind_eq_ok h
  split at h
  · cases h
  rename_i hdeleted
  split at h
  · cases h
  rename_i hclass
  obtain ⟨state, hstate, h⟩ := bind_eq_ok h
  split at h
  · cases h
  rename_i hexact
  split at h
  · cases h
    exact .inl rfl
  split at h
  · cases h
    exact .inl rfl
  rename_i hready
  cases h
  refine .inr ⟨root', id, tombstone, state, hroot, hid, required_eq_ok htombstone, required_eq_ok hstate, ?_, rfl, ?_⟩
  · simp only [not_or, ne_eq, not_not, Bool.not_eq_true, Option.isSome_eq_false_iff] at hdeleted hclass hexact hready
    simp [restores, hdeleted, hclass, hexact, hready]
  · intro k hk
    exact get_editState_of_ne restored_key hk

/-- The plugin that a restore brings back. -/
def restoredPlugin (db : LifecycleDb) (root tombstoneId : String) : Option (String × String) :=
  match requiredProjectRoot root, checkIdentifier "tombstone id" tombstoneId with
  | .ok root, .ok id =>
    (db.getTombstone root id).bind (fun tombstone =>
      if (db.getState root tombstone.pluginId).any (restores tombstone) then some (root, tombstone.pluginId) else none)
  | _, _ => none

theorem move_completeRestore {r : RestoreCompletion}
    (h : db.completeRestore root tombstoneId now = .ok (r, db')) : JournalMove (restoredPlugin db root tombstoneId) db db' := by
  rcases completeRestore_cases h with hsame | ⟨root', id, tombstone, state, hroot, hid, htombstone, hstate, hrestores,
    htransitions, hothers⟩
  · rw [hsame]
    exact .refl db
  · refine .restored db' root' tombstone.pluginId ?_ htransitions hothers
    have hread : restoredPlugin db root tombstoneId = ((db.getTombstone root' id).bind fun tombstone =>
        if (db.getState root' tombstone.pluginId).any (restores tombstone) then some (root', tombstone.pluginId) else none) := by
      delta restoredPlugin
      rw [hroot, hid]
    rw [hread, htombstone, Option.bind_some, hstate, Option.any_some, if_pos hrestores]

/-! ### Advancing -/

/-- What holds of an advance that has passed its read. -/
def Passed (d : AdvanceDraft) : Prop :=
  d.expectedPhase.rank < d.nextPhase.rank ∧ (d.status.isTerminal = true ↔ d.nextPhase = .completed)

theorem validateTransitionAdvance_terminal {draft : AdvanceDraft} (h : validateTransitionAdvance draft = .ok d) :
    d.status.isTerminal = true ↔ d.nextPhase = .completed := by
  unfold validateTransitionAdvance at h
  obtain ⟨root, -, h⟩ := bind_eq_ok h
  obtain ⟨id, -, h⟩ := bind_eq_ok h
  split at h
  · cases h
  rename_i hterminal
  obtain ⟨reasonCode, -, h⟩ := bind_eq_ok h
  obtain ⟨lastErrorCode, -, h⟩ := bind_eq_ok h
  obtain ⟨lastHostSessionId, -, h⟩ := bind_eq_ok h
  obtain ⟨acceptedDigest, -, h⟩ := bind_eq_ok h
  obtain ⟨pendingDigest, -, h⟩ := bind_eq_ok h
  obtain ⟨rollbackDigest, -, h⟩ := bind_eq_ok h
  obtain ⟨detailsJson, -, h⟩ := bind_eq_ok h
  cases h
  show draft.status.isTerminal = true ↔ draft.nextPhase = .completed
  rw [not_not.mp hterminal, decide_eq_true_iff]

theorem readAdvance_passed {draft : AdvanceDraft} (h : db.readAdvance draft = .ok (.inr d)) : Passed d := by
  unfold readAdvance at h
  obtain ⟨d', hd', h⟩ := bind_eq_ok h
  have hterminal := validateTransitionAdvance_terminal hd'
  obtain ⟨current, -, h⟩ := bind_eq_ok h
  split at h
  · cases h
  split at h
  · cases h
  split at h
  · cases h
  rename_i hfresh
  cases h
  obtain ⟨hphase, hfresh⟩ := not_or.mp hfresh
  obtain ⟨hrank, -⟩ := not_or.mp hfresh
  refine ⟨?_, hterminal⟩
  rw [← not_not.mp hphase]
  omega

/-- A write that is applied finds the row in the phase that was expected and moves it to the next. -/
theorem writeAdvance_cases (h : db.writeAdvance d now = .ok (o, db')) : (o = .stale ∧ db' = db) ∨
      (o = .applied ∧ ∃ t, db.getTransition d.projectRoot d.transitionId = some t ∧ t.phase = d.expectedPhase ∧
        (∀ id, db'.transitions.get id = if id = t.transitionId then some (t.advanced d now) else db.transitions.get id) ∧
        KeepsTransitionIds db db') := by
  unfold writeAdvance at h
  split at h
  · cases h
    exact .inl ⟨rfl, rfl⟩
  rename_i hchanged
  have hselects : ∀ t, advances d t = true →
      t.projectRoot = d.projectRoot ∧ t.transitionId = d.transitionId ∧ t.phase = d.expectedPhase := by
    intro t ht
    simpa [advances, and_assoc] using ht
  obtain ⟨t, hget, ht⟩ := (changed_eq_one_iff db.transitions (advances d) d.transitionId
    (fun t ht => (hselects t ht).2.1)).mp (not_not.mp hchanged)
  obtain ⟨hroot, hid, hphase⟩ := hselects t ht
  dsimp only at h
  split at h
  · cases h
  · rename_i written hwritten
    obtain ⟨details, -, h⟩ := bind_eq_ok h
    cases h
    refine .inr ⟨rfl, t, ?_, hphase, ?_, ?_⟩
    · exact Option.filter_eq_some_iff.mpr ⟨hget, decide_eq_true hroot⟩
    · intro id
      simp only [record, editState]
      by_cases hsame : id = t.transitionId
      · rw [if_pos hsame, hsame, hid]
        exact get_update_of_pos _ hget ht
      · rw [if_neg hsame]
        cases hother : db.transitions.get id with
        | none => rw [get_update, hother, Option.map_none]
        | some u =>
          refine get_update_of_not _ hother (Bool.eq_false_iff.mpr ?_)
          intro hu
          exact hsame ((key_of_get hother).symm.trans ((hselects u hu).2.1.trans hid.symm))
    · exact keepsTransitionIds_editState d.projectRoot written.pluginId (advanced_key d) (fun _ => rfl)

theorem move_writeAdvance (hpassed : Passed d) (h : db.writeAdvance d now = .ok (o, db')) : JournalMove cleared db db' := by
  rcases writeAdvance_cases h with ⟨-, hsame⟩ | ⟨-, t, hget, hphase, hrows, hstates⟩
  · rw [hsame]
    exact .refl db
  · obtain ⟨hget, -, hid⟩ := get_of_getTransition hget
    rw [← hid] at hget
    refine .moved db' t (t.advanced d now) hget rfl rfl rfl ?_ hpassed.2 hrows hstates
    rw [hphase]
    exact hpassed.1

end Operations

/-! ## The transitions of every run -/

/-- Every advance on its way has passed its read. -/
def Journal.AllPassed (s : Journal) : Prop := ∀ connection d, s.pending connection = some d → Passed d

variable {s : Journal} {t : Transition} {id : String}

theorem allPassed_step (hpassed : s.AllPassed) (l : JournalStep) : (s.step l).AllPassed := by
  -- only a read puts an advance on its way
  have hupdate : ∀ (connection : Nat) (next : Option AdvanceDraft), (∀ d, next = some d → Passed d) →
      ∀ c d, Function.update s.pending connection next c = some d → Passed d := by
    intro connection next hnext c d hd
    by_cases hc : c = connection
    · subst hc
      rw [Function.update_self] at hd
      exact hnext d hd
    · rw [Function.update_of_ne hc] at hd
      exact hpassed c d hd
  cases l with
  | readAdvance connection draft =>
    intro c d hd
    delta Journal.step Journal.stepPending at hd
    dsimp only at hd
    match hread : s.db.readAdvance draft with
    | .ok (.inr passed) =>
      rw [hread] at hd
      refine hupdate connection (some passed) ?_ c d hd
      intro d' hd'
      cases hd'
      exact readAdvance_passed hread
    | .ok (.inl _) =>
      rw [hread] at hd
      exact hupdate connection none (fun _ h => by cases h) c d hd
    | .error _ =>
      rw [hread] at hd
      exact hupdate connection none (fun _ h => by cases h) c d hd
  | writeAdvance connection now => exact fun c d hd => hupdate connection none (fun _ h => by cases h) c d hd
  | _ => exact fun c d hd => hpassed c d hd

/-- The plugin whose state row a step clears. -/
def Journal.clears (s : Journal) : JournalStep → Option (String × String)
  | .completeRestore root tombstoneId _ => restoredPlugin s.db root tombstoneId
  | _ => none

theorem move_step (hpassed : s.AllPassed) (l : JournalStep) : JournalMove (s.clears l) s.db (s.step l).db := by
  simp only [step]
  cases l with
  | discover draft semver now =>
    simp only [stepDb]
    exact move_commit (fun _ _ hx => (quiet_upsertDiscovered hx).move)
  | request draft now =>
    simp only [stepDb]
    exact move_commit (fun _ _ => move_requestTransition)
  | readAdvance connection draft =>
    simp only [stepDb]
    exact .refl s.db
  | writeAdvance connection now =>
    simp only [stepDb]
    cases hd : s.pending connection with
    | none => exact .refl s.db
    | some d => exact move_commit (fun _ _ => move_writeAdvance (hpassed connection d hd))
  | allocate root pluginId transitionId expected =>
    simp only [stepDb]
    exact move_commit (fun _ _ hx => (quiet_allocateGeneration hx).move)
  | completeUninstall transitionId draft now =>
    simp only [stepDb]
    exact move_commit (fun _ _ => move_completeUninstall)
  | completeRestore root tombstoneId now =>
    simp only [stepDb]
    exact move_commit (fun _ _ => move_completeRestore)
  | expire root cutoff limit now =>
    simp only [stepDb]
    exact move_commit (fun _ _ => move_expireTombstones)
  | requestPurge draft now =>
    simp only [stepDb]
    exact move_commit (fun _ _ => move_requestPurge)
  | completePurge draft now =>
    simp only [stepDb]
    exact move_commit (fun _ _ => move_completePurge)
  | completeReplacement root transitionId hostSessionId now =>
    simp only [stepDb]
    exact move_commit (fun _ _ => move_completeReplacement)
  | recoveryRequired root pluginId transitionId reasonCode now =>
    simp only [stepDb]
    exact move_commit (fun _ _ hx => (quiet_recordRecoveryRequired hx).move)
  | crash root pluginId packageDigest hostSessionId reasonCode now cutoff =>
    simp only [stepDb]
    exact move_commit (fun _ _ hx => (quiet_recordCrash hx).move)

/-- What the rows of the transitions keep. -/
structure RowsSound (db : LifecycleDb) : Prop where
  terminal : ∀ id t, db.transitions.get id = some t → (t.status.isTerminal = true ↔ t.phase = .completed)
  single : ∀ id id' t t', db.transitions.get id = some t → db.transitions.get id' = some t' → t.isOpen = true →
    t'.isOpen = true → t.projectRoot = t'.projectRoot → t.pluginId = t'.pluginId → id = id'

/-- A row that is below the last phase is open. -/
theorem isOpen_of_rank {t' : Transition} (hterminal : t.status.isTerminal = true ↔ t.phase = .completed)
    (hrank : t.phase.rank < t'.phase.rank) : t.isOpen = true := by
  have hlast : t'.phase.rank ≤ Phase.completed.rank := by cases t'.phase <;> decide
  have hphase : t.phase ≠ .completed := by
    intro heq
    rw [heq] at hrank
    omega
  simpa [Transition.isOpen] using fun h => hphase (hterminal.mp h)

theorem not_open_of_openTransition {db : LifecycleDb} {root pluginId : String} (hfree : db.openTransition root pluginId = none)
    (hget : db.transitions.get id = some t) (hopen : t.isOpen = true) : ¬ (root = t.projectRoot ∧ pluginId = t.pluginId) := by
  intro hsame
  have hnone := List.find?_eq_none.mp hfree t (mem_of_get hget)
  simp [hsame.1, hsame.2, hopen] at hnone

theorem rowsSound_move {cleared : Option (String × String)} {db db' : LifecycleDb} (hsound : RowsSound db) (hmove : JournalMove cleared db db') : RowsSound db' := by
  cases hmove with
  | kept htransitions _ => exact ⟨by rw [htransitions]; exact hsound.terminal, by rw [htransitions]; exact hsound.single⟩
  | restored _ _ _ htransitions _ =>
    exact ⟨by rw [htransitions]; exact hsound.terminal, by rw [htransitions]; exact hsound.single⟩
  | requested t hphase hstatus hfree hinsert _ _ =>
    have hrows := get_insert hinsert
    constructor
    · intro id u hget
      rw [hrows] at hget
      split at hget
      · cases hget
        simp [hphase, hstatus, Status.isTerminal]
      · exact hsound.terminal id u hget
    · intro id id' u u' hget hget' hopen hopen' hroot hplugin
      rw [hrows] at hget hget'
      split at hget <;> split at hget'
      · rename_i hid hid'
        exact hid.symm.trans hid'
      · cases hget
        exact absurd ⟨hroot, hplugin⟩ (not_open_of_openTransition hfree hget' hopen')
      · cases hget'
        exact absurd ⟨hroot.symm, hplugin.symm⟩ (not_open_of_openTransition hfree hget hopen)
      · exact hsound.single id id' u u' hget hget' hopen hopen' hroot hplugin
  | moved t t' hgett hroott hplugint _ hrank hterminal hrows _ =>
    have hopent := isOpen_of_rank (hsound.terminal _ _ hgett) hrank
    constructor
    · intro id u hget
      rw [hrows] at hget
      split at hget
      · cases hget
        exact hterminal
      · exact hsound.terminal id u hget
    · intro id id' u u' hget hget' hopen hopen' hroot hplugin
      rw [hrows] at hget hget'
      split at hget <;> split at hget'
      · rename_i hid hid'
        exact hid.trans hid'.symm
      · rename_i hid _
        cases hget
        rw [hid]
        exact hsound.single _ id' t u' hgett hget' hopent hopen' (hroott.symm.trans hroot) (hplugint.symm.trans hplugin)
      · rename_i _ hid'
        cases hget'
        rw [hid']
        exact hsound.single id _ u t hget hgett hopen hopent (hroot.trans hroott) (hplugin.trans hplugint)
      · exact hsound.single id id' u u' hget hget' hopen hopen' hroot hplugin

/-- What becomes of a transition: it keeps its identity, its phase does not go down, and once it is over it is the same row. -/
def Continues (t t' : Transition) : Prop :=
  t'.transitionId = t.transitionId ∧ t'.projectRoot = t.projectRoot ∧ t'.pluginId = t.pluginId ∧
    t.phase.rank ≤ t'.phase.rank ∧ (t.status.isTerminal = true → t' = t)

theorem Continues.refl (t : Transition) : Continues t t := ⟨rfl, rfl, rfl, Nat.le_refl _, fun _ => rfl⟩

theorem Continues.trans {u v : Transition} (htu : Continues t u) (huv : Continues u v) : Continues t v := by
  obtain ⟨hid, hroot, hplugin, hrank, hover⟩ := htu
  obtain ⟨hid', hroot', hplugin', hrank', hover'⟩ := huv
  refine ⟨hid'.trans hid, hroot'.trans hroot, hplugin'.trans hplugin, Nat.le_trans hrank hrank', ?_⟩
  intro hterminal
  have hu := hover hterminal
  rw [hover' (hu.symm ▸ hterminal), hu]

theorem continues_move {cleared : Option (String × String)} {db db' : LifecycleDb} (hsound : RowsSound db)
    (hmove : JournalMove cleared db db') (hget : db.transitions.get id = some t) : ∃ t', db'.transitions.get id = some t' ∧ Continues t t' := by
  cases hmove with
  | kept htransitions _ => exact ⟨t, by rw [htransitions, hget], .refl t⟩
  | restored _ _ _ htransitions _ => exact ⟨t, by rw [htransitions, hget], .refl t⟩
  | requested u _ _ _ hinsert _ _ => exact ⟨t, get_insert_of_get hinsert hget, .refl t⟩
  | moved u u' hgetu hroot hplugin hid hrank _ hrows _ =>
    by_cases hsame : id = u.transitionId
    · rw [hsame, hgetu] at hget
      cases hget
      refine ⟨u', by rw [hrows, if_pos hsame], hid, hroot, hplugin, Nat.le_of_lt hrank, ?_⟩
      intro hterminal
      have hopen := isOpen_of_rank (hsound.terminal _ _ hgetu) hrank
      simp [Transition.isOpen, hterminal] at hopen
    · exact ⟨t, by rw [hrows, if_neg hsame, hget], .refl t⟩

/-- What every state of the journal keeps. -/
structure Journal.Sound (s : Journal) : Prop where
  rows : RowsSound s.db
  passed : s.AllPassed

theorem sound_start : start.Sound := by
  refine ⟨⟨?_, ?_⟩, ?_⟩
  · intro id t hget
    cases hget
  · intro id id' t t' hget
    cases hget
  · intro connection d hd
    cases hd

theorem sound_step (hsound : s.Sound) (l : JournalStep) : (s.step l).Sound :=
  ⟨rowsSound_move hsound.rows (move_step hsound.passed l), allPassed_step hsound.passed l⟩

theorem sound_after (trace : List JournalStep) : (Run.after step .start trace).Sound :=
  Run.invariant (I := Journal.Sound) (fun _ l h => sound_step h l) trace sound_start

theorem continues_after (hsound : s.Sound) (trace : List JournalStep) (hget : s.db.transitions.get id = some t) :
    ∃ t', (Run.after step s trace).db.transitions.get id = some t' ∧ Continues t t' := by
  induction trace generalizing s t with
  | nil => exact ⟨t, hget, .refl t⟩
  | cons l trace ih =>
    obtain ⟨u, hgetu, hu⟩ := continues_move hsound.rows (move_step hsound.passed l) hget
    obtain ⟨v, hgetv, hv⟩ := ih (sound_step hsound l) hgetu
    exact ⟨v, hgetv, hu.trans hv⟩

/-- What the journal promises of its transitions from one state on. -/
structure TransitionsSound (s : Journal) : Prop where
  /-- A plugin of a project has one open transition at most. -/
  single : ∀ t ∈ s.db.transitions.rows, ∀ t' ∈ s.db.transitions.rows, t.isOpen = true → t'.isOpen = true →
    t.projectRoot = t'.projectRoot → t.pluginId = t'.pluginId → t = t'
  /-- The status is terminal exactly in the last phase. -/
  terminal : ∀ t ∈ s.db.transitions.rows, t.status.isTerminal = true ↔ t.phase = .completed
  /-- After any further steps the row is there, in no lower phase, and unchanged when it was terminal. -/
  continues : ∀ t ∈ s.db.transitions.rows, ∀ rest : List JournalStep,
    ∃ t' ∈ (Run.after Journal.step s rest).db.transitions.rows, Continues t t'
  /-- An advance that is applied raises the phase. -/
  rises : ∀ connection d now db', s.pending connection = some d → s.db.writeAdvance d now = .ok (.applied, db') →
    ∃ t t', s.db.getTransition d.projectRoot d.transitionId = some t ∧
      db'.getTransition d.projectRoot d.transitionId = some t' ∧ t.phase.rank < t'.phase.rank

/-- In every state that any interleaving of the operations reaches, the journal keeps its promises. -/
theorem transitions_sound (trace : List JournalStep) : TransitionsSound (Run.after Journal.step .start trace) := by
  have hsound := sound_after trace
  refine ⟨?_, ?_, ?_, ?_⟩
  · intro t ht t' ht' hopen hopen' hroot hplugin
    have hget := Table.get_of_mem ht
    have hget' := Table.get_of_mem ht'
    have hid := hsound.rows.single _ _ t t' hget hget' hopen hopen' hroot hplugin
    rw [hid, hget'] at hget
    exact (Option.some.inj hget).symm
  · intro t ht
    exact hsound.rows.terminal _ t (Table.get_of_mem ht)
  · intro t ht rest
    obtain ⟨t', hget', hcontinues⟩ := continues_after hsound rest (Table.get_of_mem ht)
    exact ⟨t', Table.mem_of_get hget', hcontinues⟩
  · intro connection d now db' hd hwrite
    rcases writeAdvance_cases hwrite with ⟨hstale, -⟩ | ⟨-, t, hget, hphase, hrows, -⟩
    · cases hstale
    · obtain ⟨-, hroot, hid⟩ := get_of_getTransition hget
      refine ⟨t, t.advanced d now, hget, ?_, ?_⟩
      · exact Option.filter_eq_some_iff.mpr ⟨by rw [hrows, if_pos hid.symm], decide_eq_true hroot⟩
      · rw [hphase]
        exact (hsound.passed connection d hd).1

/-! ## The name of the open transition -/

/-- The state row of a plugin names its open transition. -/
def OpenNamed (db : LifecycleDb) : Prop :=
  ∀ t ∈ db.transitions.rows, t.isOpen = true →
    ∃ state ∈ db.getState t.projectRoot t.pluginId, state.transitionId = some t.transitionId

instance (db : LifecycleDb) : Decidable (OpenNamed db) :=
  inferInstanceAs (Decidable (∀ t ∈ db.transitions.rows, t.isOpen = true →
    ∃ state ∈ db.getState t.projectRoot t.pluginId, state.transitionId = some t.transitionId))

/-- The step restores no plugin that has an open transition. -/
def Journal.restoreSpares (s : Journal) (l : JournalStep) : Bool :=
  (s.clears l).all (fun k => (s.db.openTransition k.1 k.2).isNone)

theorem openNamed_move {cleared : Option (String × String)} {db db' : LifecycleDb} (hsound : RowsSound db) (hnamed : OpenNamed db)
    (hmove : JournalMove cleared db db')
    (hspares : ∀ root pluginId, cleared = some (root, pluginId) → db.openTransition root pluginId = none) :
    OpenNamed db' := by
  -- a transition that was open before is named by a row that keeps the name
  have hkept : KeepsTransitionIds db db' → ∀ t ∈ db.transitions.rows, t.isOpen = true →
      ∃ state, db'.getState t.projectRoot t.pluginId = some state ∧ state.transitionId = some t.transitionId := by
    intro hstates t ht hopen
    obtain ⟨state, hstate, hname⟩ := hnamed t ht hopen
    obtain ⟨state', hstate', hname'⟩ := hstates _ state hstate
    exact ⟨state', hstate', hname'.trans hname⟩
  cases hmove with
  | kept htransitions hstates =>
    intro t ht hopen
    rw [htransitions] at ht
    exact hkept hstates t ht hopen
  | requested u hphase hstatus hfree hinsert hnew hothers =>
    intro t ht hopen
    have hget := get_of_mem ht
    rw [get_insert hinsert] at hget
    split at hget
    · cases hget
      exact hnew
    · have hother := not_open_of_openTransition hfree hget hopen
      obtain ⟨state, hstate, hname⟩ := hnamed t (mem_of_get hget) hopen
      refine ⟨state, ?_, hname⟩
      rw [getState, hothers _ (fun hk => hother ⟨(Prod.mk.inj hk).1.symm, (Prod.mk.inj hk).2.symm⟩)]
      exact hstate
  | moved u u' hgetu hroot hplugin hid hrank hterminal hrows hstates =>
    intro t ht hopen
    have hget := get_of_mem ht
    rw [hrows] at hget
    split at hget
    · cases hget
      rw [hroot, hplugin, hid]
      exact hkept hstates u (mem_of_get hgetu) (isOpen_of_rank (hsound.terminal _ _ hgetu) hrank)
    · exact hkept hstates t (mem_of_get hget) hopen
  | restored root pluginId hcleared htransitions hothers =>
    intro t ht hopen
    rw [htransitions] at ht
    have hother := not_open_of_openTransition (hspares root pluginId hcleared) (get_of_mem ht) hopen
    obtain ⟨state, hstate, hname⟩ := hnamed t ht hopen
    refine ⟨state, ?_, hname⟩
    rw [getState, hothers _ (fun hk => hother ⟨(Prod.mk.inj hk).1.symm, (Prod.mk.inj hk).2.symm⟩)]
    exact hstate

theorem openNamed_step {l : JournalStep} (hsound : s.Sound) (hnamed : OpenNamed s.db)
    (hspares : s.restoreSpares l = true) : OpenNamed (s.step l).db := by
  refine openNamed_move hsound.rows hnamed (move_step hsound.passed l) ?_
  intro root pluginId hcleared
  rw [restoreSpares, hcleared] at hspares
  exact Option.isNone_iff_eq_none.mp hspares

/-- In every state of a run that restores no plugin with an open transition, the state rows name the open transitions. -/
theorem open_transition_named {trace : List JournalStep}
    (hspares : Run.Along Journal.step (fun s l => s.restoreSpares l = true) .start trace) {before rest : List JournalStep}
    (htrace : trace = before ++ rest) : OpenNamed (Run.after Journal.step .start before).db := by
  rw [htrace, Run.along_append] at hspares
  have hboth : ∀ (s : Journal) (l : JournalStep), s.Sound ∧ OpenNamed s.db → s.restoreSpares l = true → (s.step l).Sound ∧ OpenNamed (s.step l).db :=
    fun s l h hl => ⟨sound_step h.1 l, openNamed_step h.1 h.2 hl⟩
  have hstart : OpenNamed Journal.start.db := by
    intro t ht
    cases ht
  exact (Run.invariant_along (I := fun s => s.Sound ∧ OpenNamed s.db) hboth ⟨sound_start, hstart⟩ hspares.1).2

/-! A plugin is enabled, uninstalled and restored, in two orders. -/

def sampleDigest : String := String.ofList (List.replicate 64 'a')

def sampleRequest (transitionId : String) (kind : Kind) (desiredState : DesiredState) (expectedOld candidate backup : Option String) :
    TransitionDraft :=
  { transitionId := transitionId, projectRoot := "/project", pluginId := "plugin", kind := kind,
    requestEventType := .userRequested, desiredState := desiredState, expectedOldDigest := expectedOld,
    candidateDigest := candidate, rollbackDigest := none, backupPathKey := backup }

def sampleAdvance (transitionId : String) (nextPhase : Phase) (status : Status) (observedState : ObservedState)
    (accepted : Option String) : AdvanceDraft :=
  { projectRoot := "/project", transitionId := transitionId, expectedPhase := .requested, nextPhase := nextPhase,
    status := status, observedState := observedState, acceptedDigest := accepted, pendingDigest := none,
    rollbackDigest := none, clearPendingDigest := true, lastHostSessionId := none, lastErrorCode := none, reasonCode := none,
    eventType := .recovery, detailsJson := "\x7b\x7d" }

def sampleTombstone : TombstoneDraft :=
  { tombstoneId := "tombstone", projectRoot := "/project", pluginId := "plugin", packageDigest := sampleDigest,
    backupPathKey := "backup", originalDirectoryName := "plugin", retentionClass := .recoverable, reasonCode := "user_uninstall" }

/-- The plugin is discovered, enabled and uninstalled. -/
def sampleUninstall : List JournalStep :=
  [.discover ⟨"/project", "plugin", "plugin", "1.0.0", sampleDigest⟩ true "0",
   .request (sampleRequest "enable" .enable .enabled none (some sampleDigest) none) "1",
   .readAdvance 0 (sampleAdvance "enable" .completed .completed .active (some sampleDigest)), .writeAdvance 0 "2",
   .request (sampleRequest "uninstall" .uninstall .uninstalled (some sampleDigest) none (some "backup")) "3",
   .readAdvance 0 (sampleAdvance "uninstall" .packageMoved .running .disposing none), .writeAdvance 0 "4",
   .completeUninstall "uninstall" sampleTombstone "5"]

/-- Restored before it is uninstalled again, the plugin has an open transition that its row names. -/
theorem open_transition_named_sample :
    (Run.after Journal.step .start (sampleUninstall ++ [.completeRestore "/project" "tombstone" "6",
      .request (sampleRequest "again" .uninstall .uninstalled (some sampleDigest) none (some "other")) "7"])).db.openTransition
        "/project" "plugin" ≠ none ∧
    OpenNamed (Run.after Journal.step .start (sampleUninstall ++ [.completeRestore "/project" "tombstone" "6",
      .request (sampleRequest "again" .uninstall .uninstalled (some sampleDigest) none (some "other")) "7"])).db :=
  ⟨by decide +kernel, open_transition_named (by decide +kernel) (List.append_nil _).symm⟩

/-- Restored while it is uninstalled again, the plugin has an open transition that no row names. -/
theorem open_transition_orphaned :
    ¬ ∀ trace : List JournalStep, OpenNamed (Run.after Journal.step .start trace).db := by
  intro h
  have horphan : ¬ OpenNamed (Run.after Journal.step .start (sampleUninstall ++
      [.request (sampleRequest "again" .uninstall .uninstalled (some sampleDigest) none (some "other")) "6",
       .completeRestore "/project" "tombstone" "7"])).db := by
    decide +kernel
  exact horphan (h _)

end Rho.PluginLifecycle
