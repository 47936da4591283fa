import Rho.Theorems.PluginJournal

/-!
# What the operations of the journal leave alone

No operation takes a state row or a transition away, and none but a request adds a transition or says anything new about what a
transition was asked for. The tombstones are written by five operations; the others leave them as they are.
-/

namespace Rho.PluginLifecycle

open LifecycleDb Fallible PluginState

/-- What a transition was asked for; the desired state is not among its columns. -/
structure Intent where
  transitionId : String
  projectRoot : String
  pluginId : String
  kind : Kind
  expectedOldDigest : Option String
  candidateDigest : Option String
  rollbackDigest : Option String
  backupPathKey : Option String
  deriving DecidableEq

def Transition.intent (t : Transition) : Intent :=
  ⟨t.transitionId, t.projectRoot, t.pluginId, t.kind, t.expectedOldDigest, t.candidateDigest, t.rollbackDigest, t.backupPathKey⟩

def TransitionDraft.intent (d : TransitionDraft) : Intent :=
  ⟨d.transitionId, d.projectRoot, d.pluginId, d.kind, d.expectedOldDigest, d.candidateDigest, d.rollbackDigest, d.backupPathKey⟩

/-- The state rows are still there, and the transitions are those that were there, asked for the same. -/
structure Frame (db db' : LifecycleDb) : Prop where
  states : ∀ k s, db.states.get k = some s → ∃ s', db'.states.get k = some s'
  transitions : ∀ id, (db'.transitions.get id).map Transition.intent = (db.transitions.get id).map Transition.intent

/-- A frame that the tombstones are in as well. -/
def FrameAll (db db' : LifecycleDb) : Prop := Frame db db' ∧ db'.tombstones = db.tombstones

section Statements

variable {db db₁ db₂ : LifecycleDb}

theorem Frame.refl (db : LifecycleDb) : Frame db db := ⟨fun _ s h => ⟨s, h⟩, fun _ => rfl⟩

theorem Frame.trans (h₁ : Frame db db₁) (h₂ : Frame db₁ db₂) : Frame db db₂ := by
  refine ⟨?_, fun id => (h₂.transitions id).trans (h₁.transitions id)⟩
  intro k s hs
  obtain ⟨s₁, hs₁⟩ := h₁.states k s hs
  exact h₂.states k s₁ hs₁

theorem Frame.of_eq (hstates : db₁.states = db.states) (htransitions : db₁.transitions = db.transitions) : Frame db db₁ :=
  ⟨fun k s hs => ⟨s, by rw [hstates, hs]⟩, fun id => by rw [htransitions]⟩

theorem frame_editState (root pluginId : String) {f : PluginState → PluginState} (hf : ∀ s, (f s).key = s.key) :
    Frame db (db.editState root pluginId f hf) := by
  refine ⟨?_, fun _ => rfl⟩
  intro k s hs
  simp only [editState, Table.get_update_key]
  split
  · exact ⟨f s, by rw [hs]; rfl⟩
  · exact ⟨s, hs⟩

/-- A statement on transitions that leaves alone what they were asked for. -/
theorem frame_update (db : LifecycleDb) {transitions : Table Transition.transitionId} {p : Transition → Bool} {f : Transition → Transition}
    (hf : ∀ t, (f t).transitionId = t.transitionId) (hintent : ∀ t, (f t).intent = t.intent)
    (hwritten : transitions = db.transitions.update p f hf) : Frame db { db with transitions := transitions } := by
  subst hwritten
  refine ⟨fun k s hs => ⟨s, hs⟩, ?_⟩
  intro id
  simp only [Table.get_update, Option.map_map]
  congr 1
  funext t
  simp only [Function.comp_apply]
  split
  · exact hintent t
  · rfl

theorem frame_editTransition (db : LifecycleDb) (id : String) {f : Transition → Transition} (hf : ∀ t, (f t).transitionId = t.transitionId)
    (hintent : ∀ t, (f t).intent = t.intent) : Frame db (db.editTransition id f hf) := frame_update db hf hintent rfl

theorem frame_record (root pluginId : String) (eventType : EventType) (now : String) :
    Frame db (db.record root pluginId eventType now) := .of_eq rfl rfl

theorem frame_editTombstone (id : String) {f : Tombstone → Tombstone} (hf : ∀ t, (f t).tombstoneId = t.tombstoneId) :
    Frame db (db.editTombstone id f hf) := .of_eq rfl rfl

/-- A state row that is edited, with the event that tells of it. -/
theorem frameAll_editState (root pluginId : String) {f : PluginState → PluginState} (hf : ∀ s, (f s).key = s.key)
    (eventType : EventType) (now : String) :
    FrameAll db ((db.editState root pluginId f hf).record root pluginId eventType now) :=
  ⟨(frame_editState root pluginId hf).trans (frame_record root pluginId eventType now), rfl⟩

theorem FrameAll.refl (db : LifecycleDb) : FrameAll db db := ⟨.refl db, rfl⟩

theorem Quiet.frame (h : Quiet db db₁) : FrameAll db db₁ := by
  refine ⟨⟨fun k s hs => ?_, fun id => by rw [h.transitions]⟩, h.tombstones⟩
  obtain ⟨s', hs', -⟩ := h.states k s hs
  exact ⟨s', hs'⟩

end Statements

section Operations

variable {db db' : LifecycleDb} {now : String}

theorem frame_writeAdvance {d : AdvanceDraft} {o : Outcome} (h : db.writeAdvance d now = .ok (o, db')) : FrameAll db db' := by
  unfold writeAdvance at h
  split at h
  · cases h
    exact .refl db
  dsimp only at h
  split at h
  · cases h
  · obtain ⟨details, -, h⟩ := bind_eq_ok h
    cases h
    have hmoved := frame_update db (p := advances d) (Transition.advanced_transitionId d now) (fun _ => rfl) rfl
    exact ⟨hmoved.trans (frameAll_editState _ _ (advanced_key d) _ _).1, rfl⟩

variable {root pluginId transitionId reasonCode cutoff id : String} {t : Tombstone} {draft : PurgeDraft} {r : PurgeResult}
  {limit : Nat}

/-! ## Requests -/

/-- A request writes nothing, or adds the transition of its draft under an id that is free. -/
theorem requestTransition_cases {draft : TransitionDraft} {r : RequestResult}
    (h : db.requestTransition draft now = .ok (r, db')) : ∃ d, validateTransitionDraft draft = .ok d ∧
      ((r.outcome = .unchanged ∧ db' = db ∧
          ∃ t, db.getTransition d.projectRoot d.transitionId = some t ∧ t.matchesDraft d = true) ∨
        ((r.outcome = .stale ∨ r.outcome = .conflict) ∧ db' = db ∧ db.getTransition d.projectRoot d.transitionId = none) ∨
        (r.outcome = .applied ∧ db.getTransition d.projectRoot d.transitionId = none ∧
          (∃ s, db.getState d.projectRoot d.pluginId = some s) ∧
          db.transitions.insert (d.transition now) = some db'.transitions ∧
          (∀ k s, db.states.get k = some s → ∃ s', db'.states.get k = some s') ∧ db'.tombstones = db.tombstones)) := by
  unfold requestTransition at h
  obtain ⟨d, hd, h⟩ := bind_eq_ok h
  refine ⟨d, hd, ?_⟩
  split at h
  · rename_i t ht
    obtain ⟨state, -, h⟩ := bind_eq_ok h
    split at h
    · rename_i hmatches
      cases h
      exact .inl ⟨rfl, rfl, t, ht, hmatches⟩
    · cases h
  · rename_i hnone
    obtain ⟨state, hstate, h⟩ := bind_eq_ok h
    split at h
    · cases h
      exact .inr (.inl ⟨.inl rfl, rfl, hnone⟩)
    split at h
    · cases h
      exact .inr (.inl ⟨.inr rfl, rfl, hnone⟩)
    split at h
    · cases h
    · rename_i transitions hinsert
      cases h
      refine .inr (.inr ⟨rfl, hnone, ⟨state, required_eq_ok hstate⟩, hinsert, ?_, rfl⟩)
      exact (frame_editState d.projectRoot d.pluginId (requested_key d)).states

/-! ## Tombstones -/

theorem get_of_getTombstone (h : db.getTombstone root id = some t) :
    db.tombstones.get id = some t ∧ t.projectRoot = root ∧ t.tombstoneId = id := by
  obtain ⟨hget, hroot⟩ := Option.filter_eq_some_iff.mp h
  exact ⟨hget, of_decide_eq_true hroot, Table.key_of_get hget⟩

/-- Editing the tombstone that was read sets its row. -/
theorem sets_editTombstone {f : Tombstone → Tombstone}
    (hf : ∀ t, (f t).tombstoneId = t.tombstoneId) (h : db.getTombstone root id = some t) :
    db.tombstones.Sets (db.editTombstone id f hf).tombstones (f t) := by
  obtain ⟨hget, -, hid⟩ := get_of_getTombstone h
  exact Table.sets_update hf (fun _ hr => of_decide_eq_true hr) hget (decide_eq_true hid)

/-- An uninstall that is applied keeps the tombstone that is there or adds a recoverable one. -/
theorem completeUninstall_cases {draft : TombstoneDraft} {r : UninstallCompletion}
    (h : db.completeUninstall transitionId draft now = .ok (r, db')) :
    (r.outcome ≠ .applied ∧ db' = db) ∨ (r.outcome = .applied ∧ Frame db db' ∧
      (db'.tombstones = db.tombstones ∨ ∃ d : TombstoneDraft, d.retentionClass = .recoverable ∧
        db.tombstones.insert (d.tombstone now) = some db'.tombstones)) := by
  unfold completeUninstall at h
  obtain ⟨id, -, h⟩ := bind_eq_ok h
  obtain ⟨d, -, h⟩ := bind_eq_ok h
  obtain ⟨t, -, h⟩ := bind_eq_ok h
  obtain ⟨state, -, h⟩ := bind_eq_ok h
  split at h
  · cases h
  rename_i hexact
  split at h
  · obtain ⟨tombstone, -, h⟩ := bind_eq_ok h
    obtain ⟨⟨⟩, -, h⟩ := bind_eq_ok h
    cases h
    exact .inl ⟨by simp, rfl⟩
  split at h
  · cases h
    exact .inl ⟨by simp, rfl⟩
  · obtain ⟨⟨tombstone, kept⟩, hkept, h⟩ := bind_eq_ok h
    obtain ⟨htransitions, hstates⟩ := keepTombstone_eq hkept
    cases h
    refine .inr ⟨rfl, ?_, ?_⟩
    · exact ((Frame.of_eq hstates htransitions).trans (frame_editTransition kept id (Transition.finished_transitionId _ now)
        (fun _ => rfl))).trans (frameAll_editState d.projectRoot d.pluginId uninstalled_key _ now).1
    · have hclass : d.retentionClass = .recoverable := by
        simp only [not_or, not_not] at hexact
        exact hexact.2.2.1
      unfold keepTombstone at hkept
      split at hkept
      · obtain ⟨⟨⟩, -, hkept⟩ := bind_eq_ok hkept
        cases hkept
        exact .inl rfl
      split at hkept
      · cases hkept
      split at hkept
      · cases hkept
      · rename_i tombstones hinsert
        cases hkept
        exact .inr ⟨d, hclass, hinsert⟩

/-- A restore that is applied sets the time in a recoverable tombstone. -/
theorem completeRestore_writes {tombstoneId : String} {r : RestoreCompletion}
    (h : db.completeRestore root tombstoneId now = .ok (r, db')) :
    (r.outcome ≠ .applied ∧ db' = db) ∨ (r.outcome = .applied ∧ Frame db db' ∧
      ∃ id t, db.tombstones.get id = some t ∧ t.retentionClass = .recoverable ∧ t.deletedAt = none ∧ t.restoredAt = none ∧
        db.tombstones.Sets db'.tombstones (t.restoreAt now)) := by
  unfold completeRestore at h
  obtain ⟨root', -, h⟩ := bind_eq_ok h
  obtain ⟨id, -, h⟩ := bind_eq_ok h
  obtain ⟨t, ht, h⟩ := bind_eq_ok h
  have ht := required_eq_ok ht
  split at h
  · cases h
  rename_i hdeleted
  split at h
  · cases h
  rename_i hclass
  obtain ⟨state, -, h⟩ := bind_eq_ok h
  split at h
  · cases h
  split at h
  · cases h
    exact .inl ⟨by simp, rfl⟩
  split at h
  · cases h
    exact .inl ⟨by simp, rfl⟩
  rename_i hready
  cases h
  simp only [not_or, ne_eq, not_not, Bool.not_eq_true, Option.isSome_eq_false_iff, Option.isNone_iff_eq_none] at hdeleted hclass hready
  refine .inr ⟨rfl, ?_, id, t, (get_of_getTombstone ht).1, hclass, hdeleted, hready.1, ?_⟩
  · exact (frame_editTombstone id (Tombstone.restoreAt_tombstoneId now)).trans
      (frameAll_editState root' t.pluginId restored_key .recovery now).1
  · exact sets_editTombstone (Tombstone.restoreAt_tombstoneId now) ht

/-- A purge that is asked for marks an expired tombstone. -/
theorem requestPurge_cases (h : db.requestPurge draft now = .ok (r, db')) :
    (r.outcome ≠ .applied ∧ db' = db) ∨ (r.outcome = .applied ∧ Frame db db' ∧
      ∃ id t, db.tombstones.get id = some t ∧ t.retentionClass = .expired ∧ t.deletedAt = none ∧ t.restoredAt = none ∧
        db.tombstones.Sets db'.tombstones (t.classify .purgePending)) := by
  unfold requestPurge at h
  obtain ⟨d, -, h⟩ := bind_eq_ok h
  obtain ⟨t, ht, h⟩ := bind_eq_ok h
  have ht := required_eq_ok ht
  obtain ⟨⟨⟩, -, h⟩ := bind_eq_ok h
  split at h
  · cases h
    exact .inl ⟨by simp, rfl⟩
  split at h
  · cases h
    exact .inl ⟨by simp, rfl⟩
  rename_i hlive
  simp only [not_or, Bool.not_eq_true, Option.isSome_eq_false_iff, Option.isNone_iff_eq_none] at hlive
  split at h
  · cases h
    exact .inl ⟨by simp, rfl⟩
  · cases h
    exact .inl ⟨by simp, rfl⟩
  · rename_i hclass
    cases h
    refine .inr ⟨rfl, ?_, d.tombstoneId, t, (get_of_getTombstone ht).1, hclass, hlive.1, hlive.2, ?_⟩
    · exact (frame_editTombstone _ (Tombstone.classify_tombstoneId .purgePending)).trans (frame_record _ _ _ _)
    · exact sets_editTombstone (Tombstone.classify_tombstoneId .purgePending) ht

/-- A purge that is completed sets the time of deletion in the tombstone that was marked. -/
theorem completePurge_cases (h : db.completePurge draft now = .ok (r, db')) :
    (r.outcome ≠ .applied ∧ db' = db) ∨ (r.outcome = .applied ∧ Frame db db' ∧
      ∃ id t, db.tombstones.get id = some t ∧ t.retentionClass = .purgePending ∧ t.deletedAt = none ∧ t.restoredAt = none ∧
        db.tombstones.Sets db'.tombstones (t.purgeAt now)) := by
  unfold completePurge at h
  obtain ⟨d, -, h⟩ := bind_eq_ok h
  obtain ⟨t, ht, h⟩ := bind_eq_ok h
  have ht := required_eq_ok ht
  obtain ⟨⟨⟩, -, h⟩ := bind_eq_ok h
  split at h
  · cases h
    exact .inl ⟨by simp, rfl⟩
  split at h
  · cases h
    exact .inl ⟨by simp, rfl⟩
  rename_i hlive
  simp only [not_or, ne_eq, not_not, Bool.not_eq_true, Option.isSome_eq_false_iff, Option.isNone_iff_eq_none] at hlive
  cases h
  refine .inr ⟨rfl, ?_, d.tombstoneId, t, (get_of_getTombstone ht).1, hlive.1, hlive.2.1, hlive.2.2, ?_⟩
  · exact (frame_editTombstone _ (Tombstone.purgeAt_tombstoneId now)).trans (frame_record _ _ _ _)
  · exact sets_editTombstone (Tombstone.purgeAt_tombstoneId now) ht

/-! ### The sweep -/

/-- What a sweep makes of the database, candidate by candidate. -/
def expireAll (root now : String) (candidates : List Tombstone) (db : LifecycleDb) : LifecycleDb :=
  candidates.foldl (fun db t =>
    (db.editTombstone t.tombstoneId (Tombstone.classify .expired) (Tombstone.classify_tombstoneId .expired)).record
      root t.pluginId .recovery now) db

theorem frame_expireAll (root now : String) (candidates : List Tombstone) (db : LifecycleDb) :
    Frame db (expireAll root now candidates db) := by
  induction candidates generalizing db with
  | nil => exact .refl db
  | cons t candidates ih =>
    have hfirst : Frame db ((db.editTombstone t.tombstoneId (Tombstone.classify .expired)
        (Tombstone.classify_tombstoneId .expired)).record root t.pluginId .recovery now) := .of_eq rfl rfl
    exact hfirst.trans (ih _)

/-- After a sweep the rows of its candidates are expired and the others are as they were. -/
theorem get_expireAll (root now : String) (candidates : List Tombstone) (db : LifecycleDb) (id : String) :
    (expireAll root now candidates db).tombstones.get id =
      if id ∈ candidates.map Tombstone.tombstoneId then (db.tombstones.get id).map (Tombstone.classify .expired)
      else db.tombstones.get id := by
  induction candidates generalizing db with
  | nil => simp [expireAll]
  | cons t candidates ih =>
    have hrest := ih ((db.editTombstone t.tombstoneId (Tombstone.classify .expired)
      (Tombstone.classify_tombstoneId .expired)).record root t.pluginId .recovery now)
    rw [show expireAll root now (t :: candidates) db = expireAll root now candidates _ from rfl, hrest]
    simp only [record, editTombstone, Table.get_update_key, List.map_cons, List.mem_cons]
    by_cases hid : id = t.tombstoneId
    · simp only [hid, true_or, if_true]
      split
      · cases db.tombstones.get t.tombstoneId <;> rfl
      · rfl
    · simp only [hid, false_or, if_false]

/-- What a sweep selects. -/
theorem mem_expiring (h : t ∈ db.expiring root cutoff limit) :
    t ∈ db.tombstones.rows ∧ t.retentionClass = .recoverable ∧ t.deletedAt = none ∧ t.restoredAt = none ∧ t.movedAt ≤ cutoff := by
  have hdue := (List.mergeSort_perm _ _).mem_iff.mp (List.mem_of_mem_take h)
  obtain ⟨hmem, hdue⟩ := List.mem_filter.mp hdue
  simp only [Bool.and_eq_true, beq_iff_eq, decide_eq_true_eq, Option.isNone_iff_eq_none] at hdue
  obtain ⟨⟨⟨⟨-, hclass⟩, hmoved⟩, hdeleted⟩, hrestored⟩ := hdue
  exact ⟨hmem, hclass, hdeleted, hrestored, hmoved⟩

theorem expireTombstones_cases {cutoff : Option String} {r : RetentionSweep}
    (h : db.expireTombstones root cutoff limit now = .ok (r, db')) :
    ∃ root' text, cutoff = some text ∧ db' = expireAll root' now (db.expiring root' text limit) db ∧
      (r.outcome ≠ .applied → db' = db) := by
  unfold expireTombstones at h
  obtain ⟨root', -, h⟩ := bind_eq_ok h
  obtain ⟨text, htext, h⟩ := bind_eq_ok h
  have htext := required_eq_ok htext
  split at h
  · cases h
  cases h
  refine ⟨root', text, htext, rfl, ?_⟩
  intro houtcome
  cases hcandidates : db.expiring root' text limit with
  | nil => rfl
  | cons t candidates => simp [hcandidates] at houtcome

end Operations

end Rho.PluginLifecycle
