import Rho.Extension.Contribution
import Rho.Lib.Fallible

/-!
# What the contribution store keeps

A publication works on a clone: what it keeps of the store, then one record after the other. The loop is described once
(`registerAll_spec`), and with it what a publication can do (`publish_ok_iff`).
-/

namespace Rho

open Effect OrdMap

/-! ## What is claimed -/

/-- What holds of the store in every state. -/
structure ContributionsSound (s : ContributionStore) : Prop where
  one_identity : ∀ r₁ ∈ s.values, ∀ r₂ ∈ s.values, r₁.projectId = r₂.projectId → r₁.pluginId = r₂.pluginId →
    r₁.identity = r₂.identity
  budget : ∀ projectId, (s.values.filter (fun r => r.projectId = projectId)).length ≤ maxContributionsPerProject
  one_per_capability : ∀ projectId capability,
    (s.values.filter (fun r => r.projectId = projectId ∧ r.contribution.capability = capability)).length ≤ 1

/-- The records of other plugins and other projects. -/
def ContributionStore.others (s : ContributionStore) (projectId : ScopeId) (pluginId : PluginId) : List ContributionRecord :=
  s.values.filter (fun r => r.projectId ≠ projectId ∨ r.pluginId ≠ pluginId)

/-- What one operation may do. -/
structure ContributionOpsSound (toLowercase : String → String) (s : ContributionStore) : Prop where
  exchanged : ∀ candidate expectedOld old s', ContributionStore.publish toLowercase candidate expectedOld s = .ok old s' →
    s.currentIdentity candidate.identity.projectId candidate.identity.pluginId = .ok expectedOld
  publish_frame : ∀ candidate expectedOld old s', ContributionStore.publish toLowercase candidate expectedOld s = .ok old s' →
    s'.others candidate.identity.projectId candidate.identity.pluginId =
      s.others candidate.identity.projectId candidate.identity.pluginId
  unpublish_frame : ∀ identity s', ContributionStore.unpublish identity s = .ok () s' →
    s'.others identity.projectId identity.pluginId = s.others identity.projectId identity.pluginId
  refused : ∀ op : ContributionOp, ∀ e s', op.run toLowercase s = .error e s' → s' = s

namespace ContributionAux

open ContributionStore

/-! ## Records under their keys -/

variable {toLowercase : String → String} {s s' : ContributionStore} {projectId : ScopeId} {pluginId : PluginId}

theorem store_ext (h : s.records = s'.records) : s = s' := by
  cases s
  cases s'
  cases h
  rfl

variable {r : ContributionRecord} {u : Unit}

theorem mem_values : r ∈ s.values ↔ (r.key, r) ∈ s.records := by
  unfold ContributionStore.values
  rw [List.mem_map]
  constructor
  · rintro ⟨e, he, rfl⟩
    rw [← s.keyed e he]
    exact he
  · intro h
    exact ⟨_, h, rfl⟩

/-- A condition on the records, as one on the entries. -/
theorem filter_values (p : ContributionRecord → Bool) (q : ContributionKey × ContributionRecord → Bool)
    (h : ∀ r : ContributionRecord, q (r.key, r) = p r) : s.values.filter p = (s.records.filter q).map (·.2) := by
  unfold ContributionStore.values
  rw [List.filter_map]
  congr 1
  refine List.filter_congr ?_
  intro e he
  have hkey := s.keyed e he
  rw [Function.comp_apply, ← h e.2, ← hkey]

theorem one_per_capability (s : ContributionStore) (projectId : ScopeId) (capability : CapabilityId) :
    (s.values.filter (fun r => r.projectId = projectId ∧ r.contribution.capability = capability)).length ≤ 1 := by
  rw [filter_values _ (fun e => e.1 = toLex (projectId, capability)), List.length_map]
  · refine length_le_one (toLex (projectId, capability)) (s.sorted.filter _) ?_
    intro e he
    exact of_decide_eq_true (List.mem_filter.mp he).2
  · intro r
    refine decide_eq_decide.mpr ?_
    unfold ContributionRecord.key
    rw [EmbeddingLike.apply_eq_iff_eq, Prod.mk.injEq]

/-! ## The identity of the records -/

theorem mergeIdentity_fold (l : List ContributionRecord) (i : ContributionInstanceIdentity) :
    l.foldlM mergeIdentity (some i) = if ∀ r ∈ l, r.identity = i then .ok (some i) else .error .invalid := by
  induction l with
  | nil => simp [pure, Except.pure]
  | cons r l ih =>
    rw [List.foldlM_cons]
    by_cases hr : r.identity = i
    · have hmerge : mergeIdentity (some i) r = .ok (some i) := by simp [mergeIdentity, hr]
      rw [hmerge]
      change l.foldlM mergeIdentity (some i) = _
      rw [ih]
      simp only [List.forall_mem_cons, hr, true_and]
    · have hmerge : mergeIdentity (some i) r = .error .invalid := by
        have hne : i ≠ r.identity := fun h => hr h.symm
        simp [mergeIdentity, hne]
      have hnot : ¬∀ t ∈ r :: l, t.identity = i := fun h => hr (h r List.mem_cons_self)
      rw [hmerge, if_neg hnot]
      rfl

/-- The records that the identity of a plugin in a project is read off. -/
def ofPlugin (s : ContributionStore) (projectId : ScopeId) (pluginId : PluginId) : List ContributionRecord :=
  s.values.filter (fun r => r.projectId = projectId ∧ r.pluginId = pluginId)

theorem mem_ofPlugin : r ∈ ofPlugin s projectId pluginId ↔ r ∈ s.values ∧ r.projectId = projectId ∧ r.pluginId = pluginId := by
  unfold ofPlugin
  rw [List.mem_filter, decide_eq_true_eq]

theorem currentIdentity_of_nil (h : ofPlugin s projectId pluginId = []) : s.currentIdentity projectId pluginId = .ok none := by
  unfold ContributionStore.currentIdentity
  rw [show s.values.filter _ = [] from h]
  rfl

/-- Records of one identity give that identity. -/
theorem currentIdentity_of_all {i : ContributionInstanceIdentity} (hne : ofPlugin s projectId pluginId ≠ [])
    (h : ∀ r ∈ ofPlugin s projectId pluginId, r.identity = i) : s.currentIdentity projectId pluginId = .ok (some i) := by
  unfold ContributionStore.currentIdentity
  change (ofPlugin s projectId pluginId).foldlM mergeIdentity none = _
  cases hlist : ofPlugin s projectId pluginId with
  | nil => exact absurd hlist hne
  | cons r l =>
    rw [hlist] at h
    obtain ⟨hr, hl⟩ := List.forall_mem_cons.mp h
    rw [List.foldlM_cons, show mergeIdentity none r = .ok (some i) by simp [mergeIdentity, hr]]
    change l.foldlM mergeIdentity (some i) = _
    rw [mergeIdentity_fold, if_pos hl]

/-! ## One registration -/

variable {identity : ContributionInstanceIdentity} {contribution : Contribution} {contributions : List Contribution}

/-- The number of records of a project, as it is counted. -/
def countOf (s : ContributionStore) (projectId : ScopeId) : Nat :=
  (s.records.filter (fun e => (ofLex e.1).1 = projectId)).length

theorem length_filter_project (s : ContributionStore) (projectId : ScopeId) :
    (s.values.filter (fun r => r.projectId = projectId)).length = countOf s projectId := by
  rw [filter_values (fun r => r.projectId = projectId) (fun e => (ofLex e.1).1 = projectId) fun _ => rfl, List.length_map]
  rfl

theorem register_eq (s : ContributionStore) : register toLowercase identity contribution s =
      if !contribution.isValid toLowercase then .error .invalid s
      else if maxContributionsPerProject ≤ countOf s identity.projectId then .error .limitExceeded s
      else if (s.get identity.projectId contribution.capability).isSome then .error .duplicate s
      else .ok () (s.insert (recordOf identity contribution)) := by
  unfold ContributionStore.register
  rw [bind_of_ok (show (get : ContributionM _) s = .ok s s from rfl)]
  split
  · rfl
  · change (if maxContributionsPerProject ≤ countOf s identity.projectId then _ else _ : ContributionM Unit) s = _
    split
    · rfl
    · split
      · rfl
      · rfl

/-- A registration that succeeds has found room and a new capability. -/
theorem register_ok (h : register toLowercase identity contribution s = .ok u s') :
    countOf s identity.projectId < maxContributionsPerProject ∧
      get s.records (recordOf identity contribution).key = none ∧ s' = s.insert (recordOf identity contribution) := by
  rw [register_eq] at h
  split at h
  · cases h
  · split at h
    · cases h
    · next hroom =>
      split at h
      · cases h
      · next hnew =>
        cases h
        exact ⟨Nat.not_le.mp hroom, Option.not_isSome_iff_eq_none.mp hnew, rfl⟩

theorem mem_values_insert {t : ContributionRecord} (h : get s.records r.key = none) :
    t ∈ (s.insert r).values ↔ t = r ∨ t ∈ s.values := by
  have hperm : (s.insert r).values.Perm (r :: s.values) := (insert_perm r h).map Prod.snd
  rw [hperm.mem_iff, List.mem_cons]

theorem countOf_insert (h : get s.records r.key = none) (projectId : ScopeId) :
    countOf (s.insert r) projectId = countOf s projectId + if r.projectId = projectId then 1 else 0 := by
  have hperm := ((insert_perm r h).filter (fun e => decide ((ofLex e.1).1 = projectId))).length_eq
  unfold countOf
  refine hperm.trans ?_
  rw [List.filter_cons]
  by_cases hproject : r.projectId = projectId
  · simp [ContributionRecord.key, hproject]
  · simp [ContributionRecord.key, hproject]

/-- A registration keeps what it does not satisfy. -/
theorem filter_insert (h : get s.records r.key = none) {p : ContributionKey × ContributionRecord → Bool}
    (hp : p (r.key, r) = false) : (s.insert r).records.filter p = s.records.filter p :=
  filter_insert_of_neg h hp

/-! ## All registrations of a publication -/

theorem isOther_recordOf (contribution : Contribution) :
    isOther identity.projectId identity.pluginId (recordOf identity contribution).key (recordOf identity contribution) = false := by
  simp [isOther, recordOf, ContributionRecord.key]

/-- What a loop of registrations that succeeds has done: it keeps the records of others, adds those of the instance and stays
within the budget. -/
theorem registerAll_spec (h : registerAll toLowercase identity contributions s = .ok u s') :
    (∀ r, r ∈ s'.values ↔ r ∈ s.values ∨ ∃ c ∈ contributions, r = recordOf identity c) ∧
      (∀ projectId, countOf s projectId ≤ maxContributionsPerProject → countOf s' projectId ≤ maxContributionsPerProject) ∧
      s'.records.filter (fun e => isOther identity.projectId identity.pluginId e.1 e.2) =
        s.records.filter (fun e => isOther identity.projectId identity.pluginId e.1 e.2) := by
  induction contributions generalizing s with
  | nil =>
    cases h
    exact ⟨fun r => by simp, fun _ h => h, rfl⟩
  | cons c contributions ih =>
    obtain ⟨_, t, hregister, hrest⟩ := bind_ok h
    obtain ⟨hroom, hnew, rfl⟩ := register_ok hregister
    obtain ⟨hmem, hbudget, hkept⟩ := ih hrest
    refine ⟨?_, ?_, ?_⟩
    · intro r
      rw [hmem, mem_values_insert hnew]
      constructor
      · rintro ((h | h) | ⟨c', hc', h⟩)
        · exact Or.inr ⟨c, List.mem_cons_self, h⟩
        · exact Or.inl h
        · exact Or.inr ⟨c', List.mem_cons_of_mem c hc', h⟩
      · rintro (hr | ⟨c', hc', hr⟩)
        · exact Or.inl (Or.inr hr)
        · rcases List.mem_cons.mp hc' with rfl | hc'
          · exact Or.inl (Or.inl hr)
          · exact Or.inr ⟨c', hc', hr⟩
    · intro projectId hcount
      refine hbudget projectId ?_
      rw [countOf_insert hnew]
      split
      · next hproject =>
        rw [← hproject]
        exact hroom
      · exact hcount
    · rw [hkept, filter_insert hnew (isOther_recordOf c)]

/-! ## A publication -/

variable {candidate : ContributionCandidate} {expectedOld old : Option ContributionInstanceIdentity}

/-- What the records are made on. -/
def kept (s : ContributionStore) (identity : ContributionInstanceIdentity) : ContributionStore :=
  s.retain (isOther identity.projectId identity.pluginId)

theorem publish_eq (s : ContributionStore) : publish toLowercase candidate expectedOld s =
      match s.currentIdentity candidate.identity.projectId candidate.identity.pluginId with
      | .error e => .error e s
      | .ok current =>
        if current ≠ expectedOld then .error .expectedOldMismatch s
        else
          match registerAll toLowercase candidate.identity candidate.contributions (kept s candidate.identity) with
          | .ok _ next => .ok current next
          | .error e _ => .error e s := by
  unfold ContributionStore.publish
  rw [bind_of_ok (show (get : ContributionM _) s = .ok s s from rfl)]
  cases s.currentIdentity candidate.identity.projectId candidate.identity.pluginId with
  | error e => rfl
  | ok current =>
    rw [bind_of_ok (show (ofResult (.ok current) : ContributionM _) s = .ok current s from rfl)]
    simp only
    split
    · rfl
    · unfold kept
      cases registerAll toLowercase candidate.identity candidate.contributions
        (s.retain (isOther candidate.identity.projectId candidate.identity.pluginId)) with
      | ok u next => rfl
      | error e next => rfl

/-- A publication succeeds when the expected identity is the one that is there and all registrations on the clone succeed. -/
theorem publish_ok_iff : publish toLowercase candidate expectedOld s = .ok old s' ↔
      s.currentIdentity candidate.identity.projectId candidate.identity.pluginId = .ok expectedOld ∧ old = expectedOld ∧
        registerAll toLowercase candidate.identity candidate.contributions (kept s candidate.identity) = .ok () s' := by
  rw [publish_eq]
  cases s.currentIdentity candidate.identity.projectId candidate.identity.pluginId with
  | error e => simp
  | ok current =>
    by_cases heq : current = expectedOld
    · cases registerAll toLowercase candidate.identity candidate.contributions (kept s candidate.identity) with
      | ok u next => simp [heq, eq_comm]
      | error e next => simp [heq]
    · simp [heq]

/-- A publication that fails leaves the store as it was. -/
theorem publish_error {e : ContributionError} (h : publish toLowercase candidate expectedOld s = .error e s') : s' = s := by
  rw [publish_eq] at h
  cases hcurrent : s.currentIdentity candidate.identity.projectId candidate.identity.pluginId with
  | error e =>
    rw [hcurrent] at h
    cases h
    rfl
  | ok current =>
    rw [hcurrent] at h
    simp only at h
    split at h
    · cases h
      rfl
    · split at h
      · cases h
      · cases h
        rfl

theorem others_eq (s : ContributionStore) (projectId : ScopeId) (pluginId : PluginId) :
    s.others projectId pluginId = (s.records.filter (fun e => isOther projectId pluginId e.1 e.2)).map (·.2) := by
  refine filter_values _ _ ?_
  intro r
  rw [Bool.decide_or]
  rfl

/-- The clone that the next publication of the plugin works on. -/
theorem kept_of_publish {identity' : ContributionInstanceIdentity} (hproject : identity'.projectId = candidate.identity.projectId)
    (hplugin : identity'.pluginId = candidate.identity.pluginId)
    (h : registerAll toLowercase candidate.identity candidate.contributions (kept s candidate.identity) = .ok () s') :
    kept s' identity' = kept s identity' := by
  refine store_ext ?_
  unfold kept
  rw [hproject, hplugin]
  refine (registerAll_spec h).2.2.trans ?_
  exact (List.filter_filter ..).trans (List.filter_congr fun e _ => Bool.and_self _)

theorem others_publish (h : publish toLowercase candidate expectedOld s = .ok old s') :
    s'.others candidate.identity.projectId candidate.identity.pluginId =
      s.others candidate.identity.projectId candidate.identity.pluginId := by
  have hkept := kept_of_publish rfl rfl (publish_ok_iff.mp h).2.2
  rw [others_eq, others_eq]
  exact congrArg (fun t => t.records.map (·.2)) hkept

/-- The records after a publication: those of others, and those of the candidate. -/
theorem mem_values_publish (h : publish toLowercase candidate expectedOld s = .ok old s') (r : ContributionRecord) :
    r ∈ s'.values ↔ r ∈ s.others candidate.identity.projectId candidate.identity.pluginId ∨
      ∃ c ∈ candidate.contributions, r = recordOf candidate.identity c := by
  rw [(registerAll_spec (publish_ok_iff.mp h).2.2).1, others_eq]
  rfl

theorem mem_others : r ∈ s.others projectId pluginId ↔ r ∈ s.values ∧ (r.projectId ≠ projectId ∨ r.pluginId ≠ pluginId) := by
  unfold ContributionStore.others
  rw [List.mem_filter, decide_eq_true_eq]

/-! ## The other operations -/

theorem unpublish_eq (identity : ContributionInstanceIdentity) (s : ContributionStore) : unpublish identity s =
      match s.currentIdentity identity.projectId identity.pluginId with
      | .error e => .error e s
      | .ok current => if current ≠ some identity then .error .expectedOldMismatch s else .ok () (clearInstance identity s) := by
  unfold ContributionStore.unpublish
  rw [bind_of_ok (show (get : ContributionM _) s = .ok s s from rfl)]
  cases s.currentIdentity identity.projectId identity.pluginId with
  | error e => rfl
  | ok current =>
    rw [bind_of_ok (show (ofResult (.ok current) : ContributionM _) s = .ok current s from rfl)]
    simp only
    split
    · rfl
    · rfl

theorem unpublish_ends (identity : ContributionInstanceIdentity) (s : ContributionStore) :
    Ends (fun _ s' => s' = clearInstance identity s) (fun _ s' => s' = s) (unpublish identity s) := by
  rw [unpublish_eq]
  cases s.currentIdentity identity.projectId identity.pluginId with
  | error e => rfl
  | ok current =>
    simp only
    split
    · rfl
    · rfl

/-- What is kept of the records of others, when all of them are kept. -/
theorem others_retain {keep : ContributionKey → ContributionRecord → Bool}
    (h : ∀ key r, isOther projectId pluginId key r = true → keep key r = true) :
    (s.retain keep).others projectId pluginId = s.others projectId pluginId := by
  rw [others_eq, others_eq]
  refine congrArg (List.map Prod.snd) ?_
  refine (List.filter_filter ..).trans (List.filter_congr fun e _ => ?_)
  cases hother : isOther projectId pluginId e.1 e.2 with
  | false => exact Bool.false_and _
  | true => exact (Bool.true_and _).trans (h e.1 e.2 hother)

theorem others_clearInstance (identity : ContributionInstanceIdentity) (s : ContributionStore) :
    (clearInstance identity s).others identity.projectId identity.pluginId =
      s.others identity.projectId identity.pluginId := by
  refine others_retain ?_
  intro key r hother
  unfold ContributionStore.isOther at hother
  simp only [hother, Bool.true_or]

theorem remove_ends (identity : ContributionInstanceIdentity) (capability : CapabilityId) (s : ContributionStore) :
    Ends (fun _ s' => ∃ keep, s' = s.retain keep) (fun _ s' => s' = s) (remove identity capability s) := by
  unfold ContributionStore.remove
  rw [bind_of_ok (show (get : ContributionM _) s = .ok s s from rfl)]
  cases s.get identity.projectId capability with
  | some r =>
    simp only
    split
    · rfl
    · split
      · rfl
      · split
        · rfl
        · exact ⟨_, rfl⟩
  | none =>
    simp only
    split
    · rfl
    · rfl

/-- An operation that succeeds removes records or is a publication; an operation that fails changes nothing. -/
theorem run_ends (toLowercase : String → String) (s : ContributionStore) (op : ContributionOp) : Ends
      (fun _ s' => (∃ keep, s' = s.retain keep) ∨
        ∃ candidate expectedOld old, publish toLowercase candidate expectedOld s = .ok old s')
      (fun _ s' => s' = s) (op.run toLowercase s) := by
  cases op with
  | publish candidate expectedOld =>
    change Ends _ _ (EStateM.map _ (publish toLowercase candidate expectedOld) s)
    unfold EStateM.map
    cases hrun : publish toLowercase candidate expectedOld s with
    | ok old s' => exact Or.inr ⟨candidate, expectedOld, old, hrun⟩
    | error e s' => exact publish_error hrun
  | unpublish identity => exact (unpublish_ends identity s).mono (fun _ _ h => Or.inl ⟨_, h⟩) fun _ _ h => h
  | clearProject projectId => exact Or.inl ⟨_, rfl⟩
  | clearInstance identity => exact Or.inl ⟨_, rfl⟩
  | remove identity capability => exact (remove_ends identity capability s).mono (fun _ _ h => Or.inl h) fun _ _ h => h

/-! ## A run -/

theorem countOf_retain (s : ContributionStore) (keep : ContributionKey → ContributionRecord → Bool) (projectId : ScopeId) :
    countOf (s.retain keep) projectId ≤ countOf s projectId :=
  (List.filter_sublist.filter _).length_le

theorem sound_retain (h : ContributionsSound s) (keep : ContributionKey → ContributionRecord → Bool) :
    ContributionsSound (s.retain keep) := by
  have hsub : ∀ r ∈ (s.retain keep).values, r ∈ s.values :=
    fun r hr => (List.filter_sublist.map Prod.snd).subset hr
  refine ⟨fun r₁ h₁ r₂ h₂ => h.one_identity r₁ (hsub r₁ h₁) r₂ (hsub r₂ h₂), ?_, one_per_capability _⟩
  intro projectId
  have hbudget := h.budget projectId
  rw [length_filter_project] at hbudget ⊢
  exact (countOf_retain s keep projectId).trans hbudget

theorem sound_publish (h : ContributionsSound s) (hrun : publish toLowercase candidate expectedOld s = .ok old s') :
    ContributionsSound s' := by
  refine ⟨?_, ?_, one_per_capability _⟩
  · intro r₁ h₁ r₂ h₂ hproject hplugin
    rcases (mem_values_publish hrun r₁).mp h₁ with h₁ | ⟨c₁, -, rfl⟩
    · obtain ⟨hmem₁, hother⟩ := mem_others.mp h₁
      rcases (mem_values_publish hrun r₂).mp h₂ with h₂ | ⟨c₂, -, rfl⟩
      · exact h.one_identity r₁ hmem₁ r₂ (mem_others.mp h₂).1 hproject hplugin
      · rcases hother with hother | hother
        · exact absurd hproject hother
        · exact absurd hplugin hother
    · rcases (mem_values_publish hrun r₂).mp h₂ with h₂ | ⟨c₂, -, rfl⟩
      · rcases (mem_others.mp h₂).2 with hother | hother
        · exact absurd hproject.symm hother
        · exact absurd hplugin.symm hother
      · rfl
  · intro projectId
    have hbudget := h.budget projectId
    rw [length_filter_project] at hbudget ⊢
    exact (registerAll_spec (publish_ok_iff.mp hrun).2.2).2.1 projectId ((countOf_retain s _ projectId).trans hbudget)

theorem sound_step (h : ContributionsSound s) (op : ContributionOp) : ContributionsSound (s.step toLowercase op) := by
  have hends := run_ends toLowercase s op
  unfold ContributionStore.step
  cases hrun : op.run toLowercase s with
  | ok u s' =>
    rw [hrun] at hends
    rcases hends with ⟨keep, rfl⟩ | ⟨candidate, expectedOld, old, hpublish⟩
    · exact sound_retain h keep
    · exact sound_publish h hpublish
  | error e s' =>
    rw [hrun] at hends
    rw [show s' = s from hends]
    exact h

theorem sound_new : ContributionsSound .new := by
  refine ⟨fun _ h => absurd h List.not_mem_nil, ?_, one_per_capability _⟩
  intro projectId
  exact Nat.zero_le _

theorem opsSound (s : ContributionStore) : ContributionOpsSound toLowercase s := by
  refine ⟨fun _ _ _ _ h => (publish_ok_iff.mp h).1, fun _ _ _ _ h => others_publish h, ?_, ?_⟩
  · intro identity s' h
    have hends := unpublish_ends identity s
    rw [h] at hends
    rw [show s' = _ from hends]
    exact others_clearInstance identity s
  · intro op e s' h
    have hends := run_ends toLowercase s op
    rw [h] at hends
    exact hends

/-! ## After a publication -/

/-- What the publisher of a candidate finds: its identity, if it has published anything. -/
def identityAfter (candidate : ContributionCandidate) : Option ContributionInstanceIdentity :=
  if candidate.contributions = [] then none else some candidate.identity

theorem mem_ofPlugin_publish (h : publish toLowercase candidate expectedOld s = .ok old s') (r : ContributionRecord) :
    r ∈ ofPlugin s' candidate.identity.projectId candidate.identity.pluginId ↔
      ∃ c ∈ candidate.contributions, r = recordOf candidate.identity c := by
  rw [mem_ofPlugin, mem_values_publish h, mem_others]
  constructor
  · rintro ⟨⟨-, hother⟩ | hown, hproject, hplugin⟩
    · rcases hother with hother | hother
      · exact absurd hproject hother
      · exact absurd hplugin hother
    · exact hown
  · rintro ⟨c, hc, rfl⟩
    exact ⟨Or.inr ⟨c, hc, rfl⟩, rfl, rfl⟩

theorem currentIdentity_publish (h : publish toLowercase candidate expectedOld s = .ok old s') :
    s'.currentIdentity candidate.identity.projectId candidate.identity.pluginId = .ok (identityAfter candidate) := by
  unfold identityAfter
  split
  · next hnil =>
    refine currentIdentity_of_nil (List.eq_nil_iff_forall_not_mem.mpr ?_)
    intro r hr
    obtain ⟨c, hc, -⟩ := (mem_ofPlugin_publish h r).mp hr
    rw [hnil] at hc
    exact List.not_mem_nil hc
  · next hne =>
    obtain ⟨c, hc⟩ := List.exists_mem_of_ne_nil _ hne
    refine currentIdentity_of_all (List.ne_nil_of_mem ((mem_ofPlugin_publish h _).mpr ⟨c, hc, rfl⟩)) ?_
    intro r hr
    obtain ⟨c, -, rfl⟩ := (mem_ofPlugin_publish h r).mp hr
    rfl

/-- The next publication of the plugin does what it would have done in the place of the first. -/
theorem publish_publish {candidate' : ContributionCandidate} {s'' : ContributionStore}
    (h : publish toLowercase candidate expectedOld s = .ok old s')
    (hproject : candidate'.identity.projectId = candidate.identity.projectId)
    (hplugin : candidate'.identity.pluginId = candidate.identity.pluginId) :
    publish toLowercase candidate' (identityAfter candidate) s' = .ok (identityAfter candidate) s'' ↔
      publish toLowercase candidate' expectedOld s = .ok expectedOld s'' := by
  obtain ⟨hcurrent, -, hall⟩ := publish_ok_iff.mp h
  rw [publish_ok_iff, publish_ok_iff, kept_of_publish hproject hplugin hall, hproject, hplugin, currentIdentity_publish h, hcurrent]
  exact ⟨fun h => ⟨rfl, rfl, h.2.2⟩, fun h => ⟨rfl, rfl, h.2.2⟩⟩

/-- Withdrawing the identity that is there leaves nothing of the plugin. -/
theorem currentIdentity_clearInstance {identity : ContributionInstanceIdentity}
    (h : ∀ r ∈ ofPlugin s identity.projectId identity.pluginId, r.identity = identity) :
    (clearInstance identity s).currentIdentity identity.projectId identity.pluginId = .ok none := by
  refine currentIdentity_of_nil (List.eq_nil_iff_forall_not_mem.mpr ?_)
  intro r hr
  obtain ⟨hmem, hproject, hplugin⟩ := mem_ofPlugin.mp hr
  obtain ⟨hrecord, hkeep⟩ := List.mem_filter.mp (mem_values.mp hmem)
  have hidentity := h r (mem_ofPlugin.mpr ⟨mem_values.mpr hrecord, hproject, hplugin⟩)
  rw [← hidentity] at hkeep
  simp [ContributionRecord.identity, ContributionRecord.key] at hkeep

end ContributionAux

/-! ## The theorems -/

/-- After any operations, the records of a plugin in a project have one identity, a project has no more records than its budget
and one for each capability; and whatever comes next, a publication succeeds only against the identity that is there, no
publication and no withdrawal touches a record of another plugin or project, and an error changes nothing. -/
theorem contribution_store_sound (toLowercase : String → String) (trace : List ContributionOp) :
    ContributionsSound (Run.after (ContributionStore.step toLowercase) .new trace) ∧
      ContributionOpsSound toLowercase (Run.after (ContributionStore.step toLowercase) .new trace) := by
  refine ⟨?_, ContributionAux.opsSound _⟩
  exact Run.invariant (I := ContributionsSound) (fun s op h => ContributionAux.sound_step h op) trace ContributionAux.sound_new

/-- After a publication, the identity that is there is the candidate's if it has a contribution, and otherwise there is none. The
same candidate can be published again against it, any other candidate of the plugin as it could have been in place of the first,
and the candidate's identity, if it is there, can be withdrawn. -/
theorem publish_can_continue (toLowercase : String → String) (s : ContributionStore) (candidate : ContributionCandidate)
    (expectedOld old : Option ContributionInstanceIdentity) (s' : ContributionStore)
    (h : ContributionStore.publish toLowercase candidate expectedOld s = .ok old s') :
    ∃ current, current = (if candidate.contributions = [] then none else some candidate.identity) ∧
      s'.currentIdentity candidate.identity.projectId candidate.identity.pluginId = .ok current ∧
      ContributionStore.publish toLowercase candidate current s' = .ok current s' ∧
      (∀ candidate' : ContributionCandidate, candidate'.identity.projectId = candidate.identity.projectId →
        candidate'.identity.pluginId = candidate.identity.pluginId → ∀ s'',
        ContributionStore.publish toLowercase candidate' current s' = .ok current s'' ↔
          ContributionStore.publish toLowercase candidate' expectedOld s = .ok expectedOld s'') ∧
      (candidate.contributions ≠ [] → ∃ s'', ContributionStore.unpublish candidate.identity s' = .ok () s'' ∧
        s''.currentIdentity candidate.identity.projectId candidate.identity.pluginId = .ok none) := by
  have hcurrent := ContributionAux.currentIdentity_publish h
  refine ⟨ContributionAux.identityAfter candidate, rfl, hcurrent, ?_, ?_, ?_⟩
  · obtain rfl := (ContributionAux.publish_ok_iff.mp h).2.1
    exact (ContributionAux.publish_publish h rfl rfl).mpr h
  · intro candidate' hproject hplugin s''
    exact ContributionAux.publish_publish h hproject hplugin
  · intro hne
    refine ⟨ContributionStore.clearInstance candidate.identity s', ?_, ContributionAux.currentIdentity_clearInstance ?_⟩
    · rw [ContributionAux.unpublish_eq, hcurrent, ContributionAux.identityAfter, if_neg hne]
      simp only [ne_eq, not_true_eq_false, if_false]
    · intro r hr
      obtain ⟨c, -, rfl⟩ := (ContributionAux.mem_ofPlugin_publish h r).mp hr
      rfl

namespace SampleContribution

def identity : ContributionInstanceIdentity where
  projectId := ⟨"project.a", by decide +kernel⟩
  pluginId := ⟨"plugin.sample", by decide +kernel⟩
  packageDigest := "1111111111111111111111111111111111111111111111111111111111111111"
  activationGeneration := ⟨1, one_nonzero⟩
  hostInstanceId := "instance.1"

def schema : BoundedJsonSchema := ⟨.obj [("properties", .obj []), ("type", .str "object")]⟩

def declaration : ContributionDeclaration where
  id := ⟨"tool.sample", by decide +kernel⟩
  kind := .tool
  contractMajor := 1
  label := "Sample"
  purpose := "Count the rows of a table"
  inputSchema := some schema
  outputSchema := some schema
  mediaTypes := []
  skillPath := none
  panelSlot := none

/-- What the tool is published with. -/
def candidate : ContributionCandidate where
  identity := identity
  contributions := [
    { capability := declaration.id
      kind := declaration.kind
      contractMajor := declaration.contractMajor
      label := declaration.label
      purpose := declaration.purpose
      inputSchema := declaration.inputSchema
      outputSchema := declaration.outputSchema
      mediaTypes := declaration.mediaTypes
      skillPath := declaration.skillPath
      panelSlot := declaration.panelSlot }]

/-- The lower-case form of a text in ASCII. -/
def asciiLowercase (text : String) : String := String.ofList (text.toList.map Char.toLower)

def published : ContributionStore := final (ContributionStore.publish asciiLowercase candidate none .new)

def ended {α : Type} (r : EStateM.Result ContributionError ContributionStore α) : Except ContributionError α :=
  match r with
  | .ok a _ => .ok a
  | .error e _ => .error e

theorem eq_ok_of_ended {α : Type} {r : EStateM.Result ContributionError ContributionStore α} {a : α} (h : ended r = .ok a) :
    r = .ok a (final r) := by
  cases r with
  | ok b s =>
    cases h
    rfl
  | error e s => cases h

end SampleContribution

open SampleContribution in
/-- A published tool is there under its identity, can be published again and can be withdrawn. -/
theorem sample_publish_continues :
    ContributionStore.stage asciiLowercase identity [declaration] = .ok candidate ∧
      published.currentIdentity identity.projectId identity.pluginId = .ok (some identity) ∧
      ContributionStore.publish asciiLowercase candidate (some identity) published = .ok (some identity) published ∧
      ∃ s, ContributionStore.unpublish identity published = .ok () s := by
  have hrun : ContributionStore.publish asciiLowercase candidate none .new = .ok none published :=
    eq_ok_of_ended (by decide +kernel)
  obtain ⟨current, rfl, hcurrent, hagain, -, hunpublish⟩ :=
    publish_can_continue asciiLowercase .new candidate none none published hrun
  obtain ⟨s, hs, -⟩ := hunpublish (List.cons_ne_nil _ _)
  exact ⟨by decide +kernel, hcurrent, hagain, s, hs⟩

open SampleContribution in
/-- A plugin without contributions is published, and its identity is not there: it can neither be published against it nor
withdrawn. -/
theorem empty_publish_leaves_nothing : ContributionStore.stage asciiLowercase identity [] = .ok ⟨identity, []⟩ ∧
      ContributionStore.publish asciiLowercase ⟨identity, []⟩ none .new = .ok none .new ∧
      ContributionStore.new.currentIdentity identity.projectId identity.pluginId = .ok none ∧
      ContributionStore.publish asciiLowercase ⟨identity, []⟩ (some identity) .new = .error .expectedOldMismatch .new ∧
      ContributionStore.unpublish identity .new = .error .expectedOldMismatch .new := by
  refine ⟨by decide +kernel, rfl, by decide +kernel, rfl, rfl⟩

end Rho
