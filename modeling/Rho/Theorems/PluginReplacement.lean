import Rho.Theorems.PluginAuthority

/-!
# What a failed replacement leaves behind

An update or a rollback changes the registry and the journal in turns. Some of its steps clean up after their failure, others hand
the error on as it is. What is left is in order exactly when the first step that fails is one of the former.
-/

namespace Rho.PluginRegistry

open Effect PluginPermission WasmPluginHost

variable {s : Surroundings} {ctx : PluginContext} {f : Findings} {r r₁ : Registry}

/-! ## What is expected -/

/-- Nothing is under way for the plugin: its active runtime takes calls and its contributions are published, or it has neither. -/
structure Settled (r : Registry) : Prop where
  idle : r.transition = none
  accepting : ∀ old ∈ r.active, old.host.state = .active ∧ r.published = old.contributionIdentity
  removed : r.active = none → r.published = none

/-- The transition of the call is over, and the old runtime is active, takes calls and has its contributions published, or the plugin
has neither a runtime nor contributions. -/
structure Restored (r r' : Registry) : Prop where
  finished : ∀ t ∈ r'.transition, t.status.isTerminal = true
  runtime : (∃ old ∈ r.active, ∃ a ∈ r'.active, a.host.identity = old.host.identity ∧ a.host.state = .active ∧
      r'.published = a.contributionIdentity) ∨
    (r'.active = none ∧ r'.published = none)

/-! ## The steps that may fail -/

/-- The preparation of the candidate fails. -/
def preparationFails (s : Surroundings) (f : Findings) (expectedOld published : Option ContributionInstanceIdentity)
    (db : PermissionDb) : Bool :=
  (s.fault .readState).isSome || ((s.fault .allocateGeneration).isSome || ((s.fault (.advance .grantsReady)).isSome ||
    ((s.fault .startHost).isSome || ((s.fault .stageContributions).isSome ||
      (!(ensure (published == expectedOld) "plugin contribution replacement expectation is stale").isOk ||
        fails (mintHandles s f.handles db))))))

/-- The steps of a replacement. After the last of these no failure is cleaned up after. -/
def replacementStages (s : Surroundings) (ctx : PluginContext) (f : Findings) (expectedOldDigest : String) (r : Registry) : List Stage :=
  [⟨!(checkOld ctx expectedOldDigest r).isOk, false⟩,
    ⟨preparationFails s f (r.active.bind ActivePlugin.contributionIdentity) r.published r.permissions, true⟩,
    ⟨(s.fault (.advance .candidateActivated)).isSome, false⟩,
    ⟨r.active.any (fun old => !(cancelOldCall s old.host).1.isOk), false⟩,
    ⟨r.active.any (fun old => !(quiesceOld s (cancelOldCall s old.host).2).1.isOk), false⟩,
    ⟨(s.fault .publish).isSome, false⟩,
    ⟨(s.fault (.advance .pointerSwapped)).isSome, true⟩]

/-- The steps from the planning of the permissions on. -/
def plannedStages (s : Surroundings) (ctx : PluginContext) (f : Findings) (expectedOldDigest : String) (r : Registry) : List Stage :=
  if f.requests.isEmpty then replacementStages s ctx f expectedOldDigest r else [⟨fails (createRequests s f r.permissions), true⟩]

/-- The steps of an update. -/
def updateStages (s : Surroundings) (ctx : PluginContext) (f : Findings) (input : UpdateInput) (r : Registry) : List Stage :=
  ⟨!(checkUpdate s ctx f input r).isOk, true⟩ ::
    ⟨(s.fault (.requestTransition .upgrade)).isSome, true⟩ ::
    ⟨(s.fault (.advance .preflight)).isSome, false⟩ ::
    ⟨(s.fault .preparePackage).isSome, true⟩ ::
    ⟨(s.fault (.advance .backupPrepared)).isSome, false⟩ ::
    ⟨(s.fault .planPermissions).isSome, false⟩ ::
    plannedStages s ctx f input.expectedOldDigest r

/-- The steps of a rollback. -/
def rollbackStages (s : Surroundings) (ctx : PluginContext) (f : Findings) (input : RollbackInput) (r : Registry) : List Stage :=
  ⟨!(checkRollback ctx f input r).isOk, true⟩ ::
    ⟨(s.fault (.requestTransition .rollback)).isSome, true⟩ ::
    ⟨(s.fault (.advance .preflight)).isSome, false⟩ ::
    ⟨(s.fault (.advance .backupPrepared)).isSome, false⟩ ::
    ⟨(s.fault .planPermissions).isSome, false⟩ ::
    plannedStages s ctx f input.expectedCurrentDigest r

/-! ## The journal -/

/-- The registry with the transition so far and the permission records at some point of the call. -/
def Registry.during (r : Registry) (t : Option Progress) (db : PermissionDb) : Registry := { r with transition := t, permissions := db }

theorem Progress.fail_isTerminal (t : Progress) : t.fail.status.isTerminal = true := by
  unfold Progress.fail
  split
  · assumption
  · rfl

/-- What is restored once the failure is recorded. -/
theorem restored_of_failed (hsettled : Settled r) (t : Option Progress) (db : PermissionDb) :
    Restored r (r.during (t.map Progress.fail) db) := by
  refine ⟨?_, ?_⟩
  · intro p hp
    obtain ⟨q, -, rfl⟩ := Option.map_eq_some_iff.mp hp
    exact q.fail_isTerminal
  · cases hactive : r.active with
    | none => exact .inr ⟨hactive, hsettled.removed hactive⟩
    | some old =>
      obtain ⟨hstate, hpublished⟩ := hsettled.accepting old hactive
      exact .inl ⟨old, rfl, old, hactive, rfl, hstate, hpublished⟩

theorem restored_self (hsettled : Settled r) : Restored r r := by
  have h := restored_of_failed hsettled none r.permissions
  rwa [Option.map_none, ← hsettled.idle] at h

variable {r' : Registry} {Q : Unit → Registry → Prop} {E : String → Registry → Prop} {α : Type} {old : ActivePlugin} {p : Prop}

/-- A transition that is not over is left open. -/
theorem not_restored_of_open {t : Progress} (h : r'.transition = some t) (hopen : t.status.isTerminal = false) :
    ¬ Restored r r' := by
  intro hrestored
  rw [hrestored.finished t h] at hopen
  cases hopen

theorem advanceTransition_failsWhen {next : PluginLifecycle.Phase} {status : PluginLifecycle.Status}
    (hQ : Q () { r with transition := r.transition.map fun _ => ⟨next, status⟩ }) (hE : ∀ e, E e r) :
    FailsWhen (s.fault (.advance next)).isSome Q E (advanceTransition s next status r) := by
  unfold advanceTransition
  rw [← Bool.or_false (s.fault (.advance next)).isSome]
  exact failsWhen_bind (P := fun _ t => t = r) (failsWhen_attempt rfl hE) fun _ t h => failsWhen_modify (h ▸ hQ)

theorem requestTransition_failsWhen {kind : PluginLifecycle.Kind}
    (hQ : Q () { r with transition := some ⟨.requested, .pending⟩ }) (hE : ∀ e, E e r) :
    FailsWhen (s.fault (.requestTransition kind)).isSome Q E (requestTransition s kind r) := by
  unfold requestTransition
  rw [← Bool.or_false (s.fault (.requestTransition kind)).isSome]
  exact failsWhen_bind (P := fun _ t => t = r) (failsWhen_attempt rfl hE) fun _ t h => failsWhen_modify (h ▸ hQ)

/-- A failure that can be recorded is recorded. -/
theorem failTransition_eq (hrecord : s.fault .failTransition = none) (r : Registry) :
    failTransition s r = .ok () { r with transition := r.transition.map Progress.fail } := by
  unfold failTransition
  rw [hrecord]
  rfl

theorem recorded (hrecord : s.fault .failTransition = none) (r : Registry) :
    (handle (failTransition s) pure (fun _ => pure ()) : RegistryM Unit) r = .ok () { r with transition := r.transition.map Progress.fail } := by
  unfold handle
  rw [failTransition_eq hrecord]
  rfl

theorem orFail_failsWhen (hrecord : s.fault .failTransition = none) {b : Bool} {x : RegistryM α} {Q : α → Registry → Prop}
    (hx : FailsWhen b Q (fun e r' => E e { r' with transition := r'.transition.map Progress.fail }) (x r)) :
    FailsWhen b Q E (orFail s x r) := by
  unfold orFail
  refine ends_handle hx (fun _ _ h => by exact h) ?_
  rintro e r' ⟨hfails, h⟩
  rw [bind_of_ok (recorded hrecord r')]
  exact ⟨hfails, h⟩

/-! ## The candidate -/

/-- The preparation of the candidate moves the transition and the records only. -/
theorem prepareActivation_failsWhen (plugin : FoundPlugin) (expectedOld : Option ContributionInstanceIdentity) (p : Progress)
    (hp : p.status.isTerminal = false) (db : PermissionDb) :
    FailsWhen (preparationFails s f expectedOld r.published db)
      (fun _ r' => ∃ db', r' = r.during (some ⟨.grantsReady, .running⟩) db') (fun _ r' => ∃ t db', r' = r.during t db')
      (prepareActivation s f plugin plugin expectedOld (r.during (some p) db)) := by
  have hnever : ∀ t db', ∃ t' db'', r.during t db' = r.during t' db'' := fun t db' => ⟨t, db', rfl⟩
  unfold prepareActivation preparationFails
  refine ends_bind (P := fun _ t => t = r.during (some p) db) ?_ ?_
  · refine ends_ofResult (fun _ _ => rfl) fun e h => ?_
    rw [ensure, beq_self_eq_true, if_pos rfl] at h
    cases h
  rintro - r₀ rfl
  refine failsWhen_bind (P := fun _ t => t = r.during (some p) db) (failsWhen_attempt rfl fun _ => hnever _ _) ?_
  rintro - r₁ rfl
  refine failsWhen_bind (P := fun _ t => t = r.during (some p) db) (failsWhen_attempt rfl fun _ => hnever _ _) ?_
  rintro - r₂ rfl
  refine failsWhen_bind (P := fun _ t => t = r.during (some ⟨.grantsReady, .running⟩) db)
    (advanceTransition_failsWhen rfl fun _ => hnever _ _) ?_
  rintro - r₃ rfl
  refine failsWhen_bind (P := fun _ t => t = r.during (some ⟨.grantsReady, .running⟩) db)
    (failsWhen_attempt rfl fun _ => hnever _ _) ?_
  rintro - r₄ rfl
  refine failsWhen_bind (P := fun _ t => t = r.during (some ⟨.grantsReady, .running⟩) db)
    (failsWhen_attempt rfl fun _ => hnever _ _) ?_
  rintro - r₅ rfl
  refine ends_get ?_
  refine failsWhen_bind (P := fun _ t => t = r.during (some ⟨.grantsReady, .running⟩) db)
    (failsWhen_ofResult (fun _ _ => rfl) fun _ => hnever _ _) ?_
  rintro - r₆ rfl
  refine ends_onPermissions (failsWhen_fails (Q := fun _ db' => ∃ db'', _ = r.during _ db'') (E := fun _ db' => ∃ t db'', _ = r.during t db'')
    (ends_of_forall ?_ ?_))
  · exact fun _ db' => ⟨db', rfl⟩
  · exact fun _ db' => ⟨_, db', rfl⟩

/-! ## The replacement -/

/-- A host that has quiesced is quiescing. -/
theorem quiesceOld_state {host : WasmPluginHost} (h : (quiesceOld s host).1.isOk = true) : (quiesceOld s host).2.state = .quiescing := by
  have hends : Ends (fun response next => response = some .quiesced → next.state = .quiescing) (fun _ _ => True)
      (handleFrame (s.hostEnv .quiesce) ⟨host.identity.hostInstanceId, .quiesce⟩ host) := by
    unfold handleFrame
    refine ends_get ?_
    by_cases hinstance : host.identity.hostInstanceId ≠ host.identity.hostInstanceId
    · rw [if_pos hinstance]
      trivial
    rw [if_neg hinstance]
    by_cases hover : host.state = .disposed ∨ host.state = .quarantined
    · rw [if_pos hover]
      trivial
    rw [if_neg hover]
    unfold quiesce
    refine ends_get ?_
    by_cases hstate : host.state ≠ .active ∧ host.state ≠ .ready
    · rw [if_pos hstate]
      trivial
    rw [if_neg hstate]
    refine ends_bind (P := fun _ _ => True) (ends_of_forall (fun _ _ => trivial) fun _ _ => trivial) ?_
    intro status next _
    refine ends_bind (P := fun _ _ => True) (ends_of_forall (fun _ _ => trivial) fun _ _ => trivial) ?_
    intro _ next _
    refine ends_bind (P := fun _ t => t.state = .quiescing) (ends_modify rfl) ?_
    exact fun _ _ hquiescing _ => hquiescing
  unfold quiesceOld at h ⊢
  cases hrun : handleFrame (s.hostEnv .quiesce) ⟨host.identity.hostInstanceId, .quiesce⟩ host with
  | error e next =>
    rw [hrun] at h
    cases h
  | ok response next =>
    rw [hrun] at h hends
    split at h
    · rename_i heq
      cases heq
      exact hends rfl
    · cases h
    · cases h

theorem checkOld_ok {expectedOldDigest : String} (h : checkOld ctx expectedOldDigest r = .ok old) :
    r.active = some old ∧ old.packageDigest = expectedOldDigest := by
  unfold checkOld at h
  split at h
  · cases h
  · rename_i active hactive
    obtain ⟨_, hensure, h⟩ := Fallible.bind_eq_ok h
    cases h
    have hsame := of_ensure hensure
    rw [Bool.and_eq_true, Bool.and_eq_true, beq_iff_eq, beq_iff_eq] at hsame
    exact ⟨hactive, hsame.1.2⟩

theorem onOldHost_failsWhen {step : WasmPluginHost → Except String α × WasmPluginHost}
    (hactive : r.active = some old) {Q : α → Registry → Prop}
    (hQ : ∀ a, (step old.host).1.isOk = true → Q a { r with active := some { old with host := (step old.host).2 } })
    (hE : ∀ e, E e { r with active := some { old with host := (step old.host).2 } }) :
    FailsWhen (!(step old.host).1.isOk) Q E (onOldHost step r) := by
  rw [onOldHost_of_active hactive]
  exact failsWhen_ofResult (fun a h => hQ a (by rw [h]; rfl)) hE

/-- The old runtime is gone for one that was not there before. -/
theorem not_restored_of_replaced {a : ActivePlugin} (hactive : r'.active = some a)
    (hother : ∀ old ∈ r.active, a.host.identity = old.host.identity → a.host.state ≠ .active) : ¬ Restored r r' := by
  rintro ⟨-, ⟨old, hold, a', ha', hsame, hstate, -⟩ | ⟨hnone, -⟩⟩
  · rw [hactive] at ha'
    cases ha'
    exact hother old hold hsame hstate
  · rw [hactive] at hnone
    cases hnone

/-- The candidate is a runtime of its own. -/
def Fresh (f : Findings) (r : Registry) : Prop := ∀ old ∈ r.active, f.candidate.host.identity ≠ old.host.identity

theorem not_restored_of_candidate (hfresh : Fresh f r) (hactive : r'.active = some f.candidate) : ¬ Restored r r' :=
  not_restored_of_replaced hactive fun old hold hsame => absurd hsame (hfresh old hold)

/-- A candidate that is removed leaves neither a runtime nor contributions. -/
theorem removed_candidate (r' : Registry) (hactive : r'.active = some f.candidate)
    (hpublished : r'.published = f.candidate.contributionIdentity) :
    (removeActivePlugin r').active = none ∧ (removeActivePlugin r').published = none ∧ (removeActivePlugin r').transition = r'.transition := by
  unfold removeActivePlugin
  rw [hactive]
  refine ⟨rfl, ?_, rfl⟩
  dsimp only
  split
  · rfl
  · rename_i hother
    rw [hpublished] at hother ⊢
    cases hidentity : f.candidate.contributionIdentity with
    | none => rfl
    | some identity => exact absurd ⟨by rw [hidentity]; rfl, rfl⟩ hother

theorem false_iff_of_not (h : ¬ p) : p ↔ false = true := iff_of_false h Bool.false_ne_true

theorem true_iff_of (h : p) : p ↔ true = true := ⟨fun _ => rfl, fun _ => h⟩

/-- A replacement that fails leaves the plugin in order exactly when a step fails that is cleaned up after. -/
theorem activateReplacement_staged (hsettled : Settled r) (hfresh : Fresh f r) (hrecord : s.fault .failTransition = none)
    (plugin : FoundPlugin) (expectedOldDigest : String) (p : Progress) (hp : p.status.isTerminal = false) :
    Staged (replacementStages s ctx f expectedOldDigest r) (fun _ r' => r'.active = some f.candidate) (Restored r)
      (activateReplacement s ctx f plugin plugin expectedOldDigest (r.during (some p) r.permissions)) := by
  have hopen : ∀ {p : Progress} {r' : Registry}, r'.transition = some p → p.status.isTerminal = false → (Restored r r' ↔ false = true) :=
    fun h hp => false_iff_of_not (not_restored_of_open h hp)
  unfold activateReplacement replacementStages
  refine ends_get ?_
  refine staged_cons (P := fun old t => (r.active = some old ∧ old.packageDigest = expectedOldDigest) ∧
    t = r.during (some p) r.permissions) ?_ ?_
  · exact failsWhen_ofResult (fun old h => ⟨checkOld_ok h, rfl⟩) fun _ => hopen rfl hp
  rintro old r₁ ⟨⟨hactive, hdigest⟩, rfl⟩
  have hidentity : r.active.bind ActivePlugin.contributionIdentity = old.contributionIdentity := by
    rw [hactive]
    rfl
  have hold : ∀ b : ActivePlugin → Bool, r.active.any b = b old := by
    intro b
    rw [hactive]
    rfl
  rw [hidentity, hold, hold]
  refine staged_cons (P := fun _ t => ∃ db, t = r.during (some ⟨.grantsReady, .running⟩) db) ?_ ?_
  · refine orFail_failsWhen hrecord ((prepareActivation_failsWhen plugin _ p hp _).mono (fun _ _ h => h) ?_)
    rintro e r' ⟨t, db, rfl⟩
    exact true_iff_of (restored_of_failed hsettled t db)
  rintro - r₂ ⟨db, rfl⟩
  refine staged_cons (P := fun _ t => t = r.during (some ⟨.candidateActivated, .running⟩) db)
    (advanceTransition_failsWhen rfl fun _ => hopen rfl rfl) ?_
  rintro - r₃ rfl
  -- the identity of the old runtime was checked before the candidate was prepared
  refine ends_get (ends_bind (P := fun _ t => t = r.during (some ⟨.candidateActivated, .running⟩) db) ?_ ?_)
  · refine ends_ofResult (fun _ _ => rfl) fun e h => ?_
    have hstill : recheckOld expectedOldDigest old.contributionIdentity (r.during (some ⟨.candidateActivated, .running⟩) db) = .ok () := by
      unfold recheckOld Registry.during
      rw [hactive]
      simp only [hdigest, beq_self_eq_true, Bool.and_self]
      rfl
    rw [hstill] at h
    cases h
  rintro - r₄ rfl
  have hactive' : (r.during (some ⟨.candidateActivated, .running⟩) db).active = some old := hactive
  refine staged_cons (P := fun _ t => t.active = some { old with host := (cancelOldCall s old.host).2 } ∧
      t.transition = some ⟨.candidateActivated, .running⟩)
    (onOldHost_failsWhen hactive' (fun _ _ => ⟨rfl, rfl⟩) fun _ => hopen rfl rfl) ?_
  rintro - r₅ ⟨hactive₅, htransition₅⟩
  refine staged_cons (P := fun _ t => t.transition = some ⟨.candidateActivated, .running⟩ ∧
      ∃ host : WasmPluginHost, host.state = .quiescing ∧ t.active = some { old with host := host })
    (onOldHost_failsWhen hactive₅ (fun _ hok => ⟨htransition₅, _, quiesceOld_state hok, rfl⟩) fun _ => hopen htransition₅ rfl) ?_
  rintro - r₆ ⟨htransition₆, host, hquiescing, hactive₆⟩
  refine staged_cons (P := fun _ t => t.transition = some ⟨.candidateActivated, .running⟩ ∧
    t.published = f.candidate.contributionIdentity) ?_ ?_
  · refine orFail_failsWhen hrecord ?_
    unfold publishCandidate
    rw [← Bool.or_false (s.fault .publish).isSome]
    refine failsWhen_bind (P := fun _ t => t = r₆) (failsWhen_attempt rfl fun _ => ?_) fun _ t h =>
      failsWhen_modify ⟨h ▸ htransition₆, rfl⟩
    refine false_iff_of_not (not_restored_of_replaced (a := { old with host := host }) hactive₆ fun _ _ _ => ?_)
    rw [hquiescing]
    exact nofun
  rintro - r₇ ⟨htransition₇, hpublished₇⟩
  refine ends_bind (P := fun _ t => t = { r₇ with active := some f.candidate }) (ends_modify rfl) ?_
  rintro - r₈ rfl
  refine staged_cons (P := fun _ t => t.active = some f.candidate ∧ t.published = f.candidate.contributionIdentity ∧
    t.transition = some ⟨.pointerSwapped, .running⟩) ?_ ?_
  · refine ends_handle (advanceTransition_failsWhen (Q := fun _ t => t.active = some f.candidate ∧
      t.published = f.candidate.contributionIdentity ∧ t.transition = some ⟨.pointerSwapped, .running⟩)
      (E := fun _ t => t = { r₇ with active := some f.candidate }) ⟨rfl, hpublished₇, ?_⟩ fun _ => rfl) (fun _ _ h => by exact h) ?_
    · rw [htransition₇]
      rfl
    rintro e t ⟨hfails, rfl⟩
    obtain ⟨hnone, hunpublished, -⟩ := removed_candidate { r₇ with active := some f.candidate } rfl hpublished₇
    refine ends_bind (P := fun _ t => t = removeActivePlugin { r₇ with active := some f.candidate }) (ends_modify rfl) ?_
    rintro - t rfl
    rw [bind_of_ok (recorded hrecord _)]
    refine ⟨hfails, true_iff_of ⟨?_, .inr ⟨hnone, hunpublished⟩⟩⟩
    intro q hq
    obtain ⟨q, -, rfl⟩ := Option.map_eq_some_iff.mp hq
    exact q.fail_isTerminal
  rintro - r₉ ⟨hactive₉, hpublished₉, htransition₉⟩
  refine staged_nil (ends_bind (P := fun _ t => t.active = some f.candidate) ?_ fun _ _ h => by exact h)
  refine ends_handle (P := fun _ t => t.active = some f.candidate) (R := fun _ t => t = r₉) ?_ (fun _ _ h => by exact h) ?_
  · exact ends_bind (P := fun _ t => t = r₉) (ends_attempt (fun _ => rfl) fun _ _ => rfl) fun _ _ h => ends_modify (h ▸ hactive₉)
  · rintro e t rfl
    refine ends_bind (P := fun _ t' => t' = removeActivePlugin t) (ends_modify rfl) ?_
    rintro - t' rfl
    exact not_restored_of_open ((removed_candidate _ hactive₉ hpublished₉).2.2.trans htransition₉) rfl

/-! ## Update and rollback -/

theorem awaitReview_staged (hsettled : Settled r) (hrecord : s.fault .failTransition = none) (pending : PendingEnable) (reusable : Nat)
    (p : Progress) : Staged [⟨fails (createRequests s f r.permissions), true⟩] (fun _ _ => True) (Restored r)
      (awaitReview s f pending reusable (r.during (some p) r.permissions)) := by
  unfold awaitReview
  refine staged_cons (P := fun _ _ => True) ?_ ?_
  · refine orFail_failsWhen hrecord (ends_onPermissions (failsWhen_fails (Q := fun _ _ => True)
      (E := fun _ db => Restored r (r.during (some p.fail) db) ↔ true = true) (ends_of_forall (fun _ _ => trivial) fun _ db => ?_)))
    exact true_iff_of (restored_of_failed hsettled (some p) db)
  · intro _ r₁ _
    exact staged_nil (ends_bind (P := fun _ _ => True) (ends_modify trivial) fun _ _ _ => trivial)

/-- From the planning of the permissions on. -/
theorem planned_staged (hsettled : Settled r) (hfresh : Fresh f r) (hrecord : s.fault .failTransition = none) (plugin : FoundPlugin)
    (pluginId expectedOldDigest reasonCode : String) (pending : PendingEnable) (reusable : Nat) (p : Progress)
    (hp : p.status.isTerminal = false) :
    Staged (plannedStages s ctx f expectedOldDigest r) (fun _ _ => True) (Restored r)
      ((if f.requests.isEmpty then do
          let result ← activateReplacement s ctx f plugin plugin expectedOldDigest
          let _ ← onPermissions (revokeExactDurableGrants s ctx.projectRoot pluginId expectedOldDigest reasonCode)
          return result
        else awaitReview s f pending reusable : RegistryM EnableResult) (r.during (some p) r.permissions)) := by
  unfold plannedStages
  cases f.requests.isEmpty with
  | true =>
    rw [if_pos rfl, if_pos rfl]
    refine staged_bind (activateReplacement_staged hsettled hfresh hrecord plugin expectedOldDigest p hp) ?_
    intro result r₁ hactive
    refine ends_bind (P := fun _ _ => True) (ends_onPermissions (ends_of_forall (fun _ _ => trivial) fun _ db => ?_)) fun _ _ _ => trivial
    exact not_restored_of_candidate hfresh hactive
  | false =>
    rw [if_neg Bool.false_ne_true, if_neg Bool.false_ne_true]
    exact awaitReview_staged hsettled hrecord pending reusable p

theorem requestUpdate_staged (hsettled : Settled r) (hfresh : Fresh f r) (hrecord : s.fault .failTransition = none)
    (transitionId : String) (input : UpdateInput) :
    Staged (updateStages s ctx f input r) (fun _ _ => True) (Restored r) (requestUpdate s ctx f transitionId input r) := by
  have hopen : ∀ {p : Progress} {r' : Registry}, r'.transition = some p → p.status.isTerminal = false → (Restored r r' ↔ false = true) :=
    fun h hp => false_iff_of_not (not_restored_of_open h hp)
  unfold requestUpdate updateStages
  refine ends_get ?_
  refine staged_cons (P := fun _ t => t = r) (failsWhen_ofResult (fun _ _ => rfl) fun _ => true_iff_of (restored_self hsettled)) ?_
  rintro plugin t rfl
  refine staged_cons (P := fun _ r₁ => r₁ = t.during (some ⟨.requested, .pending⟩) t.permissions)
    (requestTransition_failsWhen rfl fun _ => true_iff_of (restored_self hsettled)) ?_
  rintro - r₁ rfl
  refine staged_cons (P := fun _ r₂ => r₂ = t.during (some ⟨.preflight, .running⟩) t.permissions)
    (advanceTransition_failsWhen rfl fun _ => hopen rfl rfl) ?_
  rintro - r₂ rfl
  refine staged_cons (P := fun _ r₃ => r₃ = t.during (some ⟨.preflight, .running⟩) t.permissions) ?_ ?_
  · exact orFail_failsWhen hrecord (failsWhen_attempt rfl fun _ =>
      true_iff_of (restored_of_failed hsettled (some ⟨.preflight, .running⟩) t.permissions))
  rintro - r₃ rfl
  refine staged_cons (P := fun _ r₄ => r₄ = t.during (some ⟨.backupPrepared, .running⟩) t.permissions)
    (advanceTransition_failsWhen rfl fun _ => hopen rfl rfl) ?_
  rintro - r₄ rfl
  refine staged_cons (P := fun _ r₅ => r₅ = t.during (some ⟨.backupPrepared, .running⟩) t.permissions)
    (failsWhen_attempt rfl fun _ => hopen rfl rfl) ?_
  rintro - r₅ rfl
  exact planned_staged hsettled hfresh hrecord plugin _ _ _ _ _ _ rfl

theorem requestRollback_staged (hsettled : Settled r) (hfresh : Fresh f r) (hrecord : s.fault .failTransition = none)
    (transitionId : String) (input : RollbackInput) :
    Staged (rollbackStages s ctx f input r) (fun _ _ => True) (Restored r) (requestRollback s ctx f transitionId input r) := by
  have hopen : ∀ {p : Progress} {r' : Registry}, r'.transition = some p → p.status.isTerminal = false → (Restored r r' ↔ false = true) :=
    fun h hp => false_iff_of_not (not_restored_of_open h hp)
  unfold requestRollback rollbackStages
  refine ends_get ?_
  refine staged_cons (P := fun _ t => t = r) (failsWhen_ofResult (fun _ _ => rfl) fun _ => true_iff_of (restored_self hsettled)) ?_
  rintro target t rfl
  refine staged_cons (P := fun _ r₁ => r₁ = t.during (some ⟨.requested, .pending⟩) t.permissions)
    (requestTransition_failsWhen rfl fun _ => true_iff_of (restored_self hsettled)) ?_
  rintro - r₁ rfl
  refine staged_cons (P := fun _ r₂ => r₂ = t.during (some ⟨.preflight, .running⟩) t.permissions)
    (advanceTransition_failsWhen rfl fun _ => hopen rfl rfl) ?_
  rintro - r₂ rfl
  refine staged_cons (P := fun _ r₃ => r₃ = t.during (some ⟨.backupPrepared, .running⟩) t.permissions)
    (advanceTransition_failsWhen rfl fun _ => hopen rfl rfl) ?_
  rintro - r₃ rfl
  refine staged_cons (P := fun _ r₄ => r₄ = t.during (some ⟨.backupPrepared, .running⟩) t.permissions)
    (failsWhen_attempt rfl fun _ => hopen rfl rfl) ?_
  rintro - r₄ rfl
  exact planned_staged hsettled hfresh hrecord target _ _ _ _ _ _ rfl

/-- An update or a rollback that fails leaves the plugin in order exactly when the first step that fails is cleaned up after. -/
theorem failed_replacement_iff (s : Surroundings) (ctx : PluginContext) (f : Findings) (transitionId : String) (r r' : Registry)
    (e : String) (hsettled : Settled r) (hfresh : Fresh f r) (hrecord : s.fault .failTransition = none) :
    (∀ input, requestUpdate s ctx f transitionId input r = .error e r' →
      (Restored r r' ↔ failsSafely (updateStages s ctx f input r) = true)) ∧
    (∀ input, requestRollback s ctx f transitionId input r = .error e r' →
      (Restored r r' ↔ failsSafely (rollbackStages s ctx f input r) = true)) := by
  constructor
  · intro input herror
    have h : Staged (updateStages s ctx f input r) _ _ _ := requestUpdate_staged hsettled hfresh hrecord transitionId input
    rw [herror] at h
    exact h
  · intro input herror
    have h : Staged (rollbackStages s ctx f input r) _ _ _ := requestRollback_staged hsettled hfresh hrecord transitionId input
    rw [herror] at h
    exact h

/-! ## Two failures of an update -/

namespace SampleAuthority

/-- Only this step fails. -/
def failing (step : Step) : Surroundings := { surroundings with fault := fun s => if s = step then some "unavailable" else none }

def update : UpdateInput := ⟨"plugin", oldDigest, newDigest, 0⟩

def rollback : RollbackInput := ⟨"plugin", oldDigest, newDigest, 0⟩

theorem settled_running : Settled (running none emptyDb) := ⟨rfl, fun _ h => by cases h; exact ⟨rfl, rfl⟩, nofun⟩

theorem fresh_running (discovered : String) (observed : PluginLifecycle.ObservedState) :
    Fresh (findings discovered observed) (running none emptyDb) := by
  intro old h
  cases h
  change (runtime newDigest "instance.2").host.identity ≠ (runtime oldDigest "instance.1").host.identity
  decide

end SampleAuthority

attribute [local irreducible] requestUpdate updateStages requestRollback rollbackStages

/-- The planning of the permissions fails, and the transition stays open. -/
theorem transition_left_open : ∃ e r', requestUpdate (SampleAuthority.failing .planPermissions) SampleAuthority.context
      (SampleAuthority.findings SampleAuthority.newDigest .updatePending) "transition.1" SampleAuthority.update
      (SampleAuthority.running none emptyDb) = .error e r' ∧
    ¬ Restored (SampleAuthority.running none emptyDb) r' := by
  have hrun : (match requestUpdate (SampleAuthority.failing .planPermissions) SampleAuthority.context
      (SampleAuthority.findings SampleAuthority.newDigest .updatePending) "transition.1" SampleAuthority.update
      (SampleAuthority.running none emptyDb) with
    | .ok _ _ => false
    | .error _ r' => r'.transition == some ⟨.backupPrepared, .running⟩) = true := by
    decide +kernel
  cases herror : requestUpdate (SampleAuthority.failing .planPermissions) SampleAuthority.context
      (SampleAuthority.findings SampleAuthority.newDigest .updatePending) "transition.1" SampleAuthority.update
      (SampleAuthority.running none emptyDb) with
  | ok result r' =>
    rw [herror] at hrun
    cases hrun
  | error e r' =>
    rw [herror] at hrun
    exact ⟨e, r', rfl, not_restored_of_open (beq_iff_eq.mp hrun) rfl⟩

/-- The candidate's host does not start, and the old package is active as before. -/
theorem old_runtime_kept : (∃ e r', requestUpdate (SampleAuthority.failing .startHost) SampleAuthority.context
        (SampleAuthority.findings SampleAuthority.newDigest .updatePending) "transition.1" SampleAuthority.update
        (SampleAuthority.running none emptyDb) = .error e r' ∧ Restored (SampleAuthority.running none emptyDb) r') ∧
    (∃ e r', requestRollback (SampleAuthority.failing .startHost) SampleAuthority.context
        (SampleAuthority.findings SampleAuthority.oldDigest .active) "transition.1" SampleAuthority.rollback
        (SampleAuthority.running none emptyDb) = .error e r' ∧ Restored (SampleAuthority.running none emptyDb) r') := by
  have hrecord : (SampleAuthority.failing .startHost).fault .failTransition = none := rfl
  constructor
  · obtain ⟨e, r', herror⟩ := of_fails (x := requestUpdate (SampleAuthority.failing .startHost) SampleAuthority.context
      (SampleAuthority.findings SampleAuthority.newDigest .updatePending) "transition.1" SampleAuthority.update
      (SampleAuthority.running none emptyDb)) (by decide +kernel)
    exact ⟨e, r', herror, ((failed_replacement_iff _ _ _ _ _ _ e SampleAuthority.settled_running (SampleAuthority.fresh_running _ _)
      hrecord).1 _ herror).mpr (by decide +kernel)⟩
  · obtain ⟨e, r', herror⟩ := of_fails (x := requestRollback (SampleAuthority.failing .startHost) SampleAuthority.context
      (SampleAuthority.findings SampleAuthority.oldDigest .active) "transition.1" SampleAuthority.rollback
      (SampleAuthority.running none emptyDb)) (by decide +kernel)
    exact ⟨e, r', herror, ((failed_replacement_iff _ _ _ _ _ _ e SampleAuthority.settled_running (SampleAuthority.fresh_running _ _)
      hrecord).2 _ herror).mpr (by decide +kernel)⟩

end Rho.PluginRegistry
