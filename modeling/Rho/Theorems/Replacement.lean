import Rho.Lemmas.Journal

/-!
# Replacing the accepted package

Two properties of the digests in a state row. A replacement swaps them at once and only for the transition that the row names,
from the digest it expects to the one it was asked for, so a transition swaps them once. A row says that an update waits only
while it has a pending digest, as long as no discovery finds the accepted package again behind a pending one: the digest is
cleared then and the word stays.
-/

namespace Rho.PluginLifecycle

open LifecycleDb Fallible PluginState Journal

/-! ## Completing a replacement -/

/-- The database after a replacement: the row and the transition it names have moved, and nothing else but the events. -/
structure Swaps (db db' : LifecycleDb) (t : Transition) (s : PluginState) : Prop where
  stored : db.transitions.get t.transitionId = some t
  row : db.states.get (t.projectRoot, t.pluginId) = some s
  kind : t.kind = .upgrade ∨ t.kind = .rollback
  expected : s.acceptedDigest = t.expectedOldDigest
  candidate : s.pendingDigest = t.candidateDigest
  named : s.transitionId = some t.transitionId
  swapped : ∃ s', db'.states.get (t.projectRoot, t.pluginId) = some s' ∧ s'.acceptedDigest = t.candidateDigest ∧
    s'.rollbackDigest = s.acceptedDigest ∧ s'.pendingDigest = none ∧ s'.observedState = .active
  terminal : ∃ t', db'.transitions.get t.transitionId = some t' ∧ t'.phase = .completed ∧ t'.status = .completed
  digests : ∃ old new, t.expectedOldDigest = some old ∧ t.candidateDigest = some new
  otherStates : ∀ k, k ≠ (t.projectRoot, t.pluginId) → db'.states.get k = db.states.get k
  otherTransitions : ∀ id, id ≠ t.transitionId → db'.transitions.get id = db.transitions.get id
  tombstones : db'.tombstones = db.tombstones

variable {db db' : LifecycleDb} {root id host now : String} {t : Transition} {s : Journal}

/-- A replacement writes nothing, or swaps the digests for the transition it is called with. -/
theorem completeReplacement_cases {r : RequestResult} (h : db.completeReplacement root id host now = .ok (r, db')) :
    (r.outcome ≠ .applied ∧ db' = db) ∨ (r.outcome = .applied ∧ ∃ t s, requiredProjectRoot root = .ok t.projectRoot ∧
      checkIdentifier "transition id" id = .ok t.transitionId ∧ t.phase = .pointerSwapped ∧ Swaps db db' t s ∧ Frame db db') := by
  unfold completeReplacement at h
  obtain ⟨root', hroot, h⟩ := bind_eq_ok h
  obtain ⟨id', hid, h⟩ := bind_eq_ok h
  obtain ⟨host', -, h⟩ := bind_eq_ok h
  obtain ⟨t, ht, h⟩ := bind_eq_ok h
  have ht := required_eq_ok ht
  split at h
  · cases h
  rename_i hkind
  obtain ⟨old, hold, h⟩ := bind_eq_ok h
  obtain ⟨new, hnew, h⟩ := bind_eq_ok h
  obtain ⟨s, hs, h⟩ := bind_eq_ok h
  have hold := required_eq_ok hold
  have hnew := required_eq_ok hnew
  have hs := required_eq_ok hs
  split at h
  · cases h
    exact .inl ⟨by simp, rfl⟩
  split at h
  · rename_i hexact
    obtain ⟨hphase, -, -, haccepted, hpending, hnamed⟩ := hexact
    cases h
    obtain ⟨hget, htroot, htid⟩ := get_of_getTransition ht
    subst htroot
    subst htid
    have hframe := ((frame_editTransition db t.transitionId (Transition.finished_transitionId none now)
      (fun _ => rfl)).trans (frameAll_editState t.projectRoot t.pluginId (replaced_key new old host')
        .transitionCompleted now).1)
    refine .inr ⟨rfl, t, s, hroot, hid, hphase, ?_, hframe⟩
    refine { stored := hget, row := hs, kind := ?_, expected := ?_, candidate := ?_, named := hnamed, swapped := ?_,
             terminal := ?_, digests := ⟨old, new, hold, hnew⟩, otherStates := ?_, otherTransitions := ?_, tombstones := rfl }
    · by_contra hneither
      exact hkind (not_or.mp hneither)
    · rw [haccepted, hold]
    · rw [hpending, hnew]
    · refine ⟨s.replaced new old host', ?_, hnew.symm, haccepted.symm, rfl, rfl⟩
      exact getState_editState (replaced_key new old host') hs
    · refine ⟨t.finished none now, ?_, rfl, rfl⟩
      simp only [record, editState, editTransition, Table.get_update_key, if_true, hget]
      rfl
    · intro k hk
      exact get_editState_of_ne (replaced_key new old host') hk
    · intro other hother
      simp only [record, editState, editTransition, Table.get_update_key, if_neg hother]
  · cases h
    exact .inl ⟨by simp, rfl⟩

/-- A transition in the last phase is not written again. -/
theorem completed_move {cleared : Option (String × String)} (hmove : JournalMove cleared db db')
    (hget : db.transitions.get id = some t) (hphase : t.phase = .completed) : db'.transitions.get id = some t := by
  cases hmove with
  | kept htransitions _ => rw [htransitions, hget]
  | restored _ _ _ htransitions _ => rw [htransitions, hget]
  | requested u _ _ _ hinsert _ _ => exact Table.get_insert_of_get hinsert hget
  | moved u u' hgetu _ _ _ hrank _ hrows _ =>
    by_cases hsame : id = u.transitionId
    · rw [hsame, hgetu] at hget
      cases hget
      have hlast : u'.phase.rank ≤ Phase.completed.rank := by cases u'.phase <;> decide
      rw [hphase] at hrank
      omega
    · rw [hrows, if_neg hsame, hget]

theorem completed_after (hpassed : s.AllPassed) (trace : List JournalStep)
    (hget : s.db.transitions.get id = some t) (hphase : t.phase = .completed) :
    (Run.after step s trace).db.transitions.get id = some t := by
  induction trace generalizing s with
  | nil => exact hget
  | cons l trace ih => exact ih (allPassed_step hpassed l) (completed_move (move_step hpassed l) hget hphase)

/-- The outcome that a replacement answers; nothing for an error. -/
def answered (x : Except String (RequestResult × LifecycleDb)) : Option Outcome := x.toOption.map (fun r => r.1.outcome)

/-- What the journal promises of replacements from one state on. -/
structure ReplacementsSound (s : Journal) : Prop where
  /-- An answer that is not `Applied`, and an error, go with a database that is as it was. -/
  idle : ∀ root id host now, answered (s.db.completeReplacement root id host now) ≠ some .applied →
    (s.step (.completeReplacement root id host now)).db = s.db
  /-- `Applied` goes with a swap, for the transition of the call. -/
  swaps : ∀ root id host now, answered (s.db.completeReplacement root id host now) = some .applied →
    ∃ t state, checkIdentifier "transition id" id = .ok t.transitionId ∧
      Swaps s.db (s.step (.completeReplacement root id host now)).db t state
  /-- A transition that has swapped the digests does not swap them again, whatever happens in between. -/
  once : ∀ root id host now root' id' host' now' rest,
    answered (s.db.completeReplacement root id host now) = some .applied →
    checkIdentifier "transition id" id' = checkIdentifier "transition id" id →
    answered ((Run.after Journal.step (s.step (.completeReplacement root id host now)) rest).db.completeReplacement
      root' id' host' now') ≠ some .applied
  /-- An upgrade that is rolled back leaves the old package accepted and the new one to roll back to. -/
  back : ∀ root id host now root' id' host' now' rest t t' state state' db db' A B,
    s.db.completeReplacement root id host now = .ok (⟨.applied, state, t⟩, db) →
    t.kind = .upgrade → t.expectedOldDigest = some A → t.candidateDigest = some B →
    (Run.after Journal.step (s.step (.completeReplacement root id host now)) rest).db.completeReplacement root' id' host' now' =
      .ok (⟨.applied, state', t'⟩, db') →
    t'.kind = .rollback → t'.pluginId = t.pluginId → t'.projectRoot = t.projectRoot → t'.expectedOldDigest = some B →
    t'.candidateDigest = some A →
    state.acceptedDigest = some B ∧ state.rollbackDigest = some A ∧
      ∃ s', db'.states.get (t.projectRoot, t.pluginId) = some s' ∧ s'.acceptedDigest = some A ∧ s'.rollbackDigest = some B

theorem answered_eq_applied {x : Except String (RequestResult × LifecycleDb)} (h : answered x = some .applied) :
    ∃ r db', x = .ok (r, db') ∧ r.outcome = .applied := by
  match x with
  | .error _ => cases h
  | .ok (r, db') => exact ⟨r, db', rfl, Option.some.inj h⟩

/-- A replacement that is applied, as a swap of the state it is called in. -/
theorem swaps_of_applied (h : answered (s.db.completeReplacement root id host now) = some .applied) :
    ∃ t state, checkIdentifier "transition id" id = .ok t.transitionId ∧ t.phase = .pointerSwapped ∧
      Swaps s.db (s.step (.completeReplacement root id host now)).db t state := by
  obtain ⟨r, db', hcall, hr⟩ := answered_eq_applied h
  rcases completeReplacement_cases hcall with ⟨hnot, -⟩ | ⟨-, t, state, -, hid, hphase, hswaps, -⟩
  · exact absurd hr hnot
  · refine ⟨t, state, hid, hphase, ?_⟩
    simp only [step, stepDb, hcall, commit]
    exact hswaps

/-- What a replacement that is applied answers is what it has written. -/
theorem applied_answer {state : PluginState} (h : db.completeReplacement root id host now = .ok (⟨.applied, state, t⟩, db')) :
    db'.states.get (t.projectRoot, t.pluginId) = some state ∧ state.acceptedDigest = t.candidateDigest ∧
      state.rollbackDigest = t.expectedOldDigest := by
  unfold completeReplacement at h
  obtain ⟨root', -, h⟩ := bind_eq_ok h
  obtain ⟨id', -, h⟩ := bind_eq_ok h
  obtain ⟨host', -, h⟩ := bind_eq_ok h
  obtain ⟨u, hu, h⟩ := bind_eq_ok h
  split at h
  · cases h
  obtain ⟨old, hold, h⟩ := bind_eq_ok h
  obtain ⟨new, hnew, h⟩ := bind_eq_ok h
  obtain ⟨s, hs, h⟩ := bind_eq_ok h
  split at h
  · cases h
  split at h
  · cases h
    refine ⟨?_, (required_eq_ok hnew).symm, (required_eq_ok hold).symm⟩
    have hroot := (get_of_getTransition (required_eq_ok hu)).2.1
    rw [show (Transition.finished none now u).projectRoot = root' from hroot]
    exact getState_editState (replaced_key new old host') (required_eq_ok hs)
  · cases h

/-- From every database, and after any steps of any connections, the replacements are sound. -/
theorem replacements_sound (db : LifecycleDb) (trace : List JournalStep) :
    ReplacementsSound (Run.after Journal.step ⟨db, fun _ => none⟩ trace) := by
  have hpassed : (Run.after Journal.step ⟨db, fun _ => none⟩ trace).AllPassed :=
    Run.invariant (I := Journal.AllPassed) (fun _ l h => allPassed_step h l) trace (fun _ _ hd => by cases hd)
  generalize Run.after Journal.step ⟨db, fun _ => none⟩ trace = s at hpassed
  refine ⟨?_, ?_, ?_, ?_⟩
  · intro root id host now hanswer
    simp only [Journal.step, Journal.stepDb]
    cases hcall : s.db.completeReplacement root id host now with
    | error _ => rfl
    | ok result =>
      obtain ⟨r, db'⟩ := result
      rw [hcall] at hanswer
      rcases completeReplacement_cases hcall with ⟨-, hsame⟩ | ⟨happlied, -⟩
      · exact hsame
      · exact absurd (congrArg some happlied) hanswer
  · intro root id host now hanswer
    obtain ⟨t, state, hid, -, hswaps⟩ := swaps_of_applied hanswer
    exact ⟨t, state, hid, hswaps⟩
  · intro root id host now root' id' host' now' rest hanswer hsame hagain
    obtain ⟨t, state, hid, -, hswaps⟩ := swaps_of_applied hanswer
    obtain ⟨u, state', hid', hphase', hswaps'⟩ := swaps_of_applied hagain
    -- the transition is in its last phase, and a replacement finds it in the one before
    obtain ⟨t', ht', hphase, -⟩ := hswaps.terminal
    have hkept := completed_after (allPassed_step hpassed _) rest ht' hphase
    have hids : u.transitionId = t.transitionId := by
      rw [hid', hid] at hsame
      exact Except.ok.inj hsame
    rw [← hids, hswaps'.stored] at hkept
    cases hkept
    rw [hphase'] at hphase
    cases hphase
  · intro root id host now root' id' host' now' rest t t' state state' db₁ db₂ A B hfirst _ hexpected hcandidate hsecond _
      hplugin hroot hexpected' hcandidate'
    obtain ⟨-, haccepted, hrollback⟩ := applied_answer hfirst
    obtain ⟨hrow', haccepted', hrollback'⟩ := applied_answer hsecond
    rw [hplugin, hroot] at hrow'
    exact ⟨haccepted.trans hcandidate, hrollback.trans hexpected, state', hrow', haccepted'.trans hcandidate',
      hrollback'.trans hexpected'⟩

/-! The plugin is upgraded from one package to another and rolled back. -/

def otherDigest : String := String.ofList (List.replicate 64 'b')

def samplePackage (digest : String) : DiscoveredDraft := ⟨"/project", "plugin", "plugin", "1.0.0", digest⟩

/-- The plugin is discovered and enabled with the first package. -/
def sampleEnabled : List JournalStep :=
  [.discover (samplePackage sampleDigest) true "0",
   .request (sampleRequest "enable" .enable .enabled none (some sampleDigest) none) "1",
   .readAdvance 0 (sampleAdvance "enable" .completed .completed .active (some sampleDigest)), .writeAdvance 0 "2"]

/-- A replacement from its request to its completion. -/
def sampleReplacement (transitionId : String) (kind : Kind) (old new host : String) : List JournalStep :=
  [.request (sampleRequest transitionId kind .enabled (some old) (some new) none) "3",
   .readAdvance 0 { sampleAdvance transitionId .pointerSwapped .running .active none with clearPendingDigest := false },
   .writeAdvance 0 "4", .completeReplacement "/project" transitionId host "5"]

example : ((Run.after Journal.step .start (sampleEnabled ++ sampleReplacement "up" .upgrade sampleDigest otherDigest "h1" ++
    sampleReplacement "down" .rollback otherDigest sampleDigest "h2")).db.getState "/project" "plugin").map
      (fun s => (s.acceptedDigest, s.rollbackDigest)) = some (some sampleDigest, some otherDigest) := by
  decide +kernel

/-! ## Updates that wait -/

/-- The row says that an update waits only while it has a pending digest that is not the accepted one. -/
def PluginState.updateWaits (s : PluginState) : Bool :=
  s.observedState != .updatePending || s.pendingDigest.any (fun pending => s.acceptedDigest != some pending)

/-- The same of every row. -/
def UpdatesWait (db : LifecycleDb) : Prop := ∀ k s, db.states.get k = some s → s.updateWaits = true

instance (db : LifecycleDb) : Decidable (UpdatesWait db) :=
  inferInstanceAs (Decidable (∀ k s, db.states.get k = some s → s.updateWaits = true))

/-- A discovery, or the completion of a replacement. -/
def JournalStep.isUpdate : JournalStep → Bool
  | .discover _ _ _ | .completeReplacement _ _ _ _ => true
  | _ => false

/-- The step finds the accepted package again in a row that says an update waits. -/
def Journal.findsAcceptedAgain (s : Journal) : JournalStep → Bool
  | .discover draft semver _ =>
    match validateDiscovered draft semver with
    | .error _ => false
    | .ok d => (s.db.getState d.projectRoot d.pluginId).any (fun state =>
        state.observedState == .updatePending && state.acceptedDigest == some d.discoveredDigest)
  | _ => false

/-- One discovery keeps what the row says, unless the accepted package is found again while an update waits. -/
theorem updateWaits_discovered {s : PluginState} (d : DiscoveredDraft) (hwaits : s.updateWaits = true) :
    (s.discovered d).updateWaits = true ↔
      ¬ (s.observedState = .updatePending ∧ s.acceptedDigest = some d.discoveredDigest) := by
  unfold updateWaits discovered
  by_cases hnone : s.acceptedDigest = none
  · simp [hnone]
  by_cases hsame : s.acceptedDigest = some d.discoveredDigest
  · simp [hsame]
  · simp [hnone, hsame]

theorem updatesWait_editState {pluginId : String} {f : PluginState → PluginState}
    (hf : ∀ s, (f s).key = s.key) {s : PluginState} (hget : db.getState root pluginId = some s) (hwait : UpdatesWait db) :
    UpdatesWait (db.editState root pluginId f hf) ↔ (f s).updateWaits = true := by
  constructor
  · intro h
    exact h _ _ (getState_editState hf hget)
  · intro h k s' hs'
    simp only [editState, Table.get_update_key] at hs'
    split at hs'
    · rename_i hk
      rw [hk, show db.states.get (root, pluginId) = some s from hget] at hs'
      cases hs'
      exact h
    · exact hwait k s' hs'

theorem updatesWait_discover (hwait : UpdatesWait s.db) (draft : DiscoveredDraft) (semver : Bool) (now : String) :
    UpdatesWait (s.step (.discover draft semver now)).db ↔ s.findsAcceptedAgain (.discover draft semver now) = false := by
  simp only [step, stepDb, findsAcceptedAgain, upsertDiscovered]
  cases hd : validateDiscovered draft semver with
  | error e => exact ⟨fun _ => rfl, fun _ => hwait⟩
  | ok d =>
    simp only [bind, Except.bind]
    cases hstate : s.db.getState d.projectRoot d.pluginId with
    | none =>
      refine ⟨fun _ => rfl, fun _ => ?_⟩
      dsimp only
      split
      · exact hwait
      · rename_i states hinsert
        -- the row of a plugin that is found for the first time waits for nothing
        intro k state hget
        have hget : states.get k = some state := hget
        rw [Table.get_insert hinsert] at hget
        split at hget
        · cases hget
          rfl
        · exact hwait k state hget
    | some state =>
      have hrow := hwait _ _ hstate
      dsimp only
      split
      · rename_i hunchanged
        -- a row that is found as it is has no pending digest behind which the accepted one could be found
        refine ⟨fun _ => ?_, fun _ => hwait⟩
        obtain ⟨-, -, hdigest⟩ := hunchanged
        simp only [Option.any_some, Bool.and_eq_false_imp, beq_iff_eq, beq_eq_false_iff_ne, ne_eq]
        intro hpending haccepted
        simp only [updateWaits, hpending, haccepted, bne_self_eq_false, Bool.false_or] at hrow
        rcases hdigest with hdigest | ⟨-, hdigest⟩
        · simp [hdigest] at hrow
        · simp [hdigest] at hrow
      · have hedit : UpdatesWait ((s.db.editState d.projectRoot d.pluginId (discovered d)
            (discovered_key d)).record d.projectRoot d.pluginId .discovery now) ↔ _ :=
          updatesWait_editState (discovered_key d) hstate hwait
        refine hedit.trans ((updateWaits_discovered d hrow).trans ?_)
        simp only [Option.any_some, ← Bool.not_eq_true, Bool.and_eq_true, beq_iff_eq]

theorem updatesWait_completeReplacement (hwait : UpdatesWait s.db) (root id host now : String) :
    UpdatesWait (s.step (.completeReplacement root id host now)).db := by
  simp only [step, stepDb]
  cases hcall : s.db.completeReplacement root id host now with
  | error _ => exact hwait
  | ok result =>
    obtain ⟨r, db'⟩ := result
    rcases completeReplacement_cases hcall with ⟨-, hsame⟩ | ⟨-, t, state, -, -, -, hswaps, -⟩
    · rw [hsame]
      exact hwait
    · intro k row hrow
      obtain ⟨row', hrow', -, -, -, hactive⟩ := hswaps.swapped
      have hrow : db'.states.get k = some row := hrow
      by_cases hk : k = (t.projectRoot, t.pluginId)
      · rw [hk, hrow'] at hrow
        cases hrow
        simp [updateWaits, hactive]
      · rw [hswaps.otherStates k hk] at hrow
        exact hwait k row hrow

theorem updatesWait_step (hwait : UpdatesWait s.db) {l : JournalStep} (hl : l.isUpdate = true) :
    UpdatesWait (s.step l).db ↔ s.findsAcceptedAgain l = false := by
  cases l with
  | discover draft semver now => exact updatesWait_discover hwait draft semver now
  | completeReplacement root id host now => exact ⟨fun _ => rfl, fun _ => updatesWait_completeReplacement hwait root id host now⟩
  | _ => cases hl

/-- Through a run of discoveries and replacements the rows say that an update waits only when one does, exactly when no discovery
of the run finds the accepted package again in a row that says so. -/
theorem updates_wait_iff {s : Journal} (hwait : UpdatesWait s.db) (trace : List JournalStep)
    (htrace : ∀ l ∈ trace, l.isUpdate = true) :
    (∀ before rest, trace = before ++ rest → UpdatesWait (Run.after Journal.step s before).db) ↔
      Run.Along Journal.step (fun s l => s.findsAcceptedAgain l = false) s trace := by
  induction trace generalizing s with
  | nil =>
    refine ⟨fun _ => trivial, ?_⟩
    intro _ before rest heq
    rw [(List.append_eq_nil_iff.mp heq.symm).1]
    exact hwait
  | cons l trace ih =>
    have hstep := updatesWait_step hwait (htrace l List.mem_cons_self)
    constructor
    · intro h
      have hnext := h [l] trace rfl
      refine ⟨hstep.mp hnext, (ih hnext (fun l' hl' => htrace l' (List.mem_cons_of_mem l hl'))).mp ?_⟩
      intro before rest heq
      exact h (l :: before) rest (by rw [heq, List.cons_append])
    · intro h before rest heq
      have hnext := hstep.mpr h.1
      cases before with
      | nil => exact hwait
      | cons l' before =>
        obtain ⟨hl, htail⟩ := List.cons.inj heq
        subst hl
        exact (ih hnext (fun l' hl' => htrace l' (List.mem_cons_of_mem l hl'))).mpr h.2 before rest htail

/-- The package changes on disk and is approved: the row says that an update waits while it does. -/
theorem updates_wait_until_replaced : UpdatesWait (Run.after Journal.step .start sampleEnabled).db ∧
    UpdatesWait (Run.after Journal.step (Run.after Journal.step .start sampleEnabled)
      [.discover (samplePackage otherDigest) true "6"]).db :=
  ⟨by decide +kernel, (updates_wait_iff (by decide +kernel) [.discover (samplePackage otherDigest) true "6"]
    (by decide)).mpr (by decide +kernel) _ [] (List.append_nil _).symm⟩

/-- The package changes on disk and changes back: nothing is pending and the row still says that an update waits. -/
theorem update_reported_after_revert :
    ¬ ∀ (s : Journal) (trace : List JournalStep), UpdatesWait s.db → (∀ l ∈ trace, l.isUpdate = true) →
      UpdatesWait (Run.after Journal.step s trace).db := by
  intro h
  have hreported : ¬ UpdatesWait (Run.after Journal.step (Run.after Journal.step .start sampleEnabled)
      [.discover (samplePackage otherDigest) true "6", .discover (samplePackage sampleDigest) true "7"]).db := by
    decide +kernel
  exact hreported (h _ _ (by decide +kernel) (by decide))

end Rho.PluginLifecycle
