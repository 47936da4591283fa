import Mathlib.Data.List.ReduceOption
import Rho.Theorems.Replacement

/-!
# Asking for the same transition again

A request whose id is taken is answered `Unchanged` when the stored transition was asked for the same. The desired state is not a
column of the transition, so it is not compared: of the two kinds that leave it open, a draft with the other desired state passes
for a replay. In all other fields the answer is exact, after every history of the journal.
-/

namespace Rho.PluginLifecycle

open Journal Fallible

/-- The two drafts agree in every field that says what is asked for. -/
def SameIntent (d d' : TransitionDraft) : Prop := d'.intent = d.intent ∧ d'.desiredState = d.desiredState

instance (d d' : TransitionDraft) : Decidable (SameIntent d d') :=
  inferInstanceAs (Decidable (d'.intent = d.intent ∧ d'.desiredState = d.desiredState))

/-- The draft of the transition that a step adds, as it was checked. -/
def Journal.creates (s : Journal) : JournalStep → Option TransitionDraft
  | .request draft now =>
    match s.db.requestTransition draft now with
    | .ok (⟨.applied, _, _⟩, _) => (validateTransitionDraft draft).toOption
    | _ => none
  | _ => none

/-- The drafts of the transitions that a history has added. -/
def creators (trace : List JournalStep) : List TransitionDraft :=
  (Run.outputs Journal.step Journal.creates .start trace).reduceOption

theorem creators_append (trace : List JournalStep) (l : JournalStep) :
    creators (trace ++ [l]) = creators trace ++ ((Run.after step .start trace).creates l).toList := by
  unfold creators
  rw [Run.outputs_append, List.reduceOption_append]
  simp only [Run.outputs]
  cases (Run.after step .start trace).creates l <;> rfl

/-! ## The checks of a draft -/

variable {draft d : TransitionDraft} {t : Transition} {s : Journal} {l : JournalStep} {drafts : List TransitionDraft}

/-- A draft that is accepted has a desired state of its kind. -/
theorem validateTransitionDraft_desired (h : validateTransitionDraft draft = .ok d) :
    desiredMatches d.kind d.desiredState = true := by
  unfold validateTransitionDraft at h
  split at h
  · cases h
  rename_i hdesired
  obtain ⟨expectedOldDigest, -, h⟩ := bind_eq_ok h
  obtain ⟨candidateDigest, -, h⟩ := bind_eq_ok h
  obtain ⟨rollbackDigest, -, h⟩ := bind_eq_ok h
  obtain ⟨⟨⟩, -, h⟩ := bind_eq_ok h
  obtain ⟨transitionId, -, h⟩ := bind_eq_ok h
  obtain ⟨projectRoot, -, h⟩ := bind_eq_ok h
  obtain ⟨pluginId, -, h⟩ := bind_eq_ok h
  obtain ⟨backupPathKey, -, h⟩ := bind_eq_ok h
  cases h
  simpa using hdesired

/-- But for two kinds, the kind says which desired state. -/
theorem desired_of_kind {kind : Kind} {desired desired' : DesiredState} (h : desiredMatches kind desired = true)
    (h' : desiredMatches kind desired' = true) (hkind : kind ≠ .projectTeardown ∧ kind ≠ .shutdown) : desired' = desired := by
  cases kind <;> simp_all [desiredMatches]

theorem Transition.matchesDraft_iff (hid : t.transitionId = d.transitionId)
    (hroot : t.projectRoot = d.projectRoot) : t.matchesDraft d = true ↔ t.intent = d.intent := by
  simp [Transition.matchesDraft, Transition.intent, TransitionDraft.intent, hid, hroot, and_assoc]

/-! ## The rows of a history -/

/-- A step that adds no transition leaves a frame. -/
theorem frame_step (h : s.creates l = none) : Frame s.db (s.step l).db := by
  have hcommit : ∀ {α : Type} (x : Except String (α × LifecycleDb)), (∀ r db', x = .ok (r, db') → Frame s.db db') →
      Frame s.db (commit s.db x) := by
    intro α x hx
    match x with
    | .error _ => exact .refl s.db
    | .ok (r, db') => exact hx r db' rfl
  have hsame : ∀ {db' : LifecycleDb}, db' = s.db → Frame s.db db' := fun h => h ▸ .refl s.db
  simp only [step]
  cases l with
  | discover draft semver now =>
    simp only [stepDb]
    exact hcommit _ (fun _ _ hx => (quiet_upsertDiscovered hx).frame.1)
  | request draft now =>
    simp only [stepDb]
    refine hcommit _ ?_
    intro r db' hx
    obtain ⟨d, hd, hcases⟩ := requestTransition_cases hx
    rcases hcases with ⟨-, hkept, -⟩ | ⟨-, hkept, -⟩ | ⟨happlied, -⟩
    · exact hsame hkept
    · exact hsame hkept
    · obtain ⟨outcome, state, t⟩ := r
      cases happlied
      simp [creates, hx, hd, Except.toOption] at h
  | readAdvance connection draft => exact .refl s.db
  | writeAdvance connection now =>
    simp only [stepDb]
    cases s.pending connection with
    | none => exact .refl s.db
    | some d => exact hcommit _ (fun _ _ hx => (frame_writeAdvance hx).1)
  | allocate root pluginId transitionId expected =>
    simp only [stepDb]
    exact hcommit _ (fun _ _ hx => (quiet_allocateGeneration hx).frame.1)
  | completeUninstall transitionId draft now =>
    simp only [stepDb]
    exact hcommit _ (fun _ _ hx => (completeUninstall_cases hx).elim (fun h => hsame h.2) (fun h => h.2.1))
  | completeRestore root tombstoneId now =>
    simp only [stepDb]
    exact hcommit _ (fun _ _ hx => (completeRestore_writes hx).elim (fun h => hsame h.2) (fun h => h.2.1))
  | expire root cutoff limit now =>
    simp only [stepDb]
    refine hcommit _ ?_
    intro r db' hx
    obtain ⟨root', text, -, hwritten, -⟩ := expireTombstones_cases hx
    rw [hwritten]
    exact frame_expireAll root' now _ s.db
  | requestPurge draft now =>
    simp only [stepDb]
    exact hcommit _ (fun _ _ hx => (requestPurge_cases hx).elim (fun h => hsame h.2) (fun h => h.2.1))
  | completePurge draft now =>
    simp only [stepDb]
    exact hcommit _ (fun _ _ hx => (completePurge_cases hx).elim (fun h => hsame h.2) (fun h => h.2.1))
  | completeReplacement root transitionId hostSessionId now =>
    simp only [stepDb]
    refine hcommit _ ?_
    intro r db' hx
    rcases completeReplacement_cases hx with ⟨-, hkept⟩ | ⟨-, t, state, -, -, -, -, hframe⟩
    · exact hsame hkept
    · exact hframe
  | recoveryRequired root pluginId transitionId reasonCode now =>
    simp only [stepDb]
    exact hcommit _ (fun _ _ hx => (quiet_recordRecoveryRequired hx).frame.1)
  | crash root pluginId packageDigest hostSessionId reasonCode now cutoff =>
    simp only [stepDb]
    exact hcommit _ (fun _ _ hx => (quiet_recordCrash hx).frame.1)

/-- A step that adds a transition inserts the row of its draft under an id that was free. -/
theorem creates_some (h : s.creates l = some d) :
    desiredMatches d.kind d.desiredState = true ∧ (∃ state, s.db.getState d.projectRoot d.pluginId = some state) ∧
      (∃ now, s.db.transitions.insert (d.transition now) = some (s.step l).db.transitions) ∧
      ∀ k state, s.db.states.get k = some state → ∃ state', (s.step l).db.states.get k = some state' := by
  cases l with
  | request draft now =>
    simp only [creates] at h
    split at h
    · rename_i state t db' hx
      obtain ⟨d', hd', hcases⟩ := requestTransition_cases hx
      rw [hd'] at h
      cases h
      rcases hcases with ⟨hnot, -⟩ | ⟨hnot, -⟩ | ⟨-, -, hstate, hinsert, hstates, -⟩
      · cases hnot
      · rcases hnot with hnot | hnot <;> cases hnot
      · simp only [step, stepDb, hx, commit]
        exact ⟨validateTransitionDraft_desired hd', hstate, ⟨now, hinsert⟩, hstates⟩
    · cases h
  | _ => cases h

/-- What the rows of a history have to do with the drafts it has added. -/
structure Recorded (s : Journal) (drafts : List TransitionDraft) : Prop where
  stored : ∀ d ∈ drafts, ∃ t, s.db.transitions.get d.transitionId = some t ∧ t.intent = d.intent
  state : ∀ d ∈ drafts, ∃ row, s.db.getState d.projectRoot d.pluginId = some row
  created : ∀ id t, s.db.transitions.get id = some t → ∃ d ∈ drafts, t.intent = d.intent
  desired : ∀ d ∈ drafts, desiredMatches d.kind d.desiredState = true

theorem recorded_keep (h : Recorded s drafts) (hl : s.creates l = none) : Recorded (s.step l) drafts := by
  have hframe := frame_step hl
  -- a row is kept with what it was asked for, in both directions
  have hkept : ∀ {db db' : LifecycleDb} {id : String} {t : Transition},
      (db'.transitions.get id).map Transition.intent = (db.transitions.get id).map Transition.intent →
      db.transitions.get id = some t → ∃ t', db'.transitions.get id = some t' ∧ t'.intent = t.intent := by
    intro db db' id t heq hget
    rw [hget, Option.map_some] at heq
    exact Option.map_eq_some_iff.mp heq
  refine ⟨?_, ?_, ?_, h.desired⟩
  · intro d hd
    obtain ⟨t, hget, ht⟩ := h.stored d hd
    obtain ⟨t', hget', ht'⟩ := hkept (hframe.transitions d.transitionId) hget
    exact ⟨t', hget', ht'.trans ht⟩
  · intro d hd
    obtain ⟨row, hrow⟩ := h.state d hd
    exact hframe.states _ row hrow
  · intro id t hget
    obtain ⟨t', hget', ht'⟩ := hkept (hframe.transitions id).symm hget
    obtain ⟨d, hd, heq⟩ := h.created id t' hget'
    exact ⟨d, hd, ht'.symm.trans heq⟩

theorem recorded_create (h : Recorded s drafts) (hl : s.creates l = some d) : Recorded (s.step l) (drafts ++ [d]) := by
  obtain ⟨hdesired, ⟨row, hrow⟩, ⟨now, hinsert⟩, hstates⟩ := creates_some hl
  refine ⟨?_, ?_, ?_, ?_⟩
  · intro d' hd'
    rcases List.mem_append.mp hd' with hd' | hd'
    · obtain ⟨t, hget, ht⟩ := h.stored d' hd'
      exact ⟨t, Table.get_insert_of_get hinsert hget, ht⟩
    · rw [List.mem_singleton.mp hd']
      exact ⟨d.transition now, by rw [Table.get_insert hinsert]; exact if_pos rfl, rfl⟩
  · intro d' hd'
    rcases List.mem_append.mp hd' with hd' | hd'
    · obtain ⟨row', hrow'⟩ := h.state d' hd'
      exact hstates _ row' hrow'
    · rw [List.mem_singleton.mp hd']
      exact hstates _ row hrow
  · intro id t hget
    rw [Table.get_insert hinsert] at hget
    split at hget
    · cases hget
      exact ⟨d, List.mem_append_right _ (List.mem_singleton_self d), rfl⟩
    · obtain ⟨d', hd', heq⟩ := h.created id t hget
      exact ⟨d', List.mem_append_left _ hd', heq⟩
  · intro d' hd'
    rcases List.mem_append.mp hd' with hd' | hd'
    · exact h.desired d' hd'
    · rw [List.mem_singleton.mp hd']
      exact hdesired

/-- The transitions of every history are those of its drafts. -/
theorem recorded_after (trace : List JournalStep) : Recorded (Run.after step .start trace) (creators trace) := by
  induction trace using List.reverseRecOn with
  | nil =>
    refine ⟨?_, ?_, ?_, ?_⟩
    · intro d hd
      cases hd
    · intro d hd
      cases hd
    · intro id t hget
      cases hget
    · intro d hd
      cases hd
  | append_singleton trace l ih =>
    rw [creators_append, Run.after_append]
    cases hl : (Run.after step .start trace).creates l with
    | none => simpa using recorded_keep ih hl
    | some d => exact recorded_create ih hl

/-! ## The answer -/

/-- What a history promises of a further request. -/
structure ReplayExact (trace : List JournalStep) (draft : TransitionDraft) (now : String) : Prop where
  /-- `Unchanged` goes with a draft that has added its transition before and that asks for the same. -/
  unchanged : ∀ d, validateTransitionDraft draft = .ok d →
    answered ((Run.after Journal.step .start trace).db.requestTransition draft now) = some .unchanged →
    ∃ d' ∈ creators trace, SameIntent d' d
  /-- A draft under an id that is taken and that asks for something else is refused and changes nothing. -/
  rejected : ∀ d, validateTransitionDraft draft = .ok d → ∀ d' ∈ creators trace, d'.transitionId = d.transitionId →
    ¬ SameIntent d' d →
    answered ((Run.after Journal.step .start trace).db.requestTransition draft now) ∉ [some .applied, some .unchanged] ∧
      ((Run.after Journal.step .start trace).step (.request draft now)).db = (Run.after Journal.step .start trace).db

/-- The draft repeats one that has been added, of a kind that leaves the desired state open, with the same desired state. -/
def RepeatsDesired (trace : List JournalStep) (draft : TransitionDraft) : Prop :=
  ∀ d, validateTransitionDraft draft = .ok d → d.kind = .projectTeardown ∨ d.kind = .shutdown →
    ∀ d' ∈ creators trace, d.intent = d'.intent → d.desiredState = d'.desiredState

/-- A draft that asks for what a stored transition was asked for is answered `Unchanged`. -/
theorem answered_unchanged (h : Recorded s drafts) {d' : TransitionDraft}
    (hd : validateTransitionDraft draft = .ok d) (hd' : d' ∈ drafts) (heq : d.intent = d'.intent) (now : String) :
    answered (s.db.requestTransition draft now) = some .unchanged := by
  obtain ⟨t, hget, ht⟩ := h.stored d' hd'
  obtain ⟨row, hrow⟩ := h.state d' hd'
  have hintent := ht.trans heq.symm
  have hfields := hintent
  simp only [Transition.intent, TransitionDraft.intent, Intent.mk.injEq] at hfields heq
  obtain ⟨hid, hroot, hplugin, -⟩ := hfields
  rw [← heq.2.1, ← heq.2.2.1] at hrow
  rw [← heq.1] at hget
  have hfound : s.db.getTransition d.projectRoot d.transitionId = some t :=
    Option.filter_eq_some_iff.mpr ⟨hget, decide_eq_true hroot⟩
  have hmatches := (Transition.matchesDraft_iff hid hroot).mpr hintent
  simp [LifecycleDb.requestTransition, hd, hfound, hrow, hmatches, LifecycleDb.required, answered, bind, Except.bind,
    Except.toOption]

/-- The transition that an answer `Unchanged` is about was asked for the same. -/
theorem stored_of_unchanged {db : LifecycleDb} {now : String}
    (hd : validateTransitionDraft draft = .ok d) (h : answered (db.requestTransition draft now) = some .unchanged) :
    ∃ t, db.transitions.get d.transitionId = some t ∧ t.intent = d.intent := by
  match hx : db.requestTransition draft now with
  | .error _ =>
    rw [hx] at h
    cases h
  | .ok (r, db') =>
    rw [hx] at h
    have hr : r.outcome = .unchanged := Option.some.inj h
    obtain ⟨d', hd', hcases⟩ := requestTransition_cases hx
    rw [hd] at hd'
    cases hd'
    rcases hcases with ⟨-, -, t, ht, hmatches⟩ | ⟨hnot, -⟩ | ⟨hnot, -⟩
    · obtain ⟨hget, hroot, hid⟩ := get_of_getTransition ht
      exact ⟨t, hget, (Transition.matchesDraft_iff hid hroot).mp hmatches⟩
    · rw [hr] at hnot
      rcases hnot with hnot | hnot <;> cases hnot
    · rw [hr] at hnot
      cases hnot

/-- A request under an id that is taken adds nothing. -/
theorem idle_of_taken (now : String) (hd : validateTransitionDraft draft = .ok d)
    (hget : s.db.transitions.get d.transitionId = some t) :
    answered (s.db.requestTransition draft now) ≠ some .applied ∧ (s.step (.request draft now)).db = s.db := by
  simp only [step, stepDb]
  cases hx : s.db.requestTransition draft now with
  | error _ => exact ⟨by simp [answered, Except.toOption], rfl⟩
  | ok result =>
    obtain ⟨r, db'⟩ := result
    obtain ⟨d', hd', hcases⟩ := requestTransition_cases hx
    rw [hd] at hd'
    cases hd'
    rcases hcases with ⟨hr, hkept, -⟩ | ⟨hr, hkept, -⟩ | ⟨-, -, -, hinsert, -⟩
    · exact ⟨by simp [answered, Except.toOption, hr], hkept⟩
    · refine ⟨?_, hkept⟩
      rcases hr with hr | hr <;> simp [answered, Except.toOption, hr]
    · have hnone := Table.get_of_insert hinsert
      rw [show (d.transition now).transitionId = d.transitionId from rfl, hget] at hnone
      cases hnone

/-- After every history, and for every draft, the answer to a request is exact precisely when a draft that repeats another one
also repeats its desired state, where the kind leaves it open. -/
theorem request_replay_exact_iff (trace : List JournalStep) (draft : TransitionDraft) (now : String) :
    ReplayExact trace draft now ↔ RepeatsDesired trace draft := by
  have hrecorded := recorded_after trace
  unfold RepeatsDesired
  constructor
  · intro hexact d hd _ d' hd' heq
    by_contra hdesired
    have hid : d'.transitionId = d.transitionId := (congrArg Intent.transitionId heq).symm
    have hnot := (hexact.rejected d hd d' hd' hid (fun hsame => hdesired hsame.2)).1
    exact hnot (by rw [answered_unchanged hrecorded hd hd' heq now]; simp)
  · intro hrepeats
    -- a draft that asks for what a stored transition was asked for also has its desired state
    have hsame : ∀ d, validateTransitionDraft draft = .ok d → ∀ d' ∈ creators trace, d.intent = d'.intent → SameIntent d' d := by
      intro d hd d' hd' heq
      refine ⟨heq, ?_⟩
      by_cases hkind : d.kind = .projectTeardown ∨ d.kind = .shutdown
      · exact hrepeats d hd hkind d' hd' heq
      · have hkinds : d.kind = d'.kind := by
          simp only [TransitionDraft.intent, Intent.mk.injEq] at heq
          exact heq.2.2.2.1
        exact desired_of_kind (hkinds ▸ hrecorded.desired d' hd') (validateTransitionDraft_desired hd) (not_or.mp hkind)
    refine ⟨?_, ?_⟩
    · intro d hd hanswer
      obtain ⟨t, hget, ht⟩ := stored_of_unchanged hd hanswer
      obtain ⟨d', hd', heq⟩ := hrecorded.created _ t hget
      exact ⟨d', hd', hsame d hd d' hd' (ht.symm.trans heq)⟩
    · intro d hd d' hd' hid hother
      obtain ⟨t, hget, ht⟩ := hrecorded.stored d' hd'
      rw [hid] at hget
      have hnotUnchanged :
          answered ((Run.after Journal.step .start trace).db.requestTransition draft now) ≠ some .unchanged := by
        intro hanswer
        obtain ⟨t', hget', ht'⟩ := stored_of_unchanged hd hanswer
        rw [hget] at hget'
        cases hget'
        exact hother (hsame d hd d' hd' (ht'.symm.trans ht))
      have hidle := idle_of_taken now hd hget
      refine ⟨?_, hidle.2⟩
      simp only [List.mem_cons, List.not_mem_nil, or_false, not_or]
      exact ⟨hidle.1, hnotUnchanged⟩

/-! A teardown is asked for twice, once to come back disabled and once enabled. -/

/-- The request of a project that is closed. -/
def sampleTeardown (desiredState : DesiredState) : TransitionDraft :=
  sampleRequest "teardown" .projectTeardown desiredState (some sampleDigest) none none

/-- The history of a plugin whose project is closed while it is enabled. -/
def sampleClosed : List JournalStep := sampleEnabled ++ [.request (sampleTeardown .disabled) "3"]

/-- The request that asks for the other desired state passes for a replay. -/
theorem other_desired_state_unchanged :
    ¬ ∀ (trace : List JournalStep) (draft : TransitionDraft) (now : String), ReplayExact trace draft now := by
  intro h
  have hchecked : validateTransitionDraft (sampleTeardown .enabled) = .ok (sampleTeardown .enabled) := by decide +kernel
  have hanswer : answered ((Run.after Journal.step .start sampleClosed).db.requestTransition (sampleTeardown .enabled) "4") =
      some .unchanged := by
    decide +kernel
  have hother : ∀ d ∈ creators sampleClosed, ¬ SameIntent d (sampleTeardown .enabled) := by decide +kernel
  obtain ⟨d, hd, hsame⟩ := (h sampleClosed (sampleTeardown .enabled) "4").unchanged _ hchecked hanswer
  exact hother d hd hsame

end Rho.PluginLifecycle
