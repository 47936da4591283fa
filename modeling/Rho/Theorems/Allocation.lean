import Mathlib.Data.Fintype.Basic
import Rho.Store.Allocation
import Rho.Theorems.PluginJournal

/-!
# Generations over every interleaving of statements

A call that was applied reads its generation back with a statement of its own. As long as no other `UPDATE` of the plugin falls
between the two, the answer is the generation that was asked for and no other call is given it; else the call answers with the
generation of the other.
-/

namespace Rho.PluginLifecycle

open AllocationRace

/-! ## Checked arguments pass their checks again -/

/-- A text that is trimmed on the left stays so when it is trimmed on the right. -/
theorem dropWhile_rdropWhile {α : Type} (p : α → Bool) (l : List α) :
    ((l.dropWhile p).rdropWhile p).dropWhile p = (l.dropWhile p).rdropWhile p := by
  cases hl : (l.dropWhile p).rdropWhile p with
  | nil => rfl
  | cons a rest =>
    obtain ⟨tail, htail⟩ : a :: rest <+: l.dropWhile p := hl ▸ List.rdropWhile_prefix p _
    have hne : l.dropWhile p ≠ [] := by
      rw [← htail]
      exact List.cons_ne_nil _ _
    have hhead := List.head_dropWhile_not p hne
    simp only [← htail, List.cons_append, List.head_cons] at hhead
    rw [List.dropWhile_cons_of_neg (by simp [hhead])]

theorem trim_trim (s : String) : trim (trim s) = trim s := by
  have htrim : ∀ s, (trim s).toList = (s.toList.dropWhile isWhiteSpace).rdropWhile isWhiteSpace := by
    intro s
    rw [trim, String.toList_ofList]
    rfl
  refine String.toList_inj.mp ?_
  rw [htrim, htrim, dropWhile_rdropWhile, List.rdropWhile_idempotent]

theorem checkIdentifier_checked {label value checked : String} (h : checkIdentifier label value = .ok checked) :
    checkIdentifier label checked = .ok checked := by
  unfold checkIdentifier at h ⊢
  dsimp only at h ⊢
  split at h
  · cases h
  · rename_i hvalid
    cases h
    rw [trim_trim, if_neg hvalid]

theorem requiredProjectRoot_checked {root checked : String} (h : requiredProjectRoot root = .ok checked) :
    requiredProjectRoot checked = .ok checked := by
  unfold requiredProjectRoot at h ⊢
  dsimp only at h ⊢
  split at h
  · cases h
  · rename_i hvalid
    cases h
    rw [normalizeProjectRoot_idem, if_neg hvalid]

/-- The read of a call that was checked finds the row under its key. -/
theorem getWorkspacePluginState_checked {root pluginId transitionId : String} {expected : Int} {call : AllocateCall}
    (h : AllocateCall.check root pluginId transitionId expected = .ok call) (db : LifecycleDb) :
    db.getWorkspacePluginState call.root call.pluginId = .ok (db.states.get call.key) := by
  unfold AllocateCall.check at h
  obtain ⟨root', hroot, h⟩ := Fallible.bind_eq_ok h
  obtain ⟨pluginId', hplugin, h⟩ := Fallible.bind_eq_ok h
  obtain ⟨transitionId', -, h⟩ := Fallible.bind_eq_ok h
  split at h
  · cases h
  · cases h
    simp only [LifecycleDb.getWorkspacePluginState, requiredProjectRoot_checked hroot, checkIdentifier_checked hplugin, bind,
      Except.bind]
    rfl

/-! ## The statement -/

/-- The `UPDATE` of an allocation raises the generation of its row from the one that was expected, or changes nothing. -/
theorem updateGeneration_cases (db : LifecycleDb) (call : AllocateCall) :
    (db.states.changed (db.allocates call) = 1 ∧ ∃ row, db.states.get call.key = some row ∧
        row.lastActivationGeneration = call.expected ∧ ∀ k, (db.updateGeneration call).states.get k =
          if k = call.key then some (row.allocated (call.expected + 1)) else db.states.get k) ∨
      (db.states.changed (db.allocates call) ≠ 1 ∧ ∀ k, (db.updateGeneration call).states.get k = db.states.get k) := by
  have hselects : ∀ s, db.allocates call s = true → s.key = call.key ∧ s.lastActivationGeneration = call.expected := by
    intro s hs
    simp only [LifecycleDb.allocates, Bool.and_eq_true, beq_iff_eq] at hs
    exact ⟨hs.1.1.1, hs.1.2⟩
  have hone := Table.changed_eq_one_iff db.states (db.allocates call) call.key (fun s hs => (hselects s hs).1)
  by_cases hchanged : db.states.changed (db.allocates call) = 1
  · obtain ⟨row, hget, hrow⟩ := hone.mp hchanged
    have hsets := Table.sets_update (PluginState.allocated_key (call.expected + 1)) (fun s hs => (hselects s hs).1) hget hrow
    refine .inl ⟨hchanged, row, hget, (hselects row hrow).2, ?_⟩
    intro k
    rw [LifecycleDb.updateGeneration, hsets k, PluginState.allocated_key, (hselects row hrow).1]
  · refine .inr ⟨hchanged, ?_⟩
    intro k
    cases hget : db.states.get k with
    | none => rw [LifecycleDb.updateGeneration, Table.get_update, hget, Option.map_none]
    | some row =>
      refine Table.get_update_of_not (PluginState.allocated_key (call.expected + 1)) hget (Bool.eq_false_iff.mpr ?_)
      intro hrow
      refine hchanged (hone.mpr ⟨row, ?_, hrow⟩)
      rw [← (hselects row hrow).1, Table.key_of_get hget, hget]

/-! ## The runs -/

/-- The stage has changed the row under a key and not read it back. -/
def AllocateStage.awaits (key : String × String) : AllocateStage → Bool
  | .updated call true => call.key == key
  | _ => false

/-- The statement changes a row that another call has changed and not read back. -/
def AllocationRace.overtakes {n : Nat} (s : AllocationRace n) : AllocationStep n → Bool
  | .update connection root pluginId transitionId expected =>
    match AllocateCall.check root pluginId transitionId expected with
    | .ok call =>
      decide (s.stage connection = .idle) && decide (s.db.states.changed (s.db.allocates call) = 1) &&
        decide (∃ c, (s.stage c).awaits call.key = true)
    | .error _ => false
  | _ => false

/-- What the answers so far have to do with the calls under way. -/
structure Exact {n : Nat} (s : AllocationRace n) (given : List Allocation) : Prop where
  readable : ∀ c call changed, s.stage c = .updated call changed → ∀ db : LifecycleDb,
    db.getWorkspacePluginState call.root call.pluginId = .ok (db.states.get call.key)
  waiting : ∀ c call, s.stage c = .updated call true →
    ∃ row, s.db.states.get call.key = some row ∧ row.lastActivationGeneration = call.expected + 1
  single : ∀ c c' call call', s.stage c = .updated call true → s.stage c' = .updated call' true → call.key = call'.key → c = c'
  next : ∀ a ∈ given, a.outcome = .applied → a.generation = a.call.expected + 1
  below : ∀ a ∈ given, a.outcome = .applied →
    ∃ row, s.db.states.get a.call.key = some row ∧ a.generation ≤ row.lastActivationGeneration
  fresh : ∀ c call, s.stage c = .updated call true → ∀ a ∈ given, a.outcome = .applied → a.call.key = call.key →
    a.generation < call.expected + 1
  distinct : given.Pairwise (fun a b => a.outcome = .applied → b.outcome = .applied → a.call.key = b.call.key →
    a.generation ≠ b.generation)

section Steps

variable {n : Nat} {s : AllocationRace n} {given : List Allocation}

theorem stage_setStage (s : AllocationRace n) (connection c : Fin n) (stage : AllocateStage) :
    (s.setStage connection stage).stage c = if c = connection then stage else s.stage c := by
  simp [setStage, Function.update_apply]

/-- A connection that goes on without a row of its own to read back. -/
theorem exact_setStage (h : Exact s given) (connection : Fin n) (stage : AllocateStage)
    (hreadable : ∀ call changed, stage = .updated call changed → ∀ db : LifecycleDb,
      db.getWorkspacePluginState call.root call.pluginId = .ok (db.states.get call.key))
    (hstage : ∀ call, stage ≠ .updated call true) : Exact (s.setStage connection stage) given := by
  have hold : ∀ c call, (s.setStage connection stage).stage c = .updated call true → s.stage c = .updated call true := by
    intro c call hc
    rw [stage_setStage] at hc
    split at hc
    · exact absurd hc (hstage call)
    · exact hc
  refine ⟨?_, fun c call hc => h.waiting c call (hold c call hc),
    fun c c' call call' hc hc' => h.single c c' call call' (hold c call hc) (hold c' call' hc'), h.next, h.below,
    fun c call hc => h.fresh c call (hold c call hc), h.distinct⟩
  intro c call changed hc
  rw [stage_setStage] at hc
  split at hc
  · exact hreadable call changed hc
  · exact h.readable c call changed hc

theorem exact_idle (h : Exact s given) (connection : Fin n) : Exact (s.setStage connection .idle) given :=
  exact_setStage h connection .idle (fun _ _ heq => by cases heq) (fun _ heq => by cases heq)

/-- An answer that gives no generation away. -/
theorem exact_refused (h : Exact s given) {a : Allocation} (ha : a.outcome ≠ .applied) : Exact s (given ++ [a]) := by
  have hmem : ∀ b ∈ given ++ [a], b.outcome = .applied → b ∈ given := by
    intro b hb hb'
    rcases List.mem_append.mp hb with hb | hb
    · exact hb
    · rw [List.mem_singleton.mp hb] at hb'
      exact absurd hb' ha
  refine ⟨h.readable, h.waiting, h.single, fun b hb hb' => h.next b (hmem b hb hb') hb',
    fun b hb hb' => h.below b (hmem b hb hb') hb', fun c call hc b hb hb' => h.fresh c call hc b (hmem b hb hb') hb', ?_⟩
  refine List.pairwise_append.mpr ⟨h.distinct, List.pairwise_singleton _ _, ?_⟩
  intro b _ b' hb' _ happlied
  rw [List.mem_singleton.mp hb'] at happlied
  exact absurd happlied ha

/-- The `UPDATE` of a call that overtakes no other. -/
theorem exact_update (h : Exact s given) {connection : Fin n} {call : AllocateCall} (hidle : s.stage connection = .idle)
    (hreadable : ∀ db : LifecycleDb, db.getWorkspacePluginState call.root call.pluginId = .ok (db.states.get call.key))
    (halone : s.db.states.changed (s.db.allocates call) = 1 → ∀ c, (s.stage c).awaits call.key = false) :
    Exact ({ s with db := s.db.updateGeneration call }.setStage connection
      (.updated call (decide (s.db.states.changed (s.db.allocates call) = 1)))) given := by
  rcases updateGeneration_cases s.db call with ⟨hchanged, row, hrow, hgeneration, hrows⟩ | ⟨hchanged, hrows⟩
  · rw [decide_eq_true hchanged]
    -- no other call waits for the row, so the others keep theirs
    have hother : ∀ c call', s.stage c = .updated call' true → call'.key ≠ call.key := by
      intro c call' hc hkey
      have hnone := halone hchanged c
      simp [hc, AllocateStage.awaits, hkey] at hnone
    refine ⟨?_, ?_, ?_, h.next, ?_, ?_, h.distinct⟩
    · intro c call' changed hc
      rw [stage_setStage] at hc
      split at hc
      · cases hc
        exact hreadable
      · exact h.readable c call' changed hc
    · intro c call' hc
      rw [stage_setStage] at hc
      show ∃ row, (s.db.updateGeneration call).states.get call'.key = some row ∧ _
      split at hc
      · cases hc
        exact ⟨row.allocated (call.expected + 1), by rw [hrows, if_pos rfl], rfl⟩
      · obtain ⟨row', hrow', hgeneration'⟩ := h.waiting c call' hc
        exact ⟨row', by rw [hrows, if_neg (hother c call' hc), hrow'], hgeneration'⟩
    · intro c c' call₁ call₂ hc hc' hkey
      rw [stage_setStage] at hc hc'
      split at hc <;> split at hc'
      · rename_i hc₁ hc₂
        exact hc₁.trans hc₂.symm
      · cases hc
        exact absurd hkey.symm (hother c' call₂ hc')
      · cases hc'
        exact absurd hkey (hother c call₁ hc)
      · exact h.single c c' call₁ call₂ hc hc' hkey
    · intro a ha happlied
      obtain ⟨row', hrow', hle⟩ := h.below a ha happlied
      show ∃ row, (s.db.updateGeneration call).states.get a.call.key = some row ∧ _
      by_cases hkey : a.call.key = call.key
      · rw [hkey, hrow] at hrow'
        cases hrow'
        refine ⟨row.allocated (call.expected + 1), by rw [hrows, if_pos hkey], ?_⟩
        rw [hgeneration] at hle
        exact Int.le_trans hle (Int.le_of_lt (Int.lt_succ call.expected))
      · exact ⟨row', by rw [hrows, if_neg hkey, hrow'], hle⟩
    · intro c call' hc a ha happlied hkey
      rw [stage_setStage] at hc
      split at hc
      · cases hc
        obtain ⟨row', hrow', hle⟩ := h.below a ha happlied
        rw [hkey, hrow] at hrow'
        cases hrow'
        rw [hgeneration] at hle
        exact Int.lt_add_one_of_le hle
      · exact h.fresh c call' hc a ha happlied hkey
  · rw [decide_eq_false hchanged]
    have hkept : Exact { s with db := s.db.updateGeneration call } given := by
      refine ⟨h.readable, ?_, h.single, h.next, ?_, h.fresh, h.distinct⟩
      · intro c call' hc
        obtain ⟨row, hrow, hgeneration⟩ := h.waiting c call' hc
        exact ⟨row, (hrows _).trans hrow, hgeneration⟩
      · intro a ha happlied
        obtain ⟨row, hrow, hle⟩ := h.below a ha happlied
        exact ⟨row, (hrows _).trans hrow, hle⟩
    refine exact_setStage hkept connection _ ?_ ?_
    · intro call' changed heq
      cases heq
      exact hreadable
    · intro call' heq
      cases heq

/-- The answer of a call that was applied. -/
theorem exact_applied (h : Exact s given) {connection : Fin n} {call : AllocateCall}
    (hstage : s.stage connection = .updated call true) :
    Exact (s.setStage connection .idle) (given ++ [⟨call, .applied,
      ((s.db.states.get call.key).map PluginState.lastActivationGeneration).getD call.expected⟩]) := by
  obtain ⟨row, hrow, hgeneration⟩ := h.waiting connection call hstage
  rw [hrow, Option.map_some, Option.getD_some, hgeneration]
  have hidle := exact_idle h connection
  refine ⟨hidle.readable, hidle.waiting, hidle.single, ?_, ?_, ?_, ?_⟩
  · intro a ha happlied
    rcases List.mem_append.mp ha with ha | ha
    · exact h.next a ha happlied
    · rw [List.mem_singleton.mp ha]
  · intro a ha happlied
    rcases List.mem_append.mp ha with ha | ha
    · exact h.below a ha happlied
    · rw [List.mem_singleton.mp ha]
      exact ⟨row, hrow, Int.le_of_eq hgeneration.symm⟩
  · intro c call' hc a ha happlied hkey
    rcases List.mem_append.mp ha with ha | ha
    · exact hidle.fresh c call' hc a ha happlied hkey
    · -- another call that waits for the same row would be this one
      rw [List.mem_singleton.mp ha] at hkey
      rw [stage_setStage] at hc
      split at hc
      · cases hc
      · rename_i hne
        exact absurd (h.single c connection call' call hc hstage hkey.symm) hne
  · refine List.pairwise_append.mpr ⟨h.distinct, List.pairwise_singleton _ _, ?_⟩
    intro a ha b hb happlied _ hkey
    rw [List.mem_singleton.mp hb] at hkey ⊢
    exact Int.ne_of_lt (h.fresh connection call hstage a ha happlied hkey)

theorem exact_step (h : Exact s given) {l : AllocationStep n} (halone : s.overtakes l = false) :
    Exact (s.step l) (given ++ (s.exec l).2.toList) := by
  have hsame : Exact s (given ++ (none : Option Allocation).toList) := by simpa using h
  cases l with
  | update connection root pluginId transitionId expected =>
    simp only [step, exec]
    split
    · rename_i call hstage hcheck
      have halone : s.db.states.changed (s.db.allocates call) = 1 → ∀ c, (s.stage c).awaits call.key = false := by
        simpa [overtakes, hcheck, hstage] using halone
      simpa using exact_update h hstage (getWorkspacePluginState_checked hcheck) halone
    · exact hsame
  | readGeneration connection =>
    simp only [step, exec]
    split
    · rename_i call changed hstage
      rw [h.readable connection call changed hstage]
      cases changed with
      | true => exact exact_applied h hstage
      | false => simpa using exact_setStage h connection _ (fun _ _ heq => by cases heq) (fun _ heq => by cases heq)
    · exact hsame
  | readPresence connection =>
    simp only [step, exec]
    have hidle := exact_idle h connection
    split
    · split
      · simpa using hidle
      · refine exact_refused hidle ?_
        dsimp only
        split <;> simp
    · exact hsame

end Steps

/-- Every answer `Applied` gives the generation after the expected one, and no two of them give one generation of one plugin. -/
structure AllocationsExact (given : List Allocation) : Prop where
  next : ∀ a ∈ given, a.outcome = .applied → a.generation = a.call.expected + 1
  distinct : given.Pairwise (fun a b => a.outcome = .applied → b.outcome = .applied → a.call.key = b.call.key →
    a.generation ≠ b.generation)

theorem exact_run {n : Nat} {s : AllocationRace n} {given : List Allocation} (h : Exact s given)
    {trace : List (AllocationStep n)} (halone : Run.Along step (fun s l => s.overtakes l = false) s trace) :
    AllocationsExact (given ++ s.answers trace) := by
  induction trace generalizing s given with
  | nil =>
    rw [show s.answers [] = [] from rfl, List.append_nil]
    exact ⟨h.next, h.distinct⟩
  | cons l trace ih =>
    have hnext := ih (exact_step h halone.1) halone.2
    have hanswers : s.answers (l :: trace) = (s.exec l).2.toList ++ (s.step l).answers trace := by
      simp only [answers, Run.outputs]
      cases (s.exec l).2 <;> rfl
    rw [hanswers, ← List.append_assoc]
    exact hnext

/-- In every interleaving of the statements of any number of connections in which no call overtakes another, the answers are
exact. -/
theorem generations_exact {n : Nat} (db : LifecycleDb) {trace : List (AllocationStep n)}
    (halone : Run.Along AllocationRace.step (fun s l => s.overtakes l = false) (AllocationRace.start n db) trace) :
    AllocationsExact ((AllocationRace.start n db).answers trace) := by
  have hstart : Exact (AllocationRace.start n db) [] := by
    refine ⟨?_, ?_, ?_, ?_, ?_, ?_, List.Pairwise.nil⟩
    · intro c call changed hc
      cases hc
    · intro c call hc
      cases hc
    · intro c c' call call' hc
      cases hc
    · intro a ha
      cases ha
    · intro a ha
      cases ha
    · intro c call hc
      cases hc
  exact exact_run hstart halone

/-! ## A call alone -/

/-! A plugin that is being enabled, on two connections. -/

def sampleEnabling : LifecycleDb :=
  (Run.after Journal.step .start
    [.discover ⟨"/project", "plugin", "plugin", "1.0.0", sampleDigest⟩ true "0",
     .request (sampleRequest "enable" .enable .enabled none (some sampleDigest) none) "1"]).db

def sampleUpdate (connection : Fin 2) (expected : Int) : AllocationStep 2 :=
  .update connection "/project" "plugin" "enable" expected

/-- One call after the other: each is given its own generation. -/
theorem generations_exact_in_turn : (AllocationRace.start 2 sampleEnabling).answers
        [sampleUpdate 0 0, .readGeneration 0, sampleUpdate 1 1, .readGeneration 1] =
      [⟨⟨"/project", "plugin", "enable", 0⟩, .applied, 1⟩, ⟨⟨"/project", "plugin", "enable", 1⟩, .applied, 2⟩] ∧
    AllocationsExact ((AllocationRace.start 2 sampleEnabling).answers
      [sampleUpdate 0 0, .readGeneration 0, sampleUpdate 1 1, .readGeneration 1]) :=
  ⟨by decide +kernel, generations_exact sampleEnabling (by decide +kernel)⟩

/-- The second call raises the generation before the first has read its own: both are given the same. -/
theorem generation_given_twice : ¬ ∀ (n : Nat) (db : LifecycleDb) (trace : List (AllocationStep n)),
      AllocationsExact ((AllocationRace.start n db).answers trace) := by
  intro h
  have hanswers : (AllocationRace.start 2 sampleEnabling).answers
        [sampleUpdate 0 0, sampleUpdate 1 1, .readGeneration 0, .readGeneration 1] =
      [⟨⟨"/project", "plugin", "enable", 0⟩, .applied, 2⟩, ⟨⟨"/project", "plugin", "enable", 1⟩, .applied, 2⟩] := by
    decide +kernel
  have hexact := h 2 sampleEnabling [sampleUpdate 0 0, sampleUpdate 1 1, .readGeneration 0, .readGeneration 1]
  rw [hanswers] at hexact
  have hsecond := hexact.next _ List.mem_cons_self rfl
  simp at hsecond

end Rho.PluginLifecycle
