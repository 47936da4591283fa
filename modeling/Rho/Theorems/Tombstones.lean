import Rho.Theorems.Replacement
import Rho.Lib.Rfc3339

/-!
# The life of a tombstone

A package that was moved is recoverable until it is restored or its time has run out; then it expires, is marked for a purge and is
deleted. Restoring and deleting exclude each other in every order of the operations. The time is compared as text, which is right as
long as the clock is before the year 10000: the text of a later year begins with its sign and comes before every cutoff.
-/

namespace Rho.PluginLifecycle

open Journal

open Rfc3339 (UtcTime)

/-! ## The states of a tombstone -/

inductive TombstoneLife where
  | recoverable | restored | expired | purgePending | deleted
  deriving DecidableEq

/-- The state that a row is in; nothing for a row that no operation should write. -/
def Tombstone.life (t : Tombstone) : Option TombstoneLife :=
  match t.retentionClass, t.restoredAt, t.deletedAt with
  | .recoverable, none, none => some .recoverable
  | .recoverable, some _, none => some .restored
  | .expired, none, none => some .expired
  | .purgePending, none, none => some .purgePending
  | .expired, none, some _ => some .deleted
  | _, _, _ => none

/-- One step of a tombstone's life. -/
inductive TombstoneLife.Next : TombstoneLife → TombstoneLife → Prop
  | restore : Next .recoverable .restored
  | expire : Next .recoverable .expired
  | requestPurge : Next .expired .purgePending
  | delete : Next .purgePending .deleted

/-- What a tombstone is about: the package, where it was and where it is, and when it was moved. -/
structure TombstoneIdentity where
  tombstoneId : String
  projectRoot : String
  pluginId : String
  packageDigest : String
  backupPathKey : String
  originalDirectoryName : String
  movedAt : String
  reasonCode : String

def Tombstone.identity (t : Tombstone) : TombstoneIdentity :=
  ⟨t.tombstoneId, t.projectRoot, t.pluginId, t.packageDigest, t.backupPathKey, t.originalDirectoryName, t.movedAt, t.reasonCode⟩

/-- What becomes of a tombstone in one operation. -/
def LivesOn (t t' : Tombstone) : Prop :=
  t'.identity = t.identity ∧ (t' = t ∨ ∃ a b, t.life = some a ∧ t'.life = some b ∧ a.Next b)

/-- What an operation makes of the tombstones: those that are there live on, and a new one is recoverable, moved at a time that the operation had. -/
structure TombstoneMove (moved : String → Prop) (db db' : LifecycleDb) : Prop where
  lives : ∀ id t, db.tombstones.get id = some t → ∃ t', db'.tombstones.get id = some t' ∧ LivesOn t t'
  born : ∀ id t', db'.tombstones.get id = some t' → db.tombstones.get id = none →
    t'.life = some .recoverable ∧ moved t'.movedAt

section Moves

variable {moved : String → Prop} {db db' : LifecycleDb} {now : String}

theorem LivesOn.refl (t : Tombstone) : LivesOn t t := ⟨rfl, .inl rfl⟩

theorem TombstoneMove.of_eq (h : db'.tombstones = db.tombstones) : TombstoneMove moved db db' := by
  refine ⟨?_, ?_⟩
  · intro id t hget
    exact ⟨t, by rw [h, hget], .refl t⟩
  · intro id t' hget hnone
    rw [h, hnone] at hget
    cases hget

variable {id : String} {t : Tombstone} {root : String} {draft : PurgeDraft} {r : PurgeResult} {limit : Nat}

/-- One row takes a step. -/
theorem TombstoneMove.of_sets {t' : Tombstone} (hget : db.tombstones.get id = some t)
    (hsets : db.tombstones.Sets db'.tombstones t') (hlives : LivesOn t t') : TombstoneMove moved db db' := by
  have hkept : t'.tombstoneId = t.tombstoneId := congrArg TombstoneIdentity.tombstoneId hlives.1
  have hkey : t'.tombstoneId = id := hkept.trans (Table.key_of_get hget)
  refine ⟨?_, ?_⟩
  · intro other u hu
    rw [hsets other, hkey]
    split
    · rename_i hother
      rw [hother, hget] at hu
      cases hu
      exact ⟨t', rfl, hlives⟩
    · exact ⟨u, hu, .refl u⟩
  · intro other u hu hnone
    rw [hsets other, hkey] at hu
    split at hu
    · rename_i hother
      rw [hother, hget] at hnone
      cases hnone
    · rw [hu] at hnone
      cases hnone

theorem life_restoreAt (hclass : t.retentionClass = .recoverable) (hdeleted : t.deletedAt = none)
    (hrestored : t.restoredAt = none) : LivesOn t (t.restoreAt now) :=
  ⟨rfl, .inr ⟨.recoverable, .restored, by simp [Tombstone.life, hclass, hdeleted, hrestored],
    by simp [Tombstone.life, Tombstone.restoreAt, hclass, hdeleted], .restore⟩⟩

theorem life_classify_expired (hclass : t.retentionClass = .recoverable) (hdeleted : t.deletedAt = none)
    (hrestored : t.restoredAt = none) : LivesOn t (t.classify .expired) :=
  ⟨rfl, .inr ⟨.recoverable, .expired, by simp [Tombstone.life, hclass, hdeleted, hrestored],
    by simp [Tombstone.life, Tombstone.classify, hdeleted, hrestored], .expire⟩⟩

theorem life_classify_purgePending (hclass : t.retentionClass = .expired) (hdeleted : t.deletedAt = none)
    (hrestored : t.restoredAt = none) : LivesOn t (t.classify .purgePending) :=
  ⟨rfl, .inr ⟨.expired, .purgePending, by simp [Tombstone.life, hclass, hdeleted, hrestored],
    by simp [Tombstone.life, Tombstone.classify, hdeleted, hrestored], .requestPurge⟩⟩

theorem life_purgeAt (hclass : t.retentionClass = .purgePending) (hdeleted : t.deletedAt = none)
    (hrestored : t.restoredAt = none) : LivesOn t (t.purgeAt now) :=
  ⟨rfl, .inr ⟨.purgePending, .deleted, by simp [Tombstone.life, hclass, hdeleted, hrestored],
    by simp [Tombstone.life, Tombstone.purgeAt, hrestored], .delete⟩⟩

/-! ### The five operations -/

theorem tombstones_completeUninstall {transitionId : String} {draft : TombstoneDraft} {r : UninstallCompletion}
    (hnow : moved now) (h : db.completeUninstall transitionId draft now = .ok (r, db')) : TombstoneMove moved db db' := by
  rcases completeUninstall_cases h with ⟨-, hsame⟩ | ⟨-, -, hsame | ⟨d, hclass, hinsert⟩⟩
  · exact .of_eq (by rw [hsame])
  · exact .of_eq hsame
  · refine ⟨?_, ?_⟩
    · intro id t hget
      exact ⟨t, Table.get_insert_of_get hinsert hget, .refl t⟩
    · intro id t' hget hnone
      rw [Table.get_insert hinsert] at hget
      split at hget
      · cases hget
        exact ⟨by simp [Tombstone.life, TombstoneDraft.tombstone, hclass], hnow⟩
      · rw [hget] at hnone
        cases hnone

theorem tombstones_completeRestore {tombstoneId : String} {r : RestoreCompletion}
    (h : db.completeRestore root tombstoneId now = .ok (r, db')) : TombstoneMove moved db db' := by
  rcases completeRestore_writes h with ⟨-, hsame⟩ | ⟨-, -, id, t, hget, hclass, hdeleted, hrestored, hsets⟩
  · exact .of_eq (by rw [hsame])
  · exact .of_sets hget hsets (life_restoreAt hclass hdeleted hrestored)

theorem tombstones_requestPurge (h : db.requestPurge draft now = .ok (r, db')) : TombstoneMove moved db db' := by
  rcases requestPurge_cases h with ⟨-, hsame⟩ | ⟨-, -, id, t, hget, hclass, hdeleted, hrestored, hsets⟩
  · exact .of_eq (by rw [hsame])
  · exact .of_sets hget hsets (life_classify_purgePending hclass hdeleted hrestored)

theorem tombstones_completePurge (h : db.completePurge draft now = .ok (r, db')) : TombstoneMove moved db db' := by
  rcases completePurge_cases h with ⟨-, hsame⟩ | ⟨-, -, id, t, hget, hclass, hdeleted, hrestored, hsets⟩
  · exact .of_eq (by rw [hsame])
  · exact .of_sets hget hsets (life_purgeAt hclass hdeleted hrestored)

/-- A row that a sweep has taken was due. -/
theorem due_of_mem {cutoff : String} (hget : db.tombstones.get id = some t)
    (hmem : id ∈ (db.expiring root cutoff limit).map Tombstone.tombstoneId) : t ∈ db.expiring root cutoff limit := by
  obtain ⟨u, hu, hid⟩ := List.mem_map.mp hmem
  have hgetu := Table.get_of_mem (mem_expiring hu).1
  rw [hid, hget] at hgetu
  cases hgetu
  exact hu

theorem tombstones_expire {cutoff : Option String} {r : RetentionSweep}
    (h : db.expireTombstones root cutoff limit now = .ok (r, db')) : TombstoneMove moved db db' := by
  obtain ⟨root', text, -, hwritten, -⟩ := expireTombstones_cases h
  have hrows := get_expireAll root' now (db.expiring root' text limit) db
  rw [← hwritten] at hrows
  refine ⟨?_, ?_⟩
  · intro id t hget
    rw [hrows, hget]
    split
    · rename_i hmem
      obtain ⟨-, hclass, hdeleted, hrestored, -⟩ := mem_expiring (due_of_mem hget hmem)
      exact ⟨t.classify .expired, rfl, life_classify_expired hclass hdeleted hrestored⟩
    · exact ⟨t, rfl, .refl t⟩
  · intro id t' hget hnone
    rw [hrows, hnone] at hget
    split at hget <;> cases hget

/-- A row that was moved after the cutoff, by the text of its time, is left alone by a sweep. -/
theorem expire_spares {text : String} {r : RetentionSweep} (h : db.expireTombstones root (some text) limit now = .ok (r, db'))
    (hget : db.tombstones.get id = some t) (hlate : text < t.movedAt) : db'.tombstones.get id = some t := by
  obtain ⟨root', text', htext, hwritten, -⟩ := expireTombstones_cases h
  cases htext
  rw [hwritten, get_expireAll, if_neg, hget]
  intro hmem
  exact absurd hlate (String.not_lt.mpr (mem_expiring (due_of_mem hget hmem)).2.2.2.2)

end Moves

/-! ## Runs -/

/-- The reading of the clock that a new tombstone gets its time from. -/
def JournalStep.MovedAt (moved : String → Prop) : JournalStep → Prop
  | .completeUninstall _ _ now => moved now
  | _ => True

variable {l : JournalStep} {id : String} {t : Tombstone} {a : TombstoneLife} {s : Journal}

/-- A step of the journal, whichever it is, lets every tombstone live on. -/
theorem tombstones_step {moved : String → Prop} (s : Journal) (hl : l.MovedAt moved) :
    TombstoneMove moved s.db (s.step l).db := by
  have hcommit : ∀ {α : Type} (x : Except String (α × LifecycleDb)),
      (∀ r db', x = .ok (r, db') → TombstoneMove moved s.db db') → TombstoneMove moved s.db (commit s.db x) := by
    intro α x hx
    match x with
    | .error _ => exact .of_eq rfl
    | .ok (r, db') => exact hx r db' rfl
  simp only [step]
  cases l with
  | discover draft semver now =>
    simp only [stepDb]
    exact hcommit _ (fun _ _ hx => .of_eq (quiet_upsertDiscovered hx).tombstones)
  | request draft now =>
    simp only [stepDb]
    refine hcommit _ ?_
    intro r db' hx
    obtain ⟨d, -, hcases⟩ := requestTransition_cases hx
    rcases hcases with ⟨-, hkept, -⟩ | ⟨-, hkept, -⟩ | ⟨-, -, -, -, -, htombstones⟩
    · exact .of_eq (by rw [hkept])
    · exact .of_eq (by rw [hkept])
    · exact .of_eq htombstones
  | readAdvance connection draft => exact .of_eq rfl
  | writeAdvance connection now =>
    simp only [stepDb]
    cases s.pending connection with
    | none => exact .of_eq rfl
    | some d => exact hcommit _ (fun _ _ hx => .of_eq (frame_writeAdvance hx).2)
  | allocate root pluginId transitionId expected =>
    simp only [stepDb]
    exact hcommit _ (fun _ _ hx => .of_eq (quiet_allocateGeneration hx).tombstones)
  | completeUninstall transitionId draft now =>
    simp only [stepDb]
    exact hcommit _ (fun _ _ hx => tombstones_completeUninstall hl hx)
  | completeRestore root tombstoneId now =>
    simp only [stepDb]
    exact hcommit _ (fun _ _ hx => tombstones_completeRestore hx)
  | expire root cutoff limit now =>
    simp only [stepDb]
    exact hcommit _ (fun _ _ hx => tombstones_expire hx)
  | requestPurge draft now =>
    simp only [stepDb]
    exact hcommit _ (fun _ _ hx => tombstones_requestPurge hx)
  | completePurge draft now =>
    simp only [stepDb]
    exact hcommit _ (fun _ _ hx => tombstones_completePurge hx)
  | completeReplacement root transitionId hostSessionId now =>
    simp only [stepDb]
    refine hcommit _ ?_
    intro r db' hx
    rcases completeReplacement_cases hx with ⟨-, hkept⟩ | ⟨-, t, state, -, -, -, hswaps, -⟩
    · exact .of_eq (by rw [hkept])
    · exact .of_eq hswaps.tombstones
  | recoveryRequired root pluginId transitionId reasonCode now =>
    simp only [stepDb]
    exact hcommit _ (fun _ _ hx => .of_eq (quiet_recordRecoveryRequired hx).tombstones)
  | crash root pluginId packageDigest hostSessionId reasonCode now cutoff =>
    simp only [stepDb]
    exact hcommit _ (fun _ _ hx => .of_eq (quiet_recordCrash hx).tombstones)

theorem JournalStep.movedAt_any (l : JournalStep) : l.MovedAt (fun _ => True) := by
  cases l <;> trivial

/-- In a run a row is never gone, keeps its identity and takes the steps of its life. -/
theorem lives_after (s : Journal) (trace : List JournalStep) (hget : s.db.tombstones.get id = some t) (hlife : t.life = some a) :
    ∃ t' b, (Run.after step s trace).db.tombstones.get id = some t' ∧ t'.identity = t.identity ∧ t'.life = some b ∧
      Relation.ReflTransGen TombstoneLife.Next a b := by
  induction trace generalizing s t a with
  | nil => exact ⟨t, a, hget, rfl, hlife, .refl⟩
  | cons l trace ih =>
    obtain ⟨u, hu, hidentity, hlives⟩ := (tombstones_step s l.movedAt_any).lives id t hget
    rcases hlives with rfl | ⟨a', b, ha', hb, hnext⟩
    · exact ih (s.step l) hu hlife
    · rw [hlife] at ha'
      cases ha'
      obtain ⟨t', c, ht', hsame, hc, hpath⟩ := ih (s.step l) hu hb
      exact ⟨t', c, ht', hsame.trans hidentity, hc, .head hnext hpath⟩

/-- Every row is in a state of a tombstone's life and was moved at a time of the clock. -/
def TombstonesKept (moved : String → Prop) (db : LifecycleDb) : Prop :=
  ∀ id t, db.tombstones.get id = some t → (∃ a, t.life = some a) ∧ moved t.movedAt

theorem tombstonesKept_step {moved : String → Prop} (hkept : TombstonesKept moved s.db)
    (hl : l.MovedAt moved) : TombstonesKept moved (s.step l).db := by
  have hmove := tombstones_step s hl
  intro id t' ht'
  cases hget : s.db.tombstones.get id with
  | none =>
    obtain ⟨hlife, hmoved⟩ := hmove.born id t' ht' hget
    exact ⟨⟨_, hlife⟩, hmoved⟩
  | some t =>
    obtain ⟨u, hu, hidentity, hlives⟩ := hmove.lives id t hget
    rw [ht'] at hu
    cases hu
    have hmoved : t'.movedAt = t.movedAt := congrArg TombstoneIdentity.movedAt hidentity
    refine ⟨?_, by rw [hmoved]; exact (hkept id t hget).2⟩
    rcases hlives with rfl | ⟨-, b, -, hb, -⟩
    · exact (hkept id t' hget).1
    · exact ⟨b, hb⟩

theorem tombstonesKept_after {moved : String → Prop} (trace : List JournalStep) (hmoved : ∀ l ∈ trace, l.MovedAt moved) :
    TombstonesKept moved (Run.after step .start trace).db := by
  have halong : Run.Along step (fun _ l => l.MovedAt moved) .start trace :=
    Run.along_iff.mpr (fun before l rest htrace => hmoved l (by rw [htrace]; simp))
  have hstart : TombstonesKept moved start.db := by
    intro id t hget
    cases hget
  exact Run.invariant_along (I := fun s : Journal => TombstonesKept moved s.db)
    (fun s l hkept hl => tombstonesKept_step hkept hl) hstart halong

/-! ## What holds of the tombstones of a state -/

/-- The answer of the five operations on tombstones; nothing for an error. -/
def Journal.answer (s : Journal) : JournalStep → Option Outcome
  | .completeUninstall transitionId draft now => (s.db.completeUninstall transitionId draft now).toOption.map (fun r => r.1.outcome)
  | .completeRestore root tombstoneId now => (s.db.completeRestore root tombstoneId now).toOption.map (fun r => r.1.outcome)
  | .expire root cutoff limit now => (s.db.expireTombstones root cutoff limit now).toOption.map (fun r => r.1.outcome)
  | .requestPurge draft now => (s.db.requestPurge draft now).toOption.map (fun r => r.1.outcome)
  | .completePurge draft now => (s.db.completePurge draft now).toOption.map (fun r => r.1.outcome)
  | _ => none

/-- One of the five. -/
def JournalStep.onTombstones : JournalStep → Bool
  | .completeUninstall _ _ _ | .completeRestore _ _ _ | .expire _ _ _ _ | .requestPurge _ _ | .completePurge _ _ => true
  | _ => false

/-- What holds of the tombstones in a state and of what becomes of them from there on. -/
structure TombstonesSound (s : Journal) : Prop where
  exclusive : ∀ id t, s.db.tombstones.get id = some t → ¬ (t.restoredAt.isSome ∧ t.deletedAt.isSome)
  follows : ∀ id t, s.db.tombstones.get id = some t → ∃ a, t.life = some a ∧
    ∀ trace, ∃ t' b, (Run.after Journal.step s trace).db.tombstones.get id = some t' ∧ t'.identity = t.identity ∧
      t'.life = some b ∧ Relation.ReflTransGen TombstoneLife.Next a b
  steps : ∀ l id t, s.db.tombstones.get id = some t → ∃ t', (s.step l).db.tombstones.get id = some t' ∧ LivesOn t t'
  born : ∀ l id t', (s.step l).db.tombstones.get id = some t' → s.db.tombstones.get id = none → t'.life = some .recoverable
  spared : ∀ root (cutoff : UtcTime) limit now id t (m : UtcTime), s.db.tombstones.get id = some t → t.movedAt = m.toRfc3339 →
    cutoff.Before m → (s.step (.expire root (some cutoff.toRfc3339) limit now)).db.tombstones.get id = some t
  idle : ∀ l, l.onTombstones = true → s.answer l ≠ some .applied → (s.step l).db = s.db

theorem commit_eq_of_idle {α : Type} {db : LifecycleDb} {x : Except String (α × LifecycleDb)} {outcome : α → Outcome}
    (hidle : ∀ r db', x = .ok (r, db') → outcome r ≠ .applied → db' = db)
    (h : x.toOption.map (fun r => outcome r.1) ≠ some .applied) : commit db x = db := by
  match x with
  | .error _ => rfl
  | .ok (r, db') => exact hidle r db' rfl (fun happlied => h (by simp [Except.toOption, happlied]))

/-- An operation on tombstones that is not applied writes nothing. -/
theorem idle_step (hl : l.onTombstones = true) (hanswer : s.answer l ≠ some .applied) : (s.step l).db = s.db := by
  simp only [step]
  cases l with
  | completeUninstall transitionId draft now =>
    simp only [stepDb]
    simp only [answer] at hanswer
    exact commit_eq_of_idle (fun r db' hx happlied => (completeUninstall_cases hx).elim (fun h => h.2) (fun h => absurd h.1 happlied))
      hanswer
  | completeRestore root tombstoneId now =>
    simp only [stepDb]
    simp only [answer] at hanswer
    exact commit_eq_of_idle (fun r db' hx happlied => (completeRestore_writes hx).elim (fun h => h.2) (fun h => absurd h.1 happlied))
      hanswer
  | expire root cutoff limit now =>
    simp only [stepDb]
    simp only [answer] at hanswer
    refine commit_eq_of_idle ?_ hanswer
    intro r db' hx happlied
    obtain ⟨root', text, -, -, hidle⟩ := expireTombstones_cases hx
    exact hidle happlied
  | requestPurge draft now =>
    simp only [stepDb]
    simp only [answer] at hanswer
    exact commit_eq_of_idle (fun r db' hx happlied => (requestPurge_cases hx).elim (fun h => h.2) (fun h => absurd h.1 happlied))
      hanswer
  | completePurge draft now =>
    simp only [stepDb]
    simp only [answer] at hanswer
    exact commit_eq_of_idle (fun r db' hx happlied => (completePurge_cases hx).elim (fun h => h.2) (fun h => absurd h.1 happlied))
      hanswer
  | _ => cases hl

/-- A row that was moved after the cutoff is left alone, if the year of its time has four digits. -/
theorem spared_step (hget : s.db.tombstones.get id = some t) {m cutoff : UtcTime}
    (hyear : 0 ≤ m.year ∧ m.year ≤ 9999) (hmoved : t.movedAt = m.toRfc3339) (hlate : cutoff.Before m) (root : String)
    (limit : Nat) (now : String) : (s.step (.expire root (some cutoff.toRfc3339) limit now)).db.tombstones.get id = some t := by
  simp only [step, stepDb]
  cases hx : s.db.expireTombstones root (some cutoff.toRfc3339) limit now with
  | error _ => exact hget
  | ok r => exact expire_spares hx hget (by rw [hmoved]; exact Rfc3339.toRfc3339_lt hyear hlate)

theorem exclusive_of_life (h : t.life = some a) : ¬ (t.restoredAt.isSome ∧ t.deletedAt.isSome) := by
  rintro ⟨hrestored, hdeleted⟩
  obtain ⟨restored, hrestored⟩ := Option.isSome_iff_exists.mp hrestored
  obtain ⟨deleted, hdeleted⟩ := Option.isSome_iff_exists.mp hdeleted
  unfold Tombstone.life at h
  rw [hrestored, hdeleted] at h
  cases hclass : t.retentionClass <;> simp [hclass] at h

/-- A reading of the clock whose year has four digits. -/
def ReadsFourDigits (text : String) : Prop := ∃ t : UtcTime, (0 ≤ t.year ∧ t.year ≤ 9999) ∧ text = t.toRfc3339

/-- In every run whose clock is before the year 10000 when a package is moved, the tombstones are sound. -/
theorem tombstones_sound (trace : List JournalStep) (hclock : ∀ l ∈ trace, l.MovedAt ReadsFourDigits) :
    TombstonesSound (Run.after Journal.step .start trace) := by
  have hkept := tombstonesKept_after trace hclock
  refine ⟨?_, ?_, ?_, ?_, ?_, fun l hl => idle_step hl⟩
  · intro id t hget
    obtain ⟨⟨a, hlife⟩, -⟩ := hkept id t hget
    exact exclusive_of_life hlife
  · intro id t hget
    obtain ⟨⟨a, hlife⟩, -⟩ := hkept id t hget
    exact ⟨a, hlife, fun rest => lives_after _ rest hget hlife⟩
  · intro l id t hget
    exact (tombstones_step _ l.movedAt_any).lives id t hget
  · intro l id t' hget hnone
    exact ((tombstones_step _ l.movedAt_any).born id t' hget hnone).1
  · intro root cutoff limit now id t m hget hm hlate
    obtain ⟨-, u, hyear, hu⟩ := hkept id t hget
    have hfour := Rfc3339.year_of_toRfc3339_eq hyear (hm.symm.trans hu)
    exact spared_step hget hfour hm hlate root limit now

/-- The plugin is uninstalled when the clock says so. -/
def sampleUninstallAt (clock : UtcTime) : List JournalStep := sampleUninstall.dropLast ++
  [.completeUninstall "uninstall" sampleTombstone clock.toRfc3339]

theorem tombstones_sound_sample : TombstonesSound (Run.after Journal.step .start (sampleUninstallAt ⟨2024, 1, 1, 0, 0, 0, 0⟩)) := by
  refine tombstones_sound _ ?_
  intro l hl
  simp only [sampleUninstallAt, sampleUninstall, List.dropLast, List.cons_append, List.nil_append, List.mem_cons,
    List.not_mem_nil, or_false] at hl
  rcases hl with rfl | rfl | rfl | rfl | rfl | rfl | rfl | rfl
  all_goals first | exact ⟨⟨2024, 1, 1, 0, 0, 0, 0⟩, by decide, rfl⟩ | trivial

/-- Moved in the year 10000, a package has expired at a cutoff in the year 2024. -/
theorem moved_after_cutoff_expired :
    ¬ ∀ trace : List JournalStep, (∀ l ∈ trace, l.MovedAt (fun text => ∃ t : UtcTime, text = t.toRfc3339)) →
      TombstonesSound (Run.after Journal.step .start trace) := by
  intro h
  have hsound := h (sampleUninstallAt ⟨10000, 1, 1, 0, 0, 0, 0⟩) ?_
  · have hrow : (Run.after Journal.step .start (sampleUninstallAt ⟨10000, 1, 1, 0, 0, 0, 0⟩)).db.tombstones.get "tombstone" =
        some (sampleTombstone.tombstone "+10000-01-01T00:00:00+00:00") := by decide +kernel
    have hspared := hsound.spared "/project" ⟨2024, 1, 1, 0, 0, 0, 0⟩ 1 "0" _ _ ⟨10000, 1, 1, 0, 0, 0, 0⟩ hrow (by decide)
      (.inl (by decide))
    have hexpired : ((Run.after Journal.step .start (sampleUninstallAt ⟨10000, 1, 1, 0, 0, 0, 0⟩)).step
        (.expire "/project" (some (⟨2024, 1, 1, 0, 0, 0, 0⟩ : UtcTime).toRfc3339) 1 "0")).db.tombstones.get "tombstone" ≠
        some (sampleTombstone.tombstone "+10000-01-01T00:00:00+00:00") := by decide +kernel
    exact hexpired hspared
  · intro l hl
    simp only [sampleUninstallAt, sampleUninstall, List.dropLast, List.cons_append, List.nil_append, List.mem_cons,
      List.not_mem_nil, or_false] at hl
    rcases hl with rfl | rfl | rfl | rfl | rfl | rfl | rfl | rfl
    all_goals first | exact ⟨⟨10000, 1, 1, 0, 0, 0, 0⟩, rfl⟩ | trivial

end Rho.PluginLifecycle
