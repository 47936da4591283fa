import Rho.Lemmas.Journal
import Rho.Lib.Rfc3339

/-!
# Times compared as texts

The store compares the texts of times. For years of four digits that is the order of the times, so the crashes that are counted
are those not before the cutoff, and a sweep takes the tombstones moved up to it, the oldest first.
-/

namespace Rho.PluginLifecycle

open Fallible

open Rfc3339 (UtcTime)

/-- The texts of rows are those of times with a year of four digits. -/
def TimedBy {α : Type} (rows : List α) (text : α → String) (time : α → UtcTime) : Prop :=
  ∀ a ∈ rows, (0 ≤ (time a).year ∧ (time a).year ≤ 9999) ∧ text a = (time a).toRfc3339

/-- A crash of the plugin that is not before the cutoff. -/
def RecentCrash (time : Event → UtcTime) (root pluginId : String) (cutoff : UtcTime) (e : Event) : Prop :=
  e.projectRoot = root ∧ e.pluginId = pluginId ∧ e.eventType = .hostQuarantined ∧ ¬ (time e).Before cutoff

/-- A recoverable tombstone of the project that was moved at or before the cutoff. -/
def DueBy (time : Tombstone → UtcTime) (root : String) (cutoff : UtcTime) (t : Tombstone) : Prop :=
  t.projectRoot = root ∧ t.retentionClass = .recoverable ∧ t.deletedAt = none ∧ t.restoredAt = none ∧ ¬ cutoff.Before (time t)

instance (t u : UtcTime) : Decidable (t.Before u) := by
  unfold UtcTime.Before
  infer_instance

instance (time : Event → UtcTime) (root pluginId : String) (cutoff : UtcTime) :
    DecidablePred (RecentCrash time root pluginId cutoff) := by
  intro e
  unfold RecentCrash
  infer_instance

/-- A crash is counted with the recent ones before it, and the third of them blocks the plugin. -/
structure CrashCounted (db : LifecycleDb) (time : Event → UtcTime) (root pluginId : String) (cutoff : UtcTime) (r : CrashOutcome) :
    Prop where
  count : r.crashCount = db.events.countP (fun e => RecentCrash time root pluginId cutoff e) + 1
  blocked : r.blocked = true ↔ 2 ≤ db.events.countP (fun e => RecentCrash time root pluginId cutoff e)
  observed : r.state.observedState = if r.blocked then .blocked else .crashed

/-- The tombstones that are due, each once and the oldest first, of which a sweep takes the first ones. -/
structure SweptOldestFirst (db : LifecycleDb) (time : Tombstone → UtcTime) (root : String) (cutoff : UtcTime) (limit : Nat)
    (expired : List Tombstone) : Prop where
  due : ∃ due : List Tombstone, due.Nodup ∧ (∀ t, t ∈ due ↔ t ∈ db.tombstones.rows ∧ DueBy time root cutoff t) ∧
    due.Pairwise (fun a b => (time a).Before (time b) ∨ (time a = time b ∧ a.tombstoneId ≤ b.tombstoneId)) ∧
    expired = (due.take limit).map (Tombstone.classify .expired)

namespace TimesAux

theorem lex_trichotomy {α : Type} [LinearOrder α] (a b : α) {P Q R : Prop} (h : P ∨ Q ∨ R) :
    (a < b ∨ (a = b ∧ P)) ∨ (a = b ∧ Q) ∨ (b < a ∨ (b = a ∧ R)) := by
  rcases lt_trichotomy a b with hlt | rfl | hgt
  · exact .inl (.inl hlt)
  · rcases h with hP | hQ | hR
    · exact .inl (.inr ⟨rfl, hP⟩)
    · exact .inr (.inl ⟨rfl, hQ⟩)
    · exact .inr (.inr (.inr ⟨rfl, hR⟩))
  · exact .inr (.inr (.inl hgt))

/-- Of two times one is before the other, or they are one. -/
theorem before_trichotomy (t u : UtcTime) : t.Before u ∨ t = u ∨ u.Before t := by
  obtain ⟨year, month, day, hour, minute, second, nano⟩ := t
  obtain ⟨year', month', day', hour', minute', second', nano'⟩ := u
  rw [UtcTime.mk.injEq]
  exact lex_trichotomy year year' (lex_trichotomy month month' (lex_trichotomy day day' (lex_trichotomy hour hour'
    (lex_trichotomy minute minute' (lex_trichotomy second second' (lt_trichotomy nano nano'))))))

variable {t u : UtcTime} (ht : 0 ≤ t.year ∧ t.year ≤ 9999) (hu : 0 ≤ u.year ∧ u.year ≤ 9999)

include ht hu

/-- The order of the texts is the order of the times. -/
theorem text_lt_iff : t.toRfc3339 < u.toRfc3339 ↔ t.Before u := by
  refine ⟨?_, Rfc3339.toRfc3339_lt hu⟩
  intro hlt
  rcases before_trichotomy t u with hbefore | rfl | hafter
  · exact hbefore
  · exact absurd hlt (lt_irrefl _)
  · exact absurd hlt (Rfc3339.toRfc3339_lt ht hafter).asymm

theorem text_inj : t.toRfc3339 = u.toRfc3339 ↔ t = u := by
  refine ⟨?_, congrArg _⟩
  intro heq
  rcases before_trichotomy t u with hbefore | heq' | hafter
  · exact absurd heq (Rfc3339.toRfc3339_lt hu hbefore).ne
  · exact heq'
  · exact absurd heq (Rfc3339.toRfc3339_lt ht hafter).ne'

theorem text_le_iff : t.toRfc3339 ≤ u.toRfc3339 ↔ ¬ u.Before t := by
  rw [← not_lt, text_lt_iff hu ht]

omit ht hu

variable {db db' : LifecycleDb}

variable {time : Event → UtcTime} {cutoff : UtcTime} {root now : String}

/-- The events that the store counts are the recent crashes. -/
theorem countP_recent (htimed : TimedBy db.events (·.createdAt) time)
    (hcutoff : 0 ≤ cutoff.year ∧ cutoff.year ≤ 9999) (root pluginId : String) : db.events.countP (fun e =>
        e.projectRoot == root && e.pluginId == pluginId && e.eventType == .hostQuarantined &&
          decide (cutoff.toRfc3339 ≤ e.createdAt)) = db.events.countP (fun e => RecentCrash time root pluginId cutoff e) := by
  refine List.countP_congr ?_
  intro e he
  obtain ⟨hyear, htext⟩ := htimed e he
  rw [show e.createdAt = _ from htext, decide_eq_true_iff]
  simp only [RecentCrash, Bool.and_eq_true, beq_iff_eq, decide_eq_true_iff, text_le_iff hcutoff hyear, and_assoc]

theorem crash_counted (htimed : TimedBy db.events (·.createdAt) time)
    (hcutoff : 0 ≤ cutoff.year ∧ cutoff.year ≤ 9999) {pluginId packageDigest hostSessionId reasonCode : String} {r : CrashOutcome}
    (h : db.recordCrash root pluginId packageDigest hostSessionId reasonCode now cutoff.toRfc3339 = .ok (r, db'))
    (happlied : r.outcome = .applied) :
    ∃ root' pluginId', requiredProjectRoot root = .ok root' ∧ checkIdentifier "plugin id" pluginId = .ok pluginId' ∧
      CrashCounted db time root' pluginId' cutoff r := by
  unfold LifecycleDb.recordCrash at h
  obtain ⟨root', hroot, h⟩ := bind_eq_ok h
  obtain ⟨pluginId', hplugin, h⟩ := bind_eq_ok h
  obtain ⟨digest, -, h⟩ := bind_eq_ok h
  obtain ⟨session, -, h⟩ := bind_eq_ok h
  obtain ⟨reason, -, h⟩ := bind_eq_ok h
  obtain ⟨state, -, h⟩ := bind_eq_ok h
  refine ⟨root', pluginId', hroot, hplugin, ?_⟩
  split at h
  · cases h
    cases happlied
  rw [countP_recent htimed hcutoff] at h
  cases h
  refine ⟨rfl, ?_, rfl⟩
  rw [decide_eq_true_iff]
  omega

theorem mem_due_iff {time : Tombstone → UtcTime} (htimed : TimedBy db.tombstones.rows (·.movedAt) time)
    (hcutoff : 0 ≤ cutoff.year ∧ cutoff.year ≤ 9999) {t : Tombstone} :
    (t ∈ db.tombstones.rows ∧ (t.projectRoot == root && t.retentionClass == .recoverable &&
        decide (t.movedAt ≤ cutoff.toRfc3339) && t.deletedAt.isNone && t.restoredAt.isNone) = true) ↔
      t ∈ db.tombstones.rows ∧ DueBy time root cutoff t := by
  refine and_congr_right fun ht => ?_
  obtain ⟨hyear, htext⟩ := htimed t ht
  rw [show t.movedAt = _ from htext]
  simp only [DueBy, Bool.and_eq_true, beq_iff_eq, decide_eq_true_iff, Option.isNone_iff_eq_none, text_le_iff hyear hcutoff]
  tauto

theorem swept_oldest_first {time : Tombstone → UtcTime} (htimed : TimedBy db.tombstones.rows (·.movedAt) time)
    (hcutoff : 0 ≤ cutoff.year ∧ cutoff.year ≤ 9999) {limit : Nat} {r : RetentionSweep}
    (h : db.expireTombstones root (some cutoff.toRfc3339) limit now = .ok (r, db')) :
    ∃ root', requiredProjectRoot root = .ok root' ∧ SweptOldestFirst db time root' cutoff limit r.expired := by
  unfold LifecycleDb.expireTombstones at h
  obtain ⟨root', hroot, h⟩ := bind_eq_ok h
  obtain ⟨text, htext, h⟩ := bind_eq_ok h
  cases required_eq_ok htext
  split at h
  · cases h
  cases h
  refine ⟨root', hroot, ⟨_, ?_, fun t => ?_, ?_, rfl⟩⟩
  · exact (List.mergeSort_perm _ _).nodup_iff.mpr ((List.Nodup.of_map _ db.tombstones.nodup).filter _)
  · rw [(List.mergeSort_perm _ _).mem_iff, List.mem_filter]
    exact mem_due_iff htimed hcutoff
  · refine (List.pairwise_mergeSort ?_ ?_ _).imp_of_mem ?_
    · simp only [decide_eq_true_eq]
      rintro a b c (hab | ⟨hab, hid⟩) (hbc | ⟨hbc, hid'⟩)
      · exact .inl (hab.trans hbc)
      · exact .inl (hbc ▸ hab)
      · exact .inl (hab ▸ hbc)
      · exact .inr ⟨hab.trans hbc, hid.trans hid'⟩
    · intro a b
      simp only [Bool.or_eq_true, decide_eq_true_eq]
      rcases lt_trichotomy a.movedAt b.movedAt with hlt | heq | hgt
      · exact .inl (.inl hlt)
      · exact (le_total a.tombstoneId b.tombstoneId).imp (fun h => .inr ⟨heq, h⟩) (fun h => .inr ⟨heq.symm, h⟩)
      · exact .inr (.inl hgt)
    · intro a b ha hb hle
      have hrowA := List.mem_of_mem_filter ((List.mergeSort_perm _ _).mem_iff.mp ha)
      have hrowB := List.mem_of_mem_filter ((List.mergeSort_perm _ _).mem_iff.mp hb)
      obtain ⟨hyear, htext⟩ := htimed a hrowA
      obtain ⟨hyear', htext'⟩ := htimed b hrowB
      rw [decide_eq_true_iff, show a.movedAt = _ from htext, show b.movedAt = _ from htext', text_lt_iff hyear hyear',
        text_inj hyear hyear'] at hle
      exact hle

end TimesAux

open TimesAux

namespace SampleTimes

def cutoff : UtcTime := ⟨2026, 8, 1, 12, 0, 0, 0⟩

/-- Half a second later; its text has a fraction. -/
def later : UtcTime := ⟨2026, 8, 1, 12, 0, 0, 500000000⟩

def digest : String := String.ofList (List.replicate 64 '0')

/-- An enabled plugin that crashed then. -/
def crashed : LifecycleDb where
  states := ⟨[⟨"/p", "plugin.a", "plugin", "1.0.0", some digest, none, none, .enabled, .crashed, 1, some "host", none, none⟩],
    List.nodup_singleton _⟩
  transitions := .empty _
  tombstones := .empty _
  events := [⟨"/p", "plugin.a", .hostQuarantined, later.toRfc3339⟩]

end SampleTimes

end Rho.PluginLifecycle
