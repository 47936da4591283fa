import Rho.Store.Open

/-!
# Stopping in the middle of an open

A migration is one transaction between checks, so a process that stops in it leaves the old database or the new one, and either can be
opened. The bootstrap is not: from its first statement to the one that records the version there are tables and no version, and
the next open refuses that.
-/

namespace Rho.StoreSchema

open Durable Fallible Database

variable {ρ : Type} {engine : RowEngine ρ}

/-! ## Kinds of statements -/

def Sql.isCheck : Sql → Bool
  | .check _ => true
  | _ => false

/-- The statements about backup files. -/
def Sql.isFile : Sql → Bool
  | .removeBackup _ | .walCheckpoint | .vacuumInto _ => true
  | _ => false

/-- The statements that add a table or an index. -/
def Sql.isCreate : Sql → Bool
  | .createTable _ | .ensureTable _ | .createIndex _ _ | .ensureIndex _ _ => true
  | _ => false

theorem isCheck_of_mem_assertCurrentSchema : ∀ a ∈ assertCurrentSchema, a.isCheck = true := by
  decide +kernel

variable {begun disk disk' : Disk ρ} {a : Sql} {db : Database ρ} {c : Conn (Disk ρ)} {checks : List Sql} {d : Disk ρ}
  {version : Nat} {body : List Sql} {named : Bool} {d₀ : Disk ρ} {n : Nat}

theorem exec_check (ha : a.isCheck = true) (h : exec engine begun disk a = .ok disk') : disk' = disk := by
  cases a with
  | check c =>
    obtain ⟨-, -, heq⟩ := map_eq_ok h
    exact heq.symm
  | _ => cases ha

theorem exec_file (ha : a.isFile = true) (h : exec engine begun disk a = .ok disk') : disk'.db = disk.db := by
  cases a with
  | removeBackup version =>
    cases h
    rfl
  | walCheckpoint =>
    cases h
    rfl
  | vacuumInto version =>
    simp only [exec] at h
    split at h
    · cases h
    · cases h
      rfl
  | _ => cases ha

/-- What is not about a backup file depends on the databases alone. -/
theorem exec_of_db_eq {begun' t : Disk ρ} (ha : a.isFile = false) (hbegun : begun.db = begun'.db)
    (hdisk : disk.db = disk'.db) (h : exec engine begun disk a = .ok t) : ∃ t', exec engine begun' disk' a = .ok t' ∧ t.db = t'.db := by
  cases a with
  | removeBackup version => cases ha
  | walCheckpoint => cases ha
  | vacuumInto version => cases ha
  | check c =>
    obtain ⟨u, hu, rfl⟩ := map_eq_ok h
    refine ⟨disk', ?_, hdisk⟩
    simp only [exec]
    rw [← hbegun, ← hdisk, hu]
    rfl
  | _ =>
    obtain ⟨db, hdb, h⟩ := bind_eq_ok h
    obtain ⟨rows, hrows, h⟩ := bind_eq_ok h
    cases h
    refine ⟨⟨{ db with rows := rows }, disk'.backups⟩, ?_, rfl⟩
    simp only [exec]
    rw [← hdisk, hdb]
    simp only [bind, Except.bind]
    rw [hrows]
    rfl

/-! ## The current version -/

/-- The database has tables and says that it is of the current version. -/
structure IsCurrent (db : Database ρ) : Prop where
  nonempty : db.isEmpty = false
  version : db.readSchemaVersion = some (schemaVersion : Int)

theorem nonempty_of_getTable {name : String} {t : TableDef} (h : db.getTable name = some t) : db.isEmpty = false := by
  rw [isEmpty, List.isEmpty_eq_false_iff]
  exact List.ne_nil_of_mem (List.mem_of_find?_eq_some h)

theorem exec_setSchemaVersion (h : exec engine begun disk (.setSchemaVersion schemaVersion) = .ok disk') :
    IsCurrent disk'.db := by
  obtain ⟨db, hdb, h⟩ := bind_eq_ok h
  obtain ⟨rows, -, h⟩ := bind_eq_ok h
  cases h
  simp only [execSchema] at hdb
  split at hdb
  · cases hdb
  · next htable =>
    cases hdb
    obtain ⟨t, ht⟩ : ∃ t, disk.db.getTable "metadata" = some t :=
      Option.ne_none_iff_exists'.mp (fun hnone => htable (by rw [hnone]; rfl))
    have hget : getTable { disk.db with version := some (toString schemaVersion), rows := rows } "metadata" = some t := ht
    refine ⟨nonempty_of_getTable hget, ?_⟩
    rw [readSchemaVersion, hget]
    rfl

theorem db_kept_of_checks {statements : List Sql} (h : ∀ a ∈ statements, a.isCheck = true) :
    ∀ a ∈ statements, ∀ (d s s' : Disk ρ), exec engine d s a = .ok s' → id s' = id s :=
  fun a ha _ _ _ hexec => exec_check (h a ha) hexec

/-- After the bootstrap the database is current. -/
theorem isCurrent_of_bootstrap (h : run (exec engine) ⟨disk, none⟩ (bootstrap.map .exec) = .ok c) : IsCurrent c.disk.db := by
  rw [bootstrap, List.map_append] at h
  obtain ⟨c₁, hbefore, h⟩ := run_append h
  obtain ⟨hnone, -⟩ := run_kept (f := fun _ : Disk ρ => ()) (fun _ _ _ _ _ _ => rfl) hbefore
  obtain ⟨s₁, rfl⟩ : ∃ s₁, c₁ = ⟨s₁, none⟩ := ⟨c₁.disk, by rw [← hnone]⟩
  obtain ⟨c₂, hversion, h⟩ := run_cons h
  obtain ⟨s₂, hs₂, rfl⟩ := map_eq_ok hversion
  cases h
  exact exec_setSchemaVersion hs₂

/-- Checks leave the transaction that they are in. -/
theorem transaction_of_checks (hchecks : ∀ a ∈ checks, a.isCheck = true) {s : Disk ρ}
    (h : run (exec engine) ⟨d, some s⟩ (checks.map .exec) = .ok c) : c.transaction = some s := by
  induction checks with
  | nil =>
    cases h
    rfl
  | cons a checks ih =>
    obtain ⟨c₁, hact, hrest⟩ := run_cons h
    obtain ⟨s₁, hs₁, rfl⟩ := map_eq_ok hact
    rw [exec_check (hchecks a List.mem_cons_self) hs₁] at hrest
    exact ih (fun a ha => hchecks a (List.mem_cons_of_mem _ ha)) hrest

/-- After statements in a transaction of which one records the version and the ones behind it are checks, the database is current. -/
theorem isCurrent_of_body {before : List Sql} (hchecks : ∀ a ∈ checks, a.isCheck = true)
    (h : run (exec engine) ⟨d, some disk⟩ ((before ++ .setSchemaVersion schemaVersion :: checks).map .exec) = .ok c) :
    ∃ s, c.transaction = some s ∧ IsCurrent s.db := by
  rw [List.map_append, List.map_cons] at h
  obtain ⟨⟨d₁, o₁⟩, hbefore, hrest⟩ := run_append h
  obtain ⟨hdisk, s₁, hs₁⟩ := run_body hbefore
  cases hs₁
  obtain ⟨c₂, hversion, hrest⟩ := run_cons hrest
  obtain ⟨s₂, hs₂, rfl⟩ := map_eq_ok hversion
  exact ⟨s₂, transaction_of_checks hchecks hrest, exec_setSchemaVersion hs₂⟩

/-- Every migration records the current version in its transaction, and after that only checks. -/
theorem migrationBody_eq (h : migrationBody version = some body) : (∀ a ∈ body, a.isFile = false) ∧
      ∃ before checks, body = before ++ .setSchemaVersion schemaVersion :: checks ∧ ∀ a ∈ checks, a.isCheck = true := by
  unfold migrationBody at h
  split at h
  all_goals cases h
  case h_1 => exact ⟨by decide +kernel, _, [], rfl, nofun⟩
  case h_2 => exact ⟨by decide +kernel, _, [], rfl, nofun⟩
  case h_3 => exact ⟨by decide +kernel, _, [], rfl, nofun⟩
  case h_4 =>
    refine ⟨by decide +kernel, [.check (.rows .v10RangeKinds)] ++ rebuildRunsErrorRangeKindV11 ++ agentConversationSchema ++
      pluginPermissionSchema ++ pluginLifecycleSchema ++ [.check (.rows .v10CopyCount)], [.check .runsSchemaV11], ?_, by decide⟩
    simp only [List.append_assoc, List.cons_append, List.nil_append]
  case h_5 =>
    refine ⟨by decide +kernel, [.check (.rows .v11Identity)] ++ agentConversationSchema ++ pluginPermissionSchema ++
      pluginLifecycleSchema ++ [.check (.rows .v11MappingCount)], [], ?_, nofun⟩
    simp only [List.append_assoc, List.cons_append, List.nil_append]
  case h_6 => exact ⟨by decide +kernel, _, [], rfl, nofun⟩
  case h_7 => exact ⟨by decide +kernel, _, [], rfl, nofun⟩

/-! ## Opening again -/

theorem plan_of_isEmpty (h : db.isEmpty = true) (named : Bool) :
    plan named db = .ok ((bootstrap ++ assertCurrentSchema).map .exec) := by
  rw [plan, h]
  rfl

theorem run_of_openStore {actions : List (Action Sql)} (hplan : plan named disk.db = .ok actions)
    (h : openStore engine named disk = .ok d) : ∃ c, run (exec engine) ⟨disk, none⟩ actions = .ok c ∧ c.disk = d := by
  rw [openStore, hplan] at h
  obtain ⟨actions', hactions, h⟩ := bind_eq_ok h
  cases hactions
  obtain ⟨c, hrun, h⟩ := bind_eq_ok h
  cases h
  exact ⟨c, hrun, rfl⟩

/-- A current database whose checks have passed can be opened, whatever backups there are. -/
theorem openStore_of_isCurrent (hcurrent : IsCurrent disk.db)
    (h : run (exec engine) ⟨disk, none⟩ (assertCurrentSchema.map .exec) = .ok c) (hdb : disk.db = disk'.db) :
    ∃ d, openStore engine named disk' = .ok d ∧ d.db = disk.db := by
  have hfile : ∀ a, Action.exec a ∈ assertCurrentSchema.map Action.exec → a.isFile = false := by
    intro a ha
    obtain ⟨b, hb, heq⟩ := List.mem_map.mp ha
    cases heq
    have hcheck := isCheck_of_mem_assertCurrentSchema a hb
    cases a with
    | check c => rfl
    | _ => cases hcheck
  obtain ⟨c', hrun, hc'⟩ := run_related (R := fun s s' : Disk ρ => s.db = s'.db)
    (fun a ha d d' s s' t hd hs hexec => exec_of_db_eq (hfile a ha) hd hs hexec) hdb .none h
  have hkept : id c.disk = id disk := (run_kept (db_kept_of_checks isCheck_of_mem_assertCurrentSchema) h).2
  rw [id, id] at hkept
  refine ⟨c'.disk, ?_, by rw [← hc', hkept]⟩
  rw [openStore, plan, ← hdb, hcurrent.nonempty, hcurrent.version]
  simp only [Bool.false_eq_true, if_false, if_true]
  simp only [bind, Except.bind]
  rw [hrun]
  rfl

/-- The backup can be made whether there is one or not, and leaves the database. -/
theorem run_backup (engine : RowEngine ρ) (named : Bool) (version : Nat) (disk : Disk ρ) :
    ∃ backups, run (exec engine) ⟨disk, none⟩ ((createPreMigrationBackup named version).map .exec) = .ok ⟨⟨disk.db, backups⟩, none⟩ := by
  cases named with
  | false => exact ⟨disk.backups, rfl⟩
  | true =>
    refine ⟨Function.update (Function.update disk.backups version false) version true, ?_⟩
    simp [createPreMigrationBackup, run, act, exec, Except.map, bind, Except.bind, pure, Except.pure]

/-! ## Stopping in a migration -/

/-- After a migration the database is current and its checks have passed. -/
theorem isCurrent_of_migration (hbody : migrationBody version = some body)
    (h : run (exec engine) ⟨disk, none⟩ (transaction (createPreMigrationBackup named version) body assertCurrentSchema) = .ok c) :
    IsCurrent c.disk.db ∧ run (exec engine) ⟨c.disk, none⟩ (assertCurrentSchema.map .exec) = .ok c := by
  obtain ⟨-, before, checks, hbodyEq, hchecks⟩ := migrationBody_eq hbody
  obtain ⟨backups, hbackup⟩ := run_backup engine named version disk
  rw [transaction, run_append_of_ok hbackup] at h
  obtain ⟨⟨d₁, o₁⟩, hbegin, hrest⟩ := run_append h
  obtain ⟨c₂, hact, hrun⟩ := run_cons hbegin
  cases hact
  rw [hbodyEq] at hrun
  obtain ⟨s, hs, hcurrent⟩ := isCurrent_of_body hchecks hrun
  cases hs
  obtain ⟨c₃, hcommit, hassert⟩ := run_cons hrest
  cases hcommit
  have hkept : id c.disk = id s := (run_kept (db_kept_of_checks isCheck_of_mem_assertCurrentSchema) hassert).2
  rw [id, id] at hkept
  rw [hkept]
  exact ⟨hcurrent, hassert⟩

/-- A migration of the same database does the same, whatever backups there are. -/
theorem run_migration_of_db_eq (hbody : migrationBody version = some body)
    (h : run (exec engine) ⟨disk, none⟩ (transaction (createPreMigrationBackup named version) body assertCurrentSchema) = .ok c)
    (hdb : disk.db = disk'.db) :
    ∃ c', run (exec engine) ⟨disk', none⟩ (transaction (createPreMigrationBackup named version) body assertCurrentSchema) = .ok c' ∧
      c.disk.db = c'.disk.db := by
  obtain ⟨hbodyFile, -⟩ := migrationBody_eq hbody
  obtain ⟨backups, hbackup⟩ := run_backup engine named version disk
  obtain ⟨backups', hbackup'⟩ := run_backup engine named version disk'
  rw [transaction, run_append_of_ok hbackup] at h
  rw [transaction, run_append_of_ok hbackup']
  have hrel : (⟨disk.db, backups⟩ : Disk ρ).db = (⟨disk'.db, backups'⟩ : Disk ρ).db := hdb
  refine run_related (R := fun s s' : Disk ρ => s.db = s'.db) ?_ hrel .none h
  intro a ha d d' s s' t hd hs hexec
  refine exec_of_db_eq ?_ hd hs hexec
  simp only [List.cons_append, List.mem_cons, List.mem_append, List.mem_map, Action.exec.injEq, exists_eq_right, reduceCtorEq,
    false_or] at ha
  rcases ha with ha | ha
  · exact hbodyFile a ha
  · have hcheck := isCheck_of_mem_assertCurrentSchema a ha
    cases a with
    | check c => rfl
    | _ => cases hcheck

/-- What is left of an open of a database that is there already can be opened, with the same result. -/
theorem reopen_of_nonempty (hnonempty : disk.db.isEmpty = false) (h : openStore engine named disk = .ok d₀) (n : Nat) :
    ∃ d, openStore engine named (stoppedAfter engine named disk n) = .ok d ∧ d.db = d₀.db := by
  have hopen := h
  rw [openStore] at h
  obtain ⟨actions, hplan, h⟩ := bind_eq_ok h
  obtain ⟨c, hrun, h⟩ := bind_eq_ok h
  cases h
  have hstopped : stoppedAfter engine named disk n = stopped (exec engine) ⟨disk, none⟩ actions n := by
    rw [stoppedAfter, hplan]
  rw [hstopped]
  have hactions := hplan
  rw [plan, hnonempty] at hactions
  simp only [Bool.false_eq_true, if_false] at hactions
  split at hactions
  · cases hactions
  · next version hversion =>
    split at hactions
    · -- Only checks: nothing is written.
      cases hactions
      have hkept : id (stopped (exec engine) ⟨disk, none⟩ (assertCurrentSchema.map .exec) n) = id disk :=
        stopped_kept (db_kept_of_checks isCheck_of_mem_assertCurrentSchema) hrun n
      rw [id, id] at hkept
      rw [hkept]
      exact ⟨c.disk, hopen, rfl⟩
    · split at hactions
      · cases hactions
      · next body hbody =>
        cases hactions
        have hbackup : ∀ a ∈ createPreMigrationBackup named version.toNat, ∀ (d s s' : Disk ρ),
            exec engine d s a = .ok s' → s'.db = s.db := by
          intro a ha d s s' hexec
          refine exec_file ?_ hexec
          cases named with
          | false => cases ha
          | true =>
            simp only [createPreMigrationBackup, if_true, List.mem_cons, List.not_mem_nil, or_false] at ha
            rcases ha with rfl | rfl | rfl <;> rfl
        have hassert : ∀ a ∈ assertCurrentSchema, ∀ (d s s' : Disk ρ), exec engine d s a = .ok s' → s'.db = s.db := by
          intro a ha d s s' hexec
          rw [exec_check (isCheck_of_mem_assertCurrentSchema a ha) hexec]
        rcases stopped_transaction (f := Disk.db) hbackup hassert hrun n with hleft | hleft
        · -- The old database: the migration is done again.
          obtain ⟨c', hrun', hdb'⟩ := run_migration_of_db_eq hbody hrun hleft.symm
          refine ⟨c'.disk, ?_, hdb'.symm⟩
          rw [openStore, hleft, hplan]
          simp only [bind, Except.bind]
          rw [hrun']
          rfl
        · -- The new database: it is current, and its checks have passed.
          obtain ⟨hcurrent, hchecked⟩ := isCurrent_of_migration hbody hrun
          exact openStore_of_isCurrent hcurrent hchecked hleft.symm

/-! ## Stopping in the bootstrap -/

/-- There are tables and no version. -/
structure Unversioned (db : Database ρ) : Prop where
  nonempty : db.tables ≠ []
  version : db.version = none

theorem plan_of_unversioned (h : Unversioned db) (named : Bool) : plan named db = .error "missing schema version metadata" := by
  have hempty : db.isEmpty = false := List.isEmpty_eq_false_iff.mpr h.nonempty
  have hversion : db.readSchemaVersion = none := by
    rw [readSchemaVersion, h.version]
    split <;> rfl
  rw [plan, hempty, hversion]
  rfl

theorem tables_addTable (db : Database ρ) (t : TableDef) : (db.addTable t).tables = db.tables ++ [t] := by
  simp [tables, addTable, List.filterMap_append]

theorem tables_addIndex {db' : Database ρ} {index table : String} (h : db.addIndex index table = .ok db') :
    db'.tables = db.tables ∧ db'.version = db.version := by
  rw [addIndex] at h
  split at h
  · cases h
  · cases h
    exact ⟨by simp [tables, List.filterMap_append], rfl⟩

/-- Adding a table or an index to a database without a version leaves it so. -/
theorem unversioned_of_create (ha : a.isCreate = true)
    (h : exec engine begun disk a = .ok disk') (hdisk : Unversioned disk.db) : Unversioned disk'.db := by
  have hadd : ∀ t : TableDef, Unversioned (disk.db.addTable t) := by
    intro t
    refine ⟨by rw [tables_addTable]; exact List.append_ne_nil_of_left_ne_nil hdisk.nonempty _, ?_⟩
    simp only [addTable, hdisk.version, ite_self]
  have hindex : ∀ {index table : String} {db : Database ρ}, disk.db.addIndex index table = .ok db → Unversioned db := by
    intro index table db hdb
    obtain ⟨htables, hversion⟩ := tables_addIndex hdb
    exact ⟨by rw [htables]; exact hdisk.nonempty, hversion.trans hdisk.version⟩
  have hschema : ∀ db, execSchema disk.db a = .ok db → Unversioned db := by
    intro db hdb
    cases a with
    | createTable t =>
      simp only [execSchema] at hdb
      split at hdb
      · cases hdb
      · cases hdb
        exact hadd t
    | ensureTable t =>
      simp only [execSchema] at hdb
      split at hdb
      · cases hdb
        exact hdisk
      · cases hdb
        exact hadd t
    | createIndex index table =>
      simp only [execSchema] at hdb
      split at hdb
      · cases hdb
      · exact hindex hdb
    | ensureIndex index table =>
      simp only [execSchema] at hdb
      split at hdb
      · cases hdb
        exact hdisk
      · exact hindex hdb
    | _ => cases ha
  cases a with
  | createTable _ | ensureTable _ | createIndex _ _ | ensureIndex _ _ =>
    obtain ⟨db, hdb, h⟩ := bind_eq_ok h
    obtain ⟨rows, -, h⟩ := bind_eq_ok h
    cases h
    exact ⟨(hschema db hdb).nonempty, (hschema db hdb).version⟩
  | _ => cases ha

/-- The first statement of the bootstrap leaves a table and no version. -/
theorem unversioned_of_first (h : exec engine begun disk (.createTable metadata) = .ok disk') : Unversioned disk'.db := by
  obtain ⟨db, hdb, h⟩ := bind_eq_ok h
  obtain ⟨rows, -, h⟩ := bind_eq_ok h
  cases h
  simp only [execSchema] at hdb
  split at hdb
  · cases hdb
  · cases hdb
    exact ⟨by rw [show tables { disk.db.addTable metadata with rows := rows } = (disk.db.addTable metadata).tables from rfl,
      tables_addTable]; exact List.append_ne_nil_of_right_ne_nil _ (List.cons_ne_nil _ _), rfl⟩

/-- The statements of the bootstrap between the first one and the one that records the version. -/
def bootstrapMiddle : List Sql := v8Schema.tail ++ pluginPermissionSchema ++ pluginLifecycleSchema

theorem bootstrap_eq : bootstrap = .createTable metadata :: (bootstrapMiddle ++ [.setSchemaVersion schemaVersion]) := rfl

theorem isCreate_of_mem_bootstrapMiddle : ∀ a ∈ bootstrapMiddle, a.isCreate = true := by
  decide +kernel

/-- A bootstrap that stops after its first statement and before its last one leaves a database that is refused. -/
theorem refused_of_bootstrap (hempty : disk.db.isEmpty = true)
    (h : openStore engine named disk = .ok d₀) (hpos : 0 < n) (hn : n < bootstrap.length) :
    openStore engine named (stoppedAfter engine named disk n) = .error "missing schema version metadata" := by
  obtain ⟨c, hrun, -⟩ := run_of_openStore (plan_of_isEmpty hempty named) h
  rw [bootstrap_eq, List.cons_append, List.map_cons] at hrun
  obtain ⟨c₁, hfirst, hrest⟩ := run_cons hrun
  obtain ⟨s₁, hs₁, rfl⟩ := map_eq_ok hfirst
  rw [List.append_assoc, List.map_append] at hrest
  obtain ⟨c₂, hmiddle, -⟩ := run_append hrest
  obtain ⟨m, rfl⟩ : ∃ m, n = m + 1 := ⟨n - 1, by omega⟩
  have hm : m ≤ (bootstrapMiddle.map Action.exec).length := by
    rw [bootstrap_eq, List.length_cons, List.length_append, List.length_singleton] at hn
    rw [List.length_map]
    omega
  have hstopped : stoppedAfter engine named disk (m + 1) =
      stopped (exec engine) ⟨s₁, none⟩ (bootstrapMiddle.map Action.exec) m := by
    rw [stoppedAfter, plan_of_isEmpty hempty]
    simp only
    rw [bootstrap_eq, List.cons_append, List.map_cons, stopped, hfirst]
    simp only
    rw [List.append_assoc, List.map_append, stopped_append hmiddle, if_pos hm]
  have hleft : Unversioned (stoppedAfter engine named disk (m + 1)).db := by
    rw [hstopped]
    exact stopped_invariant (I := fun d : Disk ρ => Unversioned d.db)
      (fun a ha _ _ _ hexec hI => unversioned_of_create (isCreate_of_mem_bootstrapMiddle a ha) hexec hI) (unversioned_of_first hs₁) m
  rw [openStore, plan_of_unversioned hleft]
  rfl

/-- A bootstrap that stops once it has recorded the version leaves a database that can be opened. -/
theorem reopen_of_bootstrap (hempty : disk.db.isEmpty = true)
    (h : openStore engine named disk = .ok d₀) (hn : bootstrap.length ≤ n) :
    ∃ d, openStore engine named (stoppedAfter engine named disk n) = .ok d ∧ d.db = d₀.db := by
  obtain ⟨c, hrun, rfl⟩ := run_of_openStore (plan_of_isEmpty hempty named) h
  rw [List.map_append] at hrun
  obtain ⟨c₁, hbootstrap, hassert⟩ := run_append hrun
  have hcurrent : IsCurrent c₁.disk.db := isCurrent_of_bootstrap hbootstrap
  obtain ⟨hnone, -⟩ := run_kept (f := fun _ : Disk ρ => ()) (fun _ _ _ _ _ _ => rfl) hbootstrap
  obtain ⟨s₁, rfl⟩ : ∃ s₁, c₁ = ⟨s₁, none⟩ := ⟨c₁.disk, by rw [← hnone]⟩
  have hkept : id c.disk = id s₁ := (run_kept (db_kept_of_checks isCheck_of_mem_assertCurrentSchema) hassert).2
  rw [id, id] at hkept
  have hleft : stoppedAfter engine named disk n = s₁ := by
    rw [stoppedAfter, plan_of_isEmpty hempty]
    simp only [List.map_append]
    rw [stopped_append hbootstrap]
    split
    · next hle =>
      rw [List.length_map] at hle
      exact stopped_all hbootstrap n (by rw [List.length_map]; omega)
    · have hchecks := stopped_kept (db_kept_of_checks isCheck_of_mem_assertCurrentSchema) hassert
        (n - (bootstrap.map Action.exec).length)
      rw [id, id] at hchecks
      exact hchecks
  rw [hleft, hkept]
  exact openStore_of_isCurrent hcurrent hassert rfl

/-- For a database that can be opened, and a process that stops anywhere in opening it: what it leaves can be opened, with the same
result, exactly when it has not stopped in a bootstrap between its first statement and the one that records the version. -/
theorem stop_survivable_iff (engine : RowEngine ρ) (named : Bool) (disk d₀ : Disk ρ) (h : openStore engine named disk = .ok d₀)
    (n : Nat) : (∃ d, openStore engine named (stoppedAfter engine named disk n) = .ok d ∧ d.db = d₀.db) ↔
      (disk.db.isEmpty = false ∨ n = 0 ∨ bootstrap.length ≤ n) := by
  constructor
  · rintro ⟨d, hd, -⟩
    by_contra hnot
    obtain ⟨hempty, hrest⟩ := not_or.mp hnot
    obtain ⟨hpos, hn⟩ := not_or.mp hrest
    rw [refused_of_bootstrap (Bool.not_eq_false _ ▸ hempty) h (Nat.pos_of_ne_zero hpos) (Nat.lt_of_not_le hn)] at hd
    cases hd
  · rintro (hnonempty | rfl | hn)
    · exact reopen_of_nonempty hnonempty h n
    · have hleft : stoppedAfter engine named disk 0 = disk := by
        rw [stoppedAfter]
        split
        · rfl
        · exact stopped_zero _ _
      rw [hleft]
      exact ⟨d₀, h, rfl⟩
    · cases hempty : disk.db.isEmpty with
      | false => exact reopen_of_nonempty hempty h n
      | true => exact reopen_of_bootstrap hempty h hn

/-- An engine for databases without rows. -/
def noRows : RowEngine Unit := ⟨fun _ _ => .ok (), fun _ _ _ => .ok ()⟩

/-- No table yet. -/
def freshDisk : Disk Unit := ⟨⟨[], none, ()⟩, fun _ => false⟩

/-- A new store can be opened. -/
def isOpened : Except String (Disk Unit) → Bool
  | .ok d => d.db.readSchemaVersion == some (schemaVersion : Int)
  | .error _ => false

theorem openStore_freshDisk : isOpened (openStore noRows true freshDisk) = true := by
  decide +kernel

/-- A process that stops once the version of a new store is recorded has left a store that can be opened. -/
theorem stop_survivable_after_version : ∃ d₀, openStore noRows true freshDisk = .ok d₀ ∧
      ∃ d, openStore noRows true (stoppedAfter noRows true freshDisk bootstrap.length) = .ok d ∧ d.db = d₀.db := by
  cases hopen : openStore noRows true freshDisk with
  | error e =>
    have hopened := openStore_freshDisk
    rw [hopen] at hopened
    cases hopened
  | ok d₀ => exact ⟨d₀, rfl, (stop_survivable_iff noRows true freshDisk d₀ hopen _).mpr (.inr (.inr (Nat.le_refl _)))⟩

/-- A process that stops after the first statement of the bootstrap has left a store that is refused from then on. -/
theorem stop_in_bootstrap_refused : isOpened (openStore noRows true freshDisk) = true ∧
      openStore noRows true (stoppedAfter noRows true freshDisk 1) = .error "missing schema version metadata" := by
  refine ⟨openStore_freshDisk, ?_⟩
  rfl

end Rho.StoreSchema
