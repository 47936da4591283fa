import Mathlib.Algebra.Group.Nat.Defs
import Rho.Lib.Durable
import Rho.Store.Schema

/-!
# Opening the store

`Store::open`: an empty database gets the current schema, statement by statement; one of an older version is backed up and migrated
in one transaction; one of the current version is checked. Everything else is refused.

The database has the schema (`sqlite_master`), the version that the metadata record, and the rows of the other tables. What a
statement makes of those rows, and whether a check of them passes, is the engine's: no statement here reads them otherwise.
-/

namespace Rho.StoreSchema

inductive SchemaObject where
  | table (definition : TableDef)
  | index (name table : String)
  deriving DecidableEq, Repr

/-- `ρ` is what the tables hold, the version apart. -/
structure Database (ρ : Type) where
  objects : List SchemaObject
  version : Option String
  rows : ρ
  deriving DecidableEq

structure RowEngine (ρ : Type) where
  /-- What a statement makes of the rows; an error when one of their constraints fails. -/
  exec : Sql → Database ρ → Except String ρ
  /-- Whether a check of the rows passes, in a database since the one that the transaction began with. -/
  query : RowCheck → Database ρ → Database ρ → Except String Unit

variable {ρ : Type}

namespace Database

variable (db : Database ρ)

def tables : List TableDef := db.objects.filterMap (fun o => match o with | .table t => some t | .index _ _ => none)

def getTable (name : String) : Option TableDef := db.tables.find? (fun t => t.name == name)

def hasIndex (name : String) : Bool := db.objects.any (fun o => match o with | .table _ => false | .index n _ => n == name)

/-- `database_is_empty`. -/
def isEmpty : Bool := db.tables.isEmpty

end Database

/-- `str::parse` of a number without its sign. -/
def parseDigits (digits : List Char) : Option Nat :=
  if digits.isEmpty || !digits.all Char.isDigit then none
  else some (digits.foldl (fun n c => 10 * n + (c.toNat - '0'.toNat)) 0)

/-- `str::parse::<i64>`. -/
def parseI64 (text : String) : Option Int :=
  match text.toList with
  | '-' :: digits => (parseDigits digits).bind (fun n => if n ≤ 2 ^ 63 then some (-(n : Int)) else none)
  | '+' :: digits => (parseDigits digits).bind (fun n => if n < 2 ^ 63 then some (n : Int) else none)
  | digits => (parseDigits digits).bind (fun n => if n < 2 ^ 63 then some (n : Int) else none)

/-- `read_schema_version`. -/
def Database.readSchemaVersion (db : Database ρ) : Option Int :=
  match db.getTable "metadata" with
  | none => none
  | some _ => db.version.bind parseI64

/-! ## Statements -/

def SchemaObject.renamed (table name : String) : SchemaObject → SchemaObject
  | .table t => .table (if t.name = table then { t with name := name } else t)
  | .index i t => .index i (if t = table then name else t)

def SchemaObject.ofTable (table : String) : SchemaObject → Bool
  | .table t => t.name == table
  | .index _ t => t == table

def SchemaObject.withColumn (table : String) (c : Column) (constraints : List String) : SchemaObject → SchemaObject
  | .table t =>
    .table (if t.name = table then { t with columns := t.columns ++ [c], constraints := t.constraints ++ constraints } else t)
  | .index i t => .index i t

namespace Database

variable (db : Database ρ)

/-- A new table is empty, so a new table of the metadata has no version. -/
def addTable (t : TableDef) : Database ρ :=
  { db with
    objects := db.objects ++ [.table t]
    version := if t.name = "metadata" then none else db.version }

def addIndex (index table : String) : Except String (Database ρ) :=
  if (db.getTable table).isNone then .error ("no such table: main." ++ table)
  else .ok { db with objects := db.objects ++ [.index index table] }

def notNullProjectIdentity (table : String) : Except String Unit :=
  match ((db.getTable table).map TableDef.columns).getD [] |>.find? (fun c => c.name == "project_root") with
  | none => .error (table ++ ".project_root column is missing")
  | some c =>
    if c.declaredType.toList.map Char.toUpper = "TEXT".toList ∧ c.notNull = true then .ok ()
    else .error (table ++ ".project_root must be TEXT NOT NULL")

def hasColumn (table column : String) : Bool :=
  (((db.getTable table).map TableDef.columns).getD []).any (fun c => c.name == column)

def sqlContains (table : String) (markers : List String) : Bool :=
  markers.all (fun marker => (((db.getTable table).map TableDef.constraints).getD []).contains marker)

end Database

section

variable (engine : RowEngine ρ)

def runCheck (begun db : Database ρ) : Check → Except String Unit
  | .notNullProjectIdentity table => db.notNullProjectIdentity table
  | .tableExists table => if (db.getTable table).isSome then .ok () else .error ("required table " ++ table ++ " is missing")
  | .indexExists index => if db.hasIndex index then .ok () else .error ("required index " ++ index ++ " is missing")
  | .columnExists table column =>
    if db.hasColumn table column then .ok () else .error (table ++ "." ++ column ++ " column is missing")
  | .columnAbsent table column =>
    if db.hasColumn table column then .error (table ++ "." ++ column ++ " must not persist live plugin authority or secrets")
    else .ok ()
  | .sqlContains table markers => if db.sqlContains table markers then .ok () else .error (table ++ " constraints are not current")
  | .runsSchemaV11 =>
    if db.sqlContains "runs" ["error_range_kindin('r_expression','r_parse_token')"] && db.hasIndex "idx_runs_project_started" then
      .ok ()
    else .error "schema v11 run table assertion failed"
  | .rows check => engine.query check begun db

/-- What a statement makes of the schema and the version. -/
def execSchema (db : Database ρ) : Sql → Except String (Database ρ)
  | .createTable t => if (db.getTable t.name).isSome then .error ("table " ++ t.name ++ " already exists") else .ok (db.addTable t)
  | .ensureTable t => if (db.getTable t.name).isSome then .ok db else .ok (db.addTable t)
  | .createIndex index table => if db.hasIndex index then .error ("index " ++ index ++ " already exists") else db.addIndex index table
  | .ensureIndex index table => if db.hasIndex index then .ok db else db.addIndex index table
  | .dropIndex index =>
    .ok { db with objects := db.objects.filter (fun o => match o with | .table _ => true | .index i _ => i != index) }
  | .renameTable table name =>
    if (db.getTable table).isNone then .error ("no such table: " ++ table)
    else if (db.getTable name).isSome then .error ("there is already another table or index with this name: " ++ name)
    else .ok { db with objects := db.objects.map (SchemaObject.renamed table name) }
  | .dropTable table =>
    if (db.getTable table).isNone then .error ("no such table: " ++ table)
    else .ok { db with objects := db.objects.filter (fun o => !o.ofTable table) }
  | .addColumn table c constraints =>
    if (db.getTable table).isNone then .error ("no such table: " ++ table)
    else if db.hasColumn table c.name then .error ("duplicate column name: " ++ c.name)
    else .ok { db with objects := db.objects.map (SchemaObject.withColumn table c constraints) }
  | .copyInto table => if (db.getTable table).isNone then .error ("no such table: " ++ table) else .ok db
  | .setSchemaVersion version =>
    if (db.getTable "metadata").isNone then .error "no such table: metadata" else .ok { db with version := some (toString version) }
  | .removeBackup _ | .walCheckpoint | .vacuumInto _ | .check _ => .ok db

/-- The database file and the backup files beside it, by the version they were made of. -/
structure Disk (ρ : Type) where
  db : Database ρ
  backups : Nat → Bool

/-- A statement, with what is durable besides the state it works on. -/
def exec (begun disk : Disk ρ) (statement : Sql) : Except String (Disk ρ) :=
  match statement with
  | .removeBackup version => .ok { disk with backups := Function.update disk.backups version false }
  | .walCheckpoint => .ok disk
  | .vacuumInto version =>
    if disk.backups version then .error "output file already exists"
    else .ok { disk with backups := Function.update disk.backups version true }
  | .check check => (runCheck engine begun.db disk.db check).map (fun _ => disk)
  | statement => do
    let db ← execSchema disk.db statement
    let rows ← engine.exec statement disk.db
    return { disk with db := { db with rows := rows } }

/-! ## Opening -/

def schemaVersion : Nat := 14

/-- `create_pre_migration_backup`; a path without a file name has no backup. -/
def createPreMigrationBackup (named : Bool) (version : Nat) : List Sql :=
  if named then [.removeBackup version, .walCheckpoint, .vacuumInto version] else []

/-- What the migration from a version does in its transaction. -/
def migrationBody : Nat → Option (List Sql)
  | 7 =>
    some ([.check (.rows .v7Identity)] ++ rebuildRunsV8 ++ rebuildAgentTurnsV8 ++ rebuildApprovalRequestsV8 ++ rebuildPlotArtifactsV8 ++
      claimReviewSchema ++ agentConversationSchema ++ pluginPermissionSchema ++ pluginLifecycleSchema ++ projectIndexes ++
      [.setSchemaVersion schemaVersion])
  | 8 =>
    some (claimReviewSchema ++ addRunErrorRangeColumns ++ agentConversationSchema ++ pluginPermissionSchema ++ pluginLifecycleSchema ++
      [.setSchemaVersion schemaVersion])
  | 9 =>
    some (addRunErrorRangeColumns ++ agentConversationSchema ++ pluginPermissionSchema ++ pluginLifecycleSchema ++
      [.setSchemaVersion schemaVersion])
  | 10 =>
    some ([.check (.rows .v10RangeKinds)] ++ rebuildRunsErrorRangeKindV11 ++ agentConversationSchema ++ pluginPermissionSchema ++
      pluginLifecycleSchema ++ [.check (.rows .v10CopyCount), .setSchemaVersion schemaVersion, .check .runsSchemaV11])
  | 11 =>
    some ([.check (.rows .v11Identity)] ++ agentConversationSchema ++ pluginPermissionSchema ++ pluginLifecycleSchema ++
      [.check (.rows .v11MappingCount), .setSchemaVersion schemaVersion])
  | 12 => some (pluginPermissionSchema ++ pluginLifecycleSchema ++ [.setSchemaVersion schemaVersion])
  | 13 => some (pluginLifecycleSchema ++ [.setSchemaVersion schemaVersion])
  | _ => none

/-- The bootstrap of an empty database, up to the statement that records its version. -/
def bootstrap : List Sql :=
  v8Schema ++ pluginPermissionSchema ++ pluginLifecycleSchema ++ [.setSchemaVersion schemaVersion]

open Durable in
/-- What `migrate` does with a database: the statements of the bootstrap are not in a transaction. -/
def plan (named : Bool) (db : Database ρ) : Except String (List (Action Sql)) :=
  if db.isEmpty then .ok ((bootstrap ++ assertCurrentSchema).map .exec)
  else
    match db.readSchemaVersion with
    | none => .error "missing schema version metadata"
    | some version =>
      if version = (schemaVersion : Int) then .ok (assertCurrentSchema.map .exec)
      else
        match migrationBody version.toNat with
        | none => .error ("unsupported schema version " ++ toString version)
        | some body => .ok (transaction (createPreMigrationBackup named version.toNat) body assertCurrentSchema)

/-- `Store::open`: the disk that an open that succeeds leaves. -/
def openStore (named : Bool) (disk : Disk ρ) : Except String (Disk ρ) := do
  let actions ← plan named disk.db
  let c ← Durable.run (exec engine) ⟨disk, none⟩ actions
  return c.disk

/-- The disk that is left when the process stops in an open, after some of its statements. -/
def stoppedAfter (named : Bool) (disk : Disk ρ) (n : Nat) : Disk ρ :=
  match plan named disk.db with
  | .error _ => disk
  | .ok actions => Durable.stopped (exec engine) ⟨disk, none⟩ actions n

end

end Rho.StoreSchema
