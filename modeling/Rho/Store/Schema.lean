import Mathlib.Tactic.Common

/-!
# The schema of the store

`migration.rs`: the tables and indexes of the database and the statements that create, rebuild and migrate them, in the order in
which a batch runs them. Of a table the columns are kept with their declared type and whether they may be null, and of its other
constraints the ones that opening looks for in the text of the table: without white space and in lower case, as it looks for them.
-/

namespace Rho.StoreSchema

structure Column where
  name : String
  declaredType : String
  notNull : Bool
  deriving DecidableEq, Repr

/-- `TEXT NOT NULL`. -/
def required (name : String) : Column := ⟨name, "TEXT", true⟩

/-- `TEXT`. -/
def nullable (name : String) : Column := ⟨name, "TEXT", false⟩

/-- `INTEGER NOT NULL`. -/
def requiredInteger (name : String) : Column := ⟨name, "INTEGER", true⟩

/-- `INTEGER`. -/
def integer (name : String) : Column := ⟨name, "INTEGER", false⟩

structure TableDef where
  name : String
  columns : List Column
  constraints : List String := []
  deriving DecidableEq, Repr

/-- What opening asks the rows for. -/
inductive RowCheck where
  | v7Identity | v10RangeKinds | v10CopyCount | v11Identity | v11MappingCount | conversationMapping | permissionIdentity
  | permissionForeignKeys | lifecycleRows | lifecycleForeignKeys
  deriving DecidableEq, Repr

/-- What opening asks the database for. -/
inductive Check where
  | notNullProjectIdentity (table : String)
  | tableExists (table : String)
  | indexExists (index : String)
  | columnExists (table column : String)
  | columnAbsent (table column : String)
  | sqlContains (table : String) (markers : List String)
  | runsSchemaV11
  | rows (check : RowCheck)
  deriving DecidableEq, Repr

/-- A statement, a query that opening depends on, or a change of a backup file. -/
inductive Sql where
  | createTable (table : TableDef)
  /-- `CREATE TABLE IF NOT EXISTS`. -/
  | ensureTable (table : TableDef)
  | createIndex (index table : String)
  /-- `CREATE INDEX IF NOT EXISTS`. -/
  | ensureIndex (index table : String)
  /-- `DROP INDEX IF EXISTS`. -/
  | dropIndex (index : String)
  | renameTable (table name : String)
  | dropTable (table : String)
  | addColumn (table : String) (column : Column) (constraints : List String)
  /-- `INSERT INTO … SELECT`. -/
  | copyInto (table : String)
  | setSchemaVersion (version : Nat)
  | removeBackup (version : Nat)
  | walCheckpoint
  /-- `VACUUM INTO` the backup file of a version. -/
  | vacuumInto (version : Nat)
  | check (check : Check)
  deriving DecidableEq, Repr

/-! ## Tables -/

def metadata : TableDef where
  name := "metadata"
  columns :=
    [nullable "key", required "value"]

def events : TableDef where
  name := "events"
  columns :=
    [integer "seq", required "event_id", required "timestamp", required "kind", required "payload"]

def runs : TableDef where
  name := "runs"
  columns :=
    [nullable "run_id", nullable "parent_run_id", required "project_root", required "origin", required "status",
     required "started_at", nullable "finished_at", nullable "terminal_reason", required "request_type",
     required "operation_class", required "code", required "arguments_json", nullable "source_path",
     nullable "execution_mode", integer "document_version", nullable "workspace_id", integer "state_revision_before",
     integer "project_revision_before", integer "state_revision_after", integer "project_revision_after", nullable "stdout",
     nullable "value_text", required "messages_json", required "warnings_json", nullable "error_message",
     nullable "error_call", required "traceback_json", integer "error_start_line", integer "error_start_column",
     integer "error_end_line", integer "error_end_column", nullable "error_range_kind", requiredInteger "cancel_requested",
     nullable "environment_snapshot_id", nullable "environment_snapshot_id_after"]
  constraints :=
    ["error_range_kindin('r_expression','r_parse_token')"]

def workspaceIdentity : TableDef where
  name := "workspace_identity"
  columns :=
    [integer "singleton", required "payload"]

def agentTurns : TableDef where
  name := "agent_turns"
  columns :=
    [nullable "turn_id", required "project_root", required "mode", required "prompt", required "prompt_preview",
     required "model", required "status", required "started_at", nullable "finished_at", nullable "workspace_id_before",
     integer "state_revision_before", integer "project_revision_before", nullable "workspace_id_after",
     integer "state_revision_after", integer "project_revision_after", nullable "final_message", nullable "error_message"]

def agentConversations : TableDef where
  name := "agent_conversations"
  columns :=
    [nullable "conversation_id", required "project_root", required "title", required "created_at", required "updated_at",
     nullable "archived_at", requiredInteger "legacy_unthreaded"]

def agentConversationTurns : TableDef where
  name := "agent_conversation_turns"
  columns :=
    [nullable "turn_id", required "conversation_id", nullable "retry_of_turn_id", nullable "terminal_reason"]

def agentTurnEvents : TableDef where
  name := "agent_turn_events"
  columns :=
    [integer "id", required "turn_id", required "timestamp", required "event_type", required "title", nullable "body",
     required "status", nullable "tool", nullable "request_id", nullable "code", required "details_json"]

def approvalRequests : TableDef where
  name := "approval_requests"
  columns :=
    [nullable "request_id", required "turn_id", required "project_root", required "tool", required "policy",
     required "status", nullable "decision", nullable "reason", required "arguments_json", nullable "code",
     nullable "workspace_id", integer "state_revision", integer "project_revision", required "requested_at",
     nullable "responded_at", nullable "continuation_outcome"]

def plotArtifacts : TableDef where
  name := "plot_artifacts"
  columns :=
    [nullable "plot_id", required "run_id", required "project_root", nullable "source_path", nullable "execution_mode",
     integer "document_version", nullable "workspace_id", integer "state_revision", integer "project_revision",
     required "media_type", required "payload_json", requiredInteger "provenance_complete", required "created_at"]

def artifactRecords : TableDef where
  name := "artifact_records"
  columns :=
    [nullable "artifact_id", required "artifact_kind", nullable "run_id", required "project_root", required "output_path",
     nullable "source_path", nullable "execution_mode", integer "document_version", nullable "workspace_id",
     integer "state_revision", integer "project_revision", required "media_type", required "metadata_json",
     requiredInteger "provenance_complete", nullable "incomplete_reason", required "created_at"]

def environmentSnapshots : TableDef where
  name := "environment_snapshots"
  columns :=
    [nullable "snapshot_id", required "project_root", required "canonical_json", required "first_captured_at",
     required "last_captured_at"]

def environmentOperationRequests : TableDef where
  name := "environment_operation_requests"
  columns :=
    [nullable "request_id", nullable "turn_id", required "source", required "request_name", required "status",
     nullable "decision", nullable "reason", required "project_root", required "arguments_json", required "preview_json",
     required "preview_sha256", nullable "workspace_id", integer "state_revision", integer "project_revision",
     nullable "before_snapshot_id", nullable "run_id", required "requested_at", nullable "responded_at",
     nullable "completed_at", nullable "terminal_outcome"]

def evidenceEntries : TableDef where
  name := "evidence_entries"
  columns :=
    [integer "id", required "project_root", required "title", required "notes", nullable "doi", nullable "run_id",
     nullable "artifact_id", nullable "citation_json", required "created_at", required "updated_at"]

def evidenceClaims : TableDef where
  name := "evidence_claims"
  columns :=
    [nullable "claim_id", required "project_root", required "kind", required "summary", required "anchor_kind",
     nullable "source_path", integer "start_line", integer "start_column", integer "end_line", integer "end_column",
     nullable "source_sha256", nullable "source_excerpt", nullable "artifact_id", required "created_at",
     required "updated_at"]

def claimEvidenceLinks : TableDef where
  name := "claim_evidence_links"
  columns :=
    [required "claim_id", requiredInteger "evidence_id", required "project_root", required "created_at"]

def pluginPermissionRequests : TableDef where
  name := "plugin_permission_requests"
  columns :=
    [nullable "request_id", required "project_root", required "plugin_id", required "plugin_version",
     required "package_digest", required "runtime_kind", required "permission", required "constraints_json",
     required "constraints_digest", nullable "purpose_text", required "status", required "requested_at",
     nullable "resolved_at", nullable "decision", nullable "grant_source", nullable "reason_code",
     requiredInteger "expected_project_revision"]
  constraints :=
    ["runtime_kindtextnotnullcheck(runtime_kind='wasm')", "statusin('pending','granted','denied','cancelled','stale')",
     "permissionin('project.fs.read','workspace.r.inspect','network.fetch')"]

def pluginPermissionGrants : TableDef where
  name := "plugin_permission_grants"
  columns :=
    [nullable "grant_id", required "project_root", required "plugin_id", required "plugin_version", required "package_digest",
     required "runtime_kind", required "permission", required "constraints_json", required "constraints_digest",
     required "grant_source", requiredInteger "policy_revision", required "created_at", required "expires_at",
     nullable "revoked_at", nullable "consumed_at", required "status", required "originating_request_id"]
  constraints :=
    ["statusin('active','consumed','revoked','expired')", "grant_sourcein('allow_once','project')",
     "foreignkey(originating_request_id,project_root)referencesplugin_permission_requests"]

def pluginPermissionEvents : TableDef where
  name := "plugin_permission_events"
  columns :=
    [nullable "event_id", required "project_root", required "plugin_id", required "package_digest", nullable "request_id",
     nullable "grant_id", required "event_type", required "status", nullable "reason_code", required "details_json",
     required "created_at"]
  constraints :=
    ["'request_created'", "'grant_revoked'", "'call_admitted'", "'completion_uncertain'",
     "foreignkey(grant_id,project_root)referencesplugin_permission_grants"]

def workspacePluginStates : TableDef where
  name := "workspace_plugin_states"
  columns :=
    [required "project_root", required "plugin_id", required "directory_name", required "plugin_version",
     nullable "accepted_digest", nullable "pending_digest", nullable "rollback_digest", required "runtime_kind",
     required "desired_state", required "observed_state", requiredInteger "last_activation_generation",
     nullable "last_host_session_id", nullable "transition_id", nullable "last_error_code", nullable "enabled_at",
     nullable "disabled_at", required "updated_at"]
  constraints :=
    ["desired_statein('disabled','enabled','uninstalled')", "'update_pending'",
     "last_activation_generationintegernotnulldefault0"]

def workspacePluginTransitions : TableDef where
  name := "workspace_plugin_transitions"
  columns :=
    [nullable "transition_id", required "project_root", required "plugin_id", required "kind", nullable "expected_old_digest",
     nullable "candidate_digest", nullable "rollback_digest", required "phase", required "status", required "requested_at",
     required "updated_at", nullable "completed_at", nullable "reason_code", nullable "backup_path_key"]
  constraints :=
    ["'project_teardown'", "'completion_uncertain'", "foreignkey(project_root,plugin_id)referencesworkspace_plugin_states"]

def workspacePluginLifecycleEvents : TableDef where
  name := "workspace_plugin_lifecycle_events"
  columns :=
    [nullable "event_id", required "project_root", required "plugin_id", nullable "transition_id", nullable "package_digest",
     required "event_type", required "status", required "phase", nullable "reason_code", required "details_json",
     required "created_at"]
  constraints :=
    ["'routing_published'", "'host_quarantined'", "'pointer_cas'"]

def workspacePluginPackageTombstones : TableDef where
  name := "workspace_plugin_package_tombstones"
  columns :=
    [nullable "tombstone_id", required "project_root", required "plugin_id", required "package_digest",
     required "backup_path_key", required "original_directory_name", required "moved_at", nullable "deleted_at",
     nullable "restored_at", required "retention_class", required "reason_code"]
  constraints :=
    ["retention_classin('recoverable','expired','purge_pending')", "backup_path_keytextnotnullunique"]

def runsV11 : TableDef where
  name := "runs"
  columns :=
    [nullable "run_id", nullable "parent_run_id", required "project_root", required "origin", required "status",
     required "started_at", nullable "finished_at", nullable "terminal_reason", required "request_type",
     required "operation_class", required "code", required "arguments_json", nullable "source_path",
     nullable "execution_mode", integer "document_version", nullable "workspace_id", integer "state_revision_before",
     integer "project_revision_before", integer "state_revision_after", integer "project_revision_after", nullable "stdout",
     nullable "value_text", required "messages_json", required "warnings_json", nullable "error_message",
     nullable "error_call", required "traceback_json", requiredInteger "cancel_requested", nullable "environment_snapshot_id",
     nullable "environment_snapshot_id_after", integer "error_start_line", integer "error_start_column",
     integer "error_end_line", integer "error_end_column", nullable "error_range_kind"]
  constraints :=
    ["error_range_kindin('r_expression','r_parse_token')"]

/-! ## Batches -/

/-- `v8_schema_sql`. -/
def v8Schema : List Sql :=
  [.createTable metadata, .createTable events, .createTable runs, .createTable workspaceIdentity, .createTable agentTurns,
   .createTable agentConversations, .createTable agentConversationTurns, .createTable agentTurnEvents,
   .createTable approvalRequests, .createTable plotArtifacts, .createTable artifactRecords, .createTable environmentSnapshots,
   .createTable environmentOperationRequests, .createIndex "idx_agent_turns_started_at" "agent_turns",
   .createIndex "idx_agent_conversations_project_updated" "agent_conversations",
   .createIndex "idx_agent_conversation_turns_conversation" "agent_conversation_turns",
   .createIndex "idx_agent_turn_events_turn_id" "agent_turn_events",
   .createIndex "idx_approval_requests_turn_id" "approval_requests",
   .createIndex "idx_approval_requests_status" "approval_requests",
   .createIndex "idx_plot_artifacts_created_at" "plot_artifacts", .createIndex "idx_plot_artifacts_run_id" "plot_artifacts",
   .createIndex "idx_plot_artifacts_project_created" "plot_artifacts",
   .createIndex "idx_artifact_records_created_at" "artifact_records",
   .createIndex "idx_artifact_records_run_id" "artifact_records",
   .createIndex "idx_artifact_records_project" "artifact_records",
   .createIndex "idx_environment_snapshots_project_root" "environment_snapshots",
   .createIndex "idx_environment_operation_requests_status" "environment_operation_requests",
   .createIndex "idx_environment_operation_requests_turn_id" "environment_operation_requests",
   .createIndex "idx_environment_operation_requests_project" "environment_operation_requests",
   .createIndex "idx_runs_project_started" "runs", .createIndex "idx_agent_turns_project_started" "agent_turns",
   .createIndex "idx_approval_requests_project_status" "approval_requests", .createTable evidenceEntries,
   .createIndex "idx_evidence_entries_project" "evidence_entries", .createTable evidenceClaims,
   .createTable claimEvidenceLinks, .createIndex "idx_evidence_claims_project" "evidence_claims",
   .createIndex "idx_claim_evidence_links_project" "claim_evidence_links"]

/-- `create_plugin_permission_schema`. -/
def pluginPermissionSchema : List Sql :=
  [.ensureTable pluginPermissionRequests, .ensureTable pluginPermissionGrants, .ensureTable pluginPermissionEvents,
   .ensureIndex "idx_plugin_permission_requests_project_status" "plugin_permission_requests",
   .ensureIndex "idx_plugin_permission_requests_plugin_digest" "plugin_permission_requests",
   .ensureIndex "idx_plugin_permission_grants_project_status" "plugin_permission_grants",
   .ensureIndex "idx_plugin_permission_grants_plugin_digest" "plugin_permission_grants",
   .ensureIndex "idx_plugin_permission_grants_active_identity" "plugin_permission_grants",
   .ensureIndex "idx_plugin_permission_events_project_created" "plugin_permission_events",
   .ensureIndex "idx_plugin_permission_events_request" "plugin_permission_events",
   .ensureIndex "idx_plugin_permission_events_grant" "plugin_permission_events"]

/-- `create_plugin_lifecycle_schema`. -/
def pluginLifecycleSchema : List Sql :=
  [.ensureTable workspacePluginStates, .ensureTable workspacePluginTransitions, .ensureTable workspacePluginLifecycleEvents,
   .ensureTable workspacePluginPackageTombstones,
   .ensureIndex "idx_workspace_plugin_states_project_desired" "workspace_plugin_states",
   .ensureIndex "idx_workspace_plugin_states_plugin_digest" "workspace_plugin_states",
   .ensureIndex "idx_workspace_plugin_transitions_project_status" "workspace_plugin_transitions",
   .ensureIndex "idx_workspace_plugin_transitions_plugin_updated" "workspace_plugin_transitions",
   .ensureIndex "idx_workspace_plugin_transitions_one_active" "workspace_plugin_transitions",
   .ensureIndex "idx_workspace_plugin_lifecycle_events_project_created" "workspace_plugin_lifecycle_events",
   .ensureIndex "idx_workspace_plugin_lifecycle_events_transition" "workspace_plugin_lifecycle_events",
   .ensureIndex "idx_workspace_plugin_tombstones_project_retention" "workspace_plugin_package_tombstones"]

/-- `create_claim_review_schema`. -/
def claimReviewSchema : List Sql :=
  [.createTable evidenceClaims, .createTable claimEvidenceLinks, .createIndex "idx_evidence_claims_project" "evidence_claims",
   .createIndex "idx_claim_evidence_links_project" "claim_evidence_links"]

/-- `create_agent_conversation_schema`. -/
def agentConversationSchema : List Sql :=
  [.createTable agentConversations, .createTable agentConversationTurns,
   .createIndex "idx_agent_conversations_project_updated" "agent_conversations",
   .createIndex "idx_agent_conversation_turns_conversation" "agent_conversation_turns", .copyInto "agent_conversations",
   .copyInto "agent_conversation_turns"]

/-- `rebuild_runs_v8`. -/
def rebuildRunsV8 : List Sql :=
  [.renameTable "runs" "runs_v7", .createTable runs, .copyInto "runs", .dropTable "runs_v7"]

/-- `rebuild_agent_turns_v8`. -/
def rebuildAgentTurnsV8 : List Sql :=
  [.renameTable "agent_turns" "agent_turns_v7", .createTable agentTurns, .copyInto "agent_turns"]

/-- `rebuild_approval_requests_v8`. -/
def rebuildApprovalRequestsV8 : List Sql :=
  [.renameTable "approval_requests" "approval_requests_v7", .createTable approvalRequests, .copyInto "approval_requests",
   .dropTable "approval_requests_v7", .dropTable "agent_turns_v7"]

/-- `rebuild_plot_artifacts_v8`. -/
def rebuildPlotArtifactsV8 : List Sql :=
  [.renameTable "plot_artifacts" "plot_artifacts_v7", .createTable plotArtifacts, .copyInto "plot_artifacts",
   .dropTable "plot_artifacts_v7"]

/-- `add_run_error_range_columns`. -/
def addRunErrorRangeColumns : List Sql :=
  [.addColumn "runs" (integer "error_start_line") [], .addColumn "runs" (integer "error_start_column") [],
   .addColumn "runs" (integer "error_end_line") [], .addColumn "runs" (integer "error_end_column") [],
   .addColumn "runs" (nullable "error_range_kind") ["error_range_kindin('r_expression','r_parse_token')"]]

/-- `rebuild_runs_error_range_kind_v11`. -/
def rebuildRunsErrorRangeKindV11 : List Sql :=
  [.dropIndex "idx_runs_project_started", .renameTable "runs" "runs_v10", .createTable runsV11, .copyInto "runs",
   .dropTable "runs_v10", .createIndex "idx_runs_project_started" "runs"]

/-- The four indexes at the end of the migration from version 7. -/
def projectIndexes : List Sql :=
  [.ensureIndex "idx_runs_project_started" "runs", .ensureIndex "idx_agent_turns_project_started" "agent_turns",
   .ensureIndex "idx_approval_requests_project_status" "approval_requests",
   .ensureIndex "idx_plot_artifacts_project_created" "plot_artifacts"]

/-! ## Assertions -/

def indexesExist (indexes : List String) : List Sql := indexes.map (fun index => .check (.indexExists index))

/-- Each of the tables is there with its project identity. -/
def projectTablesExist (tables : List String) : List Sql :=
  tables.flatMap (fun table => [.check (.tableExists table), .check (.notNullProjectIdentity table)])

def columnsAbsent (tables columns : List String) : List Sql :=
  tables.flatMap (fun table => columns.map (fun column => .check (.columnAbsent table column)))

/-- `assert_agent_conversation_schema`. -/
def assertAgentConversationSchema : List Sql :=
  [.check (.tableExists "agent_conversations"), .check (.tableExists "agent_conversation_turns"),
   .check (.notNullProjectIdentity "agent_conversations")] ++
  indexesExist ["idx_agent_conversations_project_updated", "idx_agent_conversation_turns_conversation"] ++
  [.check (.rows .conversationMapping)]

def pluginPermissionTables : List String := ["plugin_permission_requests", "plugin_permission_grants", "plugin_permission_events"]

/-- `assert_plugin_permission_schema`. -/
def assertPluginPermissionSchema : List Sql :=
  projectTablesExist pluginPermissionTables ++
  indexesExist
    ["idx_plugin_permission_requests_project_status", "idx_plugin_permission_requests_plugin_digest",
     "idx_plugin_permission_grants_project_status", "idx_plugin_permission_grants_plugin_digest",
     "idx_plugin_permission_grants_active_identity", "idx_plugin_permission_events_project_created",
     "idx_plugin_permission_events_request", "idx_plugin_permission_events_grant"] ++
  [.check (.sqlContains "plugin_permission_requests"
     ["runtime_kindtextnotnullcheck(runtime_kind='wasm')", "statusin('pending','granted','denied','cancelled','stale')",
      "permissionin('project.fs.read','workspace.r.inspect','network.fetch')"]),
   .check (.sqlContains "plugin_permission_grants"
     ["statusin('active','consumed','revoked','expired')", "grant_sourcein('allow_once','project')",
      "foreignkey(originating_request_id,project_root)referencesplugin_permission_requests"]),
   .check (.sqlContains "plugin_permission_events"
     ["'request_created'", "'grant_revoked'", "'call_admitted'", "'completion_uncertain'",
      "foreignkey(grant_id,project_root)referencesplugin_permission_grants"])] ++
  columnsAbsent pluginPermissionTables
    ["handle_id", "handle_digest", "host_instance_id", "activation_generation", "workspace_id"] ++
  [.check (.rows .permissionIdentity), .check (.rows .permissionForeignKeys)]

def pluginLifecycleTables : List String :=
  ["workspace_plugin_states", "workspace_plugin_transitions", "workspace_plugin_lifecycle_events",
   "workspace_plugin_package_tombstones"]

/-- `assert_plugin_lifecycle_schema`. -/
def assertPluginLifecycleSchema : List Sql :=
  projectTablesExist pluginLifecycleTables ++
  indexesExist
    ["idx_workspace_plugin_states_project_desired", "idx_workspace_plugin_states_plugin_digest",
     "idx_workspace_plugin_transitions_project_status", "idx_workspace_plugin_transitions_plugin_updated",
     "idx_workspace_plugin_transitions_one_active", "idx_workspace_plugin_lifecycle_events_project_created",
     "idx_workspace_plugin_lifecycle_events_transition", "idx_workspace_plugin_tombstones_project_retention"] ++
  [.check (.sqlContains "workspace_plugin_states"
     ["desired_statein('disabled','enabled','uninstalled')", "'update_pending'",
      "last_activation_generationintegernotnulldefault0"]),
   .check (.sqlContains "workspace_plugin_transitions"
     ["'project_teardown'", "'completion_uncertain'", "foreignkey(project_root,plugin_id)referencesworkspace_plugin_states"]),
   .check (.sqlContains "workspace_plugin_lifecycle_events" ["'routing_published'", "'host_quarantined'", "'pointer_cas'"]),
   .check (.sqlContains "workspace_plugin_package_tombstones"
     ["retention_classin('recoverable','expired','purge_pending')", "backup_path_keytextnotnullunique"])] ++
  columnsAbsent pluginLifecycleTables ["handle_id", "handle_digest", "credential", "payload_json", "wasm_memory"] ++
  [.check (.rows .lifecycleRows), .check (.rows .lifecycleForeignKeys)]

/-- `assert_current_schema`. -/
def assertCurrentSchema : List Sql :=
  ["runs", "agent_turns", "approval_requests", "plot_artifacts"].map (fun table => .check (.notNullProjectIdentity table)) ++
  indexesExist
    ["idx_runs_project_started", "idx_agent_turns_project_started", "idx_approval_requests_project_status",
     "idx_plot_artifacts_project_created"] ++
  ["evidence_claims", "claim_evidence_links"].map (fun table => .check (.notNullProjectIdentity table)) ++
  indexesExist ["idx_evidence_claims_project", "idx_claim_evidence_links_project"] ++
  ["error_start_line", "error_start_column", "error_end_line", "error_end_column", "error_range_kind"].map
    (fun column => .check (.columnExists "runs" column)) ++
  [.check (.sqlContains "runs" ["error_range_kindin('r_expression','r_parse_token')"])] ++
  assertAgentConversationSchema ++ assertPluginPermissionSchema ++ assertPluginLifecycleSchema

end Rho.StoreSchema
