import Rho.Store.Schema
import Rho.Theorems.Pagination

/-!
# The environment evidence of a project

`workbench_environment_evidence_list` and `workbench_environment_evidence_get`, as statements over the schema. A statement is refused
when it names a column that its table does not have, and both name a column `created_at` of the operation requests, whose time column is
`requested_at`. So the list never has a first page, for no project of no database, and the lookup finds snapshots only.
-/

namespace Rho

open StoreSchema

/-! ## The statements -/

/-- A row of the operation requests: its cells by the names of their columns. -/
structure EvidenceRequest where
  requestId : String
  cell : String → Option String

/-- Preparing a statement that reads columns of a table. -/
def prepareSelect (table : TableDef) (columns : List String) : Except WorkbenchError Unit :=
  match columns.find? (fun c => !(table.columns.any (fun column => column.name == c))) with
  | some name => .error (.noSuchColumn name)
  | none => .ok ()

/-- The columns of the operation requests that both statements name. -/
def evidenceColumns : List String := ["request_id", "request_name", "status", "decision", "created_at", "project_root"]

def snapshotEvidence (r : WorkbenchSnapshot) : EnvironmentEvidence where
  evidenceId := r.snapshotId
  evidenceKind := "snapshot"
  operationName := none
  operationStatus := none
  operationDecision := none
  capturedAt := r.firstCapturedAt

def requestEvidence (r : EvidenceRequest) : EnvironmentEvidence where
  evidenceId := r.requestId
  evidenceKind := "operation_request"
  operationName := r.cell "request_name"
  operationStatus := r.cell "status"
  operationDecision := r.cell "decision"
  capturedAt := (r.cell "created_at").getD ""

/-- `splitn(3, '|')` of a cursor. -/
def parseEvidenceCursor (cursor : String) : Option (String × String × String) :=
  (parseCursor cursor).bind (fun parts => (parseCursor parts.2).map (fun rest => (parts.1, rest.1, rest.2)))

/-- The order of the union: newest first, then by kind and id, descending. -/
def evidenceAfter (a b : String × String × String) : Bool :=
  decide (b.1 < a.1) || (decide (b.1 = a.1) && decide (b.2.1 < a.2.1)) ||
    (decide (b.1 = a.1) && decide (b.2.1 = a.2.1) && decide (b.2.2 < a.2.2))

def evidenceKey (e : EnvironmentEvidence) : String × String × String := (e.capturedAt, e.evidenceKind, e.evidenceId)

section Statements

variable (requestTable : TableDef) (db : WorkbenchDb) (requests : Table EvidenceRequest.requestId) (root : String)

def projectRequests : List EvidenceRequest := requests.rows.filter (fun r => r.cell "project_root" = some root)

/-- The snapshots and the operation requests of a project. -/
def projectEvidence : List EnvironmentEvidence :=
  (db.projectSnapshots root).map snapshotEvidence ++ (projectRequests requests root).map requestEvidence

/-- The list, over the columns that the table of the requests has. -/
def evidenceList (after : Option String) (pageSize : Nat) : Except WorkbenchError (WorkbenchPage EnvironmentEvidence) := do
  let pageSize := clampPageSize pageSize
  let cursor ← match after with
    | none => pure none
    | some cursor =>
      match parseEvidenceCursor cursor with
      | none => throw .invalidCursor
      | some parts => pure (some parts)
  prepareSelect requestTable evidenceColumns
  let found := (projectEvidence db requests root).filter (fun e => cursor.all (fun c => evidenceAfter c (evidenceKey e)))
  let page := (found.insertionSort (fun a b => evidenceAfter (evidenceKey b) (evidenceKey a) = false)).take (pageSize + 1)
  let items := page.take pageSize
  return ⟨items, items.getLast?.map (fun e => e.capturedAt ++ "|" ++ e.evidenceKind ++ "|" ++ e.evidenceId),
    decide (pageSize < page.length), pageSize⟩

/-- The lookup: a snapshot, and if there is none a request. -/
def evidenceGet (evidenceId : String) : Except WorkbenchError (Option EnvironmentEvidence) :=
  match (db.projectSnapshots root).find? (fun r => r.snapshotId = evidenceId) with
  | some r => .ok (some (snapshotEvidence r))
  | none => do
    prepareSelect requestTable evidenceColumns
    return ((projectRequests requests root).find? (fun r => r.requestId = evidenceId)).map requestEvidence

/-- Following the cursor gives every snapshot and every request of the project once, and each of them is found by its id. -/
def EvidenceExact (pageSize : Nat) : Prop :=
  ∃ items, Follows (fun after => evidenceList requestTable db requests root after pageSize) none items ∧
    items.Perm (projectEvidence db requests root) ∧
    ∀ item ∈ items, evidenceGet requestTable db requests root item.evidenceId = .ok (some item)

end Statements

/-! ## No page -/

/-- The table of the requests has no column `created_at`. -/
theorem prepareSelect_requests : prepareSelect environmentOperationRequests evidenceColumns = .error (.noSuchColumn "created_at") := by
  decide

section Requests

variable (db : WorkbenchDb) (requests : Table EvidenceRequest.requestId) (root : String)

/-- Over the schema of the store the list is the projection, whatever the requests are. -/
theorem evidenceList_requests (after : Option String) (pageSize : Nat) :
    evidenceList environmentOperationRequests db requests root after pageSize = db.workbenchEnvironmentEvidenceList root after pageSize := by
  unfold evidenceList WorkbenchDb.workbenchEnvironmentEvidenceList parseEvidenceCursor
  rw [prepareSelect_requests]
  cases after with
  | none => rfl
  | some cursor =>
    dsimp only
    cases hparts : parseCursor cursor with
    | none => rfl
    | some parts =>
      dsimp only [Option.bind_some]
      cases parseCursor parts.2 with
      | none => rfl
      | some rest => rfl

/-- There is no project whose evidence is listed, not even one without any. -/
theorem evidence_never_exact (pageSize : Nat) : ¬ EvidenceExact environmentOperationRequests db requests root pageSize := by
  rintro ⟨items, hfollows, -⟩
  have hrefused : evidenceList environmentOperationRequests db requests root none pageSize = .error (.noSuchColumn "created_at") :=
    evidenceList_requests db requests root none pageSize
  cases hfollows with
  | last hpage =>
    rw [hrefused] at hpage
    cases hpage
  | more hpage _ =>
    rw [hrefused] at hpage
    cases hpage

end Requests

/-- A database with a snapshot and no requests: the list of its project is refused. -/
theorem evidence_list_refused :
    evidenceList environmentOperationRequests { snapshots := ⟨[⟨"env-0", "/a", "2026-08-01T00:00:00+00:00"⟩], List.nodup_singleton _⟩ }
        (Table.empty _) "/a" none 10 = .error (.noSuchColumn "created_at") ∧
      ¬ EvidenceExact environmentOperationRequests
        { snapshots := ⟨[⟨"env-0", "/a", "2026-08-01T00:00:00+00:00"⟩], List.nodup_singleton _⟩ } (Table.empty _) "/a" 10 := by
  have hrefused : evidenceList environmentOperationRequests
      { snapshots := ⟨[⟨"env-0", "/a", "2026-08-01T00:00:00+00:00"⟩], List.nodup_singleton _⟩ } (Table.empty _) "/a" none 10 =
        .error (.noSuchColumn "created_at") := by decide
  refine ⟨hrefused, ?_⟩
  rintro ⟨items, hfollows, -⟩
  cases hfollows with
  | last hpage =>
    rw [hrefused] at hpage
    cases hpage
  | more hpage _ =>
    rw [hrefused] at hpage
    cases hpage

end Rho
