import Rho.Lib.Fallible
import Rho.Store.Workbench

/-!
# What a project's views depend on

Every workbench projection of a project is a function of the project's own rows, of the active project and of the workspace's
identity, with one exception: the provenance of an artifact looks its run up by the id alone. So two databases that agree on the
project give the same views exactly when they agree on the snapshots of the foreign runs that the project's artifacts name.
-/

namespace Rho

open WorkbenchDb

/-- The databases hold the same rows of the project, and agree on the active project and the workspace. -/
structure Agrees (root : String) (db db' : WorkbenchDb) : Prop where
  runs : db.projectRuns root = db'.projectRuns root
  artifacts : db.projectArtifacts root = db'.projectArtifacts root
  plots : db.projectPlots root = db'.projectPlots root
  snapshots : db.projectSnapshots root = db'.projectSnapshots root
  approvals : db.projectApprovals root = db'.projectApprovals root
  activeProjectRoot : db.activeProjectRoot = db'.activeProjectRoot
  identity : db.identity = db'.identity

/-- Every projection of the project answers every call the same way in both databases. -/
structure SameViews (root : String) (db db' : WorkbenchDb) : Prop where
  projectStatus : db.workbenchProjectStatus root = db'.workbenchProjectStatus root
  workspaceStatus : db.workbenchWorkspaceStatus root = db'.workbenchWorkspaceStatus root
  runList : ∀ after pageSize, db.workbenchRunList root after pageSize = db'.workbenchRunList root after pageSize
  runGet : ∀ runId, db.workbenchRunGet root runId = db'.workbenchRunGet root runId
  problemList : ∀ after pageSize, db.workbenchProblemList root after pageSize = db'.workbenchProblemList root after pageSize
  problemGet : ∀ problemId, db.workbenchProblemGet root problemId = db'.workbenchProblemGet root problemId
  outputList : ∀ after pageSize, db.workbenchOutputList root after pageSize = db'.workbenchOutputList root after pageSize
  outputGet : ∀ artifactId, db.workbenchOutputGet root artifactId = db'.workbenchOutputGet root artifactId
  environmentEvidenceList : ∀ after pageSize,
    db.workbenchEnvironmentEvidenceList root after pageSize = db'.workbenchEnvironmentEvidenceList root after pageSize
  environmentEvidenceGet : ∀ evidenceId,
    db.workbenchEnvironmentEvidenceGet root evidenceId = db'.workbenchEnvironmentEvidenceGet root evidenceId
  approvalList : ∀ after pageSize, db.workbenchApprovalList root after pageSize = db'.workbenchApprovalList root after pageSize
  approvalGet : ∀ requestId, db.workbenchApprovalGet root requestId = db'.workbenchApprovalGet root requestId
  provenanceGet : ∀ resourceId, db.workbenchProvenanceGet root resourceId = db'.workbenchProvenanceGet root resourceId

/-- The runs of other projects that artifacts of the project name have the same snapshots in both databases. -/
def ForeignRunsAgree (root : String) (db db' : WorkbenchDb) : Prop :=
  ∀ a ∈ db.projectArtifacts root, ∀ runId ∈ a.runId, (∀ r ∈ db.projectRuns root, r.runId ≠ runId) →
    db.snapshotOfRun runId = db'.snapshotOfRun runId

instance (root : String) (db db' : WorkbenchDb) : Decidable (ForeignRunsAgree root db db') :=
  inferInstanceAs (Decidable (∀ a ∈ db.projectArtifacts root, ∀ runId ∈ a.runId,
    (∀ r ∈ db.projectRuns root, r.runId ≠ runId) → db.snapshotOfRun runId = db'.snapshotOfRun runId))

/-- A page is made of the project's rows. -/
theorem projectPage_congr {α β : Type} {rows rows' : List α} {projectRoot : α → String} {root : String}
    (h : rows.filter (fun r => projectRoot r = root) = rows'.filter (fun r => projectRoot r = root)) (selected : α → Bool)
    (key : α → String × String) (mapRow : α → Except WorkbenchError β) (cursorOf : β → String) (after : Option String)
    (pageSize : Nat) : projectPage rows projectRoot selected key mapRow cursorOf root after pageSize =
      projectPage rows' projectRoot selected key mapRow cursorOf root after pageSize := by
  unfold projectPage
  rw [h]

section Views

variable {root : String} {db db' : WorkbenchDb}

/-- A run of the project is found by its id. -/
theorem snapshotOfRun_of_mem {r : WorkbenchRun} (hr : r ∈ db.projectRuns root) :
    db.snapshotOfRun r.runId = r.environmentSnapshotId := by
  have hget := Table.get_of_mem (List.mem_of_mem_filter hr)
  rw [snapshotOfRun, hget, Option.bind_some]

/-- Outside the foreign runs the snapshots agree. -/
theorem snapshotOfRun_agrees (hagree : Agrees root db db') (hforeign : ForeignRunsAgree root db db') {a : WorkbenchArtifact}
    (ha : a ∈ db.projectArtifacts root) : a.runId.bind db.snapshotOfRun = a.runId.bind db'.snapshotOfRun := by
  cases hrun : a.runId with
  | none => rfl
  | some runId =>
    rw [Option.bind_some, Option.bind_some]
    by_cases hown : ∃ r ∈ db.projectRuns root, r.runId = runId
    · obtain ⟨r, hr, rfl⟩ := hown
      have hr' : r ∈ db'.projectRuns root := hagree.runs ▸ hr
      rw [snapshotOfRun_of_mem hr, snapshotOfRun_of_mem hr']
    · refine hforeign a ha runId hrun ?_
      intro r hr heq
      exact hown ⟨r, hr, heq⟩

theorem provenanceGet_agrees (hagree : Agrees root db db') (hforeign : ForeignRunsAgree root db db') (resourceId : String) :
    db.workbenchProvenanceGet root resourceId = db'.workbenchProvenanceGet root resourceId := by
  unfold workbenchProvenanceGet
  rw [← hagree.artifacts, ← hagree.runs]
  cases hfound : (db.projectArtifacts root).find? (fun r => r.artifactId = resourceId) with
  | none => rfl
  | some a =>
    dsimp only
    rw [snapshotOfRun_agrees hagree hforeign (List.mem_of_find?_eq_some hfound)]

/-- The provenance of an artifact of the project shows the snapshot of its run. -/
theorem provenanceGet_of_mem {a : WorkbenchArtifact} (ha : a ∈ db.projectArtifacts root) :
    (db.workbenchProvenanceGet root a.artifactId).map (·.environmentSnapshotId) = some (a.runId.bind db.snapshotOfRun) := by
  have hkeys : ((db.projectArtifacts root).map (·.artifactId)).Nodup := db.artifacts.nodup.sublist (List.filter_sublist.map _)
  have hfound : (db.projectArtifacts root).find? (fun r => r.artifactId = a.artifactId) = some a :=
    Table.get_of_mem (t := ⟨db.projectArtifacts root, hkeys⟩) ha
  unfold workbenchProvenanceGet
  rw [hfound]
  rfl

end Views

/-- Two databases that agree on a project give it the same views exactly when they agree on the snapshots of the foreign runs that
the project's artifacts name. -/
theorem same_views_iff (root : String) (db db' : WorkbenchDb) (hagree : Agrees root db db') :
    SameViews root db db' ↔ ForeignRunsAgree root db db' := by
  constructor
  · intro hviews a ha runId hrun _
    have ha' : a ∈ db'.projectArtifacts root := hagree.artifacts ▸ ha
    have hshown := congrArg (Option.map (·.environmentSnapshotId)) (hviews.provenanceGet a.artifactId)
    rw [provenanceGet_of_mem ha, provenanceGet_of_mem ha', hrun] at hshown
    exact Option.some.inj hshown
  · intro hforeign
    refine
      { projectStatus := ?_, workspaceStatus := ?_, runList := ?_, runGet := ?_, problemList := ?_, problemGet := ?_,
        outputList := ?_, outputGet := ?_, environmentEvidenceList := fun _ _ => rfl, environmentEvidenceGet := ?_,
        approvalList := ?_, approvalGet := ?_, provenanceGet := provenanceGet_agrees hagree hforeign }
    · rw [WorkbenchDb.workbenchProjectStatus, WorkbenchDb.workbenchProjectStatus, hagree.runs, hagree.artifacts, hagree.plots]
    · rw [WorkbenchDb.workbenchWorkspaceStatus, WorkbenchDb.workbenchWorkspaceStatus, hagree.activeProjectRoot, hagree.identity]
    · exact projectPage_congr hagree.runs _ _ _ _
    · intro runId
      rw [WorkbenchDb.workbenchRunGet, WorkbenchDb.workbenchRunGet, hagree.runs]
    · exact projectPage_congr hagree.runs _ _ _ _
    · intro problemId
      rw [WorkbenchDb.workbenchProblemGet, WorkbenchDb.workbenchProblemGet, hagree.runs]
    · exact projectPage_congr hagree.artifacts _ _ _ _
    · intro artifactId
      rw [WorkbenchDb.workbenchOutputGet, WorkbenchDb.workbenchOutputGet, hagree.artifacts]
    · intro evidenceId
      rw [WorkbenchDb.workbenchEnvironmentEvidenceGet, WorkbenchDb.workbenchEnvironmentEvidenceGet, hagree.snapshots]
    · exact projectPage_congr hagree.approvals _ _ _ _
    · intro requestId
      rw [WorkbenchDb.workbenchApprovalGet, WorkbenchDb.workbenchApprovalGet, hagree.approvals]

/-! ## An artifact of a foreign run -/

namespace SampleWorkbench

/-- A run of project `/a`, a run of project `/b` with a given snapshot, and an artifact of `/a` that names one of them. -/
def db (named snapshot : String) : WorkbenchDb where
  runs := ⟨[{ runId := "run-a", projectRoot := "/a", origin := "user", status := "completed",
              startedAt := "2026-08-01T00:00:00+00:00", requestType := "workspace.execute", code := "",
              environmentSnapshotId := some "env-0" },
            { runId := "run-b", projectRoot := "/b", origin := "user", status := "completed",
              startedAt := "2026-08-01T00:00:00+00:00", requestType := "workspace.execute", code := "",
              environmentSnapshotId := some snapshot }], by simp⟩
  artifacts := ⟨[⟨"art", "export", some named, "/a", "out.csv", none, "text/csv", true, none, "2026-08-01T00:00:01+00:00"⟩],
    List.nodup_singleton _⟩

end SampleWorkbench

/-- While the artifact names a run of its own project, the foreign run makes no difference. -/
theorem same_views_iff_sample : SameViews "/a" (SampleWorkbench.db "run-a" "env-1") (SampleWorkbench.db "run-a" "env-2") :=
  (same_views_iff "/a" (SampleWorkbench.db "run-a" "env-1") (SampleWorkbench.db "run-a" "env-2")
    ⟨rfl, rfl, rfl, rfl, rfl, rfl, rfl⟩).mpr (by decide)

/-- The project `/a` shows the snapshot of the foreign run that its artifact names. -/
theorem views_differ_by_foreign_run :
    Agrees "/a" (SampleWorkbench.db "run-b" "env-1") (SampleWorkbench.db "run-b" "env-2") ∧
      ¬ SameViews "/a" (SampleWorkbench.db "run-b" "env-1") (SampleWorkbench.db "run-b" "env-2") := by
  refine ⟨⟨rfl, rfl, rfl, rfl, rfl, rfl, rfl⟩, ?_⟩
  intro hviews
  exact absurd (hviews.provenanceGet "art") (by decide)

/-! ## What the flags of a run tell -/

/-- A flag of a run's detail is set exactly when its preview differs from the recorded text. -/
structure FlagsTold (r : WorkbenchRun) (d : WorkbenchRunDetail) : Prop where
  code : d.codeTruncated = true ↔ d.codePreview ≠ some r.code
  stdout : d.stdoutTruncated = true ↔ d.stdoutPreview ≠ r.stdout
  value : d.valueTruncated = true ↔ d.valuePreview ≠ r.valueText

/-- The limit, which cuts characters, is also one on the bytes of the text, or the text has more characters than it. -/
def WithinOrBeyond (limit : Nat) (text : String) : Prop := text.utf8ByteSize ≤ limit ∨ limit < text.toList.length

theorem length_le_utf8ByteSize (text : String) : text.toList.length ≤ text.utf8ByteSize := by
  have hbounds := (Json.bytes_bounds text.toList).1
  rwa [Json.bytes, String.ofList_toList] at hbounds

theorem truncateStr_eq_iff (text : String) (limit : Nat) : truncateStr text limit = text ↔ text.toList.length ≤ limit := by
  rw [truncateStr, ← String.toList_inj, String.toList_ofList]
  constructor
  · intro h
    rw [← h]
    exact List.length_take_le limit _
  · exact List.take_of_length_le

/-- Cut by characters and flagged by bytes, a text is flagged rightly exactly within the limit of bytes or beyond that of
characters. -/
theorem flag_iff (text : String) (limit : Nat) :
    (limit < text.utf8ByteSize ↔ truncateStr text limit ≠ text) ↔ WithinOrBeyond limit text := by
  have hle := length_le_utf8ByteSize text
  rw [Ne, truncateStr_eq_iff, WithinOrBeyond]
  omega

theorem optional_flag_iff (text : Option String) (limit : Nat) :
    (text.any (fun s => decide (limit < s.utf8ByteSize)) = true ↔ text.map (truncateStr · limit) ≠ text) ↔
      ∀ s ∈ text, WithinOrBeyond limit s := by
  cases text with
  | none => simp
  | some s => simpa using flag_iff s limit

theorem find?_run {db : WorkbenchDb} {root : String} {r : WorkbenchRun} (hr : r ∈ db.projectRuns root) :
    (db.projectRuns root).find? (fun row => row.runId = r.runId) = some r := by
  have hkeys : ((db.projectRuns root).map (·.runId)).Nodup := db.runs.nodup.sublist (List.filter_sublist.map _)
  exact Table.get_of_mem (t := ⟨db.projectRuns root, hkeys⟩) hr

/-- The detail of a run holds its previews and flags. -/
theorem workbenchRunGet_previews {db : WorkbenchDb} {root : String} {r : WorkbenchRun} {d : WorkbenchRunDetail}
    (hr : r ∈ db.projectRuns root) (hget : db.workbenchRunGet root r.runId = .ok (some d)) :
    (d.codePreview = some (truncateStr r.code 2000) ∧ d.codeTruncated = decide (2000 < r.code.utf8ByteSize)) ∧
      (d.stdoutPreview = r.stdout.map (truncateStr · 2000) ∧
        d.stdoutTruncated = r.stdout.any (fun s => decide (2000 < s.utf8ByteSize))) ∧
      d.valuePreview = r.valueText.map (truncateStr · 500) ∧
        d.valueTruncated = r.valueText.any (fun s => decide (500 < s.utf8ByteSize)) := by
  rw [workbenchRunGet, find?_run hr] at hget
  obtain ⟨messages, -, hget⟩ := Fallible.bind_eq_ok hget
  obtain ⟨warnings, -, hget⟩ := Fallible.bind_eq_ok hget
  obtain ⟨_, -, hget⟩ := Fallible.bind_eq_ok hget
  cases hget
  exact ⟨⟨rfl, rfl⟩, ⟨rfl, rfl⟩, rfl, rfl⟩

/-- The flags of a run tell what was cut exactly when each text is within its limit in bytes or beyond it in characters. -/
theorem workbench_run_get_flags_iff (db : WorkbenchDb) (root : String) (r : WorkbenchRun) (d : WorkbenchRunDetail)
    (hr : r ∈ db.projectRuns root) (hget : db.workbenchRunGet root r.runId = .ok (some d)) : FlagsTold r d ↔
      WithinOrBeyond 2000 r.code ∧ (∀ s ∈ r.stdout, WithinOrBeyond 2000 s) ∧ ∀ s ∈ r.valueText, WithinOrBeyond 500 s := by
  obtain ⟨⟨hcode, hcodeFlag⟩, ⟨hstdout, hstdoutFlag⟩, hvalue, hvalueFlag⟩ := workbenchRunGet_previews hr hget
  have hcodeIff : (d.codeTruncated = true ↔ d.codePreview ≠ some r.code) ↔ WithinOrBeyond 2000 r.code := by
    rw [hcode, hcodeFlag, decide_eq_true_iff, Ne, Option.some_inj]
    exact flag_iff r.code 2000
  have hstdoutIff : (d.stdoutTruncated = true ↔ d.stdoutPreview ≠ r.stdout) ↔ ∀ s ∈ r.stdout, WithinOrBeyond 2000 s := by
    rw [hstdout, hstdoutFlag]
    exact optional_flag_iff r.stdout 2000
  have hvalueIff : (d.valueTruncated = true ↔ d.valuePreview ≠ r.valueText) ↔ ∀ s ∈ r.valueText, WithinOrBeyond 500 s := by
    rw [hvalue, hvalueFlag]
    exact optional_flag_iff r.valueText 500
  rw [← hcodeIff, ← hstdoutIff, ← hvalueIff]
  exact ⟨fun h => ⟨h.code, h.stdout, h.value⟩, fun h => ⟨h.1, h.2.1, h.2.2⟩⟩

namespace SampleWorkbench

/-- A run whose value has the given text. -/
def run (text : String) : WorkbenchRun where
  runId := "run-a"
  projectRoot := "/a"
  origin := "user"
  status := "completed"
  startedAt := "2026-08-01T00:00:00+00:00"
  requestType := "workspace.execute"
  code := "x"
  valueText := some text

def valued (text : String) : WorkbenchDb where
  runs := ⟨[run text], List.nodup_singleton _⟩
  artifacts := ⟨[], List.nodup_nil⟩

end SampleWorkbench

theorem workbench_run_get_flags_iff_sample : ∃ r d, FlagsTold r d ↔
    WithinOrBeyond 2000 r.code ∧ (∀ s ∈ r.stdout, WithinOrBeyond 2000 s) ∧ ∀ s ∈ r.valueText, WithinOrBeyond 500 s :=
  ⟨_, _, workbench_run_get_flags_iff (SampleWorkbench.valued "é") "/a" _ _ (List.mem_singleton.mpr rfl) rfl⟩

/-- The detail of the run with a value that is shown whole and is longer than the limit in bytes. -/
theorem valued_not_told {text : String} (hbytes : 500 < text.utf8ByteSize) (hlength : text.toList.length ≤ 500) :
    ∃ r ∈ (SampleWorkbench.valued text).projectRuns "/a", ∃ d,
      (SampleWorkbench.valued text).workbenchRunGet "/a" r.runId = .ok (some d) ∧ ¬ FlagsTold r d := by
  have hempty : decodeStringList "[]" = .ok [] := by decide
  have hr : SampleWorkbench.run text ∈ (SampleWorkbench.valued text).projectRuns "/a" := List.mem_singleton.mpr rfl
  have hget : ∃ d, (SampleWorkbench.valued text).workbenchRunGet "/a" "run-a" = .ok (some d) := by
    rw [workbenchRunGet, ← show (SampleWorkbench.run text).runId = "run-a" from rfl, find?_run hr]
    simp only [SampleWorkbench.run, hempty]
    exact ⟨_, rfl⟩
  obtain ⟨d, hd⟩ := hget
  obtain ⟨-, -, hpreview, hflag⟩ := workbenchRunGet_previews hr hd
  refine ⟨_, hr, d, hd, ?_⟩
  intro htold
  refine htold.value.mp ?_ ?_
  · rw [hflag]
    exact decide_eq_true hbytes
  · rw [hpreview]
    exact congrArg some ((truncateStr_eq_iff text 500).mpr hlength)

/-- Four hundred letters of two bytes each are shown whole and flagged as cut. -/
theorem whole_value_flagged : ∃ r ∈ (SampleWorkbench.valued (String.ofList (List.replicate 400 'é'))).projectRuns "/a", ∃ d,
    (SampleWorkbench.valued (String.ofList (List.replicate 400 'é'))).workbenchRunGet "/a" r.runId = .ok (some d) ∧
      ¬ FlagsTold r d := by
  have hbytes := Json.bytes_replicate 400 'é'
  rw [Json.bytes] at hbytes
  refine valued_not_told (by rw [hbytes]; decide) ?_
  rw [String.toList_ofList, List.length_replicate]
  decide

end Rho
