import Std.Data.String.ToNat
import Rho.Lib.Rows
import Rho.Store.Compare

/-!
# What a comparison depends on

A comparison shows the problems and the artifacts of its two runs, but it takes them from the hundred newest rows of the project. Rows of
other runs leave it as it is exactly while they push none of its own rows out of these.
-/

namespace Rho.Compare

open Rows

/-! ## Other rows -/

/-- The second database has further rows, none of which belongs to the two runs. -/
structure Adds (leftRunId rightRunId : String) (db db' : Db) : Prop where
  runs : db.runs.rows.Sublist db'.runs.rows
  artifacts : db.artifacts.rows.Sublist db'.artifacts.rows
  snapshots : db.snapshots.rows.Sublist db'.snapshots.rows
  otherRuns : ∀ r ∈ db'.runs.rows, r ∉ db.runs.rows → r.runId ≠ leftRunId ∧ r.runId ≠ rightRunId
  otherArtifacts : ∀ a ∈ db'.artifacts.rows, a ∉ db.artifacts.rows → a.runId ≠ some leftRunId ∧ a.runId ≠ some rightRunId
  otherSnapshots : ∀ s ∈ db'.snapshots.rows, s ∉ db.snapshots.rows → ∀ r ∈ db.runs.rows, r.runId = leftRunId ∨ r.runId = rightRunId →
    r.environmentSnapshotId ≠ some s.snapshotId

/-- Rows that are added leave the row of another key. -/
theorem get_of_adds {α κ : Type} [DecidableEq κ] {key : α → κ} {t t' : Table key} (hsub : t.rows.Sublist t'.rows) {k : κ}
    (hother : ∀ r ∈ t'.rows, r ∉ t.rows → key r ≠ k) : t'.get k = t.get k := by
  cases hget : t'.get k with
  | none =>
    refine (List.find?_eq_none.mpr fun r hr => ?_).symm
    exact List.find?_eq_none.mp hget r (hsub.subset hr)
  | some r =>
    have hmem := List.mem_of_find?_eq_some hget
    have hkey : key r = k := of_decide_eq_true (List.find?_some (p := fun r => decide (key r = k)) hget)
    have hold : r ∈ t.rows := by
      by_contra hnew
      exact hother r hmem hnew hkey
    rw [← hkey]
    exact (Table.get_of_mem hold).symm

/-- The newest first. -/
abbrev newestRun (a b : RunDetail) : Prop := b.startedAt ≤ a.startedAt

abbrev newestArtifact (a b : ArtifactRecord) : Prop := b.createdAt ≤ a.createdAt

instance : Std.Total newestRun := ⟨fun a b => le_total b.startedAt a.startedAt⟩

instance : IsTrans RunDetail newestRun := ⟨fun _ _ _ hab hbc => le_trans hbc hab⟩

instance : Std.Total newestArtifact := ⟨fun a b => le_total b.createdAt a.createdAt⟩

instance : IsTrans ArtifactRecord newestArtifact := ⟨fun _ _ _ hab hbc => le_trans hbc hab⟩

section Frame

variable {leftRunId rightRunId : String} {db db' : Db} (root : String)

theorem problemRuns_sublist (h : Adds leftRunId rightRunId db db') : (db.problemRuns root).Sublist (db'.problemRuns root) :=
  (h.runs.filter _).filter _

theorem nodup_problemRuns (db : Db) : (db.problemRuns root).Nodup := ((List.Nodup.of_map _ db.runs.nodup).filter _).filter _

theorem nodup_projectArtifacts (db : Db) : (db.projectArtifacts root).Nodup := (List.Nodup.of_map _ db.artifacts.nodup).filter _

/-- The problems of a run that a comparison shows. -/
def problemsShown (db : Db) (runId : String) : List RunProblem := (db.listProblems root 100).filter (fun p => p.runId = runId)

def artifactsShown (db : Db) (runId : String) : List ArtifactRecord :=
  (db.listArtifactRecords root 100).filter (fun a => a.runId = some runId)

theorem problemsShown_eq (db : Db) (runId : String) :
    problemsShown root db runId = ((firstRows newestRun 100 (db.problemRuns root)).filter (fun r => r.runId = runId)).map Db.problemOf := by
  rw [problemsShown, Db.listProblems, List.filter_map]
  rfl

theorem mem_listProblems_iff {r : RunDetail} (hr : r ∈ db.problemRuns root) :
    Db.problemOf r ∈ db.listProblems root 100 ↔ r ∈ firstRows newestRun 100 (db.problemRuns root) := by
  constructor
  · intro h
    obtain ⟨r', hr', heq⟩ := List.mem_map.mp h
    have hmem : ∀ {r}, r ∈ db.problemRuns root → r ∈ db.runs.rows := fun h => List.mem_of_mem_filter (List.mem_of_mem_filter h)
    have hsame : r' = r :=
      List.inj_on_of_nodup_map db.runs.nodup (hmem (mem_of_mem_firstRows hr')) (hmem hr) (congrArg RunProblem.runId heq)
    exact hsame ▸ hr'
  · exact fun h => List.mem_map_of_mem h

/-- The problems of a run are shown as before exactly when they are still listed. -/
theorem problemsShown_eq_iff (h : Adds leftRunId rightRunId db db') (runId : String)
    (hrun : runId = leftRunId ∨ runId = rightRunId) :
    (problemsShown root db' runId = problemsShown root db runId ↔
      ∀ p ∈ db.listProblems root 100, p.runId = runId → p ∈ db'.listProblems root 100) ∧
    ((problemsShown root db' runId).length = (problemsShown root db runId).length →
      problemsShown root db' runId = problemsShown root db runId) := by
  have hsub := problemRuns_sublist root h
  have hown : ∀ r ∈ db'.problemRuns root, decide (r.runId = runId) = true → r ∈ db.problemRuns root := by
    intro r hr hid
    obtain ⟨hproject, herror⟩ := List.mem_filter.mp hr
    obtain ⟨hmem, hroot⟩ := List.mem_filter.mp hproject
    have hold : r ∈ db.runs.rows := by
      by_contra hnew
      obtain ⟨hleft, hright⟩ := h.otherRuns r hmem hnew
      rcases hrun with rfl | rfl
      · exact hleft (of_decide_eq_true hid)
      · exact hright (of_decide_eq_true hid)
    exact List.mem_filter.mpr ⟨List.mem_filter.mpr ⟨hold, hroot⟩, herror⟩
  have hiff := filter_firstRows_eq_iff (r := newestRun) (n := 100) hsub (nodup_problemRuns root db') hown
  have hlength := filter_firstRows_eq_of_length (r := newestRun) (n := 100) hsub (nodup_problemRuns root db') hown
  have hmem : ∀ {r}, r ∈ firstRows newestRun 100 (db.problemRuns root) → r ∈ db'.problemRuns root :=
    fun hr => hsub.subset (mem_of_mem_firstRows hr)
  rw [problemsShown_eq, problemsShown_eq]
  refine ⟨⟨?_, ?_⟩, ?_⟩
  · intro heq p hp hid
    obtain ⟨r, hr, rfl⟩ := List.mem_map.mp hp
    have hshown : Db.problemOf r ∈ ((firstRows newestRun 100 (db'.problemRuns root)).filter (fun r => r.runId = runId)).map Db.problemOf := by
      rw [heq]
      exact List.mem_map_of_mem (List.mem_filter.mpr ⟨hr, decide_eq_true hid⟩)
    obtain ⟨r', hr', hsame⟩ := List.mem_map.mp hshown
    exact List.mem_map.mpr ⟨r', List.mem_of_mem_filter hr', hsame⟩
  · intro hlisted
    refine congrArg _ (hiff.mpr fun r hr hid => ?_).symm
    refine (mem_listProblems_iff root (hmem hr)).mp (hlisted _ ?_ (of_decide_eq_true hid))
    exact (mem_listProblems_iff root (mem_of_mem_firstRows hr)).mpr hr
  · intro heq
    rw [List.length_map, List.length_map] at heq
    exact congrArg _ (hlength heq.symm).symm

theorem artifactsShown_eq_iff (h : Adds leftRunId rightRunId db db') (runId : String)
    (hrun : runId = leftRunId ∨ runId = rightRunId) :
    (artifactsShown root db' runId = artifactsShown root db runId ↔
      ∀ a ∈ db.listArtifactRecords root 100, a.runId = some runId → a ∈ db'.listArtifactRecords root 100) ∧
    ((artifactsShown root db' runId).length = (artifactsShown root db runId).length →
      artifactsShown root db' runId = artifactsShown root db runId) := by
  have hsub : (db.projectArtifacts root).Sublist (db'.projectArtifacts root) := h.artifacts.filter _
  have hown : ∀ a ∈ db'.projectArtifacts root, decide (a.runId = some runId) = true → a ∈ db.projectArtifacts root := by
    intro a ha hid
    obtain ⟨hmem, hroot⟩ := List.mem_filter.mp ha
    have hold : a ∈ db.artifacts.rows := by
      by_contra hnew
      obtain ⟨hleft, hright⟩ := h.otherArtifacts a hmem hnew
      rcases hrun with rfl | rfl
      · exact hleft (of_decide_eq_true hid)
      · exact hright (of_decide_eq_true hid)
    exact List.mem_filter.mpr ⟨hold, hroot⟩
  have hiff := filter_firstRows_eq_iff (r := newestArtifact) (n := 100) hsub (nodup_projectArtifacts root db') hown
  have hlength := filter_firstRows_eq_of_length (r := newestArtifact) (n := 100) hsub (nodup_projectArtifacts root db') hown
  refine ⟨⟨?_, ?_⟩, fun heq => (hlength heq.symm).symm⟩
  · intro heq a ha hid
    exact hiff.mp heq.symm a ha (decide_eq_true hid)
  · intro hlisted
    exact (hiff.mpr fun a ha hid => hlisted a ha (of_decide_eq_true hid)).symm

end Frame

/-! ## The response -/

section Responses

variable (host : Host) (root leftRunId rightRunId : String)

/-- The store compares the two runs: they are two runs of the project, and scientific. -/
def Comparable (db : Db) : Prop :=
  leftRunId ≠ rightRunId ∧ ∃ left right, db.getRunDetail root leftRunId = some left ∧ db.getRunDetail root rightRunId = some right ∧
    left.operationClass = "scientific" ∧ right.operationClass = "scientific"

/-- The response for two runs and what is shown of them. -/
def responseTo (db : Db) (left right : RunDetail) (leftProblems rightProblems : List RunProblem)
    (leftArtifacts rightArtifacts : List ArtifactRecord) : CompareRunsResponse :=
  compute host root left right leftProblems rightProblems (left.environmentSnapshotId.bind db.getEnvironmentSnapshot)
    (right.environmentSnapshotId.bind db.getEnvironmentSnapshot) leftArtifacts rightArtifacts

theorem compareRuns_of_comparable {db : Db} {left right : RunDetail} (hne : leftRunId ≠ rightRunId)
    (hleft : db.getRunDetail root leftRunId = some left) (hright : db.getRunDetail root rightRunId = some right)
    (hleftClass : left.operationClass = "scientific") (hrightClass : right.operationClass = "scientific") :
    db.compareRuns root host leftRunId rightRunId =
      .ok (responseTo host root db left right (problemsShown root db leftRunId) (problemsShown root db rightRunId)
        (artifactsShown root db leftRunId) (artifactsShown root db rightRunId)) := by
  rw [Db.compareRuns, if_neg hne, hleft, hright]
  dsimp only
  rw [if_neg]
  · rfl
  · rintro (hclass | hclass)
    · exact hclass hleftClass
    · exact hclass hrightClass

/-- Where the runs are not compared, the answer depends on them alone. -/
theorem compareRuns_of_not_comparable {db db' : Db} (hleft : db'.getRunDetail root leftRunId = db.getRunDetail root leftRunId)
    (hright : db'.getRunDetail root rightRunId = db.getRunDetail root rightRunId) (h : ¬ Comparable root leftRunId rightRunId db) :
    db'.compareRuns root host leftRunId rightRunId = db.compareRuns root host leftRunId rightRunId := by
  rw [Db.compareRuns, Db.compareRuns, hleft, hright]
  by_cases hne : leftRunId = rightRunId
  · rw [if_pos hne, if_pos hne]
  · rw [if_neg hne, if_neg hne]
    cases hl : db.getRunDetail root leftRunId with
    | none => rfl
    | some left =>
      cases hr : db.getRunDetail root rightRunId with
      | none => rfl
      | some right =>
        dsimp only
        have hclass : left.operationClass ≠ "scientific" ∨ right.operationClass ≠ "scientific" := by
          by_contra hboth
          simp only [not_or, not_not] at hboth
          exact h ⟨hne, left, right, hl, hr, hboth.1, hboth.2⟩
        rw [if_pos hclass, if_pos hclass]

theorem countField_inj {name : String} {m n m' n' : Nat} (h : countField name m n = countField name m' n') : m = m' ∧ n = n' := by
  have hleft : toString m = toString m' := Option.some.inj (congrArg CompareFieldEntry.leftValue h)
  have hright : toString n = toString n' := Option.some.inj (congrArg CompareFieldEntry.rightValue h)
  exact ⟨Nat.repr_injective hleft, Nat.repr_injective hright⟩

/-- A response tells how many problems and artifacts it shows. -/
theorem lengths_of_responseTo {db db' : Db} {left right : RunDetail} {lp rp lp' rp' : List RunProblem} {la ra la' ra' : List ArtifactRecord}
    (h : responseTo host root db' left right lp' rp' la' ra' = responseTo host root db left right lp rp la ra) :
    (lp'.length = lp.length ∧ rp'.length = rp.length) ∧ la'.length = la.length ∧ ra'.length = ra.length := by
  have hproblems := congrArg (fun r => (r.sections[3]?).bind (fun s : CompareSection => s.fields[6]?)) h
  have hartifacts := congrArg (fun r => (r.sections[4]?).bind (fun s : CompareSection => s.fields[0]?)) h
  exact ⟨countField_inj (Option.some.inj hproblems), countField_inj (Option.some.inj hartifacts)⟩

/-- The problems and artifacts of the two runs that are among the newest hundred of the project. -/
def StillListed (db db' : Db) : Prop :=
  (∀ p ∈ db.listProblems root 100, p.runId = leftRunId ∨ p.runId = rightRunId → p ∈ db'.listProblems root 100) ∧
    ∀ a ∈ db.listArtifactRecords root 100, a.runId = some leftRunId ∨ a.runId = some rightRunId →
      a ∈ db'.listArtifactRecords root 100

/-- Other rows leave a comparison unchanged exactly when the runs are not compared at all, or none of their problems and artifacts is pushed
out of the newest hundred. -/
theorem compare_unchanged_iff (db db' : Db) (h : Adds leftRunId rightRunId db db') :
    db'.compareRuns root host leftRunId rightRunId = db.compareRuns root host leftRunId rightRunId ↔
      (Comparable root leftRunId rightRunId db → StillListed root leftRunId rightRunId db db') := by
  have hdetail : ∀ runId, runId = leftRunId ∨ runId = rightRunId → db'.getRunDetail root runId = db.getRunDetail root runId := by
    intro runId hrun
    have hget : db'.runs.get runId = db.runs.get runId := by
      refine get_of_adds h.runs fun r hr hnew hid => ?_
      obtain ⟨hleft, hright⟩ := h.otherRuns r hr hnew
      rcases hrun with rfl | rfl
      · exact hleft hid
      · exact hright hid
    rw [Db.getRunDetail, Db.getRunDetail, hget]
  by_cases hcomparable : Comparable root leftRunId rightRunId db
  · obtain ⟨hne, left, right, hleft, hright, hleftClass, hrightClass⟩ := id hcomparable
    have hsnapshot : ∀ {runId : String} {r : RunDetail}, runId = leftRunId ∨ runId = rightRunId → db.getRunDetail root runId = some r →
        r.environmentSnapshotId.bind db'.getEnvironmentSnapshot = r.environmentSnapshotId.bind db.getEnvironmentSnapshot := by
      intro runId r hrun hr
      cases hid : r.environmentSnapshotId with
      | none => rfl
      | some snapshotId =>
        have hget : db.runs.get runId = some r := (Option.filter_eq_some_iff.mp hr).1
        have hmem : r ∈ db.runs.rows := List.mem_of_find?_eq_some hget
        have hkey : r.runId = runId := of_decide_eq_true (List.find?_some (p := fun r : RunDetail => decide (r.runId = runId)) hget)
        have hrow : db'.snapshots.get snapshotId = db.snapshots.get snapshotId := by
          refine get_of_adds h.snapshots fun s hs hnew hsid => ?_
          exact h.otherSnapshots s hs hnew r hmem (hkey ▸ hrun) (hsid ▸ hid)
        rw [Option.bind_some, Option.bind_some, Db.getEnvironmentSnapshot, Db.getEnvironmentSnapshot, hrow]
    have hsame : ∀ lp rp la ra, responseTo host root db' left right lp rp la ra = responseTo host root db left right lp rp la ra := by
      intro lp rp la ra
      rw [responseTo, responseTo, hsnapshot (.inl rfl) hleft, hsnapshot (.inr rfl) hright]
    obtain ⟨hleftProblems, hleftProblems'⟩ := problemsShown_eq_iff root h leftRunId (.inl rfl)
    obtain ⟨hrightProblems, hrightProblems'⟩ := problemsShown_eq_iff root h rightRunId (.inr rfl)
    obtain ⟨hleftArtifacts, hleftArtifacts'⟩ := artifactsShown_eq_iff root h leftRunId (.inl rfl)
    obtain ⟨hrightArtifacts, hrightArtifacts'⟩ := artifactsShown_eq_iff root h rightRunId (.inr rfl)
    rw [compareRuns_of_comparable host root leftRunId rightRunId hne hleft hright hleftClass hrightClass,
      compareRuns_of_comparable host root leftRunId rightRunId hne ((hdetail _ (.inl rfl)).trans hleft)
        ((hdetail _ (.inr rfl)).trans hright) hleftClass hrightClass]
    constructor
    · intro hresponse _
      obtain ⟨⟨hlp, hrp⟩, hla, hra⟩ := lengths_of_responseTo host root (Except.ok.inj hresponse)
      refine ⟨?_, ?_⟩
      · rintro p hp (hid | hid)
        · exact hleftProblems.mp (hleftProblems' hlp) p hp hid
        · exact hrightProblems.mp (hrightProblems' hrp) p hp hid
      · rintro a ha (hid | hid)
        · exact hleftArtifacts.mp (hleftArtifacts' hla) a ha hid
        · exact hrightArtifacts.mp (hrightArtifacts' hra) a ha hid
    · intro hlisted
      obtain ⟨hproblems, hartifacts⟩ := hlisted hcomparable
      rw [hleftProblems.mpr fun p hp hid => hproblems p hp (.inl hid), hrightProblems.mpr fun p hp hid => hproblems p hp (.inr hid),
        hleftArtifacts.mpr fun a ha hid => hartifacts a ha (.inl hid), hrightArtifacts.mpr fun a ha hid => hartifacts a ha (.inr hid),
        hsame]
  · exact ⟨fun _ hyes => absurd hyes hcomparable,
      fun _ => compareRuns_of_not_comparable host root leftRunId rightRunId (hdetail _ (.inl rfl)) (hdetail _ (.inr rfl)) hcomparable⟩

end Responses

/-! ## A hundred newer artifacts -/

namespace SampleFrame

def run (runId : String) : RunDetail :=
  { runId := runId, projectRoot := "/a", origin := "user", status := "completed", startedAt := "2026-08-01T00:00:00+00:00",
    requestType := "workspace.execute", operationClass := "scientific", code := "1", argumentsJson := "\x7b\x7d" }

def host : Host := ⟨fun text => text, fun _ => none, "2026-08-02T00:00:00+00:00"⟩

/-- The first artifact is of the left run, every later one is newer and of another run. -/
def artifact (i : Nat) : ArtifactRecord where
  artifactId := Nat.repr i
  runId := if i = 0 then some "left" else some "other"
  projectRoot := "/a"
  outputPath := "out.csv"
  createdAt := if i = 0 then "2026-08-01T00:00:01+00:00" else "2026-08-01T00:00:02+00:00"

/-- Two runs and so many artifacts. -/
def db (n : Nat) : Db where
  runs := ⟨[run "left", run "right"], by decide⟩
  artifacts := ⟨(List.range n).map artifact, by
    rw [List.map_map]
    exact List.nodup_range.map fun _ _ h => Nat.repr_injective h⟩

theorem adds (n : Nat) : Adds "left" "right" (db 1) (db (n + 1)) where
  runs := List.Sublist.refl _
  artifacts := (List.range_sublist.mpr (Nat.succ_le_succ (Nat.zero_le n))).map artifact
  snapshots := List.Sublist.refl _
  otherRuns := fun _ hr hnew => absurd hr hnew
  otherArtifacts := by
    intro a ha hnew
    obtain ⟨i, -, rfl⟩ := List.mem_map.mp ha
    have hi : i ≠ 0 := by
      rintro rfl
      exact hnew (List.mem_map_of_mem (List.mem_range.mpr Nat.one_pos))
    simp [artifact, hi]
  otherSnapshots := fun _ hs hnew => absurd hs hnew

/-- Behind a hundred newer artifacts the artifact of the left run is cut off. -/
theorem left_cut_off : artifactsShown "/a" (db 101) "left" = [] := by
  have hrows : (db 101).projectArtifacts "/a" = (List.range 101).map artifact := by
    refine List.filter_eq_self.mpr fun a ha => ?_
    obtain ⟨i, -, rfl⟩ := List.mem_map.mp ha
    rfl
  have hsorted := List.pairwise_insertionSort (fun a b : ArtifactRecord => b.createdAt ≤ a.createdAt) ((List.range 101).map artifact)
  have hperm := List.perm_insertionSort (fun a b : ArtifactRecord => b.createdAt ≤ a.createdAt) ((List.range 101).map artifact)
  have hnodup := hperm.nodup_iff.mpr ((db 101).artifacts.nodup.of_map)
  have hlength := hperm.length_eq
  rw [artifactsShown, Db.listArtifactRecords, hrows, List.filter_eq_nil_iff]
  rw [List.length_map, List.length_range] at hlength
  have hother : ∀ i, i ≠ 0 → (artifact i).runId = some "other" ∧ (artifact i).createdAt = "2026-08-01T00:00:02+00:00" := by
    intro i hi
    simp [artifact, hi]
  generalize ((List.range 101).map artifact).insertionSort (fun a b => b.createdAt ≤ a.createdAt) = sorted at *
  intro a ha hleft
  obtain ⟨i, -, rfl⟩ := List.mem_map.mp (hperm.mem_iff.mp (List.mem_of_mem_take ha))
  have hzero : i = 0 := by
    by_contra hi
    rw [(hother i hi).1] at hleft
    exact absurd hleft (by decide)
  subst hzero
  -- Everything behind it would have to be as old.
  obtain ⟨x, y, hsplit⟩ := List.append_of_mem ha
  obtain ⟨rest, hrest⟩ : ∃ rest, sorted = x ++ artifact 0 :: (y ++ rest) := by
    refine ⟨sorted.drop 100, ?_⟩
    rw [← List.cons_append, ← List.append_assoc, ← hsplit, List.take_append_drop]
  have hnone : y ++ rest = [] := by
    refine List.eq_nil_iff_forall_not_mem.mpr fun b hb => ?_
    rw [hrest] at hsorted hnodup hperm
    have hold := List.rel_of_pairwise_cons (List.pairwise_append.mp hsorted).2.1 hb
    obtain ⟨j, -, rfl⟩ := List.mem_map.mp (hperm.mem_iff.mp (List.mem_append_right _ (List.mem_cons_of_mem _ hb)))
    have hj : j ≠ 0 := by
      rintro rfl
      exact (List.nodup_cons.mp (List.nodup_append.mp hnodup).2.1).1 hb
    rw [(hother j hj).2] at hold
    exact absurd hold (by decide)
  have hshort := congrArg List.length hsplit
  rw [hrest, hnone, List.length_append, List.length_singleton] at hlength
  rw [List.length_take, List.length_append, List.length_cons] at hshort
  omega

end SampleFrame

open SampleFrame

/-- One artifact more makes no difference. -/
theorem one_artifact_unchanged : (db 2).compareRuns "/a" host "left" "right" = (db 1).compareRuns "/a" host "left" "right" :=
  (compare_unchanged_iff host "/a" "left" "right" (db 1) (db 2) (adds 1)).mpr fun _ => ⟨by decide +kernel, by decide +kernel⟩

/-- A hundred artifacts of another run, all newer, and the comparison no longer shows the artifact of the left run. -/
theorem hundred_artifacts_change : Adds "left" "right" (db 1) (db 101) ∧
      (db 101).compareRuns "/a" host "left" "right" ≠ (db 1).compareRuns "/a" host "left" "right" := by
  refine ⟨adds 100, fun h => ?_⟩
  have hright : ∀ n, (db n).getRunDetail "/a" "right" = some (run "right") := fun _ => rfl
  have hleft : ∀ n, (db n).getRunDetail "/a" "left" = some (run "left") := fun _ => rfl
  rw [compareRuns_of_comparable host "/a" "left" "right" (by decide) (hleft 101) (hright 101) rfl rfl,
    compareRuns_of_comparable host "/a" "left" "right" (by decide) (hleft 1) (hright 1) rfl rfl] at h
  have hlength := (lengths_of_responseTo host "/a" (Except.ok.inj h)).2.1
  have hbefore : (artifactsShown "/a" (db 1) "left").length = 1 := by decide +kernel
  rw [left_cut_off, hbefore] at hlength
  cases hlength

end Rho.Compare
