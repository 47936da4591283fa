import Rho.Lib.Rfc3339
import Rho.Lib.Rows
import Rho.Theorems.Projections

/-!
# Following the cursor of a list

A page of a workbench list is the first rows after its cursor, and the cursor of a page is the time and the id of its last item. The
times that the store writes have no bar in them, so the text of a cursor is read back as the key of that row, and the next page begins
with the row after it. Reading on to the last page gives every row of the project once, newest first, as long as every row can be shown
at all: a problem whose run id is cut inside a character by its eighth byte cannot.
-/

namespace Rho

open Rows Rfc3339

/-! ## Databases that the store has written -/

/-- The time columns hold texts that `to_rfc3339` has given. -/
def IsTime (text : String) : Prop := ∃ t : Rfc3339.UtcTime, text = t.toRfc3339

structure StoredWorkbench extends WorkbenchDb where
  runTimes : ∀ r ∈ runs.rows, IsTime r.startedAt
  artifactTimes : ∀ r ∈ artifacts.rows, IsTime r.createdAt
  snapshotTimes : ∀ r ∈ snapshots.rows, IsTime r.firstCapturedAt
  approvalTimes : ∀ r ∈ approvals.rows, IsTime r.requestedAt

theorem bar_notMem_digits (w n : Nat) : '|' ∉ digits w n := by
  have hdigit : ∀ m < 10, '|' ≠ Char.ofNat (48 + m) := by decide
  induction w generalizing n with
  | zero => exact List.not_mem_nil
  | succ w ih =>
    rw [digits, List.mem_cons]
    rintro (h | h)
    · exact hdigit _ (Nat.mod_lt _ (by decide)) h
    · exact ih _ h

theorem bar_notMem_fractionText (nano : Nat) : '|' ∉ fractionText nano := by
  have hoffset : '|' ∉ offset := by decide
  have hnano : ∀ c, '|' ∉ nanoTail c := by
    intro c
    unfold nanoTail
    split
    · exact hoffset
    · simp [bar_notMem_digits, hoffset]
  have hmicro : ∀ b c, '|' ∉ microTail b c := by
    intro b c
    unfold microTail
    split
    · exact hoffset
    · simp [bar_notMem_digits, hnano]
  unfold fractionText milliTail
  split
  · exact hoffset
  · simp [bar_notMem_digits, hmicro]

/-- A time has no bar in it. -/
theorem bar_notMem_time {text : String} (h : IsTime text) : '|' ∉ text.toList := by
  obtain ⟨t, rfl⟩ := h
  have hyear : '|' ∉ yearText t.year := by
    unfold yearText
    split
    · exact bar_notMem_digits _ _
    · split
      · simp [bar_notMem_digits]
      · simp [bar_notMem_digits]
  rw [Rfc3339.UtcTime.toRfc3339, String.toList_ofList]
  simp [hyear, bar_notMem_digits, bar_notMem_fractionText]

theorem splitAtBar_append {time : List Char} (h : '|' ∉ time) (id : List Char) : splitAtBar (time ++ '|' :: id) = some (time, id) := by
  induction time with
  | nil => rfl
  | cons c time ih =>
    rw [List.mem_cons, not_or] at h
    rw [List.cons_append, splitAtBar, if_neg (Ne.symm h.1), ih h.2]
    rfl

/-- A cursor is read back as it was written. -/
theorem parseCursor_of_time {time : String} (h : IsTime time) (id : String) : parseCursor (time ++ "|" ++ id) = some (time, id) := by
  have hbar : "|".toList = ['|'] := by decide
  rw [parseCursor, String.toList_append, String.toList_append, hbar, List.append_assoc, List.singleton_append,
    splitAtBar_append (bar_notMem_time h), Option.map_some, String.ofList_toList, String.ofList_toList]

/-! ## The order of the pages -/

section Order

variable {α : Type} {key : α → String × String}

/-- `ORDER BY time DESC, id DESC` of rows. -/
abbrev newestOrder (key : α → String × String) (a b : α) : Prop := newestFirst (key a) (key b) = true

theorem newestFirst_iff {a b : String × String} : newestFirst a b = true ↔ b.1 < a.1 ∨ (a.1 = b.1 ∧ b.2 ≤ a.2) := by
  simp [newestFirst]

instance (key : α → String × String) : Std.Total (newestOrder key) := by
  refine ⟨fun a b => ?_⟩
  simp only [newestOrder, newestFirst_iff]
  rcases lt_trichotomy (key a).1 (key b).1 with hlt | heq | hgt
  · exact .inr (.inl hlt)
  · rcases le_total (key a).2 (key b).2 with hle | hle
    · exact .inr (.inr ⟨heq.symm, hle⟩)
    · exact .inl (.inr ⟨heq, hle⟩)
  · exact .inl (.inl hgt)

instance (key : α → String × String) : IsTrans α (newestOrder key) := by
  refine ⟨fun a b c => ?_⟩
  simp only [newestOrder, newestFirst_iff]
  rintro (hab | ⟨hab, hid⟩) (hbc | ⟨hbc, hid'⟩)
  · exact .inl (hbc.trans hab)
  · exact .inl (hbc ▸ hab)
  · exact .inl (hab ▸ hbc)
  · exact .inr ⟨hab.trans hbc, hid'.trans hid⟩

theorem strict_newestOrder {l : List α} (hkey : ∀ a ∈ l, ∀ b ∈ l, key a = key b → a = b) : Strict (newestOrder key) l := by
  intro a ha b hb hab hba
  simp only [newestOrder, newestFirst_iff] at hab hba
  refine hkey a ha b hb ?_
  rcases hab with hab | ⟨htime, hid⟩
  · rcases hba with hba | ⟨htime, -⟩
    · exact absurd hab (lt_asymm hba)
    · exact absurd hab htime.not_lt
  · rcases hba with hba | ⟨-, hid'⟩
    · exact absurd hba htime.not_lt
    · exact Prod.ext htime (le_antisymm hid' hid)

/-- The cursor clause selects the rows after the row of the cursor. -/
theorem beforeCursor_eq (a b : α) : beforeCursor (some (key a)) (key b) = decide (Before (newestOrder key) a b) := by
  rw [Bool.eq_iff_iff]
  simp only [beforeCursor, Before, newestOrder, newestFirst_iff, Bool.or_eq_true, Bool.and_eq_true, decide_eq_true_eq, not_or, not_and,
    not_lt, not_le]
  constructor
  · rintro (hlt | ⟨heq, hid⟩)
    · exact ⟨.inl hlt, hlt.le, fun heq => absurd heq hlt.ne⟩
    · exact ⟨.inr ⟨heq.symm, hid.le⟩, heq.le, fun _ => hid⟩
  · rintro ⟨hlt | ⟨heq, -⟩, -, hid⟩
    · exact .inl hlt
    · exact .inr ⟨heq.symm, hid heq.symm⟩

end Order

/-! ## One page after the other -/

/-- Following the cursor of a list, from a cursor or from the start to the last page. -/
inductive Follows {β : Type} (fetch : Option String → Except WorkbenchError (WorkbenchPage β)) : Option String → List β → Prop where
  | last {after next : Option String} {items : List β} {size : Nat} :
    fetch after = .ok ⟨items, next, false, size⟩ → Follows fetch after items
  | more {after next : Option String} {items rest : List β} {size : Nat} :
    fetch after = .ok ⟨items, next, true, size⟩ → Follows fetch next rest → Follows fetch after (items ++ rest)

/-- Every row is shown once, in descending order of time and id. -/
def ShowsOnce {α β : Type} (key : α → String × String) (mapRow : α → Except WorkbenchError β) (rows : List α) (items : List β) : Prop :=
  ∃ ordered : List α, ordered.Perm rows ∧ ordered.Pairwise (Before (newestOrder key)) ∧ ordered.mapM mapRow = .ok items

section Pages

variable {α β : Type} {rows : List α} {projectRoot : α → String} {selected : α → Bool} {key : α → String × String}
  {mapRow : α → Except WorkbenchError β} {cursorOf : β → String} {root : String} {show' : α → β}

/-- The rows that a list of a project is about. -/
abbrev listed (rows : List α) (projectRoot : α → String) (selected : α → Bool) (root : String) : List α :=
  (rows.filter (fun r => projectRoot r = root)).filter selected

/-- What the pages of a list need: keys that tell its rows apart, rows that can be shown, and cursors that are read back. -/
structure Pageable (l : List α) (key : α → String × String) (mapRow : α → Except WorkbenchError β) (cursorOf : β → String)
    (show' : α → β) : Prop where
  nodup : l.Nodup
  apart : ∀ a ∈ l, ∀ b ∈ l, key a = key b → a = b
  shows : ∀ a ∈ l, mapRow a = .ok (show' a)
  cursor : ∀ a ∈ l, parseCursor (cursorOf (show' a)) = some (key a)

variable {l : List α} {cursor : Option (String × String)} {a : α} {after : Option String}

theorem mapM_shows (h : ∀ a ∈ l, mapRow a = .ok (show' a)) : l.mapM mapRow = .ok (l.map show') := by
  induction l with
  | nil => rfl
  | cons a l ih =>
    rw [List.mapM_cons, h a List.mem_cons_self, ih fun b hb => h b (List.mem_cons_of_mem _ hb)]
    rfl

/-- The rows from which a page is made, in their order. -/
def rowsAfter (l : List α) (key : α → String × String) (cursor : Option (String × String)) : List α :=
  (l.filter (fun r => beforeCursor cursor (key r))).insertionSort (newestOrder key)

theorem mem_of_mem_rowsAfter (h : a ∈ rowsAfter l key cursor) : a ∈ l :=
  List.mem_of_mem_filter ((List.mem_insertionSort _).mp h)

theorem rowsAfter_none (l : List α) : rowsAfter l key none = l.insertionSort (newestOrder key) := by
  rw [rowsAfter, List.filter_eq_self.mpr]
  exact fun _ _ => rfl

theorem rowsAfter_some {x y : List α} (h : Pageable l key mapRow cursorOf show')
    (hsplit : l.insertionSort (newestOrder key) = x ++ a :: y) : rowsAfter l key (some (key a)) = y := by
  have hperm := List.perm_insertionSort (newestOrder key) l
  have hstrict := strict_newestOrder h.apart
  rw [rowsAfter, insertionSort_filter hstrict, hsplit, List.filter_congr (fun b _ => beforeCursor_eq a b)]
  refine filter_after ?_ ?_ ?_
  · rw [← hsplit]
    exact List.pairwise_insertionSort _ _
  · rw [← hsplit]
    intro b hb c hc
    exact hstrict b (hperm.mem_iff.mp hb) c (hperm.mem_iff.mp hc)
  · rw [← hsplit]
    exact hperm.nodup_iff.mpr h.nodup

variable (key mapRow cursorOf) in
/-- A page whose cursor is read is made of the first rows after it. -/
theorem projectPage_rows (hafter : after.map parseCursor = cursor.map some) (pageSize : Nat) :
    projectPage rows projectRoot selected key mapRow cursorOf root after pageSize = do
      let page ← ((rowsAfter (listed rows projectRoot selected root) key cursor).take (clampPageSize pageSize + 1)).mapM mapRow
      let items := page.take (clampPageSize pageSize)
      return ⟨items, items.getLast?.map cursorOf, decide (clampPageSize pageSize < page.length), clampPageSize pageSize⟩ := by
  have hcursor : projectPage rows projectRoot selected key mapRow cursorOf root after pageSize = do
      let page ← ((((rows.filter (fun r => projectRoot r = root)).filter (fun r => selected r && beforeCursor cursor (key r))).insertionSort
        (newestOrder key)).take (clampPageSize pageSize + 1)).mapM mapRow
      let items := page.take (clampPageSize pageSize)
      return ⟨items, items.getLast?.map cursorOf, decide (clampPageSize pageSize < page.length), clampPageSize pageSize⟩ := by
    cases after with
    | none =>
      cases cursor with
      | none => rfl
      | some parts => cases hafter
    | some text =>
      cases cursor with
      | none => cases hafter
      | some parts =>
        have hparse : parseCursor text = some parts := Option.some.inj hafter
        simp only [projectPage, hparse]
        rfl
  have hfilter : (rows.filter (fun r => projectRoot r = root)).filter (fun r => selected r && beforeCursor cursor (key r)) =
      (listed rows projectRoot selected root).filter (fun r => beforeCursor cursor (key r)) := by
    rw [listed, List.filter_filter (p := fun r => beforeCursor cursor (key r))]
    refine List.filter_congr fun r _ => ?_
    rw [Bool.and_comm]
  rw [hcursor, hfilter]
  rfl

/-- A page is made only for a cursor that is read. -/
theorem cursor_of_projectPage {pageSize : Nat} {page : WorkbenchPage β}
    (h : projectPage rows projectRoot selected key mapRow cursorOf root after pageSize = .ok page) :
    ∃ cursor : Option (String × String), after.map parseCursor = cursor.map some := by
  cases after with
  | none => exact ⟨none, rfl⟩
  | some text =>
    cases hparse : parseCursor text with
    | none =>
      simp only [projectPage, hparse] at h
      cases h
    | some parts => exact ⟨some parts, congrArg some hparse⟩

variable (key cursorOf) in
/-- A page, from its rows. -/
theorem projectPage_eq (hafter : after.map parseCursor = cursor.map some)
    (hshows : ∀ a ∈ listed rows projectRoot selected root, mapRow a = .ok (show' a)) (pageSize : Nat) :
    projectPage rows projectRoot selected key mapRow cursorOf root after pageSize =
      let y := rowsAfter (listed rows projectRoot selected root) key cursor
      let items := (y.take (clampPageSize pageSize)).map show'
      .ok ⟨items, items.getLast?.map cursorOf, decide (clampPageSize pageSize < y.length), clampPageSize pageSize⟩ := by
  have hpage : ((rowsAfter (listed rows projectRoot selected root) key cursor).take (clampPageSize pageSize + 1)).mapM mapRow = _ :=
    mapM_shows fun a ha => hshows a (mem_of_mem_rowsAfter (List.mem_of_mem_take ha))
  rw [projectPage_rows key mapRow cursorOf hafter, hpage]
  generalize rowsAfter (listed rows projectRoot selected root) key cursor = y
  simp only [bind, Except.bind, pure, Except.pure, List.length_map, List.length_take, ← List.map_take, List.take_take]
  rw [Nat.min_eq_left (Nat.le_succ _)]
  congr 3
  refine propext ?_
  omega

/-- From any row on, the pages give the rows that are left. -/
theorem follows_from (h : Pageable (listed rows projectRoot selected root) key mapRow cursorOf show') (pageSize : Nat) :
    ∀ (n : Nat) (x y : List α), y.length ≤ n →
      (listed rows projectRoot selected root).insertionSort (newestOrder key) = x ++ y →
      ∀ (after : Option String) (cursor : Option (String × String)), after.map parseCursor = cursor.map some →
        rowsAfter (listed rows projectRoot selected root) key cursor = y →
        Follows (fun after => projectPage rows projectRoot selected key mapRow cursorOf root after pageSize) after (y.map show') := by
  have hpositive : 0 < clampPageSize pageSize := by
    unfold clampPageSize
    omega
  intro n
  induction n with
  | zero =>
    intro x y hlength hsplit after cursor hafter hrows
    obtain rfl := List.eq_nil_of_length_eq_zero (Nat.le_zero.mp hlength)
    have hpage := projectPage_eq key cursorOf hafter h.shows pageSize
    simp only [hrows, List.length_nil, Nat.not_lt_zero, decide_false, List.take_nil] at hpage
    exact .last hpage
  | succ n ih =>
    intro x y hlength hsplit after cursor hafter hrows
    have hpage := projectPage_eq key cursorOf hafter h.shows pageSize
    simp only [hrows] at hpage
    by_cases hmore : clampPageSize pageSize < y.length
    · simp only [hmore, decide_true] at hpage
      -- the last row of the page is the cursor of the next one
      obtain ⟨front, a, hfront⟩ : ∃ front a, y.take (clampPageSize pageSize) = front ++ [a] := by
        refine ⟨_, _, (List.dropLast_append_getLast (l := y.take (clampPageSize pageSize)) ?_).symm⟩
        intro hnil
        have hzero := congrArg List.length hnil
        rw [List.length_take, List.length_nil] at hzero
        omega
      have hy : front ++ a :: y.drop (clampPageSize pageSize) = y := by
        have htake := List.take_append_drop (clampPageSize pageSize) y
        rwa [hfront, List.append_assoc, List.singleton_append] at htake
      have hnext : (listed rows projectRoot selected root).insertionSort (newestOrder key) =
          (x ++ front) ++ a :: y.drop (clampPageSize pageSize) := by
        rw [List.append_assoc, hy, hsplit]
      have ha : a ∈ listed rows projectRoot selected root := by
        rw [← List.mem_insertionSort (newestOrder key), hnext]
        exact List.mem_append_right _ List.mem_cons_self
      have hcursor : Option.map parseCursor (((y.take (clampPageSize pageSize)).map show').getLast?.map cursorOf) =
          (some (key a)).map some := by
        rw [hfront, List.map_append, List.map_singleton, List.getLast?_append, List.getLast?_singleton, Option.some_or, Option.map_some,
          Option.map_some, h.cursor a ha]
        rfl
      have hrest := ih (x ++ front ++ [a]) (y.drop (clampPageSize pageSize)) (by rw [List.length_drop]; omega)
        (by rw [hnext, List.append_assoc _ [a], List.singleton_append]) _ _ hcursor (rowsAfter_some h hnext)
      have hfollows : Follows (fun after => projectPage rows projectRoot selected key mapRow cursorOf root after pageSize) after
          ((y.take (clampPageSize pageSize)).map show' ++ (y.drop (clampPageSize pageSize)).map show') := .more hpage hrest
      rwa [← List.map_append, List.take_append_drop] at hfollows
    · simp only [hmore, decide_false, List.take_of_length_le (Nat.not_lt.mp hmore)] at hpage
      exact .last hpage

/-- Following the cursor from the start shows every row once. -/
theorem shows_once (h : Pageable (listed rows projectRoot selected root) key mapRow cursorOf show') (pageSize : Nat) :
    ∃ items, Follows (fun after => projectPage rows projectRoot selected key mapRow cursorOf root after pageSize) none items ∧
      ShowsOnce key mapRow (listed rows projectRoot selected root) items := by
  have hperm := List.perm_insertionSort (newestOrder key) (listed rows projectRoot selected root)
  have hsorted := List.pairwise_insertionSort (newestOrder key) (listed rows projectRoot selected root)
  refine ⟨_, follows_from h pageSize _ [] _ le_rfl rfl none none rfl (rowsAfter_none _), _, hperm, ?_, ?_⟩
  · refine (hsorted.and (hperm.nodup_iff.mpr h.nodup)).imp_of_mem ?_
    rintro a b ha hb ⟨hab, hne⟩
    refine ⟨hab, fun hba => hne ?_⟩
    exact strict_newestOrder h.apart a (hperm.mem_iff.mp ha) b (hperm.mem_iff.mp hb) hab hba
  · exact mapM_shows fun a ha => h.shows a (hperm.mem_iff.mp ha)

end Pages

/-! ## The four lists -/

section Lists

variable (db : StoredWorkbench) (root : String)

/-- The runs of a project that have an error. -/
def WorkbenchDb.projectProblems (db : WorkbenchDb) (root : String) : List WorkbenchRun :=
  (db.projectRuns root).filter (fun r => r.errorMessage.isSome)

/-- Every list of the project shows every row once, whatever the page size. -/
structure PagesExact (db : WorkbenchDb) (root : String) (pageSize : Nat) : Prop where
  runs : ∃ items, Follows (fun after => db.workbenchRunList root after pageSize) none items ∧
    ShowsOnce (fun r => (r.startedAt, r.runId)) (fun r => .ok (WorkbenchDb.runSummary r)) (db.projectRuns root) items
  problems : ∃ items, Follows (fun after => db.workbenchProblemList root after pageSize) none items ∧
    ShowsOnce (fun r => (r.startedAt, r.runId)) WorkbenchDb.problemSummary (db.projectProblems root) items
  outputs : ∃ items, Follows (fun after => db.workbenchOutputList root after pageSize) none items ∧
    ShowsOnce (fun r => (r.createdAt, r.artifactId)) (fun r => .ok (WorkbenchDb.outputSummary r)) (db.projectArtifacts root) items
  approvals : ∃ items, Follows (fun after => db.workbenchApprovalList root after pageSize) none items ∧
    ShowsOnce (fun r => (r.requestedAt, r.requestId)) (fun r => .ok (WorkbenchDb.approvalSummary r)) (db.projectApprovals root) items

/-- The problem of a run whose id can be cut after eight bytes. -/
def problemOf (r : WorkbenchRun) : ProblemSummary where
  problemId := String.ofList ((bytePrefix 8 r.runId.toList).getD []) ++ "-err"
  runId := r.runId
  severity := "error"
  title := truncateStr (r.errorMessage.getD "") 120
  sourcePath := r.sourcePath
  sourceLine := none
  recordedAt := r.startedAt

theorem problemSummary_eq {r : WorkbenchRun} (h : (bytePrefix 8 r.runId.toList).isSome) : WorkbenchDb.problemSummary r = .ok (problemOf r) := by
  obtain ⟨start, hstart⟩ := Option.isSome_iff_exists.mp h
  unfold WorkbenchDb.problemSummary problemOf
  rw [hstart]
  rfl

/-- The rows of a table that are selected, with the key of the table at the end of the key of the order. -/
theorem pageable_table {α β : Type} {id : α → String} (t : Table id) {p : α → Bool} {time : α → String}
    {mapRow : α → Except WorkbenchError β} {cursorOf : β → String} {show' : α → β} (htime : ∀ a ∈ t.rows, IsTime (time a))
    (hshows : ∀ a ∈ t.rows, p a = true → mapRow a = .ok (show' a)) (hcursor : ∀ a, cursorOf (show' a) = time a ++ "|" ++ id a) :
    Pageable (t.rows.filter p) (fun a => (time a, id a)) mapRow cursorOf show' where
  nodup := (List.Nodup.of_map _ t.nodup).filter p
  apart := by
    intro a ha b hb hkey
    exact List.inj_on_of_nodup_map t.nodup (List.mem_of_mem_filter ha) (List.mem_of_mem_filter hb) (Prod.mk.inj hkey).2
  shows := by
    intro a ha
    obtain ⟨hmem, hp⟩ := List.mem_filter.mp ha
    exact hshows a hmem hp
  cursor := by
    intro a ha
    rw [hcursor a, parseCursor_of_time (htime a (List.mem_of_mem_filter ha))]

/-- The rows of a table of a project, as the lists select them. -/
theorem listed_eq_filter {α : Type} (rows : List α) (projectRoot : α → String) (selected : α → Bool) (root : String) :
    listed rows projectRoot selected root = rows.filter (fun r => selected r && decide (projectRoot r = root)) := by
  rw [listed, List.filter_filter]

theorem listed_all {α : Type} (rows : List α) (projectRoot : α → String) (root : String) :
    listed rows projectRoot (fun _ => true) root = rows.filter (fun r => projectRoot r = root) := List.filter_eq_self.mpr (fun _ _ => rfl)

/-- Following the cursor of a list that shows every row of its table. -/
theorem table_shows_once {α β : Type} {id : α → String} (t : Table id) (projectRoot : α → String) (selected : α → Bool)
    (cursorOf : β → String) {time : α → String} {mapRow : α → Except WorkbenchError β} {show' : α → β}
    (htime : ∀ a ∈ t.rows, IsTime (time a))
    (hshows : ∀ a ∈ t.rows, (selected a && decide (projectRoot a = root)) = true → mapRow a = .ok (show' a))
    (hcursor : ∀ a, cursorOf (show' a) = time a ++ "|" ++ id a) (pageSize : Nat) :
    ∃ items, Follows (fun after => projectPage t.rows projectRoot selected (fun a => (time a, id a)) mapRow cursorOf root after pageSize)
      none items ∧ ShowsOnce (fun a => (time a, id a)) mapRow (listed t.rows projectRoot selected root) items := by
  have hpageable : Pageable (listed t.rows projectRoot selected root) (fun a => (time a, id a)) mapRow cursorOf show' := by
    rw [listed_eq_filter]
    exact pageable_table t htime hshows hcursor
  exact shows_once hpageable pageSize

/-- Following the cursors of a project gives its runs, problems, outputs and approvals, each once and in order, exactly when no problem of
the project has a run id that its eighth byte cuts inside a character. -/
theorem pages_exact_iff : (∀ pageSize, PagesExact db.toWorkbenchDb root pageSize) ↔
      ∀ r ∈ db.projectProblems root, (bytePrefix 8 r.runId.toList).isSome := by
  constructor
  · intro h r hr
    obtain ⟨items, -, ordered, hperm, -, hshown⟩ := (h 0).problems
    obtain ⟨item, hitem⟩ := Fallible.mapM_each ordered items hshown r (hperm.mem_iff.mpr hr)
    cases hstart : bytePrefix 8 r.runId.toList with
    | none =>
      unfold WorkbenchDb.problemSummary at hitem
      rw [hstart] at hitem
      cases hitem
    | some start => rfl
  · intro h pageSize
    refine ⟨?_, ?_, ?_, ?_⟩
    · have hruns := table_shows_once root db.runs WorkbenchRun.projectRoot (fun _ => true) (fun item => item.startedAt ++ "|" ++ item.runId)
        db.runTimes (fun r _ _ => rfl : ∀ r ∈ db.runs.rows, _ → Except.ok (WorkbenchDb.runSummary r) = _) (fun _ => rfl) pageSize
      rw [listed_all] at hruns
      exact hruns
    · refine table_shows_once root db.runs WorkbenchRun.projectRoot (fun r => r.errorMessage.isSome)
        (fun item : ProblemSummary => item.recordedAt ++ "|" ++ item.runId) db.runTimes (fun r hr hselected => ?_)
        (fun r : WorkbenchRun => (rfl : (problemOf r).recordedAt ++ "|" ++ (problemOf r).runId = _)) pageSize
      obtain ⟨herror, hroot⟩ := Bool.and_eq_true_iff.mp hselected
      exact problemSummary_eq (h r (List.mem_filter.mpr ⟨List.mem_filter.mpr ⟨hr, hroot⟩, herror⟩))
    · have houtputs := table_shows_once root db.artifacts WorkbenchArtifact.projectRoot (fun _ => true)
        (fun item => item.createdAt ++ "|" ++ item.artifactId) db.artifactTimes
        (fun r _ _ => rfl : ∀ r ∈ db.artifacts.rows, _ → Except.ok (WorkbenchDb.outputSummary r) = _) (fun _ => rfl) pageSize
      rw [listed_all] at houtputs
      exact houtputs
    · have happrovals := table_shows_once root db.approvals WorkbenchApproval.projectRoot (fun _ => true)
        (fun item => item.requestedAt ++ "|" ++ item.requestId) db.approvalTimes
        (fun r _ _ => rfl : ∀ r ∈ db.approvals.rows, _ → Except.ok (WorkbenchDb.approvalSummary r) = _) (fun _ => rfl) pageSize
      rw [listed_all] at happrovals
      exact happrovals

end Lists

/-! ## A run id that is cut inside a character -/

namespace SampleWorkbench

theorem isTime_start : IsTime "2026-08-01T00:00:00+00:00" := ⟨⟨2026, 8, 1, 0, 0, 0, 0⟩, by decide⟩

/-- A run of project `/a` with an error. -/
def failedRun (runId : String) : WorkbenchRun :=
  { runId := runId, projectRoot := "/a", origin := "user", status := "failed", startedAt := "2026-08-01T00:00:00+00:00",
    requestType := "workspace.execute", code := "stop()", errorMessage := some "stopped" }

/-- A database with one failed run. -/
def failed (runId : String) : StoredWorkbench where
  runs := ⟨[failedRun runId], List.nodup_singleton _⟩
  runTimes := by
    intro r hr
    rw [List.mem_singleton.mp hr]
    exact isTime_start
  artifactTimes := fun _ h => absurd h List.not_mem_nil
  snapshotTimes := fun _ h => absurd h List.not_mem_nil
  approvalTimes := fun _ h => absurd h List.not_mem_nil

end SampleWorkbench

/-- The list of the problems panics where the eighth byte of a run id is inside a character, so it shows nothing. -/
theorem problem_list_panics :
    (SampleWorkbench.failed "abcdefgé").workbenchProblemList "/a" none 10 = .error .charBoundary ∧
      ¬ ∀ pageSize, PagesExact (SampleWorkbench.failed "abcdefgé").toWorkbenchDb "/a" pageSize := by
  refine ⟨by decide, fun h => ?_⟩
  obtain ⟨items, hfollows, -⟩ := (h 10).problems
  have hpanics : (SampleWorkbench.failed "abcdefgé").workbenchProblemList "/a" none 10 = .error .charBoundary := by decide
  cases hfollows with
  | last hpage => rw [hpanics] at hpage; cases hpage
  | more hpage _ => rw [hpanics] at hpage; cases hpage

end Rho
