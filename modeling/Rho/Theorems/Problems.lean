import Rho.Theorems.Pagination

/-!
# The identifiers of problems

A problem is named by the first eight bytes of its run's id, and looked up by them as a pattern of `LIKE`. The list and the lookup agree
exactly when every run with an error has an id of eight bytes or more that can be cut there, the cut does not end like the suffix, and
the pattern matches no other problem of the project that the lookup would find first.
-/

namespace Rho

open Rows WorkbenchDb

/-! ## Cutting and trimming -/

/-- The bytes that characters take. -/
def utf8Length (l : List Char) : Nat := (String.ofList l).utf8ByteSize

theorem utf8Length_append (a b : List Char) : utf8Length (a ++ b) = utf8Length a + utf8Length b := by
  rw [utf8Length, String.ofList_append, String.utf8ByteSize_append]
  rfl

theorem utf8Length_cons (c : Char) (l : List Char) : utf8Length (c :: l) = c.utf8Size + utf8Length l := by
  have hsingle : utf8Length [c] = c.utf8Size := by simp [utf8Length]
  rw [← List.singleton_append, utf8Length_append, hsingle]

variable {l start : List Char}

theorem utf8Length_bytePrefix {n : Nat} (h : bytePrefix n l = some start) : utf8Length start ≤ n := by
  induction l generalizing n start with
  | nil =>
    cases h
    exact Nat.zero_le n
  | cons c l ih =>
    unfold bytePrefix at h
    split at h
    · cases h
      exact Nat.zero_le n
    · split at h
      · rename_i hfits
        obtain ⟨rest, hrest, rfl⟩ := Option.map_eq_some_iff.mp h
        have hlength := ih hrest
        rw [utf8Length_cons]
        omega
      · cases h

/-- `-err`, read backwards. -/
def suffixErr : List Char := ['r', 'r', 'e', '-']

theorem trimErr_err (text : List Char) : trimErr ('r' :: 'r' :: 'e' :: '-' :: text) = trimErr text := rfl

theorem trimErr_suffix (l : List Char) : ∃ front, l = front ++ trimErr l := by
  fun_induction trimErr l with
  | case1 text ih =>
    obtain ⟨front, hfront⟩ := ih
    exact ⟨suffixErr ++ front, by rw [List.append_assoc, ← hfront]; rfl⟩
  | case2 text h => exact ⟨[], rfl⟩

theorem trimErr_of_not (h : ¬ suffixErr.isPrefixOf l) : trimErr l = l := by
  unfold trimErr
  split
  · rename_i text
    exact absurd rfl h
  · rfl

theorem trimErr_of_prefix (h : suffixErr.isPrefixOf l) :
    ∃ text, l = suffixErr ++ text ∧ trimErr l = trimErr text := by
  obtain ⟨text, rfl⟩ := List.isPrefixOf_iff_prefix.mp h
  exact ⟨text, rfl, trimErr_err text⟩

/-- What the lookup makes of the id of a problem. -/
def runPrefixOf (problemId : String) : List Char := (WorkbenchDb.trimErr problemId.toList.reverse).reverse

theorem runPrefixOf_eq (start : List Char) : runPrefixOf (String.ofList start ++ "-err") = (trimErr start.reverse).reverse := by
  have herr : "-err".toList.reverse = suffixErr := by decide
  rw [runPrefixOf, String.toList_append, String.toList_ofList, List.reverse_append, herr]
  exact congrArg List.reverse (trimErr_err start.reverse)

/-- The cut of an id is looked up itself, unless it ends like the suffix. -/
theorem runPrefixOf_of_not (h : ¬ suffixErr.isPrefixOf start.reverse) : runPrefixOf (String.ofList start ++ "-err") = start := by
  rw [runPrefixOf_eq, trimErr_of_not h, List.reverse_reverse]

/-- A cut that ends like the suffix is trimmed below eight bytes. -/
theorem runPrefixOf_of_suffix (h : suffixErr.isPrefixOf start.reverse) (hlength : utf8Length start ≤ 8) :
    utf8Length (runPrefixOf (String.ofList start ++ "-err")) < 8 := by
  obtain ⟨text, htext, htrim⟩ := trimErr_of_prefix h
  obtain ⟨front, hfront⟩ := trimErr_suffix text
  have hstart : start = (trimErr text).reverse ++ (front.reverse ++ suffixErr.reverse) := by
    rw [← List.append_assoc, ← List.reverse_append, ← hfront, ← List.reverse_append, ← htext, List.reverse_reverse]
  have hsuffix : utf8Length suffixErr.reverse = 4 := by decide
  have hparts := congrArg utf8Length hstart
  rw [utf8Length_append, utf8Length_append, hsuffix] at hparts
  rw [runPrefixOf_eq, htrim]
  omega

/-! ## The lookup -/

section Lookup

variable {db : WorkbenchDb} {root : String}

/-- The problems that a pattern finds. -/
def matchingProblems (db : WorkbenchDb) (root : String) (start : List Char) : List WorkbenchRun :=
  (db.projectProblems root).filter (fun r => sqlLike (start ++ ['%']) r.runId.toList)

/-- Newest first, and no more. -/
abbrev newestRun (a b : WorkbenchRun) : Prop := b.startedAt ≤ a.startedAt

instance : Std.Total newestRun := ⟨fun a b => le_total b.startedAt a.startedAt⟩

instance : IsTrans WorkbenchRun newestRun := ⟨fun _ _ _ hab hbc => le_trans hbc hab⟩

theorem problemGet_eq (problemId : String) : db.workbenchProblemGet root problemId =
      if utf8Length (runPrefixOf problemId) < 8 then .ok none else
        match ((matchingProblems db root (runPrefixOf problemId)).insertionSort newestRun).head? with
        | none => .ok none
        | some r => (problemSummary r).map some := by
  have hfilter : (db.projectRuns root).filter
      (fun r => r.errorMessage.isSome && sqlLike (runPrefixOf problemId ++ ['%']) r.runId.toList) =
      matchingProblems db root (runPrefixOf problemId) := by
    rw [matchingProblems, projectProblems, List.filter_filter]
    refine List.filter_congr fun r _ => ?_
    rw [Bool.and_comm]
  unfold workbenchProblemGet
  simp only [← hfilter]
  rfl

theorem problems_sublist : (db.projectProblems root).Sublist db.runs.rows := List.filter_sublist.trans List.filter_sublist

theorem nodup_problems : (db.projectProblems root).Nodup := (List.Nodup.of_map _ db.runs.nodup).sublist problems_sublist

theorem problems_apart {a b : WorkbenchRun} (ha : a ∈ db.projectProblems root) (hb : b ∈ db.projectProblems root)
    (h : a.runId = b.runId) : a = b :=
  List.inj_on_of_nodup_map db.runs.nodup (problems_sublist.subset ha) (problems_sublist.subset hb) h

/-- The lookup finds one problem and not another that matches, if it is newer, or as new and stored before it. -/
def FoundBefore (db : WorkbenchDb) (r r' : WorkbenchRun) : Prop :=
  r'.startedAt < r.startedAt ∨ (r'.startedAt = r.startedAt ∧ List.Sublist [r, r'] db.runs.rows)

/-- The first of the problems that match is before all others that do. -/
theorem first_matching_iff {start : List Char} {r : WorkbenchRun} :
    ((matchingProblems db root start).insertionSort newestRun).head? = some r ↔ r ∈ matchingProblems db root start ∧
      ∀ r' ∈ db.projectProblems root, r' ≠ r → sqlLike (start ++ ['%']) r'.runId.toList = true → FoundBefore db r r' := by
  have hsub : (matchingProblems db root start).Sublist db.runs.rows := List.filter_sublist.trans problems_sublist
  have hnodup : (matchingProblems db root start).Nodup := nodup_problems.filter _
  rw [head?_insertionSort_iff hnodup]
  refine and_congr_right fun hr => ?_
  constructor
  · intro h r' hr' hne hmatch
    obtain ⟨hle, hstored⟩ := h r' (List.mem_filter.mpr ⟨hr', hmatch⟩) hne
    rcases lt_or_eq_of_le hle with hlt | heq
    · exact .inl hlt
    · exact .inr ⟨heq, (hstored heq.ge).trans hsub⟩
  · intro h r' hr' hne
    obtain ⟨hproblem, hmatch⟩ := List.mem_filter.mp hr'
    rcases h r' hproblem hne hmatch with hlt | ⟨heq, hstored⟩
    · exact ⟨hlt.le, fun hback => absurd hlt (not_lt_of_ge hback)⟩
    · refine ⟨heq.le, fun _ => ?_⟩
      refine (pair_sublist_or hr hr' (Ne.symm hne)).resolve_right fun hother => ?_
      exact not_pair_sublist (List.Nodup.of_map _ db.runs.nodup) hstored (hother.trans hsub)

end Lookup

/-! ## Patterns and cursors -/

theorem sqlLike_any (text : List Char) : sqlLike ['%'] text = true := by
  induction text with
  | nil => simp [sqlLike]
  | cons c text ih =>
    rw [sqlLike, ih, Bool.or_true]

/-- `%` stands for no character as well. -/
theorem sqlLike_percent {pattern text : List Char} (h : sqlLike pattern text = true) : sqlLike ('%' :: pattern) text = true := by
  cases text with
  | nil => rwa [sqlLike]
  | cons c text => rw [sqlLike, h, Bool.true_or]

/-- A text is found by its beginning, also where the beginning has wildcards in it. -/
theorem sqlLike_append (start rest : List Char) : sqlLike (start ++ ['%']) (start ++ rest) = true := by
  induction start with
  | nil => exact sqlLike_any rest
  | cons c start ih =>
    rw [List.cons_append, List.cons_append]
    by_cases hpercent : c = '%'
    · subst hpercent
      rw [sqlLike, sqlLike_percent ih, Bool.or_true]
    · by_cases hunder : c = '_'
      · subst hunder
        rw [sqlLike, ih]
      · rw [sqlLike, ih, Bool.and_true, likeChar, beq_self_eq_true]
        · exact hpercent
        · exact hunder

theorem bytePrefix_prefix {n : Nat} {l start : List Char} (h : bytePrefix n l = some start) : ∃ rest, l = start ++ rest := by
  induction l generalizing n start with
  | nil =>
    cases h
    exact ⟨[], rfl⟩
  | cons c l ih =>
    unfold bytePrefix at h
    split at h
    · cases h
      exact ⟨c :: l, rfl⟩
    · split at h
      · obtain ⟨start', hstart, rfl⟩ := Option.map_eq_some_iff.mp h
        obtain ⟨rest, rfl⟩ := ih hstart
        exact ⟨rest, rfl⟩
      · cases h

/-- The least character. -/
def leastChar : Char := '\x00'

theorem not_lt_leastChar (c : Char) : ¬ c < leastChar := by
  rw [Char.lt_def]
  exact fun h => absurd (show c.val.toNat < 0 from h) (Nat.not_lt_zero _)

/-- No text is between a text and the same text with the least character at its end. -/
theorem le_of_lt_append_least {l l' : List Char} (h : l' < l ++ [leastChar]) : ¬ l < l' := by
  induction l generalizing l' with
  | nil =>
    cases l' with
    | nil => exact List.lt_irrefl []
    | cons c l' =>
      rcases List.cons_lt_cons_iff.mp h with hlt | ⟨-, hlt⟩
      · exact absurd hlt (not_lt_leastChar c)
      · exact absurd hlt (List.not_lt_nil _)
  | cons d l ih =>
    cases l' with
    | nil => exact List.not_lt_nil _
    | cons c l' =>
      intro hback
      rcases List.cons_lt_cons_iff.mp h with hlt | ⟨rfl, hlt⟩
      · rcases List.cons_lt_cons_iff.mp hback with hlt' | ⟨heq, -⟩
        · exact lt_asymm hlt hlt'
        · exact hlt.ne' heq
      · rcases List.cons_lt_cons_iff.mp hback with hlt' | ⟨-, hlt'⟩
        · exact lt_irrefl _ hlt'
        · exact ih hlt hlt'

theorem lt_append_least (l : List Char) : l < l ++ [leastChar] := by
  induction l with
  | nil => exact List.nil_lt_cons _ _
  | cons d l ih => exact List.cons_lt_cons_iff.mpr (.inr ⟨rfl, ih⟩)

theorem beforeCursor_iff {cursor key : String × String} :
    beforeCursor (some cursor) key = true ↔ key.1 < cursor.1 ∨ (key.1 = cursor.1 ∧ key.2 < cursor.2) := by
  simp [beforeCursor]

/-- The cursor that stands right before a run in the list. -/
def cursorBefore (r : WorkbenchRun) : String × String := (r.startedAt, r.runId ++ String.ofList [leastChar])

section Pages

variable {db : StoredWorkbench} {root : String}

theorem rowsAfter_cursorBefore {r : WorkbenchRun} (hr : r ∈ db.projectProblems root) :
    (rowsAfter (db.projectProblems root) (fun r => (r.startedAt, r.runId)) (some (cursorBefore r))).head? = some r := by
  rw [rowsAfter, head?_insertionSort_iff (nodup_problems.filter _)]
  have hkey : ∀ b ∈ db.projectProblems root, newestOrder (fun r : WorkbenchRun => (r.startedAt, r.runId)) b r →
      newestOrder (fun r : WorkbenchRun => (r.startedAt, r.runId)) r b → b = r := by
    intro b hb hbr hrb
    refine strict_newestOrder (l := db.projectProblems root) ?_ b hb r hr hbr hrb
    intro a ha c hc heq
    exact problems_apart ha hc (Prod.mk.inj heq).2
  constructor
  · refine List.mem_filter.mpr ⟨hr, ?_⟩
    have hlt : r.runId < r.runId ++ String.ofList [leastChar] := by
      rw [String.lt_iff_toList_lt, String.toList_append, String.toList_ofList]
      exact lt_append_least _
    exact beforeCursor_iff.mpr (.inr ⟨rfl, hlt⟩)
  · intro b hb hne
    obtain ⟨hproblem, hbefore⟩ := List.mem_filter.mp hb
    have hrb : newestOrder (fun r : WorkbenchRun => (r.startedAt, r.runId)) r b := by
      rw [newestOrder, newestFirst_iff]
      rcases beforeCursor_iff.mp hbefore with hlt | ⟨heq, hlt⟩
      · exact .inl hlt
      · refine .inr ⟨heq.symm, not_lt.mp fun hgt => ?_⟩
        rw [cursorBefore, String.lt_iff_toList_lt, String.toList_append, String.toList_ofList] at hlt
        exact le_of_lt_append_least hlt (String.lt_iff_toList_lt.mp hgt)
    exact ⟨hrb, fun hbr => absurd (hkey b hproblem hbr hrb) hne⟩

theorem parseCursor_before {r : WorkbenchRun} (hr : r ∈ db.projectProblems root) :
    Option.map parseCursor (some ((cursorBefore r).1 ++ "|" ++ (cursorBefore r).2)) = (some (cursorBefore r)).map some :=
  congrArg some (parseCursor_of_time (db.runTimes r (problems_sublist.subset hr)) _)

/-- The page of the problems that begins with a run. -/
theorem problemList_before {r : WorkbenchRun} (hr : r ∈ db.projectProblems root) :
    ∃ rest ⊆ db.projectProblems root, ∀ page, (r :: rest).mapM problemSummary = page →
      db.workbenchProblemList root (some ((cursorBefore r).1 ++ "|" ++ (cursorBefore r).2)) 1 = page.bind fun page =>
        .ok ⟨page.take 1, (page.take 1).getLast?.map (fun item => item.recordedAt ++ "|" ++ item.runId), decide (1 < page.length), 1⟩ := by
  obtain ⟨rest, hrest⟩ := List.head?_eq_some_iff.mp (rowsAfter_cursorBefore hr)
  have hsub : rest.take 1 ⊆ db.projectProblems root := by
    intro a ha
    have hafter : a ∈ rowsAfter (db.projectProblems root) (fun r => (r.startedAt, r.runId)) (some (cursorBefore r)) := by
      rw [hrest]
      exact List.mem_cons_of_mem _ (List.mem_of_mem_take ha)
    exact mem_of_mem_rowsAfter hafter
  refine ⟨rest.take 1, hsub, fun page hpage => ?_⟩
  have hclamp : clampPageSize 1 = 1 := by decide
  have hlist : db.workbenchProblemList root (some ((cursorBefore r).1 ++ "|" ++ (cursorBefore r).2)) 1 = _ :=
    projectPage_rows (fun r => (r.startedAt, r.runId)) problemSummary
      (fun item => item.recordedAt ++ "|" ++ item.runId) (parseCursor_before hr) 1
  have hlisted : listed db.runs.rows WorkbenchRun.projectRoot (fun r => r.errorMessage.isSome) root = db.projectProblems root := rfl
  rw [hclamp, hlisted, hrest, List.take_succ_cons, hpage] at hlist
  exact hlist

end Pages

/-! ## Identifiers that are faithful -/

/-- A page of the list shows the problem. -/
def WorkbenchDb.ListsProblem (db : WorkbenchDb) (root : String) (item : ProblemSummary) : Prop :=
  ∃ after pageSize page, db.workbenchProblemList root after pageSize = .ok page ∧ item ∈ page.items

/-- The problems of different runs have different identifiers, the lookup returns what the list shows, and neither panics. -/
structure ProblemsFaithful (db : WorkbenchDb) (root : String) : Prop where
  apart : ∀ item item', db.ListsProblem root item → db.ListsProblem root item' → item.problemId = item'.problemId →
    item.runId = item'.runId
  found : ∀ item, db.ListsProblem root item → db.workbenchProblemGet root item.problemId = .ok (some item)
  list : ∀ after pageSize, db.workbenchProblemList root after pageSize ≠ .error .charBoundary
  get : ∀ problemId, db.workbenchProblemGet root problemId ≠ .error .charBoundary

/-- The id of a run is cut after its eighth byte, the cut does not end like the suffix, and the pattern that it makes matches no other
problem that is found first. -/
def ProblemFound (db : WorkbenchDb) (root : String) (r : WorkbenchRun) : Prop :=
  ∃ start, bytePrefix 8 r.runId.toList = some start ∧ utf8Length start = 8 ∧ ¬ suffixErr.isPrefixOf start.reverse ∧
    ∀ r' ∈ db.projectProblems root, r' ≠ r → sqlLike (start ++ ['%']) r'.runId.toList = true → FoundBefore db r r'

section Faithful

variable {db : StoredWorkbench} {root : String}

/-- Every problem that can be shown is listed. -/
theorem lists_of_shows (hshows : ∀ r ∈ db.projectProblems root, problemSummary r = .ok (problemOf r)) {r : WorkbenchRun}
    (hr : r ∈ db.projectProblems root) : db.ListsProblem root (problemOf r) := by
  obtain ⟨rest, hsub, hpage⟩ := problemList_before hr
  have hrows : (r :: rest).mapM problemSummary = .ok ((r :: rest).map problemOf) := by
    refine mapM_shows fun a ha => ?_
    rcases List.mem_cons.mp ha with rfl | ha
    · exact hshows a hr
    · exact hshows a (hsub ha)
  refine ⟨_, _, _, hpage _ hrows, ?_⟩
  rw [List.map_cons, List.take_succ_cons]
  exact List.mem_cons_self

/-- What is listed is the problem of a run. -/
theorem problem_of_lists {item : ProblemSummary} (h : db.ListsProblem root item) :
    ∃ r ∈ db.projectProblems root, problemSummary r = .ok item := by
  obtain ⟨after, pageSize, page, hpage, hitem⟩ := h
  obtain ⟨cursor, hcursor⟩ := cursor_of_projectPage hpage
  rw [workbenchProblemList, projectPage_rows _ _ _ hcursor] at hpage
  obtain ⟨items, hitems, hmade⟩ := Fallible.bind_eq_ok hpage
  cases hmade
  obtain ⟨r, hr, hshown⟩ := Fallible.mapM_mem _ _ hitems item (List.mem_of_mem_take hitem)
  exact ⟨r, mem_of_mem_rowsAfter (List.mem_of_mem_take hr), hshown⟩

theorem shows_of_faithful (h : ProblemsFaithful db.toWorkbenchDb root) :
    ∀ r ∈ db.projectProblems root, (bytePrefix 8 r.runId.toList).isSome := by
  intro r hr
  obtain ⟨rest, -, hpage⟩ := problemList_before hr
  cases hstart : bytePrefix 8 r.runId.toList with
  | some start => rfl
  | none =>
    have hpanics : (r :: rest).mapM problemSummary = .error .charBoundary := by
      have hfirst : problemSummary r = .error .charBoundary := by
        unfold problemSummary
        rw [hstart]
      rw [List.mapM_cons, hfirst]
      rfl
    exact absurd (hpage _ hpanics) (h.list _ _)

/-- Where every run can be shown, no page panics. -/
theorem list_ne_charBoundary (hshows : ∀ r ∈ db.projectProblems root, problemSummary r = .ok (problemOf r))
    (after : Option String) (pageSize : Nat) : db.workbenchProblemList root after pageSize ≠ .error .charBoundary := by
  intro hpanics
  by_cases hcursor : ∃ cursor : Option (String × String), after.map parseCursor = cursor.map some
  · obtain ⟨cursor, hcursor⟩ := hcursor
    have hshows' : ∀ r ∈ listed db.runs.rows WorkbenchRun.projectRoot (fun r => r.errorMessage.isSome) root,
        problemSummary r = .ok (problemOf r) := hshows
    have hpage := projectPage_eq (fun r => (r.startedAt, r.runId)) (fun item => item.recordedAt ++ "|" ++ item.runId) hcursor
      hshows' pageSize
    exact absurd (hpage.symm.trans hpanics) (by simp)
  · cases after with
    | none => exact hcursor ⟨none, rfl⟩
    | some text =>
      cases hparse : parseCursor text with
      | some parts => exact hcursor ⟨some parts, congrArg some hparse⟩
      | none =>
        simp only [workbenchProblemList, projectPage, hparse] at hpanics
        cases hpanics

/-- The lookup of a problem whose cut is its own pattern. -/
theorem problemGet_start {start : List Char} (hsuffix : ¬ suffixErr.isPrefixOf start.reverse) (hlength : utf8Length start = 8) :
    db.workbenchProblemGet root (String.ofList start ++ "-err") =
      match ((matchingProblems db.toWorkbenchDb root start).insertionSort newestRun).head? with
      | none => .ok none
      | some r => (problemSummary r).map some := by
  rw [problemGet_eq, runPrefixOf_of_not hsuffix, if_neg (by omega)]

theorem problemGet_ne_charBoundary (hshows : ∀ r ∈ db.projectProblems root, problemSummary r = .ok (problemOf r))
    (problemId : String) : db.workbenchProblemGet root problemId ≠ .error .charBoundary := by
  rw [problemGet_eq]
  split
  · exact nofun
  · split
    · exact nofun
    · rename_i r hfirst
      have hmatch : r ∈ matchingProblems db.toWorkbenchDb root (runPrefixOf problemId) :=
        (List.mem_insertionSort newestRun).mp (List.mem_of_mem_head? (Option.mem_def.mpr hfirst))
      rw [hshows r (List.mem_of_mem_filter hmatch)]
      exact nofun

/-- The identifiers of the problems of a project are faithful exactly when each of its runs that has an error is found by the first eight
bytes of its id. -/
theorem problems_faithful_iff (db : StoredWorkbench) (root : String) :
    ProblemsFaithful db.toWorkbenchDb root ↔ ∀ r ∈ db.projectProblems root, ProblemFound db.toWorkbenchDb root r := by
  constructor
  · intro h r hr
    have hshows : ∀ r ∈ db.projectProblems root, WorkbenchDb.problemSummary r = .ok (problemOf r) :=
      fun r hr => problemSummary_eq (shows_of_faithful h r hr)
    obtain ⟨start, hstart⟩ := Option.isSome_iff_exists.mp (shows_of_faithful h r hr)
    have hbound := utf8Length_bytePrefix hstart
    have hid : (problemOf r).problemId = String.ofList start ++ "-err" := by
      rw [problemOf, hstart]
      rfl
    have hget := h.found _ (lists_of_shows hshows hr)
    rw [hid] at hget
    have hlong : ¬ utf8Length (runPrefixOf (String.ofList start ++ "-err")) < 8 := by
      intro hshort
      rw [problemGet_eq, if_pos hshort] at hget
      cases hget
    have hsuffix : ¬ suffixErr.isPrefixOf start.reverse := fun hsuffix => hlong (runPrefixOf_of_suffix hsuffix hbound)
    rw [runPrefixOf_of_not hsuffix] at hlong
    have hlength : utf8Length start = 8 := by omega
    refine ⟨start, hstart, hlength, hsuffix, ?_⟩
    rw [problemGet_start hsuffix hlength] at hget
    cases hfirst : ((matchingProblems db.toWorkbenchDb root start).insertionSort newestRun).head? with
    | none =>
      rw [hfirst] at hget
      cases hget
    | some r₂ =>
      obtain ⟨hmatch, hbefore⟩ := first_matching_iff.mp hfirst
      have hr₂ : r₂ ∈ db.projectProblems root := List.mem_of_mem_filter hmatch
      rw [hfirst] at hget
      dsimp only at hget
      rw [hshows r₂ hr₂] at hget
      have hsame : problemOf r₂ = problemOf r := Option.some.inj (Except.ok.inj hget)
      have heq : r₂ = r := problems_apart hr₂ hr (congrArg ProblemSummary.runId hsame)
      rwa [heq] at hbefore
  · intro h
    have hshows : ∀ r ∈ db.projectProblems root, WorkbenchDb.problemSummary r = .ok (problemOf r) := by
      intro r hr
      obtain ⟨start, hstart, -⟩ := h r hr
      exact problemSummary_eq (by rw [hstart]; rfl)
    have hfound : ∀ r ∈ db.projectProblems root,
        db.workbenchProblemGet root (problemOf r).problemId = .ok (some (problemOf r)) := by
      intro r hr
      obtain ⟨start, hstart, hlength, hsuffix, hbefore⟩ := h r hr
      obtain ⟨rest, hrest⟩ := bytePrefix_prefix hstart
      have hown : r ∈ matchingProblems db.toWorkbenchDb root start := by
        refine List.mem_filter.mpr ⟨hr, ?_⟩
        rw [hrest]
        exact sqlLike_append start rest
      have hid : (problemOf r).problemId = String.ofList start ++ "-err" := by
        rw [problemOf, hstart]
        rfl
      rw [hid, problemGet_start hsuffix hlength, first_matching_iff.mpr ⟨hown, hbefore⟩]
      dsimp only
      rw [hshows r hr]
      rfl
    have hitem : ∀ item, db.ListsProblem root item → ∃ r ∈ db.projectProblems root, item = problemOf r := by
      intro item hlists
      obtain ⟨r, hr, hshown⟩ := problem_of_lists hlists
      rw [hshows r hr] at hshown
      exact ⟨r, hr, (Except.ok.inj hshown).symm⟩
    refine ⟨?_, ?_, list_ne_charBoundary hshows, problemGet_ne_charBoundary hshows⟩
    · intro item item' hlists hlists' hsame
      obtain ⟨r, hr, rfl⟩ := hitem item hlists
      obtain ⟨r', hr', rfl⟩ := hitem item' hlists'
      -- one lookup has one answer
      have hget := hfound r hr
      rw [hsame, hfound r' hr'] at hget
      exact congrArg ProblemSummary.runId (Option.some.inj (Except.ok.inj hget)).symm
    · intro item hlists
      obtain ⟨r, hr, rfl⟩ := hitem item hlists
      exact hfound r hr

end Faithful

/-! ## Two runs with one identifier -/

namespace SampleWorkbench

/-- Two failed runs of project `/a`. -/
def failedTwice (first second : String) (h : first ≠ second) : StoredWorkbench :=
  { failed first with
    runs := ⟨[failedRun first, failedRun second], by simpa [failedRun] using h⟩
    runTimes := by
      intro r hr
      rcases List.mem_pair.mp hr with rfl | rfl
      · exact isTime_start
      · exact isTime_start }

end SampleWorkbench

/-- Two failed runs whose ids begin alike are listed under one identifier, and the lookup never returns the second. -/
theorem problems_share_identifier :
    ¬ ProblemsFaithful (SampleWorkbench.failedTwice "01980000-a" "01980000-b" (by decide)).toWorkbenchDb "/a" := by
  intro h
  have hboth : (SampleWorkbench.failedTwice "01980000-a" "01980000-b" (by decide)).workbenchProblemList "/a" none 10 =
      .ok ⟨[problemOf (SampleWorkbench.failedRun "01980000-b"), problemOf (SampleWorkbench.failedRun "01980000-a")],
        some "2026-08-01T00:00:00+00:00|01980000-a", false, 10⟩ := by decide
  have hsame := h.apart (problemOf (SampleWorkbench.failedRun "01980000-a")) (problemOf (SampleWorkbench.failedRun "01980000-b"))
    ⟨_, _, _, hboth, by simp⟩ ⟨_, _, _, hboth, by simp⟩ (by decide)
  exact absurd hsame (by decide)

end Rho
