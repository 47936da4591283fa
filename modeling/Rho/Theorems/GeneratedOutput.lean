import Mathlib.Data.List.ReduceOption
import Mathlib.Data.Set.Card
import Rho.Lib.Rows
import Rho.Server.GeneratedOutput

/-!
# Generated outputs against the project

A walk lists the files of a sweep of the project up to the limits. What a delta says holds of the two projects unless the walk before
the run left a file out, and the walk after it came to that file. This happens to a project with more files than a walk takes: when
one of them is removed during a run, an old file that had no place in the first list has one in the second and is recorded as created,
with complete provenance.
-/

namespace Rho

open OrdMap

open FileName (toAsciiLowercase slashed)

/-! ## The files of a project -/

/-- A regular file, under the names of its directories and its own. -/
inductive Holds : List (String × ProjectNode) → List String → FileMetadata → Prop where
  | file {entries : List (String × ProjectNode)} {name : String} {metadata : FileMetadata}
      (h : (name, ProjectNode.file metadata) ∈ entries) : Holds entries [name] metadata
  | directory {entries inner : List (String × ProjectNode)} {name : String} {names : List String} {metadata : FileMetadata}
      (h : (name, ProjectNode.directory inner) ∈ entries) (hinner : Holds inner names metadata) : Holds entries (name :: names) metadata

/-- The project has a regular file of this path, with this size and time. -/
def ProjectTree.Stands (t : ProjectTree) (path : String) (signature : GeneratedOutputSignature) : Prop :=
  ∃ names metadata, Holds t.entries names metadata ∧ slashed names = path ∧ metadata.signature = signature

/-- What the delta says is true of the project before the run and after it. -/
def GeneratedOutputDelta.TrueOf (d : GeneratedOutputDelta) (before after : ProjectTree) : Prop :=
  after.Stands d.path d.signature ∧
    match d.changeKind with
    | .created => ∀ signature, ¬ before.Stands d.path signature
    | .modified => ∃ signature, before.Stands d.path signature ∧ signature ≠ d.signature

/-! ## The sweep of a project

The entries that a walk without a limit on their number goes through, in its order. -/

/-- A counted entry, with the file that it adds to the list. -/
abbrev Visit := Option (String × GeneratedOutputSignature)

def visitOf (faults : ScanFaults) (directory : List String) : String × ProjectNode → Visit
  | (name, .file metadata) =>
    if !faults.fileType (directory ++ [name]) && generatedOutputExtension name && !faults.metadata (directory ++ [name]) then
      some (slashed (directory ++ [name]), metadata.signature)
    else none
  | _ => none

/-- The entries of a directory that is entered. -/
def enteredOf (faults : ScanFaults) (directory : List String) : String × ProjectNode → Option (List (String × ProjectNode))
  | (name, .directory entries) =>
    if !faults.fileType (directory ++ [name]) && !ignoredGeneratedOutputDirectory name && !faults.canonicalize (directory ++ [name]) then
      some entries
    else none
  | _ => none

def sweepFrom (faults : ScanFaults) : Nat → List String → List (String × ProjectNode) → List Visit
  | 0, _, _ => []
  | levels + 1, directory, entries =>
    if faults.readDir directory then []
    else (listedEntries faults directory entries).flatMap (fun e =>
      visitOf faults directory e ::
        match enteredOf faults directory e with
        | some inner => sweepFrom faults levels (directory ++ [e.1]) inner
        | none => [])

def ProjectTree.sweep (t : ProjectTree) : List Visit :=
  if t.faults.canonicalizeRoot then [] else sweepFrom t.faults (maxGeneratedOutputDepth + 1) [] t.entries

/-- After these visits the limits allow another one. -/
def Within (visits : List Visit) : Prop :=
  visits.length < maxGeneratedOutputEntries ∧ (visits.reduceOption.map Prod.fst).toFinset.card < maxGeneratedOutputFiles

instance : DecidablePred Within := fun _ => instDecidableAnd

/-- A visit within the limits, and the last of them with its path. -/
def ReachedIn (visits : List Visit) (path : String) (signature : GeneratedOutputSignature) : Prop :=
  ∃ i, visits[i]? = some (some (path, signature)) ∧ Within (visits.take i) ∧
    ∀ j, i < j → ∀ signature', visits[j]? = some (some (path, signature')) → ¬ Within (visits.take j)

def ProjectTree.Reached (t : ProjectTree) : String → GeneratedOutputSignature → Prop := ReachedIn t.sweep

/-- A file of the project that its walk does not come to. -/
def ProjectTree.LeftOut (t : ProjectTree) (path : String) : Prop :=
  (∃ signature, t.Stands path signature) ∧ ∀ signature, ¬ t.Reached path signature

/-! ## The walk follows the sweep -/

namespace OutputScan

/-- The state but for the mark of a limit. -/
def unmarked (s : OutputScan) : OutputScan := { s with snapshot := { s.snapshot with truncated := false } }

/-- What a visit makes of the state. -/
def visit (s : OutputScan) (v : Visit) : OutputScan :=
  if s.full then s
  else
    match v with
    | none => s.count
    | some (path, signature) => s.count.insert path signature

@[simp] theorem full_unmarked (s : OutputScan) : s.unmarked.full = s.full := rfl

@[simp] theorem unmarked_truncate (s : OutputScan) : s.truncate.unmarked = s.unmarked := rfl

@[simp] theorem unmarked_count (s : OutputScan) : s.count.unmarked = s.unmarked.count := rfl

@[simp] theorem unmarked_insert (path : String) (signature : GeneratedOutputSignature) (s : OutputScan) :
    (s.insert path signature).unmarked = s.unmarked.insert path signature := rfl

theorem visit_of_full {s : OutputScan} (h : s.full = true) (v : Visit) : s.visit v = s := if_pos h

theorem foldl_visit_of_full {s : OutputScan} (h : s.full = true) (visits : List Visit) : visits.foldl visit s = s := by
  induction visits with
  | nil => rfl
  | cons v visits ih => rw [List.foldl_cons, visit_of_full h, ih]

end OutputScan

open OutputScan

/-- What the body of the loop does is the visit of the entry, and the sweep of its directory if it is entered. -/
theorem unmarked_scanEntry {collect : List String → List (String × ProjectNode) → OutputScan → OutputScan}
    {swept : List String → List (String × ProjectNode) → List Visit} (faults : ScanFaults) (directory : List String)
    (hcollect : ∀ path entries s, (collect path entries s).unmarked = (swept path entries).foldl visit s.unmarked)
    (e : String × ProjectNode) {s : OutputScan} (hfull : ¬ s.full = true) :
    (scanEntry collect faults directory e s.count).unmarked = (visitOf faults directory e ::
        match enteredOf faults directory e with
        | some inner => swept (directory ++ [e.1]) inner
        | none => []).foldl visit s.unmarked := by
  have hvisit : ∀ v, s.unmarked.visit v = match v with
      | none => s.unmarked.count
      | some (path, signature) => s.unmarked.count.insert path signature := by
    intro v
    exact if_neg (by rwa [full_unmarked])
  rw [List.foldl_cons, hvisit]
  obtain ⟨name, node⟩ := e
  unfold scanEntry
  cases node with
  | file metadata =>
    simp only [visitOf, enteredOf, List.foldl_nil]
    cases faults.fileType (directory ++ [name]) <;> cases generatedOutputExtension name <;>
      cases faults.metadata (directory ++ [name]) <;> simp
  | directory inner =>
    simp only [visitOf, enteredOf]
    cases faults.fileType (directory ++ [name]) <;> cases ignoredGeneratedOutputDirectory name <;>
      cases faults.canonicalize (directory ++ [name]) <;> simp [hcollect]
  | symlink =>
    simp only [visitOf, enteredOf, List.foldl_nil]
    cases faults.fileType (directory ++ [name]) <;> simp
  | other =>
    simp only [visitOf, enteredOf, List.foldl_nil]
    cases faults.fileType (directory ++ [name]) <;> simp

theorem unmarked_scanEntries {collect : List String → List (String × ProjectNode) → OutputScan → OutputScan}
    {swept : List String → List (String × ProjectNode) → List Visit} (faults : ScanFaults) (directory : List String)
    (hcollect : ∀ path entries s, (collect path entries s).unmarked = (swept path entries).foldl visit s.unmarked)
    (entries : List (String × ProjectNode)) (s : OutputScan) :
    (scanEntries collect faults directory entries s).unmarked = (entries.flatMap (fun e =>
        visitOf faults directory e ::
          match enteredOf faults directory e with
          | some inner => swept (directory ++ [e.1]) inner
          | none => [])).foldl visit s.unmarked := by
  induction entries generalizing s with
  | nil => rfl
  | cons e entries ih =>
    unfold scanEntries
    split
    · rename_i hfull
      rw [unmarked_truncate, foldl_visit_of_full (by rwa [full_unmarked])]
    · rename_i hfull
      rw [ih, unmarked_scanEntry faults directory hcollect e hfull, List.flatMap_cons, List.foldl_append]

theorem unmarked_collect (faults : ScanFaults) (levels : Nat) (directory : List String) (entries : List (String × ProjectNode))
    (s : OutputScan) : (collectGeneratedOutputFiles faults levels directory entries s).unmarked =
      (sweepFrom faults levels directory entries).foldl visit s.unmarked := by
  induction levels generalizing directory entries s with
  | zero => rfl
  | succ levels ih =>
    unfold collectGeneratedOutputFiles sweepFrom
    split
    · rename_i hfull
      rw [unmarked_truncate, foldl_visit_of_full (by rwa [full_unmarked])]
    split
    · rfl
    · exact unmarked_scanEntries faults directory ih _ s

theorem files_capture (t : ProjectTree) :
    (captureGeneratedOutputSnapshot t).files = (t.sweep.foldl visit {}).snapshot.files := by
  unfold captureGeneratedOutputSnapshot ProjectTree.sweep
  split
  · rfl
  · have h := congrArg (fun s => s.snapshot.files) (unmarked_collect t.faults (maxGeneratedOutputDepth + 1) [] t.entries {})
    exact h

/-! ## What a walk lists -/

theorem Within.mono {xs ys : List Visit} (h : Within (xs ++ ys)) : Within xs := by
  obtain ⟨hlength, hcard⟩ := h
  constructor
  · rw [List.length_append] at hlength
    omega
  · refine lt_of_le_of_lt (Finset.card_le_card ?_) hcard
    intro path hpath
    rw [List.mem_toFinset] at hpath ⊢
    rw [List.reduceOption_append, List.map_append]
    exact List.mem_append_left _ hpath

/-- The last visit counts where the limits allow it, and nothing changes where they do not. -/
theorem reachedIn_concat (visits : List Visit) (v : Visit) (path : String) (signature : GeneratedOutputSignature) :
    ReachedIn (visits ++ [v]) path signature ↔
      if Within visits ∧ v.map Prod.fst = some path then v = some (path, signature) else ReachedIn visits path signature := by
  have hlast : (visits ++ [v])[visits.length]? = some v := List.getElem?_concat_length
  have htake : (visits ++ [v]).take visits.length = visits := List.take_left
  have hold : ∀ i, i < visits.length → (visits ++ [v])[i]? = visits[i]? ∧ (visits ++ [v]).take i = visits.take i := fun i hi =>
    ⟨List.getElem?_append_left hi, List.take_append_of_le_length hi.le⟩
  have hpast : ∀ i w, (visits ++ [v])[i]? = some w → i ≤ visits.length := by
    intro i w h
    have := (List.getElem?_eq_some_iff.mp h).1
    rw [List.length_append, List.length_singleton] at this
    omega
  split
  · rename_i h
    obtain ⟨hwithin, hv⟩ := h
    obtain ⟨⟨path', signature'⟩, rfl, hpath⟩ := Option.map_eq_some_iff.mp hv
    obtain rfl : path' = path := hpath
    constructor
    · rintro ⟨i, hi, -, hlater⟩
      rcases Nat.lt_or_eq_of_le (hpast i _ hi) with hlt | rfl
      · exact absurd (htake.symm ▸ hwithin) (hlater visits.length hlt signature' hlast)
      · rw [hlast] at hi
        exact Option.some.inj hi
    · intro heq
      refine ⟨visits.length, heq ▸ hlast, htake.symm ▸ hwithin, ?_⟩
      intro j hj _ hget
      exact absurd (hpast j _ hget) (by omega)
  · rename_i h
    constructor
    · rintro ⟨i, hi, hwithin, hlater⟩
      rcases Nat.lt_or_eq_of_le (hpast i _ hi) with hlt | rfl
      · obtain ⟨hget, htake'⟩ := hold i hlt
        refine ⟨i, hget ▸ hi, htake' ▸ hwithin, ?_⟩
        intro j hj signature' hj'
        obtain ⟨hget', htake'⟩ := hold j (List.getElem?_eq_some_iff.mp hj').1
        exact htake' ▸ hlater j hj signature' (hget'.trans hj')
      · rw [hlast] at hi
        rw [htake] at hwithin
        exact absurd ⟨hwithin, by rw [Option.some.inj hi]; rfl⟩ h
    · rintro ⟨i, hi, hwithin, hlater⟩
      have hlt := (List.getElem?_eq_some_iff.mp hi).1
      obtain ⟨hget, htake'⟩ := hold i hlt
      refine ⟨i, hget.trans hi, htake'.symm ▸ hwithin, ?_⟩
      intro j hj signature' hj'
      rcases Nat.lt_or_eq_of_le (hpast j _ hj') with hlt | rfl
      · obtain ⟨hget', htake'⟩ := hold j hlt
        exact htake'.symm ▸ hlater j hj signature' (hget'.symm.trans hj')
      · rw [hlast] at hj'
        rw [htake]
        intro hwithin
        exact h ⟨hwithin, by rw [Option.some.inj hj']; rfl⟩

/-- The state of a walk after visits: it counts them and keeps their files, as long as the limits allow another visit. -/
structure Scanned (visits : List Visit) (s : OutputScan) : Prop where
  sorted : OrdMap.Sorted s.snapshot.files
  full : s.full = true ↔ ¬ Within visits
  count : Within visits → s.scannedEntries = visits.length
  paths : Within visits → ∀ path, path ∈ s.snapshot.files.map Prod.fst ↔ path ∈ visits.reduceOption.map Prod.fst
  files : ∀ path signature, OrdMap.get s.snapshot.files path = some signature ↔ ReachedIn visits path signature

theorem scanned_nil : Scanned [] {} where
  sorted := List.Pairwise.nil
  full := by decide
  count _ := rfl
  paths _ _ := Iff.rfl
  files path signature := by
    constructor
    · intro h
      cases h
    · rintro ⟨i, hi, -⟩
      cases hi

/-- The limits as the walk counts them. -/
theorem full_iff {visits : List Visit} {s : OutputScan} (hsorted : OrdMap.Sorted s.snapshot.files) (hcount : s.scannedEntries = visits.length)
    (hpaths : ∀ path, path ∈ s.snapshot.files.map Prod.fst ↔ path ∈ visits.reduceOption.map Prod.fst) :
    s.full = true ↔ ¬ Within visits := by
  have hcard : (visits.reduceOption.map Prod.fst).toFinset.card = s.snapshot.files.length := by
    rw [← @List.length_map _ _ s.snapshot.files Prod.fst, ← List.toFinset_card_of_nodup hsorted.nodup_keys]
    congr 1
    ext path
    rw [List.mem_toFinset, List.mem_toFinset, hpaths]
  rw [OutputScan.full, Within, hcard, hcount, Bool.or_eq_true, decide_eq_true_iff, decide_eq_true_iff]
  omega

theorem scanned_visit {visits : List Visit} {s : OutputScan} (h : Scanned visits s) (v : Visit) :
    Scanned (visits ++ [v]) (s.visit v) := by
  by_cases hwithin : Within visits
  · have hfull : ¬ s.full = true := fun hf => h.full.mp hf hwithin
    have hcount := h.count hwithin
    have hpaths := h.paths hwithin
    cases v with
    | none =>
      have hvisit : s.visit none = s.count := if_neg hfull
      have hsum : s.count.scannedEntries = (visits ++ [none]).length := by
        rw [List.length_append, ← hcount]
        rfl
      have hsame : ∀ path, path ∈ s.count.snapshot.files.map Prod.fst ↔ path ∈ (visits ++ [none]).reduceOption.map Prod.fst := by
        intro path
        rw [List.reduceOption_append, List.map_append, List.mem_append, ← hpaths]
        exact (or_iff_left List.not_mem_nil).symm
      rw [hvisit]
      refine ⟨h.sorted, full_iff h.sorted hsum hsame, fun _ => hsum, fun _ => hsame, ?_⟩
      intro path signature
      rw [reachedIn_concat, if_neg (by simp)]
      exact h.files path signature
    | some file =>
      obtain ⟨path₁, signature₁⟩ := file
      have hvisit : s.visit (some (path₁, signature₁)) = s.count.insert path₁ signature₁ := if_neg hfull
      have hsorted : OrdMap.Sorted (s.count.insert path₁ signature₁).snapshot.files := sorted_insert _ _ h.sorted
      have hsum : (s.count.insert path₁ signature₁).scannedEntries = (visits ++ [some (path₁, signature₁)]).length := by
        rw [List.length_append, ← hcount]
        rfl
      have hsame : ∀ path, path ∈ (s.count.insert path₁ signature₁).snapshot.files.map Prod.fst ↔
          path ∈ (visits ++ [some (path₁, signature₁)]).reduceOption.map Prod.fst := by
        intro path
        rw [List.reduceOption_append, List.map_append, List.mem_append, ← hpaths, ← not_iff_not, ← get_eq_none_iff, not_or,
          ← get_eq_none_iff]
        change get (insert path₁ signature₁ s.snapshot.files) path = none ↔ _
        rw [get_insert]
        by_cases heq : path₁ = path
        · simp [heq]
        · simp [heq, Ne.symm heq]
      rw [hvisit]
      refine ⟨hsorted, full_iff hsorted hsum hsame, fun _ => hsum, fun _ => hsame, ?_⟩
      intro path signature
      rw [reachedIn_concat]
      change get (insert path₁ signature₁ s.snapshot.files) path = some signature ↔ _
      rw [get_insert]
      by_cases heq : path₁ = path
      · simp [heq, hwithin]
      · simp [heq, h.files]
  · have hfull := h.full.mpr hwithin
    have hafter : ¬ Within (visits ++ [v]) := fun hw => hwithin hw.mono
    rw [visit_of_full hfull]
    refine ⟨h.sorted, iff_of_true hfull hafter, fun hw => absurd hw hafter, fun hw => absurd hw hafter, ?_⟩
    intro path signature
    rw [reachedIn_concat, if_neg (fun hand => hwithin hand.1)]
    exact h.files path signature

theorem scanned_foldl (visits : List Visit) : Scanned visits (visits.foldl visit {}) := by
  induction visits using List.reverseRecOn with
  | nil => exact scanned_nil
  | append_singleton visits v ih =>
    rw [List.foldl_append]
    exact scanned_visit ih v

theorem sorted_capture (t : ProjectTree) : OrdMap.Sorted (captureGeneratedOutputSnapshot t).files := by
  rw [files_capture]
  exact (scanned_foldl t.sweep).sorted

/-- The snapshot lists exactly the files that the walk reaches. -/
theorem get_capture_iff (t : ProjectTree) (path : String) (signature : GeneratedOutputSignature) :
    get (captureGeneratedOutputSnapshot t).files path = some signature ↔ t.Reached path signature := by
  rw [files_capture]
  exact (scanned_foldl t.sweep).files path signature

/-! ## What is reached stands -/

theorem mem_listedEntries {faults : ScanFaults} {directory : List String} {entries : List (String × ProjectNode)}
    {e : String × ProjectNode} (h : e ∈ listedEntries faults directory entries) : e ∈ entries :=
  List.mem_of_mem_filter ((List.mem_insertionSort _).mp h)

theorem holds_of_mem_sweepFrom {faults : ScanFaults} {path : String} {signature : GeneratedOutputSignature} :
    ∀ {levels : Nat} {directory : List String} {entries : List (String × ProjectNode)},
      some (path, signature) ∈ sweepFrom faults levels directory entries →
        ∃ names metadata, Holds entries names metadata ∧ slashed (directory ++ names) = path ∧ metadata.signature = signature
  | 0, _, _, h => absurd h List.not_mem_nil
  | levels + 1, directory, entries, h => by
    unfold sweepFrom at h
    split at h
    · exact absurd h List.not_mem_nil
    obtain ⟨⟨name, node⟩, hlisted, h⟩ := List.mem_flatMap.mp h
    have hmem := mem_listedEntries hlisted
    rcases List.mem_cons.mp h with h | h
    · cases node with
      | file metadata =>
        rw [visitOf] at h
        split at h
        · cases h
          exact ⟨[name], metadata, .file hmem, rfl, rfl⟩
        · cases h
      | directory inner => cases h
      | symlink => cases h
      | other => cases h
    · cases node with
      | directory inner =>
        simp only [enteredOf] at h
        split at h
        · rename_i hentered
          split at hentered
          · cases hentered
            obtain ⟨names, metadata, hholds, hpath, hsignature⟩ := holds_of_mem_sweepFrom h
            rw [List.append_assoc] at hpath
            exact ⟨name :: names, metadata, .directory hmem hholds, hpath, hsignature⟩
          · cases hentered
        · exact absurd h List.not_mem_nil
      | file metadata => exact absurd h List.not_mem_nil
      | symlink => exact absurd h List.not_mem_nil
      | other => exact absurd h List.not_mem_nil

theorem ProjectTree.Reached.stands {t : ProjectTree} {path : String} {signature : GeneratedOutputSignature}
    (h : t.Reached path signature) : t.Stands path signature := by
  obtain ⟨i, hi, -⟩ := h
  have hmem := List.mem_of_getElem? hi
  rw [ProjectTree.sweep] at hmem
  split at hmem
  · exact absurd hmem List.not_mem_nil
  · obtain ⟨names, metadata, hholds, hpath, hsignature⟩ := holds_of_mem_sweepFrom hmem
    exact ⟨names, metadata, hholds, hpath, hsignature⟩

/-! ## Which files have a delta -/

/-- The walk after the run reaches the file, and the one before it did not reach it as it is now. -/
def Changed (before after : ProjectTree) (path : String) : Prop :=
  ∃ signature, after.Reached path signature ∧ ¬ before.Reached path signature

section Deltas

variable (before after : ProjectTree)

def changedFiles : List GeneratedOutputDelta :=
  (captureGeneratedOutputSnapshot after).files.filterMap (fileDelta (captureGeneratedOutputSnapshot before))

variable {before after}

theorem fileDelta_eq_some_iff {file : String × GeneratedOutputSignature} {d : GeneratedOutputDelta} :
    fileDelta (captureGeneratedOutputSnapshot before) file = some d ↔ d.path = file.1 ∧ d.signature = file.2 ∧
        match d.changeKind with
        | .created => ∀ signature, ¬ before.Reached file.1 signature
        | .modified => ∃ signature, before.Reached file.1 signature ∧ signature ≠ file.2 := by
  obtain ⟨path, signature⟩ := file
  obtain ⟨path', kind, signature'⟩ := d
  simp only [fileDelta, ← get_capture_iff]
  cases get (captureGeneratedOutputSnapshot before).files path with
  | none => cases kind <;> simp [eq_comm]
  | some previous =>
    by_cases hsame : previous = signature
    · cases kind <;> simp [hsame]
    · cases kind <;> simp [hsame, Ne.symm hsame, eq_comm]

theorem mem_changedFiles_iff {d : GeneratedOutputDelta} : d ∈ changedFiles before after ↔
      after.Reached d.path d.signature ∧ match d.changeKind with
        | .created => ∀ signature, ¬ before.Reached d.path signature
        | .modified => ∃ signature, before.Reached d.path signature ∧ signature ≠ d.signature := by
  unfold changedFiles
  rw [List.mem_filterMap]
  constructor
  · rintro ⟨⟨path, signature⟩, hmem, hdelta⟩
    obtain ⟨hpath, hsignature, hkind⟩ := fileDelta_eq_some_iff.mp hdelta
    rw [(sorted_capture after).mem_iff_get, get_capture_iff] at hmem
    rw [hpath, hsignature]
    exact ⟨hmem, hkind⟩
  · rintro ⟨hreached, hkind⟩
    refine ⟨(d.path, d.signature), ?_, fileDelta_eq_some_iff.mpr ⟨rfl, rfl, hkind⟩⟩
    rw [(sorted_capture after).mem_iff_get, get_capture_iff]
    exact hreached

theorem ProjectTree.Reached.unique {t : ProjectTree} {path : String} {s s' : GeneratedOutputSignature} (h : t.Reached path s)
    (h' : t.Reached path s') : s = s' := by
  rw [← get_capture_iff] at h h'
  exact Option.some.inj (h.symm.trans h')

theorem exists_changedFile_iff {path : String} : (∃ d ∈ changedFiles before after, d.path = path) ↔ Changed before after path := by
  constructor
  · rintro ⟨d, hd, rfl⟩
    obtain ⟨hreached, hkind⟩ := mem_changedFiles_iff.mp hd
    refine ⟨d.signature, hreached, ?_⟩
    intro hbefore
    split at hkind
    · exact hkind _ hbefore
    · obtain ⟨signature, hsignature, hne⟩ := hkind
      exact hne (hsignature.unique hbefore)
  · rintro ⟨signature, hreached, hbefore⟩
    by_cases h : ∃ signature', before.Reached path signature'
    · obtain ⟨signature', hold⟩ := h
      refine ⟨⟨path, .modified, signature⟩, mem_changedFiles_iff.mpr ⟨hreached, signature', hold, ?_⟩, rfl⟩
      rintro rfl
      exact hbefore hold
    · exact ⟨⟨path, .created, signature⟩, mem_changedFiles_iff.mpr ⟨hreached, fun s hs => h ⟨s, hs⟩⟩, rfl⟩

/-- The deltas are in the order of their paths, and each path has one. -/
theorem sorted_changedFiles : (changedFiles before after).Pairwise (fun d d' => d.path < d'.path) := by
  refine List.Pairwise.filterMap _ ?_ (sorted_capture after)
  intro file file' hlt d hd d' hd'
  rw [(fileDelta_eq_some_iff.mp hd).1, (fileDelta_eq_some_iff.mp hd').1]
  exact hlt

/-- A delta is among the first as long as few enough changed files come before it. -/
theorem mem_take_changedFiles_iff {n : Nat} {d : GeneratedOutputDelta} (hd : d ∈ changedFiles before after) :
    d ∈ (changedFiles before after).take n ↔ {path | Changed before after path ∧ path < d.path}.ncard < n := by
  obtain ⟨l, l', hsplit⟩ := List.append_of_mem hd
  have hsorted : (changedFiles before after).Pairwise (fun a b => a.path < b.path) := sorted_changedFiles
  rw [hsplit] at hsorted
  obtain ⟨hl, hrest, hbefore⟩ := List.pairwise_append.mp hsorted
  obtain ⟨hafter, -⟩ := List.pairwise_cons.mp hrest
  have hset : {path | Changed before after path ∧ path < d.path} = ((l.map (·.path)).toFinset : Set String) := by
    ext path
    rw [Set.mem_ofPred_eq, Finset.mem_coe, List.mem_toFinset, List.mem_map, ← exists_changedFile_iff, hsplit]
    constructor
    · rintro ⟨⟨d', hd', rfl⟩, hlt⟩
      rcases List.mem_append.mp hd' with hmem | hmem
      · exact ⟨d', hmem, rfl⟩
      rcases List.mem_cons.mp hmem with rfl | hmem
      · exact absurd hlt (lt_irrefl _)
      · exact absurd hlt (lt_asymm (hafter d' hmem))
    · rintro ⟨d', hd', rfl⟩
      exact ⟨⟨d', List.mem_append_left _ hd', rfl⟩, hbefore d' hd' d List.mem_cons_self⟩
  have hnodup : (l.map (·.path)).Nodup := List.pairwise_map.mpr (hl.imp (fun hlt => ne_of_lt hlt))
  rw [hset, Set.ncard_coe_finset, List.toFinset_card_of_nodup hnodup, List.length_map, hsplit]
  constructor
  · intro h
    rw [← Nat.not_le]
    intro hle
    rw [List.take_append_of_le_length hle] at h
    exact lt_irrefl _ (hbefore d (List.mem_of_mem_take h) d List.mem_cons_self)
  · intro h
    obtain ⟨k, rfl⟩ : ∃ k, n = l.length + (k + 1) := ⟨n - l.length - 1, by omega⟩
    rw [List.take_length_add_append, List.take_succ_cons]
    exact List.mem_append_right _ List.mem_cons_self

end Deltas

/-! ## The records of a run -/

namespace OutputRun

variable (run : OutputRun)

/-- How many deltas are recorded at most: none for a request that is no execution or has failed. -/
def slots : Nat :=
  if run.requestType = "workspace.execute" ∧ workspaceResultFailed run.result = false then min run.stored maxGeneratedOutputRecords else 0

/-- The deltas that are recorded are true, and so are those that are recorded with complete provenance after a walk was cut. -/
def Faithful (sha256Hex : String → String) : Prop :=
  ∀ d ∈ run.recorded,
    d.TrueOf run.before run.after ∧
      (run.scanTruncated = true → (run.artifact sha256Hex d).provenanceComplete = true → d.TrueOf run.before run.after)

/-- A file that the walk before the run left out and the walk after it reaches has too many changed files before it. -/
def LeftOutUnrecorded : Prop :=
  ∀ path, run.before.LeftOut path → ∀ signature, run.after.Reached path signature →
    run.slots ≤ {path' | Changed run.before run.after path' ∧ path' < path}.ncard

variable {run}

theorem recorded_eq : run.recorded = (changedFiles run.before run.after).take run.slots := by
  unfold recorded deltas generatedOutputBefore generatedOutputAfter slots
  by_cases htype : run.requestType = "workspace.execute"
  · cases hfailed : workspaceResultFailed run.result with
    | true => simp [htype]
    | false => simp [htype, generatedOutputDeltas, changedFiles, List.take_take]
  · simp [htype]

theorem recorded_true_iff : (∀ d ∈ run.recorded, d.TrueOf run.before run.after) ↔ run.LeftOutUnrecorded := by
  rw [recorded_eq]
  constructor
  · intro h path hleft signature hreached
    obtain ⟨⟨signature', hstands⟩, hnot⟩ := hleft
    have hd : ⟨path, .created, signature⟩ ∈ changedFiles run.before run.after := mem_changedFiles_iff.mpr ⟨hreached, hnot⟩
    rw [← Nat.not_lt]
    intro hlt
    exact (h _ ((mem_take_changedFiles_iff hd).mpr hlt)).2 signature' hstands
  · intro h d hd
    have hmem := List.mem_of_mem_take hd
    have hfew := (mem_take_changedFiles_iff hmem).mp hd
    obtain ⟨hreached, hkind⟩ := mem_changedFiles_iff.mp hmem
    refine ⟨hreached.stands, ?_⟩
    split at hkind
    · intro signature hstands
      exact absurd hfew (Nat.not_lt.mpr (h d.path ⟨⟨signature, hstands⟩, hkind⟩ _ hreached))
    · obtain ⟨signature, hbefore, hne⟩ := hkind
      exact ⟨signature, hbefore.stands, hne⟩

end OutputRun

/-- For every request and every project before and after it, the recorded deltas are true exactly when no file that the walk before the
run left out has a place among the files that are recorded. -/
theorem generated_outputs_faithful_iff (sha256Hex : String → String) (run : OutputRun) :
    run.Faithful sha256Hex ↔ run.LeftOutUnrecorded := by
  rw [← OutputRun.recorded_true_iff]
  constructor
  · intro h d hd
    exact (h d hd).1
  · intro h d hd
    exact ⟨h d hd, fun _ _ => h d hd⟩

/-! ## A crowded project -/

/-- A project whose only entries are files of these names, alike in size and time. -/
def filesOnly (m : FileMetadata) (names : List String) : ProjectTree := { entries := names.map (fun n => (n, .file m)) }

section FilesOnly

variable {m : FileMetadata} {names : List String} (hsorted : names.Pairwise (fun a b => toAsciiLowercase a ≤ toAsciiLowercase b))
  (hnames : ∀ n ∈ names, generatedOutputExtension n = true ∧ slashed [n] = n)

include hsorted hnames

theorem sweep_filesOnly : (filesOnly m names).sweep = names.map (fun n => some (n, m.signature)) := by
  have hlisted : listedEntries (filesOnly m names).faults [] (filesOnly m names).entries = names.map (fun n => (n, .file m)) := by
    have hall : (filesOnly m names).entries.filter (fun e => !(filesOnly m names).faults.dirEntry ([] ++ [e.1])) =
        names.map (fun n => (n, .file m)) := List.filter_eq_self.mpr (fun _ _ => rfl)
    rw [listedEntries, hall]
    exact List.Pairwise.insertionSort_eq (List.pairwise_map.mpr hsorted)
  change List.flatMap _ (listedEntries (filesOnly m names).faults [] (filesOnly m names).entries) = _
  rw [hlisted, List.flatMap_map, List.map_eq_flatMap]
  refine List.flatMap_congr (fun n hn => ?_)
  simp [filesOnly, visitOf, enteredOf, hnames n hn]

theorem reached_filesOnly_iff (hnodup : names.Nodup) {path : String} {signature : GeneratedOutputSignature} :
    (filesOnly m names).Reached path signature ↔ signature = m.signature ∧ path ∈ names.take maxGeneratedOutputFiles := by
  have hget : ∀ (i : Nat) path signature, (names.map (fun n => some (n, m.signature)))[i]? = some (some (path, signature)) ↔
      names[i]? = some path ∧ signature = m.signature := by
    intro i path signature
    rw [List.getElem?_map]
    cases names[i]? with
    | none => simp
    | some n => simp [eq_comm]
  have hwithin : ∀ i, i < names.length →
      (Within ((names.map (fun n => some (n, m.signature))).take i) ↔ i < maxGeneratedOutputFiles) := by
    intro i hi
    have hkeys : ((names.map (fun n => some (n, m.signature))).take i).reduceOption.map Prod.fst = names.take i := by
      rw [← List.map_take]
      generalize names.take i = l
      induction l with
      | nil => rfl
      | cons n l ih => rw [List.map_cons, List.reduceOption_cons_of_some, List.map_cons, ih]
    rw [Within, hkeys, List.toFinset_card_of_nodup (hnodup.sublist (List.take_sublist i names)), List.length_take, List.length_take,
      List.length_map, Nat.min_eq_left hi.le]
    simp only [maxGeneratedOutputEntries, maxGeneratedOutputFiles]
    omega
  rw [ProjectTree.Reached, sweep_filesOnly hsorted hnames, List.mem_take_iff_getElem]
  constructor
  · rintro ⟨i, hi, hw, -⟩
    obtain ⟨hpath, hsignature⟩ := (hget i _ _).mp hi
    obtain ⟨hlt, hpath⟩ := List.getElem?_eq_some_iff.mp hpath
    exact ⟨hsignature, i, lt_min ((hwithin i hlt).mp hw) hlt, hpath⟩
  · rintro ⟨rfl, i, hi, hpath⟩
    obtain ⟨hfew, hlt⟩ := lt_min_iff.mp hi
    have hpath := List.getElem?_eq_some_iff.mpr ⟨hlt, hpath⟩
    refine ⟨i, (hget i _ _).mpr ⟨hpath, rfl⟩, (hwithin i hlt).mpr hfew, ?_⟩
    intro j hj _ hj'
    have hsame := (List.getElem?_inj hlt hnodup).mp (hpath.trans ((hget j _ _).mp hj').1.symm)
    exact absurd hsame (Nat.ne_of_lt hj)

end FilesOnly

def plotDigit (n : Nat) : Char := Char.ofNat (48 + n)

def plotName (i : Nat) : String :=
  String.ofList ['p', plotDigit (i / 1000), plotDigit (i / 100 % 10), plotDigit (i / 10 % 10), plotDigit (i % 10), '.', 'p', 'n', 'g']

theorem plotDigit_facts : ∀ a < 10, (plotDigit a).toLower = plotDigit a ∧ plotDigit a ≠ '\\' ∧
    ∀ b < 10, (plotDigit a < plotDigit b ↔ a < b) ∧ (plotDigit a = plotDigit b ↔ a = b) := by
  decide

theorem toAsciiLowercase_plotName {i : Nat} (h : i < 10000) : toAsciiLowercase (plotName i) = plotName i := by
  have h₁ := (plotDigit_facts (i / 1000) (by omega)).1
  have h₂ := (plotDigit_facts (i / 100 % 10) (by omega)).1
  have h₃ := (plotDigit_facts (i / 10 % 10) (by omega)).1
  have h₄ := (plotDigit_facts (i % 10) (by omega)).1
  simp [toAsciiLowercase, plotName, h₁, h₂, h₃, h₄]

theorem slashed_plotName {i : Nat} (h : i < 10000) : slashed [plotName i] = plotName i := by
  have h₁ := (plotDigit_facts (i / 1000) (by omega)).2.1
  have h₂ := (plotDigit_facts (i / 100 % 10) (by omega)).2.1
  have h₃ := (plotDigit_facts (i / 10 % 10) (by omega)).2.1
  have h₄ := (plotDigit_facts (i % 10) (by omega)).2.1
  rw [slashed, String.toList_intercalate]
  simp [plotName, h₁, h₂, h₃, h₄]

theorem generatedOutputExtension_plotName (i : Nat) : generatedOutputExtension (plotName i) = true := by
  have h : FileName.extension (plotName i) = some "png" := by
    simp [FileName.extension, plotName]
  rw [generatedOutputExtension, h]
  decide

theorem plotName_lt {i j : Nat} (hlt : i < j) (h : j < 10000) : plotName i < plotName j := by
  have h₁ := (plotDigit_facts (i / 1000) (by omega)).2.2 (j / 1000) (by omega)
  have h₂ := (plotDigit_facts (i / 100 % 10) (by omega)).2.2 (j / 100 % 10) (by omega)
  have h₃ := (plotDigit_facts (i / 10 % 10) (by omega)).2.2 (j / 10 % 10) (by omega)
  have h₄ := (plotDigit_facts (i % 10) (by omega)).2.2 (j % 10) (by omega)
  rw [plotName, plotName, String.lt_iff_toList_lt]
  simp [List.cons_lt_cons_iff, h₁, h₂, h₃, h₄]
  omega

def plotNames (first count : Nat) : List String := (List.range' first count).map plotName

/-- A project with 2001 plots; a run removes the first of them and leaves the others as they are. -/
def crowdedRun : OutputRun where
  requestType := "workspace.execute"
  executionId := "run-1"
  projectRoot := "/project"
  arguments := .obj [("document_version", .int 1), ("source_path", .str "clean.R")]
  result := .obj [("ok", .bool true)]
  workspace := ⟨"workspace-1", "kernel-1", 1, 1, 0⟩
  before := filesOnly ⟨4096, some 0⟩ (plotNames 0 2001)
  after := filesOnly ⟨4096, some 0⟩ (plotNames 1 2000)
  stored := 100

theorem plotNames_facts {first count : Nat} (h : first + count ≤ 10000) :
    (plotNames first count).Pairwise (fun a b => toAsciiLowercase a ≤ toAsciiLowercase b) ∧
      (∀ n ∈ plotNames first count, generatedOutputExtension n = true ∧ slashed [n] = n) ∧ (plotNames first count).Nodup := by
  have hbound : ∀ i ∈ List.range' first count, i < 10000 := by
    intro i hi
    have := (List.mem_range'_1.mp hi).2
    omega
  have hlt : (plotNames first count).Pairwise (· < ·) := by
    refine List.pairwise_map.mpr (List.Pairwise.imp_of_mem ?_ (List.pairwise_lt_range' 1))
    intro i j _ hj hij
    exact plotName_lt hij (hbound j hj)
  have hmem : ∀ n ∈ plotNames first count, ∃ i < 10000, plotName i = n := by
    intro n hn
    obtain ⟨i, hi, rfl⟩ := List.mem_map.mp hn
    exact ⟨i, hbound i hi, rfl⟩
  refine ⟨?_, ?_, hlt.imp (fun h => ne_of_lt h)⟩
  · refine List.Pairwise.imp_of_mem ?_ hlt
    intro a b ha hb hab
    obtain ⟨i, hi, rfl⟩ := hmem a ha
    obtain ⟨j, hj, rfl⟩ := hmem b hb
    rw [toAsciiLowercase_plotName hi, toAsciiLowercase_plotName hj]
    exact hab.le
  · intro n hn
    obtain ⟨i, hi, rfl⟩ := hmem n hn
    exact ⟨generatedOutputExtension_plotName i, slashed_plotName hi⟩

theorem reached_plots_iff {first count : Nat} (h : first + count ≤ 10000) {m : FileMetadata} {path : String}
    {signature : GeneratedOutputSignature} : (filesOnly m (plotNames first count)).Reached path signature ↔
      signature = m.signature ∧ ∃ i, first ≤ i ∧ i < first + min maxGeneratedOutputFiles count ∧ plotName i = path := by
  obtain ⟨hsorted, hnames, hnodup⟩ := plotNames_facts h
  have htake : (List.range' first count).take maxGeneratedOutputFiles = List.range' first (min maxGeneratedOutputFiles count) := by
    rcases le_total count maxGeneratedOutputFiles with hle | hle
    · rw [List.take_range'_of_length_le hle, Nat.min_eq_right hle]
    · rw [List.take_range'_of_length_ge hle, Nat.min_eq_left hle]
  rw [reached_filesOnly_iff hsorted hnames hnodup, plotNames, ← List.map_take, htake, List.mem_map]
  simp only [List.mem_range'_1, and_assoc]

theorem crowded_left_out_recorded : ¬ crowdedRun.LeftOutUnrecorded := by
  have hbefore : ∀ path signature, crowdedRun.before.Reached path signature ↔ signature = _ ∧ _ := fun path signature =>
    reached_plots_iff (by decide)
  have hafter : ∀ path signature, crowdedRun.after.Reached path signature ↔ signature = _ ∧ _ := fun path signature =>
    reached_plots_iff (by decide)
  intro h
  have hslots := h (plotName 2000) ⟨⟨_, [plotName 2000], ⟨4096, some 0⟩, .file ?_, slashed_plotName (by decide), rfl⟩, ?_⟩ _
    ((hafter _ _).mpr ⟨rfl, 2000, by decide, by decide, rfl⟩)
  · have hnone : {path | Changed crowdedRun.before crowdedRun.after path ∧ path < plotName 2000} = ∅ := by
      refine Set.eq_empty_iff_forall_notMem.mpr ?_
      rintro path ⟨⟨signature, hreached, hunreached⟩, hlt⟩
      obtain ⟨hsignature, i, -, hi, rfl⟩ := (hafter _ _).mp hreached
      have hi' : i < 2001 := hi
      rcases Nat.lt_succ_iff_lt_or_eq.mp hi' with hi' | rfl
      · exact hunreached ((hbefore _ _).mpr ⟨hsignature, i, Nat.zero_le i, hi', rfl⟩)
      · exact lt_irrefl _ hlt
    rw [hnone, Set.ncard_empty] at hslots
    exact absurd hslots (by decide)
  · exact List.mem_map_of_mem (List.mem_map_of_mem (List.mem_range'_1.mpr (by decide)))
  · intro signature hreached
    obtain ⟨-, i, -, hi, heq⟩ := (hbefore _ _).mp hreached
    have hlt : i < 2000 := hi
    exact absurd heq (ne_of_lt (plotName_lt hlt (by decide)))

/-- The run has removed one of 2001 plots, and another one that it left as it was is recorded as created, with complete provenance. -/
theorem old_file_recorded_created :
    ¬ crowdedRun.Faithful (fun _ => "be66917c5e508aa3ad6cf636272ad3b4a497fa9206aee0340b553d1784ba2f88") := by
  intro h
  refine crowded_left_out_recorded (OutputRun.recorded_true_iff.mp ?_)
  intro d hd
  exact (h d hd).1

end Rho
