import Rho.Desktop.ProjectFiles

/-!
# The list of a project's files

What is listed are files of the project that can be reached through readable directories, and a list that does not say that it is cut
off has all of them.
-/

namespace Rho

/-- The names of every directory are different. -/
inductive DistinctNames : List (String × ProjectNode) → Prop where
  | intro {entries : List (String × ProjectNode)} (nodup : (entries.map Prod.fst).Nodup)
      (below : ∀ name sub, (name, .directory sub) ∈ entries → DistinctNames sub) : DistinctNames entries

/-- An editable regular file below a directory, outside ignored directories and without a link on the way: neither it nor a directory
on the way is refused by the system. -/
inductive Listed (faults : ScanFaults) : List String → List (String × ProjectNode) → ProjectFile → Prop where
  | file {directory : List String} {entries : List (String × ProjectNode)} {name : String} {metadata : FileMetadata}
      (mem : (name, .file metadata) ∈ entries) (editable : (ensureEditableFile name).isOk = true)
      (fileType : faults.fileType (directory ++ [name]) = false) (known : faults.metadata (directory ++ [name]) = false) :
      Listed faults directory entries ⟨directory ++ [name], metadata.len⟩
  | directory {directory : List String} {entries sub : List (String × ProjectNode)} {name : String} {f : ProjectFile}
      (mem : (name, .directory sub) ∈ entries) (kept : ignoredProjectDirectory name = false)
      (fileType : faults.fileType (directory ++ [name]) = false) (canonical : faults.canonicalize (directory ++ [name]) = false)
      (readable : faults.readDir (directory ++ [name]) = false) (listed : Listed faults (directory ++ [name]) sub f) :
      Listed faults directory entries f

namespace ProjectFilesAux

variable {faults : ScanFaults} {directory : List String} {entries : List (String × ProjectNode)} {entry : String × ProjectNode}
  {f : ProjectFile} {s : ProjectScan}

theorem projectFileOf_eq_some : projectFileOf faults directory entry = some f ↔
    ∃ metadata, entry.2 = .file metadata ∧ (ensureEditableFile entry.1).isOk = true ∧
      faults.fileType (directory ++ [entry.1]) = false ∧ faults.metadata (directory ++ [entry.1]) = false ∧
      f = ⟨directory ++ [entry.1], metadata.len⟩ := by
  obtain ⟨name, node⟩ := entry
  unfold projectFileOf
  cases node with
  | file metadata =>
    dsimp only
    split
    next hrefused =>
      refine iff_of_false nofun ?_
      rintro ⟨_, -, heditable, htype, hknown, -⟩
      simp [heditable, htype, hknown] at hrefused
    next hkept =>
      simp only [Bool.or_eq_true, Bool.not_eq_true', not_or, Bool.not_eq_true, Bool.not_eq_false] at hkept
      obtain ⟨⟨htype, heditable⟩, hknown⟩ := hkept
      constructor
      · rintro ⟨⟩
        exact ⟨metadata, rfl, heditable, htype, hknown, rfl⟩
      · rintro ⟨_, hnode, -, -, -, rfl⟩
        cases hnode
        rfl
  | directory _ => exact iff_of_false nofun fun ⟨_, h, _⟩ => nomatch h
  | symlink => exact iff_of_false nofun fun ⟨_, h, _⟩ => nomatch h
  | other => exact iff_of_false nofun fun ⟨_, h, _⟩ => nomatch h

theorem projectDirectoryOf_eq_some {d : String × List (String × ProjectNode)} :
    projectDirectoryOf faults directory entry = some d ↔
      entry = (d.1, .directory d.2) ∧ ignoredProjectDirectory d.1 = false ∧ faults.fileType (directory ++ [d.1]) = false ∧
        faults.canonicalize (directory ++ [d.1]) = false := by
  obtain ⟨name, node⟩ := entry
  obtain ⟨name', sub'⟩ := d
  unfold projectDirectoryOf
  cases node with
  | directory sub =>
    dsimp only
    split
    next hrefused =>
      refine iff_of_false nofun ?_
      rintro ⟨hentry, hkept, htype, hcanonical⟩
      cases hentry
      simp [hkept, htype, hcanonical] at hrefused
    next hkept =>
      simp only [Bool.or_eq_true, not_or, Bool.not_eq_true] at hkept
      constructor
      · rintro ⟨⟩
        exact ⟨rfl, hkept.1.2, hkept.1.1, hkept.2⟩
      · rintro ⟨hentry, -⟩
        cases hentry
        rfl
  | file _ => exact iff_of_false nofun fun ⟨h, _⟩ => nomatch h
  | symlink => exact iff_of_false nofun fun ⟨h, _⟩ => nomatch h
  | other => exact iff_of_false nofun fun ⟨h, _⟩ => nomatch h

/-- What a walk adds to the files: only files to be listed, no file twice, and all of them where it is not cut off. -/
structure Adds (listed : ProjectFile → Prop) (s t : ProjectScan) (cut : Bool) : Prop where
  added : ∃ new, t.files = s.files ++ new ∧ new.Nodup ∧ ∀ f ∈ new, listed f
  complete : cut = false → ∀ f, listed f → f ∈ t.files
  bounded : s.files.length ≤ maxProjectFiles → t.files.length ≤ maxProjectFiles

/-- The files that the entries of a directory are. -/
def Files (faults : ScanFaults) (directory : List String) (entries : List (String × ProjectNode)) (f : ProjectFile) : Prop :=
  ∃ entry ∈ entries, projectFileOf faults directory entry = some f

theorem names_of_projectFileOf (h : projectFileOf faults directory entry = some f) : f.names = directory ++ [entry.1] := by
  obtain ⟨_, -, -, -, -, rfl⟩ := projectFileOf_eq_some.mp h
  rfl

/-- The loop over the entries adds files of theirs, and where it is not ended it adds all of them and keeps all directories. -/
theorem adds_scanProjectEntries (faults : ScanFaults) (directory : List String) (hnodup : (entries.map Prod.fst).Nodup) (s : ProjectScan) :
    ∃ new, (scanProjectEntries faults directory entries s).1.files = s.files ++ new ∧ new.Nodup ∧
      (∀ f ∈ new, Files faults directory entries f) ∧
      (s.files.length ≤ maxProjectFiles → (scanProjectEntries faults directory entries s).1.files.length ≤ maxProjectFiles) ∧
      ∀ directories, (scanProjectEntries faults directory entries s).2 = some directories →
        directories = entries.filterMap (projectDirectoryOf faults directory) ∧ ∀ f, Files faults directory entries f → f ∈ new := by
  induction entries generalizing s with
  | nil =>
    refine ⟨[], (List.append_nil _).symm, List.nodup_nil, fun _ h => absurd h List.not_mem_nil, fun h => h, ?_⟩
    rintro _ ⟨⟩
    exact ⟨rfl, fun _ ⟨_, h, _⟩ => absurd h List.not_mem_nil⟩
  | cons entry entries ih =>
    obtain ⟨hfresh, hnodup⟩ := List.nodup_cons.mp hnodup
    rw [scanProjectEntries]
    split
    · exact ⟨[], (List.append_nil _).symm, List.nodup_nil, fun _ h => absurd h List.not_mem_nil, fun h => h, nofun⟩
    next hroom =>
      obtain ⟨new, hnew, hdistinct, hfiles, hbounded, hall⟩ :=
        ih hnodup { s with files := s.files ++ (projectFileOf faults directory entry).toList }
      refine ⟨(projectFileOf faults directory entry).toList ++ new, ?_, ?_, ?_, fun _ => ?_, ?_⟩
      · rw [hnew, List.append_assoc]
      · refine List.nodup_append.mpr ⟨?_, hdistinct, ?_⟩
        · cases projectFileOf faults directory entry with
          | none => exact List.nodup_nil
          | some f => exact List.nodup_singleton f
        · -- A file of a later entry has another name.
          rintro f hf g hg rfl
          obtain ⟨later, hmem, hlater⟩ := hfiles f hg
          have hname := (names_of_projectFileOf (Option.mem_toList.mp hf)).symm.trans (names_of_projectFileOf hlater)
          have hsame : entry.1 = later.1 := by simpa using hname
          exact hfresh (hsame ▸ List.mem_map_of_mem hmem)
      · intro f hf
        rcases List.mem_append.mp hf with hf | hf
        · exact ⟨entry, List.mem_cons_self, Option.mem_toList.mp hf⟩
        · obtain ⟨later, hmem, hlater⟩ := hfiles f hf
          exact ⟨later, List.mem_cons_of_mem _ hmem, hlater⟩
      · refine hbounded ?_
        have hone : (projectFileOf faults directory entry).toList.length ≤ 1 := by
          cases projectFileOf faults directory entry with
          | none => exact Nat.zero_le 1
          | some f => exact Nat.le_refl 1
        rw [List.length_append]
        omega
      · intro directories hkept
        obtain ⟨rest, hrest, rfl⟩ := Option.map_eq_some_iff.mp hkept
        obtain ⟨hdirectories, hcomplete⟩ := hall rest hrest
        constructor
        · rw [hdirectories]
          cases hd : projectDirectoryOf faults directory entry with
          | none => rw [List.filterMap_cons_none hd, Option.toList_none, List.nil_append]
          | some d => rw [List.filterMap_cons_some hd, Option.toList_some, List.singleton_append]
        · rintro f ⟨later, hmem, hlater⟩
          rcases List.mem_cons.mp hmem with rfl | hmem
          · exact List.mem_append_left _ (Option.mem_toList.mpr hlater)
          · exact List.mem_append_right _ (hcomplete f ⟨later, hmem, hlater⟩)

theorem prefix_names (h : Listed faults directory entries f) : directory <+: f.names := by
  induction h with
  | file _ _ _ _ => exact List.prefix_append _ _
  | directory _ _ _ _ _ _ ih => exact (List.prefix_append _ _).trans ih

/-- The names of a file tell which entry of a directory it is below. -/
theorem entry_of_prefix {names : List String} {a b : String} (ha : directory ++ [a] <+: names) (hb : directory ++ [b] <+: names) :
    a = b := by
  have heq := (List.prefix_of_prefix_length_le ha hb (by simp)).eq_of_length (by simp)
  simpa using heq

/-- The loop over directories adds what the walks of the directories add. -/
theorem adds_walkProjectDirectories {collect : List String → List (String × ProjectNode) → ProjectScan → ProjectScan × Bool}
    {listed : String × List (String × ProjectNode) → ProjectFile → Prop} {directories : List (String × List (String × ProjectNode))}
    (hnodup : (directories.map Prod.fst).Nodup)
    (hunder : ∀ d ∈ directories, ∀ f, listed d f → directory ++ [d.1] <+: f.names)
    (hcollect : ∀ d ∈ directories, ∀ s, Adds (listed d) s (collect (directory ++ [d.1]) d.2 s).1 (collect (directory ++ [d.1]) d.2 s).2)
    (s : ProjectScan) : Adds (fun f => ∃ d ∈ directories, listed d f) s (walkProjectDirectories collect directory directories s).1
      (walkProjectDirectories collect directory directories s).2 := by
  induction directories generalizing s with
  | nil =>
    exact ⟨⟨[], (List.append_nil _).symm, List.nodup_nil, fun _ h => absurd h List.not_mem_nil⟩,
      fun _ _ ⟨_, h, _⟩ => absurd h List.not_mem_nil, fun h => h⟩
  | cons d directories ih =>
    obtain ⟨hfresh, hnodup⟩ := List.nodup_cons.mp hnodup
    obtain ⟨⟨new, hnew, hdistinct, hlisted⟩, hcomplete, hbounded⟩ := hcollect d List.mem_cons_self s
    rw [walkProjectDirectories]
    split
    next hcut =>
      refine ⟨⟨new, hnew, hdistinct, fun f hf => ⟨d, List.mem_cons_self, hlisted f hf⟩⟩, fun hnot => ?_, hbounded⟩
      rw [hcut] at hnot
      cases hnot
    next hwhole =>
      obtain ⟨⟨new', hnew', hdistinct', hlisted'⟩, hcomplete', hbounded'⟩ :=
        ih hnodup (fun d hd => hunder d (List.mem_cons_of_mem _ hd)) (fun d hd => hcollect d (List.mem_cons_of_mem _ hd))
          (collect (directory ++ [d.1]) d.2 s).1
      refine ⟨⟨new ++ new', ?_, ?_, ?_⟩, fun hcut f hf => ?_, fun h => hbounded' (hbounded h)⟩
      · rw [hnew', hnew, List.append_assoc]
      · refine List.nodup_append.mpr ⟨hdistinct, hdistinct', ?_⟩
        rintro f hf g hg rfl
        obtain ⟨d', hd', hlisted₂⟩ := hlisted' f hg
        have hsame := entry_of_prefix (hunder d List.mem_cons_self f (hlisted f hf))
          (hunder d' (List.mem_cons_of_mem _ hd') f hlisted₂)
        exact hfresh (hsame ▸ List.mem_map_of_mem hd')
      · intro f hf
        rcases List.mem_append.mp hf with hf | hf
        · exact ⟨d, List.mem_cons_self, hlisted f hf⟩
        · obtain ⟨d', hd', hlisted₂⟩ := hlisted' f hf
          exact ⟨d', List.mem_cons_of_mem _ hd', hlisted₂⟩
      · obtain ⟨d', hd', hlisted₂⟩ := hf
        rcases List.mem_cons.mp hd' with rfl | hd'
        · rw [hnew']
          exact List.mem_append_left _ (hcomplete (Bool.eq_false_iff.mpr hwhole) f hlisted₂)
        · exact hcomplete' hcut f ⟨d', hd', hlisted₂⟩

/-- The entries that are listed are entries of the directory, each once, and all of them where there are no more. -/
theorem listedProjectEntries_sub (faults : ScanFaults) (directory : List String) (hdistinct : (entries.map Prod.fst).Nodup) (remaining : Nat) :
    (listedProjectEntries faults directory entries remaining).1 ⊆ entries ∧
      ((listedProjectEntries faults directory entries remaining).1.map Prod.fst).Nodup := by
  have hsub : List.Sublist
      (((entries.take (remaining + 1)).filter (fun e => !faults.dirEntry (directory ++ [e.1]))).take remaining) entries :=
    (List.take_sublist _ _).trans (List.filter_sublist.trans (List.take_sublist _ _))
  constructor
  · intro e he
    exact hsub.subset ((List.mem_insertionSort _).mp he)
  · refine (((List.perm_insertionSort _ _).map Prod.fst).nodup_iff).mpr ?_
    exact hdistinct.sublist (hsub.map _)

theorem listedProjectEntries_all (directory : List String) (entries : List (String × ProjectNode))
    (hlost : ∀ path, faults.dirEntry path = false) (remaining : Nat)
    (hmore : (listedProjectEntries faults directory entries remaining).2 = false) :
    entries ⊆ (listedProjectEntries faults directory entries remaining).1 := by
  have hkept : ∀ l : List (String × ProjectNode), l.filter (fun e => !faults.dirEntry (directory ++ [e.1])) = l := by
    intro l
    exact List.filter_eq_self.mpr fun e _ => by rw [hlost]; rfl
  unfold listedProjectEntries at hmore ⊢
  dsimp only at hmore ⊢
  rw [hkept, decide_eq_false_iff_not, not_lt, List.length_take] at hmore
  rw [hkept, List.take_take]
  intro e he
  rw [List.mem_insertionSort, List.take_of_length_le (by omega)]
  exact he

/-- The walk of a directory. -/
theorem adds_collectProjectFiles (hlost : ∀ path, faults.dirEntry path = false) (levels : Nat) (directory : List String)
    (entries : List (String × ProjectNode)) (hdistinct : DistinctNames entries) (s : ProjectScan) :
    Adds (fun f => faults.readDir directory = false ∧ Listed faults directory entries f) s
      (collectProjectFiles faults levels directory entries s).1 (collectProjectFiles faults levels directory entries s).2 := by
  induction levels generalizing directory entries s with
  | zero => exact ⟨⟨[], (List.append_nil _).symm, List.nodup_nil, fun _ h => absurd h List.not_mem_nil⟩, nofun, fun h => h⟩
  | succ levels ih =>
    obtain ⟨hnodup, hbelow⟩ := hdistinct
    rw [collectProjectFiles]
    dsimp only
    split
    · exact ⟨⟨[], (List.append_nil _).symm, List.nodup_nil, fun _ h => absurd h List.not_mem_nil⟩, nofun, fun h => h⟩
    split
    next hunreadable =>
      refine ⟨⟨[], (List.append_nil _).symm, List.nodup_nil, fun _ h => absurd h List.not_mem_nil⟩, fun _ f hf => ?_, fun h => h⟩
      rw [hunreadable] at hf
      cases hf.1
    next hreadable =>
    have hreadable := Bool.eq_false_iff.mpr hreadable
    generalize maxProjectEntries - s.scannedEntries = remaining
    obtain ⟨hsub, hnames⟩ := listedProjectEntries_sub faults directory hnodup remaining
    have hall := listedProjectEntries_all directory entries hlost remaining
    generalize listedProjectEntries faults directory entries remaining = listed at hsub hnames hall ⊢
    obtain ⟨new, hnew, hnewNodup, hfiles, hbounded, hkept⟩ :=
      adds_scanProjectEntries faults directory hnames
        { s with scannedEntries := s.scannedEntries + listed.1.length }
    have hlistedFile : ∀ f, Files faults directory listed.1 f → Listed faults directory entries f := by
      rintro f ⟨entry, hmem, hfile⟩
      obtain ⟨metadata, hnode, heditable, htype, hknown, rfl⟩ := projectFileOf_eq_some.mp hfile
      exact .file (hnode ▸ hsub hmem) heditable htype hknown
    generalize scanProjectEntries faults directory listed.1
      { s with scannedEntries := s.scannedEntries + listed.1.length } = r at hnew hbounded hkept ⊢
    have hcutShort : Adds (fun f => faults.readDir directory = false ∧ Listed faults directory entries f) s r.1 true :=
      ⟨⟨new, hnew, hnewNodup, fun f hf => ⟨hreadable, hlistedFile f (hfiles f hf)⟩⟩, nofun, hbounded⟩
    cases hdirectories : r.2 with
    | none => exact hcutShort
    | some directories =>
      dsimp only
      split
      · exact hcutShort
      next hwhole =>
      obtain ⟨rfl, hcomplete⟩ := hkept directories hdirectories
      have hmem : ∀ d ∈ listed.1.filterMap (projectDirectoryOf faults directory), (d.1, ProjectNode.directory d.2) ∈ entries := by
        intro d hd
        obtain ⟨entry, hentry, hdirectory⟩ := List.mem_filterMap.mp hd
        obtain ⟨rfl, -⟩ := projectDirectoryOf_eq_some.mp hdirectory
        exact hsub hentry
      have hkeys : ((listed.1.filterMap (projectDirectoryOf faults directory)).map Prod.fst).Nodup := by
        have hsame : (listed.1.filterMap (projectDirectoryOf faults directory)).map Prod.fst =
            (listed.1.filter (fun e => (projectDirectoryOf faults directory e).isSome)).map Prod.fst := by
          clear hkept hall hsub hnames hdirectories hnew hbounded hfiles hlistedFile hcutShort hmem hcomplete
          induction listed.1 with
          | nil => rfl
          | cons e l ih =>
            cases hd : projectDirectoryOf faults directory e with
            | none => rw [List.filterMap_cons_none hd, List.filter_cons_of_neg (by rw [hd]; exact nofun), ih]
            | some d =>
              rw [List.filterMap_cons_some hd, List.filter_cons_of_pos (by rw [hd]; rfl), List.map_cons, List.map_cons, ih,
                (projectDirectoryOf_eq_some.mp hd).1]
        rw [hsame]
        exact hnames.sublist (List.filter_sublist.map _)
      have hwalk : Adds (fun f => ∃ d ∈ listed.1.filterMap (projectDirectoryOf faults directory),
          faults.readDir (directory ++ [d.1]) = false ∧ Listed faults (directory ++ [d.1]) d.2 f) r.1
          (walkProjectDirectories (collectProjectFiles faults levels) directory
            (listed.1.filterMap (projectDirectoryOf faults directory)) r.1).1
          (walkProjectDirectories (collectProjectFiles faults levels) directory
            (listed.1.filterMap (projectDirectoryOf faults directory)) r.1).2 := by
        refine adds_walkProjectDirectories hkeys (fun d _ f hf => prefix_names hf.2) (fun d hd s => ?_) r.1
        exact ih (directory ++ [d.1]) d.2 (hbelow _ _ (hmem d hd)) s
      obtain ⟨⟨new', hnew', hnewNodup', hlisted'⟩, hcomplete', hbounded'⟩ := hwalk
      refine ⟨⟨new ++ new', ?_, ?_, ?_⟩, fun hcut f hf => ?_, fun h => hbounded' (hbounded h)⟩
      · rw [hnew', hnew, List.append_assoc]
      · refine List.nodup_append.mpr ⟨hnewNodup, hnewNodup', ?_⟩
        -- A file of the directory itself is no entry that is walked.
        rintro f hf g hg rfl
        obtain ⟨entry, hentry, hfile⟩ := hfiles f hf
        obtain ⟨d, hd, -, hlisted⟩ := hlisted' f hg
        have hown : directory ++ [entry.1] <+: f.names := ⟨[], by rw [List.append_nil, names_of_projectFileOf hfile]⟩
        have hname := entry_of_prefix hown (prefix_names hlisted)
        obtain ⟨metadata, hnode, -⟩ := projectFileOf_eq_some.mp hfile
        have hsame := List.inj_on_of_nodup_map hnodup (hsub hentry) (hmem d hd) hname
        rw [hsame] at hnode
        cases hnode
      · intro f hf
        refine ⟨hreadable, ?_⟩
        rcases List.mem_append.mp hf with hf | hf
        · exact hlistedFile f (hfiles f hf)
        · obtain ⟨d, hd, hread, hlisted⟩ := hlisted' f hf
          obtain ⟨entry, -, hdirectory⟩ := List.mem_filterMap.mp hd
          obtain ⟨-, hignored, htype, hcanonical⟩ := projectDirectoryOf_eq_some.mp hdirectory
          exact .directory (hmem d hd) hignored htype hcanonical hread hlisted
      · obtain ⟨-, hlisted⟩ := hf
        have hentries := hall (Bool.eq_false_iff.mpr hwhole)
        cases hlisted with
        | file mem editable fileType known =>
          rw [hnew', hnew]
          refine List.mem_append_left _ (List.mem_append_right _ (hcomplete _ ⟨_, hentries mem, ?_⟩))
          exact projectFileOf_eq_some.mpr ⟨_, rfl, editable, fileType, known, rfl⟩
        | directory mem kept fileType canonical readable hlisted =>
          refine hcomplete' hcut f ⟨(_, _), List.mem_filterMap.mpr ⟨_, hentries mem, ?_⟩, readable, hlisted⟩
          exact projectDirectoryOf_eq_some.mpr ⟨rfl, kept, fileType, canonical⟩

theorem insertionSort_lt {files : List ProjectFile} (hnodup : files.Nodup)
    (hpaths : ∀ f ∈ files, ∀ g ∈ files, f.path = g.path → f = g) :
    (files.insertionSort (fun a b => a.path ≤ b.path)).Pairwise (fun a b => a.path < b.path) := by
  have hsorted := List.pairwise_insertionSort (fun a b : ProjectFile => a.path ≤ b.path) files
  have hperm := List.perm_insertionSort (fun a b : ProjectFile => a.path ≤ b.path) files
  refine (hsorted.and (hperm.nodup_iff.mpr hnodup)).imp_of_mem ?_
  rintro a b ha hb ⟨hle, hne⟩
  exact lt_of_le_of_ne hle fun hsame => hne (hpaths a (hperm.mem_iff.mp ha) b (hperm.mem_iff.mp hb) hsame)

end ProjectFilesAux

open ProjectFilesAux

/-- What a list of a project's files promises, by what counts as a file of the project: it is in order, and in strict order where no
two files are shown under one path; it has files of the project only, none twice and no more than the limit; and it has all of them
where it does not say that it is cut off. -/
structure ListingSound (isFile : ProjectFile → Prop) (listing : ProjectListing) : Prop where
  sorted : listing.files.Pairwise fun a b => a.path ≤ b.path
  strict : (∀ f g, isFile f → isFile g → f.path = g.path → f = g) → listing.files.Pairwise fun a b => a.path < b.path
  nodup : listing.files.Nodup
  sound : ∀ f ∈ listing.files, isFile f
  bounded : listing.files.length ≤ maxProjectFiles
  complete : listing.truncated = false → ∀ f, isFile f → f ∈ listing.files

/-- A list of a project has the files that can be reached through readable directories, whichever directories are not. -/
theorem project_listing_sound (tree : ProjectTree) (hdistinct : DistinctNames tree.entries)
    (hlost : ∀ path, tree.faults.dirEntry path = false) (listing : ProjectListing) (h : listProjectFiles tree = .ok listing) :
    ListingSound (Listed tree.faults [] tree.entries) listing := by
  unfold listProjectFiles at h
  split at h
  · cases h
  next hreadable =>
    cases h
    obtain ⟨⟨new, hnew, hnodup, hlisted⟩, hcomplete, hbounded⟩ :=
      adds_collectProjectFiles hlost (maxProjectDepth + 1) [] tree.entries hdistinct {}
    rw [List.nil_append] at hnew
    have hsound : ∀ f ∈ new, Listed tree.faults [] tree.entries f := fun f hf => (hlisted f hf).2
    refine ⟨List.pairwise_insertionSort _ _, fun hpaths => ?_, ?_, ?_, ?_, ?_⟩
    · rw [hnew]
      exact insertionSort_lt hnodup fun f hf g hg => hpaths f g (hsound f hf) (hsound g hg)
    · rw [hnew]
      exact ((List.perm_insertionSort _ _).nodup_iff).mpr hnodup
    · rw [hnew]
      exact fun f hf => hsound f ((List.mem_insertionSort _).mp hf)
    · rw [List.length_insertionSort]
      exact hbounded (Nat.zero_le _)
    · intro hwhole f hf
      exact (List.mem_insertionSort _).mpr (hcomplete hwhole f ⟨Bool.eq_false_iff.mpr hreadable, hf⟩)

/-! ## A directory that cannot be read -/

namespace SampleProject

/-- A script in a directory, which the system refuses to read. -/
def closed : ProjectTree where
  entries := [("data", .directory [("a.R", .file ⟨3, none⟩)])]
  faults := { readDir := fun path => decide (path = ["data"]) }

theorem distinctNames : DistinctNames closed.entries := by
  refine .intro (List.nodup_singleton _) fun name sub hmem => ?_
  cases List.mem_singleton.mp hmem
  refine .intro (List.nodup_singleton _) fun name sub hmem => ?_
  cases List.mem_singleton.mp hmem

end SampleProject

/-- The list of a project with a directory that cannot be read does not say that it is cut off, and a script in it is missing. -/
theorem unreadable_directory_not_reported :
    DistinctNames SampleProject.closed.entries ∧ ∃ listing, listProjectFiles SampleProject.closed = .ok listing ∧
      ¬ ListingSound (Listed { SampleProject.closed.faults with readDir := fun _ => false } [] SampleProject.closed.entries) listing := by
  refine ⟨SampleProject.distinctNames, ⟨[], false⟩, by decide +kernel, fun h => ?_⟩
  refine List.not_mem_nil (h.complete rfl ⟨["data", "a.R"], 3⟩ ?_)
  refine .directory List.mem_cons_self (by decide +kernel) rfl rfl rfl ?_
  exact .file List.mem_cons_self (by decide +kernel) rfl rfl

theorem project_listing_sound_closed : ListingSound (Listed SampleProject.closed.faults [] SampleProject.closed.entries) ⟨[], false⟩ :=
  project_listing_sound SampleProject.closed SampleProject.distinctNames (fun _ => rfl) ⟨[], false⟩ (by decide +kernel)

end Rho
