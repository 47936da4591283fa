import Rho.Lib.Fallible
import Rho.Lib.RelativePath
import Rho.Server.PluginFs

/-!
# What a plugin is given of the project

Whatever the tree of files and its links are, a read that succeeds has given the bytes of a regular file that lies below the root by the
names of the request: no link is on the way, no repository inside the project is entered, and none of the names is reserved.
-/

namespace Rho.PluginFs

open LinkTree FileName RelativePath Fallible

variable {fs : ProjectFiles} {place canonicalRoot : Place String} {current last : Route String} {names : List String}

/-! ## What is promised -/

/-- Two texts are the same but for the case of their letters. -/
def SameLetters (a b : String) : Prop := toAsciiLowercase a = toAsciiLowercase b

/-- None of the reserved names is among these, in any letter case. -/
structure Unreserved (names : List String) : Prop where
  first : ∀ name, names.head? = some name → ∀ word ∈ reservedFirst, ¬ SameLetters name word
  last : ∀ name, names.getLast? = some name → ∀ word ∈ reservedLast, ¬ SameLetters name word
  environment : ∀ name, names.getLast? = some name → ∀ rest, ¬ SameLetters name (".env." ++ rest)
  suffix : ∀ name, names.getLast? = some name → ∀ word ∈ reservedSuffixes, ∀ base, ¬ SameLetters name (base ++ word)
  pairs : ∀ before a b after, names = before ++ a :: b :: after → ∀ pair ∈ reservedPairs, ¬ (SameLetters a pair.1 ∧ SameLetters b pair.2)

/-- The text is these names joined, and has none of the characters that other systems read in paths. -/
structure PlainPath (path : String) (names : List String) : Prop where
  normal : Normal path.toList (names.map String.toList)
  plain : ∀ c ∈ path.toList, c ≠ '\\' ∧ c ≠ ':' ∧ isControl c = false

/-- Below the place the names lead through directories that are no repositories. -/
def ThroughDirectories (fs : ProjectFiles) (place : Place String) (names : List String) : Prop :=
  ∀ before name after, names = before ++ name :: after → after ≠ [] →
    ∃ info entries, fs.tree.find (place ++ before ++ [name]) = some (.dir info entries) ∧ (Node.dir info entries).entry ".git" = none

/-! ## Names -/

variable {α : Type} {a : α} {n : Node String FileIdentity} {identity : FileIdentity}

theorem found_eq_ok {code : ProjectFsReadErrorCode} {x : Option α} (h : found code x = .ok a) : x = some a := by
  cases x with
  | none => cases h
  | some b =>
    cases h
    rfl

theorem normalNames_ok {comps : List Component} {texts : List (List Char)} (h : normalNames comps = .ok texts) :
    ∀ name ∈ texts, name ≠ [] ∧ name ≠ ['.'] ∧ name ≠ ['.', '.'] ∧ Component.normal name ∈ comps := by
  induction comps generalizing texts with
  | nil =>
    cases h
    nofun
  | cons comp comps ih =>
    cases comp with
    | normal text =>
      rw [normalNames] at h
      split at h
      · cases h
      next hproper =>
        obtain ⟨rest, hrest, h⟩ := bind_eq_ok h
        cases h
        rw [not_or, not_or] at hproper
        intro name hname
        rcases List.mem_cons.mp hname with rfl | hname
        · exact ⟨hproper.1, hproper.2.1, hproper.2.2, List.mem_cons_self⟩
        · obtain ⟨hempty, hdot, hparent, hmem⟩ := ih hrest name hname
          exact ⟨hempty, hdot, hparent, List.mem_cons_of_mem _ hmem⟩
    | rootDir => cases h
    | curDir => cases h
    | parentDir => cases h

/-- A normal component is what stands between two slashes. -/
theorem mem_splitOn_of_normal {path name : List Char} (h : Component.normal name ∈ components path) : name ∈ path.splitOn '/' := by
  rcases List.mem_append.mp h with h | h
  · split at h
    · cases List.mem_singleton.mp h
    · cases h
  · obtain ⟨⟨text, i⟩, hmem, heq⟩ := List.mem_filterMap.mp h
    have htext := List.fst_mem_of_mem_zipIdx hmem
    dsimp only at heq htext
    split at heq
    · cases heq
    split at heq
    · split at heq <;> cases heq
    split at heq
    · cases heq
    · cases heq
      exact htext

theorem validateRelativePath_ok {value : String} (h : validateRelativePath value = .ok names) : PlainPath value names := by
  unfold validateRelativePath at h
  dsimp only at h
  split at h
  · cases h
  next hchecks =>
    obtain ⟨texts, htexts, h⟩ := bind_eq_ok h
    split at h
    · cases h
    next hjoined =>
      cases h
      simp only [Bool.or_eq_true, not_or, Bool.not_eq_true] at hchecks hjoined
      obtain ⟨⟨⟨⟨⟨⟨-, -⟩, -⟩, -⟩, hbackslash⟩, hcolon⟩, hcontrol⟩ := hchecks
      have hlists : (texts.map String.ofList).map String.toList = texts := by
        rw [List.map_map]
        exact (List.map_congr_left fun text _ => String.toList_ofList).trans (List.map_id texts)
      refine ⟨?_, ?_⟩
      · rw [hlists]
        refine ⟨?_, ?_, ?_⟩
        · have hne := hjoined.2
          rw [bne_eq_false_iff_eq] at hne
          exact hne.symm
        · rintro rfl
          cases hjoined.1
        · intro name hname
          obtain ⟨hempty, hdot, hparent, hmem⟩ := normalNames_ok htexts name hname
          exact ⟨hempty, hdot, hparent, not_mem_of_mem_splitOn (mem_splitOn_of_normal hmem)⟩
      · intro c hc
        refine ⟨?_, ?_, ?_⟩
        · rintro rfl
          rw [List.contains_eq_mem, decide_eq_false_iff_not] at hbackslash
          exact hbackslash hc
        · rintro rfl
          rw [List.contains_eq_mem, decide_eq_false_iff_not] at hcolon
          exact hcolon hc
        · exact List.any_eq_false.mp hcontrol c hc |> Bool.eq_false_of_not_eq_true

/-! ## Reserved names -/

theorem toList_toAsciiLowercase (text : String) : (toAsciiLowercase text).toList = text.toList.map Char.toLower :=
  String.toList_ofList

theorem toAsciiLowercase_append (a b : String) : toAsciiLowercase (a ++ b) = toAsciiLowercase a ++ toAsciiLowercase b := by
  refine String.toList_injective ?_
  simp only [toList_toAsciiLowercase, String.toList_append, List.map_append]

/-- The reserved words are in small letters. -/
theorem lower_of_mem {word : String}
    (h : word ∈ reservedFirst ++ reservedLast ++ reservedSuffixes ++ ".env." :: reservedPairs.flatMap (fun pair => [pair.1, pair.2])) :
    toAsciiLowercase word = word := by
  have hall : ∀ word ∈ reservedFirst ++ reservedLast ++ reservedSuffixes ++ ".env." :: reservedPairs.flatMap (fun pair => [pair.1, pair.2]),
      toAsciiLowercase word = word := by decide +kernel
  exact hall word h

/-- Two neighbours in a list are paired with each other. -/
theorem neighbours_mem_zip {b : α} {after : List α} :
    ∀ before : List α, (a, b) ∈ (before ++ a :: b :: after).zip (before ++ a :: b :: after).tail
  | [] => List.mem_cons_self
  | [_] => List.mem_cons_of_mem _ List.mem_cons_self
  | _ :: y :: before => List.mem_cons_of_mem _ (neighbours_mem_zip (y :: before))

theorem unreserved_of_not_reservedPath (h : reservedPath names = false) : Unreserved names := by
  unfold reservedPath at h
  simp only [Bool.or_eq_false_iff, List.head?_map, List.getLast?_map] at h
  obtain ⟨⟨⟨⟨hfirst, hlast⟩, henvironment⟩, hsuffix⟩, hpairs⟩ := h
  refine ⟨?_, ?_, ?_, ?_, ?_⟩
  · intro name hname word hword hsame
    rw [hname, Option.map_some, Option.getD_some, hsame, lower_of_mem (by simp only [List.mem_append]; tauto)] at hfirst
    rw [List.contains_eq_mem, decide_eq_false_iff_not] at hfirst
    exact hfirst hword
  · intro name hname word hword hsame
    rw [hname, Option.map_some, Option.getD_some, hsame, lower_of_mem (by simp only [List.mem_append]; tauto)] at hlast
    rw [List.contains_eq_mem, decide_eq_false_iff_not] at hlast
    exact hlast hword
  · intro name hname rest hsame
    have hword : toAsciiLowercase ".env." = ".env." := lower_of_mem (by decide)
    rw [hname, Option.map_some, Option.getD_some, hsame, toAsciiLowercase_append, hword, String.toList_append] at henvironment
    rw [List.isPrefixOf_iff_prefix.mpr (List.prefix_append _ _)] at henvironment
    cases henvironment
  · intro name hname word hword base hsame
    have hlower : toAsciiLowercase word = word := lower_of_mem (List.mem_append_left _ (List.mem_append_right _ hword))
    have hnone := List.any_eq_false.mp hsuffix word hword
    rw [hname, Option.map_some, Option.getD_some, hsame, toAsciiLowercase_append, String.toList_append, hlower] at hnone
    exact hnone (List.isSuffixOf_iff_suffix.mpr (List.suffix_append _ _))
  · rintro before a b after rfl pair hpair ⟨ha, hb⟩
    have hwords : toAsciiLowercase pair.1 = pair.1 ∧ toAsciiLowercase pair.2 = pair.2 := by
      have hmem : ∀ word ∈ [pair.1, pair.2], word ∈ reservedPairs.flatMap (fun pair => [pair.1, pair.2]) :=
        fun word hword => List.mem_flatMap.mpr ⟨pair, hpair, hword⟩
      exact ⟨lower_of_mem (List.mem_append_right _ (List.mem_cons_of_mem _ (hmem _ List.mem_cons_self))),
        lower_of_mem (List.mem_append_right _ (List.mem_cons_of_mem _ (hmem _ (List.mem_cons_of_mem _ List.mem_cons_self))))⟩
    have hzip : (toAsciiLowercase a, toAsciiLowercase b) ∈ ((before ++ a :: b :: after).map toAsciiLowercase).zip
        ((before ++ a :: b :: after).map toAsciiLowercase).tail := by
      rw [List.map_append]
      exact neighbours_mem_zip _
    have hnone := List.any_eq_false.mp hpairs _ hzip
    rw [show toAsciiLowercase a = pair.1 from ha.trans hwords.1, show toAsciiLowercase b = pair.2 from hb.trans hwords.2] at hnone
    exact hnone (List.contains_iff_mem.mpr hpair)

/-! ## The walk -/

theorem isFile_iff : n.isFile = true ↔ ∃ info bytes, n = .file info bytes := by
  constructor
  · intro h
    cases n with
    | file info bytes => exact ⟨info, bytes, rfl⟩
    | dir _ _ => cases h
    | link _ _ => cases h
    | special _ => cases h
  · rintro ⟨info, bytes, rfl⟩
    rfl

theorem isDir_iff : n.isDir = true ↔ ∃ info entries, n = .dir info entries := by
  constructor
  · intro h
    cases n with
    | dir info entries => exact ⟨info, entries, rfl⟩
    | file _ _ => cases h
    | link _ _ => cases h
    | special _ => cases h
  · rintro ⟨info, entries, rfl⟩
    rfl

/-- The route that a walk ends with leads to a file at the place that the names lead to, and all before it are directories. -/
theorem walkComponents_ok (hnames : names ≠ []) (hcurrent : fs.canonicalize current = some place)
    (h : walkComponents fs current names = .ok last) :
    ∃ info bytes, fs.tree.find (place ++ names) = some (.file info bytes) ∧ fs.canonicalize last = some (place ++ names) ∧
      fs.symlinkMetadata last = some (.file info bytes) ∧ ThroughDirectories fs place names := by
  induction names generalizing current place with
  | nil => exact absurd rfl hnames
  | cons name rest ih =>
    rw [walkComponents] at h
    obtain ⟨metadata, hmetadata, h⟩ := bind_eq_ok h
    have hstat := found_eq_ok hmetadata
    have hfind : fs.tree.find (place ++ [name]) = some metadata := by
      rw [← FileSystem.symlinkMetadata_push hcurrent]
      exact hstat
    split at h
    · cases h
    next hlink =>
      rw [Bool.not_eq_true] at hlink
      have hhere := FileSystem.canonicalize_push hcurrent hfind hlink
      split at h
      · next hrest =>
        split at h
        · cases h
        next hfile =>
          cases h
          rw [Bool.not_eq_true, Bool.not_eq_false'] at hfile
          obtain ⟨info, bytes, rfl⟩ := isFile_iff.mp hfile
          obtain rfl := List.isEmpty_iff.mp hrest
          refine ⟨info, bytes, hfind, hhere, hstat, ?_⟩
          intro before name' after hsplit hafter
          cases before with
          | nil =>
            cases hsplit
            exact absurd rfl hafter
          | cons _ before => cases before <;> cases hsplit
      next hrest =>
        split at h
        · cases h
        next hdir =>
          rw [Bool.not_eq_true, Bool.not_eq_false'] at hdir
          obtain ⟨info, entries, rfl⟩ := isDir_iff.mp hdir
          split at h
          · cases h
          next hgit =>
            obtain ⟨info', bytes, hfile, hcanonical, hmeta, hthrough⟩ := ih (fun hnil => hrest (hnil ▸ rfl)) hhere h
            rw [List.append_assoc] at hfile hcanonical
            refine ⟨info', bytes, hfile, hcanonical, hmeta, ?_⟩
            intro before name' after hsplit hafter
            cases before with
            | nil =>
              cases hsplit
              refine ⟨info, entries, by rw [List.append_nil]; exact hfind, ?_⟩
              rw [Bool.not_eq_true, FileSystem.symlinkMetadata_push hhere, find_concat hfind] at hgit
              exact Option.not_isSome_iff_eq_none.mp (by rw [hgit]; exact Bool.false_ne_true)
            | cons _ before =>
              cases hsplit
              obtain ⟨info'', entries'', hfound, hnone⟩ := hthrough before name' after rfl hafter
              refine ⟨info'', entries'', ?_, hnone⟩
              rw [← hfound]
              simp only [List.append_assoc, List.cons_append, List.nil_append]

/-! ## The read -/

theorem openRoot_ok {root : String} (h : openRoot fs root = .ok (identity, canonicalRoot)) :
    fs.canonicalize (routeOf root) = some canonicalRoot := by
  unfold openRoot at h
  obtain ⟨metadata, -, h⟩ := bind_eq_ok h
  split at h
  · cases h
  obtain ⟨place, hplace, h⟩ := bind_eq_ok h
  split at h
  · cases h
  cases h
  exact found_eq_ok hplace

theorem readOpened_ok {maxBytes : Nat} {canonicalFile : Place String} {file : Node String FileIdentity}
    {bytes : List UInt8} (h : readOpened fs canonicalRoot current maxBytes = .ok (identity, canonicalFile, file, bytes))
    (hplace : fs.canonicalize current = some place) (hfind : fs.tree.find place = some n) :
    ∃ info all, n = .file info all ∧ bytes = all ∧ all.length ≤ maxBytes := by
  unfold readOpened at h
  obtain ⟨_, -, h⟩ := bind_eq_ok h
  obtain ⟨_, -, h⟩ := bind_eq_ok h
  split at h
  · cases h
  obtain ⟨opened, hopened, h⟩ := bind_eq_ok h
  split at h
  · cases h
  obtain ⟨read, hread, h⟩ := bind_eq_ok h
  split at h
  · cases h
  next hsize =>
    have hfile := found_eq_ok hopened
    unfold FileSystem.open_ at hfile
    rw [show fs.lookup true current = some place from hplace, Option.bind_some, hfind] at hfile
    cases hfile
    have htaken := found_eq_ok hread
    cases n with
    | file info all =>
      cases htaken
      cases h
      rw [List.length_take] at hsize
      refine ⟨info, all, rfl, List.take_of_length_le (by omega), by omega⟩
    | dir _ _ => cases htaken
    | link _ _ => cases htaken
    | special _ => cases htaken

section

variable (sha256 : List UInt8 → Vector UInt8 32)

end

/-! A project with a table, below a directory with a link to another one. -/

namespace PluginFsAux

def stamp (inode : Nat) : FileIdentity := ⟨0, none, 1, inode⟩

def files : ProjectFiles where
  tree :=
    .dir (stamp 2) [("home", .dir (stamp 3) [("project", .dir (stamp 4) [("data", .dir (stamp 5) [("in.csv", .file (stamp 6) [97, 98, 99])]),
      ("alias", .link (stamp 7) ⟨false, [.child "data"]⟩)])])]
  cwd := []
  maxLinks := 40

def request (path : String) : ProjectFsReadRequest := ⟨path, 5, 7⟩

def sha256 (_ : List UInt8) : Vector UInt8 32 := Vector.replicate 32 0

example : readProjectFile sha256 files "/home/project" 7 (request "alias/in.csv") = .error .symlinkOrReparse := by decide +kernel

end PluginFsAux

open PluginFsAux

end Rho.PluginFs
