import Mathlib.Data.List.Induction
import Rho.Desktop.GitReview
import Rho.Lemmas.Package
import Rho.Lib.Records

/-!
# What a revision token guards

A mutation computes the token of its review again before its own command runs. When two tokens are the same, so is what the commands
printed that they were taken of; but these commands read at their own moments. The user saw the diff at another moment, before the
review's token, and the mutation's command runs at another one, after the check. What is guarded is what did not change in between.
-/

namespace Rho.GitReview

open Timed Records Fallible RepositoryReads

/-! ## What a repository holds -/

inductive WorkingFile where
  | missing
  | file (content : List UInt8)
  | other
  deriving DecidableEq

/-- What the worlds hold. An entry of the index is its mode, object and stage; there is no entry of HEAD when HEAD is unborn. -/
structure Repository (World : Type) where
  working : World → String → WorkingFile
  index : World → String → List String
  head : World → String → Option (List String)
  headCommit : World → Option String
  stagedTree : World → Option String
  objectId : List UInt8 → String

def NulFree (text : String) : Prop := '\x00' ∉ text.toList

instance (text : String) : Decidable (NulFree text) := inferInstanceAs (Decidable (¬ _ ∈ _))

/-- Entries and paths that can be listed. -/
def Listable (listed : List (String × String)) : Prop := ∀ e ∈ listed, '\t' ∉ e.1.toList ∧ NulFree e.1 ∧ NulFree e.2

instance (listed : List (String × String)) : Decidable (Listable listed) := inferInstanceAs (Decidable (∀ e ∈ listed, _))

/-- A record is an entry, a tab and the path. -/
def listing (listed : List (String × String)) : List (List Char) := listed.map (fun e => e.1.toList ++ '\t' :: e.2.toList)

/-- The entries of one path among those that are listed. -/
def entriesOf (filePath : String) (listed : List (String × String)) : List String :=
  (listed.filter (fun e => decide (e.2 = filePath))).map (·.1)

/-- A path that is taken for a pattern with magic. -/
def HasMagic (filePath : String) : Prop := filePath.toList.head? = some ':'

variable {World : Type}

/-- What the commands are documented to print. -/
structure Documented (git : Git World) (repo : Repository World) : Prop where
  canonicalize : ∀ {w path text}, git.canonicalize w path = .ok text → NulFree text
  filesystemInstance : ∀ {w path text}, git.filesystemInstance w path = .ok text → NulFree text
  objectFormat : ∀ {w text}, git.revParse w ["--show-object-format"] = .ok text → NulFree (trim text)
  born : ∀ {w id}, repo.headCommit w = some id →
    NulFree id ∧ id ≠ "unborn" ∧ ∃ text, git.revParse w ["--verify", "HEAD"] = .ok text ∧ trim text = id
  unborn : ∀ {w}, repo.headCommit w = none → (∃ e, git.revParse w ["--verify", "HEAD"] = .error e) ∧ ∀ path, repo.head w path = none
  status : ∀ {w path text}, git.status w path = .ok text → ∃ records, Free '\x00' records ∧ text.toList = encode '\x00' records
  index : ∀ {w path text}, ¬HasMagic path → git.lsFilesStage w path = .ok text → ∃ listed, Listable listed ∧
    text.toList = encode '\x00' (listing listed) ∧ repo.index w path = entriesOf path listed
  head : ∀ {w path text}, git.lsTree w path = .ok text → ∃ listed, Listable listed ∧
    text.toList = encode '\x00' (listing listed) ∧ repo.head w path = some (entriesOf path listed)
  present : ∀ {w path}, git.present w path = false → repo.working w path = .missing
  hashObject : ∀ {w path text}, git.hashObject w path = .ok text → ∃ content, repo.working w path = .file content ∧
    text = repo.objectId content ++ "\n"
  objectId : ∀ content, NulFree (repo.objectId content)
  writeTree : ∀ {w text}, git.writeTree w = .ok text → repo.stagedTree w = some (trim text) ∧ NulFree (trim text)

/-! ## Reading a text back -/

theorem free_listing {listed : List (String × String)} (h : Listable listed) : Free '\x00' (listing listed) := by
  intro r hr hmem
  obtain ⟨e, he, rfl⟩ := List.mem_map.mp hr
  obtain ⟨-, hentry, hpath⟩ := h e he
  rcases List.mem_append.mp hmem with hmem | hmem
  · exact hentry hmem
  · rcases List.mem_cons.mp hmem with heq | hmem
    · exact absurd heq (by decide)
    · exact hpath hmem

theorem listing_inj {a b : List (String × String)} (ha : Listable a) (hb : Listable b) (h : listing a = listing b) : a = b := by
  induction a generalizing b with
  | nil =>
    cases b with
    | nil => rfl
    | cons e b => cases h
  | cons e a ih =>
    cases b with
    | nil => cases h
    | cons e' b =>
      obtain ⟨hrecord, hrest⟩ := List.cons.inj h
      obtain ⟨hentry, hpath⟩ := before_sep_inj (ha e List.mem_cons_self).1 (hb e' List.mem_cons_self).1 hrecord
      have htail := ih (fun x hx => ha x (List.mem_cons_of_mem _ hx)) (fun x hx => hb x (List.mem_cons_of_mem _ hx)) hrest
      rw [htail, Prod.ext (String.toList_injective hentry) (String.toList_injective hpath)]

/-- A mark is no record of a listing, because it has no tab. -/
theorem mark_notMem_listing {mark : List Char} {listed : List (String × String)} (h : '\t' ∉ mark) : mark ∉ listing listed := by
  intro hmem
  obtain ⟨e, -, rfl⟩ := List.mem_map.mp hmem
  simp at h

theorem hexDigit_ne_nul (n : Nat) : Json.hexDigit n ≠ '\x00' := by
  by_cases h : n < 16
  · revert n
    decide +kernel
  · have hdefault : Json.hexDigit n = '0' := by
      rw [Json.hexDigit, List.getD_eq_getElem?_getD, List.getElem?_eq_none (Nat.le_of_not_lt h)]
      rfl
    rw [hdefault]
    decide

theorem nulFree_token (sha256 : List UInt8 → Vector UInt8 32) (value : String) : NulFree (token sha256 value) := by
  rw [NulFree, token, hexEncode, String.toList_ofList]
  intro hmem
  obtain ⟨b, -, hb⟩ := List.mem_flatMap.mp hmem
  rcases List.mem_cons.mp hb with heq | hb
  · exact hexDigit_ne_nul _ heq.symm
  · exact hexDigit_ne_nul _ (List.mem_singleton.mp hb).symm

theorem token_inj {sha256 : List UInt8 → Vector UInt8 32} {x y : String} (h : token sha256 x = token sha256 y)
    (hcollide : ¬Collide sha256 (bytesOf x) (bytesOf y)) : x = y := by
  by_contra hne
  exact hcollide ⟨fun hbytes => hne (bytesOf_injective hbytes), Vector.toList_inj.mp (hexEncode_inj h)⟩

/-! ## Texts of tokens -/

/-- A text of records that is printed for a file. -/
def Printed (text : String) : Prop := ∃ listed, Listable listed ∧ text.toList = encode '\x00' (listing listed)

/-- The parts of a file's token are what the commands may print. -/
structure FileReads.Formed (r : FileReads) : Prop where
  status : ∃ records, Free '\x00' records ∧ r.status.toList = encode '\x00' records
  index : Printed r.index
  head : r.head = "missing-head" ∨ Printed r.head
  working : NulFree r.working

/-- A printed text ends in the separator, so it is not the text for a missing HEAD. -/
theorem not_printed_missing_head : ¬Printed "missing-head" := by
  rintro ⟨listed, -, h⟩
  cases hlisting : listing listed using List.reverseRecOn with
  | nil =>
    rw [hlisting] at h
    exact absurd h (by decide)
  | append_singleton records r =>
    rw [hlisting, encode_append, encode_cons, encode_nil] at h
    have hlast := congrArg List.getLast? h
    simp at hlast

/-- What stands between the mark of the head part and the last part of a file's text. -/
def HeadRecords (head : String) (records : List (List Char)) : Prop :=
  (head = "missing-head" ∧ records = ["missing-headworking".toList]) ∨
    ∃ listed, Listable listed ∧ head.toList = encode '\x00' (listing listed) ∧ records = listing listed ++ ["working".toList]

theorem HeadRecords.mark_notMem {head : String} {records : List (List Char)} (h : HeadRecords head records) :
    "head".toList ∉ records := by
  rcases h with ⟨-, rfl⟩ | ⟨listed, -, -, rfl⟩
  · decide
  · intro hmem
    rcases List.mem_append.mp hmem with hmem | hmem
    · exact mark_notMem_listing (by decide) hmem
    · exact absurd hmem (by decide)

theorem HeadRecords.free {head : String} {records : List (List Char)} (h : HeadRecords head records) : Free '\x00' records := by
  rcases h with ⟨-, rfl⟩ | ⟨listed, hlisted, -, rfl⟩
  · exact free_cons.mpr ⟨by decide, nofun⟩
  · exact free_append.mpr ⟨free_listing hlisted, free_cons.mpr ⟨by decide, nofun⟩⟩

/-- The records tell the head part. -/
theorem HeadRecords.inj {head head' : String} {records : List (List Char)} (h : HeadRecords head records)
    (h' : HeadRecords head' records) : head = head' := by
  rcases h with ⟨rfl, rfl⟩ | ⟨listed, hlisted, hhead, rfl⟩
  · rcases h' with ⟨rfl, -⟩ | ⟨listed', -, -, hrecords⟩
    · rfl
    · have hlast := congrArg List.getLast? hrecords
      rw [List.getLast?_concat] at hlast
      exact absurd hlast (by decide)
  · rcases h' with ⟨-, hrecords⟩ | ⟨listed', hlisted', hhead', hrecords⟩
    · have hlast := congrArg List.getLast? hrecords
      rw [List.getLast?_concat] at hlast
      exact absurd hlast (by decide)
    · rw [List.append_left_inj] at hrecords
      exact String.toList_injective (by rw [hhead, hhead', hrecords])

theorem FileReads.toList_text (sha256 : List UInt8 → Vector UInt8 32) (r : FileReads) : (r.text sha256).toList =
    "repository\x00".toList ++ (token sha256 r.repository.text).toList ++ "status\x00".toList ++ r.status.toList ++
      "index\x00".toList ++ r.index.toList ++ "head\x00".toList ++ r.head.toList ++ "working\x00".toList ++ r.working.toList := by
  unfold FileReads.text
  iterate 9 rw [String.toList_append]

/-- A file's text is records, with the last part after them. -/
theorem FileReads.Formed.text_eq {r : FileReads} (h : r.Formed) (sha256 : List UInt8 → Vector UInt8 32) :
    ∃ before index head, Free '\x00' before ∧ (∃ listed, Listable listed ∧ index = listing listed) ∧ HeadRecords r.head head ∧
      r.index.toList = encode '\x00' index ∧ (r.text sha256).toList =
        encode '\x00' ((before ++ "index".toList :: index) ++ "head".toList :: head) ++ r.working.toList := by
  obtain ⟨status, hstatusFree, hstatus⟩ := h.status
  obtain ⟨listed, hlisted, hindex⟩ := h.index
  have htoken := nulFree_token sha256 r.repository.text
  refine ⟨["repository".toList, (token sha256 r.repository.text).toList ++ "status".toList] ++ status, listing listed, ?_⟩
  have hbefore : Free '\x00' (["repository".toList, (token sha256 r.repository.text).toList ++ "status".toList] ++ status) := by
    refine free_append.mpr ⟨free_cons.mpr ⟨by decide, free_cons.mpr ⟨?_, nofun⟩⟩, hstatusFree⟩
    intro hmem
    rcases List.mem_append.mp hmem with hmem | hmem
    · exact htoken hmem
    · exact absurd hmem (by decide)
  have hmarks : "repository\x00".toList = "repository".toList ++ ['\x00'] ∧ "status\x00".toList = "status".toList ++ ['\x00'] ∧
      "index\x00".toList = "index".toList ++ ['\x00'] ∧ "head\x00".toList = "head".toList ++ ['\x00'] ∧
      "working\x00".toList = "working".toList ++ ['\x00'] ∧
      "missing-headworking".toList = "missing-head".toList ++ "working".toList := by decide
  obtain ⟨h1, h2, h3, h4, h5, h6⟩ := hmarks
  rcases h.head with hhead | ⟨headListed, hheadListed, hhead⟩
  · refine ⟨["missing-headworking".toList], hbefore, ⟨listed, hlisted, rfl⟩, .inl ⟨hhead, rfl⟩, hindex, ?_⟩
    rw [FileReads.toList_text, h1, h2, h3, h4, h5, h6, hstatus, hindex, hhead]
    simp only [encode_append, encode_cons, encode_nil, List.append_assoc, List.cons_append, List.nil_append]
  · refine ⟨listing headListed ++ ["working".toList], hbefore, ⟨listed, hlisted, rfl⟩, .inr ⟨headListed, hheadListed, hhead, rfl⟩,
      hindex, ?_⟩
    rw [FileReads.toList_text, h1, h2, h3, h4, h5, hstatus, hindex, hhead]
    simp only [encode_append, encode_cons, encode_nil, List.append_assoc, List.cons_append, List.nil_append]

/-- A file's text tells what was read of the index, of HEAD and of the working file. -/
theorem FileReads.text_inj {sha256 : List UInt8 → Vector UInt8 32} {r r' : FileReads} (hr : r.Formed) (hr' : r'.Formed)
    (h : r.text sha256 = r'.text sha256) : r.index = r'.index ∧ r.head = r'.head ∧ r.working = r'.working := by
  obtain ⟨before, index, head, hbefore, ⟨listed, hlisted, rfl⟩, hhead, hindex, htext⟩ := hr.text_eq sha256
  obtain ⟨before', index', head', hbefore', ⟨listed', hlisted', rfl⟩, hhead', hindex', htext'⟩ := hr'.text_eq sha256
  have hfree : ∀ {before : List (List Char)} {listed : List (String × String)} {head : List (List Char)} {text : String},
      Free '\x00' before → Listable listed → HeadRecords text head →
      Free '\x00' ((before ++ "index".toList :: listing listed) ++ "head".toList :: head) := by
    intro before listed head text hbefore hlisted hhead
    refine free_append.mpr ⟨free_append.mpr ⟨hbefore, free_cons.mpr ⟨by decide, free_listing hlisted⟩⟩, ?_⟩
    exact free_cons.mpr ⟨by decide, hhead.free⟩
  have hlists : encode '\x00' ((before ++ "index".toList :: listing listed) ++ "head".toList :: head) ++ r.working.toList =
      encode '\x00' ((before' ++ "index".toList :: listing listed') ++ "head".toList :: head') ++ r'.working.toList := by
    rw [← htext, ← htext', h]
  obtain ⟨hrecords, hworking⟩ := encode_append_inj (hfree hbefore hlisted hhead) (hfree hbefore' hlisted' hhead') hr.working hr'.working
    hlists
  have hmark : '\t' ∉ "index".toList := by decide
  obtain ⟨hlisting, hheads⟩ := between_marks_inj (mark_notMem_listing hmark) (mark_notMem_listing hmark) hhead.mark_notMem
    hhead'.mark_notMem hrecords
  rw [← hheads] at hhead'
  refine ⟨String.toList_injective ?_, hhead.inj hhead', String.toList_injective hworking⟩
  rw [hindex, hindex', hlisting]

/-- The parts of a repository's token can be told apart. -/
structure RepositoryReads.Formed (r : RepositoryReads) : Prop where
  root : NulFree r.root
  rootInstance : NulFree r.rootInstance
  gitDir : NulFree r.gitDir
  gitDirInstance : NulFree r.gitDirInstance
  commonDir : NulFree r.commonDir
  commonDirInstance : NulFree r.commonDirInstance
  objectFormat : NulFree (trim r.objectFormat)
  head : NulFree (trim r.head)

/-- The records before the head of a repository's text. -/
def RepositoryReads.records (r : RepositoryReads) : List (List Char) :=
  ["root".toList, r.root.toList, r.rootInstance.toList, "git-dir".toList, r.gitDir.toList, r.gitDirInstance.toList,
    "common-dir".toList, r.commonDir.toList, r.commonDirInstance.toList, "object-format".toList, (trim r.objectFormat).toList,
    "head".toList]

theorem RepositoryReads.toList_text (r : RepositoryReads) :
    r.text.toList = encode '\x00' r.records ++ (trim r.head).toList := by
  have hmarks : "root\x00".toList = "root".toList ++ ['\x00'] ∧ "\x00".toList = ['\x00'] ∧
      "\x00git-dir\x00".toList = '\x00' :: ("git-dir".toList ++ ['\x00']) ∧
      "\x00common-dir\x00".toList = '\x00' :: ("common-dir".toList ++ ['\x00']) ∧
      "\x00object-format\x00".toList = '\x00' :: ("object-format".toList ++ ['\x00']) ∧
      "\x00head\x00".toList = '\x00' :: ("head".toList ++ ['\x00']) := by decide
  obtain ⟨h1, h2, h3, h4, h5, h6⟩ := hmarks
  unfold text records
  iterate 15 rw [String.toList_append]
  rw [h1, h2, h3, h4, h5, h6]
  simp only [encode_cons, encode_nil, List.append_assoc, List.cons_append, List.nil_append]

theorem RepositoryReads.Formed.free {r : RepositoryReads} (h : r.Formed) : Free '\x00' r.records := by
  intro text htext
  simp only [records, List.mem_cons, List.not_mem_nil, or_false] at htext
  rcases htext with rfl | rfl | rfl | rfl | rfl | rfl | rfl | rfl | rfl | rfl | rfl | rfl
  · decide
  · exact h.root
  · exact h.rootInstance
  · decide
  · exact h.gitDir
  · exact h.gitDirInstance
  · decide
  · exact h.commonDir
  · exact h.commonDirInstance
  · decide
  · exact h.objectFormat
  · decide

/-- A repository's text tells what was read of HEAD. -/
theorem RepositoryReads.text_inj {r r' : RepositoryReads} (hr : r.Formed) (hr' : r'.Formed) (h : r.text = r'.text) :
    trim r.head = trim r'.head := by
  have hlists : encode '\x00' r.records ++ (trim r.head).toList = encode '\x00' r'.records ++ (trim r'.head).toList := by
    rw [← r.toList_text, ← r'.toList_text, h]
  exact String.toList_injective (encode_append_inj hr.free hr'.free hr.head hr'.head hlists).2

/-- The text of the staged changes tells the tree, and the repository's token. -/
theorem StagedReads.text_inj {sha256 : List UInt8 → Vector UInt8 32} {r r' : StagedReads} (hr : NulFree (trim r.tree))
    (hr' : NulFree (trim r'.tree)) (h : r.text sha256 = r'.text sha256) :
    token sha256 r.repository.text = token sha256 r'.repository.text ∧ trim r.tree = trim r'.tree := by
  have hmarks : "repository\x00".toList = "repository".toList ++ ['\x00'] ∧ "tree\x00".toList = "tree".toList ++ ['\x00'] := by
    decide
  have htext : ∀ r : StagedReads, (r.text sha256).toList =
      encode '\x00' ["repository".toList, (token sha256 r.repository.text).toList ++ "tree".toList] ++ (trim r.tree).toList := by
    intro r
    unfold StagedReads.text
    iterate 3 rw [String.toList_append]
    rw [hmarks.1, hmarks.2]
    simp only [encode_cons, encode_nil, List.append_assoc, List.cons_append, List.nil_append]
  have hfree : ∀ r : StagedReads,
      Free '\x00' ["repository".toList, (token sha256 r.repository.text).toList ++ "tree".toList] := by
    intro r
    refine free_cons.mpr ⟨by decide, free_cons.mpr ⟨?_, nofun⟩⟩
    intro hmem
    rcases List.mem_append.mp hmem with hmem | hmem
    · exact nulFree_token sha256 _ hmem
    · exact absurd hmem (by decide)
  have hlists : encode '\x00' ["repository".toList, (token sha256 r.repository.text).toList ++ "tree".toList] ++ (trim r.tree).toList =
      encode '\x00' ["repository".toList, (token sha256 r'.repository.text).toList ++ "tree".toList] ++ (trim r'.tree).toList := by
    rw [← htext, ← htext, h]
  obtain ⟨hrecords, htree⟩ := encode_append_inj (hfree r) (hfree r') hr hr' hlists
  obtain ⟨-, hrest⟩ := List.cons.inj hrecords
  obtain ⟨htoken, -⟩ := List.cons.inj hrest
  exact ⟨String.toList_injective (List.append_cancel_right htoken), String.toList_injective htree⟩

/-! ## What the programs read -/

section Reads

variable {git : Git World} {repo : Repository World} (doc : Documented git repo) {w : Nat → World} {t t' : Nat}
include doc

theorem nulFree_validateRepository {root : String} (h : (validateRepository git).run w t = (.ok root, t')) : NulFree root := by
  unfold validateRepository at h
  obtain ⟨canonicalRoot, s, hroot, h⟩ := bind_ok h
  obtain ⟨top, s₁, -, h⟩ := bind_ok h
  obtain ⟨canonicalTop, s₂, -, h⟩ := bind_ok h
  split at h
  · exact (throw_ok h).elim
  · obtain ⟨rfl, -⟩ := pure_ok h
    obtain ⟨hcommand, -⟩ := observe_ok hroot
    unfold context at hcommand
    split at hcommand
    · rename_i a ha
      cases hcommand
      exact doc.canonicalize ha
    · cases hcommand

theorem nulFree_canonicalGitDirectory {argument label directory : String}
    (h : (canonicalGitDirectory git argument label).run w t = (.ok directory, t')) : NulFree directory := by
  unfold canonicalGitDirectory at h
  obtain ⟨value, s, -, h⟩ := bind_ok h
  obtain ⟨hcommand, -⟩ := observe_ok h
  unfold context at hcommand
  split at hcommand
  · rename_i a ha
    cases hcommand
    exact doc.canonicalize ha
  · cases hcommand

/-- What is printed for HEAD is its commit, or that it is unborn. -/
theorem headText_ok {world : World} {head : String} (h : headText git world = .ok head) :
    NulFree (trim head) ∧ repo.headCommit world = if trim head = "unborn" then none else some (trim head) := by
  unfold headText at h
  cases hcommit : repo.headCommit world with
  | none =>
    obtain ⟨e, he⟩ := (doc.unborn hcommit).1
    rw [he] at h
    cases h
    decide
  | some id =>
    obtain ⟨hfree, hborn, text, htext, rfl⟩ := doc.born hcommit
    rw [htext] at h
    cases h
    exact ⟨hfree, by rw [if_neg hborn]⟩

theorem formed_repositoryReads {r : RepositoryReads} (h : (repositoryReads git).run w t = (.ok r, t')) : r.Formed := by
  unfold repositoryReads at h
  obtain ⟨root, s, hroot, h⟩ := bind_ok h
  obtain ⟨gitDir, s₁, hgitDir, h⟩ := bind_ok h
  obtain ⟨commonDir, s₂, hcommonDir, h⟩ := bind_ok h
  obtain ⟨objectFormat, s₃, hobjectFormat, h⟩ := bind_ok h
  obtain ⟨head, s₄, hhead, h⟩ := bind_ok h
  obtain ⟨rootInstance, s₅, hrootInstance, h⟩ := bind_ok h
  obtain ⟨gitDirInstance, s₆, hgitDirInstance, h⟩ := bind_ok h
  obtain ⟨commonDirInstance, s₇, hcommonDirInstance, h⟩ := bind_ok h
  obtain ⟨rfl, -⟩ := pure_ok h
  exact {
    root := nulFree_validateRepository doc hroot
    rootInstance := doc.filesystemInstance (observe_ok hrootInstance).1
    gitDir := nulFree_canonicalGitDirectory doc hgitDir
    gitDirInstance := doc.filesystemInstance (observe_ok hgitDirInstance).1
    commonDir := nulFree_canonicalGitDirectory doc hcommonDir
    commonDirInstance := doc.filesystemInstance (observe_ok hcommonDirInstance).1
    objectFormat := doc.objectFormat (observe_ok hobjectFormat).1
    head := (headText_ok doc (observe_ok hhead).1).1 }

theorem readHead_ok {filePath head : String} (h : (readHead git filePath).run w t = (.ok head, t')) :
    head = "missing-head" ∨ Printed head := by
  unfold readHead at h
  obtain ⟨result, s, hresult, h⟩ := bind_ok h
  have hcommand := attempt_ok hresult
  cases result with
  | ok text =>
    obtain ⟨rfl, -⟩ := pure_ok h
    obtain ⟨listed, hlisted, htext, -⟩ := doc.head (observe_ok hcommand).1
    exact .inr ⟨listed, hlisted, htext⟩
  | error e =>
    obtain ⟨verified, s₁, -, h⟩ := bind_ok h
    cases verified with
    | error e' => exact .inl (pure_ok h).1.symm
    | ok text => exact (throw_ok h).elim

theorem nulFree_readWorking {filePath working : String} {staged : Bool}
    (h : (readWorking git filePath staged).run w t = (.ok working, t')) : NulFree working := by
  unfold readWorking at h
  split at h
  · obtain ⟨rfl, -⟩ := pure_ok h
    decide
  · obtain ⟨present, s, -, h⟩ := bind_ok h
    split at h
    · obtain ⟨content, -, rfl⟩ := doc.hashObject (observe_ok h).1
      rw [NulFree, String.toList_append]
      intro hmem
      rcases List.mem_append.mp hmem with hmem | hmem
      · exact doc.objectId content hmem
      · exact absurd hmem (by decide)
    · obtain ⟨rfl, -⟩ := pure_ok h
      decide

theorem formed_fileReads {filePath : String} (hmagic : ¬HasMagic filePath) {staged : Bool} {r : FileReads}
    (h : (fileReads git filePath staged).run w t = (.ok r, t')) : r.Formed := by
  unfold fileReads at h
  obtain ⟨⟨⟩, s, -, h⟩ := bind_ok h
  obtain ⟨repository, s₁, -, h⟩ := bind_ok h
  obtain ⟨status, s₂, hstatus, h⟩ := bind_ok h
  obtain ⟨index, s₃, hindex, h⟩ := bind_ok h
  obtain ⟨head, s₄, hhead, h⟩ := bind_ok h
  obtain ⟨working, s₅, hworking, h⟩ := bind_ok h
  obtain ⟨rfl, -⟩ := pure_ok h
  obtain ⟨listed, hlisted, htext, -⟩ := doc.index hmagic (observe_ok hindex).1
  exact {
    status := doc.status (observe_ok hstatus).1
    index := ⟨listed, hlisted, htext⟩
    head := readHead_ok doc hhead
    working := nulFree_readWorking doc hworking }

theorem formed_stagedReads {r : StagedReads} (h : (stagedReads git).run w t = (.ok r, t')) :
    r.repository.Formed ∧ NulFree (trim r.tree) := by
  unfold stagedReads at h
  obtain ⟨repository, s, hrepository, h⟩ := bind_ok h
  obtain ⟨tree, s₁, htree, h⟩ := bind_ok h
  obtain ⟨rfl, -⟩ := pure_ok h
  exact ⟨formed_repositoryReads doc hrepository, (doc.writeTree (observe_ok htree).1).2⟩

end Reads

/-! ## What is printed of one world -/

/-- What is read of HEAD for a file when nothing changes in between. -/
def headPrint (git : Git World) (w : World) (filePath : String) : Except String String :=
  match git.lsTree w filePath with
  | .ok head => .ok head
  | .error e =>
    match git.revParse w ["--verify", "HEAD"] with
    | .error _ => .ok "missing-head"
    | .ok _ => .error e

def workingPrint (git : Git World) (w : World) (filePath : String) (staged : Bool) : Except String String :=
  if staged then .ok "staged-view"
  else if git.present w filePath then git.hashObject w filePath
  else .ok "missing-working-file"

/-- The commands that tell the file print in the world what was read. -/
structure Prints (git : Git World) (w : World) (filePath : String) (staged : Bool) (r : FileReads) : Prop where
  index : git.lsFilesStage w filePath = .ok r.index
  head : headPrint git w filePath = .ok r.head
  working : workingPrint git w filePath staged = .ok r.working

/-- The commands that tell the staged changes print in the world what was read. -/
structure PrintsStaged (git : Git World) (w : World) (r : StagedReads) : Prop where
  head : headText git w = .ok r.repository.head
  tree : git.writeTree w = .ok r.tree

/-- What the user is shown: a file's content with its entries of the index and of HEAD, or the staged tree and HEAD. -/
inductive View where
  | file (working : WorkingFile) (index : List String) (head : Option (List String))
  | staged (tree : Option String) (commit : Option String)
  deriving DecidableEq

def fileView (repo : Repository World) (filePath : String) (w : World) : View :=
  .file (repo.working w filePath) (repo.index w filePath) (repo.head w filePath)

def stagedView (repo : Repository World) (w : World) : View := .staged (repo.stagedTree w) (repo.headCommit w)

/-- Contents of the file in the two worlds have one object id only when they are the same. -/
def ContentsApart (repo : Repository World) (filePath : String) (w w' : World) : Prop :=
  ∀ content content', repo.working w filePath = .file content → repo.working w' filePath = .file content' →
    repo.objectId content = repo.objectId content' → content = content'

section Views

variable {git : Git World} {repo : Repository World} (doc : Documented git repo) {w w' : World} {filePath : String}
include doc

theorem index_eq (hmagic : ¬HasMagic filePath) {text : String} (h : git.lsFilesStage w filePath = .ok text)
    (h' : git.lsFilesStage w' filePath = .ok text) : repo.index w filePath = repo.index w' filePath := by
  obtain ⟨listed, hlisted, htext, hindex⟩ := doc.index hmagic h
  obtain ⟨listed', hlisted', htext', hindex'⟩ := doc.index hmagic h'
  have hlisting := encode_inj (free_listing hlisted) (free_listing hlisted') (htext.symm.trans htext')
  rw [hindex, hindex', listing_inj hlisted hlisted' hlisting]

/-- A HEAD that is missing is told from one that lists. -/
theorem headPrint_cases {text : String} (h : headPrint git w filePath = .ok text) :
    (text = "missing-head" ∧ repo.head w filePath = none) ∨
      ∃ listed, Listable listed ∧ text.toList = encode '\x00' (listing listed) ∧
        repo.head w filePath = some (entriesOf filePath listed) := by
  unfold headPrint at h
  split at h
  · rename_i head hhead
    cases h
    exact .inr (doc.head hhead)
  · split at h
    · rename_i e he
      cases h
      refine .inl ⟨rfl, ?_⟩
      cases hcommit : repo.headCommit w with
      | none => exact (doc.unborn hcommit).2 filePath
      | some id =>
        obtain ⟨-, -, text, htext, -⟩ := doc.born hcommit
        rw [htext] at he
        cases he
    · cases h

theorem head_eq {text : String} (h : headPrint git w filePath = .ok text) (h' : headPrint git w' filePath = .ok text) :
    repo.head w filePath = repo.head w' filePath := by
  rcases headPrint_cases doc h with ⟨rfl, hnone⟩ | ⟨listed, hlisted, htext, hsome⟩
  · rcases headPrint_cases doc h' with ⟨-, hnone'⟩ | ⟨listed', hlisted', htext', -⟩
    · rw [hnone, hnone']
    · exact absurd ⟨listed', hlisted', htext'⟩ not_printed_missing_head
  · rcases headPrint_cases doc h' with ⟨rfl, -⟩ | ⟨listed', hlisted', htext', hsome'⟩
    · exact absurd ⟨listed, hlisted, htext⟩ not_printed_missing_head
    · have hlisting := encode_inj (free_listing hlisted) (free_listing hlisted') (htext.symm.trans htext')
      rw [hsome, hsome', listing_inj hlisted hlisted' hlisting]

/-- What is printed of the working file: nothing of it in a staged view, that it is missing, or the id of its content. -/
theorem workingPrint_cases {staged : Bool} {text : String} (h : workingPrint git w filePath staged = .ok text) :
    (text = "staged-view" ∧ staged = true) ∨ (text = "missing-working-file" ∧ repo.working w filePath = .missing) ∨
      ∃ content, repo.working w filePath = .file content ∧ text = repo.objectId content ++ "\n" := by
  unfold workingPrint at h
  split at h
  · rename_i hstaged
    cases h
    exact .inl ⟨rfl, hstaged⟩
  · split at h
    · exact .inr (.inr (doc.hashObject h))
    · rename_i hpresent
      cases h
      exact .inr (.inl ⟨rfl, doc.present (Bool.not_eq_true _ ▸ hpresent)⟩)

omit doc in
/-- An object id on a line of its own is none of the fixed texts. -/
theorem line_ne {id text : String} (h : text.toList.getLast? ≠ some '\n') : text ≠ id ++ "\n" := by
  rintro rfl
  rw [String.toList_append] at h
  exact h List.getLast?_concat

theorem working_eq {staged : Bool} {text : String} (hapart : ContentsApart repo filePath w w')
    (h : workingPrint git w filePath staged = .ok text) (h' : workingPrint git w' filePath false = .ok text) :
    repo.working w filePath = repo.working w' filePath := by
  rcases workingPrint_cases doc h' with ⟨-, hstaged⟩ | ⟨rfl, hmissing'⟩ | ⟨content', hcontent', rfl⟩
  · cases hstaged
  · rcases workingPrint_cases doc h with ⟨htext, -⟩ | ⟨-, hmissing⟩ | ⟨content, -, htext⟩
    · exact absurd htext (by decide)
    · rw [hmissing, hmissing']
    · exact absurd htext (line_ne (by decide))
  · rcases workingPrint_cases doc h with ⟨htext, -⟩ | ⟨htext, -⟩ | ⟨content, hcontent, htext⟩
    · exact absurd htext.symm (line_ne (by decide))
    · exact absurd htext.symm (line_ne (by decide))
    · have hid : repo.objectId content' = repo.objectId content := by
        have hchars := congrArg String.toList htext
        rw [String.toList_append, String.toList_append] at hchars
        exact String.toList_injective (List.append_cancel_right hchars)
      rw [hcontent, hcontent', hapart content content' hcontent hcontent' hid.symm]

/-- The file is the same in two worlds of which the same is printed. -/
theorem fileView_eq (hmagic : ¬HasMagic filePath) {staged : Bool} {r r' : FileReads} (hapart : ContentsApart repo filePath w w')
    (h : Prints git w filePath staged r) (h' : Prints git w' filePath false r')
    (heq : r.index = r'.index ∧ r.head = r'.head ∧ r.working = r'.working) : fileView repo filePath w' = fileView repo filePath w := by
  obtain ⟨hindex, hhead, hworking⟩ := heq
  have hindex' := h.index
  have hhead' := h.head
  have hworking' := h.working
  rw [hindex] at hindex'
  rw [hhead] at hhead'
  rw [hworking] at hworking'
  rw [fileView, fileView, index_eq doc hmagic hindex' h'.index, head_eq doc hhead' h'.head, working_eq doc hapart hworking' h'.working]

theorem stagedView_eq {r r' : StagedReads} (h : PrintsStaged git w r) (h' : PrintsStaged git w' r')
    (heq : trim r.repository.head = trim r'.repository.head ∧ trim r.tree = trim r'.tree) :
    stagedView repo w' = stagedView repo w := by
  obtain ⟨hhead, htree⟩ := heq
  rw [stagedView, stagedView, (doc.writeTree h.tree).1, (doc.writeTree h'.tree).1, (headText_ok doc h.head).2,
    (headText_ok doc h'.head).2, hhead, htree]

end Views

/-! ## Reviews and mutations -/

/-- Where a token comes from. -/
inductive Review where
  | file (filePath : String) (staged : Bool)
  | tree

/-- What a token was taken of. -/
inductive Reads where
  | file (r : FileReads)
  | tree (r : StagedReads)
  deriving DecidableEq

section Runs

variable (git : Git World) (sha256 : List UInt8 → Vector UInt8 32)

namespace Review

/-- The token that a review returns along a timeline. -/
def run (review : Review) (w : Nat → World) : Except String String :=
  match review with
  | .file filePath staged => (((reviewDiff git sha256 filePath staged).run w 0).1).map (·.revision)
  | .tree => ((stagedRevision git sha256).run w 0).1

/-- What the review's token is taken of. -/
def reads (review : Review) (w : Nat → World) : Except String Reads :=
  match review with
  | .file filePath staged => (((fileReads git filePath staged).run w ((diffOutput git filePath staged).run w 0).2).1).map .file
  | .tree => (((stagedReads git).run w 0).1).map .tree

/-- The world that the user is shown: the one of the diff, which is the last command before the token's, or the one of the tree. -/
def shown (review : Review) (w : Nat → World) : World :=
  match review with
  | .file filePath staged => w (((diffOutput git filePath staged).run w 0).2 - 1)
  | .tree => w (((stagedReads git).run w 0).2 - 1)

def view (repo : Repository World) (review : Review) : World → View :=
  match review with
  | .file filePath _ => fileView repo filePath
  | .tree => stagedView repo

end Review

namespace Mutation

/-- The review that a mutation is about; a file's can be of the staged changes. -/
def review (m : Mutation) (staged : Bool) : Review :=
  match m with
  | .stageHunk filePath _ | .stageFile filePath | .restoreFile filePath => .file filePath staged
  | .commit _ => .tree

/-- What the check of a mutation takes its token of. -/
def reads (m : Mutation) (w : Nat → World) : Except String Reads :=
  match m with
  | .stageHunk filePath _ => (((fileReads git filePath false).run w ((diffOutput git filePath false).run w 0).2).1).map .file
  | .stageFile filePath | .restoreFile filePath => (((fileReads git filePath false).run w 0).1).map .file
  | .commit _ => (((stagedReads git).run w 0).1).map .tree

/-- The world that the command of a mutation runs in. -/
def commandWorld (m : Mutation) (expectedRevision : String) (w : Nat → World) : World :=
  w ((m.prepare git sha256 expectedRevision).run w 0).2

/-- Git takes the path of the mutation for a path. -/
def Plain (m : Mutation) : Prop :=
  match m with
  | .stageHunk filePath _ | .stageFile filePath | .restoreFile filePath => ¬HasMagic filePath
  | .commit _ => True

end Mutation

/-- A world prints what was read. -/
def Reads.PrintedBy (git : Git World) (review : Review) (w : World) : Reads → Prop
  | .file r =>
    match review with
    | .file filePath staged => Prints git w filePath staged r
    | .tree => False
  | .tree r => PrintsStaged git w r

/-- The texts that are hashed. -/
def Reads.texts : Reads → List String
  | .file r => [r.text sha256]
  | .tree r => [r.text sha256, r.repository.text]

/-- Either the command of a mutation does not run and the mutation fails, or it runs in a world that looks as it was shown, or it
fails and leaves the world alone. -/
def Outcome.Guarded (outcome : Outcome World) (view : World → View) (shown : World) : Prop :=
  (outcome.ran = none → ∃ e, outcome.result = .error e) ∧
    ∀ before after, outcome.ran = some (before, after) →
      view before = view shown ∨ ((∃ e, outcome.result = .error e) ∧ after = before)

/-- What the token of the review was taken of is what the user was shown, what the check took its token of is still there when the
command runs, and no two of the texts and contents that are compared collide. -/
structure Undisturbed (repo : Repository World) (m : Mutation) (staged : Bool) (expectedRevision : String) (w w' : Nat → World) :
    Prop where
  review : ∀ reads, (m.review staged).reads git w = .ok reads →
    reads.PrintedBy git (m.review staged) ((m.review staged).shown git w)
  check : ∀ reads, m.reads git w' = .ok reads →
    reads.PrintedBy git (m.review false) (m.commandWorld git sha256 expectedRevision w')
  hashes : ∀ reads reads', (m.review staged).reads git w = .ok reads → m.reads git w' = .ok reads' →
    ∀ x ∈ reads.texts sha256, ∀ y ∈ reads'.texts sha256, ¬Collide sha256 (bytesOf x) (bytesOf y)
  contents : ∀ filePath, ContentsApart repo filePath ((m.review staged).shown git w) (m.commandWorld git sha256 expectedRevision w')

/-- The text that the token is taken of. -/
def Reads.text : Reads → String
  | .file r => r.text sha256
  | .tree r => r.text sha256

/-! ## What a run has read -/

variable {git sha256} {w w' : Nat → World} {t t' : Nat}

theorem fileRevision_ok {filePath revision : String} {staged : Bool}
    (h : (fileRevision git sha256 filePath staged).run w t = (.ok revision, t')) :
    ∃ r, (fileReads git filePath staged).run w t = (.ok r, t') ∧ revision = token sha256 (r.text sha256) := by
  unfold fileRevision at h
  obtain ⟨r, s, hr, h⟩ := bind_ok h
  obtain ⟨rfl, rfl⟩ := pure_ok h
  exact ⟨r, hr, rfl⟩

theorem stagedRevision_ok {revision : String} (h : (stagedRevision git sha256).run w t = (.ok revision, t')) :
    ∃ r, (stagedReads git).run w t = (.ok r, t') ∧ revision = token sha256 (r.text sha256) := by
  unfold stagedRevision at h
  obtain ⟨r, s, hr, h⟩ := bind_ok h
  obtain ⟨rfl, rfl⟩ := pure_ok h
  exact ⟨r, hr, rfl⟩

theorem reviewDiff_ok {filePath : String} {staged : Bool} {diff : GitReviewDiff}
    (h : (reviewDiff git sha256 filePath staged).run w t = (.ok diff, t')) :
    ∃ r, (fileReads git filePath staged).run w ((diffOutput git filePath staged).run w t).2 = (.ok r, t') ∧
      diff.revision = token sha256 (r.text sha256) := by
  unfold reviewDiff at h
  obtain ⟨bounded, s, hbounded, h⟩ := bind_ok h
  obtain ⟨revision, s₁, hrevision, h⟩ := bind_ok h
  obtain ⟨rfl, rfl⟩ := pure_ok h
  obtain ⟨r, hr, rfl⟩ := fileRevision_ok hrevision
  refine ⟨r, by rw [hbounded]; exact hr, ?_⟩
  cases bounded <;> rfl

/-- A review's token is taken of what the review has read. -/
theorem Review.run_ok {review : Review} {revision : String} (h : review.run git sha256 w = .ok revision) :
    ∃ reads, review.reads git w = .ok reads ∧ revision = token sha256 (reads.text sha256) := by
  cases review with
  | file filePath staged =>
    unfold Review.run at h
    obtain ⟨diff, hdiff, rfl⟩ := map_eq_ok h
    obtain ⟨r, hr, hrevision⟩ := reviewDiff_ok (Prod.ext hdiff rfl)
    exact ⟨.file r, by rw [Review.reads, hr]; rfl, hrevision⟩
  | tree =>
    unfold Review.run at h
    obtain ⟨r, hr, hrevision⟩ := stagedRevision_ok (Prod.ext h rfl)
    exact ⟨.tree r, by rw [Review.reads, hr]; rfl, hrevision⟩

/-- A mutation whose command runs has read what the expected token is taken of. -/
theorem Mutation.prepare_ok {m : Mutation} {expectedRevision : String} {command : Command World}
    (h : (m.prepare git sha256 expectedRevision).run w 0 = (.ok command, t)) :
    ∃ reads, m.reads git w = .ok reads ∧ expectedRevision = token sha256 (reads.text sha256) := by
  cases m with
  | stageHunk filePath hunkIndex =>
    change (GitReview.stageHunk git sha256 filePath hunkIndex expectedRevision).run w 0 = _ at h
    unfold GitReview.stageHunk at h
    obtain ⟨diff, s, hdiff, h⟩ := bind_ok h
    obtain ⟨r, hr, hrevision⟩ := reviewDiff_ok hdiff
    split at h
    · exact (throw_ok h).elim
    · rename_i heq
      exact ⟨.file r, by rw [Mutation.reads, hr]; rfl, (not_not.mp heq).symm.trans hrevision⟩
  | stageFile filePath =>
    change (GitReview.stageFile git sha256 filePath expectedRevision).run w 0 = _ at h
    unfold GitReview.stageFile at h
    obtain ⟨revision, s, hrun, h⟩ := bind_ok h
    obtain ⟨r, hr, hrevision⟩ := fileRevision_ok hrun
    split at h
    · exact (throw_ok h).elim
    · rename_i heq
      exact ⟨.file r, by rw [Mutation.reads, hr]; rfl, (not_not.mp heq).symm.trans hrevision⟩
  | restoreFile filePath =>
    change (GitReview.restoreFile git sha256 filePath expectedRevision).run w 0 = _ at h
    unfold GitReview.restoreFile at h
    obtain ⟨revision, s, hrun, h⟩ := bind_ok h
    obtain ⟨r, hr, hrevision⟩ := fileRevision_ok hrun
    split at h
    · exact (throw_ok h).elim
    · rename_i heq
      exact ⟨.file r, by rw [Mutation.reads, hr]; rfl, (not_not.mp heq).symm.trans hrevision⟩
  | commit message =>
    have hprepare : (Mutation.commit message).prepare git sha256 expectedRevision =
        GitReview.commit git sha256 message expectedRevision := rfl
    rw [hprepare] at h
    unfold GitReview.commit at h
    split at h
    · exact (throw_ok h).elim
    · obtain ⟨revision, s, hrun, h⟩ := bind_ok h
      obtain ⟨r, hr, hrevision⟩ := stagedRevision_ok hrun
      split at h
      · exact (throw_ok h).elim
      · rename_i heq
        exact ⟨.tree r, by rw [Mutation.reads, hr]; rfl, (not_not.mp heq).symm.trans hrevision⟩

/-- What is read for a file can be told apart, and so can what is read for the staged changes. -/
def Reads.Formed : Reads → Prop
  | .file r => r.Formed
  | .tree r => r.repository.Formed ∧ NulFree (trim r.tree)

variable {repo : Repository World}

theorem Review.formed_reads (doc : Documented git repo) {m : Mutation} (hplain : m.Plain) {staged : Bool} {reads : Reads}
    (h : (m.review staged).reads git w = .ok reads) : reads.Formed := by
  cases m with
  | stageHunk filePath _ | stageFile filePath | restoreFile filePath =>
    obtain ⟨r, hr, rfl⟩ := map_eq_ok h
    exact formed_fileReads doc hplain (Prod.ext hr rfl)
  | commit message =>
    obtain ⟨r, hr, rfl⟩ := map_eq_ok h
    exact formed_stagedReads doc (Prod.ext hr rfl)

theorem Mutation.formed_reads (doc : Documented git repo) {m : Mutation} (hplain : m.Plain) {reads : Reads}
    (h : m.reads git w = .ok reads) : reads.Formed := by
  cases m with
  | stageHunk filePath _ | stageFile filePath | restoreFile filePath =>
    obtain ⟨r, hr, rfl⟩ := map_eq_ok h
    exact formed_fileReads doc hplain (Prod.ext hr rfl)
  | commit message =>
    obtain ⟨r, hr, rfl⟩ := map_eq_ok h
    exact formed_stagedReads doc (Prod.ext hr rfl)

/-- With one token, what is seen when the command runs is what the user was shown. -/
theorem view_eq (doc : Documented git repo) {m : Mutation} (hplain : m.Plain) {staged : Bool} {expectedRevision : String}
    (hundisturbed : Undisturbed git sha256 repo m staged expectedRevision w w') {reads reads' : Reads}
    (h : (m.review staged).reads git w = .ok reads) (h' : m.reads git w' = .ok reads')
    (htoken : token sha256 (reads.text sha256) = token sha256 (reads'.text sha256)) :
    (m.review staged).view repo (m.commandWorld git sha256 expectedRevision w') =
      (m.review staged).view repo ((m.review staged).shown git w) := by
  have hformed := Review.formed_reads doc hplain h
  have hformed' := Mutation.formed_reads doc hplain h'
  have hprinted := hundisturbed.review reads h
  have hprinted' := hundisturbed.check reads' h'
  have hhashes := hundisturbed.hashes reads reads' h h'
  cases m with
  | stageHunk filePath _ | stageFile filePath | restoreFile filePath =>
    obtain ⟨r, -, rfl⟩ := map_eq_ok h
    obtain ⟨r', -, rfl⟩ := map_eq_ok h'
    have htext : r.text sha256 = r'.text sha256 :=
      token_inj htoken (hhashes _ List.mem_cons_self _ List.mem_cons_self)
    exact fileView_eq doc hplain (hundisturbed.contents filePath) hprinted hprinted' (FileReads.text_inj hformed hformed' htext)
  | commit message =>
    obtain ⟨r, -, rfl⟩ := map_eq_ok h
    obtain ⟨r', -, rfl⟩ := map_eq_ok h'
    have htext : r.text sha256 = r'.text sha256 :=
      token_inj htoken (hhashes _ List.mem_cons_self _ List.mem_cons_self)
    obtain ⟨hrepository, htree⟩ := StagedReads.text_inj hformed.2 hformed'.2 htext
    have hrepositoryText : r.repository.text = r'.repository.text :=
      token_inj hrepository (hhashes _ (by simp [Reads.texts]) _ (by simp [Reads.texts]))
    exact stagedView_eq doc hprinted hprinted' ⟨text_inj hformed.1 hformed'.1 hrepositoryText, htree⟩

/-- A mutation that is given a review's token is guarded as long as nothing changes between the moments of the commands that the
token was taken of and the diff, and between those that it was checked by and the command of the mutation. -/
theorem mutation_guarded (doc : Documented git repo) (m : Mutation) (hplain : m.Plain) (staged : Bool) (w w' : Nat → World)
    (revision : String) (hreview : (m.review staged).run git sha256 w = .ok revision)
    (hundisturbed : Undisturbed git sha256 repo m staged revision w w') :
    (m.run git sha256 revision w').Guarded ((m.review staged).view repo) ((m.review staged).shown git w) := by
  obtain ⟨reads, hreads, htoken⟩ := Review.run_ok hreview
  unfold Mutation.run
  cases hprepare : (m.prepare git sha256 revision).run w' 0 with
  | mk result t =>
    cases result with
    | error e => exact ⟨fun _ => ⟨e, rfl⟩, fun before after hran => (nomatch hran)⟩
    | ok command =>
      obtain ⟨reads', hreads', htoken'⟩ := Mutation.prepare_ok hprepare
      have hview := view_eq doc hplain hundisturbed hreads hreads' (htoken.symm.trans htoken')
      rw [Mutation.commandWorld, hprepare] at hview
      simp only
      cases hcommand : command (w' t) with
      | mk result after =>
        cases m <;> cases result <;> refine ⟨fun hran => (nomatch hran), fun before after hran => .inl ?_⟩
        all_goals
          cases hran
          exact hview

end Runs

/-! ## An edit between the check and the command -/

namespace SampleReview

/-- A repository of one tracked file; the world is the content of its working copy. -/
def git : Git (List UInt8) where
  canonicalize _ path := if path = ".git" then .ok "/p/.git" else .ok "/p"
  filesystemInstance _ _ := .ok "unix:1:1"
  hasGitMarker _ path := decide (path = [])
  readDir _ path := if path = [] then .ok ["f"] else .error ""
  entryKind _ _ := .ok .file
  present _ path := decide (path = "f")
  revParse _ arguments :=
    if arguments = ["--show-toplevel"] then .ok "/p\n"
    else if arguments = ["--show-object-format"] then .ok "sha1\n"
    else if arguments = ["--verify", "HEAD"] ∨ arguments = ["HEAD"] then .ok "c0\n"
    else .ok ".git\n"
  lsFilesUnmatched _ _ := .error ""
  lsFilesStage _ path := if path = "f" then .ok "100644 01 0\tf\x00" else .ok ""
  lsTree _ path := if path = "f" then .ok "100644 blob 01\tf\x00" else .ok ""
  hashObject w path := if path = "f" then .ok (hexEncode w ++ "\n") else .error ""
  status _ path := if path = "f" then .ok " M f\x00" else .ok ""
  shortStatus _ path := if path = "f" then .ok " M f\n" else .ok ""
  writeTree _ := .ok "d0\n"
  stagedNames _ := .ok ""
  diff _ _ _ := .ok none
  patchFile _ := .ok ()
  applyCached w _ := (.ok "", w)
  add w _ := (.ok "", w)
  checkout _ _ := (.ok "", [1])
  commit w _ := (.ok "", w)

def repo : Repository (List UInt8) where
  working w path := if path = "f" then .file w else .missing
  index _ path := if path = "f" then ["100644 01 0"] else []
  head _ path := some (if path = "f" then ["100644 blob 01"] else [])
  headCommit _ := some "c0"
  stagedTree _ := some "d0"
  objectId := hexEncode

/-- The digests of the text of the repository and of the text of the file. -/
def sha256 (bytes : List UInt8) : Vector UInt8 32 :=
  if bytes.length = 96 then
    #v[0xa8, 0xb7, 0xbe, 0x82, 0x15, 0x72, 0x27, 0xaf, 0x3a, 0xbf, 0x0f, 0x48, 0x6a, 0x8e, 0xae, 0x25,
      0xb6, 0x34, 0xc0, 0x07, 0x54, 0x95, 0xe8, 0x28, 0x2e, 0xad, 0xe0, 0xb4, 0xc5, 0x00, 0x88, 0x09]
  else
    #v[0xee, 0xc3, 0xd0, 0x07, 0xf5, 0x74, 0xfd, 0x92, 0xcf, 0x54, 0xcd, 0x92, 0x3d, 0xd3, 0xf5, 0x50,
      0x5a, 0xb7, 0xf3, 0xa9, 0x19, 0x54, 0x52, 0xeb, 0x23, 0x84, 0x89, 0x9f, 0xa7, 0x24, 0x5d, 0xf2]

def revision : String := "eec3d007f574fd92cf54cd923dd3f5505ab7f3a9195452eb2384899fa7245df2"

def restore : Mutation := .restoreFile "f"

/-- What is read when the working copy is as it was reviewed. -/
def reads : FileReads where
  repository := ⟨"/p", "unix:1:1", "/p/.git", "unix:1:1", "/p/.git", "unix:1:1", "sha1\n", "c0\n"⟩
  status := " M f\x00"
  index := "100644 01 0\tf\x00"
  head := "100644 blob 01\tf\x00"
  working := "02\n"

/-- The working copy before another program writes it, and after. -/
def reviewed (_ : Nat) : List UInt8 := [2]

def edited (t : Nat) : List UInt8 := if t < 27 then [2] else [3]

theorem documented : Documented git repo where
  canonicalize := by
    intro w path text h
    unfold git at h
    simp only at h
    split at h <;> cases h <;> decide
  filesystemInstance := by
    intro w path text h
    cases h
    decide
  objectFormat := by
    intro w text h
    cases h
    decide
  born := by
    intro w id h
    cases h
    exact ⟨by decide, by decide, "c0\n", rfl, by decide⟩
  unborn := nofun
  status := by
    intro w path text h
    unfold git at h
    simp only at h
    split at h <;> cases h
    · exact ⟨[" M f".toList], by decide, by decide⟩
    · exact ⟨[], by decide, by decide⟩
  index := by
    intro w path text _ h
    unfold git at h
    simp only at h
    split at h <;> rename_i hpath <;> cases h
    · subst hpath
      exact ⟨[("100644 01 0", "f")], by decide, by decide, by simp [repo, entriesOf]⟩
    · exact ⟨[], by decide, by decide, by simp [repo, hpath, entriesOf]⟩
  head := by
    intro w path text h
    unfold git at h
    simp only at h
    split at h <;> rename_i hpath <;> cases h
    · subst hpath
      exact ⟨[("100644 blob 01", "f")], by decide, by decide, by simp [repo, entriesOf]⟩
    · exact ⟨[], by decide, by decide, by simp [repo, hpath, entriesOf]⟩
  present := by
    intro w path h
    simp [repo, of_decide_eq_false h]
  hashObject := by
    intro w path text h
    unfold git at h
    simp only at h
    split at h <;> rename_i hpath <;> cases h
    exact ⟨w, by simp [repo, hpath], rfl⟩
  objectId := by
    intro content hmem
    obtain ⟨b, -, hb⟩ := List.mem_flatMap.mp (String.toList_ofList ▸ hmem)
    rcases List.mem_cons.mp hb with heq | hb
    · exact hexDigit_ne_nul _ heq.symm
    · exact hexDigit_ne_nul _ (List.mem_singleton.mp hb).symm
  writeTree := by
    intro w text h
    cases h
    have htrim : trim "d0\n" = "d0" := by decide
    rw [htrim]
    exact ⟨rfl, by decide⟩

/-- Nothing changes between the review and the command. -/
theorem undisturbed : Undisturbed git sha256 repo restore false revision reviewed reviewed := by
  have hreads : (restore.review false).reads git reviewed = .ok (.file reads) := by decide +kernel
  have hreads' : restore.reads git reviewed = .ok (.file reads) := by decide +kernel
  refine ⟨?_, ?_, ?_, ?_⟩
  · intro reads h
    rw [hreads] at h
    cases h
    exact ⟨rfl, rfl, by decide +kernel⟩
  · intro reads h
    rw [hreads'] at h
    cases h
    exact ⟨rfl, rfl, by decide +kernel⟩
  · intro reads reads' h h' x hx y hy
    rw [hreads] at h
    rw [hreads'] at h'
    cases h
    cases h'
    rw [List.mem_singleton.mp hx, List.mem_singleton.mp hy]
    exact fun hcollide => hcollide.1 rfl
  · intro filePath content content' h h' _
    have hshown : (restore.review false).shown git reviewed = [2] := by decide +kernel
    have hcommand : restore.commandWorld git sha256 revision reviewed = [2] := by decide +kernel
    rw [hshown] at h
    rw [hcommand] at h'
    exact WorkingFile.file.inj (h.symm.trans h')

theorem plain_restore : restore.Plain := by
  change ¬("f".toList.head? = some ':')
  decide

theorem reviewed_run : (restore.review false).run git sha256 reviewed = .ok revision := by
  decide +kernel

end SampleReview

open SampleReview in
theorem mutation_guarded_sample :
    (restore.run git SampleReview.sha256 revision reviewed).Guarded ((restore.review false).view repo)
      ((restore.review false).shown git reviewed) :=
  mutation_guarded documented restore plain_restore false reviewed reviewed revision reviewed_run undisturbed

open SampleReview in
/-- Another program writes the file after the check of a restore, and what it wrote is lost. -/
theorem unreviewed_edit_restored : ¬ ∀ (m : Mutation) (w w' : Nat → List UInt8) (revision : String), m.Plain →
    (m.review false).run git SampleReview.sha256 w = .ok revision →
    (m.run git SampleReview.sha256 revision w').Guarded ((m.review false).view repo) ((m.review false).shown git w) := by
  intro h
  have hguarded := h restore reviewed edited revision plain_restore reviewed_run
  have hran : (restore.run git SampleReview.sha256 revision edited).ran = some ([3], [1]) := by decide +kernel
  have hresult : (restore.run git SampleReview.sha256 revision edited).result = .ok "" := by decide +kernel
  rcases hguarded.2 _ _ hran with hview | ⟨⟨e, he⟩, -⟩
  · exact absurd hview (by decide +kernel)
  · rw [hresult] at he
    cases he

end Rho.GitReview
