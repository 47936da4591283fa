import Rho.Extension.Package
import Rho.Lib.Fallible

/-!
# The walk over a package

The walk reads the regular files in the order of the tree and refuses everything else, so a walk that succeeds is a fold over the
files. What it collects is the map of the normalized paths, the last of several files with one path taking the place of the others.
-/

namespace Rho

open FileTree

/-! ## Texts and their bytes -/

theorem textOf_bytesOf (s : String) : textOf (bytesOf s) = some s := by
  unfold textOf bytesOf
  rw [Array.toArray_toList]
  exact dif_pos s.isValidUTF8

theorem bytesOf_injective : Function.Injective bytesOf := by
  intro s t h
  have htext := congrArg textOf h
  rw [textOf_bytesOf, textOf_bytesOf] at htext
  exact Option.some.inj htext

/-! ## Digests -/

/-- Two streams are different and have one hash. -/
def Collide (sha256 : List UInt8 → Vector UInt8 32) (x y : List UInt8) : Prop := x ≠ y ∧ sha256 x = sha256 y

theorem hexDigit_inj : ∀ m < 16, ∀ n < 16, Json.hexDigit m = Json.hexDigit n → m = n := by
  decide +kernel

theorem hexEncode_inj {x y : List UInt8} (h : hexEncode x = hexEncode y) : x = y := by
  have hchars := String.ofList_injective h
  clear h
  induction x generalizing y with
  | nil =>
    cases y with
    | nil => rfl
    | cons b y => cases hchars
  | cons a x ih =>
    cases y with
    | nil => cases hchars
    | cons b y =>
      simp only [List.flatMap_cons, List.cons_append, List.nil_append, List.cons.injEq] at hchars
      obtain ⟨hhigh, hlow, hrest⟩ := hchars
      have ha := a.toNat_lt
      have hb := b.toNat_lt
      have hhigh' := hexDigit_inj _ (by omega) _ (by omega) hhigh
      have hlow' := hexDigit_inj _ (by omega) _ (by omega) hlow
      rw [UInt8.toNat_inj.mp (by omega : a.toNat = b.toNat), ih hrest]

/-! ## A walk is a fold over the files -/

/-- The path of a directory or file can be read. -/
def ReadablePath (path : Path) : Prop := (textOf (joinPath path)).isSome

mutual

/-- The walk meets nothing but regular files and directories, not too deep and with paths that can be read. -/
def PlainEntries (depth : Nat) (path : Path) : List (Name × Node) → Prop
  | [] => True
  | (name, node) :: entries => PlainNode depth (path ++ [name]) node ∧ PlainEntries depth path entries

def PlainNode (depth : Nat) (path : Path) : Node → Prop
  | .file _ => True
  | .dir entries => ReadablePath path ∧ depth + 1 ≤ maxPackageDepth ∧ PlainEntries (depth + 1) path entries
  | .symlink => False
  | .other => False

end

/-- What is done with the files, one after the other. -/
def walkFiles (files : List (Path × List UInt8)) (inventory : Inventory) : Except PackageError Inventory :=
  files.foldlM (fun i f => walkFile f.1 f.2 i) inventory

theorem walkFiles_append (a b : List (Path × List UInt8)) (inventory : Inventory) :
    walkFiles (a ++ b) inventory = walkFiles a inventory >>= walkFiles b := List.foldlM_append

theorem bind_eq_ok_iff {α β : Type} {x : Except PackageError α} {f : α → Except PackageError β} {b : β} :
    x >>= f = .ok b ↔ ∃ a, x = .ok a ∧ f a = .ok b := by
  constructor
  · exact Fallible.bind_eq_ok
  · rintro ⟨a, rfl, h⟩
    exact h

theorem normalizeRelative_eq_ok {path : Path} {normalized : List UInt8} :
    normalizeRelative path = .ok normalized ↔ ReadablePath path ∧ normalized = (joinPath path).map slashedByte := by
  unfold normalizeRelative ReadablePath
  cases textOf (joinPath path) with
  | none => simp
  | some text => simp [eq_comm]

mutual

theorem walkEntries_eq_ok {depth : Nat} {path : Path} {entries : List (Name × Node)} {i i' : Inventory} :
    walkEntries depth path entries i = .ok i' ↔ PlainEntries depth path entries ∧ walkFiles (filesOf path entries) i = .ok i' := by
  match entries with
  | [] => simp [walkEntries, PlainEntries, filesOf, walkFiles, pure, Except.pure]
  | (name, node) :: entries =>
    simp only [walkEntries, PlainEntries, filesOf, walkFiles_append, bind_eq_ok_iff, walkNode_eq_ok, walkEntries_eq_ok]
    constructor
    · rintro ⟨j, ⟨hnode, hj⟩, hrest, hi'⟩
      exact ⟨⟨hnode, hrest⟩, j, hj, hi'⟩
    · rintro ⟨⟨hnode, hrest⟩, j, hj, hi'⟩
      exact ⟨j, ⟨hnode, hj⟩, hrest, hi'⟩

theorem walkNode_eq_ok {depth : Nat} {path : Path} {node : Node} {i i' : Inventory} :
    walkNode depth path node i = .ok i' ↔ PlainNode depth path node ∧ walkFiles (node.files path) i = .ok i' := by
  match node with
  | .file content => simp [walkNode, PlainNode, Node.files, walkFiles]
  | .symlink => simp [walkNode, PlainNode]
  | .other => simp [walkNode, PlainNode, bind_eq_ok_iff]
  | .dir entries =>
    simp only [walkNode, PlainNode, Node.files, bind_eq_ok_iff, normalizeRelative_eq_ok]
    by_cases hdepth : maxPackageDepth < depth + 1
    · simp [hdepth, Nat.not_le.mpr hdepth]
    · simp only [if_neg hdepth, walkEntries_eq_ok, Nat.not_lt.mp hdepth, true_and]
      constructor
      · rintro ⟨normalized, ⟨hpath, -⟩, hplain, hi'⟩
        exact ⟨⟨hpath, hplain⟩, hi'⟩
      · rintro ⟨⟨hpath, hplain⟩, hi'⟩
        exact ⟨_, ⟨hpath, rfl⟩, hplain, hi'⟩

end

/-! ## What is collected -/

/-- The entry of a file. -/
def normalizedFile (f : Path × List UInt8) : List UInt8 × List UInt8 := ((joinPath f.1).map slashedByte, f.2)

/-- The file is within the bounds on a single one. -/
structure WithinBounds (f : Path × List UInt8) : Prop where
  path : ReadablePath f.1
  pathBytes : (joinPath f.1).length ≤ maxRelativePathBytes
  contentBytes : f.2.length ≤ maxPackageFileBytes

/-- A path that reads like another one in lowercase. -/
def Collides (files : List (List UInt8 × List UInt8)) (key : List UInt8) : Prop :=
  (∃ f ∈ files, f.1.map asciiLower = key.map asciiLower) ∧ OrdMap.get files key = none

variable {i i' : Inventory} {entries : List (Name × Node)} {keys : List String}

theorem walkFile_eq_ok {path : Path} {content : List UInt8} : walkFile path content i = .ok i' ↔
      WithinBounds (path, content) ∧ i.files.length + 1 ≤ maxPackageFiles ∧ ¬ Collides i.files ((joinPath path).map slashedByte) ∧
        i.aggregateBytes + content.length ≤ maxPackageAggregateBytes ∧
        i' = ⟨OrdMap.insert ((joinPath path).map slashedByte) content i.files, i.aggregateBytes + content.length⟩ := by
  unfold walkFile
  rw [bind_eq_ok_iff]
  constructor
  · rintro ⟨normalized, hnormalized, h⟩
    obtain ⟨hpath, rfl⟩ := normalizeRelative_eq_ok.mp hnormalized
    split at h
    · cases h
    rename_i hlength
    split at h
    · cases h
    rename_i hcontent
    split at h
    · cases h
    rename_i hcount
    split at h
    · cases h
    rename_i hcollides
    split at h
    · cases h
    rename_i haggregate
    cases h
    rw [List.length_map, Nat.not_lt] at hlength
    refine ⟨⟨hpath, hlength, Nat.not_lt.mp hcontent⟩, Nat.not_lt.mp hcount, ?_, Nat.not_lt.mp haggregate, rfl⟩
    rintro ⟨⟨f, hf, hlower⟩, hnone⟩
    refine hcollides ?_
    rw [Bool.and_eq_true, List.any_eq_true]
    exact ⟨⟨f, hf, beq_iff_eq.mpr hlower⟩, by rw [hnone]; rfl⟩
  · rintro ⟨⟨hpath, hlength, hcontent⟩, hcount, hcollides, haggregate, rfl⟩
    refine ⟨_, normalizeRelative_eq_ok.mpr ⟨hpath, rfl⟩, ?_⟩
    rw [if_neg (by rw [List.length_map]; exact Nat.not_lt.mpr hlength), if_neg (Nat.not_lt.mpr hcontent),
      if_neg (Nat.not_lt.mpr hcount), if_neg, if_neg (Nat.not_lt.mpr haggregate)]
    intro h
    rw [Bool.and_eq_true, List.any_eq_true] at h
    obtain ⟨⟨f, hf, hlower⟩, hnone⟩ := h
    exact hcollides ⟨⟨f, hf, beq_iff_eq.mp hlower⟩, Option.isNone_iff_eq_none.mp hnone⟩

/-- The files of a walk that succeeds are within their bounds, and what is collected is the map of their entries. -/
theorem walkFiles_collects {files : List (Path × List UInt8)} (h : walkFiles files i = .ok i') : (∀ f ∈ files, WithinBounds f) ∧
      i'.files = (files.map normalizedFile).foldl (fun m e => OrdMap.insert e.1 e.2 m) i.files := by
  induction files generalizing i with
  | nil =>
    cases h
    exact ⟨fun _ hf => absurd hf List.not_mem_nil, rfl⟩
  | cons f files ih =>
    obtain ⟨j, hj, hrest⟩ := Fallible.bind_eq_ok (show walkFile f.1 f.2 i >>= walkFiles files = .ok i' from h)
    obtain ⟨hbounds, -, -, -, rfl⟩ := walkFile_eq_ok.mp hj
    obtain ⟨hall, hfiles⟩ := ih hrest
    refine ⟨?_, hfiles⟩
    intro g hg
    rcases List.mem_cons.mp hg with rfl | hg
    · exact hbounds
    · exact hall g hg

theorem collectPackageInventory_eq_ok : collectPackageInventory entries keys = .ok i ↔
      walkEntries 0 [] entries ⟨[], 0⟩ = .ok i ∧ ∀ key ∈ keys, i.declares key = true := by
  unfold collectPackageInventory
  rw [bind_eq_ok_iff]
  constructor
  · rintro ⟨j, hj, h⟩
    split at h
    · cases h
    · rename_i hnone
      cases h
      refine ⟨hj, ?_⟩
      intro key hkey
      simpa using List.find?_eq_none.mp hnone key hkey
  · rintro ⟨hi, hkeys⟩
    refine ⟨i, hi, ?_⟩
    rw [List.find?_eq_none.mpr (fun key hkey => by simp [hkeys key hkey])]

/-- The inventory of a package is the map of the entries of its files, which are within their bounds. -/
theorem collected (h : collectPackageInventory entries keys = .ok i) :
    (∀ f ∈ filesOf [] entries, WithinBounds f) ∧ i.files = OrdMap.ofList ((filesOf [] entries).map normalizedFile) :=
  walkFiles_collects (walkEntries_eq_ok.mp (collectPackageInventory_eq_ok.mp h).1).2

end Rho
