import Mathlib.Data.List.Lex
import Mathlib.Data.List.Nodup
import Mathlib.Tactic.Common
import Rho.Lib.OrdMap

/-!
# File trees

A directory is a map from names to what stands under them, kept in the order of the names. A name is a text of bytes. What a link
leads to is no part of a tree: a path through a link leads nowhere here.
-/

namespace FileTree

/-- Bytes in their order, for the order of the names. -/
scoped instance byteOrder : LinearOrder UInt8 where
  le_refl := UInt8.le_refl
  le_trans _ _ _ := UInt8.le_trans
  le_antisymm _ _ := UInt8.le_antisymm
  le_total := UInt8.le_total
  lt_iff_le_not_ge a b := by
    rw [UInt8.lt_iff_le_and_ne]
    constructor
    · rintro ⟨hle, hne⟩
      exact ⟨hle, fun hge => hne (UInt8.le_antisymm hle hge)⟩
    · rintro ⟨hle, hnot⟩
      exact ⟨hle, fun heq => hnot (heq ▸ UInt8.le_refl _)⟩
  toDecidableLE := inferInstance
  toDecidableEq := inferInstance
  toDecidableLT := inferInstance

abbrev Name := List UInt8

abbrev Path := List Name

/-- A name that an entry can have: not empty, no way up or to itself, without a slash and without the zero byte. -/
def ValidName (name : Name) : Prop := name ≠ [] ∧ name ≠ [46] ∧ name ≠ [46, 46] ∧ 47 ∉ name ∧ 0 ∉ name

instance : DecidablePred ValidName := fun _ => instDecidableAnd

inductive Node where
  | file (bytes : List UInt8)
  | dir (entries : List (Name × Node))
  | symlink
  | other

/-! ## Paths in a tree -/

namespace Node

/-- What stands at a path. -/
def find : Path → Node → Option Node
  | [], n => some n
  | name :: path, dir entries => (OrdMap.get entries name).bind (find path)
  | _ :: _, _ => none

end Node

/-! ## Files -/

mutual

/-- The regular files below a path, each with its own path. -/
def filesOf (path : Path) : List (Name × Node) → List (Path × List UInt8)
  | [] => []
  | (name, node) :: entries => Node.files (path ++ [name]) node ++ filesOf path entries

def Node.files (path : Path) : Node → List (Path × List UInt8)
  | .file bytes => [(path, bytes)]
  | .dir entries => filesOf path entries
  | .symlink => []
  | .other => []

end

mutual

/-- Every directory of the tree is in order, and its names are valid. -/
def Node.WellFormed : Node → Prop
  | .dir entries => OrdMap.Sorted entries ∧ WellFormedEntries entries
  | _ => True

def WellFormedEntries : List (Name × Node) → Prop
  | [] => True
  | (name, node) :: entries => ValidName name ∧ node.WellFormed ∧ WellFormedEntries entries

end

mutual

def Node.decidableWellFormed : ∀ n : Node, Decidable n.WellFormed
  | .dir entries =>
    have : Decidable (WellFormedEntries entries) := decidableWellFormedEntries entries
    inferInstanceAs (Decidable (List.Pairwise _ entries ∧ WellFormedEntries entries))
  | .file _ => isTrue trivial
  | .symlink => isTrue trivial
  | .other => isTrue trivial

def decidableWellFormedEntries : ∀ entries : List (Name × Node), Decidable (WellFormedEntries entries)
  | [] => isTrue trivial
  | (name, node) :: entries =>
    have : Decidable node.WellFormed := node.decidableWellFormed
    have : Decidable (WellFormedEntries entries) := decidableWellFormedEntries entries
    inferInstanceAs (Decidable (ValidName name ∧ node.WellFormed ∧ WellFormedEntries entries))

end

instance (n : Node) : Decidable n.WellFormed := n.decidableWellFormed

theorem wellFormedEntries_iff {entries : List (Name × Node)} :
    WellFormedEntries entries ↔ ∀ e ∈ entries, ValidName e.1 ∧ e.2.WellFormed := by
  induction entries with
  | nil => simp [WellFormedEntries]
  | cons e entries ih =>
    obtain ⟨name, node⟩ := e
    simp only [WellFormedEntries, ih, List.forall_mem_cons, and_assoc]

theorem Node.WellFormed.find {n m : Node} (h : n.WellFormed) {p : Path} (hfind : n.find p = some m) : m.WellFormed := by
  induction p generalizing n with
  | nil =>
    cases hfind
    exact h
  | cons a p ih =>
    cases n with
    | dir entries =>
      obtain ⟨k, hk, hfind⟩ := Option.bind_eq_some_iff.mp hfind
      exact ih (wellFormedEntries_iff.mp h.2 _ (OrdMap.mem_of_get hk)).2 hfind
    | file _ => cases hfind
    | symlink => cases hfind
    | other => cases hfind

mutual

theorem mem_filesOf {path : Path} {entries : List (Name × Node)} {f : Path × List UInt8} (h : f ∈ filesOf path entries) :
    ∃ e ∈ entries, ∃ rest, f.1 = path ++ e.1 :: rest := by
  match entries, h with
  | (name, node) :: entries, h =>
    rcases List.mem_append.mp h with h | h
    · obtain ⟨rest, hrest⟩ := mem_files h
      exact ⟨(name, node), List.mem_cons_self, rest, by rw [hrest, List.append_assoc, List.singleton_append]⟩
    · obtain ⟨e, he, rest, hrest⟩ := mem_filesOf h
      exact ⟨e, List.mem_cons_of_mem _ he, rest, hrest⟩

theorem mem_files {path : Path} {node : Node} {f : Path × List UInt8} (h : f ∈ node.files path) : ∃ rest, f.1 = path ++ rest := by
  match node, h with
  | .file bytes, h =>
    cases List.mem_singleton.mp h
    exact ⟨[], (List.append_nil path).symm⟩
  | .dir entries, h =>
    obtain ⟨e, -, rest, hrest⟩ := mem_filesOf h
    exact ⟨e.1 :: rest, hrest⟩

end

mutual

/-- No two files have one path. -/
theorem nodup_filesOf {path : Path} {entries : List (Name × Node)} (hsorted : OrdMap.Sorted entries)
    (hvalid : WellFormedEntries entries) : ((filesOf path entries).map Prod.fst).Nodup := by
  match entries, hsorted, hvalid with
  | [], _, _ => exact List.nodup_nil
  | (name, node) :: entries, hsorted, hvalid =>
    obtain ⟨hfirst, hsorted⟩ := List.pairwise_cons.mp hsorted
    simp only [filesOf, List.map_append]
    refine List.nodup_append'.mpr ⟨nodup_files hvalid.2.1, nodup_filesOf hsorted hvalid.2.2, ?_⟩
    -- the paths part at the name of the first entry, which comes before the others
    intro p hp hp'
    obtain ⟨f, hf, rfl⟩ := List.mem_map.mp hp
    obtain ⟨g, hg, hfg⟩ := List.mem_map.mp hp'
    obtain ⟨rest, hrest⟩ := mem_files hf
    obtain ⟨e, he, rest', hrest'⟩ := mem_filesOf hg
    rw [← hfg, hrest', List.append_assoc] at hrest
    have hname : e.1 = name := (List.cons.inj (List.append_cancel_left hrest)).1
    exact absurd (hfirst e he) (by rw [hname]; exact lt_irrefl _)

theorem nodup_files {path : Path} {node : Node} (hvalid : node.WellFormed) : ((node.files path).map Prod.fst).Nodup := by
  match node, hvalid with
  | .file bytes, _ => exact List.nodup_singleton _
  | .dir entries, hvalid => exact nodup_filesOf hvalid.1 hvalid.2
  | .symlink, _ => exact List.nodup_nil
  | .other, _ => exact List.nodup_nil

end

end FileTree
