import Rho.Lemmas.Package
import Rho.Theorems.Manifest

/-!
# The inventory of a package and its files

The stream that a digest is taken of can be read back, so it stands for the inventory. The inventory stands for the files as long as
no two of their paths read the same with slashes for backslashes: on a system where a backslash can be in a name, the file `a\b` and
the file `b` in the directory `a` have one entry between them, and the second takes the place of the first.
-/

namespace Rho

open FileTree

/-! ## The stream can be read back -/

theorem lengthBytes_length (n : Nat) : (lengthBytes n).length = 8 := by
  rw [lengthBytes, List.length_map, List.length_range]

/-- A number is told by its digits. -/
theorem eq_of_digits {k : Nat} : ∀ {m n : Nat}, m < 256 ^ k → n < 256 ^ k → (∀ i < k, m / 256 ^ i % 256 = n / 256 ^ i % 256) → m = n := by
  induction k with
  | zero =>
    intro m n hm hn _
    exact (Nat.lt_one_iff.mp hm).trans (Nat.lt_one_iff.mp hn).symm
  | succ k ih =>
    intro m n hm hn hdigits
    have hlow := hdigits 0 (Nat.succ_pos k)
    rw [Nat.pow_zero, Nat.div_one, Nat.div_one] at hlow
    have hhigh : m / 256 = n / 256 := by
      rw [Nat.pow_succ'] at hm hn
      refine ih (Nat.div_lt_of_lt_mul hm) (Nat.div_lt_of_lt_mul hn) ?_
      intro i hi
      have hdigit := hdigits (i + 1) (Nat.succ_lt_succ hi)
      rwa [Nat.pow_succ', ← Nat.div_div_eq_div_mul, ← Nat.div_div_eq_div_mul] at hdigit
    rw [← Nat.div_add_mod m 256, hhigh, hlow, Nat.div_add_mod]

theorem lengthBytes_inj {m n : Nat} (hm : m < 256 ^ 8) (hn : n < 256 ^ 8) (h : lengthBytes m = lengthBytes n) : m = n := by
  refine eq_of_digits hm hn ?_
  intro i hi
  have hbyte := List.map_inj_left.mp h i (List.mem_range.mpr hi)
  simpa using congrArg UInt8.toNat hbyte

/-- What was fed first can be told from what comes after it. -/
theorem hashBytes_append_inj {x y s t : List UInt8} (hx : x.length < 256 ^ 8) (hy : y.length < 256 ^ 8)
    (h : hashBytes x ++ s = hashBytes y ++ t) : x = y ∧ s = t := by
  unfold hashBytes at h
  rw [List.append_assoc, List.append_assoc] at h
  obtain ⟨hlength, hrest⟩ := List.append_inj h (by rw [lengthBytes_length, lengthBytes_length])
  exact List.append_inj hrest (lengthBytes_inj hx hy hlength)

/-- The entry is within what a length can tell. -/
def LengthsFit (e : List UInt8 × List UInt8) : Prop := e.1.length < 256 ^ 8 ∧ e.2.length < 256 ^ 8

theorem inventoryStream_inj {a b : List (List UInt8 × List UInt8)} (ha : ∀ e ∈ a, LengthsFit e) (hb : ∀ e ∈ b, LengthsFit e)
    (h : inventoryStream a = inventoryStream b) : a = b := by
  have hne : ∀ (e : List UInt8 × List UInt8) (l : List (List UInt8 × List UInt8)), inventoryStream (e :: l) ≠ [] := by
    intro e l hnil
    have hlength := congrArg List.length hnil
    simp [inventoryStream, hashBytes, lengthBytes_length] at hlength
  induction a generalizing b with
  | nil =>
    cases b with
    | nil => rfl
    | cons e b => exact absurd h.symm (hne e b)
  | cons e a ih =>
    cases b with
    | nil => exact absurd h (hne e a)
    | cons e' b =>
      have hme := ha e List.mem_cons_self
      have hme' := hb e' List.mem_cons_self
      simp only [inventoryStream, List.flatMap_cons, List.append_assoc] at h
      obtain ⟨hpath, h⟩ := hashBytes_append_inj hme.1 hme'.1 h
      obtain ⟨hcontent, h⟩ := hashBytes_append_inj hme.2 hme'.2 h
      rw [Prod.ext hpath hcontent, ih (fun x hx => ha x (List.mem_cons_of_mem _ hx)) (fun x hx => hb x (List.mem_cons_of_mem _ hx)) h]

/-- A slice of bytes: its length is a machine word. -/
structure ByteSlice where
  bytes : List UInt8
  fits : bytes.length < 2 ^ 64

/-- The paths and contents of entries. -/
def sliceBytes (entries : List (ByteSlice × ByteSlice)) : List (List UInt8 × List UInt8) :=
  entries.map (fun e => (e.1.bytes, e.2.bytes))

theorem sliceBytes_injective : Function.Injective sliceBytes := by
  refine List.map_injective_iff.mpr ?_
  rintro ⟨⟨path, _⟩, ⟨content, _⟩⟩ ⟨⟨path', _⟩, ⟨content', _⟩⟩ h
  cases h
  rfl

theorem lengthsFit_sliceBytes (entries : List (ByteSlice × ByteSlice)) : ∀ e ∈ sliceBytes entries, LengthsFit e := by
  intro e he
  obtain ⟨x, -, rfl⟩ := List.mem_map.mp he
  exact ⟨x.1.fits, x.2.fits⟩

/-- Entries are told apart by the stream that is hashed, so two digests are the same only where the entries are or where the hash
of two streams is. -/
theorem digest_stream_injective {F : Type} [LinearOrder F] (crates : PackageCrates F) (a b : List (ByteSlice × ByteSlice)) :
    (inventoryStream (sliceBytes a) = inventoryStream (sliceBytes b) ↔ a = b) ∧
      (fromInventory crates (sliceBytes a) = fromInventory crates (sliceBytes b) → a = b ∨
        inventoryStream (sliceBytes a) ≠ inventoryStream (sliceBytes b) ∧
          crates.sha256 (inventoryStream (sliceBytes a)) = crates.sha256 (inventoryStream (sliceBytes b))) := by
  have hinj : inventoryStream (sliceBytes a) = inventoryStream (sliceBytes b) ↔ a = b := by
    refine ⟨fun h => ?_, congrArg (fun entries => inventoryStream (sliceBytes entries))⟩
    exact sliceBytes_injective (inventoryStream_inj (lengthsFit_sliceBytes a) (lengthsFit_sliceBytes b) h)
  refine ⟨hinj, fun h => ?_⟩
  by_cases hsame : a = b
  · exact .inl hsame
  · exact .inr ⟨mt hinj.mp hsame, Vector.toList_inj.mp (hexEncode_inj h)⟩

/-! ## Accepted packages -/

/-- A package that discovery accepts. -/
structure AcceptedPackage {F : Type} [LinearOrder F] (crates : PackageCrates F) where
  name : Name
  entries : List (Name × Node)
  wellFormed : (Node.dir entries).WellFormed
  plugin : DiscoveredPlugin
  accepted : discoverOne crates name entries = .ok plugin

namespace AcceptedPackage

variable {F : Type} [LinearOrder F] {crates : PackageCrates F} (t u : AcceptedPackage crates)

/-- The regular files, with their paths in the package. -/
def files : List (Path × List UInt8) := filesOf [] t.entries

/-- The inventory that discovery collects. -/
def inventory : List (List UInt8 × List UInt8) :=
  match collectPackageInventory t.entries t.plugin.manifest.manifestEntryKeys with
  | .ok i => i.files
  | .error _ => []

def stream : List UInt8 := inventoryStream t.inventory

/-- The inventory has one entry for each file, under its normalized path, in increasing order. -/
def InventoryExact : Prop := OrdMap.Sorted t.inventory ∧ t.inventory.Perm (t.files.map normalizedFile)

/-- The same files with the same contents. -/
def SameFiles : Prop := ∀ f, f ∈ t.files ↔ f ∈ u.files

/-- No two files have paths that read the same with slashes for backslashes. -/
def PathsApart : Prop :=
  ∀ f ∈ t.files, ∀ g ∈ t.files, (joinPath f.1).map slashedByte = (joinPath g.1).map slashedByte → f.1 = g.1

/-- The same files when slashes are read for backslashes. -/
def ReadsLike : Prop := ∀ e, e ∈ t.files.map normalizedFile ↔ e ∈ u.files.map normalizedFile

theorem collected : ∃ i, collectPackageInventory t.entries t.plugin.manifest.manifestEntryKeys = .ok i ∧ t.inventory = i.files ∧
    t.plugin.digest = fromInventory crates i.files := by
  obtain ⟨m, -, h⟩ := Fallible.bind_eq_ok t.accepted
  obtain ⟨⟨⟩, -, h⟩ := Fallible.bind_eq_ok h
  obtain ⟨i, hi, h⟩ := Fallible.bind_eq_ok h
  cases h' : t.plugin with
  | mk name manifest digest =>
    rw [h'] at h
    cases h
    refine ⟨i, hi, ?_, rfl⟩
    unfold inventory
    rw [h', hi]

theorem inventory_eq : t.inventory = OrdMap.ofList (t.files.map normalizedFile) := by
  obtain ⟨i, hi, hinventory, -⟩ := t.collected
  rw [hinventory]
  exact (Rho.collected hi).2

theorem sorted_inventory : OrdMap.Sorted t.inventory := by
  rw [t.inventory_eq]
  exact OrdMap.sorted_ofList _

theorem nodup_paths : (t.files.map Prod.fst).Nodup := nodup_filesOf t.wellFormed.1 t.wellFormed.2

theorem nodup_entries_iff : ((t.files.map normalizedFile).map Prod.fst).Nodup ↔ t.PathsApart := by
  rw [List.map_map]
  constructor
  · intro hnodup f hf g hg heq
    exact congrArg Prod.fst (List.inj_on_of_nodup_map hnodup hf hg heq)
  · intro hapart
    refine (List.nodup_map_iff_inj_on t.nodup_paths.of_map).mpr ?_
    intro f hf g hg heq
    exact List.inj_on_of_nodup_map t.nodup_paths hf hg (hapart f hf g hg heq)

theorem inventoryExact_iff : t.InventoryExact ↔ t.PathsApart := by
  constructor
  · rintro ⟨hsorted, hperm⟩
    exact t.nodup_entries_iff.mp ((hperm.map Prod.fst).nodup_iff.mp hsorted.nodup_keys)
  · intro hapart
    refine ⟨t.sorted_inventory, ?_⟩
    rw [t.inventory_eq]
    exact OrdMap.ofList_perm (t.nodup_entries_iff.mpr hapart)

theorem lengthsFit_inventory : ∀ e ∈ t.inventory, LengthsFit e := by
  obtain ⟨i, hi, hinventory, -⟩ := t.collected
  obtain ⟨hbounds, hfiles⟩ := Rho.collected hi
  rw [hinventory, hfiles]
  intro e he
  obtain ⟨f, hf, rfl⟩ := List.mem_map.mp (OrdMap.mem_of_mem_ofList he)
  obtain ⟨-, hpath, hcontent⟩ := hbounds f hf
  refine ⟨?_, hcontent.trans_lt (by decide)⟩
  rw [normalizedFile, List.length_map]
  exact hpath.trans_lt (by decide)

end AcceptedPackage

/-- Two accepted packages have exact inventories that tell their files apart exactly when in neither of them two paths differ only by
slashes and backslashes, and their files do not differ only by that either. -/
theorem inventories_exact_iff {F : Type} [LinearOrder F] {crates : PackageCrates F} (t u : AcceptedPackage crates) :
    (t.InventoryExact ∧ u.InventoryExact ∧ (t.stream = u.stream ↔ t.SameFiles u)) ↔
      (t.PathsApart ∧ u.PathsApart ∧ (t.ReadsLike u → t.SameFiles u)) := by
  rw [t.inventoryExact_iff, u.inventoryExact_iff]
  refine and_congr_right fun ht => and_congr_right fun hu => ?_
  obtain ⟨hsorted, hperm⟩ := t.inventoryExact_iff.mpr ht
  obtain ⟨hsorted', hperm'⟩ := u.inventoryExact_iff.mpr hu
  have hstream : t.stream = u.stream ↔ t.ReadsLike u := by
    constructor
    · intro h e
      have heq : t.inventory = u.inventory := inventoryStream_inj t.lengthsFit_inventory u.lengthsFit_inventory h
      rw [← hperm.mem_iff, ← hperm'.mem_iff, heq]
    · intro h
      have heq : t.inventory = u.inventory := by
        refine hsorted.eq_of_perm hsorted' ?_
        refine (List.perm_ext_iff_of_nodup hsorted.nodup_keys.of_map hsorted'.nodup_keys.of_map).mpr ?_
        intro e
        rw [hperm.mem_iff, hperm'.mem_iff, h e]
      rw [AcceptedPackage.stream, heq, AcceptedPackage.stream]
  rw [hstream]
  constructor
  · exact fun h => h.mp
  · intro h
    refine ⟨h, ?_⟩
    intro hsame e
    simp only [List.mem_map, hsame _]

/-! ## A package with a backslash in a name -/

namespace SamplePackage

def manifestText (id : String) : String :=
  "\x7b\"schemaVersion\":1,\"id\":\"" ++ id ++ "\",\"name\":\"a\",\"version\":\"0.1.0\",\"apiVersion\":\"^1.0\",\"runtime\":" ++
    "\x7b\"kind\":\"wasm\",\"entry\":\"e\",\"scope\":\"project\"\x7d\x7d"

def manifest (id : PluginId) : WorkspacePluginManifest where
  schemaVersion := 1
  id := id
  name := "a"
  version := "0.1.0"
  apiVersion := "^1.0"
  runtime := ⟨.wasm, "e", ScopePolicy.projectKind⟩
  activation := []
  provides := []
  requires := []
  optional := []
  permissions := []
  contributions := []
  ui := none

/-- The file `b` in the directory `a`, and the file `a\b`. -/
def entries : List (Name × Node) :=
  [(bytesOf "a", .dir [(bytesOf "b", .file [1])]), (bytesOf "a\\b", .file [2]), (bytesOf "e", .file []),
    (manifestFile, .file (bytesOf (manifestText "a")))]

theorem pluginId_valid : validateIdentifier "a" = none := by decide +kernel

def pluginId : PluginId := ⟨"a", pluginId_valid⟩

/-- The digest of the stream with the one entry. -/
def hash : Vector UInt8 32 :=
  #v[0x80, 0xc4, 0x4d, 0xe4, 0xf4, 0xf5, 0x4d, 0xce, 0xe7, 0xce, 0x32, 0x6d, 0x9d, 0xe8, 0xa0, 0x20,
    0x4a, 0xb9, 0x01, 0xea, 0xb9, 0x4b, 0xef, 0x5f, 0x4e, 0xcc, 0x85, 0x33, 0xb9, 0x40, 0x98, 0xf9]

def crates : PackageCrates Int := ⟨SampleSchema.integers, SampleManifest.crates, fun _ => hash⟩

def package : AcceptedPackage crates where
  name := bytesOf "a"
  entries := entries
  wellFormed := by decide +kernel
  plugin := ⟨bytesOf "a", manifest pluginId, hexEncode hash.toList⟩
  accepted := by decide +kernel

end SamplePackage

/-- Four files are accepted under three paths. -/
theorem backslash_shares_entry : ¬ ∀ t u : AcceptedPackage SamplePackage.crates,
    t.InventoryExact ∧ u.InventoryExact ∧ (t.stream = u.stream ↔ t.SameFiles u) := by
  intro h
  have hperm := (h SamplePackage.package SamplePackage.package).1.2
  have hfiles : SamplePackage.package.files.length = 4 := by decide +kernel
  have hinventory : SamplePackage.package.inventory.length = 3 := by decide +kernel
  have hlength := hperm.length_eq
  rw [List.length_map, hfiles, hinventory] at hlength
  omega

end Rho
