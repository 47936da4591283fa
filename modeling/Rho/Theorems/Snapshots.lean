import Rho.Server.Snapshot
import Rho.Store.Snapshots

/-!
# What the store reads back from an environment snapshot

The coordinator writes a snapshot under the names of its own fields (`name`, `version`, `runtime`); the comparison of runs and the
audit look for `Package`, `Version` and `R`. So the evidence is recovered only when there is none.
-/

namespace Rho

open CanonicalEnvironmentSnapshot

namespace SnapshotAux

open Json

/-! ## The stored text is read as the snapshot's JSON -/

theorem exact_optionJson (o : Option String) : Exact (optionJson o) := by
  cases o <;> simp [optionJson, Exact]

theorem nesting_optionJson (o : Option String) : nesting (optionJson o) = 0 := by
  cases o <;> simp [optionJson, nesting]

variable {α : Type} {s s₁ : CanonicalEnvironmentSnapshot}

theorem exactList_map (f : α → Json) (hf : ∀ a, Exact (f a)) : ∀ l : List α, ExactList (l.map f)
  | [] => by simp [ExactList]
  | a :: l => by simp [ExactList, hf a, exactList_map f hf l]

theorem nestingList_map (f : α → Json) (n : Nat) (hf : ∀ a, nesting (f a) ≤ n) : ∀ l : List α, nestingList (l.map f) ≤ n
  | [] => by simp [nestingList]
  | a :: l => by
    rw [List.map_cons, nestingList]
    exact Nat.max_le.mpr ⟨hf a, nestingList_map f n hf l⟩

theorem exact_toJson (s : CanonicalEnvironmentSnapshot) : Exact s.toJson := by
  have hlock : ExactList (s.renv.lockfile.packages.map (·.toJson)) :=
    exactList_map _ (fun p => by simp [CanonicalLockfilePackage.toJson, Exact, ExactFields, exact_optionJson]) _
  have hinstalled : ExactList (s.installedPackages.map (·.toJson)) :=
    exactList_map _ (fun p => by simp [CanonicalInstalledPackage.toJson, Exact, ExactFields, exact_optionJson]) _
  have hpaths : ExactList (s.libraryPaths.map Json.str) := exactList_map _ (fun p => by simp [Exact]) _
  simp [toJson, CanonicalRuntimeState.toJson, CanonicalBioconductorState.toJson,
    CanonicalRenvState.toJson, CanonicalLockfileState.toJson, Exact, ExactFields, exact_optionJson, hlock, hinstalled, hpaths]

theorem nesting_toJson (s : CanonicalEnvironmentSnapshot) : nesting s.toJson ≤ 5 := by
  have hlock : nestingList (s.renv.lockfile.packages.map (·.toJson)) ≤ 1 :=
    nestingList_map _ 1
      (fun p => by simp [CanonicalLockfilePackage.toJson, nesting, nestingFields, nesting_optionJson]) _
  have hinstalled : nestingList (s.installedPackages.map (·.toJson)) ≤ 1 :=
    nestingList_map _ 1
      (fun p => by simp [CanonicalInstalledPackage.toJson, nesting, nestingFields, nesting_optionJson]) _
  have hpaths : nestingList (s.libraryPaths.map Json.str) ≤ 0 := nestingList_map _ 0 (fun p => by simp [nesting]) _
  simp only [toJson, CanonicalRuntimeState.toJson, CanonicalBioconductorState.toJson,
    CanonicalRenvState.toJson, CanonicalLockfileState.toJson, nesting, nestingFields, nesting_optionJson]
  omega

theorem fromText_encode (s : CanonicalEnvironmentSnapshot) : Json.fromText s.encode = some s.toJson.normalize := by
  have hnest : nesting s.toJson ≤ maxNesting := Nat.le_trans (nesting_toJson s) (by decide)
  exact fromText_toText (exact_toJson s) hnest

/-! ## What the readers find -/

theorem get_installedPackages (s : CanonicalEnvironmentSnapshot) :
    (s.toJson.normalize.get "installed_packages").bind Json.asArray =
      some (s.installedPackages.map (fun p => p.toJson.normalize)) := by
  rw [toJson, get_normalize_obj]
  simp [OrdMap.get, Json.normalize, normalizeList_eq_map, asArray]

theorem get_R (s : CanonicalEnvironmentSnapshot) : s.toJson.normalize.get "R" = none := by
  rw [toJson, get_normalize_obj]
  simp [OrdMap.get]

theorem get_Package (p : CanonicalInstalledPackage) : p.toJson.normalize.get "Package" = none := by
  rw [CanonicalInstalledPackage.toJson, get_normalize_obj]
  simp [OrdMap.get]

theorem get_Version (p : CanonicalInstalledPackage) : p.toJson.normalize.get "Version" = none := by
  rw [CanonicalInstalledPackage.toJson, get_normalize_obj]
  simp [OrdMap.get]

/-- The audit reads an empty list of packages, or nothing at all. -/
theorem parseSnapshotPackages_encode (s : CanonicalEnvironmentSnapshot) :
    parseSnapshotPackages s.encode = if s.installedPackages = [] then some [] else none := by
  obtain ⟨installed, hget, harr⟩ := Option.bind_eq_some_iff.mp (get_installedPackages s)
  simp only [parseSnapshotPackages, fromText_encode, Option.bind_eq_bind, Option.bind_some, hget, harr]
  cases s.installedPackages with
  | nil => rfl
  | cons p l =>
    rw [List.map_cons, List.mapM_cons, get_Package, if_neg (List.cons_ne_nil p l)]
    rfl

/-- The comparison reads as many unknown packages as there are packages. -/
theorem extractPackages_toJson (s : CanonicalEnvironmentSnapshot) :
    extractPackages s.toJson.normalize = List.replicate (min 200 s.installedPackages.length) ("?", "?") := by
  have hunknown : ((s.installedPackages.map (fun p => p.toJson.normalize)).take 200).map (fun pkg =>
      (((pkg.get "Package").bind Json.asStr).getD "?", ((pkg.get "Version").bind Json.asStr).getD "?")) =
      List.replicate (min 200 s.installedPackages.length) ("?", "?") := by
    rw [← List.map_take, List.map_map]
    apply List.eq_replicate_iff.mpr
    constructor
    · simp
    · intro b hb
      obtain ⟨p, -, rfl⟩ := List.mem_map.mp hb
      simp [get_Package, get_Version]
  simp only [extractPackages, get_installedPackages, hunknown, sortByName]
  apply List.Pairwise.insertionSort_eq
  rw [List.pairwise_replicate]
  exact Or.inr (le_refl _)

theorem runtimeEvidence_toJson (s : CanonicalEnvironmentSnapshot) (key : String) :
    runtimeEvidence s.toJson.normalize key = none := by
  simp [runtimeEvidence, get_R]

/-- The difference of two lists of unknown packages is empty when both or none are empty. -/
theorem diffPackages_replicate (m n : Nat) :
    diffPackages (List.replicate m ("?", "?")) (List.replicate n ("?", "?")) = [] ↔ (m = 0 ↔ n = 0) := by
  rcases m with _ | m
  · rcases n with _ | n
    · simp [diffPackages]
    · simp [diffPackages, OrdMap.ofList_replicate, OrdMap.get]
  · rcases n with _ | n
    · simp [diffPackages, OrdMap.ofList_replicate, OrdMap.get]
    · simp [diffPackages, OrdMap.ofList_replicate, OrdMap.get]

/-! ## What the loop over the budget leaves -/

/-- The snapshot with the first `k` of its installed packages. -/
def keep (s : CanonicalEnvironmentSnapshot) (k : Nat) : CanonicalEnvironmentSnapshot :=
  { s with installedPackages := s.installedPackages.take k }

/-- The encoding is over the budget however few of the installed packages are kept. -/
def KeepsNoPackage (s : CanonicalEnvironmentSnapshot) : Prop :=
  ∀ k, 1 ≤ k → k ≤ s.installedPackages.length → (keep s k).fits = false

/-- A successful loop stops at a snapshot that fits, or drops something and goes on. -/
theorem finalizeLoop_cases {fuel : Nat} {trimmed : Bool} {s' : CanonicalEnvironmentSnapshot} {text : String}
    (h : finalizeLoop fuel trimmed s = .ok (text, s')) :
    (s.fits = true ∧ text = s'.encode ∧ s'.runtime = s.runtime ∧ s'.installedPackages = s.installedPackages) ∨
    (s.fits = false ∧ ∃ fuel' s₁, fuel = fuel' + 1 ∧ s.pop = some s₁ ∧ finalizeLoop fuel' true s₁ = .ok (text, s')) := by
  unfold finalizeLoop at h
  split at h
  · rename_i hs
    split at h
    · cases h
      exact Or.inl ⟨hs, rfl, rfl, rfl⟩
    · cases h
      exact Or.inl ⟨hs, rfl, rfl, rfl⟩
  · rename_i hs
    split at h
    · rename_i fuel' s₁ hpop
      exact Or.inr ⟨by simpa using hs, fuel', s₁, rfl, hpop, h⟩
    · cases h

/-- Dropping something keeps the runtime, and drops an installed package first. -/
theorem pop_cases (h : s.pop = some s₁) :
    s₁.runtime = s.runtime ∧ ((s.installedPackages ≠ [] ∧ s₁ = keep s (s.installedPackages.length - 1)) ∨
      (s.installedPackages = [] ∧ s₁.installedPackages = [])) := by
  unfold pop at h
  split at h
  · rename_i hne
    cases h
    exact ⟨rfl, Or.inl ⟨hne, by rw [keep, List.dropLast_eq_take]⟩⟩
  rename_i hnil
  have hnil := not_not.mp hnil
  split at h
  · cases h
    exact ⟨rfl, Or.inr ⟨hnil, hnil⟩⟩
  split at h
  · cases h
    exact ⟨rfl, Or.inr ⟨hnil, hnil⟩⟩
  · cases h

/-- Dropping something from a snapshot over the budget does not change whether a package can be kept. -/
theorem keepsNoPackage_pop (hs : s.fits = false) (h : s.pop = some s₁) : KeepsNoPackage s₁ ↔ KeepsNoPackage s := by
  rcases (pop_cases h).2 with ⟨hne, rfl⟩ | ⟨hnil, hnil₁⟩
  · have hpos := List.length_pos_iff.mpr hne
    have hlen : (keep s (s.installedPackages.length - 1)).installedPackages.length = s.installedPackages.length - 1 := by
      simp [keep]
    have hkeep : ∀ k, k ≤ s.installedPackages.length - 1 → keep (keep s (s.installedPackages.length - 1)) k = keep s k := by
      intro k hk
      simp only [keep, List.take_take, Nat.min_eq_left hk]
    constructor
    · intro hall k hk hle
      rcases Nat.lt_or_eq_of_le hle with hlt | rfl
      · have hk' : k ≤ s.installedPackages.length - 1 := by omega
        rw [← hkeep k hk']
        exact hall k hk (by omega)
      · rw [keep, List.take_length]
        exact hs
    · intro hall k hk hle
      rw [hlen] at hle
      rw [hkeep k hle]
      exact hall k hk (by omega)
  · constructor
    · intro _ k hk hle
      rw [hnil, List.length_nil] at hle
      omega
    · intro _ k hk hle
      rw [hnil₁, List.length_nil] at hle
      omega

/-- A snapshot that fits keeps no package only when it has none. -/
theorem keepsNoPackage_of_fits (hs : s.fits = true) : KeepsNoPackage s ↔ s.installedPackages = [] := by
  constructor
  · intro hall
    by_contra hne
    have hfull := hall s.installedPackages.length (List.length_pos_iff.mpr hne) (Nat.le_refl _)
    rw [keep, List.take_length, hs] at hfull
    cases hfull
  · intro hnil k hk hle
    rw [hnil, List.length_nil] at hle
    omega

/-- What a successful loop returns: the encoding of the snapshot it leaves, with the runtime of the one it got, and without
installed packages exactly when none can be kept. -/
theorem finalizeLoop_ok (fuel : Nat) : ∀ (trimmed : Bool) (s s' : CanonicalEnvironmentSnapshot) (text : String),
    finalizeLoop fuel trimmed s = .ok (text, s') →
      text = s'.encode ∧ s'.runtime = s.runtime ∧ (s'.installedPackages = [] ↔ KeepsNoPackage s) := by
  induction fuel with
  | zero =>
    intro trimmed s s' text h
    rcases finalizeLoop_cases h with ⟨hs, htext, hruntime, hinst⟩ | ⟨-, fuel', s₁, hfuel, -⟩
    · rw [keepsNoPackage_of_fits hs, hinst]
      exact ⟨htext, hruntime, Iff.rfl⟩
    · cases hfuel
  | succ fuel ih =>
    intro trimmed s s' text h
    rcases finalizeLoop_cases h with ⟨hs, htext, hruntime, hinst⟩ | ⟨hs, fuel', s₁, hfuel, hpop, hrest⟩
    · rw [keepsNoPackage_of_fits hs, hinst]
      exact ⟨htext, hruntime, Iff.rfl⟩
    · cases hfuel
      obtain ⟨htext, hruntime, hnone⟩ := ih true s₁ s' text hrest
      exact ⟨htext, hruntime.trans (pop_cases hpop).1, hnone.trans (keepsNoPackage_pop hs hpop)⟩

end SnapshotAux

open SnapshotAux

/-! ## Recovering the evidence -/

/-- The stored text gives back the snapshot's evidence: its packages to the audit, the first 200 of them to the comparison, and
its runtime. A missing version is read as the readers' own word for it. -/
def Recovers (s : CanonicalEnvironmentSnapshot) (text : String) : Prop :=
  parseSnapshotPackages text = some (s.installedPackages.map fun p => ⟨p.name, p.version.getD "unknown"⟩) ∧
  ∃ json, Json.fromText text = some json ∧
    extractPackages json = sortByName ((s.installedPackages.take 200).map fun p => (p.name, p.version.getD "?")) ∧
    runtimeEvidence json "version" = s.runtime.version ∧ runtimeEvidence json "platform" = s.runtime.platform

/-- Of the first 200 packages of each, one snapshot has a package at a version that the other has not. -/
def PackagesDiffer (a b : CanonicalEnvironmentSnapshot) : Prop :=
  ¬∀ name version, (name, version) ∈ (a.installedPackages.take 200).map (fun p => (p.name, p.version)) ↔
    (name, version) ∈ (b.installedPackages.take 200).map (fun p => (p.name, p.version))

/-- The state of the field `package_diff` in a comparison of two stored texts. -/
def packageDiffState (left right : RunEnvironment) (a b : String) : Option CompareField :=
  ((compareEnvironment left right (some ⟨a⟩) (some ⟨b⟩)).fields.find? (fun f => f.field = "package_diff")).map (·.state)

theorem SnapshotAux.packageDiffState_encode (left right : RunEnvironment) (a b : CanonicalEnvironmentSnapshot) :
    packageDiffState left right a.encode b.encode =
      some (if a.installedPackages = [] ↔ b.installedPackages = [] then .same else .different) := by
  have hzero : ∀ s : CanonicalEnvironmentSnapshot, min 200 s.installedPackages.length = 0 ↔ s.installedPackages = [] := by
    intro s
    rw [← List.length_eq_zero_iff]
    omega
  have hdiff := diffPackages_replicate (min 200 a.installedPackages.length) (min 200 b.installedPackages.length)
  rw [hzero, hzero] at hdiff
  simp only [packageDiffState, compareEnvironment, fromText_encode, compareSnapshots, extractPackages_toJson, field, hdiff]
  simp

/-- The evidence of a stored snapshot is recovered exactly when it has no runtime version, no platform and no installed package
that can be kept within the budget; and a difference in packages is never reported as `same` exactly when there is none
or one of the two snapshots keeps no package. -/
theorem snapshot_recovered_iff (a b a' b' : CanonicalEnvironmentSnapshot) (textA textB : String)
    (ha : finalizeEnvironmentSnapshotJson a = .ok (textA, a')) (hb : finalizeEnvironmentSnapshotJson b = .ok (textB, b')) :
    (Recovers a' textA ↔ a.runtime.version = none ∧ a.runtime.platform = none ∧ KeepsNoPackage a) ∧
    ∀ left right, (PackagesDiffer a' b' → packageDiffState left right textA textB ≠ some .same) ↔
      ¬PackagesDiffer a' b' ∨ KeepsNoPackage a ∨ KeepsNoPackage b := by
  obtain ⟨rfl, hruntime, hnoneA⟩ := finalizeLoop_ok _ _ _ _ _ ha
  obtain ⟨rfl, -, hnoneB⟩ := finalizeLoop_ok _ _ _ _ _ hb
  rw [← hnoneA, ← hnoneB, ← hruntime]
  constructor
  · constructor
    · rintro ⟨haudit, json, hjson, -, hversion, hplatform⟩
      rw [fromText_encode] at hjson
      cases hjson
      rw [runtimeEvidence_toJson] at hversion hplatform
      rw [parseSnapshotPackages_encode] at haudit
      refine ⟨hversion.symm, hplatform.symm, ?_⟩
      by_contra hne
      rw [if_neg hne] at haudit
      cases haudit
    · rintro ⟨hversion, hplatform, hnil⟩
      refine ⟨?_, _, fromText_encode a', ?_, ?_, ?_⟩
      · rw [parseSnapshotPackages_encode, if_pos hnil, hnil]
        rfl
      · rw [extractPackages_toJson, hnil]
        rfl
      · rw [runtimeEvidence_toJson, hversion]
      · rw [runtimeEvidence_toJson, hplatform]
  · intro left right
    rw [packageDiffState_encode]
    have hboth : a'.installedPackages = [] → b'.installedPackages = [] → ¬PackagesDiffer a' b' := by
      intro hnilA hnilB hdiff
      exact hdiff (by simp [hnilA, hnilB])
    constructor
    · intro h
      by_contra hall
      simp only [not_or, not_not] at hall
      obtain ⟨hdiff, hneA, hneB⟩ := hall
      exact h hdiff (by simp [hneA, hneB])
    · intro h hdiff hsame
      have hiff : a'.installedPackages = [] ↔ b'.installedPackages = [] := by
        by_contra hne
        rw [if_neg hne] at hsame
        cases hsame
      rcases h with h | h | h
      · exact h hdiff
      · exact hboth h (hiff.mp h) hdiff
      · exact hboth (hiff.mpr h) h hdiff

namespace SnapshotAux

/-- A project with one installed package. -/
def oneInstalled (version : String) : CanonicalEnvironmentSnapshot where
  projectRoot := "/p"
  runtime := ⟨some "4.4.1", some "aarch64-apple-darwin20"⟩
  bioconductor := ⟨"unavailable", none, false⟩
  libraryPaths := ["/lib"]
  installedPackages := [⟨"dplyr", some version, some "/lib"⟩]
  renv := ⟨"absent", false, false, none, false, ⟨false, none, false, []⟩, "unknown"⟩
  incompleteReason := none

/-- The same project before anything was installed or R was asked. -/
def bare : CanonicalEnvironmentSnapshot := { oneInstalled "1.0.0" with installedPackages := [], runtime := ⟨none, none⟩ }

/-- A snapshot within the budget is stored as it is. -/
theorem finalize_of_fits (s : CanonicalEnvironmentSnapshot) (h : s.fits = true) :
    finalizeEnvironmentSnapshotJson s = .ok (s.encode, s) := by
  rw [finalizeEnvironmentSnapshotJson, finalizeLoop.eq_def]
  simp [h]

end SnapshotAux

/-- Without packages and runtime there is nothing to lose, and against it a package shows as a difference. -/
theorem snapshot_recovered_iff_bare :
    finalizeEnvironmentSnapshotJson bare = .ok (bare.encode, bare) ∧ Recovers bare bare.encode ∧
      packageDiffState ⟨none⟩ ⟨none⟩ bare.encode (oneInstalled "1.0.0").encode ≠ some .same := by
  have hfits : bare.fits = true := CanonicalEnvironmentSnapshot.fits_of_length (by decide +kernel)
  have hfinal := finalize_of_fits bare hfits
  have hnone : KeepsNoPackage bare := (keepsNoPackage_of_fits hfits).mpr rfl
  have hone : (oneInstalled "1.0.0").fits = true := CanonicalEnvironmentSnapshot.fits_of_length (by decide +kernel)
  have hiff := snapshot_recovered_iff _ _ _ _ _ _ hfinal (finalize_of_fits (oneInstalled "1.0.0") hone)
  refine ⟨hfinal, hiff.1.mpr ⟨rfl, rfl, hnone⟩, (hiff.2 _ _).mpr (Or.inr (Or.inl hnone)) ?_⟩
  intro hsame
  have := (hsame "dplyr" (some "1.0.0")).mpr (by simp [oneInstalled])
  simp [bare] at this

/-- A snapshot within the budget whose evidence is lost, and two whose different packages are reported as the same. -/
theorem snapshot_not_recovered :
    ∃ a b ta tb, finalizeEnvironmentSnapshotJson a = .ok (ta, a) ∧ finalizeEnvironmentSnapshotJson b = .ok (tb, b) ∧
      ¬Recovers a ta ∧ PackagesDiffer a b ∧ packageDiffState ⟨none⟩ ⟨none⟩ ta tb = some .same := by
  have hfitsA : (oneInstalled "1.0.0").fits = true := CanonicalEnvironmentSnapshot.fits_of_length (by decide +kernel)
  have hfitsB : (oneInstalled "1.1.4").fits = true := CanonicalEnvironmentSnapshot.fits_of_length (by decide +kernel)
  refine ⟨oneInstalled "1.0.0", oneInstalled "1.1.4", _, _, finalize_of_fits _ hfitsA, finalize_of_fits _ hfitsB,
    ?_, ?_, ?_⟩
  · rintro ⟨haudit, -⟩
    rw [parseSnapshotPackages_encode] at haudit
    simp [oneInstalled] at haudit
  · intro hsame
    have := (hsame "dplyr" (some "1.0.0")).mp (by simp [oneInstalled])
    simp [oneInstalled] at this
  · rw [packageDiffState_encode]
    simp [oneInstalled]

end Rho
