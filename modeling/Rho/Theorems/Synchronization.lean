import Rho.Server.Capture

/-!
# The synchronization state of a captured environment

R loads the copy of a package that stands in the first library path that has one. The lockfile is compared with the first copy in the
order of the canonical list instead, which is the copy of the lowest version.
-/

namespace Rho

variable {read : String → LockfileRead} {projectRoot : String} {raw : RawEnvironmentEvidence} {values : List RawInstalledPackage}

/-! ## The copies of a package -/

/-- The copy that R loads. -/
def loadedCopy (raw : RawEnvironmentEvidence) (name : String) : Option RawInstalledPackage :=
  raw.libraryPaths.findSome? fun path => raw.installedPackages.values.find? fun c => c.name = name ∧ c.library = some path

/-- R loads a locked package at its locked version. -/
def LoadsLocked (raw : RawEnvironmentEvidence) (p : CanonicalLockfilePackage) : Prop :=
  ∃ c, loadedCopy raw p.name = some c ∧ c.version = p.version

instance (raw : RawEnvironmentEvidence) (p : CanonicalLockfilePackage) : Decidable (LoadsLocked raw p) :=
  decidable_of_iff (((loadedCopy raw p.name).map (·.version)) = some p.version) Option.map_eq_some_iff

/-- No copy of the package has a lower version; a copy without a version is the lowest. -/
def NoneLower (values : List RawInstalledPackage) (name : String) (version : Option String) : Prop :=
  ∀ c ∈ values, c.name = name → optionRank version ≤ optionRank c.version

/-- The version is the lowest of the copies, or there is neither a copy nor a version. -/
def LowestCopy (values : List RawInstalledPackage) (name : String) (version : Option String) : Prop :=
  NoneLower values name version ∧ ((∃ c ∈ values, c.name = name) → ∃ c ∈ values, c.name = name ∧ c.version = version) ∧
    ((¬∃ c ∈ values, c.name = name) → version = none)

/-- There is a lockfile with packages and renv to compare it with, and R reported something. -/
def Comparable (read : String → LockfileRead) (raw : RawEnvironmentEvidence) : Prop :=
  raw.unavailable = false ∧ (raw.lockfile read).1.exists_ = true ∧ raw.renv.packageAvailable.getD false = true ∧
    (raw.lockfile read).1.valid = true

theorem mem_canonicalInstalled {p : CanonicalInstalledPackage} :
    p ∈ canonicalInstalled values ↔ ∃ c ∈ values, (⟨c.name, c.version, c.library.map forwardSlashes⟩ : CanonicalInstalledPackage) = p := by
  rw [canonicalInstalled, sortInstalled, List.mem_insertionSort, List.mem_map]

/-- The first package of a name is the one of the lowest version. -/
theorem installedVersion_canonicalInstalled (values : List RawInstalledPackage) (name : String) (version : Option String) :
    (installedVersion (canonicalInstalled values) name).join = version ↔ LowestCopy values name version := by
  unfold installedVersion
  cases hfind : (canonicalInstalled values).find? (fun p => p.name = name) with
  | none =>
    have hnone : ¬∃ c ∈ values, c.name = name := by
      rintro ⟨c, hc, hname⟩
      have hnot := List.find?_eq_none.mp hfind _ (mem_canonicalInstalled.mpr ⟨c, hc, rfl⟩)
      exact hnot (decide_eq_true hname)
    constructor
    · intro hversion
      exact ⟨fun c hc hname => absurd ⟨c, hc, hname⟩ hnone, fun h => absurd h hnone, fun _ => hversion.symm⟩
    · exact fun h => (h.2.2 hnone).symm
  | some q =>
    obtain ⟨hq, before, after, hsplit, hbefore⟩ := List.find?_eq_some_iff_append.mp hfind
    have hmem : q ∈ canonicalInstalled values := by
      rw [hsplit]
      exact List.mem_append_right _ List.mem_cons_self
    obtain ⟨c, hc, hcq⟩ := mem_canonicalInstalled.mp hmem
    have hqname : q.name = name := of_decide_eq_true hq
    have hname : c.name = name := by rw [← hqname, ← hcq]
    have hversion : c.version = q.version := by rw [← hcq]
    have hleast : NoneLower values name q.version := by
      intro d hd hdname
      have hdmem := mem_canonicalInstalled.mpr ⟨d, hd, rfl⟩
      have hsorted : (canonicalInstalled values).Pairwise (fun left right => left.sortKey ≤ right.sortKey) :=
        List.pairwise_insertionSort _ _
      rw [hsplit] at hdmem hsorted
      rcases List.mem_append.mp hdmem with hdmem | hdmem
      · exact absurd (decide_eq_true hdname) (by simpa using hbefore _ hdmem)
      rcases List.mem_cons.mp hdmem with heq | hdmem
      · exact le_of_eq (congrArg (fun p => optionRank p.version) heq.symm)
      · have hle := (List.pairwise_cons.mp (List.pairwise_append.mp hsorted).2.1).1 _ hdmem
        rw [CanonicalInstalledPackage.sortKey, CanonicalInstalledPackage.sortKey, Prod.Lex.toLex_le_toLex] at hle
        have hrest := (hle.resolve_left (by simp [hqname, hdname])).2
        rw [Prod.Lex.toLex_le_toLex] at hrest
        exact hrest.elim le_of_lt fun h => le_of_eq h.1
    constructor
    · rintro rfl
      exact ⟨hleast, fun _ => ⟨c, hc, hname, hversion⟩, fun h => absurd ⟨c, hc, hname⟩ h⟩
    · rintro ⟨hlower, hcopy, -⟩
      obtain ⟨d, hd, hdname, hdversion⟩ := hcopy ⟨c, hc, hname⟩
      have hle := hlower c hc hname
      have hge := hleast d hd hdname
      rw [hversion] at hle
      rw [hdversion] at hge
      have heq : optionRank q.version = optionRank version := le_antisymm hge hle
      exact heq

/-! ## The state -/

def synchronizationOf (read : String → LockfileRead) (projectRoot : String) (raw : RawEnvironmentEvidence) : String :=
  (canonicalizeEnvironmentSnapshot read projectRoot raw).renv.synchronization

theorem synchronizationOf_eq : synchronizationOf read projectRoot raw = if raw.unavailable then "incomplete" else
    computeLockfileSyncState (canonicalInstalled raw.installedPackages.values) (raw.renv.packageAvailable.getD false)
      (raw.lockfile read).1 := by
  unfold synchronizationOf canonicalizeEnvironmentSnapshot
  cases raw.unavailable with
  | true => rfl
  | false => rfl

theorem synchronized_iff : synchronizationOf read projectRoot raw = "synchronized" ↔
    Comparable read raw ∧ ∀ p ∈ (raw.lockfile read).1.packages, LowestCopy raw.installedPackages.values p.name p.version := by
  rw [synchronizationOf_eq, Comparable]
  unfold computeLockfileSyncState
  cases raw.unavailable with
  | true => simp
  | false =>
    cases (raw.lockfile read).1.exists_ with
    | false => simp
    | true =>
      cases raw.renv.packageAvailable.getD false with
      | false => simp
      | true =>
        cases (raw.lockfile read).1.valid with
        | false => simp
        | true => simp [installedVersion_canonicalInstalled]

/-- The order in which R lists the packages does not matter. -/
theorem synchronizationOf_perm (h : values.Perm raw.installedPackages.values) :
    synchronizationOf read projectRoot { raw with installedPackages := { raw.installedPackages with values := values } } =
      synchronizationOf read projectRoot raw := by
  have hversion : ∀ name, (installedVersion (canonicalInstalled values) name).join =
      (installedVersion (canonicalInstalled raw.installedPackages.values) name).join := by
    intro name
    rw [installedVersion_canonicalInstalled]
    have hlowest := (installedVersion_canonicalInstalled raw.installedPackages.values name _).mp rfl
    simpa only [LowestCopy, NoneLower, h.mem_iff] using hlowest
  rw [synchronizationOf_eq, synchronizationOf_eq]
  unfold computeLockfileSyncState RawEnvironmentEvidence.unavailable RawEnvironmentEvidence.lockfile
  simp only [hversion, h.isEmpty_eq]

/-- The state says whether R loads every locked package at its locked version, and does not depend on the order of the list. -/
def SynchronizationExact (read : String → LockfileRead) (projectRoot : String) (raw : RawEnvironmentEvidence) : Prop :=
  (synchronizationOf read projectRoot raw = "synchronized" ↔ ∀ p ∈ (raw.lockfile read).1.packages, LoadsLocked raw p) ∧
    ∀ values : List RawInstalledPackage, values.Perm raw.installedPackages.values →
      synchronizationOf read projectRoot { raw with installedPackages := { raw.installedPackages with values := values } } =
        synchronizationOf read projectRoot raw

theorem noneLower_of_loadsLocked {p : CanonicalLockfilePackage} (h : LoadsLocked raw p) :
    LowestCopy raw.installedPackages.values p.name p.version ↔ NoneLower raw.installedPackages.values p.name p.version := by
  obtain ⟨c, hc, hversion⟩ := h
  obtain ⟨path, -, hfind⟩ := List.exists_of_findSome?_eq_some hc
  have hmem := List.mem_of_find?_eq_some hfind
  have hfound := List.find?_some hfind
  have hname : c.name = p.name := (of_decide_eq_true hfound).1
  exact and_iff_left ⟨fun _ => ⟨c, hmem, hname, hversion⟩, fun h => absurd ⟨c, hmem, hname⟩ h⟩

/-- The state is exact where R loads every locked package at its locked version, the lockfile can be compared and no other copy is
lower; or where R does not, and the lockfile cannot be compared or some locked version is not the lowest of its package. -/
theorem synchronization_exact_iff (read : String → LockfileRead) (projectRoot : String) (raw : RawEnvironmentEvidence) :
    SynchronizationExact read projectRoot raw ↔
      ((∀ p ∈ (raw.lockfile read).1.packages, LoadsLocked raw p) ∧ Comparable read raw ∧
        ∀ p ∈ (raw.lockfile read).1.packages, NoneLower raw.installedPackages.values p.name p.version) ∨
      ((∃ p ∈ (raw.lockfile read).1.packages, ¬LoadsLocked raw p) ∧ (¬Comparable read raw ∨
        ∃ p ∈ (raw.lockfile read).1.packages, ¬LowestCopy raw.installedPackages.values p.name p.version)) := by
  rw [SynchronizationExact, and_iff_left fun values h => synchronizationOf_perm h, synchronized_iff]
  by_cases hall : ∀ p ∈ (raw.lockfile read).1.packages, LoadsLocked raw p
  · have hlower : (∀ p ∈ (raw.lockfile read).1.packages, LowestCopy raw.installedPackages.values p.name p.version) ↔
        ∀ p ∈ (raw.lockfile read).1.packages, NoneLower raw.installedPackages.values p.name p.version :=
      forall₂_congr fun p hp => noneLower_of_loadsLocked (hall p hp)
    have hnone : ¬∃ p ∈ (raw.lockfile read).1.packages, ¬LoadsLocked raw p := fun ⟨p, hp, hnot⟩ => hnot (hall p hp)
    rw [hlower, iff_true_right hall, and_iff_right hall, or_iff_left fun h => hnone h.1]
  · have hsome : ∃ p ∈ (raw.lockfile read).1.packages, ¬LoadsLocked raw p := by simpa using hall
    rw [iff_false_right hall, and_iff_right hsome, or_iff_right fun h => hall h.1, not_and_or]
    simp

/-- One package in two library paths, whose later copy has the locked version. -/
theorem later_copy_counts_as_synchronized :
    ¬SynchronizationExact (fun _ => .parsed "" (.obj [("Packages", .obj [("dplyr", .obj [("Version", .str "1.0.0")])])])) "/project"
      { projectDir := "/project", runtime := ⟨some "4.5.0", none⟩, libraryPaths := ["/project/renv/library", "/usr/lib/R/library"]
        installedPackages := ⟨[⟨"dplyr", some "1.1.0", some "/project/renv/library"⟩,
          ⟨"dplyr", some "1.0.0", some "/usr/lib/R/library"⟩], false, none⟩
        renv := ⟨some "active", some true, some "/project/renv.lock", some true, none, some true⟩
        bioconductor := ⟨none, none, none⟩ } := by
  intro h
  exact absurd (h.1.mp (by decide)) (by decide)

end Rho
