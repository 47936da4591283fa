import Mathlib.Data.List.TakeDrop
import Rho.Server.Snapshot

/-!
# The byte budget of an environment snapshot

What is stored of a snapshot is what is left after the least number of turns of the loop that brings it into the budget. The reason for
what is missing is added after the measure, so the text is within the budget exactly when there is room for the reason too.
-/

namespace Rho

open CanonicalEnvironmentSnapshot

namespace SnapshotBudget

open CanonicalEnvironmentSnapshot

/-! ## Dropping from the end -/

/-- The snapshot with other packages and library paths. -/
def withLists (s : CanonicalEnvironmentSnapshot) (installedPackages : List CanonicalInstalledPackage)
    (packages : List CanonicalLockfilePackage) (libraryPaths : List String) : CanonicalEnvironmentSnapshot :=
  { s with installedPackages, libraryPaths, renv := { s.renv with lockfile := { s.renv.lockfile with packages } } }

/-- A list without its last `k` elements. -/
def dropEnd {α : Type} (k : Nat) (l : List α) : List α := l.take (l.length - k)

/-- The snapshot after `k` turns of the loop: the installed packages go first, then the lockfile's, then the library paths. -/
def trim (s : CanonicalEnvironmentSnapshot) (k : Nat) : CanonicalEnvironmentSnapshot :=
  withLists s (dropEnd k s.installedPackages) (dropEnd (k - s.installedPackages.length) s.renv.lockfile.packages)
    (dropEnd (k - s.installedPackages.length - s.renv.lockfile.packages.length) s.libraryPaths)

variable {α : Type} {s : CanonicalEnvironmentSnapshot} {k fuel : Nat} {trimmed : Bool} {s' : CanonicalEnvironmentSnapshot}
  {text : String}

theorem dropEnd_zero (l : List α) : dropEnd 0 l = l := by rw [dropEnd, Nat.sub_zero, List.take_length]

theorem length_dropEnd (k : Nat) (l : List α) : (dropEnd k l).length = l.length - k := by
  rw [dropEnd, List.length_take]
  omega

theorem dropEnd_dropEnd (j k : Nat) (l : List α) : dropEnd k (dropEnd j l) = dropEnd (j + k) l := by
  unfold dropEnd
  rw [List.take_take, List.length_take]
  congr 1
  omega

theorem dropEnd_prefix (k : Nat) (l : List α) : dropEnd k l <+: l := List.take_prefix _ _

theorem trim_zero (s : CanonicalEnvironmentSnapshot) : trim s 0 = s := by
  unfold trim
  simp only [Nat.zero_sub, dropEnd_zero]
  rfl

theorem droppable_trim (s : CanonicalEnvironmentSnapshot) (k : Nat) : (trim s k).droppable = s.droppable - k := by
  unfold trim droppable withLists
  simp only [length_dropEnd]
  omega

theorem trim_trim (s : CanonicalEnvironmentSnapshot) (j k : Nat) : trim (trim s j) k = trim s (j + k) := by
  have hlock : dropEnd (k - (s.installedPackages.length - j)) (dropEnd (j - s.installedPackages.length) s.renv.lockfile.packages) =
      dropEnd (j + k - s.installedPackages.length) s.renv.lockfile.packages := by
    rw [dropEnd_dropEnd]
    congr 1
    omega
  have hlibrary : dropEnd (k - (s.installedPackages.length - j) - (s.renv.lockfile.packages.length - (j - s.installedPackages.length)))
      (dropEnd (j - s.installedPackages.length - s.renv.lockfile.packages.length) s.libraryPaths) =
      dropEnd (j + k - s.installedPackages.length - s.renv.lockfile.packages.length) s.libraryPaths := by
    rw [dropEnd_dropEnd]
    congr 1
    omega
  unfold trim withLists
  simp only [length_dropEnd, dropEnd_dropEnd, hlock, hlibrary]

theorem dropEnd_one (l : List α) : dropEnd 1 l = l.dropLast := List.dropLast_eq_take.symm

/-- One turn of the loop drops one thing, as long as there is one. -/
theorem pop_eq (s : CanonicalEnvironmentSnapshot) : s.pop = if s.droppable = 0 then none else some (trim s 1) := by
  obtain ⟨root, runtime, bioconductor, libraries, installed, ⟨status, has, available, library, active, ⟨ex, sha, valid, packages⟩, sync⟩,
    reason⟩ := s
  unfold pop droppable trim withLists
  rcases installed with _ | ⟨p, installed⟩
  · rcases packages with _ | ⟨q, packages⟩
    · rcases libraries with _ | ⟨r, libraries⟩
      · rfl
      · simp [dropEnd_one]
    · simp [dropEnd_one, dropEnd_zero]
  · simp [dropEnd_one, dropEnd_zero]

/-! ## What the loop leaves -/

/-- The reason for what is missing, added to the snapshot. -/
def withReason (s : CanonicalEnvironmentSnapshot) : CanonicalEnvironmentSnapshot :=
  { s with incompleteReason := appendIncompleteReason s.incompleteReason "canonical_snapshot_trimmed_to_budget" }

/-- The snapshot that the loop leaves after `k` turns. -/
def leftAfter (s : CanonicalEnvironmentSnapshot) (trimmed : Bool) (k : Nat) : CanonicalEnvironmentSnapshot :=
  if trimmed || decide (k ≠ 0) then withReason (trim s k) else trim s k

/-- `k` is the number of turns after which the snapshot is in the budget for the first time. -/
structure FirstFit (s : CanonicalEnvironmentSnapshot) (k : Nat) : Prop where
  le : k ≤ s.droppable
  tooLong : ∀ j < k, (trim s j).fits = false
  fits : (trim s k).fits = true

theorem firstFit_zero_iff : FirstFit s 0 ↔ s.fits = true :=
  ⟨fun h => trim_zero s ▸ h.fits, fun h => ⟨Nat.zero_le _, nofun, (trim_zero s).symm ▸ h⟩⟩

theorem firstFit_succ_iff : FirstFit s (k + 1) ↔ s.fits = false ∧ s.droppable ≠ 0 ∧ FirstFit (trim s 1) k := by
  constructor
  · intro h
    refine ⟨trim_zero s ▸ h.tooLong 0 (Nat.succ_pos _), fun hnone => absurd h.le (by omega), ?_, fun j hj => ?_, ?_⟩
    · have hle := h.le
      rw [droppable_trim]
      omega
    · rw [trim_trim, Nat.add_comm]
      exact h.tooLong (j + 1) (Nat.succ_lt_succ hj)
    · rw [trim_trim, Nat.add_comm]
      exact h.fits
  · rintro ⟨hover, hne, h⟩
    refine ⟨?_, fun j hj => ?_, ?_⟩
    · have hle := h.le
      rw [droppable_trim] at hle
      omega
    · rcases j with _ | j
      · rw [trim_zero]
        exact hover
      · have hj' := h.tooLong j (Nat.lt_of_succ_lt_succ hj)
        rwa [trim_trim, Nat.add_comm] at hj'
    · have hfits := h.fits
      rwa [trim_trim, Nat.add_comm] at hfits

theorem finalizeLoop_of_fits (h : s.fits = true) :
    finalizeLoop fuel trimmed s = .ok ((leftAfter s trimmed 0).encode, leftAfter s trimmed 0) := by
  rw [finalizeLoop.eq_def, leftAfter, trim_zero]
  simp only [h, if_true]
  cases trimmed with
  | true => rfl
  | false => rfl

theorem finalizeLoop_of_empty (h : s.fits = false) (hnone : s.droppable = 0) :
    finalizeLoop fuel trimmed s = .error budgetError := by
  rw [finalizeLoop.eq_def]
  simp only [h, pop_eq, if_pos hnone]
  exact if_neg Bool.false_ne_true

theorem finalizeLoop_of_over (h : s.fits = false) (hsome : s.droppable ≠ 0) :
    finalizeLoop (fuel + 1) trimmed s = finalizeLoop fuel true (trim s 1) := by
  rw [finalizeLoop.eq_def]
  simp only [h, pop_eq, if_neg hsome]
  exact if_neg Bool.false_ne_true

theorem leftAfter_succ (s : CanonicalEnvironmentSnapshot) (trimmed : Bool) (k : Nat) :
    leftAfter s trimmed (k + 1) = leftAfter (trim s 1) true k := by
  unfold leftAfter
  rw [trim_trim, Nat.add_comm 1 k]
  simp

theorem eq_ok_iff_of_fits (h : s.fits = true) :
    finalizeLoop fuel trimmed s = .ok (text, s') ↔ ∃ k, FirstFit s k ∧ s' = leftAfter s trimmed k ∧ text = s'.encode := by
  rw [finalizeLoop_of_fits h]
  constructor
  · intro heq
    cases heq
    exact ⟨0, firstFit_zero_iff.mpr h, rfl, rfl⟩
  · rintro ⟨k, hk, rfl, rfl⟩
    rcases k with _ | k
    · rfl
    · rw [(firstFit_succ_iff.mp hk).1] at h
      cases h

theorem eq_ok_iff_of_empty (h : s.fits = false) (hnone : s.droppable = 0) :
    finalizeLoop fuel trimmed s = .ok (text, s') ↔ ∃ k, FirstFit s k ∧ s' = leftAfter s trimmed k ∧ text = s'.encode := by
  rw [finalizeLoop_of_empty h hnone]
  refine ⟨nofun, ?_⟩
  rintro ⟨k, hk, -⟩
  rcases k with _ | k
  · rw [firstFit_zero_iff.mp hk] at h
    cases h
  · exact absurd hnone (firstFit_succ_iff.mp hk).2.1

/-- The loop returns what the first fit leaves, however many more turns it could have. -/
theorem finalizeLoop_eq_ok_iff (hfuel : s.droppable ≤ fuel) :
    finalizeLoop fuel trimmed s = .ok (text, s') ↔ ∃ k, FirstFit s k ∧ s' = leftAfter s trimmed k ∧ text = s'.encode := by
  induction fuel generalizing trimmed s with
  | zero =>
    cases hfits : s.fits with
    | true => exact eq_ok_iff_of_fits hfits
    | false => exact eq_ok_iff_of_empty hfits (Nat.le_zero.mp hfuel)
  | succ fuel ih =>
    cases hfits : s.fits with
    | true => exact eq_ok_iff_of_fits hfits
    | false =>
      by_cases hnone : s.droppable = 0
      · exact eq_ok_iff_of_empty hfits hnone
      have hdroppable : (trim s 1).droppable ≤ fuel := by
        rw [droppable_trim]
        omega
      rw [finalizeLoop_of_over hfits hnone, ih hdroppable]
      constructor
      · rintro ⟨k, hk, rfl, htext⟩
        exact ⟨k + 1, firstFit_succ_iff.mpr ⟨hfits, hnone, hk⟩, (leftAfter_succ s trimmed k).symm, htext⟩
      · rintro ⟨k, hk, rfl, htext⟩
        rcases k with _ | k
        · rw [firstFit_zero_iff.mp hk] at hfits
          cases hfits
        · exact ⟨k, (firstFit_succ_iff.mp hk).2.2, leftAfter_succ s trimmed k, htext⟩

/-- No more turns are needed than there are things to drop. -/
theorem finalizeLoop_eq (hfuel : s.droppable ≤ fuel) : finalizeLoop fuel trimmed s = finalizeLoop s.droppable trimmed s := by
  induction fuel generalizing trimmed s with
  | zero => rw [Nat.le_zero.mp hfuel]
  | succ fuel ih =>
    cases hfits : s.fits with
    | true => rw [finalizeLoop_of_fits hfits, finalizeLoop_of_fits hfits]
    | false =>
      by_cases hnone : s.droppable = 0
      · rw [finalizeLoop_of_empty hfits hnone, finalizeLoop_of_empty hfits hnone]
      obtain ⟨d, hd⟩ := Nat.exists_eq_succ_of_ne_zero hnone
      have hdroppable : (trim s 1).droppable = d := by
        rw [droppable_trim, hd]
        rfl
      rw [finalizeLoop_of_over hfits hnone, hd, finalizeLoop_of_over hfits hnone, ih (by omega), hdroppable]

/-! ## The reason -/

/-- The text of a reason stands in what is recorded as incomplete. -/
def Carries (recorded : Option String) (reason : String) : Prop := ∃ text, recorded = some text ∧ reason.toList <:+: text.toList

theorem go₂_prefix (l : List Char) (i e : String.Pos.Raw) : String.Pos.Raw.extract.go₂ l i e <+: l := by
  induction l generalizing i with
  | nil => exact List.prefix_refl _
  | cons c l ih =>
    rw [String.Pos.Raw.extract.go₂]
    split
    · exact List.nil_prefix
    · exact List.cons_prefix_cons.mpr ⟨rfl, ih _⟩

theorem go₁_infix (l : List Char) (i b e : String.Pos.Raw) : String.Pos.Raw.extract.go₁ l i b e <:+: l := by
  induction l generalizing i with
  | nil => exact List.infix_refl _
  | cons c l ih =>
    rw [String.Pos.Raw.extract.go₁]
    split
    · exact ( go₂_prefix _ _ _).isInfix
    · exact (ih _).trans (List.suffix_cons c l).isInfix

theorem extract_infix (s : String) (b e : String.Pos.Raw) : (String.Pos.Raw.extract s b e).toList <:+: s.toList := by
  change (if b.byteIdx ≥ e.byteIdx then "" else String.ofList (String.Pos.Raw.extract.go₁ s.toList 0 b e)).toList <:+: s.toList
  split
  · exact List.nil_infix
  · rw [String.toList_ofList]
    exact go₁_infix _ _ _ _

/-- What a text is split into stands in it. -/
theorem infix_of_mem_splitOnAux {s sep : String} {b i j : String.Pos.Raw} {r : List String} (hr : ∀ part ∈ r, part.toList <:+: s.toList) :
    ∀ part ∈ s.splitOnAux sep b i j r, part.toList <:+: s.toList := by
  have hcons : ∀ {b e : String.Pos.Raw} {r : List String}, (∀ part ∈ r, part.toList <:+: s.toList) →
      ∀ part ∈ String.Pos.Raw.extract s b e :: r, part.toList <:+: s.toList := by
    intro b e r hr part hpart
    rcases List.mem_cons.mp hpart with rfl | hpart
    · exact extract_infix s b e
    · exact hr part hpart
  induction b, i, j, r using String.splitOnAux.induct s sep with
  | case1 b i j r hend =>
    rw [String.splitOnAux, if_pos hend]
    intro part hpart
    exact hcons hr part (List.mem_reverse.mp hpart)
  | case2 b i j r hend heq _ _ hsep ih =>
    rw [String.splitOnAux, if_neg hend, if_pos heq]
    dsimp only
    split
    · exact ih (hcons hr)
    next hnot => exact absurd hsep hnot
  | case3 b i j r hend heq _ _ hsep ih =>
    rw [String.splitOnAux, if_neg hend, if_pos heq]
    dsimp only
    split
    next hyes => exact absurd hyes hsep
    · exact ih hr
  | case4 b i j r hend hne ih =>
    rw [String.splitOnAux, if_neg hend, if_neg hne]
    exact ih hr

theorem infix_of_mem_splitOn {s part : String} (h : part ∈ s.splitOn " | ") : part.toList <:+: s.toList :=
  infix_of_mem_splitOnAux (fun _ hnil => absurd hnil List.not_mem_nil) part h

/-- A reason that is added is there. -/
theorem carries_append (recorded : Option String) (reason : String) : Carries (appendIncompleteReason recorded reason) reason := by
  unfold appendIncompleteReason
  cases recorded with
  | none => exact ⟨reason, rfl, List.infix_refl _⟩
  | some text =>
    simp only
    split
    next hmem => exact ⟨text, rfl, infix_of_mem_splitOn (List.contains_iff_mem.mp hmem)⟩
    next =>
      refine ⟨_, rfl, ?_⟩
      rw [String.toList_append]
      exact List.suffix_append _ _ |>.isInfix

/-! ## The claim -/

/-- What the finalized text and the snapshot that is left are: within the budget, one the encoding of the other, with the front of each
list, and with the reason exactly when something is missing. -/
structure Finalized (s s' : CanonicalEnvironmentSnapshot) (text : String) : Prop where
  size : text.utf8ByteSize ≤ maxCanonicalSnapshotBytes
  encoding : text = s'.encode
  installed : s'.installedPackages <+: s.installedPackages
  lockfile : s'.renv.lockfile.packages <+: s.renv.lockfile.packages
  libraries : s'.libraryPaths <+: s.libraryPaths
  reason : Carries s'.incompleteReason "canonical_snapshot_trimmed_to_budget" ↔
    ¬ (s'.installedPackages = s.installedPackages ∧ s'.renv.lockfile.packages = s.renv.lockfile.packages ∧
      s'.libraryPaths = s.libraryPaths)

/-- The loop ends within as many turns as there are things to drop, and what it returns is as it should be. -/
structure Budgeted (s : CanonicalEnvironmentSnapshot) : Prop where
  terminates : ∀ fuel, s.droppable ≤ fuel → finalizeLoop fuel false s = finalizeEnvironmentSnapshotJson s
  finalized : ∀ text s', finalizeEnvironmentSnapshotJson s = .ok (text, s') → Finalized s s' text

/-- The first trimming that fits has no room for the reason. -/
def NoRoomForReason (s : CanonicalEnvironmentSnapshot) : Prop :=
  ∃ k, FirstFit s k ∧ k ≠ 0 ∧ (withReason (trim s k)).fits = false

theorem finalize_eq_ok_iff :
    finalizeEnvironmentSnapshotJson s = .ok (text, s') ↔ ∃ k, FirstFit s k ∧ s' = leftAfter s false k ∧ text = s'.encode :=
  finalizeLoop_eq_ok_iff (Nat.le_refl _)

/-- What is left of the lists is a front of each. -/
theorem lists_leftAfter (s : CanonicalEnvironmentSnapshot) (k : Nat) :
    (leftAfter s false k).installedPackages = dropEnd k s.installedPackages ∧
      (leftAfter s false k).renv.lockfile.packages = dropEnd (k - s.installedPackages.length) s.renv.lockfile.packages ∧
      (leftAfter s false k).libraryPaths =
        dropEnd (k - s.installedPackages.length - s.renv.lockfile.packages.length) s.libraryPaths := by
  unfold leftAfter
  split
  · exact ⟨rfl, rfl, rfl⟩
  · exact ⟨rfl, rfl, rfl⟩

/-- Something is missing after every turn. -/
theorem lists_changed (hle : k ≤ s.droppable) : ((leftAfter s false k).installedPackages = s.installedPackages ∧
      (leftAfter s false k).renv.lockfile.packages = s.renv.lockfile.packages ∧
      (leftAfter s false k).libraryPaths = s.libraryPaths) ↔ k = 0 := by
  obtain ⟨hinstalled, hlock, hlibrary⟩ := lists_leftAfter s k
  rw [hinstalled, hlock, hlibrary]
  constructor
  · rintro ⟨h₁, h₂, h₃⟩
    have hlength := congrArg List.length h₁
    have hlength' := congrArg List.length h₂
    have hlength'' := congrArg List.length h₃
    rw [length_dropEnd] at hlength hlength' hlength''
    unfold droppable at hle
    omega
  · rintro rfl
    simp only [Nat.zero_sub, dropEnd_zero, and_self]

/-- What is left after the first fit is as it should be, but for the size and the reason of a snapshot that came in with it. -/
theorem finalized_leftAfter_iff (hk : FirstFit s k) :
    Finalized s (leftAfter s false k) (leftAfter s false k).encode ↔ (leftAfter s false k).fits = true ∧
      (Carries (leftAfter s false k).incompleteReason "canonical_snapshot_trimmed_to_budget" ↔ k ≠ 0) := by
  obtain ⟨hinstalled, hlock, hlibrary⟩ := lists_leftAfter s k
  constructor
  · intro h
    exact ⟨fits_iff.mpr h.size, h.reason.trans (not_congr (lists_changed hk.le))⟩
  · rintro ⟨hfits, hreason⟩
    refine ⟨fits_iff.mp hfits, rfl, ?_, ?_, ?_, hreason.trans (not_congr (lists_changed hk.le)).symm⟩
    · rw [hinstalled]
      exact dropEnd_prefix _ _
    · rw [hlock]
      exact dropEnd_prefix _ _
    · rw [hlibrary]
      exact dropEnd_prefix _ _

theorem leftAfter_of_ne (hk : k ≠ 0) : leftAfter s false k = withReason (trim s k) := by
  rw [leftAfter, if_pos]
  exact decide_eq_true hk

/-- Without room for the reason the text is over the budget. -/
theorem not_budgeted_of_noRoom (h : NoRoomForReason s) : ¬ Budgeted s := by
  obtain ⟨k, hk, hne, hover⟩ := h
  intro hbudgeted
  have hfinal := (finalized_leftAfter_iff hk).mp (hbudgeted.finalized _ _ (finalize_eq_ok_iff.mpr ⟨k, hk, rfl, rfl⟩))
  rw [leftAfter_of_ne hne, hover] at hfinal
  cases hfinal.1

/-- The text is right exactly when the first trimming that fits has room for the reason, and a snapshot that fits as it is does not come
with the reason. -/
theorem finalize_environment_snapshot_json_iff (s : CanonicalEnvironmentSnapshot) :
    Budgeted s ↔ ¬ NoRoomForReason s ∧ (s.fits = true → ¬ Carries s.incompleteReason "canonical_snapshot_trimmed_to_budget") := by
  have hstart : leftAfter s false 0 = s := trim_zero s
  constructor
  · intro h
    constructor
    · exact fun hroom => not_budgeted_of_noRoom hroom h
    · intro hfits hcarries
      have hk : FirstFit s 0 := firstFit_zero_iff.mpr hfits
      have hfinal := (finalized_leftAfter_iff hk).mp (h.finalized _ _ (finalize_eq_ok_iff.mpr ⟨0, hk, rfl, rfl⟩))
      rw [hstart] at hfinal
      exact hfinal.2.mp hcarries rfl
  · rintro ⟨hroom, hcarries⟩
    refine ⟨fun fuel hfuel => finalizeLoop_eq hfuel, fun text s' hok => ?_⟩
    obtain ⟨k, hk, rfl, rfl⟩ := finalize_eq_ok_iff.mp hok
    rw [finalized_leftAfter_iff hk]
    by_cases hzero : k = 0
    · subst hzero
      have hfits := firstFit_zero_iff.mp hk
      rw [hstart]
      exact ⟨hfits, fun h => absurd h (hcarries hfits), fun h => absurd rfl h⟩
    · rw [leftAfter_of_ne hzero]
      refine ⟨?_, fun _ => hzero, fun _ => carries_append _ _⟩
      by_contra hover
      exact hroom ⟨k, hk, hzero, (Bool.not_eq_true _).mp hover⟩

/-! ## No room for the reason -/

section LongSource

open Json

/-- A project whose lockfile gives a package a source of `n` letters, and has other packages behind it. -/
def longSource (n : Nat) (others : List CanonicalLockfilePackage) (reason : Option String) : CanonicalEnvironmentSnapshot where
  projectRoot := "/p"
  runtime := ⟨some "4.5.0", none⟩
  bioconductor := ⟨"unknown", none, false⟩
  libraryPaths := []
  installedPackages := []
  renv := ⟨"active", true, true, none, true,
    ⟨true, none, true, ⟨"first", none, some (String.ofList (List.replicate n 'a'))⟩ :: others⟩, "drifted"⟩
  incompleteReason := reason

theorem quote_replicate (n : Nat) : quote (String.ofList (List.replicate n 'a')) = '"' :: (List.replicate n 'a' ++ ['"']) := by
  have hescape : (List.replicate n 'a').flatMap escapeChar = List.replicate n 'a' := by
    induction n with
    | zero => rfl
    | succ n ih =>
      rw [List.replicate_succ, List.flatMap_cons, ih]
      rfl
  rw [quote, String.toList_ofList, hescape]

theorem size_eq (s : CanonicalEnvironmentSnapshot) : s.encode.utf8ByteSize = bytes s.toJson.print := rfl

/-- Every letter of the source is a byte of the text. -/
theorem size_longSource (n : Nat) (others : List CanonicalLockfilePackage) (reason : Option String) :
    (longSource n others reason).encode.utf8ByteSize = n + (longSource 0 others reason).encode.utf8ByteSize := by
  rw [size_eq, size_eq]
  simp only [longSource, toJson, CanonicalRenvState.toJson, CanonicalLockfileState.toJson,
    CanonicalLockfilePackage.toJson, optionJson, List.map_cons, print, printFields, bytes_append, bytes_cons, bytes_nil,
    quote_replicate, bytes_replicate, show 'a'.utf8Size = 1 from rfl, Nat.mul_one]
  omega

variable {n : Nat} {others : List CanonicalLockfilePackage} {reason : Option String}

theorem fits_longSource : (longSource n others reason).fits = true ↔
      n + (longSource 0 others reason).encode.utf8ByteSize ≤ maxCanonicalSnapshotBytes := by
  rw [fits_iff, size_longSource]

/-- The package with the long source is left, and fits, but not with the reason. -/
theorem noRoomForReason_longSource {p : CanonicalLockfilePackage} (hone : (longSource n [] none).fits = true)
    (htwo : (longSource n [p] none).fits = false)
    (hreason : (longSource n [] (some "canonical_snapshot_trimmed_to_budget")).fits = false) :
    NoRoomForReason (longSource n [p] none) := by
  refine ⟨1, ⟨Nat.succ_le_succ (Nat.zero_le _), fun j hj => ?_, hone⟩, Nat.one_ne_zero, hreason⟩
  rw [Nat.lt_one_iff.mp hj, trim_zero]
  exact htwo

theorem size_short : (longSource 0 [] none).encode.utf8ByteSize ≤ maxCanonicalSnapshotBytes := fits_iff.mp (fits_of_length (by decide +kernel))

/-- Another package and a reason make the text longer. -/
theorem size_others (p : CanonicalLockfilePackage) :
    (longSource 0 [] none).encode.utf8ByteSize < (longSource 0 [p] none).encode.utf8ByteSize := by
  rw [size_eq, size_eq]
  simp only [longSource, toJson, CanonicalRenvState.toJson, CanonicalLockfileState.toJson, List.map_cons,
    List.map_nil, print, printElems, printFields, bytes_append, bytes_cons, bytes_nil]
  have hcomma : ','.utf8Size = 1 := rfl
  omega

theorem size_reason {reason : String} (h : 16 < (quote reason).length) :
    (longSource 0 [] none).encode.utf8ByteSize < (longSource 0 [] (some reason)).encode.utf8ByteSize := by
  have hlt : bytes (print null) < bytes (quote reason) :=
    (bytes_bounds (print null)).2.trans_lt (h.trans_le (bytes_bounds (quote reason)).1)
  rw [size_eq, size_eq]
  simp only [longSource, toJson, print, printFields, bytes_append, bytes_cons, Nat.add_lt_add_iff_left,
    Nat.add_lt_add_iff_right]
  exact hlt

/-- So many letters of the source fill the budget, when the package has nothing behind it. -/
def FillsBudget (n : Nat) : Prop := n + (longSource 0 [] none).encode.utf8ByteSize = maxCanonicalSnapshotBytes

theorem exists_fillsBudget : ∃ n, FillsBudget n := ⟨_, Nat.sub_add_cancel size_short⟩

/-- What makes the text longer makes it too long. -/
theorem not_fits_of_full (hfull : FillsBudget n)
    (hmore : (longSource 0 [] none).encode.utf8ByteSize < (longSource 0 others reason).encode.utf8ByteSize) :
    (longSource n others reason).fits = false := by
  refine Bool.eq_false_iff.mpr fun h => not_lt_of_ge (fits_longSource.mp h) ?_
  rw [← hfull]
  exact Nat.add_lt_add_left hmore _

theorem noRoomForReason_of_full (hfull : FillsBudget n) : NoRoomForReason (longSource n [⟨"second", none, none⟩] none) := by
  have hlength : (quote "canonical_snapshot_trimmed_to_budget").length = 38 := by decide +kernel
  have hreason := size_reason (lt_of_lt_of_eq (by decide : 16 < 38) hlength.symm)
  exact noRoomForReason_longSource (fits_longSource.mpr (le_of_eq hfull)) (not_fits_of_full hfull (size_others _))
    (not_fits_of_full hfull hreason)

/-- A snapshot that is trimmed to exactly the budget: the reason for it makes the text longer than the budget. -/
theorem trimmed_text_over_budget : ¬ ∀ s, Budgeted s := by
  intro h
  obtain ⟨n, hfull⟩ := exists_fillsBudget
  exact not_budgeted_of_noRoom (noRoomForReason_of_full hfull) (h _)

end LongSource

end SnapshotBudget

end Rho
