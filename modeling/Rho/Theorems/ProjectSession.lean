import Mathlib.Data.List.Induction
import Rho.Desktop.ProjectSession

/-!
# Sessions of several projects

A root loads what was last saved for it as long as no other root was saved under the same key. The key is taken of the path as it is
shown, with slashes for backslashes, so two directories can have one.
-/

namespace Rho

/-- The last snapshot that is saved for a root. -/
def lastSaved (root : List UInt8) (saves : List SessionSave) : Option ProjectSessionSnapshot :=
  ((saves.filter fun save => decide (save.Saved ∧ save.root = root)).getLast?).map SessionSave.snapshot

/-- The project loads what was last saved for it, or the default session. -/
def LoadsLastSaved (crates : SessionCrates) (saves : List SessionSave) (root : List UInt8) : Prop :=
  loadSession crates (sessionFiles crates saves) root = .ok ((lastSaved root saves).getD {})

/-- What is saved for another root is not saved under the key of this one. -/
def KeyUnshared (crates : SessionCrates) (root : List UInt8) (save : SessionSave) : Prop :=
  save.Saved → crates.stableProjectKey save.root = crates.stableProjectKey root → save.root = root

section

variable {crates : SessionCrates}

/-- A save writes the file of its root and no other. -/
theorem saveStep_sessionPath (files : SessionFiles) {save : SessionSave} {root : List UInt8} (hkey : KeyUnshared crates root save) :
    saveStep crates files save (crates.sessionPath root) =
      if save.Saved ∧ save.root = root then some (crates.toStringPretty save.snapshot) else files (crates.sessionPath root) := by
  unfold saveStep saveSession
  split
  next hinvalid =>
    rw [if_neg]
    rintro ⟨⟨hvalid, -⟩, -⟩
    rw [hinvalid] at hvalid
    cases hvalid
  next hvalid =>
    cases hfault : save.fault with
    | some message =>
      rw [if_neg]
      rintro ⟨⟨-, hnone⟩, -⟩
      rw [hfault] at hnone
      cases hnone
    | none =>
      have hsaved : save.Saved := ⟨by simpa using hvalid, hfault⟩
      dsimp only
      by_cases hroot : save.root = root
      · rw [if_pos ⟨hsaved, hroot⟩, hroot, Function.update_self]
      · rw [if_neg fun h => hroot h.2, Function.update_of_ne]
        intro hpath
        exact hroot (hkey hsaved ((String.append_left_inj ".json").mp hpath.symm))

/-- The file of a root has the text of the last snapshot that was saved for it. -/
theorem sessionFiles_sessionPath {root : List UInt8} {saves : List SessionSave} (hkeys : ∀ save ∈ saves, KeyUnshared crates root save) :
    sessionFiles crates saves (crates.sessionPath root) = (lastSaved root saves).map crates.toStringPretty := by
  induction saves using List.reverseRecOn with
  | nil => rfl
  | append_singleton saves save ih =>
    have hsave := hkeys save (by simp)
    rw [sessionFiles, List.foldl_append]
    change saveStep crates (sessionFiles crates saves) save _ = _
    rw [saveStep_sessionPath _ hsave, ih fun s hs => hkeys s (by simp [hs]), lastSaved, lastSaved, List.filter_append]
    by_cases hlast : save.Saved ∧ save.root = root
    · have hone : [save].filter (fun save => decide (save.Saved ∧ save.root = root)) = [save] := by simp [hlast]
      rw [if_pos hlast, hone, List.getLast?_concat]
      rfl
    · have hnone : [save].filter (fun save => decide (save.Saved ∧ save.root = root)) = [] := by simp [hlast]
      rw [if_neg hlast, hnone, List.append_nil]

theorem isValid_of_lastSaved {root : List UInt8} {saves : List SessionSave} {snapshot : ProjectSessionSnapshot}
    (h : lastSaved root saves = some snapshot) : snapshot.isValid = true ∧ ∃ save ∈ saves, save.snapshot = snapshot := by
  obtain ⟨save, hlast, rfl⟩ := Option.map_eq_some_iff.mp h
  obtain ⟨hmem, hsaved⟩ := List.mem_filter.mp (List.mem_of_getLast? hlast)
  exact ⟨(of_decide_eq_true hsaved).1.1, save, hmem, rfl⟩

end

/-- As long as no other root is saved under the key of a root, it loads what was last saved for it. -/
theorem sessions_isolated (crates : SessionCrates) (saves : List SessionSave) (root : List UInt8)
    (hserde : ∀ save ∈ saves, crates.fromStr (crates.toStringPretty save.snapshot) = .ok save.snapshot)
    (hkeys : ∀ save ∈ saves, KeyUnshared crates root save) : LoadsLastSaved crates saves root := by
  unfold LoadsLastSaved loadSession
  rw [sessionFiles_sessionPath hkeys]
  cases hlast : lastSaved root saves with
  | none => rfl
  | some snapshot =>
    obtain ⟨hvalid, save, hmem, rfl⟩ := isValid_of_lastSaved hlast
    change (crates.fromStr (crates.toStringPretty save.snapshot) >>= fun snapshot => _) = _
    rw [hserde save hmem]
    change (if save.snapshot.isValid = true then _ else _) = _
    rw [if_pos hvalid]
    rfl

/-! ## Two roots with one key -/

namespace SampleSession

def snapshot (file : String) : ProjectSessionSnapshot := { activeDocument := some file }

def text (file : String) : String :=
  "\x7b\n  \"open_documents\": [],\n  \"closed_documents\": [],\n  \"active_document\": \"" ++ file ++
    "\",\n  \"selected_agent_conversation_id\": null,\n  \"panels\": \x7b\n    \"left\": null,\n    \"right\": null,\n    \"dock\": null\n  \x7d\n\x7d"

/-- The texts of two snapshots; a path of ASCII characters is its text. -/
def crates : SessionCrates where
  toStringPretty s := if s = snapshot "a.R" then text "a.R" else text "b.R"
  fromStr content :=
    if content = text "a.R" then .ok (snapshot "a.R")
    else if content = text "b.R" then .ok (snapshot "b.R")
    else .error "expected value at line 1 column 1"
  toStringLossy bytes := String.ofList (bytes.map fun b => Char.ofNat b.toNat)

def backslashed : List UInt8 := [47, 112, 47, 97, 92, 98]

def nested : List UInt8 := [47, 112, 47, 97, 47, 98]

end SampleSession

open SampleSession in
/-- The directory `a\b` of a project folder and the directory `b` in its directory `a`: what is saved for the second is what the
first loads. -/
theorem sessions_share_key :
    (∀ save ∈ [SessionSave.mk backslashed (snapshot "a.R") none, ⟨nested, snapshot "b.R", none⟩],
        SampleSession.crates.fromStr (SampleSession.crates.toStringPretty save.snapshot) = .ok save.snapshot) ∧
      ¬ LoadsLastSaved SampleSession.crates [⟨backslashed, snapshot "a.R", none⟩, ⟨nested, snapshot "b.R", none⟩] backslashed := by
  refine ⟨by decide +kernel, fun h => ?_⟩
  have hpath : SampleSession.crates.sessionPath backslashed = SampleSession.crates.sessionPath nested := by
    unfold SessionCrates.sessionPath SessionCrates.stableProjectKey
    rw [show displayPath (SampleSession.crates.toStringLossy backslashed) = displayPath (SampleSession.crates.toStringLossy nested) by
      decide +kernel]
  have hload : loadSession SampleSession.crates
      (sessionFiles SampleSession.crates [⟨backslashed, snapshot "a.R", none⟩, ⟨nested, snapshot "b.R", none⟩]) backslashed =
      .ok (snapshot "b.R") := by
    have hfile : sessionFiles SampleSession.crates [⟨backslashed, snapshot "a.R", none⟩, ⟨nested, snapshot "b.R", none⟩]
        (SampleSession.crates.sessionPath nested) = some (text "b.R") := by
      change saveStep SampleSession.crates (sessionFiles SampleSession.crates [⟨backslashed, snapshot "a.R", none⟩])
        ⟨nested, snapshot "b.R", none⟩ _ = _
      rw [saveStep_sessionPath _ fun _ _ => rfl, if_pos ⟨by decide, rfl⟩]
      decide +kernel
    unfold loadSession
    rw [hpath, hfile]
    decide +kernel
  have hlast : lastSaved backslashed [⟨backslashed, snapshot "a.R", none⟩, ⟨nested, snapshot "b.R", none⟩] =
      some (snapshot "a.R") := by
    decide +kernel
  unfold LoadsLastSaved at h
  rw [hload, hlast] at h
  exact absurd h (by decide +kernel)

open SampleSession in
theorem sessions_isolated_alone :
    LoadsLastSaved SampleSession.crates [⟨backslashed, snapshot "a.R", none⟩] backslashed := by
  refine sessions_isolated SampleSession.crates [⟨backslashed, snapshot "a.R", none⟩] backslashed ?_ ?_
  · intro save hsave
    rw [List.mem_singleton.mp hsave]
    decide +kernel
  · intro save hsave _ _
    rw [List.mem_singleton.mp hsave]

end Rho
