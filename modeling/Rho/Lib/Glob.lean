import Mathlib.Tactic.Common

/-!
# Glob patterns

What it means that a path of bytes matches a pattern: `?` stands for one byte of a component, `*` for a run within a component, `**`
for any run, and `**/` also for whole components at the front of what is left. The reading in which `**/` stands for any run at all
is compared with it, and has equations that take one byte at a time.
-/

namespace Glob

def slash : UInt8 := 47
def asterisk : UInt8 := 42
def question : UInt8 := 63

/-- A component begins after these bytes, or one began before them and there are none. -/
def boundaryAfter (boundary : Bool) (run : List UInt8) : Bool :=
  match run.getLast? with
  | none => boundary
  | some byte => byte == slash

/-- The path matches the pattern from a place on where a component begins or not. Where `whole` is false, the run that `**/` stands
for may begin and end inside of components. -/
inductive Match (whole : Bool) : (boundary : Bool) → (pattern path : List UInt8) → Prop
  | nil {boundary : Bool} : Match whole boundary [] []
  | any {boundary : Bool} {byte : UInt8} {pattern path : List UInt8} (hbyte : byte ≠ slash) (hrest : Match whole false pattern path) :
      Match whole boundary (question :: pattern) (byte :: path)
  | byte {boundary : Bool} {byte : UInt8} {pattern path : List UInt8} (hstar : byte ≠ asterisk) (hany : byte ≠ question)
      (hrest : Match whole (byte == slash) pattern path) : Match whole boundary (byte :: pattern) (byte :: path)
  | star {boundary : Bool} {run pattern path : List UInt8} (hsingle : pattern.head? ≠ some asterisk) (hrun : slash ∉ run)
      (hrest : Match whole (boundaryAfter boundary run) pattern path) : Match whole boundary (asterisk :: pattern) (run ++ path)
  | double {boundary : Bool} {run pattern path : List UInt8} (hrest : Match whole (boundaryAfter boundary run) pattern path) :
      Match whole boundary (asterisk :: asterisk :: pattern) (run ++ path)
  | components {boundary : Bool} {run pattern path : List UInt8}
      (hwhole : whole = true → boundary = true ∧ boundaryAfter boundary run = true)
      (hrest : Match whole (boundaryAfter boundary run) pattern path) :
      Match whole boundary (asterisk :: asterisk :: slash :: pattern) (run ++ path)

/-- The path is reached with a `**/` that stands for a run which begins or ends inside of a component. -/
inductive Cuts : (boundary : Bool) → (pattern path : List UInt8) → Prop
  | any {boundary : Bool} {byte : UInt8} {pattern path : List UInt8} (hbyte : byte ≠ slash) (hrest : Cuts false pattern path) :
      Cuts boundary (question :: pattern) (byte :: path)
  | byte {boundary : Bool} {byte : UInt8} {pattern path : List UInt8} (hstar : byte ≠ asterisk) (hany : byte ≠ question)
      (hrest : Cuts (byte == slash) pattern path) : Cuts boundary (byte :: pattern) (byte :: path)
  | star {boundary : Bool} {run pattern path : List UInt8} (hsingle : pattern.head? ≠ some asterisk) (hrun : slash ∉ run)
      (hrest : Cuts (boundaryAfter boundary run) pattern path) : Cuts boundary (asterisk :: pattern) (run ++ path)
  | double {boundary : Bool} {run pattern path : List UInt8} (hrest : Cuts (boundaryAfter boundary run) pattern path) :
      Cuts boundary (asterisk :: asterisk :: pattern) (run ++ path)
  | components {boundary : Bool} {run pattern path : List UInt8} (hrest : Cuts (boundaryAfter boundary run) pattern path) :
      Cuts boundary (asterisk :: asterisk :: slash :: pattern) (run ++ path)
  | cut {boundary : Bool} {run pattern path : List UInt8} (hcut : boundary = false ∨ boundaryAfter boundary run = false)
      (hrest : Match false (boundaryAfter boundary run) pattern path) :
      Cuts boundary (asterisk :: asterisk :: slash :: pattern) (run ++ path)

variable {whole boundary : Bool} {pattern path run : List UInt8} {byte : UInt8}

/-- Whole components are runs. -/
theorem Match.loose (h : Match whole boundary pattern path) : Match false boundary pattern path := by
  induction h with
  | nil => exact .nil
  | any hbyte _ ih => exact .any hbyte ih
  | byte hstar hany _ ih => exact .byte hstar hany ih
  | star hsingle hrun _ ih => exact .star hsingle hrun ih
  | double _ ih => exact .double ih
  | components _ _ ih => exact .components nofun ih

/-- Where a component begins is of no matter if `**/` need not stand for whole ones. -/
theorem Match.anywhere (h : Match false boundary pattern path) (boundary' : Bool) : Match false boundary' pattern path := by
  induction h generalizing boundary' with
  | nil => exact .nil
  | any hbyte hrest _ => exact .any hbyte hrest
  | byte hstar hany hrest _ => exact .byte hstar hany hrest
  | star hsingle hrun _ ih => exact .star hsingle hrun (ih _)
  | double _ ih => exact .double (ih _)
  | components _ _ ih => exact .components nofun (ih _)

theorem Cuts.loose (h : Cuts boundary pattern path) : Match false boundary pattern path := by
  induction h with
  | any hbyte _ ih => exact .any hbyte ih
  | byte hstar hany _ ih => exact .byte hstar hany ih
  | star hsingle hrun _ ih => exact .star hsingle hrun ih
  | double _ ih => exact .double ih
  | components _ ih => exact .components nofun ih
  | cut _ hrest => exact .components nofun hrest

/-- A path is matched with whole components, or a component is cut. -/
theorem match_loose_iff : Match false boundary pattern path ↔ Match true boundary pattern path ∨ Cuts boundary pattern path := by
  constructor
  · intro h
    induction h with
    | nil => exact Or.inl .nil
    | any hbyte _ ih => exact ih.imp (.any hbyte) (.any hbyte)
    | byte hstar hany _ ih => exact ih.imp (.byte hstar hany) (.byte hstar hany)
    | star hsingle hrun _ ih => exact ih.imp (.star hsingle hrun) (.star hsingle hrun)
    | double _ ih => exact ih.imp .double .double
    | @components boundary run pattern path _ hrest ih =>
      by_cases hcut : boundary = false ∨ boundaryAfter boundary run = false
      · exact Or.inr (.cut hcut hrest)
      · have hwhole : boundary = true ∧ boundaryAfter boundary run = true := by simpa using hcut
        exact ih.imp (.components fun _ => hwhole) .components
  · rintro (h | h)
    · exact h.loose
    · exact h.loose

/-! ## One byte at a time -/

theorem match_nil : Match whole boundary [] path ↔ path = [] := by
  constructor
  · intro h
    cases h
    rfl
  · rintro rfl
    exact .nil

/-- A byte of the pattern that is no `*` takes one byte of the path. -/
theorem match_cons (hstar : byte ≠ asterisk) : Match false boundary (byte :: pattern) path ↔
      ∃ next rest, path = next :: rest ∧ ((byte = question ∧ next ≠ slash) ∨ byte = next) ∧ Match false boundary pattern rest := by
  constructor
  · intro h
    cases h with
    | any hnext hrest => exact ⟨_, _, rfl, Or.inl ⟨rfl, hnext⟩, hrest.anywhere _⟩
    | byte _ _ hrest => exact ⟨_, _, rfl, Or.inr rfl, hrest.anywhere _⟩
    | star => exact absurd rfl hstar
    | double => exact absurd rfl hstar
    | components => exact absurd rfl hstar
  · rintro ⟨next, rest, rfl, htakes, hrest⟩
    by_cases hany : byte = question
    · subst hany
      refine .any ?_ (hrest.anywhere _)
      rcases htakes with ⟨-, hnext⟩ | rfl
      · exact hnext
      · decide
    · rcases htakes with ⟨hquestion, -⟩ | rfl
      · exact absurd hquestion hany
      · exact .byte hstar hany (hrest.anywhere _)

/-- A `*` is over, or takes one byte of its component. -/
theorem match_star (hsingle : pattern.head? ≠ some asterisk) : Match false boundary (asterisk :: pattern) path ↔
      Match false boundary pattern path ∨
        ∃ next rest, path = next :: rest ∧ next ≠ slash ∧ Match false boundary (asterisk :: pattern) rest := by
  constructor
  · intro h
    cases h with
    | byte hstar => exact absurd rfl hstar
    | double => exact absurd rfl hsingle
    | components => exact absurd rfl hsingle
    | @star _ run _ path _ hrun hrest =>
      cases run with
      | nil => exact Or.inl (hrest.anywhere _)
      | cons next run =>
        obtain ⟨hnext, hrun⟩ := not_or.mp fun h => hrun (List.mem_cons.mpr h)
        exact Or.inr ⟨next, run ++ path, rfl, fun h => hnext h.symm, .star hsingle hrun (hrest.anywhere _)⟩
  · rintro (hrest | ⟨next, rest, rfl, hnext, hrest⟩)
    · exact @Match.star _ _ [] _ _ hsingle List.not_mem_nil (hrest.anywhere _)
    · cases hrest with
      | byte hstar => exact absurd rfl hstar
      | double => exact absurd rfl hsingle
      | components => exact absurd rfl hsingle
      | @star _ run _ path _ hrun hrest =>
        refine @Match.star _ _ (next :: run) _ _ hsingle ?_ (hrest.anywhere _)
        intro hmem
        rcases List.mem_cons.mp hmem with h | h
        · exact hnext h.symm
        · exact hrun h

/-- A `**` is over, with the `/` behind it or without, or takes one byte. -/
theorem match_double : Match false boundary (asterisk :: asterisk :: pattern) path ↔
      Match false boundary pattern path ∨ (∃ rest, pattern = slash :: rest ∧ Match false boundary rest path) ∨
        ∃ next rest, path = next :: rest ∧ Match false boundary (asterisk :: asterisk :: pattern) rest := by
  constructor
  · intro h
    cases h with
    | byte hstar => exact absurd rfl hstar
    | star hsingle => exact absurd rfl hsingle
    | @double _ run _ path hrest =>
      cases run with
      | nil => exact Or.inl (hrest.anywhere _)
      | cons next run => exact Or.inr (Or.inr ⟨next, run ++ path, rfl, .double (hrest.anywhere _)⟩)
    | @components _ run pattern path _ hrest =>
      cases run with
      | nil => exact Or.inr (Or.inl ⟨pattern, rfl, hrest.anywhere _⟩)
      | cons next run =>
        exact Or.inr (Or.inr ⟨next, run ++ path, rfl, .components nofun (hrest.anywhere _)⟩)
  · rintro (hrest | ⟨rest, rfl, hrest⟩ | ⟨next, rest, rfl, hrest⟩)
    · exact @Match.double _ _ [] _ _ (hrest.anywhere _)
    · exact @Match.components _ _ [] _ _ nofun (hrest.anywhere _)
    · cases hrest with
      | byte hstar => exact absurd rfl hstar
      | star hsingle => exact absurd rfl hsingle
      | @double _ run _ path hrest => exact @Match.double _ _ (next :: run) _ _ (hrest.anywhere _)
      | @components _ run _ path _ hrest => exact @Match.components _ _ (next :: run) _ _ nofun (hrest.anywhere _)

/-! ## Whole components -/

/-- A byte of the pattern that stands for itself. -/
theorem match_byte (hstar : byte ≠ asterisk) (hany : byte ≠ question) {next : UInt8} :
    Match whole boundary (byte :: pattern) (next :: path) ↔ byte = next ∧ Match whole (byte == slash) pattern path := by
  constructor
  · intro h
    generalize hpath : next :: path = full at h
    cases h with
    | any => exact absurd rfl hany
    | star => exact absurd rfl hstar
    | double => exact absurd rfl hstar
    | components => exact absurd rfl hstar
    | byte _ _ hrest =>
      cases hpath
      exact ⟨rfl, hrest⟩
  · rintro ⟨rfl, hrest⟩
    exact .byte hstar hany hrest

theorem boundaryAfter_of_not_mem (hrun : slash ∉ run) (h : boundaryAfter boundary run = true) : run = [] := by
  unfold boundaryAfter at h
  cases hlast : run.getLast? with
  | none => exact List.getLast?_eq_none_iff.mp hlast
  | some byte =>
    rw [hlast] at h
    rw [← beq_iff_eq.mp h] at hrun
    exact absurd (List.mem_of_getLast? hlast) hrun

/-- In the last component of a path, `**/` stands for nothing, and for that where the component begins. -/
theorem match_components_last (hpath : slash ∉ path) :
    Match true boundary (asterisk :: asterisk :: slash :: pattern) path ↔ boundary = true ∧ Match true true pattern path := by
  constructor
  · intro h
    cases h with
    | byte hstar => exact absurd rfl hstar
    | star hsingle => exact absurd rfl hsingle
    | @double _ run _ path hrest =>
      cases hrest with
      | byte => exact absurd (List.mem_append_right _ List.mem_cons_self) hpath
    | @components _ run _ path hwhole hrest =>
      obtain ⟨hboundary, hafter⟩ := hwhole rfl
      obtain rfl := boundaryAfter_of_not_mem (fun hmem => hpath (List.mem_append_left _ hmem)) hafter
      rw [hafter] at hrest
      exact ⟨hboundary, hrest⟩
  · rintro ⟨rfl, hrest⟩
    exact @Match.components _ _ [] _ _ (fun _ => ⟨rfl, rfl⟩) hrest

end Glob
