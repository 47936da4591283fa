import Rho.Extension.Grant
import Rho.Lib.Glob
import Rho.Lib.Search

/-!
# The paths that a pattern matches

`glob_matches` against the reading of a pattern by components. The matcher visits each pair of positions once, and this never loses a
match. But a `**/` may end inside of a component: the step over it is also taken after `**` has taken a part of a name.
-/

namespace Rho

open Search Glob

namespace GlobAux

variable {pattern value : List UInt8} {p v : Nat} {byte : UInt8}

/-- What is left of the pattern matches what is left of the value. -/
def Left (pattern value : List UInt8) (at' : Nat × Nat) : Prop := Match false true (pattern.drop at'.1) (value.drop at'.2)

theorem drop_of_get {l : List UInt8} {i : Nat} (h : (l)[i]? = some byte) : l.drop i = byte :: l.drop (i + 1) := by
  obtain ⟨hi, rfl⟩ := List.getElem?_eq_some_iff.mp h
  exact List.drop_eq_getElem_cons hi

theorem drop_of_none {l : List UInt8} {i : Nat} (h : (l)[i]? = none) : l.drop i = [] :=
  List.drop_eq_nil_of_le (List.getElem?_eq_none_iff.mp h)

theorem lt_of_get {l : List UInt8} {i : Nat} (h : (l)[i]? = some byte) : i < l.length := (List.getElem?_eq_some_iff.mp h).1

/-- The equations of `Match`, at positions. -/
theorem left_end (h : (pattern)[p]? = none) : Left pattern value (p, v) ↔ value.length ≤ v := by
  unfold Left
  rw [drop_of_none h, match_nil, List.drop_eq_nil_iff]

theorem left_byte (h : (pattern)[p]? = some byte) (hstar : byte ≠ 42) : Left pattern value (p, v) ↔
      ∃ next, (value)[v]? = some next ∧ ((byte = 63 ∧ next ≠ 47) ∨ byte = next) ∧ Left pattern value (p + 1, v + 1) := by
  unfold Left
  rw [drop_of_get h, match_cons hstar]
  constructor
  · rintro ⟨next, rest, hvalue, htakes, hrest⟩
    have hget : (value)[v]? = some next := by
      rw [← List.head?_drop, hvalue]
      rfl
    rw [drop_of_get hget] at hvalue
    cases hvalue
    exact ⟨next, hget, htakes, hrest⟩
  · rintro ⟨next, hget, htakes, hrest⟩
    exact ⟨next, _, drop_of_get hget, htakes, hrest⟩

theorem left_star (h : (pattern)[p]? = some 42) (hsingle : (pattern)[p + 1]? ≠ some 42) :
    Left pattern value (p, v) ↔
      Left pattern value (p + 1, v) ∨ ∃ next, (value)[v]? = some next ∧ next ≠ 47 ∧ Left pattern value (p, v + 1) := by
  unfold Left
  rw [drop_of_get h]
  change Match false true (asterisk :: pattern.drop (p + 1)) (value.drop v) ↔ _
  rw [match_star (by rw [List.head?_drop]; exact hsingle)]
  refine or_congr Iff.rfl ?_
  constructor
  · rintro ⟨next, rest, hvalue, hnext, hrest⟩
    have hget : (value)[v]? = some next := by
      rw [← List.head?_drop, hvalue]
      rfl
    rw [drop_of_get hget] at hvalue
    cases hvalue
    exact ⟨next, hget, hnext, hrest⟩
  · rintro ⟨next, hget, hnext, hrest⟩
    exact ⟨next, _, drop_of_get hget, hnext, hrest⟩

theorem left_double (h : (pattern)[p]? = some 42) (hdouble : (pattern)[p + 1]? = some 42) :
    Left pattern value (p, v) ↔
      Left pattern value (p + 2, v) ∨ ((pattern)[p + 2]? = some 47 ∧ Left pattern value (p + 3, v)) ∨
        ∃ next, (value)[v]? = some next ∧ Left pattern value (p, v + 1) := by
  have hpattern : pattern.drop p = asterisk :: asterisk :: pattern.drop (p + 2) := by
    rw [drop_of_get h, drop_of_get hdouble]
    rfl
  unfold Left
  rw [hpattern, match_double]
  refine or_congr Iff.rfl (or_congr ?_ ?_)
  · constructor
    · rintro ⟨rest, hslash, hrest⟩
      have hget : (pattern)[p + 2]? = some 47 := by
        rw [← List.head?_drop, hslash]
        rfl
      rw [drop_of_get hget] at hslash
      cases hslash
      exact ⟨hget, hrest⟩
    · rintro ⟨hget, hrest⟩
      exact ⟨_, drop_of_get hget, hrest⟩
  · constructor
    · rintro ⟨next, rest, hvalue, hrest⟩
      have hget : (value)[v]? = some next := by
        rw [← List.head?_drop, hvalue]
        rfl
      rw [drop_of_get hget] at hvalue
      cases hvalue
      exact ⟨next, hget, hrest⟩
    · rintro ⟨next, hget, hrest⟩
      exact ⟨next, _, drop_of_get hget, hrest⟩

/-- A visit answers whether what is left matches: the pairs that are still being visited are further to the front. -/
theorem globVisit_tried (pattern value : List UInt8) :
    ∀ (fuel p v : Nat) (seen : List (Nat × Nat)), pattern.length + value.length < fuel + (p + v) → p ≤ pattern.length → v ≤ value.length →
      (∀ t ∈ seen, t.1 + t.2 < p + v ∨ ¬ Left pattern value t) →
      Tried (Left pattern value) (Left pattern value (p, v)) seen (globVisit pattern value fuel p v seen) := by
  intro fuel
  induction fuel with
  | zero =>
    intro p v seen hfuel hp hv _
    omega
  | succ fuel ih =>
    intro p v seen hfuel hp hv hseen
    -- The visits from here are further on, whatever was visited since in vain.
    have hopen : ∀ {seen' : List (Nat × Nat)}, (∀ t ∈ seen', t ∈ (p, v) :: seen ∨ ¬ Left pattern value t) → ∀ {p' v' : Nat}, p + v < p' + v' →
        ∀ t ∈ seen', t.1 + t.2 < p' + v' ∨ ¬ Left pattern value t := by
      intro seen' hseen' p' v' hlt t ht
      rcases hseen' t ht with ht | ht
      · rcases List.mem_cons.mp ht with rfl | ht
        · exact Or.inl hlt
        · exact (hseen t ht).imp (fun h => Nat.lt_trans h hlt) id
      · exact Or.inr ht
    have hstart : ∀ t ∈ (p, v) :: seen, t ∈ (p, v) :: seen ∨ ¬ Left pattern value t := fun _ ht => Or.inl ht
    unfold globVisit
    split
    · next hmem => exact .again ((hseen _ hmem).resolve_left (Nat.lt_irrefl _))
    dsimp only
    cases hget : (pattern)[p]? with
    | none =>
      refine .visit (left_end hget) (.answer ?_)
      rw [beq_iff_eq]
      omega
    | some byte =>
      have hp' := lt_of_get hget
      dsimp only
      by_cases hstar : byte = 42
      · subst hstar
        rw [if_pos rfl]
        by_cases hdouble : (pattern)[p + 1]? = some 42
        · have hp'' := lt_of_get hdouble
          refine .visit (left_double hget hdouble) ?_
          rw [hdouble]
          simp only [beq_self_eq_true, if_true, Bool.true_and, Bool.true_or]
          refine .orElse (ih _ _ _ (by omega) (by omega) hv (hopen hstart (by omega))) ?_
          intro hskipped hsettled
          refine .orElse ?_ ?_
          · by_cases hslash : (pattern)[p + 2]? = some 47
            · have hp₃ := lt_of_get hslash
              rw [hslash, if_pos (beq_self_eq_true _)]
              exact (ih _ _ _ (by omega) (by omega) hv (hopen hsettled (by omega))).congr ⟨fun h => ⟨rfl, h⟩, And.right⟩
            · rw [if_neg (fun h => hslash (beq_iff_eq.mp h))]
              exact .lost hskipped fun h => hslash h.1
          · intro hunslashed hsettled'
            have hsettled'' := fun t ht => (hsettled' t ht).elim (hsettled t) Or.inr
            cases hvalue : (value)[v]? with
            | none => exact .fail (by rintro ⟨next, hnext, -⟩; cases hnext)
            | some next =>
              have hv' := lt_of_get hvalue
              refine (ih _ _ _ (by omega) hp (by omega) (hopen hsettled'' (by omega))).congr ?_
              exact ⟨fun h => ⟨next, rfl, h⟩, fun ⟨_, _, h⟩ => h⟩
        · refine .visit (left_star hget hdouble) ?_
          have hno : ((pattern)[p + 1]? == some 42) = false := by
            rw [beq_eq_false_iff_ne]
            exact hdouble
          rw [hno]
          simp only [Bool.false_eq_true, if_false, Bool.false_and, Bool.false_or]
          refine .orElse (ih _ _ _ (by omega) (by omega) hv (hopen hstart (by omega))) ?_
          intro hskipped hsettled
          rw [if_neg (by rw [hskipped]; exact Bool.false_ne_true)]
          cases hvalue : (value)[v]? with
          | none => exact .fail (by rintro ⟨next, hnext, -⟩; cases hnext)
          | some next =>
            have hv' := lt_of_get hvalue
            dsimp only
            split
            · next hne =>
              refine (ih _ _ _ (by omega) hp (by omega) (hopen hsettled (by omega))).congr ?_
              exact ⟨fun h => ⟨next, rfl, bne_iff_ne.mp hne, h⟩, fun ⟨_, _, _, h⟩ => h⟩
            · next heq =>
              refine .fail ?_
              rintro ⟨_, hnext, hne, -⟩
              cases hnext
              exact heq (bne_iff_ne.mpr hne)
      · rw [if_neg hstar]
        refine .visit (left_byte hget hstar) ?_
        cases hvalue : (value)[v]? with
        | none => exact .fail (by rintro ⟨next, hnext, -⟩; cases hnext)
        | some next =>
          have hv' := lt_of_get hvalue
          dsimp only
          refine Tried.congr (V := ((byte = 63 ∧ next ≠ 47) ∧ Left pattern value (p + 1, v + 1)) ∨
            byte = next ∧ Left pattern value (p + 1, v + 1)) ?_ (.orElse ?_ ?_)
          · rw [← or_and_right]
            exact ⟨fun ⟨h, hrest⟩ => ⟨next, rfl, h, hrest⟩, fun ⟨_, hnext, h, hrest⟩ => by cases hnext; exact ⟨h, hrest⟩⟩
          · split
            · next htakes =>
              refine Tried.congr (V := Left pattern value (p + 1, v + 1)) (and_iff_right htakes).symm ?_
              exact ih _ _ _ (by omega) (by omega) (by omega) (hopen hstart (by omega))
            · next hnot => exact .fail (not_and_of_not_left _ hnot)
          · intro hany hsettled
            by_cases htakes : byte = next
            · rw [if_pos htakes]
              refine Tried.congr (V := Left pattern value (p + 1, v + 1)) (and_iff_right htakes).symm ?_
              exact ih _ _ _ (by omega) (by omega) (by omega) (hopen hsettled (by omega))
            · rw [if_neg htakes]
              exact .fail (not_and_of_not_left _ htakes)

/-- The matcher takes `**/` for any run at all. -/
theorem globMatches_iff (pattern path : String) :
    globMatches pattern path = true ↔ Match false true (utf8Bytes pattern) (utf8Bytes path) := by
  have h := globVisit_tried (utf8Bytes pattern) (utf8Bytes path) ((utf8Bytes pattern).length + (utf8Bytes path).length + 1) 0 0 []
    (by omega) (Nat.zero_le _) (Nat.zero_le _) (fun t ht => by cases ht)
  have hleft : Left (utf8Bytes pattern) (utf8Bytes path) (0, 0) ↔ Match false true (utf8Bytes pattern) (utf8Bytes path) := by
    unfold Left
    rw [List.drop_zero, List.drop_zero]
  exact h.iff.trans hleft

end GlobAux

open GlobAux

/-- The matcher keeps to the components exactly where whatever a `**/` reaches by cutting a component is also reached without: no
match is lost on the way, and none is made up for another reason. -/
theorem matches_components_iff (pattern path : String) :
    (globMatches pattern path = true ↔ Match true true (utf8Bytes pattern) (utf8Bytes path)) ↔
      (Cuts true (utf8Bytes pattern) (utf8Bytes path) → Match true true (utf8Bytes pattern) (utf8Bytes path)) := by
  rw [globMatches_iff, match_loose_iff]
  constructor
  · intro h hcuts
    exact h.mp (Or.inr hcuts)
  · intro h
    exact ⟨fun hloose => hloose.elim id h, Or.inl⟩

/-- `data/**/x.csv` reaches `data/ax.csv`: the `a` in front of `x.csv` is taken for what `**/` stands for. -/
theorem pattern_reaches_into_name : globMatches "data/**/x.csv" "data/ax.csv" = true ∧
      ¬ Match true true (utf8Bytes "data/**/x.csv") (utf8Bytes "data/ax.csv") := by
  refine ⟨by decide +kernel, ?_⟩
  have hpattern : utf8Bytes "data/**/x.csv" = [100, 97, 116, 97, Glob.slash, asterisk, asterisk, Glob.slash, 120, 46, 99, 115, 118] := by
    decide +kernel
  have hpath : utf8Bytes "data/ax.csv" = [100, 97, 116, 97, Glob.slash, 97, 120, 46, 99, 115, 118] := by decide +kernel
  rw [hpattern, hpath]
  rw [match_byte (by decide) (by decide), match_byte (by decide) (by decide), match_byte (by decide) (by decide),
    match_byte (by decide) (by decide), match_byte (by decide) (by decide), match_components_last (by decide),
    match_byte (by decide) (by decide)]
  rintro ⟨-, -, -, -, -, -, hbyte, -⟩
  exact absurd hbyte (by decide)

end Rho
