import Mathlib.Data.List.Dedup
import Rho.Lemmas.Compare

/-!
# A comparison the other way round

Which of two runs is given first makes no difference to what a comparison finds: the same sections and fields, with the states of the
two sides exchanged, the same counts, and the same refusal. The texts that a field shows are not part of it: the list of differing
packages, for one, is written from the left to the right.
-/

namespace Rho.Compare

/-- The state with the sides exchanged. -/
def mirrorState : CompareField → CompareField
  | .leftOnly => .rightOnly
  | .rightOnly => .leftOnly
  | state => state

/-- The field finds the mirror image of what the other finds. -/
structure MirroredField (f f' : CompareFieldEntry) : Prop where
  field : f'.field = f.field
  state : f'.state = mirrorState f.state
  limitation : f'.limitation = f.limitation

structure MirroredSection (s s' : CompareSection) : Prop where
  id : s'.id = s.id
  label : s'.label = s.label
  fields : List.Forall₂ MirroredField s.fields s'.fields

/-- The two responses find the same of their runs, with the sides exchanged. -/
structure Mirrored (r r' : CompareRunsResponse) : Prop where
  left : r'.leftRunId = r.rightRunId
  right : r'.rightRunId = r.leftRunId
  sections : List.Forall₂ MirroredSection r.sections r'.sections
  summary : r'.summary = r.summary

/-- Both comparisons answer, and mirror each other, or both are refused for one reason. -/
def MirroredAnswers : Except CompareError CompareRunsResponse → Except CompareError CompareRunsResponse → Prop
  | .ok r, .ok r' => Mirrored r r'
  | .error e, .error e' => e = e'
  | _, _ => False

namespace CompareMirrorAux

variable {name : String} {s s' : CompareField} {l r l' r' : Option String}

/-! ## Single fields -/

theorem mirrored_field (h : s' = mirrorState s) : MirroredField (field name s l r) (field name s' l' r') := ⟨rfl, h, rfl⟩

theorem compareString_mirror (a b : String) : compareString b a = mirrorState (compareString a b) := by
  rw [compareString, compareString]
  by_cases h : a = b
  · rw [if_pos h, if_pos h.symm]
    rfl
  · rw [if_neg h, if_neg (Ne.symm h)]
    rfl

theorem compareOptString_mirror (a b : Option String) : compareOptString b a = mirrorState (compareOptString a b) := by
  cases a with
  | none => cases b <;> rfl
  | some a =>
    cases b with
    | none => rfl
    | some b => exact compareString_mirror a b

theorem compareOptI64_mirror (a b : Option Int) : compareOptI64 b a = mirrorState (compareOptI64 a b) := by
  cases a with
  | none => cases b <;> rfl
  | some a =>
    cases b with
    | none => rfl
    | some b =>
      rw [compareOptI64, compareOptI64]
      by_cases h : a = b
      · rw [if_pos h, if_pos h.symm]
        rfl
      · rw [if_neg h, if_neg (Ne.symm h)]
        rfl

@[simp] theorem mirrored_optStringField (a b : Option String) : MirroredField (optStringField name a b) (optStringField name b a) :=
  mirrored_field (compareOptString_mirror a b)

@[simp] theorem mirrored_optI64Field (a b : Option Int) : MirroredField (optI64Field name a b) (optI64Field name b a) :=
  mirrored_field (compareOptI64_mirror a b)

@[simp] theorem mirrored_stringField (a b : String) : MirroredField (stringField name a b) (stringField name b a) :=
  mirrored_field (compareString_mirror a b)

@[simp] theorem mirrored_countField (a b : Nat) : MirroredField (countField name a b) (countField name b a) := mirrored_field rfl

@[simp] theorem mirrored_notApplicable : MirroredField (field name .notApplicable l r) (field name .notApplicable l' r') :=
  mirrored_field rfl

/-! ## What two sets have in common -/

theorem length_shared_comm (a b : List String) : (shared (textSet b) (textSet a)).length = (shared (textSet a) (textSet b)).length := by
  refine ((List.perm_ext_iff_of_nodup ((List.nodup_dedup b).filter _) ((List.nodup_dedup a).filter _)).mpr fun t => ?_).length_eq
  rw [List.mem_filter, List.mem_filter, decide_eq_true_iff, decide_eq_true_iff]
  exact And.comm

theorem problemsState_mirror (matched a b : Nat) : problemsState matched b a = mirrorState (problemsState matched a b) := by
  rw [problemsState, problemsState]
  by_cases ha : a = 0
  · by_cases hb : b = 0
    · by_cases hm : matched = 0 <;> simp [ha, hb, hm, mirrorState]
    · simp [ha, hb, mirrorState]
  · simp [ha, mirrorState]

theorem tracebackState_mirror (a b : String) :
    (if b = "" ∧ a = "" then CompareField.unknown else if b = a then .same else .different) =
      mirrorState (if a = "" ∧ b = "" then .unknown else if a = b then .same else .different) := by
  by_cases hempty : a = "" ∧ b = ""
  · rw [if_pos hempty, if_pos hempty.symm]
    rfl
  · rw [if_neg hempty, if_neg fun h => hempty h.symm]
    exact compareString_mirror a b

theorem artifactsState_mirror (n a b : Nat) :
    (if b = 0 ∧ a = 0 ∧ 0 < n then CompareField.same else if 0 < n ∨ 0 < b ∨ 0 < a then .different else .unknown) =
      mirrorState (if a = 0 ∧ b = 0 ∧ 0 < n then .same else if 0 < n ∨ 0 < a ∨ 0 < b then .different else .unknown) := by
  have hsame : b = 0 ∧ a = 0 ∧ 0 < n ↔ a = 0 ∧ b = 0 ∧ 0 < n := and_left_comm
  have hany : 0 < n ∨ 0 < b ∨ 0 < a ↔ 0 < n ∨ 0 < a ∨ 0 < b := or_congr_right or_comm
  simp only [hsame, hany]
  split
  · rfl
  · split <;> rfl

/-! ## Differing packages -/

theorem entryOf_eq_none_iff (n : String) {x y : Option String} : entryOf n x y = none ↔ x = y := by
  cases x with
  | none => cases y <;> simp [entryOf]
  | some v => cases y <;> simp [entryOf]

/-- No package differs when both sides have the same versions of all packages. -/
theorem diffPackages_eq_nil_iff (a b : Packages) :
    diffPackages a b = [] ↔ ∀ n, OrdMap.get (OrdMap.ofList a) n = OrdMap.get (OrdMap.ofList b) n := by
  have hmem : ∀ j, j ∈ entriesOf (OrdMap.ofList a) (OrdMap.ofList b) ↔ _ := fun j =>
    mem_entriesOf_iff (OrdMap.sorted_ofList a) (OrdMap.sorted_ofList b)
  rw [diffPackages_eq, List.take_eq_nil_iff, or_iff_right (by decide), List.eq_nil_iff_forall_not_mem]
  constructor
  · intro hnone n
    refine (entryOf_eq_none_iff n).mp (Option.eq_none_iff_forall_ne_some.mpr fun j hj => ?_)
    exact hnone j ((hmem j).mpr ⟨n, hj⟩)
  · intro hsame j hj
    obtain ⟨n, hn⟩ := (hmem j).mp hj
    rw [(entryOf_eq_none_iff n).mpr (hsame n)] at hn
    cases hn

theorem diffPackages_eq_nil_comm (a b : Packages) : diffPackages b a = [] ↔ diffPackages a b = [] := by
  rw [diffPackages_eq_nil_iff, diffPackages_eq_nil_iff]
  exact forall_congr' fun n => eq_comm

/-! ## Sections -/

theorem mirrored_identity (host : Host) (left right : RunDetail) :
    MirroredSection (compareIdentity host left right) (compareIdentity host right left) :=
  ⟨rfl, rfl, by simp [compareIdentity]⟩

theorem mirrored_source (host : Host) (left right : RunDetail) :
    MirroredSection (compareSource host left right) (compareSource host right left) :=
  ⟨rfl, rfl, by simp [compareSource]⟩

theorem mirrored_snapshots (lj rj : Json) : List.Forall₂ MirroredField (compareSnapshots lj rj) (compareSnapshots rj lj) := by
  have hdiff : (if diffPackages (extractPackages rj) (extractPackages lj) = [] then CompareField.same else .different) =
      mirrorState (if diffPackages (extractPackages lj) (extractPackages rj) = [] then .same else .different) := by
    simp only [diffPackages_eq_nil_comm (extractPackages lj) (extractPackages rj)]
    split <;> rfl
  exact .cons (mirrored_field (compareOptString_mirror _ _)) (.cons (mirrored_field (compareOptString_mirror _ _))
    (.cons (mirrored_field rfl) (.cons (mirrored_field rfl) (.cons (mirrored_field hdiff) .nil))))

theorem mirrored_environment (left right : RunEnvironment) (ls rs : Option EnvironmentSnapshotRecord) :
    MirroredSection (compareEnvironment left right ls rs) (compareEnvironment right left rs ls) := by
  refine ⟨rfl, rfl, .cons (mirrored_field ?_) (.cons (mirrored_field (compareOptString_mirror _ _)) ?_)⟩
  · cases ls <;> cases rs <;> rfl
  · have hunread : ∀ limitation, List.Forall₂ MirroredField [fieldLimited "environment_details" .unknown none none limitation]
        [fieldLimited "environment_details" .unknown none none limitation] := fun _ => .cons ⟨rfl, rfl, rfl⟩ .nil
    cases ls with
    | none => cases rs <;> exact hunread _
    | some ls =>
      cases rs with
      | none => exact hunread _
      | some rs =>
        dsimp only
        cases Json.fromText ls.canonicalJson with
        | none => cases Json.fromText rs.canonicalJson <;> exact hunread _
        | some lj =>
          cases Json.fromText rs.canonicalJson with
          | none => exact hunread _
          | some rj => exact mirrored_snapshots lj rj

theorem mirrored_outcome (host : Host) (left right : RunDetail) (leftProblems rightProblems : List RunProblem) :
    MirroredSection (compareOutcome host left right leftProblems rightProblems)
      (compareOutcome host right left rightProblems leftProblems) := by
  refine ⟨rfl, rfl, .cons (mirrored_optStringField _ _) (.cons (mirrored_optStringField _ _) (.cons (mirrored_countField _ _)
    (.cons (mirrored_countField _ _) (.cons (mirrored_field ?_) (.cons (mirrored_optStringField _ _)
      (.cons (mirrored_countField _ _) (.cons (mirrored_field ?_) .nil)))))))⟩
  · exact tracebackState_mirror _ _
  · rw [length_shared_comm]
    exact problemsState_mirror _ _ _

theorem mirrored_artifacts (leftArtifacts rightArtifacts : List ArtifactRecord) :
    MirroredSection (compareArtifacts leftArtifacts rightArtifacts) (compareArtifacts rightArtifacts leftArtifacts) := by
  refine ⟨rfl, rfl, .cons (mirrored_countField _ _) (.cons (mirrored_field ?_) .nil)⟩
  rw [length_shared_comm]
  exact artifactsState_mirror _ _ _

/-! ## The counts -/

theorem countP_mirrored {fields fields' : List CompareFieldEntry} (h : List.Forall₂ MirroredField fields fields')
    (p : CompareFieldEntry → Bool) (hp : ∀ f f', MirroredField f f' → p f' = p f) : fields'.countP p = fields.countP p := by
  induction h with
  | nil => rfl
  | cons hfield _ ih => rw [List.countP_cons, List.countP_cons, ih, hp _ _ hfield]

theorem mirrorState_eq_iff {state : CompareField} (hleft : s ≠ .leftOnly) (hright : s ≠ .rightOnly) :
    mirrorState state = s ↔ state = s := by
  cases state with
  | leftOnly => exact ⟨fun h => absurd h.symm hright, fun h => absurd h.symm hleft⟩
  | rightOnly => exact ⟨fun h => absurd h.symm hleft, fun h => absurd h.symm hright⟩
  | _ => exact Iff.rfl

theorem summarize_mirrored {sections sections' : List CompareSection} (h : List.Forall₂ MirroredSection sections sections') :
    summarize sections' = summarize sections := by
  have hfields : List.Forall₂ MirroredField (sections.flatMap (·.fields)) (sections'.flatMap (·.fields)) :=
    List.rel_flatMap h fun _ _ hs => hs.fields
  have hstate : ∀ state : CompareField, state ≠ .leftOnly → state ≠ .rightOnly →
      (sections'.flatMap (·.fields)).countP (fun f => f.state = state) = (sections.flatMap (·.fields)).countP (fun f => f.state = state) := by
    intro state hleft hright
    refine countP_mirrored hfields _ fun f f' hf => ?_
    rw [hf.state, decide_eq_decide]
    exact mirrorState_eq_iff hleft hright
  rw [summarize, summarize, hstate .same nofun nofun, hstate .different nofun nofun, hstate .unknown nofun nofun,
    countP_mirrored hfields (fun f => f.limitation.isSome) fun f f' hf => congrArg Option.isSome hf.limitation]

/-! ## The response -/

theorem mirrored_compute (host : Host) (root : String) (left right : RunDetail) (lp rp : List RunProblem)
    (ls rs : Option EnvironmentSnapshotRecord) (la ra : List ArtifactRecord) :
    Mirrored (compute host root left right lp rp ls rs la ra) (compute host root right left rp lp rs ls ra la) := by
  have hsections : List.Forall₂ MirroredSection (compute host root left right lp rp ls rs la ra).sections
      (compute host root right left rp lp rs ls ra la).sections :=
    .cons (mirrored_identity host left right) (.cons (mirrored_source host left right) (.cons (mirrored_environment _ _ ls rs)
      (.cons (mirrored_outcome host left right lp rp) (.cons (mirrored_artifacts la ra) .nil))))
  exact ⟨rfl, rfl, hsections, summarize_mirrored hsections⟩

end CompareMirrorAux

open CompareMirrorAux

/-- The order in which two runs are given to a comparison exchanges the sides of what it finds, and changes nothing else. -/
theorem compareRuns_mirrored (db : Db) (root : String) (host : Host) (leftRunId rightRunId : String) :
    MirroredAnswers (db.compareRuns root host leftRunId rightRunId) (db.compareRuns root host rightRunId leftRunId) := by
  rw [Db.compareRuns, Db.compareRuns]
  by_cases hsame : leftRunId = rightRunId
  · rw [if_pos hsame, if_pos hsame.symm]
    rfl
  rw [if_neg hsame, if_neg (Ne.symm hsame)]
  cases hleft : db.getRunDetail root leftRunId with
  | none => cases db.getRunDetail root rightRunId <;> rfl
  | some left =>
    cases hright : db.getRunDetail root rightRunId with
    | none => rfl
    | some right =>
      dsimp only
      split
      · rename_i hclass
        rw [if_pos hclass.symm]
        rfl
      · rename_i hclass
        rw [if_neg fun h => hclass h.symm]
        exact mirrored_compute host root left right _ _ _ _ _ _

end Rho.Compare
