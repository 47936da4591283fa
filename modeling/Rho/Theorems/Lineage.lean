import Mathlib.Data.List.Induction
import Rho.Extension.Evaluation
import Rho.Lemmas.Package

/-!
# Published digests are evaluated

What a lineage publishes was the candidate of a sealed plan for this lineage over the digest that was accepted, with evidence that
passed every gate of the plan. A seal stands for its plan, because the stream that it is the hash of can be read back.
-/

namespace Rho

open Json PublishCall

/-! ## Duplicates -/

theorem hasDuplicatesFrom_eq_false {seen values : List String} :
    hasDuplicatesFrom seen values = false ↔ values.Nodup ∧ ∀ value ∈ values, value ∉ seen := by
  induction values generalizing seen with
  | nil => simp [hasDuplicatesFrom]
  | cons value values ih =>
    rw [hasDuplicatesFrom, Bool.or_eq_false_iff, decide_eq_false_iff_not, ih, List.nodup_cons]
    constructor
    · rintro ⟨hseen, hnodup, hfresh⟩
      refine ⟨⟨fun hmem => hfresh value hmem List.mem_cons_self, hnodup⟩, ?_⟩
      rintro w hw
      rcases List.mem_cons.mp hw with rfl | hw
      · exact hseen
      · exact fun hmem => hfresh w hw (List.mem_cons_of_mem _ hmem)
    · rintro ⟨⟨hvalue, hnodup⟩, hseen⟩
      refine ⟨hseen value List.mem_cons_self, hnodup, ?_⟩
      intro w hw hmem
      rcases List.mem_cons.mp hmem with rfl | hmem
      · exact hvalue hw
      · exact hseen w (List.mem_cons_of_mem _ hw) hmem

theorem hasDuplicates_eq_false {values : List String} : hasDuplicates values = false ↔ values.Nodup := by
  rw [hasDuplicates, hasDuplicatesFrom_eq_false]
  exact and_iff_left nofun

/-- With distinct keys, the first element with a key is the only one. -/
theorem filter_eq_singleton {α : Type} {key : α → String} {l : List α} {k : String} {a : α} (hnodup : (l.map key).Nodup)
    (hfind : l.find? (fun x => decide (key x = k)) = some a) : l.filter (fun x => decide (key x = k)) = [a] := by
  induction l with
  | nil => cases hfind
  | cons x l ih =>
    obtain ⟨hx, hnodup⟩ := List.nodup_cons.mp hnodup
    by_cases hkey : key x = k
    · rw [List.find?_cons_of_pos (by simpa using hkey)] at hfind
      cases hfind
      rw [List.filter_cons_of_pos (by simpa using hkey), List.filter_eq_nil_iff.mpr]
      intro y hy hkeyY
      exact hx (List.mem_map.mpr ⟨y, hy, (of_decide_eq_true hkeyY).trans hkey.symm⟩)
    · rw [List.find?_cons_of_neg (by simpa using hkey)] at hfind
      rw [List.filter_cons_of_neg (by simpa using hkey)]
      exact ih hnodup hfind

/-! ## The seal -/

namespace EvaluationPlan

variable {plan other : EvaluationPlan}

theorem exact_toJson (plan : EvaluationPlan) : Exact plan.toJson := by
  have htexts : ∀ texts : List String, ExactList (texts.map .str) := by
    intro texts
    refine exactList_of_forall fun v hv => ?_
    obtain ⟨text, -, rfl⟩ := List.mem_map.mp hv
    simp [Exact]
  have hrule : Exact (plan.minimumImprovementRule.elim .null .str) := by
    cases plan.minimumImprovementRule <;> simp [Exact]
  simp [toJson, Exact, ExactFields, htexts, hrule]

theorem nesting_toJson (plan : EvaluationPlan) : nesting plan.toJson ≤ 2 := by
  have htexts : ∀ texts : List String, nestingList (texts.map .str) ≤ 0 := by
    intro texts
    refine nestingList_le fun v hv => ?_
    obtain ⟨text, -, rfl⟩ := List.mem_map.mp hv
    simp [nesting]
  have hrule : nesting (plan.minimumImprovementRule.elim .null .str) = 0 := by
    cases plan.minimumImprovementRule <;> simp [nesting]
  have hcases := htexts plan.mandatoryCases
  have hlayers := htexts plan.requiredLayers
  have hconditions := htexts plan.rejectionConditions
  simp only [toJson, nesting, nestingFields, hrule]
  omega

theorem toJson_inj (h : plan.toJson = other.toJson) : plan = other := by
  have hstr : Function.Injective Json.str := fun _ _ heq => Json.str.inj heq
  have htexts : Function.Injective (List.map Json.str) := List.map_injective_iff.mpr hstr
  have hrule : Function.Injective (fun o : Option String => o.elim Json.null .str) := by
    intro a b heq
    cases a <;> cases b <;> simp_all
  cases plan with
  | mk planId projectId lineageId pluginId baseline candidate fixtures mandatory layers rule conditions =>
    cases other with
    | mk planId' projectId' lineageId' pluginId' baseline' candidate' fixtures' mandatory' layers' rule' conditions' =>
      simp only [toJson, Json.obj.injEq, List.cons.injEq, Prod.mk.injEq, Json.str.injEq, Json.arr.injEq, true_and, and_true] at h
      obtain ⟨h1, h2, h3, h4, h5, h6, h7, h8, h9, h10, h11⟩ := h
      rw [h1, Identifier.value_injective h2, h3, Identifier.value_injective h4, h5, h6, h7, htexts h8, htexts h9, hrule h10,
        htexts h11]

/-- The stream of a seal can be read back. -/
theorem sealStream_inj (h : plan.sealStream = other.sealStream) : plan = other := by
  simp only [sealStream, inventoryStream, hashBytes, List.flatMap_cons, List.flatMap_nil, List.append_nil] at h
  have hafterTag := (List.append_inj h rfl).2
  have hbytes := (List.append_inj hafterTag (by rw [lengthBytes, lengthBytes, List.length_map, List.length_map])).2
  refine toJson_inj (toText_inj plan.exact_toJson other.exact_toJson ?_ ?_ (bytesOf_injective hbytes))
  · exact plan.nesting_toJson.trans (by decide)
  · exact other.nesting_toJson.trans (by decide)

end EvaluationPlan

variable {sha256 : List UInt8 → Vector UInt8 32}

/-- A seal digest is that of one plan only, unless two streams collide. -/
theorem plan_of_sealDigest {a b : SealedEvaluationPlan sha256} (h : a.sealDigest = b.sealDigest) :
    a.plan = b.plan ∨ Collide sha256 a.plan.sealStream b.plan.sealStream := by
  by_cases hplan : a.plan = b.plan
  · exact .inl hplan
  · refine .inr ⟨fun hstream => hplan (EvaluationPlan.sealStream_inj hstream), ?_⟩
    rw [a.sealed, b.sealed] at h
    exact Vector.toList_inj.mp (hexEncode_inj h)

/-! ## The gates -/

/-- The evidence is bound to the sealed plan and passes each of its gates. -/
structure EvaluationEvidence.Passes (evidence : EvaluationEvidence) (sealedPlan : SealedEvaluationPlan sha256) : Prop where
  planId : evidence.planId = sealedPlan.plan.planId
  bound : evidence.planSealDigest = sealedPlan.sealDigest
  candidate : evidence.candidateDigest = sealedPlan.plan.candidateDigest
  mandatory : ∀ caseId ∈ sealedPlan.plan.mandatoryCases, ∃ result,
    evidence.cases.filter (fun c => decide (c.caseId = caseId)) = [result] ∧ result.passed = true
  required : ∀ layerId ∈ sealedPlan.plan.requiredLayers, ∃ result,
    evidence.layers.filter (fun layer => decide (layer.layer = layerId)) = [result] ∧ result.passed = true
  noneFailed : ∀ layer ∈ evidence.layers, layer.passed = true
  noneTriggered : evidence.triggeredRejectionConditions = []
  safe : evidence.safetyInvariantsHeld = true
  improved : sealedPlan.plan.minimumImprovementRule.isSome = true → evidence.claimedImprovementMet = true

namespace EvaluationEvidence

variable {evidence : EvaluationEvidence}

theorem found_of_checkCases {caseIds : List String} (h : evidence.checkCases caseIds = .ok ()) :
    ∀ caseId ∈ caseIds, ∃ result, evidence.cases.find? (fun c => decide (c.caseId = caseId)) = some result ∧
      result.passed = true := by
  induction caseIds with
  | nil => exact nofun
  | cons caseId caseIds ih =>
    rw [checkCases] at h
    cases hfind : evidence.cases.find? (fun c => decide (c.caseId = caseId)) with
    | none =>
      rw [hfind] at h
      cases h
    | some result =>
      simp only [hfind] at h
      cases hpassed : result.passed with
      | false => simp [hpassed] at h
      | true =>
        simp only [hpassed, Bool.not_true, Bool.false_eq_true, if_false] at h
        intro k hk
        rcases List.mem_cons.mp hk with rfl | hk
        · exact ⟨result, hfind, hpassed⟩
        · exact ih h k hk

theorem found_of_checkLayers {layerIds : List String} (h : evidence.checkLayers layerIds = .ok ()) :
    ∀ layerId ∈ layerIds, ∃ result, evidence.layers.find? (fun layer => decide (layer.layer = layerId)) = some result ∧
      result.passed = true := by
  induction layerIds with
  | nil => exact nofun
  | cons layerId layerIds ih =>
    rw [checkLayers] at h
    cases hfind : evidence.layers.find? (fun layer => decide (layer.layer = layerId)) with
    | none =>
      rw [hfind] at h
      cases h
    | some result =>
      simp only [hfind] at h
      cases hpassed : result.passed with
      | false => simp [hpassed] at h
      | true =>
        simp only [hpassed, Bool.not_true, Bool.false_eq_true, if_false] at h
        intro k hk
        rcases List.mem_cons.mp hk with rfl | hk
        · exact ⟨result, hfind, hpassed⟩
        · exact ih h k hk

/-- Evidence is accepted only when it passes every gate. -/
theorem passes_of_accept {sealedPlan : SealedEvaluationPlan sha256} (h : evidence.decideOn sealedPlan = .ok .accept) :
    evidence.Passes sealedPlan := by
  unfold decideOn at h
  simp only at h
  split at h
  · cases h
  rename_i hidentity
  split at h
  · cases h
  rename_i hduplicates
  obtain ⟨⟨⟩, hcases, h⟩ := Fallible.bind_eq_ok h
  obtain ⟨⟨⟩, hlayers, h⟩ := Fallible.bind_eq_ok h
  split at h
  · cases h
  rename_i hfailed
  split at h
  · cases h
  split at h
  · cases h
  rename_i htriggered
  split at h
  · cases h
  rename_i hsafe
  split at h
  · cases h
  rename_i himproved
  simp only [not_or, ne_eq, not_not] at hidentity
  simp only [Bool.or_eq_true, not_or, Bool.not_eq_true, hasDuplicates_eq_false] at hduplicates
  refine ⟨hidentity.1, hidentity.2.1, hidentity.2.2, ?_, ?_, ?_, by simpa using htriggered, by simpa using hsafe, ?_⟩
  · intro caseId hmem
    obtain ⟨result, hfind, hpassed⟩ := found_of_checkCases hcases caseId hmem
    exact ⟨result, filter_eq_singleton hduplicates.1.1 hfind, hpassed⟩
  · intro layerId hmem
    obtain ⟨result, hfind, hpassed⟩ := found_of_checkLayers hlayers layerId hmem
    exact ⟨result, filter_eq_singleton hduplicates.1.2 hfind, hpassed⟩
  · simpa using hfailed
  · intro hrule
    simpa [hrule] using himproved

end EvaluationEvidence

/-! ## Publication -/

namespace PluginLineage

/-- The digest accepted afterwards is the candidate of a sealed plan for the lineage, over the digest accepted before, with evidence
that passes the plan; the seal is that of no other plan. -/
def AdvancedTo (sha256 : List UInt8 → Vector UInt8 32) (lineage before after : PluginLineage) : Prop :=
  ∃ (sealedPlan : SealedEvaluationPlan sha256) (evidence : EvaluationEvidence),
    sealedPlan.plan.projectId = lineage.projectId ∧ sealedPlan.plan.lineageId = lineage.lineageId ∧
      sealedPlan.plan.pluginId = lineage.pluginId ∧ before.acceptedDigest = some sealedPlan.plan.baselineDigest ∧
      evidence.Passes sealedPlan ∧
      (∀ other : SealedEvaluationPlan sha256, evidence.planSealDigest = other.sealDigest →
        other.plan = sealedPlan.plan ∨ Collide sha256 other.plan.sealStream sealedPlan.plan.sealStream) ∧
      after = { before with
        acceptedDigest := some sealedPlan.plan.candidateDigest, rollbackDigest := some sealedPlan.plan.baselineDigest }

/-- In every step of the run a refused call changes nothing and a published one advances the lineage, and every digest that is
accepted after some of the calls was accepted at the start or is the one that a step advanced to. -/
def OnlyEvaluated (lineage : PluginLineage) (calls : List (PublishCall sha256)) : Prop :=
  (∀ done call rest, calls = done ++ call :: rest →
    (call.published (Run.after PublishCall.step lineage done) = false →
      Run.after PublishCall.step lineage (done ++ [call]) = Run.after PublishCall.step lineage done) ∧
    (call.published (Run.after PublishCall.step lineage done) = true →
      lineage.AdvancedTo sha256 (Run.after PublishCall.step lineage done) (Run.after PublishCall.step lineage (done ++ [call])))) ∧
  ∀ done rest digest, calls = done ++ rest → (Run.after PublishCall.step lineage done).acceptedDigest = some digest →
    lineage.acceptedDigest = some digest ∨ ∃ earlier call later, done = earlier ++ call :: later ∧
      (Run.after PublishCall.step lineage (earlier ++ [call])).acceptedDigest = some digest ∧
      lineage.AdvancedTo sha256 (Run.after PublishCall.step lineage earlier) (Run.after PublishCall.step lineage (earlier ++ [call]))

variable {lineage l : PluginLineage}

/-- A lineage is still the one it was. -/
def SameLineage (lineage l : PluginLineage) : Prop :=
  l.projectId = lineage.projectId ∧ l.lineageId = lineage.lineageId ∧ l.pluginId = lineage.pluginId

theorem step_of_refused {call : PublishCall sha256} (h : call.published l = false) : call.step l = l := by
  unfold published tryPublish at h
  unfold step tryPublish
  split at h
  · rename_i hrefused
    rw [if_pos hrefused]
  · cases h

theorem advancedTo_of_published {call : PublishCall sha256} (hsame : lineage.SameLineage l) (h : call.published l = true) :
    lineage.AdvancedTo sha256 l (call.step l) := by
  unfold published tryPublish at h
  unfold step tryPublish
  split at h
  · cases h
  rename_i hchecked
  rw [if_neg hchecked]
  simp only [not_or, ne_eq, not_not] at hchecked
  obtain ⟨haccepted, hparent, -, hproject, hlineage, hplugin, -⟩ := hchecked
  obtain ⟨evidence, sealedPlan, hdecision, hbaseline, -, hcandidate, -, -, hproject', hlineage', hplugin'⟩ := call.promotion.authorized
  have hpasses := EvaluationEvidence.passes_of_accept hdecision
  have hold : call.expectedOld = sealedPlan.plan.baselineDigest := hparent.symm.trans hbaseline
  refine ⟨sealedPlan, evidence, ?_, ?_, ?_, by rw [haccepted, hold], hpasses, ?_, ?_⟩
  · rw [← hproject', hproject, hsame.1]
  · rw [← hlineage', hlineage, hsame.2.1]
  · rw [← hplugin', hplugin, hsame.2.2]
  · intro other hother
    exact plan_of_sealDigest (hother.symm.trans hpasses.bound)
  · rw [haccepted, hold, hcandidate]

theorem sameLineage_step (call : PublishCall sha256) (hsame : lineage.SameLineage l) : lineage.SameLineage (call.step l) := by
  cases hpublished : call.published l with
  | false => rwa [step_of_refused hpublished]
  | true =>
    obtain ⟨sealedPlan, evidence, -, -, -, -, -, -, hafter⟩ := advancedTo_of_published hsame hpublished
    rw [hafter]
    exact hsame

theorem sameLineage_after (lineage : PluginLineage) (calls : List (PublishCall sha256)) :
    lineage.SameLineage (Run.after step lineage calls) :=
  Run.invariant (I := lineage.SameLineage) (fun _ call hsame => sameLineage_step call hsame) calls ⟨rfl, rfl, rfl⟩

/-- Every digest that a lineage comes to accept was the candidate of a plan sealed for it over the digest that was accepted until
then, and its evidence passed; a refused publication changes nothing. -/
theorem only_evaluated_published (lineage : PluginLineage) (calls : List (PublishCall sha256)) : lineage.OnlyEvaluated calls := by
  have hstep : ∀ (done : List (PublishCall sha256)) (call : PublishCall sha256),
      Run.after PublishCall.step lineage (done ++ [call]) = call.step (Run.after PublishCall.step lineage done) := by
    intro done call
    rw [Run.after_append]
    rfl
  refine ⟨?_, ?_⟩
  · rintro done call rest -
    rw [hstep]
    exact ⟨step_of_refused, advancedTo_of_published (sameLineage_after lineage done)⟩
  · rintro done rest digest - haccepted
    clear rest
    induction done using List.reverseRecOn with
    | nil => exact .inl haccepted
    | append_singleton done call ih =>
      cases hpublished : call.published (Run.after PublishCall.step lineage done) with
      | true =>
        refine .inr ⟨done, call, [], rfl, haccepted, ?_⟩
        rw [hstep]
        exact advancedTo_of_published (sameLineage_after lineage done) hpublished
      | false =>
        rw [hstep, step_of_refused hpublished] at haccepted
        rcases ih haccepted with hstart | ⟨earlier, call', later, rfl, hdigest, hadvanced⟩
        · exact .inl hstart
        · exact .inr ⟨earlier, call', later ++ [call], by simp, hdigest, hadvanced⟩

end PluginLineage

/-! ## A published candidate -/

namespace SampleLineage

def plan : EvaluationPlan where
  planId := "plan"
  projectId := ⟨"p", by decide +kernel⟩
  lineageId := "lineage"
  pluginId := ⟨"a", by decide +kernel⟩
  baselineDigest := "old"
  candidateDigest := "new"
  protectedFixtureSetDigest := "fixtures"
  mandatoryCases := ["case"]
  requiredLayers := ["layer"]
  minimumImprovementRule := none
  rejectionConditions := ["crash"]

def zeros (_ : List UInt8) : Vector UInt8 32 := Vector.replicate 32 0

def sealedPlan : SealedEvaluationPlan zeros := ⟨plan, hexEncode (List.replicate 32 0), by decide +kernel, rfl⟩

def evidence : EvaluationEvidence where
  evidenceId := "evidence"
  planId := "plan"
  planSealDigest := sealedPlan.sealDigest
  candidateDigest := "new"
  layers := [⟨"layer", true, []⟩]
  cases := [⟨"case", true, ""⟩]
  triggeredRejectionConditions := []
  safetyInvariantsHeld := true
  claimedImprovementMet := false

def promotion : ManualPromotion zeros where
  candidateDigest := "new"
  parentDigest := "old"
  rollbackDigest := "old"
  evidenceId := "evidence"
  planSealDigest := sealedPlan.sealDigest
  projectId := plan.projectId
  lineageId := "lineage"
  pluginId := plan.pluginId
  authorized := ⟨evidence, sealedPlan, by decide +kernel, rfl, rfl, rfl, rfl, rfl, rfl, rfl, rfl⟩

example : PluginLineage.tryPublish ⟨"lineage", plan.projectId, plan.pluginId, some "old", none, .distilled, [], []⟩ "old" promotion =
    (true, ⟨"lineage", plan.projectId, plan.pluginId, some "new", some "old", .distilled, [], []⟩) := by
  decide +kernel

end SampleLineage

end Rho
