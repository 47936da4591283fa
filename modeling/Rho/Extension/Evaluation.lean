import Rho.Extension.Package

/-!
# Evaluation of candidates

`evaluation.rs` and the lineage of `evolution.rs`: an evaluation plan is sealed before a result is known, evidence is decided against
the sealed plan, an accepted decision authorizes a promotion, and a lineage publishes a promoted candidate by compare and swap. A
sealed plan and a promotion have private fields in the source and are only made by `seal` and `authorize`; here they carry what those
have checked.
-/

namespace Rho

inductive EvaluationError where
  | tamperedFixture | mandatoryRegressionFailed | safetyInvariantViolated | unsealedPlan | planMismatch | layerFailed
  | rejectionConditionTriggered | duplicateEvidence | promotionNotAccepted
  deriving DecidableEq, Repr

/-- The loop of `has_duplicates` and `has_duplicates_by`, over the keys. -/
def hasDuplicatesFrom (seen : List String) : List String → Bool
  | [] => false
  | value :: values => decide (value ∈ seen) || hasDuplicatesFrom (value :: seen) values

def hasDuplicates (values : List String) : Bool := hasDuplicatesFrom [] values

/-! ## Plans -/

structure EvaluationPlan where
  planId : String
  projectId : ScopeId
  lineageId : String
  pluginId : PluginId
  baselineDigest : PackageDigest
  candidateDigest : PackageDigest
  protectedFixtureSetDigest : PackageDigest
  mandatoryCases : List String
  requiredLayers : List String
  minimumImprovementRule : Option String
  rejectionConditions : List String
  deriving DecidableEq

namespace EvaluationPlan

variable (plan : EvaluationPlan)

/-- What `seal` refuses. -/
def unsealable : Bool :=
  plan.planId.isEmpty || decide (plan.baselineDigest = plan.candidateDigest) || plan.mandatoryCases.isEmpty ||
    plan.requiredLayers.isEmpty || plan.rejectionConditions.isEmpty || hasDuplicates plan.mandatoryCases ||
    hasDuplicates plan.requiredLayers || hasDuplicates plan.rejectionConditions

/-- What the plan is serialized as. -/
def toJson : Json :=
  .obj [("plan_id", .str plan.planId), ("project_id", .str plan.projectId.value), ("lineage_id", .str plan.lineageId),
    ("plugin_id", .str plan.pluginId.value), ("baseline_digest", .str plan.baselineDigest),
    ("candidate_digest", .str plan.candidateDigest), ("protected_fixture_set_digest", .str plan.protectedFixtureSetDigest),
    ("mandatory_cases", .arr (plan.mandatoryCases.map .str)), ("required_layers", .arr (plan.requiredLayers.map .str)),
    ("minimum_improvement_rule", plan.minimumImprovementRule.elim .null .str),
    ("rejection_conditions", .arr (plan.rejectionConditions.map .str))]

/-- The stream that the seal digest is taken of. -/
def sealStream : List UInt8 := inventoryStream [(bytesOf "rho-evaluation-plan-v1", bytesOf plan.toJson.toText)]

end EvaluationPlan

section Sealed

variable (sha256 : List UInt8 → Vector UInt8 32)

structure SealedEvaluationPlan where
  plan : EvaluationPlan
  sealDigest : PackageDigest
  sealable : plan.unsealable = false
  sealed : sealDigest = hexEncode (sha256 plan.sealStream).toList

/-- `EvaluationPlan::seal`. -/
def EvaluationPlan.sealPlan (plan : EvaluationPlan) : Except EvaluationError (SealedEvaluationPlan sha256) :=
  if h : plan.unsealable = false then .ok ⟨plan, hexEncode (sha256 plan.sealStream).toList, h, rfl⟩ else .error .unsealedPlan

end Sealed

variable {sha256 : List UInt8 → Vector UInt8 32}

/-! ## Evidence -/

structure LayerResult where
  layer : String
  passed : Bool
  notes : List String
  deriving DecidableEq

structure CaseResult where
  caseId : String
  passed : Bool
  observation : String
  deriving DecidableEq

structure EvaluationEvidence where
  evidenceId : String
  planId : String
  planSealDigest : PackageDigest
  candidateDigest : PackageDigest
  layers : List LayerResult
  cases : List CaseResult
  triggeredRejectionConditions : List String
  safetyInvariantsHeld : Bool
  claimedImprovementMet : Bool
  deriving DecidableEq

inductive EvaluationDecision where
  | accept | reject | inconclusive
  deriving DecidableEq, Repr

namespace EvaluationEvidence

variable (evidence : EvaluationEvidence)

/-- The loop over the mandatory cases. -/
def checkCases : List String → Except EvaluationError Unit
  | [] => .ok ()
  | caseId :: caseIds =>
    match evidence.cases.find? (fun c => decide (c.caseId = caseId)) with
    | none => .error .tamperedFixture
    | some result => if !result.passed then .error .mandatoryRegressionFailed else checkCases caseIds

/-- The loop over the required layers. -/
def checkLayers : List String → Except EvaluationError Unit
  | [] => .ok ()
  | layerId :: layerIds =>
    match evidence.layers.find? (fun layer => decide (layer.layer = layerId)) with
    | none => .error .tamperedFixture
    | some result => if !result.passed then .error .layerFailed else checkLayers layerIds

/-- `EvaluationEvidence::decide`. -/
def decideOn (sealedPlan : SealedEvaluationPlan sha256) : Except EvaluationError EvaluationDecision := do
  let plan := sealedPlan.plan
  if evidence.planId ≠ plan.planId ∨ evidence.planSealDigest ≠ sealedPlan.sealDigest ∨
      evidence.candidateDigest ≠ plan.candidateDigest then .error .planMismatch
  else if hasDuplicates (evidence.cases.map (·.caseId)) || hasDuplicates (evidence.layers.map (·.layer)) ||
      hasDuplicates evidence.triggeredRejectionConditions then .error .duplicateEvidence
  else
    evidence.checkCases plan.mandatoryCases
    evidence.checkLayers plan.requiredLayers
    if evidence.layers.any (fun layer => !layer.passed) then .error .layerFailed
    else if evidence.triggeredRejectionConditions.any (fun condition => decide (condition ∉ plan.rejectionConditions)) then
      .error .tamperedFixture
    else if evidence.triggeredRejectionConditions ≠ [] then .error .rejectionConditionTriggered
    else if !evidence.safetyInvariantsHeld then .error .safetyInvariantViolated
    else if plan.minimumImprovementRule.isSome && !evidence.claimedImprovementMet then .ok .inconclusive
    else .ok .accept

end EvaluationEvidence

/-! ## Promotions -/

structure ManualPromotion (sha256 : List UInt8 → Vector UInt8 32) where
  candidateDigest : PackageDigest
  parentDigest : PackageDigest
  rollbackDigest : PackageDigest
  evidenceId : String
  planSealDigest : PackageDigest
  projectId : ScopeId
  lineageId : String
  pluginId : PluginId
  authorized : ∃ (evidence : EvaluationEvidence) (sealedPlan : SealedEvaluationPlan sha256),
    evidence.decideOn sealedPlan = .ok .accept ∧
      parentDigest = sealedPlan.plan.baselineDigest ∧ rollbackDigest = sealedPlan.plan.baselineDigest ∧
      candidateDigest = sealedPlan.plan.candidateDigest ∧ evidenceId = evidence.evidenceId ∧
      planSealDigest = sealedPlan.sealDigest ∧ projectId = sealedPlan.plan.projectId ∧
      lineageId = sealedPlan.plan.lineageId ∧ pluginId = sealedPlan.plan.pluginId

def ManualPromotion.authorize (evidence : EvaluationEvidence) (sealedPlan : SealedEvaluationPlan sha256)
    (parentDigest rollbackDigest : PackageDigest) : Except EvaluationError (ManualPromotion sha256) :=
  match hdecision : evidence.decideOn sealedPlan with
  | .error e => .error e
  | .ok decision =>
    if h : decision = .accept ∧ parentDigest = sealedPlan.plan.baselineDigest ∧ rollbackDigest = sealedPlan.plan.baselineDigest then
      .ok {
        candidateDigest := sealedPlan.plan.candidateDigest
        parentDigest := parentDigest
        rollbackDigest := rollbackDigest
        evidenceId := evidence.evidenceId
        planSealDigest := sealedPlan.sealDigest
        projectId := sealedPlan.plan.projectId
        lineageId := sealedPlan.plan.lineageId
        pluginId := sealedPlan.plan.pluginId
        authorized := ⟨evidence, sealedPlan, by rw [hdecision, h.1], h.2.1, h.2.2, rfl, rfl, rfl, rfl, rfl, rfl⟩ }
    else .error .promotionNotAccepted

/-! ## The lineage -/

inductive LineageState where
  | observing | distilled | executable | deprecated | archived
  deriving DecidableEq, Repr

inductive VersionState where
  | draft | validating | evaluating | ready | activating | accepted | rejected | failed | rollbackReady
  deriving DecidableEq, Repr

structure LineageVersion where
  packageDigest : PackageDigest
  parentDigest : PackageDigest
  state : VersionState
  deriving DecidableEq

structure PluginLineage where
  lineageId : String
  projectId : ScopeId
  pluginId : PluginId
  acceptedDigest : Option PackageDigest
  rollbackDigest : Option PackageDigest := none
  state : LineageState := .distilled
  versions : List LineageVersion := []
  parentLineageIds : List String := []
  deriving DecidableEq

/-- `try_publish`: whether the promotion is published, and the lineage after it. -/
def PluginLineage.tryPublish (lineage : PluginLineage) (expectedOld : PackageDigest) (promotion : ManualPromotion sha256) :
    Bool × PluginLineage :=
  if lineage.acceptedDigest ≠ some expectedOld ∨ promotion.parentDigest ≠ expectedOld ∨ promotion.rollbackDigest ≠ expectedOld ∨
      promotion.projectId ≠ lineage.projectId ∨ promotion.lineageId ≠ lineage.lineageId ∨ promotion.pluginId ≠ lineage.pluginId ∨
      promotion.candidateDigest = expectedOld then (false, lineage)
  else
    (true, { lineage with rollbackDigest := lineage.acceptedDigest, acceptedDigest := some promotion.candidateDigest })

/-- A call of `try_publish`. -/
structure PublishCall (sha256 : List UInt8 → Vector UInt8 32) where
  expectedOld : PackageDigest
  promotion : ManualPromotion sha256

def PublishCall.published (lineage : PluginLineage) (call : PublishCall sha256) : Bool :=
  (lineage.tryPublish call.expectedOld call.promotion).1

def PublishCall.step (lineage : PluginLineage) (call : PublishCall sha256) : PluginLineage :=
  (lineage.tryPublish call.expectedOld call.promotion).2

end Rho
