import Rho.Extension.Model
import Rho.Lib.OrdMap
import Rho.Lib.Run

/-!
# Observations of a project

`observation.rs`: traces of past work, patterns over traces, recipes with their provenance, and skills over recipes. A trace can be
excluded and can expire; then nothing more is to be distilled from it. Of a record the fields are kept that the operations read.
-/

namespace Rho

def maxTraceReferences : Nat := 64

def maxPatternFeatures : Nat := 64

def maxRecipeSteps : Nat := 64

def maxObservationTextBytes : Nat := 16 * 1024

def maxSkillInstructionBytes : Nat := 64 * 1024

structure RedactionProfile where
  allowRawPrompts : Bool := false
  allowRawCredentials : Bool := false
  allowFullSource : Bool := false
  deriving DecidableEq

def RedactionProfile.isValid (r : RedactionProfile) : Bool := !r.allowRawPrompts && !r.allowRawCredentials && !r.allowFullSource

structure ExperienceTraceRef where
  traceRefId : String
  projectId : ScopeId
  artifactIds : List String := []
  normalizedPatternFeatures : List String := []
  redactionProfile : RedactionProfile := {}
  excluded : Bool := false
  expiresAtMillis : Option Nat := none
  deriving DecidableEq

namespace ExperienceTraceRef

def isValid (t : ExperienceTraceRef) : Bool :=
  t.redactionProfile.isValid && decide (t.artifactIds.length ≤ maxTraceReferences) &&
    decide (t.normalizedPatternFeatures.length ≤ maxPatternFeatures) &&
    t.normalizedPatternFeatures.all (fun feature => decide (feature.utf8ByteSize ≤ maxObservationTextBytes))

def isEligible (t : ExperienceTraceRef) (nowMillis : Nat) : Bool :=
  !t.excluded && t.expiresAtMillis.all (fun expiry => decide (nowMillis < expiry))

/-- Fit to be distilled from. -/
def usable (t : ExperienceTraceRef) (nowMillis : Nat) : Bool := t.isValid && t.isEligible nowMillis

end ExperienceTraceRef

structure PatternObservation where
  patternId : String
  projectId : ScopeId
  traceRefIds : List String
  explanation : String
  deriving DecidableEq

structure Recipe where
  recipeId : String
  projectId : ScopeId
  purpose : String
  inputSchema : String
  preconditions : List String
  orderedSteps : List String
  outputSchema : String
  provenanceRefs : List String
  deriving DecidableEq

def Recipe.isValid (r : Recipe) : Bool :=
  !r.purpose.isEmpty && !r.inputSchema.isEmpty && !r.orderedSteps.isEmpty && !r.outputSchema.isEmpty && !r.provenanceRefs.isEmpty &&
    decide (r.preconditions.length ≤ maxRecipeSteps) && decide (r.orderedSteps.length ≤ maxRecipeSteps) &&
    [r.purpose, r.inputSchema, r.outputSchema].all (fun value => decide (value.utf8ByteSize ≤ maxObservationTextBytes))

structure SkillSuggestion where
  skillId : String
  projectId : ScopeId
  recipeId : String
  instructions : String
  deriving DecidableEq

inductive ObservationError where
  | disabled | crossProject | ineligible | duplicate
  deriving DecidableEq

structure ObservationModel where
  traces : List (ScopeId × List (String × ExperienceTraceRef)) := []
  patterns : List PatternObservation := []
  recipes : List Recipe := []
  skills : List SkillSuggestion := []
  enabled : List ScopeId := []
  deriving DecidableEq

namespace ObservationModel

variable (m : ObservationModel)

/-- The trace of a project with an id. -/
def traceOf (project : ScopeId) (traceId : String) : Option ExperienceTraceRef :=
  (OrdMap.get m.traces project).bind (fun traces => OrdMap.get traces traceId)

/-- Another project has a trace with this id. -/
def traceElsewhere (project : ScopeId) (traceId : String) : Bool :=
  m.traces.any (fun e => decide (e.1 ≠ project) && (OrdMap.get e.2 traceId).isSome)

def setTrace (project : ScopeId) (traceId : String) (trace : ExperienceTraceRef) : ObservationModel :=
  { m with traces := OrdMap.insert project (OrdMap.insert traceId trace ((OrdMap.get m.traces project).getD [])) m.traces }

def enable (project : ScopeId) : ObservationModel :=
  { m with enabled := if project ∈ m.enabled then m.enabled else project :: m.enabled }

def addTrace (trace : ExperienceTraceRef) (nowMillis : Nat) : Except ObservationError ObservationModel :=
  if trace.projectId ∉ m.enabled then .error .disabled
  else if !trace.isValid then .error .ineligible
  else if !trace.isEligible nowMillis then .error .ineligible
  else if (m.traceOf trace.projectId trace.traceRefId).isSome then .error .duplicate
  else .ok (m.setTrace trace.projectId trace.traceRefId trace)

/-- The loop over the traces of a pattern. -/
def checkTraces (project : ScopeId) (nowMillis : Nat) : List String → Except ObservationError Unit
  | [] => .ok ()
  | traceId :: traceIds =>
    match m.traceOf project traceId with
    | some trace => if trace.usable nowMillis then checkTraces project nowMillis traceIds else .error .ineligible
    | none => .error (if m.traceElsewhere project traceId then .crossProject else .ineligible)

def addPattern (pattern : PatternObservation) (nowMillis : Nat) : Except ObservationError ObservationModel :=
  if pattern.projectId ∉ m.enabled then .error .disabled
  else if pattern.traceRefIds = [] ∨ maxTraceReferences < pattern.traceRefIds.length ∨ pattern.explanation.isEmpty = true ∨
      maxObservationTextBytes < pattern.explanation.utf8ByteSize then .error .ineligible
  else if (OrdMap.get m.traces pattern.projectId).isNone then .error .ineligible
  else
    match m.checkTraces pattern.projectId nowMillis pattern.traceRefIds with
    | .error e => .error e
    | .ok () =>
      if m.patterns.any (fun p => p.projectId = pattern.projectId ∧ p.patternId = pattern.patternId) then .error .duplicate
      else .ok { m with patterns := m.patterns ++ [pattern] }

def traceUsable (project : ScopeId) (traceId : String) (nowMillis : Nat) : Bool :=
  (m.traceOf project traceId).any (·.usable nowMillis)

/-- Every trace of the pattern is fit to be distilled from. -/
def patternUsable (pattern : PatternObservation) (nowMillis : Nat) : Bool :=
  (OrdMap.get m.traces pattern.projectId).isSome &&
    pattern.traceRefIds.all (fun traceId => m.traceUsable pattern.projectId traceId nowMillis)

def provenanceIsEligible (project : ScopeId) (provenanceRefs : List String) (nowMillis : Nat) : Bool :=
  provenanceRefs.all (fun reference =>
    m.traceUsable project reference nowMillis ||
      m.patterns.any (fun p => decide (p.projectId = project ∧ p.patternId = reference) && m.patternUsable p nowMillis))

def addRecipe (recipe : Recipe) (nowMillis : Nat) : Except ObservationError ObservationModel :=
  if recipe.projectId ∉ m.enabled then .error .disabled
  else if !recipe.isValid then .error .ineligible
  else if !m.provenanceIsEligible recipe.projectId recipe.provenanceRefs nowMillis then
    .error (if recipe.provenanceRefs.any (fun reference => m.traceElsewhere recipe.projectId reference ||
        m.patterns.any (fun p => p.projectId ≠ recipe.projectId ∧ p.patternId = reference)) then .crossProject else .ineligible)
  else if m.recipes.any (fun r => r.projectId = recipe.projectId ∧ r.recipeId = recipe.recipeId) then .error .duplicate
  else .ok { m with recipes := m.recipes ++ [recipe] }

/-- The recipe of a skill. -/
def recipeOf (skill : SkillSuggestion) : Option Recipe :=
  m.recipes.find? (fun r => r.recipeId = skill.recipeId ∧ r.projectId = skill.projectId)

def addSkill (skill : SkillSuggestion) (nowMillis : Nat) : Except ObservationError ObservationModel :=
  if skill.projectId ∉ m.enabled then .error .disabled
  else
    match m.recipeOf skill with
    | none => .error .ineligible
    | some recipe =>
      if !m.provenanceIsEligible recipe.projectId recipe.provenanceRefs nowMillis then .error .ineligible
      else if skill.instructions.isEmpty ∨ maxSkillInstructionBytes < skill.instructions.utf8ByteSize then .error .ineligible
      else if m.skills.any (fun s => s.projectId = skill.projectId ∧ s.skillId = skill.skillId) then .error .duplicate
      else .ok { m with skills := m.skills ++ [skill] }

def excludeTrace (project : ScopeId) (traceId : String) : Except ObservationError ObservationModel :=
  match m.traceOf project traceId with
  | none => .error (if m.traceElsewhere project traceId then .crossProject else .ineligible)
  | some trace => .ok (m.setTrace project traceId { trace with excluded := true })

end ObservationModel

inductive ObservationOp where
  | enable (project : ScopeId)
  | addTrace (trace : ExperienceTraceRef) (nowMillis : Nat)
  | addPattern (pattern : PatternObservation) (nowMillis : Nat)
  | addRecipe (recipe : Recipe) (nowMillis : Nat)
  | addSkill (skill : SkillSuggestion) (nowMillis : Nat)
  | excludeTrace (project : ScopeId) (traceId : String)

namespace ObservationOp

def apply (m : ObservationModel) : ObservationOp → Except ObservationError ObservationModel
  | .enable project => .ok (m.enable project)
  | .addTrace trace nowMillis => m.addTrace trace nowMillis
  | .addPattern pattern nowMillis => m.addPattern pattern nowMillis
  | .addRecipe recipe nowMillis => m.addRecipe recipe nowMillis
  | .addSkill skill nowMillis => m.addSkill skill nowMillis
  | .excludeTrace project traceId => m.excludeTrace project traceId

/-- The operation is carried out. -/
def Succeeds (m : ObservationModel) (op : ObservationOp) : Prop := ∃ m', op.apply m = .ok m'

/-- A refused operation leaves the model as it is. -/
def step (m : ObservationModel) (op : ObservationOp) : ObservationModel :=
  match op.apply m with
  | .ok m' => m'
  | .error _ => m

end ObservationOp

end Rho
