import Mathlib.Data.List.Induction
import Rho.Extension.Observation

/-!
# What is distilled from excluded traces

Every record refers to records of its own project. A trace that is excluded or has expired is not used again, with one exception: a
reference is a string that may be the id of a trace and of a pattern at once, and then it is enough that one of the two may be used.
-/

namespace Rho

open ExperienceTraceRef

namespace ObservationModel

/-! ## What a reference stands for -/

/-- The references name the trace, as itself or through a pattern over it. -/
def Names (m : ObservationModel) (project : ScopeId) (references : List String) (traceId : String) : Prop :=
  (traceId ∈ references ∧ (m.traceOf project traceId).isSome = true) ∨
    ∃ q ∈ m.patterns, q.projectId = project ∧ q.patternId ∈ references ∧ traceId ∈ q.traceRefIds

/-- Both a trace and a pattern have this id, and one of them may be used at this time while the other may not. -/
def Shadows (m : ObservationModel) (project : ScopeId) (nowMillis : Nat) (reference : String) : Prop :=
  ∃ trace, m.traceOf project reference = some trace ∧
    ∃ q ∈ m.patterns, q.projectId = project ∧ q.patternId = reference ∧ trace.usable nowMillis ≠ m.patternUsable q nowMillis

/-- Each record refers to records of its own project, and each trace is filed under its own id. -/
structure Owned (m : ObservationModel) : Prop where
  traces : ∀ project traceId trace, m.traceOf project traceId = some trace →
    trace.isValid = true ∧ trace.projectId = project ∧ trace.traceRefId = traceId
  patterns : ∀ q ∈ m.patterns, ∀ traceId ∈ q.traceRefIds, (m.traceOf q.projectId traceId).isSome = true
  uniquePatterns : ∀ q ∈ m.patterns, ∀ q' ∈ m.patterns, q.projectId = q'.projectId → q.patternId = q'.patternId → q = q'
  recipes : ∀ r ∈ m.recipes, ∀ reference ∈ r.provenanceRefs, (m.traceOf r.projectId reference).isSome = true ∨
    ∃ q ∈ m.patterns, q.projectId = r.projectId ∧ q.patternId = reference
  skills : ∀ s ∈ m.skills, ∃ r ∈ m.recipes, r.projectId = s.projectId ∧ r.recipeId = s.recipeId

variable {m m' : ObservationModel}

/-! ## The operations -/

theorem traceOf_setTrace (project project' : ScopeId) (traceId traceId' : String) (trace : ExperienceTraceRef) :
    (m.setTrace project traceId trace).traceOf project' traceId' =
      if project = project' ∧ traceId = traceId' then some trace else m.traceOf project' traceId' := by
  unfold traceOf setTrace
  simp only
  rw [OrdMap.get_insert]
  by_cases hproject : project = project'
  · subst hproject
    simp only [if_pos, Option.bind_some, true_and, OrdMap.get_insert]
    by_cases hid : traceId = traceId'
    · simp [hid]
    · rw [if_neg hid, if_neg hid]
      cases OrdMap.get m.traces project with
      | none => rfl
      | some traces => rfl
  · rw [if_neg hproject, if_neg (fun h => hproject h.1)]

variable {nowMillis : Nat} {project : ScopeId} {traceId : String}

theorem addTrace_ok {trace : ExperienceTraceRef} (h : m.addTrace trace nowMillis = .ok m') :
    trace.usable nowMillis = true ∧ m.traceOf trace.projectId trace.traceRefId = none ∧
      m' = m.setTrace trace.projectId trace.traceRefId trace := by
  unfold addTrace at h
  split at h
  · cases h
  split at h
  · cases h
  rename_i hvalid
  split at h
  · cases h
  rename_i heligible
  split at h
  · cases h
  · rename_i hnew
    cases h
    refine ⟨?_, by simpa using hnew, rfl⟩
    rw [usable, Bool.and_eq_true]
    exact ⟨by simpa using hvalid, by simpa using heligible⟩

theorem checkTraces_ok {traceIds : List String}
    (h : m.checkTraces project nowMillis traceIds = .ok ()) : ∀ traceId ∈ traceIds, m.traceUsable project traceId nowMillis = true := by
  induction traceIds with
  | nil => exact fun _ hmem => absurd hmem List.not_mem_nil
  | cons traceId traceIds ih =>
    unfold checkTraces at h
    split at h
    · rename_i trace htrace
      split at h
      · rename_i husable
        intro traceId' hmem
        rcases List.mem_cons.mp hmem with rfl | hmem
        · rw [traceUsable, htrace]
          exact husable
        · exact ih h traceId' hmem
      · cases h
    · cases h

theorem addPattern_ok {pattern : PatternObservation} (h : m.addPattern pattern nowMillis = .ok m') :
    (∀ traceId ∈ pattern.traceRefIds, m.traceUsable pattern.projectId traceId nowMillis = true) ∧
      (∀ q ∈ m.patterns, ¬ (q.projectId = pattern.projectId ∧ q.patternId = pattern.patternId)) ∧
      m' = { m with patterns := m.patterns ++ [pattern] } := by
  unfold addPattern at h
  split at h
  · cases h
  split at h
  · cases h
  split at h
  · cases h
  split at h
  · cases h
  rename_i hchecked
  split at h
  · cases h
  · rename_i hnew
    cases h
    exact ⟨checkTraces_ok hchecked, by simpa using hnew, rfl⟩

theorem traceUsable_iff :
    m.traceUsable project traceId nowMillis = true ↔ ∃ trace, m.traceOf project traceId = some trace ∧ trace.usable nowMillis = true := by
  unfold traceUsable
  cases m.traceOf project traceId <;> simp

theorem isSome_of_traceUsable
    (h : m.traceUsable project traceId nowMillis = true) : (m.traceOf project traceId).isSome = true := by
  obtain ⟨trace, htrace, -⟩ := traceUsable_iff.mp h
  rw [htrace]
  rfl

/-- What is asked of a recipe. -/
def RecipeChecked (m : ObservationModel) (recipe : Recipe) (nowMillis : Nat) : Prop :=
  recipe.projectId ∈ m.enabled ∧ recipe.isValid = true ∧
    m.provenanceIsEligible recipe.projectId recipe.provenanceRefs nowMillis = true ∧
    ∀ r ∈ m.recipes, ¬ (r.projectId = recipe.projectId ∧ r.recipeId = recipe.recipeId)

theorem addRecipe_ok_iff {recipe : Recipe} :
    m.addRecipe recipe nowMillis = .ok m' ↔ m.RecipeChecked recipe nowMillis ∧ m' = { m with recipes := m.recipes ++ [recipe] } := by
  unfold addRecipe RecipeChecked
  split
  · rename_i henabled
    exact iff_of_false nofun (fun h => henabled h.1.1)
  rename_i henabled
  split
  · rename_i hvalid
    refine iff_of_false nofun (fun h => ?_)
    rw [h.1.2.1] at hvalid
    cases hvalid
  rename_i hvalid
  split
  · rename_i heligible
    refine iff_of_false nofun (fun h => ?_)
    rw [h.1.2.2.1] at heligible
    cases heligible
  rename_i heligible
  split
  · rename_i hknown
    refine iff_of_false nofun (fun h => ?_)
    obtain ⟨r, hr, hsame⟩ := List.any_eq_true.mp hknown
    exact h.1.2.2.2 r hr (of_decide_eq_true hsame)
  · rename_i hnew
    have hchecked : recipe.projectId ∈ m.enabled ∧ recipe.isValid = true ∧
        m.provenanceIsEligible recipe.projectId recipe.provenanceRefs nowMillis = true ∧
        ∀ r ∈ m.recipes, ¬ (r.projectId = recipe.projectId ∧ r.recipeId = recipe.recipeId) :=
      ⟨by simpa using henabled, by simpa using hvalid, by simpa using heligible, by simpa using hnew⟩
    rw [Except.ok.injEq, and_iff_right hchecked, eq_comm]

/-- What is asked of a skill. -/
def SkillChecked (m : ObservationModel) (skill : SkillSuggestion) (nowMillis : Nat) : Prop :=
  skill.projectId ∈ m.enabled ∧
    (∃ recipe, m.recipeOf skill = some recipe ∧ m.provenanceIsEligible recipe.projectId recipe.provenanceRefs nowMillis = true) ∧
    skill.instructions.isEmpty = false ∧ skill.instructions.utf8ByteSize ≤ maxSkillInstructionBytes ∧
    ∀ s ∈ m.skills, ¬ (s.projectId = skill.projectId ∧ s.skillId = skill.skillId)

theorem addSkill_ok_iff {skill : SkillSuggestion} :
    m.addSkill skill nowMillis = .ok m' ↔ m.SkillChecked skill nowMillis ∧ m' = { m with skills := m.skills ++ [skill] } := by
  unfold addSkill SkillChecked
  split
  · rename_i henabled
    exact iff_of_false nofun (fun h => henabled h.1.1)
  rename_i henabled
  split
  · rename_i hrecipe
    refine iff_of_false nofun (fun h => ?_)
    obtain ⟨recipe, hsome, -⟩ := h.1.2.1
    rw [hrecipe] at hsome
    cases hsome
  rename_i recipe hrecipe
  split
  · rename_i heligible
    refine iff_of_false nofun (fun h => ?_)
    obtain ⟨recipe', hsome, hok⟩ := h.1.2.1
    obtain rfl : recipe = recipe' := Option.some.inj (hrecipe.symm.trans hsome)
    rw [hok] at heligible
    cases heligible
  rename_i heligible
  split
  · rename_i hinstructions
    refine iff_of_false nofun (fun h => ?_)
    rcases hinstructions with hempty | hlong
    · rw [h.1.2.2.1] at hempty
      cases hempty
    · exact Nat.not_lt.mpr h.1.2.2.2.1 hlong
  rename_i hinstructions
  split
  · rename_i hknown
    refine iff_of_false nofun (fun h => ?_)
    obtain ⟨s, hs, hsame⟩ := List.any_eq_true.mp hknown
    exact h.1.2.2.2.2 s hs (of_decide_eq_true hsame)
  · rename_i hnew
    obtain ⟨hnonempty, hshort⟩ := not_or.mp hinstructions
    have hchecked : skill.projectId ∈ m.enabled ∧
        (∃ recipe, m.recipeOf skill = some recipe ∧ m.provenanceIsEligible recipe.projectId recipe.provenanceRefs nowMillis = true) ∧
        skill.instructions.isEmpty = false ∧ skill.instructions.utf8ByteSize ≤ maxSkillInstructionBytes ∧
        ∀ s ∈ m.skills, ¬ (s.projectId = skill.projectId ∧ s.skillId = skill.skillId) :=
      ⟨by simpa using henabled, ⟨recipe, hrecipe, by simpa using heligible⟩, by simpa using hnonempty, Nat.not_lt.mp hshort,
        by simpa using hnew⟩
    rw [Except.ok.injEq, and_iff_right hchecked, eq_comm]

theorem excludeTrace_ok (h : m.excludeTrace project traceId = .ok m') :
    ∃ trace, m.traceOf project traceId = some trace ∧ m' = m.setTrace project traceId { trace with excluded := true } := by
  unfold excludeTrace at h
  split at h
  · cases h
  · rename_i trace htrace
    cases h
    exact ⟨trace, htrace, rfl⟩

/-! ## What a step does to the traces -/

/-- The trace is excluded. -/
def Excluded (m : ObservationModel) (project : ScopeId) (traceId : String) : Prop :=
  ∃ trace, m.traceOf project traceId = some trace ∧ trace.excluded = true

end ObservationModel

open ObservationModel

namespace ObservationOp

variable {m m' : ObservationModel}

variable {op : ObservationOp} {project : ScopeId} {traceId : String} {before : List ObservationOp} {nowMillis : Nat}

theorem step_of_ok (h : op.apply m = .ok m') : step m op = m' := by
  rw [step, h]

theorem step_of_error {e : ObservationError} (h : op.apply m = .error e) : step m op = m := by
  rw [step, h]

/-- A trace that is known stays as it is, unless it is excluded; one that was not known is fit to be used. -/
theorem traceOf_step (m : ObservationModel) (op : ObservationOp) (project : ScopeId) (traceId : String) :
    (∀ trace, m.traceOf project traceId = some trace →
      (step m op).traceOf project traceId = some trace ∧ (∀ p t, op = .excludeTrace p t → p = project → t = traceId → False) ∨
        op = .excludeTrace project traceId ∧ (step m op).traceOf project traceId = some { trace with excluded := true }) ∧
    (m.traceOf project traceId = none → ∀ trace, (step m op).traceOf project traceId = some trace →
      (∃ nowMillis, trace.usable nowMillis = true) ∧ trace.projectId = project ∧ trace.traceRefId = traceId) := by
  cases happly : op.apply m with
  | error e =>
    rw [step_of_error happly]
    refine ⟨fun trace htrace => Or.inl ⟨htrace, ?_⟩, fun hnone trace htrace => ?_⟩
    · rintro p t rfl rfl rfl
      simp [apply, ObservationModel.excludeTrace, htrace] at happly
    · rw [hnone] at htrace
      cases htrace
  | ok m' =>
    rw [step_of_ok happly]
    have hsame : ∀ {op : ObservationOp}, m'.traces = m.traces → (∀ p t, op ≠ .excludeTrace p t) →
        (∀ trace, m.traceOf project traceId = some trace →
          m'.traceOf project traceId = some trace ∧ (∀ p t, op = .excludeTrace p t → p = project → t = traceId → False) ∨
            op = .excludeTrace project traceId ∧ m'.traceOf project traceId = some { trace with excluded := true }) ∧
        (m.traceOf project traceId = none → ∀ trace, m'.traceOf project traceId = some trace →
          (∃ nowMillis, trace.usable nowMillis = true) ∧ trace.projectId = project ∧ trace.traceRefId = traceId) := by
      intro op htraces hop
      have heq : m'.traceOf project traceId = m.traceOf project traceId := by rw [traceOf, traceOf, htraces]
      rw [heq]
      refine ⟨fun trace htrace => Or.inl ⟨htrace, fun p t h _ _ => hop p t h⟩, fun hnone trace htrace => ?_⟩
      rw [hnone] at htrace
      cases htrace
    cases op with
    | enable p =>
      cases happly
      exact hsame rfl nofun
    | addTrace trace nowMillis =>
      obtain ⟨husable, hnew, rfl⟩ := addTrace_ok happly
      rw [traceOf_setTrace]
      refine ⟨fun trace' htrace' => Or.inl ⟨?_, nofun⟩, fun hnone trace' htrace' => ?_⟩
      · rw [if_neg ?_]
        · exact htrace'
        · rintro ⟨rfl, rfl⟩
          rw [hnew] at htrace'
          cases htrace'
      · split at htrace'
        · rename_i hkey
          cases htrace'
          exact ⟨⟨nowMillis, husable⟩, hkey⟩
        · rw [hnone] at htrace'
          cases htrace'
    | addPattern pattern nowMillis =>
      obtain ⟨-, -, rfl⟩ := addPattern_ok happly
      exact hsame rfl nofun
    | addRecipe recipe nowMillis =>
      obtain ⟨-, rfl⟩ := addRecipe_ok_iff.mp happly
      exact hsame rfl nofun
    | addSkill skill nowMillis =>
      obtain ⟨-, rfl⟩ := addSkill_ok_iff.mp happly
      exact hsame rfl nofun
    | excludeTrace p t =>
      obtain ⟨old, hold, rfl⟩ := excludeTrace_ok happly
      rw [traceOf_setTrace]
      by_cases hkey : p = project ∧ t = traceId
      · obtain ⟨rfl, rfl⟩ := hkey
        rw [if_pos ⟨rfl, rfl⟩]
        refine ⟨fun trace htrace => Or.inr ⟨rfl, ?_⟩, fun hnone => ?_⟩
        · rw [Option.some.inj (hold.symm.trans htrace)]
        · rw [hold] at hnone
          cases hnone
      · rw [if_neg hkey]
        refine ⟨fun trace htrace => Or.inl ⟨htrace, ?_⟩, fun hnone trace htrace => ?_⟩
        · rintro p' t' heq rfl rfl
          cases heq
          exact hkey ⟨rfl, rfl⟩
        · rw [hnone] at htrace
          cases htrace

theorem isSome_traceOf_step (h : (m.traceOf project traceId).isSome = true)
    (op : ObservationOp) : ((step m op).traceOf project traceId).isSome = true := by
  obtain ⟨trace, htrace⟩ := Option.isSome_iff_exists.mp h
  rcases (traceOf_step m op project traceId).1 trace htrace with ⟨h, -⟩ | ⟨-, h⟩ <;> rw [h] <;> rfl

theorem succeeds_excludeTrace_iff : Succeeds m (.excludeTrace project traceId) ↔ (m.traceOf project traceId).isSome = true := by
  constructor
  · rintro ⟨m', h⟩
    obtain ⟨trace, htrace, -⟩ := excludeTrace_ok h
    rw [htrace]
    rfl
  · intro h
    obtain ⟨trace, htrace⟩ := Option.isSome_iff_exists.mp h
    exact ⟨m.setTrace project traceId { trace with excluded := true }, by simp only [apply, ObservationModel.excludeTrace, htrace]⟩

theorem excluded_step_iff : (step m op).Excluded project traceId ↔
      m.Excluded project traceId ∨ op = .excludeTrace project traceId ∧ Succeeds m op := by
  obtain ⟨hknown, hnew⟩ := traceOf_step m op project traceId
  constructor
  · rintro ⟨trace', htrace', hexcluded⟩
    cases htrace : m.traceOf project traceId with
    | none =>
      obtain ⟨⟨nowMillis, husable⟩, -⟩ := hnew htrace trace' htrace'
      simp [usable, isEligible, hexcluded] at husable
    | some trace =>
      rcases hknown trace htrace with ⟨hsame, -⟩ | ⟨rfl, -⟩
      · obtain rfl := Option.some.inj (hsame.symm.trans htrace')
        exact Or.inl ⟨trace, htrace, hexcluded⟩
      · exact Or.inr ⟨rfl, succeeds_excludeTrace_iff.mpr (by rw [htrace]; rfl)⟩
  · rintro (⟨trace, htrace, hexcluded⟩ | ⟨rfl, hsucceeds⟩)
    · rcases hknown trace htrace with ⟨hsame, -⟩ | ⟨-, hset⟩
      · exact ⟨trace, hsame, hexcluded⟩
      · exact ⟨_, hset, rfl⟩
    · obtain ⟨trace, htrace⟩ := Option.isSome_iff_exists.mp (succeeds_excludeTrace_iff.mp hsucceeds)
      rcases hknown trace htrace with ⟨-, hnot⟩ | ⟨-, hset⟩
      · exact (hnot _ _ rfl rfl rfl).elim
      · exact ⟨_, hset, rfl⟩

/-! ## Records of one project -/

theorem owned_step (h : m.Owned) (op : ObservationOp) : (step m op).Owned := by
  have htraces : ∀ project traceId trace, (step m op).traceOf project traceId = some trace →
      trace.isValid = true ∧ trace.projectId = project ∧ trace.traceRefId = traceId := by
    intro project traceId trace htrace
    obtain ⟨hknown, hnew⟩ := traceOf_step m op project traceId
    cases hold : m.traceOf project traceId with
    | none =>
      obtain ⟨⟨nowMillis, husable⟩, hkey⟩ := hnew hold trace htrace
      exact ⟨(Bool.and_eq_true_iff.mp husable).1, hkey⟩
    | some old =>
      have hfiled := h.traces project traceId old hold
      rcases hknown old hold with ⟨hsame, -⟩ | ⟨-, hset⟩
      · obtain rfl := Option.some.inj (hsame.symm.trans htrace)
        exact hfiled
      · obtain rfl := Option.some.inj (hset.symm.trans htrace)
        exact hfiled
  have hsome : ∀ {project traceId}, (m.traceOf project traceId).isSome = true → ((step m op).traceOf project traceId).isSome = true :=
    fun hold => isSome_traceOf_step hold op
  -- the records of before keep their references, whatever is added
  have hpatterns : ∀ q ∈ m.patterns, ∀ traceId ∈ q.traceRefIds, ((step m op).traceOf q.projectId traceId).isSome = true :=
    fun q hq traceId hmem => hsome (h.patterns q hq traceId hmem)
  cases happly : op.apply m with
  | error e =>
    rw [step_of_error happly]
    exact h
  | ok m' =>
    rw [step_of_ok happly] at htraces hsome hpatterns ⊢
    have hkept : m'.patterns = m.patterns → m'.recipes = m.recipes → m'.skills = m.skills → m'.Owned := by
      intro hp hr hs
      refine ⟨htraces, hp ▸ hpatterns, hp ▸ h.uniquePatterns, ?_, ?_⟩
      · intro r hmem reference href
        rw [hr] at hmem
        rw [hp]
        exact (h.recipes r hmem reference href).imp_left hsome
      · rw [hr, hs]
        exact h.skills
    cases op with
    | enable p =>
      cases happly
      exact hkept rfl rfl rfl
    | addTrace trace nowMillis =>
      obtain ⟨-, -, rfl⟩ := addTrace_ok happly
      exact hkept rfl rfl rfl
    | addPattern pattern nowMillis =>
      obtain ⟨husable, hnew, rfl⟩ := addPattern_ok happly
      refine ⟨htraces, ?_, ?_, ?_, h.skills⟩
      · intro q hq traceId hmem
        rcases List.mem_append.mp hq with hq | hq
        · exact hpatterns q hq traceId hmem
        · obtain rfl := List.mem_singleton.mp hq
          exact hsome (isSome_of_traceUsable (husable traceId hmem))
      · intro q hq q' hq' hproject hid
        rcases List.mem_append.mp hq with hold | hlast <;> rcases List.mem_append.mp hq' with hold' | hlast'
        · exact h.uniquePatterns q hold q' hold' hproject hid
        · obtain rfl := List.mem_singleton.mp hlast'
          exact absurd ⟨hproject, hid⟩ (hnew q hold)
        · obtain rfl := List.mem_singleton.mp hlast
          exact absurd ⟨hproject.symm, hid.symm⟩ (hnew q' hold')
        · rw [List.mem_singleton.mp hlast, List.mem_singleton.mp hlast']
      · intro r hr reference href
        refine (h.recipes r hr reference href).imp hsome ?_
        rintro ⟨q, hq, hkey⟩
        exact ⟨q, List.mem_append_left _ hq, hkey⟩
    | addRecipe recipe nowMillis =>
      obtain ⟨⟨-, -, heligible, -⟩, rfl⟩ := addRecipe_ok_iff.mp happly
      refine ⟨htraces, hpatterns, h.uniquePatterns, ?_, ?_⟩
      · intro r hr reference href
        rcases List.mem_append.mp hr with hr | hr
        · exact (h.recipes r hr reference href).imp_left hsome
        · obtain rfl := List.mem_singleton.mp hr
          rcases Bool.or_eq_true_iff.mp (List.all_eq_true.mp heligible reference href) with htrace | hpattern
          · exact Or.inl (hsome (isSome_of_traceUsable htrace))
          · obtain ⟨q, hq, hkey⟩ := List.any_eq_true.mp hpattern
            exact Or.inr ⟨q, hq, of_decide_eq_true (Bool.and_eq_true_iff.mp hkey).1⟩
      · intro s hs
        obtain ⟨r, hr, hkey⟩ := h.skills s hs
        exact ⟨r, List.mem_append_left _ hr, hkey⟩
    | addSkill skill nowMillis =>
      obtain ⟨⟨-, ⟨recipe, hrecipe, -⟩, -⟩, rfl⟩ := addSkill_ok_iff.mp happly
      refine ⟨htraces, hpatterns, h.uniquePatterns, fun r hr reference href => (h.recipes r hr reference href).imp_left hsome, ?_⟩
      intro s hs
      rcases List.mem_append.mp hs with hs | hs
      · exact h.skills s hs
      · obtain rfl := List.mem_singleton.mp hs
        have hfound := List.find?_some hrecipe
        simp only [decide_eq_true_eq] at hfound
        exact ⟨recipe, List.mem_of_find?_eq_some hrecipe, hfound.2, hfound.1⟩
    | excludeTrace p t =>
      obtain ⟨trace, -, rfl⟩ := excludeTrace_ok happly
      exact hkept rfl rfl rfl

theorem owned_start : Owned {} where
  traces _ _ _ h := nomatch h
  patterns _ h := absurd h List.not_mem_nil
  uniquePatterns _ h := absurd h List.not_mem_nil
  recipes _ h := absurd h List.not_mem_nil
  skills _ h := absurd h List.not_mem_nil

theorem owned_run (ops : List ObservationOp) : (Run.after step {} ops).Owned :=
  Run.invariant (I := Owned) (fun _ op h => owned_step h op) ops owned_start

/-! ## Traces that are out of use -/

/-- The trace is not to be used any more: an exclusion of it has succeeded, or it has expired at this time. -/
def OutOfUse (before : List ObservationOp) (project : ScopeId) (traceId : String) (nowMillis : Nat) : Prop :=
  (∃ earlier later, before = earlier ++ .excludeTrace project traceId :: later ∧
      Succeeds (Run.after step {} earlier) (.excludeTrace project traceId)) ∨
    ∃ trace expiry, (Run.after step {} before).traceOf project traceId = some trace ∧ trace.expiresAtMillis = some expiry ∧
      expiry ≤ nowMillis

theorem excluded_run_iff : (Run.after step {} before).Excluded project traceId ↔
      ∃ earlier later, before = earlier ++ .excludeTrace project traceId :: later ∧
        Succeeds (Run.after step {} earlier) (.excludeTrace project traceId) := by
  induction before using List.reverseRecOn with
  | nil =>
    refine iff_of_false ?_ ?_
    · rintro ⟨trace, h, -⟩
      cases h
    · rintro ⟨earlier, later, h, -⟩
      cases earlier <;> cases h
  | append_singleton before op ih =>
    rw [Run.after_append, Run.after_cons, Run.after_nil, excluded_step_iff, ih]
    constructor
    · rintro (⟨earlier, later, rfl, hsucceeds⟩ | ⟨rfl, hsucceeds⟩)
      · exact ⟨earlier, later ++ [op], by simp, hsucceeds⟩
      · exact ⟨before, [], rfl, hsucceeds⟩
    · rintro ⟨earlier, later, heq, hsucceeds⟩
      rcases List.eq_nil_or_concat later with rfl | ⟨later, last, rfl⟩
      · obtain ⟨rfl, hlast⟩ := List.append_inj' heq rfl
        exact Or.inr ⟨List.head_eq_of_cons_eq hlast, List.head_eq_of_cons_eq hlast ▸ hsucceeds⟩
      · rw [List.concat_eq_append, ← List.cons_append, ← List.append_assoc] at heq
        exact Or.inl ⟨earlier, later, (List.append_inj' heq rfl).1, hsucceeds⟩

/-- Out of use is any known trace that the checks do not let pass. -/
theorem outOfUse_iff : OutOfUse before project traceId nowMillis ↔
      ∃ trace, (Run.after step {} before).traceOf project traceId = some trace ∧ trace.usable nowMillis = false := by
  rw [OutOfUse, ← excluded_run_iff]
  constructor
  · rintro (⟨trace, htrace, hexcluded⟩ | ⟨trace, expiry, htrace, hexpiry, hle⟩)
    · exact ⟨trace, htrace, by simp [usable, isEligible, hexcluded]⟩
    · refine ⟨trace, htrace, ?_⟩
      simp [usable, isEligible, hexpiry, Nat.not_lt.mpr hle]
  · rintro ⟨trace, htrace, husable⟩
    have hvalid := ((owned_run before).traces project traceId trace htrace).1
    rw [usable, hvalid, Bool.true_and, isEligible, Bool.and_eq_false_iff] at husable
    rcases husable with hexcluded | hexpired
    · exact Or.inl ⟨trace, htrace, by simpa using hexcluded⟩
    · cases hexpiry : trace.expiresAtMillis with
      | none =>
        rw [hexpiry] at hexpired
        cases hexpired
      | some expiry =>
        rw [hexpiry] at hexpired
        exact Or.inr ⟨trace, expiry, htrace, hexpiry, by simpa using hexpired⟩

/-! ## References to them -/

/-- The project and the time of an addition, and the traces that its provenance names: directly, through a pattern or through a
recipe. -/
def Uses (m : ObservationModel) (op : ObservationOp) (project : ScopeId) (nowMillis : Nat) (traceId : String) : Prop :=
  match op with
  | .addPattern pattern now => pattern.projectId = project ∧ now = nowMillis ∧ traceId ∈ pattern.traceRefIds
  | .addRecipe recipe now => recipe.projectId = project ∧ now = nowMillis ∧ m.Names project recipe.provenanceRefs traceId
  | .addSkill skill now => skill.projectId = project ∧ now = nowMillis ∧
      ∃ recipe ∈ m.recipes, recipe.projectId = project ∧ recipe.recipeId = skill.recipeId ∧
        m.Names project recipe.provenanceRefs traceId
  | _ => False

/-- A run in which records stay within their projects, and nothing succeeds that uses a trace out of use. -/
def Honored (ops : List ObservationOp) : Prop :=
  ∀ before op later, ops = before ++ op :: later →
    (Run.after step {} (before ++ [op])).Owned ∧
      ∀ project nowMillis traceId, OutOfUse before project traceId nowMillis →
        Uses (Run.after step {} before) op project nowMillis traceId → ¬ Succeeds (Run.after step {} before) op

/-- No reference of a recipe or skill that passes its checks shadows another one. -/
def Unshadowed (m : ObservationModel) : ObservationOp → Prop
  | .addRecipe recipe nowMillis => m.RecipeChecked recipe nowMillis →
      ∀ reference ∈ recipe.provenanceRefs, ¬ m.Shadows recipe.projectId nowMillis reference
  | .addSkill skill nowMillis => m.SkillChecked skill nowMillis → ∀ recipe, m.recipeOf skill = some recipe →
      ∀ reference ∈ recipe.provenanceRefs, ¬ m.Shadows recipe.projectId nowMillis reference
  | _ => True

/-- References that pass the check name no trace that is out of use, unless one of them shadows another. -/
theorem names_unusable_iff (h : m.Owned) {references : List String}
    (heligible : m.provenanceIsEligible project references nowMillis = true) :
    (∃ traceId trace, m.traceOf project traceId = some trace ∧ trace.usable nowMillis = false ∧ m.Names project references traceId) ↔
      ∃ reference ∈ references, m.Shadows project nowMillis reference := by
  have hcheck : ∀ reference ∈ references, m.traceUsable project reference nowMillis = true ∨
      ∃ q ∈ m.patterns, q.projectId = project ∧ q.patternId = reference ∧ m.patternUsable q nowMillis = true := by
    intro reference href
    rcases Bool.or_eq_true_iff.mp (List.all_eq_true.mp heligible reference href) with htrace | hpattern
    · exact Or.inl htrace
    · obtain ⟨q, hq, hkey⟩ := List.any_eq_true.mp hpattern
      obtain ⟨hid, husable⟩ := Bool.and_eq_true_iff.mp hkey
      obtain ⟨hproject, hid⟩ := of_decide_eq_true hid
      exact Or.inr ⟨q, hq, hproject, hid, husable⟩
  have hpattern : ∀ q ∈ m.patterns, q.projectId = project →
      (m.patternUsable q nowMillis = false ↔
        (OrdMap.get m.traces project).isSome = false ∨ ∃ traceId ∈ q.traceRefIds, m.traceUsable project traceId nowMillis = false) := by
    intro q _ hproject
    rw [patternUsable, Bool.and_eq_false_iff, List.all_eq_false, hproject]
    simp only [Bool.not_eq_true]
  constructor
  · rintro ⟨traceId, trace, htrace, hunusable, ⟨href, -⟩ | ⟨q, hq, hproject, href, hmem⟩⟩
    · -- the trace itself is named, so a pattern with its id has let the reference pass
      rcases hcheck traceId href with htrace' | ⟨q, hq, hproject, hid, husable⟩
      · obtain ⟨trace', hsome, husable⟩ := traceUsable_iff.mp htrace'
        obtain rfl := Option.some.inj (htrace.symm.trans hsome)
        rw [husable] at hunusable
        cases hunusable
      · exact ⟨traceId, href, trace, htrace, q, hq, hproject, hid, by rw [hunusable, husable]; exact Bool.false_ne_true⟩
    · -- a pattern over it is named, so a trace with the id of the pattern has let the reference pass
      have hbarred : m.patternUsable q nowMillis = false := by
        refine (hpattern q hq hproject).mpr (Or.inr ⟨traceId, hmem, ?_⟩)
        rw [traceUsable, htrace]
        exact hunusable
      rcases hcheck q.patternId href with htrace' | ⟨q', hq', hproject', hid, husable⟩
      · obtain ⟨trace', hsome, husable⟩ := traceUsable_iff.mp htrace'
        exact ⟨q.patternId, href, trace', hsome, q, hq, hproject, rfl, by rw [husable, hbarred]; exact Bool.true_eq_false_eq_False⟩
      · obtain rfl := h.uniquePatterns q' hq' q hq (hproject'.trans hproject.symm) hid
        rw [husable] at hbarred
        cases hbarred
  · rintro ⟨reference, href, trace, htrace, q, hq, hproject, hid, hne⟩
    cases husable : trace.usable nowMillis with
    | false => exact ⟨reference, trace, htrace, husable, Or.inl ⟨href, by rw [htrace]; rfl⟩⟩
    | true =>
      rw [husable] at hne
      have hbarred : m.patternUsable q nowMillis = false := by simpa using hne.symm
      rcases (hpattern q hq hproject).mp hbarred with hnone | ⟨traceId, hmem, hunusable⟩
      · rw [traceOf] at htrace
        cases hget : OrdMap.get m.traces project with
        | none =>
          rw [hget] at htrace
          cases htrace
        | some traces =>
          rw [hget] at hnone
          cases hnone
      · obtain ⟨trace', htrace'⟩ := Option.isSome_iff_exists.mp (hproject ▸ h.patterns q hq traceId hmem)
        rw [traceUsable, htrace'] at hunusable
        exact ⟨traceId, trace', htrace', hunusable, Or.inr ⟨q, hq, hproject, hid ▸ href, hmem⟩⟩

theorem recipeOf_spec {skill : SkillSuggestion} {recipe : Recipe} (h : m.recipeOf skill = some recipe) :
    recipe ∈ m.recipes ∧ recipe.projectId = skill.projectId ∧ recipe.recipeId = skill.recipeId := by
  have hfound := List.find?_some h
  simp only [decide_eq_true_eq] at hfound
  exact ⟨List.mem_of_find?_eq_some h, hfound.2, hfound.1⟩

/-- No project has two recipes with one id. -/
def UniqueRecipes (m : ObservationModel) : Prop :=
  ∀ r ∈ m.recipes, ∀ r' ∈ m.recipes, r.projectId = r'.projectId → r.recipeId = r'.recipeId → r = r'

/-- One addition: it uses no trace that the checks would not let pass, exactly when none of its references shadows another. -/
theorem uses_unusable_iff (h : m.Owned) (hrecipes : UniqueRecipes m) (op : ObservationOp) :
    (∀ project nowMillis traceId trace, m.traceOf project traceId = some trace → trace.usable nowMillis = false →
        Uses m op project nowMillis traceId → ¬ Succeeds m op) ↔ Unshadowed m op := by
  cases op with
  | enable project => exact iff_of_true (fun _ _ _ _ _ _ huses => huses.elim) trivial
  | addTrace trace now => exact iff_of_true (fun _ _ _ _ _ _ huses => huses.elim) trivial
  | excludeTrace project traceId => exact iff_of_true (fun _ _ _ _ _ _ huses => huses.elim) trivial
  | addPattern pattern now =>
    refine iff_of_true ?_ trivial
    rintro project nowMillis traceId trace htrace hunusable ⟨rfl, rfl, hmem⟩ ⟨m', happly⟩
    obtain ⟨trace', hsome, husable⟩ := traceUsable_iff.mp ((addPattern_ok happly).1 traceId hmem)
    obtain rfl := Option.some.inj (htrace.symm.trans hsome)
    rw [husable] at hunusable
    cases hunusable
  | addRecipe recipe now =>
    constructor
    · intro hnone hchecked reference href hshadows
      obtain ⟨traceId, trace, htrace, hunusable, hnames⟩ :=
        (names_unusable_iff h hchecked.2.2.1).mpr ⟨reference, href, hshadows⟩
      exact hnone _ _ traceId trace htrace hunusable ⟨rfl, rfl, hnames⟩ ⟨_, addRecipe_ok_iff.mpr ⟨hchecked, rfl⟩⟩
    · rintro hunshadowed project nowMillis traceId trace htrace hunusable ⟨rfl, rfl, hnames⟩ ⟨m', happly⟩
      have hchecked := (addRecipe_ok_iff.mp happly).1
      obtain ⟨reference, href, hshadows⟩ := (names_unusable_iff h hchecked.2.2.1).mp ⟨traceId, trace, htrace, hunusable, hnames⟩
      exact hunshadowed hchecked reference href hshadows
  | addSkill skill now =>
    constructor
    · intro hnone hchecked recipe hrecipe reference href hshadows
      obtain ⟨recipe', hrecipe', heligible⟩ := hchecked.2.1
      obtain rfl := Option.some.inj (hrecipe'.symm.trans hrecipe)
      obtain ⟨hmem, hproject, hid⟩ := recipeOf_spec hrecipe
      obtain ⟨traceId, trace, htrace, hunusable, hnames⟩ := (names_unusable_iff h heligible).mpr ⟨reference, href, hshadows⟩
      refine hnone _ _ traceId trace htrace hunusable ⟨hproject.symm, rfl, recipe', hmem, rfl, hid, hnames⟩ ?_
      exact ⟨_, addSkill_ok_iff.mpr ⟨hchecked, rfl⟩⟩
    · rintro hunshadowed project nowMillis traceId trace htrace hunusable ⟨rfl, rfl, recipe, hmem, hproject, hid, hnames⟩ ⟨m', happly⟩
      have hchecked := (addSkill_ok_iff.mp happly).1
      obtain ⟨recipe', hrecipe', heligible⟩ := hchecked.2.1
      obtain ⟨hmem', hproject', hid'⟩ := recipeOf_spec hrecipe'
      obtain rfl := hrecipes recipe' hmem' recipe hmem (hproject'.trans hproject.symm) (hid'.trans hid.symm)
      rw [← hproject] at htrace hnames
      obtain ⟨reference, href, hshadows⟩ := (names_unusable_iff h heligible).mp ⟨traceId, trace, htrace, hunusable, hnames⟩
      exact hunshadowed hchecked recipe' hrecipe' reference href hshadows

theorem uniqueRecipes_run (ops : List ObservationOp) : UniqueRecipes (Run.after step {} ops) := by
  refine Run.invariant (I := UniqueRecipes) ?_ ops (fun _ h => absurd h List.not_mem_nil)
  intro m op h
  cases happly : op.apply m with
  | error e =>
    rw [step_of_error happly]
    exact h
  | ok m' =>
    rw [step_of_ok happly]
    cases op with
    | enable p =>
      cases happly
      exact h
    | addTrace trace now =>
      obtain ⟨-, -, rfl⟩ := addTrace_ok happly
      exact h
    | addPattern pattern now =>
      obtain ⟨-, -, rfl⟩ := addPattern_ok happly
      exact h
    | addSkill skill now =>
      obtain ⟨-, rfl⟩ := addSkill_ok_iff.mp happly
      exact h
    | excludeTrace p t =>
      obtain ⟨trace, -, rfl⟩ := excludeTrace_ok happly
      exact h
    | addRecipe recipe now =>
      obtain ⟨⟨-, -, -, hnew⟩, rfl⟩ := addRecipe_ok_iff.mp happly
      intro r hr r' hr' hproject hid
      rcases List.mem_append.mp hr with hold | hlast <;> rcases List.mem_append.mp hr' with hold' | hlast'
      · exact h r hold r' hold' hproject hid
      · obtain rfl := List.mem_singleton.mp hlast'
        exact absurd ⟨hproject, hid⟩ (hnew r hold)
      · obtain rfl := List.mem_singleton.mp hlast
        exact absurd ⟨hproject.symm, hid.symm⟩ (hnew r' hold')
      · rw [List.mem_singleton.mp hlast, List.mem_singleton.mp hlast']

end ObservationOp

open ObservationOp

/-- For every run of operations from the empty model: records stay within their projects and exclusions are honored exactly when no
recipe and no skill of the run is added with a reference that shadows another one. -/
theorem exclusions_honored_iff (ops : List ObservationOp) : Honored ops ↔ Run.Along step Unshadowed {} ops := by
  rw [Run.along_iff]
  refine forall_congr' fun before => forall_congr' fun op => forall_congr' fun later => forall_congr' fun _ => ?_
  have howned := owned_run before
  rw [and_iff_right (owned_run (before ++ [op])), ← uses_unusable_iff howned (uniqueRecipes_run before) op]
  constructor
  · intro h project nowMillis traceId trace htrace hunusable
    exact h project nowMillis traceId (outOfUse_iff.mpr ⟨trace, htrace, hunusable⟩)
  · intro h project nowMillis traceId hout
    obtain ⟨trace, htrace, hunusable⟩ := outOfUse_iff.mp hout
    exact h project nowMillis traceId trace htrace hunusable

/-- The trace `a` is excluded, and a pattern over another trace has its id. -/
def shadowingOps : List ObservationOp :=
  let project : ScopeId := ⟨"scope.project", by decide +kernel⟩
  [.enable project, .addTrace { traceRefId := "a", projectId := project } 0, .addTrace { traceRefId := "b", projectId := project } 0,
   .addPattern { patternId := "a", projectId := project, traceRefIds := ["b"], explanation := "repeat" } 0, .excludeTrace project "a",
   .addRecipe
     { recipeId := "r", projectId := project, purpose := "Enrichment", inputSchema := "csv", preconditions := [],
       orderedSteps := ["read"], outputSchema := "table", provenanceRefs := ["a"] } 0]

/-- A recipe is distilled from an excluded trace. -/
theorem excluded_trace_used : ¬ Honored shadowingOps := by
  intro h
  obtain ⟨-, hused⟩ := h (shadowingOps.take 5) _ [] rfl
  refine hused ⟨"scope.project", by decide +kernel⟩ 0 "a" (Or.inl ⟨shadowingOps.take 4, [], rfl, ?_⟩)
    ⟨rfl, rfl, Or.inl ⟨List.mem_cons_self, by decide +kernel⟩⟩ ?_
  · exact succeeds_excludeTrace_iff.mpr (by decide +kernel)
  · exact ⟨_, addRecipe_ok_iff.mpr ⟨⟨by decide +kernel, by decide +kernel, by decide +kernel, by decide +kernel⟩, rfl⟩⟩

end Rho
