import Rho.Desktop.Render
import Rho.Lemmas.Dispatch

/-!
# The end of a render job

A job is seen together with its worker and its run. Every step of the system is, for each job, one of a few moves, and the moves
keep a job that has ended in agreement with its run: as long as no poll finds the run still going, no dispatch fails after its run
was created, and a restart finds the workers of the jobs that it gives up.
-/

namespace Rho

open Effect DispatchAux RenderSystem Table

/-! ## What is claimed -/

/-- The status of the run that goes with a status of the job. -/
def runStatusOf : RenderStatus → Option RunStatus
  | .completed => some .completed
  | .failed => some .failed
  | .interrupted => some .interrupted
  | .submitted | .running | .cancelRequested => none

/-- The job is there with this status or has been dropped, and its run, if there is one, has ended in the same way. -/
def Settled (s : RenderSystem) (jobId : String) (status : RenderStatus) : Prop :=
  (∀ job, s.jobs.get jobId = some job → job.status = status) ∧
    ∀ run, s.store.runs.get jobId = some run → runStatusOf status = some run.status

/-- From the state in which a job has ended on, at every later point of the run: its status stays, and its run has ended in the same
way or has not been started. -/
def StaysSettled (s : RenderSystem) (trace : List RenderStep) : Prop :=
  ∀ before after rest, trace = before ++ after ++ rest → ∀ jobId job,
    (Run.after RenderSystem.step s before).jobs.get jobId = some job → renderJobIsTerminal job.status = true →
      Settled (Run.after RenderSystem.step s (before ++ after)) jobId job.status

/-! ## The condition -/

/-- The worker has handed its code to R and waits for the answer. -/
def WorkerStage.isExecuting : WorkerStage → Bool
  | .executing _ _ => true
  | .listed | .waiting _ | .started _ | .answered _ _ => false

/-- The steps that go right. -/
def RenderSpares (s : RenderSystem) : RenderStep → Prop
  -- A poll that is still to end its job has not read a run that was going on.
  | .pollReconcile jobId run =>
    ∀ job, s.jobs.get jobId = some job → renderJobIsTerminal job.status = false → run.status.isActive = false
  -- Nothing fails between the creation of the run and the hand-over.
  | .workerPrepare _ o => o.fault .markRunning = none ∧ o.fault .resultFile = none
  -- The end of the run is written, and a result that is no failure says that it is a success and reaches the job.
  | .workerAnswer _ o =>
    o.fault .finishRun = none ∧ ∀ result, o.kernel = .finished result → o.fault .saveIdentity = none ∧
      (workspaceResultFailed result = false → executionOk result = true ∧ o.fault .plotArtifacts = none ∧
        o.fault .generatedFiles = none ∧ o.fault .renderArtifact = none)
  -- A job whose dispatch failed is marked for cancellation exactly when its run was when it ended.
  | .workerFinish jobId =>
    ∀ w workspace e job run, s.workers.get jobId = some w → w.stage = .answered workspace (.error e) →
      s.jobs.get jobId = some job → renderJobIsTerminal job.status = false → s.store.runs.get jobId = some run →
      (job.status = .cancelRequested ↔ run.status = .interrupted)
  -- A restart finds the tasks of the jobs that it marked, and recovers the runs when no worker waits for R.
  | .restartNext =>
    ∀ restart, s.restart = some restart →
      match restart.stage with
      | .marked => ∀ jobId ∈ restart.jobIds, ∀ w, s.workers.get jobId = some w → w.registered = true
      | .stopped => ∀ jobId w, s.workers.get jobId = some w → w.stage.isExecuting = false
      | _ => True
  | _ => True

namespace RenderAux

/-! ## A job with its worker and its run -/

structure JobView where
  job : Option RenderJob
  stage : Option WorkerStage
  run : Option RunRecord

def view (s : RenderSystem) (jobId : String) : JobView where
  job := s.jobs.get jobId
  stage := (s.workers.get jobId).map (·.stage)
  run := s.store.runs.get jobId

/-- The job is there and has not ended. -/
def Open (job : Option RenderJob) : Prop := ∃ j, job = some j ∧ renderJobIsTerminal j.status = false

/-- What a dispatch that has returned says about the end of the run. -/
def OutcomeFits : Except String DispatchResponse → RunStatus → Prop
  | .ok response, status => status = if executionOk response.execution then .completed else .failed
  | .error _, status => status = .interrupted ∨ status = .failed

/-- Where the worker is, and what that means for the job and the run. -/
def StageFits (jobId : String) (job : Option RenderJob) (run : Option RunRecord) : WorkerStage → Prop
  | .listed | .waiting _ | .started _ => run = none ∧ Open job
  | .executing _ h =>
    (h.executionId = jobId ∧ h.environmentOperation = none) ∧ (∃ r, run = some r ∧ r.status.isActive = true) ∧ Open job
  | .answered _ outcome =>
    (run = none ∧ (∃ e, outcome = .error e) ∧ Open job) ∨ ∃ r, run = some r ∧ OutcomeFits outcome r.status

structure Fits (root jobId : String) (v : JobView) : Prop where
  stage : ∀ stage, v.stage = some stage → StageFits jobId v.job v.run stage
  ended : ∀ job, v.job = some job → renderJobIsTerminal job.status = true →
    (v.run = none ∧ v.stage = none) ∨ ∃ r, v.run = some r ∧ runStatusOf job.status = some r.status
  root : v.job ≠ none ∨ v.stage ≠ none → ∀ r, v.run = some r → r.projectRoot = root

/-- A job that has ended, also after it was dropped. -/
structure Frozen (status : RenderStatus) (v : JobView) : Prop where
  job : ∀ job, v.job = some job → job.status = status
  run : (v.run = none ∧ v.stage = none) ∨ ∃ r, v.run = some r ∧ runStatusOf status = some r.status
  stage : ∀ stage, v.stage = some stage → ∃ workspace outcome, stage = .answered workspace outcome

/-- The moves of a job. -/
inductive Move (root jobId : String) : JobView → JobView → Prop
  | stay (v : JobView) : Move root jobId v v
  | spawn (job : Option RenderJob) (run : Option RunRecord) (workspace : Option Nat) :
    Move root jobId ⟨job, some .listed, run⟩ ⟨job, some (.waiting workspace), run⟩
  /-- The worker stops before it has started. -/
  | stop (job : Option RenderJob) (run : Option RunRecord) (workspace : Option Nat) (status : RenderStatus) (reason : Option String) :
    renderJobIsTerminal status = true →
    Move root jobId ⟨job, some (.waiting workspace), run⟩ ⟨job.map (finishRenderJob · status reason), none, run⟩
  | begin (job : Option RenderJob) (run : Option RunRecord) (waiting : Option Nat) (workspace : Nat) :
    Move root jobId ⟨job, some (.waiting waiting), run⟩
      ⟨job.map (fun j => { j with status := .running }), some (.started workspace), run⟩
  | handOver (job : Option RenderJob) (workspace : Nat) (h : Handover) (r : RunRecord) :
    h.executionId = jobId ∧ h.environmentOperation = none → r.status = .running → r.projectRoot = root →
    Move root jobId ⟨job, some (.started workspace), none⟩ ⟨job, some (.executing workspace h), some r⟩
  | refuse (job : Option RenderJob) (run : Option RunRecord) (workspace : Nat) (e : String) :
    Move root jobId ⟨job, some (.started workspace), run⟩ ⟨job, some (.answered workspace (.error e)), run⟩
  | answer (job : Option RenderJob) (workspace : Nat) (h : Handover) (r r' : RunRecord) (outcome : Except String DispatchResponse) :
    OutcomeFits outcome r'.status → r'.projectRoot = r.projectRoot →
    Move root jobId ⟨job, some (.executing workspace h), some r⟩ ⟨job, some (.answered workspace outcome), some r'⟩
  | finish (job : Option RenderJob) (run : Option RunRecord) (workspace : Nat) (outcome : Except String DispatchResponse) :
    (∀ e j r, outcome = .error e → job = some j → renderJobIsTerminal j.status = false → run = some r →
      (j.status = .cancelRequested ↔ r.status = .interrupted)) →
    Move root jobId ⟨job, some (.answered workspace outcome), run⟩ ⟨job.map (concludeRenderJob · outcome), none, run⟩
  | mark (j j' : RenderJob) (stage : Option WorkerStage) (run : Option RunRecord) :
    renderJobIsTerminal j.status = false → renderJobIsTerminal j'.status = false →
    Move root jobId ⟨some j, stage, run⟩ ⟨some j', stage, run⟩
  /-- The run is marked or recovered: one that has ended stays as it was. -/
  | rerun (job : Option RenderJob) (stage : Option WorkerStage) (r r' : RunRecord) :
    r'.projectRoot = r.projectRoot → (r'.status = r.status ∨ r.status.isActive = true ∧ ∀ st, stage = some st → st.isExecuting = false) →
    Move root jobId ⟨job, stage, some r⟩ ⟨job, stage, some r'⟩
  | abort (job : Option RenderJob) (stage : Option WorkerStage) (run : Option RunRecord) :
    Move root jobId ⟨job, stage, run⟩ ⟨job, none, run⟩
  | reconcile (job : Option RenderJob) (stage : Option WorkerStage) (run : Option RunRecord) (status : Option RunStatus)
    (reason : Option String) :
    (Open job → (status = none ∧ run = none ∧ stage = none) ∨
      ∃ r, run = some r ∧ status = some r.status ∧ r.status.isActive = false) →
    Move root jobId ⟨job, stage, run⟩ ⟨job.map (reconcileRenderJob · status reason), stage, run⟩
  | drop (j : RenderJob) (stage : Option WorkerStage) (run : Option RunRecord) :
    renderJobIsTerminal j.status = true → Move root jobId ⟨some j, stage, run⟩ ⟨none, stage, run⟩

/-! ## What the writes to a job do -/

variable {j : RenderJob} {outcome : Except String DispatchResponse} {status : RenderStatus} {root jobId : String} {v v' : JobView}
  {s' : RenderSystem} {request : RenderRequest} {identity : WorkspaceIdentity} {o : PrepareOutcome} {workspace : Nat}
  {stage : RestartStage}

theorem finish_of_open (h : renderJobIsTerminal j.status = false) (status : RenderStatus) (reason : Option String) :
    (finishRenderJob j status reason).status = status := by
  unfold finishRenderJob
  rw [h]
  rfl

theorem finish_of_terminal (h : renderJobIsTerminal j.status = true) (status : RenderStatus)
    (reason : Option String) : finishRenderJob j status reason = j := by
  unfold finishRenderJob
  rw [if_pos h]

theorem conclude_of_terminal (h : renderJobIsTerminal j.status = true) (outcome : Except String DispatchResponse) :
    concludeRenderJob j outcome = j := by
  unfold concludeRenderJob
  split
  · split <;> exact finish_of_terminal h _ _
  · split <;> exact finish_of_terminal h _ _

theorem reconcile_of_terminal (h : renderJobIsTerminal j.status = true) (status : Option RunStatus)
    (reason : Option String) : reconcileRenderJob j status reason = j := by
  unfold reconcileRenderJob
  rw [if_pos h]

/-- A job that is open takes the status of its run when that has ended, and is interrupted otherwise. -/
theorem reconcile_of_open (h : renderJobIsTerminal j.status = false) (status : Option RunStatus) (reason : Option String) :
    renderJobIsTerminal (reconcileRenderJob j status reason).status = true ∧
      ∀ st, status = some st → st.isActive = false → runStatusOf (reconcileRenderJob j status reason).status = some st := by
  unfold reconcileRenderJob
  rw [if_neg (by rw [h]; exact Bool.false_ne_true)]
  rcases status with _ | st
  · simp only [finish_of_open h]
    exact ⟨rfl, fun st hst => by cases hst⟩
  · cases st with
    | completed | failed | interrupted =>
      simp only [finish_of_open h]
      exact ⟨rfl, fun st hst _ => by cases hst; rfl⟩
    | queued | running | waiting =>
      simp only [finish_of_open h]
      exact ⟨rfl, fun st hst hactive => by cases hst; cases hactive⟩

/-- The worker's write ends an open job in agreement with the run that the dispatch left. -/
theorem conclude_of_open {r : RunRecord} (h : renderJobIsTerminal j.status = false) (hfits : OutcomeFits outcome r.status)
    (herror : ∀ e, outcome = .error e → (j.status = .cancelRequested ↔ r.status = .interrupted)) :
    runStatusOf (concludeRenderJob j outcome).status = some r.status := by
  unfold concludeRenderJob
  rcases outcome with e | response
  · have hiff := herror e rfl
    by_cases hcancel : j.status = .cancelRequested
    · simp only [hcancel, if_true, finish_of_open h, hiff.mp hcancel]
      rfl
    · rcases hfits with hrun | hrun
      · exact absurd (hiff.mpr hrun) hcancel
      · simp only [hcancel, if_false, finish_of_open h, hrun]
        rfl
  · have hrun : r.status = if executionOk response.execution then .completed else .failed := hfits
    cases hok : executionOk response.execution with
    | true =>
      rw [hok] at hrun
      simp only [hok, if_true, finish_of_open h, hrun]
      rfl
    | false =>
      rw [hok] at hrun
      simp only [hok, Bool.false_eq_true, if_false, finish_of_open h, hrun]
      rfl

theorem terminal_of_runStatus {run : RunStatus} (h : runStatusOf status = some run) :
    renderJobIsTerminal status = true ∧ run.isActive = false := by
  cases status with
  | completed | failed | interrupted =>
    cases h
    exact ⟨rfl, rfl⟩
  | submitted | running | cancelRequested => cases h

theorem not_active_of_outcome {status : RunStatus} (h : OutcomeFits outcome status) : status.isActive = false := by
  rcases outcome with e | response
  · rcases h with rfl | rfl
    · rfl
    · rfl
  · have hstatus : status = if executionOk response.execution then .completed else .failed := h
    rw [hstatus]
    split
    · rfl
    · rfl

/-! ## What the moves keep -/

theorem open_of_not_terminal (h : renderJobIsTerminal j.status = false) : Open (some j) := ⟨j, rfl, h⟩

theorem Open.not_terminal {job : Option RenderJob} (h : Open job) (hj : job = some j) : renderJobIsTerminal j.status ≠ true := by
  obtain ⟨k, hk, hopen⟩ := h
  rw [hj] at hk
  cases hk
  rw [hopen]
  exact Bool.false_ne_true

/-- Every move keeps the job, its worker and its run together. -/
theorem Fits.move (hfits : Fits root jobId v) (hmove : Move root jobId v v') : Fits root jobId v' := by
  cases hmove with
  | stay => exact hfits
  | spawn job run workspace =>
    have hstage : StageFits jobId job run .listed := hfits.stage _ rfl
    refine ⟨?_, ?_, fun _ => hfits.root (Or.inr (Option.some_ne_none _))⟩
    · intro stage hst
      cases hst
      exact hstage
    · intro j hj hterm
      exact absurd hterm (hstage.2.not_terminal hj)
  | stop job run workspace status reason hterm =>
    obtain ⟨rfl, j, rfl, hopen⟩ : StageFits jobId job run (.waiting workspace) := hfits.stage _ rfl
    refine ⟨?_, fun j' hj' _ => Or.inl ⟨rfl, rfl⟩, ?_⟩
    · intro stage hst
      cases hst
    · intro _ r hr
      cases hr
  | begin job run waiting workspace =>
    obtain ⟨rfl, j, rfl, hopen⟩ : StageFits jobId job run (.waiting waiting) := hfits.stage _ rfl
    refine ⟨?_, ?_, ?_⟩
    · intro stage hst
      cases hst
      exact ⟨rfl, open_of_not_terminal rfl⟩
    · intro j' hj' hterm
      cases hj'
      cases hterm
    · intro _ r hr
      cases hr
  | handOver job workspace h r hid hstatus hroot =>
    obtain ⟨-, hopen⟩ : StageFits jobId job none (.started workspace) := hfits.stage _ rfl
    refine ⟨?_, fun j hj hterm => absurd hterm (hopen.not_terminal hj), ?_⟩
    · intro stage hst
      cases hst
      exact ⟨hid, ⟨r, rfl, by rw [hstatus]; rfl⟩, hopen⟩
    · intro _ r' hr'
      cases hr'
      exact hroot
  | refuse job run workspace e =>
    obtain ⟨rfl, hopen⟩ : StageFits jobId job run (.started workspace) := hfits.stage _ rfl
    refine ⟨?_, fun j hj hterm => absurd hterm (hopen.not_terminal hj), ?_⟩
    · intro stage hst
      cases hst
      exact Or.inl ⟨rfl, ⟨e, rfl⟩, hopen⟩
    · intro _ r hr
      cases hr
  | answer job workspace h r r' outcome hout hroot =>
    obtain ⟨-, -, hopen⟩ : StageFits jobId job (some r) (.executing workspace h) := hfits.stage _ rfl
    refine ⟨?_, fun j hj hterm => absurd hterm (hopen.not_terminal hj), ?_⟩
    · intro stage hst
      cases hst
      exact Or.inr ⟨r', rfl, hout⟩
    · intro _ r'' hr''
      cases hr''
      rw [hroot]
      exact hfits.root (Or.inr (Option.some_ne_none _)) r rfl
  | finish job run workspace outcome herror =>
    have hstage : StageFits jobId job run (.answered workspace outcome) := hfits.stage _ rfl
    refine ⟨?_, ?_, fun _ => hfits.root (Or.inr (Option.some_ne_none _))⟩
    · intro stage hst
      cases hst
    · intro j' hj' _
      obtain ⟨j, rfl, rfl⟩ := Option.map_eq_some_iff.mp hj'
      rcases hstage with ⟨hrun, -, -⟩ | ⟨r, rfl, hout⟩
      · exact Or.inl ⟨hrun, rfl⟩
      refine Or.inr ⟨r, rfl, ?_⟩
      cases hterm : renderJobIsTerminal j.status with
      | false => exact conclude_of_open hterm hout fun e he => herror e j r he rfl hterm rfl
      | true =>
        rcases hfits.ended j rfl hterm with ⟨hnone, -⟩ | ⟨r', hr', hagrees⟩
        · cases hnone
        · cases hr'
          rw [conclude_of_terminal hterm]
          exact hagrees
  | mark j j' stage run hopen hopen' =>
    refine ⟨?_, ?_, fun _ => hfits.root (Or.inl (Option.some_ne_none _))⟩
    · intro st hst
      have hstage := hfits.stage st hst
      cases st with
      | listed | waiting _ | started _ => exact ⟨hstage.1, open_of_not_terminal hopen'⟩
      | executing _ h => exact ⟨hstage.1, hstage.2.1, open_of_not_terminal hopen'⟩
      | answered _ outcome =>
        rcases hstage with ⟨hrun, herr, -⟩ | hrun
        · exact Or.inl ⟨hrun, herr, open_of_not_terminal hopen'⟩
        · exact Or.inr hrun
    · intro k hk hterm
      cases hk
      rw [hopen'] at hterm
      cases hterm
  | rerun job stage r r' hroot hstatus =>
    refine ⟨?_, ?_, ?_⟩
    · intro st hst
      have hstage := hfits.stage st hst
      cases st with
      | listed | waiting _ | started _ => cases hstage.1
      | executing _ h =>
        obtain ⟨hid, ⟨r₀, hr₀, hactive⟩, hopen⟩ := hstage
        cases hr₀
        rcases hstatus with heq | ⟨-, hnot⟩
        · exact ⟨hid, ⟨r', rfl, by rw [heq]; exact hactive⟩, hopen⟩
        · cases hnot _ hst
      | answered _ outcome =>
        rcases hstage with ⟨hrun, -, -⟩ | ⟨r₀, hr₀, hout⟩
        · cases hrun
        cases hr₀
        rcases hstatus with heq | ⟨hactive, -⟩
        · exact Or.inr ⟨r', rfl, by rw [heq]; exact hout⟩
        · rw [not_active_of_outcome hout] at hactive
          cases hactive
    · intro j hj hterm
      rcases hfits.ended j hj hterm with ⟨hnone, -⟩ | ⟨r₀, hr₀, hagrees⟩
      · cases hnone
      cases hr₀
      rcases hstatus with heq | ⟨hactive, -⟩
      · exact Or.inr ⟨r', rfl, by rw [heq]; exact hagrees⟩
      · rw [(terminal_of_runStatus hagrees).2] at hactive
        cases hactive
    · intro hthere r'' hr''
      cases hr''
      rw [hroot]
      exact hfits.root hthere r rfl
  | abort job stage run =>
    refine ⟨?_, ?_, ?_⟩
    · intro st hst
      cases hst
    · intro j hj hterm
      rcases hfits.ended j hj hterm with ⟨hrun, -⟩ | hrun
      · exact Or.inl ⟨hrun, rfl⟩
      · exact Or.inr hrun
    · intro hthere r hr
      rcases hthere with hjob | habs
      · exact hfits.root (Or.inl hjob) r hr
      · exact absurd rfl habs
  | reconcile job stage run status reason hrun =>
    rcases job with _ | j
    · exact hfits
    cases hterm : renderJobIsTerminal j.status with
    | true =>
      rw [Option.map_some, reconcile_of_terminal hterm]
      exact hfits
    | false =>
      obtain ⟨hterm', hagrees⟩ := reconcile_of_open hterm status reason
      refine ⟨?_, ?_, fun _ => hfits.root (Or.inl (Option.some_ne_none _))⟩
      · intro st hst
        have hstage := hfits.stage st hst
        rcases hrun (open_of_not_terminal hterm) with ⟨-, -, hnone⟩ | ⟨r, rfl, -, hended⟩
        · rw [show stage = some st from hst] at hnone
          cases hnone
        cases st with
        | listed | waiting _ | started _ => cases hstage.1
        | executing _ h =>
          obtain ⟨-, ⟨r₀, hr₀, hactive⟩, -⟩ := hstage
          cases hr₀
          rw [hended] at hactive
          cases hactive
        | answered _ outcome =>
          rcases hstage with ⟨hnone, -, -⟩ | hout
          · cases hnone
          · exact Or.inr hout
      · intro j' hj' _
        cases hj'
        rcases hrun (open_of_not_terminal hterm) with ⟨-, hnone, hstage⟩ | ⟨r, rfl, hst, hended⟩
        · exact Or.inl ⟨hnone, hstage⟩
        · exact Or.inr ⟨r, rfl, hagrees r.status hst hended⟩
  | drop j stage run hterm =>
    have hclosed : ¬Open (some j) := fun hopen => hopen.not_terminal rfl hterm
    refine ⟨?_, fun _ hj' => (nomatch hj'), ?_⟩
    · intro st hst
      have hstage := hfits.stage st hst
      cases st with
      | listed | waiting _ | started _ => exact absurd hstage.2 hclosed
      | executing _ h => exact absurd hstage.2.2 hclosed
      | answered _ outcome =>
        rcases hstage with ⟨-, -, hopen⟩ | hout
        · exact absurd hopen hclosed
        · exact Or.inr hout
    · intro hthere r hr
      exact hfits.root (Or.inl (Option.some_ne_none _)) r hr

/-- A job that fits and has ended is frozen. -/
theorem Fits.frozen (hfits : Fits root jobId v) (hj : v.job = some j)
    (hterm : renderJobIsTerminal j.status = true) : Frozen j.status v := by
  have hended := hfits.ended j hj hterm
  refine ⟨?_, hended, ?_⟩
  · intro j' hj'
    rw [hj] at hj'
    cases hj'
    rfl
  · intro st hst
    have hstage := hfits.stage st hst
    have hclosed : ¬Open v.job := fun hopen => hopen.not_terminal hj hterm
    cases st with
    | listed | waiting _ | started _ => exact absurd hstage.2 hclosed
    | executing _ h => exact absurd hstage.2.2 hclosed
    | answered workspace outcome => exact ⟨workspace, outcome, rfl⟩

/-- No move changes a job that is frozen. -/
theorem Frozen.move (hfrozen : Frozen status v)
    (hterm : renderJobIsTerminal status = true) (hmove : Move root jobId v v') : Frozen status v' := by
  have hjob : ∀ j, v.job = some j → renderJobIsTerminal j.status = true := by
    intro j hj
    rw [hfrozen.job j hj]
    exact hterm
  cases hmove with
  | stay => exact hfrozen
  | spawn job run workspace =>
    obtain ⟨_, _, habs⟩ := hfrozen.stage _ rfl
    cases habs
  | stop job run workspace status' reason hstatus =>
    obtain ⟨_, _, habs⟩ := hfrozen.stage _ rfl
    cases habs
  | begin job run waiting workspace =>
    obtain ⟨_, _, habs⟩ := hfrozen.stage _ rfl
    cases habs
  | handOver job workspace h r hid hstatus hroot =>
    obtain ⟨_, _, habs⟩ := hfrozen.stage _ rfl
    cases habs
  | refuse job run workspace e =>
    obtain ⟨_, _, habs⟩ := hfrozen.stage _ rfl
    cases habs
  | answer job workspace h r r' outcome hout hroot =>
    obtain ⟨_, _, habs⟩ := hfrozen.stage _ rfl
    cases habs
  | finish job run workspace outcome herror =>
    refine ⟨?_, ?_, fun st hst => by cases hst⟩
    · intro j' hj'
      obtain ⟨j, hj, rfl⟩ := Option.map_eq_some_iff.mp hj'
      rw [conclude_of_terminal (hjob j hj)]
      exact hfrozen.job j hj
    · rcases hfrozen.run with ⟨-, habs⟩ | hrun
      · cases habs
      · exact Or.inr hrun
  | mark j j' stage run hopen hopen' =>
    rw [hjob j rfl] at hopen
    cases hopen
  | rerun job stage r r' hroot hstatus =>
    refine ⟨hfrozen.job, ?_, hfrozen.stage⟩
    rcases hfrozen.run with ⟨habs, -⟩ | ⟨r₀, hr₀, hagrees⟩
    · cases habs
    cases hr₀
    rcases hstatus with heq | ⟨hactive, -⟩
    · exact Or.inr ⟨r', rfl, by rw [heq]; exact hagrees⟩
    · rw [(terminal_of_runStatus hagrees).2] at hactive
      cases hactive
  | abort job stage run =>
    refine ⟨hfrozen.job, ?_, fun st hst => by cases hst⟩
    rcases hfrozen.run with ⟨hrun, -⟩ | hrun
    · exact Or.inl ⟨hrun, rfl⟩
    · exact Or.inr hrun
  | reconcile job stage run status' reason hrun =>
    refine ⟨?_, hfrozen.run, hfrozen.stage⟩
    intro j' hj'
    obtain ⟨j, hj, rfl⟩ := Option.map_eq_some_iff.mp hj'
    rw [reconcile_of_terminal (hjob j hj)]
    exact hfrozen.job j hj
  | drop j stage run hended => exact ⟨fun _ hj' => (nomatch hj'), hfrozen.run, hfrozen.stage⟩

/-- What can be relied on later: no job and no worker appears, a run that has ended keeps its status, and without a worker no run
appears. -/
structure Later (v v' : JobView) : Prop where
  job : v.job = none → v'.job = none
  stage : v.stage = none → v'.stage = none
  run : ∀ r, v.run = some r → r.status.isActive = false → ∃ r', v'.run = some r' ∧ r'.status = r.status
  noRun : v.run = none → v.stage = none → v'.run = none

theorem Move.later (hmove : Move root jobId v v') (hfits : Fits root jobId v) : Later v v' := by
  have hmap : ∀ {α β : Type} {f : α → β} {x : Option α}, x = none → x.map f = none := by
    intro α β f x h
    rw [h, Option.map_none]
  cases hmove with
  | stay => exact ⟨id, id, fun r hr _ => ⟨r, hr, rfl⟩, fun h _ => h⟩
  | reconcile => exact ⟨hmap, id, fun r hr _ => ⟨r, hr, rfl⟩, fun h _ => h⟩
  | mark | drop => exact ⟨fun h => (nomatch h), id, fun r hr _ => ⟨r, hr, rfl⟩, fun h _ => h⟩
  | spawn | refuse => exact ⟨id, fun h => (nomatch h), fun r hr _ => ⟨r, hr, rfl⟩, fun h _ => h⟩
  | stop | begin | finish => exact ⟨hmap, fun h => (nomatch h), fun r hr _ => ⟨r, hr, rfl⟩, fun h _ => h⟩
  | handOver => exact ⟨id, fun h => (nomatch h), fun r hr => (nomatch hr), fun _ h => (nomatch h)⟩
  | answer job workspace h r r' outcome hout hroot =>
    refine ⟨id, fun h => (nomatch h), ?_, fun h => (nomatch h)⟩
    intro r₀ hr₀ hended
    obtain ⟨-, ⟨r₁, hr₁, hactive⟩, -⟩ : StageFits jobId job (some r) (.executing workspace h) := hfits.stage _ rfl
    cases hr₀
    cases hr₁
    rw [hended] at hactive
    cases hactive
  | rerun job stage r r' hroot hstatus =>
    refine ⟨id, id, ?_, fun h => (nomatch h)⟩
    intro r₀ hr₀ hended
    cases hr₀
    rcases hstatus with heq | ⟨hactive, -⟩
    · exact ⟨r', rfl, heq⟩
    · rw [hended] at hactive
      cases hactive
  | abort job stage run => exact ⟨id, fun _ => rfl, fun r hr _ => ⟨r, hr, rfl⟩, fun h _ => h⟩

/-! ## The views after a write -/

theorem view_updateJob (s : RenderSystem) (jobId : String) (f : RenderJob → RenderJob) (hf : ∀ j, (f j).jobId = j.jobId)
    (k : String) :
    view (s.updateJob jobId f hf) k = if k = jobId then { view s k with job := (view s k).job.map f } else view s k := by
  unfold view updateJob
  simp only [get_update_key]
  split
  · rfl
  · rfl

theorem view_setStage (s : RenderSystem) (jobId : String) (stage : WorkerStage) (k : String) :
    view (s.setStage jobId stage) k =
      if k = jobId then { view s k with stage := (view s k).stage.map (fun _ => stage) } else view s k := by
  unfold view setStage
  simp only [get_update_key]
  split
  · simp only [Option.map_map, Function.comp_def]
  · rfl

theorem view_removeWorker (s : RenderSystem) (jobId : String) (k : String) :
    view (s.removeWorker jobId) k = if k = jobId then { view s k with stage := none } else view s k := by
  unfold view removeWorker
  simp only [get_delete]
  cases hget : s.workers.get k with
  | none =>
    split
    · rfl
    · rfl
  | some w =>
    have hkey := key_of_get hget
    by_cases hk : k = jobId
    · simp [hkey, hk]
    · simp [hkey, hk]

/-- A step that touches one job. -/
theorem moves_of_at {s : RenderSystem} (jobId : String) (hother : ∀ k, k ≠ jobId → view s' k = view s k)
    (hat : Move s.root jobId (view s jobId) (view s' jobId)) : ∀ k, Move s.root k (view s k) (view s' k) := by
  intro k
  by_cases hk : k = jobId
  · rw [hk]
    exact hat
  · rw [hother k hk]
    exact Move.stay _

/-! ## The steps are moves -/

theorem view_of_stage {s : RenderSystem} {stage : WorkerStage} (h : s.stageOf jobId = some stage) :
    view s jobId = ⟨s.jobs.get jobId, some stage, s.store.runs.get jobId⟩ :=
  congrArg (JobView.mk _ · _) h

theorem moves_spawn (s : RenderSystem) (jobId : String) : ∀ k, Move s.root k (view s k) (view (s.spawn jobId) k) := by
  intro k
  unfold spawn
  split
  · next hstage =>
    refine moves_of_at jobId (fun k hk => ?_) ?_ k
    · rw [view_setStage, if_neg hk]
    · rw [view_setStage, if_pos rfl, view_of_stage hstage]
      exact Move.spawn _ _ _
  · exact Move.stay _

/-- Whether a task is registered is not part of the view. -/
theorem view_register {s : RenderSystem} (p : RenderWorker → Bool) (b : Bool) (hjobs : s'.jobs = s.jobs)
    (hstore : s'.store = s.store) (hworkers : s'.workers = s.workers.update p (fun w => { w with registered := b })) (k : String) :
    view s' k = view s k := by
  unfold view
  rw [hjobs, hstore, hworkers]
  simp only [get_update, Option.map_map]
  congr 2
  funext w
  simp only [Function.comp_apply]
  split
  · rfl
  · rfl

theorem moves_register {s : RenderSystem} (p : RenderWorker → Bool) (b : Bool) (hjobs : s'.jobs = s.jobs)
    (hstore : s'.store = s.store) (hworkers : s'.workers = s.workers.update p (fun w => { w with registered := b })) :
    ∀ k, Move s.root k (view s k) (view s' k) := by
  intro k
  rw [view_register p b hjobs hstore hworkers]
  exact Move.stay _

theorem moves_registerTask (s : RenderSystem) (jobId : String) :
    ∀ k, Move s.root k (view s k) (view (s.registerTask jobId) k) := by
  intro k
  unfold registerTask
  split
  · exact Move.stay _
  · refine moves_register (fun w => w.jobId = jobId) true ?_ ?_ ?_ k <;> rfl

/-- The worker stops and its job ends. -/
theorem moves_stop {s : RenderSystem} {workspace : Option Nat} (hstage : s.stageOf jobId = some (.waiting workspace))
    (status : RenderStatus) (reason : Option String) (hterm : renderJobIsTerminal status = true) : ∀ k, Move s.root k (view s k)
      (view ((s.updateJob jobId (finishRenderJob · status reason) (fun j => finishRenderJob_jobId j _ _)).removeWorker jobId) k) := by
  refine moves_of_at jobId (fun k hk => ?_) ?_
  · rw [view_removeWorker, if_neg hk, view_updateJob, if_neg hk]
  · rw [view_removeWorker, if_pos rfl, view_updateJob, if_pos rfl, view_of_stage hstage]
    exact Move.stop _ _ _ _ _ hterm

theorem moves_workerStart (s : RenderSystem) (jobId : String) :
    ∀ k, Move s.root k (view s k) (view (s.workerStart jobId) k) := by
  intro k
  unfold workerStart
  split
  · next hstage => exact moves_stop hstage .failed _ rfl k
  · next workspace hstage =>
    split
    · unfold admitWorker
      split
      · refine moves_of_at jobId (fun k hk => ?_) ?_ k
        · rw [view_removeWorker, if_neg hk]
        · rw [view_removeWorker, if_pos rfl]
          exact Move.abort _ _ _
      · split
        · exact moves_stop hstage .interrupted _ rfl k
        · refine moves_of_at jobId (fun k hk => ?_) ?_ k
          · rw [view_setStage, if_neg hk, view_updateJob, if_neg hk]
          · rw [view_setStage, if_pos rfl, view_updateJob, if_pos rfl, view_of_stage hstage]
            exact Move.begin _ _ _ _
    · exact Move.stay _
  · exact Move.stay _

theorem executionId_of_render
    {executionId : String} (h : executionIdOf (renderCall jobId request identity) o = .ok executionId) : executionId = jobId := by
  obtain ⟨u, -, hid⟩ := Fallible.bind_eq_ok h
  cases hid
  rfl

/-- A render claims no environment operation. -/
theorem environmentOperation_of_render :
    environmentOperationRequestId (renderCall jobId request identity).requestType (renderCall jobId request identity).payload =
      .ok none := rfl

/-- The coordinator's writes show in the run alone. -/
theorem view_withCoordinator (s : RenderSystem) (workspace : Nat) (c : Coordinator) (k : String) :
    view (s.withCoordinator workspace c) k = { view s k with run := c.store.runs.get k } := rfl

theorem moves_prepareWorker {s : RenderSystem} (hstage : s.stageOf jobId = some (.started workspace))
    {call : DispatchCall} (hcall : ∀ executionId, executionIdOf call o = .ok executionId → executionId = jobId)
    (hoperation : environmentOperationRequestId call.requestType call.payload = .ok none)
    (hroot : s.store.projectRoot = s.root) (hmark : o.fault .markRunning = none) (hfile : o.fault .resultFile = none) :
    ∀ k, Move s.root k (view s k) (view (s.prepareWorker jobId workspace call o) k) := by
  have hruns := runs_prepareDispatch call o (s.coordinator workspace)
  unfold prepareWorker
  generalize prepareDispatch call o (s.coordinator workspace) = result at hruns ⊢
  cases result with
  | ok h c =>
    obtain ⟨hid, hactive, hclaimed, hfresh, row, hstatus, hrow, hget⟩ := hruns
    have hjob : h.executionId = jobId := hcall _ hid
    have hnone : h.environmentOperation = none := (Except.ok.inj (hoperation.symm.trans hclaimed)).symm
    rw [hjob] at hget hfresh
    refine moves_of_at jobId (fun k hk => ?_) ?_
    · rw [view_setStage, if_neg hk, view_withCoordinator, hget, runsWith, if_neg hk]
      rfl
    · rw [view_setStage, if_pos rfl, view_withCoordinator, hget, runsWith, if_pos rfl, view_of_stage hstage,
        show s.store.runs.get jobId = none from hfresh]
      refine Move.handOver _ _ h row ⟨hjob, hnone⟩ hstatus ?_
      rw [hrow, ← hroot]
      exact (projectRoot_of_active hactive).symm
  | error e c =>
    have hget := hruns hmark hfile
    refine moves_of_at jobId (fun k hk => ?_) ?_
    · rw [view_setStage, if_neg hk, view_withCoordinator, hget]
      rfl
    · rw [view_setStage, if_pos rfl, view_withCoordinator, hget, view_of_stage hstage]
      exact Move.refuse _ _ _ _

theorem moves_workerPrepare (s : RenderSystem) (jobId : String) (o : PrepareOutcome) (hroot : s.store.projectRoot = s.root)
    (hspares : RenderSpares s (.workerPrepare jobId o)) :
    ∀ k, Move s.root k (view s k) (view (s.workerPrepare jobId o) k) := by
  intro k
  unfold workerPrepare
  split
  · exact Move.stay _
  · next w hw =>
    split
    · next workspace hstage =>
      refine moves_prepareWorker ?_ (fun _ => executionId_of_render) environmentOperation_of_render hroot hspares.1 hspares.2 k
      rw [stageOf, hw, Option.map_some, hstage]
    · exact Move.stay _

/-- A result that is a failure for the run is no success for the job. -/
theorem executionOk_of_failed {result : Json} (h : workspaceResultFailed result = true) : executionOk result = false := by
  unfold workspaceResultFailed at h
  unfold executionOk
  rw [beq_iff_eq.mp h]
  rfl

theorem moves_answerWorker {s : RenderSystem} {h : Handover}
    (hstage : s.stageOf jobId = some (.executing workspace h)) (hfits : Fits s.root jobId (view s jobId)) (o : ConcludeOutcome)
    (hspares : RenderSpares s (.workerAnswer jobId o)) :
    ∀ k, Move s.root k (view s k) (view (s.answerWorker jobId workspace h o) k) := by
  rw [view_of_stage hstage] at hfits
  obtain ⟨⟨hjob, hoperation⟩, ⟨r, hr, -⟩, -⟩ := hfits.stage _ rfl
  obtain ⟨hfinish, hresult⟩ := hspares
  have hended : ∀ (status : RunStatus) (c : Coordinator) (outcome : Except String DispatchResponse),
      RunEnded (s.coordinator workspace) h.executionId status c → OutcomeFits outcome status →
      ∀ k, Move s.root k (view s k)
        (view ((s.withCoordinator workspace c).setStage jobId (.answered workspace outcome)) k) := by
    rintro status c outcome ⟨f, hf, hget⟩ hout
    rw [hjob] at hget
    refine moves_of_at jobId (fun k hk => ?_) ?_
    · rw [view_setStage, if_neg hk, view_withCoordinator, hget, runsWith, if_neg hk]
      rfl
    · rw [view_setStage, if_pos rfl, view_withCoordinator, hget, runsWith, if_pos rfl, view_of_stage hstage,
        show s.store.runs.get jobId = some r from hr, show (s.coordinator workspace).store.runs.get jobId = some r from hr]
      refine Move.answer _ _ _ r (f r) outcome ?_ (hf r).2
      rw [(hf r).1]
      exact hout
  have hruns := runs_concludeDispatch h o (s.coordinator workspace) hoperation hfinish
    fun result hk => ⟨(hresult result hk).1, fun hf => ((hresult result hk).2 hf).2⟩
  unfold answerWorker
  generalize concludeDispatch h o (s.coordinator workspace) = result at hruns ⊢
  cases result with
  | ok response c =>
    obtain ⟨hkernel, hrun⟩ := hruns
    refine hended _ c _ hrun ?_
    change (if workspaceResultFailed response.execution then RunStatus.failed else .completed) =
      if executionOk response.execution then .completed else .failed
    cases hfailed : workspaceResultFailed response.execution with
    | true =>
      rw [executionOk_of_failed hfailed]
      rfl
    | false =>
      rw [((hresult _ hkernel).2 hfailed).1]
      rfl
  | error e c =>
    obtain ⟨status, hstatus, hrun⟩ := hruns
    exact hended status c _ hrun hstatus

theorem moves_workerAnswer (s : RenderSystem) (jobId : String) (o : ConcludeOutcome) (hfits : Fits s.root jobId (view s jobId))
    (hspares : RenderSpares s (.workerAnswer jobId o)) :
    ∀ k, Move s.root k (view s k) (view (s.workerAnswer jobId o) k) := by
  intro k
  unfold workerAnswer
  split
  · next workspace h hstage => exact moves_answerWorker hstage hfits o hspares k
  · exact Move.stay _

theorem moves_workerFinish (s : RenderSystem) (jobId : String) (hspares : RenderSpares s (.workerFinish jobId)) :
    ∀ k, Move s.root k (view s k) (view (s.workerFinish jobId) k) := by
  intro k
  unfold workerFinish
  split
  · next workspace outcome hstage =>
    refine moves_of_at jobId (fun k hk => ?_) ?_ k
    · rw [view_removeWorker, if_neg hk, view_updateJob, if_neg hk]
    · rw [view_removeWorker, if_pos rfl, view_updateJob, if_pos rfl, view_of_stage hstage]
      refine Move.finish _ _ _ _ ?_
      intro e j r he hj hopen hr
      obtain ⟨w, hw, hwstage⟩ := Option.map_eq_some_iff.mp hstage
      exact hspares w workspace e j r hw (he ▸ hwstage) hj hopen hr
  · exact Move.stay _

/-! ## The whole system -/

/-- A run that was read after it had ended is still there as it was read. -/
def ReadFits (s : RenderSystem) (jobId : String) (read : RunRecord) : Prop :=
  read.status.isActive = false → ∃ r, s.store.runs.get jobId = some r ∧ r.status = read.status

/-- What a restart can rely on at each of its stages about a job that it has marked. -/
def RestartFits (s : RenderSystem) (jobIds : List String) : RestartStage → Prop
  | .marked => True
  | .collected tasks | .runCancelled tasks | .taken tasks _ =>
    ∀ jobId ∈ jobIds, s.stageOf jobId ≠ none → jobId ∈ tasks
  | .aborted _ | .stopped => ∀ jobId ∈ jobIds, s.stageOf jobId = none
  | .started =>
    ∀ jobId ∈ jobIds, s.stageOf jobId = none ∧ ∀ r, s.store.runs.get jobId = some r → r.status.isActive = false
  | .read runs =>
    ∀ read ∈ runs, read.1 ∈ jobIds ∧ s.stageOf read.1 = none ∧
      ∀ job, s.jobs.get read.1 = some job →
        match read.2 with
        | none => s.store.runs.get read.1 = none
        | some r => r.status.isActive = false ∧ ReadFits s read.1 r

structure RenderOk (s : RenderSystem) : Prop where
  root : s.store.projectRoot = s.root
  fits : ∀ jobId, Fits s.root jobId (view s jobId)
  issued : ∀ jobId, s.jobs.get jobId ≠ none → jobId ∈ s.issued
  polls : ∀ poll ∈ s.polls, ReadFits s poll.1 poll.2
  marked : ∀ restart, s.restart = some restart → ∀ jobId ∈ restart.jobIds, jobId ∈ s.issued
  restart : ∀ restart, s.restart = some restart → RestartFits s restart.jobIds restart.stage

theorem ReadFits.later {s : RenderSystem} {read : RunRecord} (h : ReadFits s jobId read)
    (hlater : Later (view s jobId) (view s' jobId)) : ReadFits s' jobId read := by
  intro hended
  obtain ⟨r, hr, hstatus⟩ := h hended
  obtain ⟨r', hr', hstatus'⟩ := hlater.run r hr (hstatus ▸ hended)
  exact ⟨r', hr', hstatus'.trans hstatus⟩

/-- What a restart relies on stays through the steps of the others. -/
theorem RestartFits.later {s : RenderSystem} {jobIds : List String} (h : RestartFits s jobIds stage)
    (hlater : ∀ jobId ∈ jobIds, Later (view s jobId) (view s' jobId)) : RestartFits s' jobIds stage := by
  cases stage with
  | marked => trivial
  | collected tasks | runCancelled tasks | taken tasks _ =>
    intro jobId hmem hstage
    exact h jobId hmem fun hnone => hstage ((hlater jobId hmem).stage hnone)
  | aborted _ | stopped =>
    intro jobId hmem
    exact (hlater jobId hmem).stage (h jobId hmem)
  | started =>
    intro jobId hmem
    obtain ⟨hstage, hrun⟩ := h jobId hmem
    refine ⟨(hlater jobId hmem).stage hstage, ?_⟩
    intro r' hr'
    cases hr : s.store.runs.get jobId with
    | none =>
      have hnone := (hlater jobId hmem).noRun hr hstage
      rw [show s'.store.runs.get jobId = none from hnone] at hr'
      cases hr'
    | some r =>
      obtain ⟨r'', hr'', hstatus⟩ := (hlater jobId hmem).run r hr (hrun r hr)
      rw [show s'.store.runs.get jobId = some r'' from hr''] at hr'
      cases hr'
      rw [hstatus]
      exact hrun r hr
  | read runs =>
    intro read hmem
    obtain ⟨hid, hstage, hread⟩ := h read hmem
    refine ⟨hid, (hlater read.1 hid).stage hstage, ?_⟩
    intro job' hjob'
    have hthere : s.jobs.get read.1 ≠ none := by
      intro hnone
      have hnone' := (hlater read.1 hid).job hnone
      rw [show s'.jobs.get read.1 = none from hnone'] at hjob'
      cases hjob'
    obtain ⟨job, hjob⟩ := Option.ne_none_iff_exists'.mp hthere
    have hread := hread job hjob
    rcases hrun : read.2 with _ | r
    · rw [hrun] at hread
      exact (hlater read.1 hid).noRun hread hstage
    · rw [hrun] at hread
      exact ⟨hread.1, hread.2.later (hlater read.1 hid)⟩

/-- A later state that is in order, in which what had ended is as it was. -/
structure Proceeds (s s' : RenderSystem) : Prop where
  ok : RenderOk s'
  issued : ∀ jobId ∈ s.issued, jobId ∈ s'.issued
  frozen : ∀ jobId ∈ s.issued, ∀ status, renderJobIsTerminal status = true → Frozen status (view s jobId) →
    Frozen status (view s' jobId)

theorem RenderOk.proceeds {s : RenderSystem} (hok : RenderOk s) : Proceeds s s := ⟨hok, fun _ h => h, fun _ _ _ _ h => h⟩

theorem Proceeds.trans {s s'' : RenderSystem} (h : Proceeds s s') (h' : Proceeds s' s'') : Proceeds s s'' := by
  refine ⟨h'.ok, fun k hk => h'.issued k (h.issued k hk), ?_⟩
  intro k hk status hterm hfrozen
  exact h'.frozen k (h.issued k hk) status hterm (h.frozen k hk status hterm hfrozen)

/-- A step that is a move of every job keeps the system in order, if the polls and the restart that it leaves are. -/
theorem RenderOk.of_moves {s : RenderSystem} (hok : RenderOk s) (hroot : s'.root = s.root)
    (hstore : s'.store.projectRoot = s.store.projectRoot) (hissued : s'.issued = s.issued)
    (hmoves : ∀ k, Move s.root k (view s k) (view s' k)) (hpolls : ∀ poll ∈ s'.polls, poll ∈ s.polls ∨ ReadFits s' poll.1 poll.2)
    (hrestart : ∀ restart, s'.restart = some restart → s.restart = some restart ∨
      (∀ jobId ∈ restart.jobIds, jobId ∈ s.issued) ∧ RestartFits s' restart.jobIds restart.stage) : Proceeds s s' := by
  have hlater : ∀ k, Later (view s k) (view s' k) := fun k => (hmoves k).later (hok.fits k)
  refine ⟨⟨by rw [hstore, hroot]; exact hok.root, ?_, ?_, ?_, ?_, ?_⟩, fun k hk => by rw [hissued]; exact hk,
    fun k _ status hterm hfrozen => hfrozen.move hterm (hmoves k)⟩
  · intro k
    rw [hroot]
    exact (hok.fits k).move (hmoves k)
  · intro k hthere
    rw [hissued]
    exact hok.issued k fun hnone => hthere ((hlater k).job hnone)
  · intro poll hmem
    rcases hpolls poll hmem with hold | hfits
    · exact (hok.polls poll hold).later (hlater poll.1)
    · exact hfits
  · intro restart hr
    rw [hissued]
    rcases hrestart restart hr with hold | ⟨hmarked, -⟩
    · exact hok.marked restart hold
    · exact hmarked
  · intro restart hr
    rcases hrestart restart hr with hold | ⟨-, hfits⟩
    · exact (hok.restart restart hold).later fun k _ => hlater k
    · exact hfits

/-- What the steps of a worker leave alone. -/
structure SameFrame (s s' : RenderSystem) : Prop where
  root : s'.root = s.root
  store : s'.store.projectRoot = s.store.projectRoot
  issued : s'.issued = s.issued
  polls : s'.polls = s.polls
  restart : s'.restart = s.restart

theorem RenderOk.of_frame {s : RenderSystem} (hok : RenderOk s) (hframe : SameFrame s s')
    (hmoves : ∀ k, Move s.root k (view s k) (view s' k)) : Proceeds s s' := by
  refine hok.of_moves hframe.root hframe.store hframe.issued hmoves ?_ ?_
  · intro poll hmem
    rw [hframe.polls] at hmem
    exact Or.inl hmem
  · intro restart hr
    rw [hframe.restart] at hr
    exact Or.inl hr

theorem sameFrame_rfl (s : RenderSystem) : SameFrame s s := ⟨rfl, rfl, rfl, rfl, rfl⟩

theorem sameFrame_spawn (s : RenderSystem) (jobId : String) : SameFrame s (s.spawn jobId) := by
  unfold spawn
  split
  · exact ⟨rfl, rfl, rfl, rfl, rfl⟩
  · exact sameFrame_rfl s

theorem sameFrame_registerTask (s : RenderSystem) (jobId : String) : SameFrame s (s.registerTask jobId) := by
  unfold registerTask
  split
  · exact sameFrame_rfl s
  · exact ⟨rfl, rfl, rfl, rfl, rfl⟩

theorem sameFrame_workerStart (s : RenderSystem) (jobId : String) : SameFrame s (s.workerStart jobId) := by
  unfold workerStart admitWorker
  split
  · exact ⟨rfl, rfl, rfl, rfl, rfl⟩
  · split
    · split
      · exact ⟨rfl, rfl, rfl, rfl, rfl⟩
      · split
        · exact ⟨rfl, rfl, rfl, rfl, rfl⟩
        · exact ⟨rfl, rfl, rfl, rfl, rfl⟩
    · exact sameFrame_rfl s
  · exact sameFrame_rfl s

theorem sameFrame_prepareWorker (s : RenderSystem) (jobId : String) (workspace : Nat) (call : DispatchCall) (o : PrepareOutcome) :
    SameFrame s (s.prepareWorker jobId workspace call o) := by
  have hstore := projectRoot_prepareDispatch call o (s.coordinator workspace)
  unfold prepareWorker
  generalize prepareDispatch call o (s.coordinator workspace) = result at hstore ⊢
  cases result with
  | ok h c => exact ⟨rfl, hstore, rfl, rfl, rfl⟩
  | error e c => exact ⟨rfl, hstore, rfl, rfl, rfl⟩

theorem sameFrame_workerPrepare (s : RenderSystem) (jobId : String) (o : PrepareOutcome) :
    SameFrame s (s.workerPrepare jobId o) := by
  unfold workerPrepare
  split
  · exact sameFrame_rfl s
  · split
    · exact sameFrame_prepareWorker s jobId _ _ o
    · exact sameFrame_rfl s

theorem sameFrame_workerAnswer (s : RenderSystem) (jobId : String) (o : ConcludeOutcome) :
    SameFrame s (s.workerAnswer jobId o) := by
  unfold workerAnswer
  split
  · next workspace h _ =>
    have hstore := projectRoot_concludeDispatch h o (s.coordinator workspace)
    unfold answerWorker
    generalize concludeDispatch h o (s.coordinator workspace) = result at hstore ⊢
    cases result with
    | ok response c => exact ⟨rfl, hstore, rfl, rfl, rfl⟩
    | error e c => exact ⟨rfl, hstore, rfl, rfl, rfl⟩
  · exact sameFrame_rfl s

theorem sameFrame_workerFinish (s : RenderSystem) (jobId : String) : SameFrame s (s.workerFinish jobId) := by
  unfold workerFinish
  split
  · exact ⟨rfl, rfl, rfl, rfl, rfl⟩
  · exact sameFrame_rfl s

/-! ## Polls and cancellations -/

theorem moves_reconcileJob {s : RenderSystem} {run : Option RunRecord}
    (hrun : Open (s.jobs.get jobId) → (run = none ∧ s.store.runs.get jobId = none ∧ s.stageOf jobId = none) ∨
      ∃ r, run = some r ∧ r.status.isActive = false ∧ ReadFits s jobId r) :
    ∀ k, Move s.root k (view s k) (view (s.reconcileJob jobId run) k) := by
  refine moves_of_at jobId (fun k hk => ?_) ?_
  · exact (view_updateJob s jobId _ _ k).trans (if_neg hk)
  · rw [show view (s.reconcileJob jobId run) jobId = _ from (view_updateJob s jobId _ _ jobId).trans (if_pos rfl)]
    refine Move.reconcile _ _ _ _ _ fun hopen => ?_
    rcases hrun hopen with ⟨rfl, hnone, hstage⟩ | ⟨r, rfl, hended, hread⟩
    · exact Or.inl ⟨rfl, hnone, hstage⟩
    · obtain ⟨r', hr', hstatus⟩ := hread hended
      exact Or.inr ⟨r', hr', by rw [hstatus]; rfl, by rw [hstatus]; exact hended⟩

theorem moves_expire (s : RenderSystem) (expired : RenderJob → Bool) : ∀ k, Move s.root k (view s k)
      (view { s with jobs := s.jobs.delete (fun j => renderJobIsTerminal j.status && expired j) } k) := by
  intro k
  unfold view
  simp only [get_delete]
  rcases s.jobs.get k with _ | j
  · exact Move.stay _
  · rw [Option.filter_some]
    split
    · exact Move.stay _
    · next hgone =>
      simp only [Bool.not_eq_true', Bool.not_eq_false, Bool.and_eq_true] at hgone
      exact Move.drop j _ _ hgone.1

theorem proceeds_pollRead {s : RenderSystem} (hok : RenderOk s) (jobId : String) (expired : RenderJob → Bool) :
    Proceeds s (s.pollRead jobId expired) := by
  have hexpire : Proceeds s { s with jobs := s.jobs.delete (fun j => renderJobIsTerminal j.status && expired j) } :=
    hok.of_frame ⟨rfl, rfl, rfl, rfl, rfl⟩ (moves_expire s expired)
  unfold pollRead
  simp only
  split
  · next run _ hrun =>
    refine hexpire.trans (hexpire.ok.of_moves rfl rfl rfl (fun k => Move.stay _) ?_ fun restart hr => Or.inl hr)
    intro poll hpoll
    rcases List.mem_cons.mp hpoll with rfl | hold
    · exact Or.inr fun _ => ⟨run, (Option.filter_eq_some_iff.mp hrun).1, rfl⟩
    · exact Or.inl hold
  · exact hexpire

theorem proceeds_pollReconcile {s : RenderSystem} (hok : RenderOk s) (jobId : String) (run : RunRecord)
    (hspares : RenderSpares s (.pollReconcile jobId run)) : Proceeds s (s.pollReconcile jobId run) := by
  unfold pollReconcile
  split
  · next hmem =>
    refine hok.of_moves rfl rfl rfl (moves_reconcileJob fun hopen => ?_) ?_ fun restart hr => Or.inl hr
    · obtain ⟨job, hjob, hterm⟩ := hopen
      exact Or.inr ⟨run, rfl, hspares job hjob hterm, hok.polls _ hmem⟩
    · intro poll hpoll
      exact Or.inl (List.mem_of_mem_erase hpoll)
  · exact hok.proceeds

/-- A job that is open is marked. -/
theorem moves_cancel {s : RenderSystem} (hstatus : renderJobIsTerminal status = false)
    (hjob : ((s.jobs.get jobId).filter (fun j => j.projectRoot = s.root)).map RenderJob.status = some status) :
    ∀ k, Move s.root k (view s k)
      (view (s.updateJob jobId (fun j => { j with status := .cancelRequested }) (fun _ => rfl)) k) := by
  obtain ⟨j, hj, hjs⟩ := Option.map_eq_some_iff.mp hjob
  have hget := (Option.filter_eq_some_iff.mp hj).1
  refine moves_of_at jobId (fun k hk => ?_) ?_
  · rw [view_updateJob, if_neg hk]
  · rw [view_updateJob, if_pos rfl]
    unfold view
    rw [hget]
    exact Move.mark j _ _ _ (by rw [hjs]; exact hstatus) rfl

theorem proceeds_cancelJob {s : RenderSystem} (hok : RenderOk s) (jobId : String) : Proceeds s (s.cancelJob jobId) := by
  unfold cancelJob
  split
  · next hjob => exact hok.of_frame ⟨rfl, rfl, rfl, rfl, rfl⟩ (moves_cancel rfl hjob)
  · next hjob => exact hok.of_frame ⟨rfl, rfl, rfl, rfl, rfl⟩ (moves_cancel rfl hjob)
  · exact hok.proceeds

/-- The rows of the runs are changed one by one: the status of each stays, or it was active and no worker waits for R. -/
theorem moves_rerun {s : RenderSystem} (g : RunRecord → RunRecord) (hjobs : s'.jobs = s.jobs) (hworkers : s'.workers = s.workers)
    (hget : ∀ k, s'.store.runs.get k = (s.store.runs.get k).map g)
    (hg : ∀ k r, s.store.runs.get k = some r → (g r).projectRoot = r.projectRoot ∧
      ((g r).status = r.status ∨ r.status.isActive = true ∧ ∀ st, s.stageOf k = some st → st.isExecuting = false)) :
    ∀ k, Move s.root k (view s k) (view s' k) := by
  intro k
  unfold view
  rw [hjobs, hworkers, hget]
  cases hr : s.store.runs.get k with
  | none => exact Move.stay _
  | some r => exact Move.rerun _ _ r (g r) (hg k r hr).1 (hg k r hr).2

/-- The mark of a cancellation leaves the status of the run. -/
theorem moves_requestCancel {s : RenderSystem} (projectRoot runId : String) (hjobs : s'.jobs = s.jobs)
    (hworkers : s'.workers = s.workers) (hstore : s'.store = (s.store.requestCancel projectRoot runId).1) :
    ∀ k, Move s.root k (view s k) (view s' k) := by
  refine moves_rerun (fun r => if decide (r.projectRoot = projectRoot) && decide (r.runId = runId) && r.status.isActive then
    { r with cancelRequested := true, terminalReason := some "cancel_requested" } else r) hjobs hworkers (fun k => ?_) fun k r _ => ?_
  · rw [hstore]
    exact get_update s.store.runs _
      (fun r => { r with cancelRequested := true, terminalReason := some "cancel_requested" }) (fun _ => rfl) k
  · split
    · exact ⟨rfl, Or.inl rfl⟩
    · exact ⟨rfl, Or.inl rfl⟩

theorem proceeds_cancelRun {s : RenderSystem} (hok : RenderOk s) (jobId : String) : Proceeds s (s.cancelRun jobId) := by
  unfold cancelRun
  split
  · exact hok.of_frame ⟨rfl, rfl, rfl, rfl, rfl⟩ (moves_requestCancel s.root jobId rfl rfl rfl)
  · exact hok.proceeds

/-! ## A new job -/

theorem proceeds_submit {s : RenderSystem} (hok : RenderOk s) (jobId : String) (request : RenderRequest) :
    Proceeds s (s.submit jobId request) := by
  unfold submit
  split
  · exact hok.proceeds
  next hunused =>
  obtain ⟨hunissued, hrun⟩ := not_or.mp hunused
  have hnorun : s.store.runs.get jobId = none := by simpa using hrun
  split
  · next jobs workers hjobs hworkers =>
    have hview : ∀ k, k ≠ jobId → view { s with jobs, workers, issued := jobId :: s.issued } k = view s k := by
      intro k hk
      simp only [view, get_insert hjobs, get_insert hworkers, if_neg (Ne.symm hk)]
    -- The restart and everything that has ended are about jobs that were issued before.
    have hold : ∀ k ∈ s.issued, view { s with jobs, workers, issued := jobId :: s.issued } k = view s k := by
      intro k hk
      refine hview k ?_
      intro heq
      exact hunissued (heq ▸ hk)
    refine ⟨⟨hok.root, ?_, ?_, hok.polls, ?_, ?_⟩, fun k hk => List.mem_cons_of_mem _ hk, ?_⟩
    · intro k
      by_cases hk : k = jobId
      · subst hk
        simp only [view, get_insert hjobs, get_insert hworkers, if_true]
        refine ⟨?_, ?_, ?_⟩
        · intro stage hstage
          cases hstage
          exact ⟨hnorun, open_of_not_terminal rfl⟩
        · intro job hjob hterm
          cases hjob
          cases hterm
        · intro _ r hr
          rw [hnorun] at hr
          cases hr
      · rw [hview k hk]
        exact hok.fits k
    · intro k hthere
      by_cases hk : k = jobId
      · exact List.mem_cons.mpr (Or.inl hk)
      · refine List.mem_cons_of_mem _ (hok.issued k ?_)
        rw [get_insert hjobs, if_neg (Ne.symm hk)] at hthere
        exact hthere
    · intro restart hr k hk
      exact List.mem_cons_of_mem _ (hok.marked restart hr k hk)
    · intro restart hr
      refine (hok.restart restart hr).later fun k hk => ?_
      rw [hold k (hok.marked restart hr k hk)]
      have hstay : Move s.root k (view s k) (view s k) := Move.stay _
      exact hstay.later (hok.fits k)
    · intro k hk status _ hfrozen
      rw [hold k hk]
      exact hfrozen
  · exact hok.proceeds

/-! ## A restart -/

/-- A step of the restart that is under way. -/
theorem RenderOk.of_restart {s : RenderSystem} (hok : RenderOk s) {restart : Restart} (hrestart : s.restart = some restart)
    (hroot : s'.root = s.root) (hstore : s'.store.projectRoot = s.store.projectRoot)
    (hissued : s'.issued = s.issued) (hpolls : s'.polls = s.polls) (hstage : s'.restart = some { restart with stage })
    (hmoves : ∀ k, Move s.root k (view s k) (view s' k)) (hfits : RestartFits s' restart.jobIds stage) : Proceeds s s' := by
  refine hok.of_moves hroot hstore hissued hmoves ?_ ?_
  · intro poll hpoll
    rw [hpolls] at hpoll
    exact Or.inl hpoll
  · intro restart' hr
    rw [hstage] at hr
    cases hr
    exact Or.inr ⟨hok.marked restart hrestart, hfits⟩

theorem proceeds_restartMark {s : RenderSystem} (hok : RenderOk s) : Proceeds s s.restartMark := by
  unfold restartMark
  split
  · exact hok.proceeds
  · refine hok.of_moves rfl rfl rfl ?_ (fun poll hpoll => Or.inl hpoll) ?_
    · intro k
      simp only [view, get_update]
      cases s.jobs.get k with
      | none => exact Move.stay _
      | some j =>
        simp only [Option.map_some]
        split
        · next hunfinished =>
          simp only [unfinished, Bool.and_eq_true, Bool.not_eq_true'] at hunfinished
          exact Move.mark j _ _ _ hunfinished.2 rfl
        · exact Move.stay _
    · intro restart hr
      cases hr
      refine Or.inr ⟨?_, trivial⟩
      intro jobId hmem
      obtain ⟨j, hj, rfl⟩ := List.mem_map.mp hmem
      refine hok.issued j.jobId ?_
      rw [get_of_mem (List.mem_of_mem_filter hj)]
      exact Option.some_ne_none _

/-- The worker of a stage that is there. -/
theorem exists_worker {s : RenderSystem} (h : s.stageOf jobId ≠ none) : ∃ w, s.workers.get jobId = some w := by
  cases hw : s.workers.get jobId with
  | none => exact absurd (by rw [stageOf, hw]; rfl) h
  | some w => exact ⟨w, rfl⟩

section Stages

variable {s : RenderSystem} {restart : Restart}

theorem proceeds_collect (hok : RenderOk s) (hrestart : s.restart = some restart) (hstage : restart.stage = .marked)
    (hspares : RenderSpares s .restartNext) : Proceeds s (s.restartNext restart) := by
  have hregistered := hspares restart hrestart
  rw [hstage] at hregistered
  simp only [restartNext, hstage]
  refine hok.of_restart hrestart rfl rfl rfl rfl rfl (moves_register (collects restart.jobIds) false rfl rfl rfl) ?_
  · intro jobId hmem hthere
    have hworker : s.stageOf jobId ≠ none := by
      intro hnone
      refine hthere (Eq.trans (congrArg JobView.stage (view_register (collects restart.jobIds) false ?_ ?_ ?_ jobId)) hnone)
        <;> rfl
    obtain ⟨w, hw⟩ := exists_worker hworker
    have hid : w.jobId = jobId := key_of_get hw
    refine List.mem_map.mpr ⟨w, List.mem_filter.mpr ⟨mem_of_get hw, ?_⟩, hid⟩
    simp [collects, hid, hmem, hregistered jobId hmem w hw]

theorem proceeds_cancelLatest (hok : RenderOk s) (hrestart : s.restart = some restart) {tasks : List String}
    (hstage : restart.stage = .collected tasks) : Proceeds s (s.restartNext restart) := by
  have hfits := hok.restart restart hrestart
  rw [hstage] at hfits
  simp only [restartNext, hstage]
  cases s.latestActiveRunId with
  | none => exact hok.of_restart hrestart rfl rfl rfl rfl rfl (fun k => Move.stay _) hfits
  | some runId =>
    refine hok.of_restart hrestart rfl rfl rfl rfl rfl ?_ hfits
    exact moves_requestCancel s.root runId rfl rfl rfl

theorem proceeds_take (hok : RenderOk s) (hrestart : s.restart = some restart) {tasks : List String}
    (hstage : restart.stage = .runCancelled tasks) : Proceeds s (s.restartNext restart) := by
  have hfits := hok.restart restart hrestart
  rw [hstage] at hfits
  simp only [restartNext, hstage]
  exact hok.of_restart hrestart rfl rfl rfl rfl rfl (fun k => Move.stay _) hfits

theorem proceeds_abort (hok : RenderOk s) (hrestart : s.restart = some restart) {tasks : List String} {workspace : Option Nat}
    (hstage : restart.stage = .taken tasks workspace) : Proceeds s (s.restartNext restart) := by
  have hfits := hok.restart restart hrestart
  rw [hstage] at hfits
  simp only [restartNext, hstage]
  have hdelete : ∀ k, (s.workers.delete (fun w => w.jobId ∈ tasks)).get k = if k ∈ tasks then none else s.workers.get k := by
    intro k
    rw [get_delete]
    cases hw : s.workers.get k with
    | none => simp
    | some w =>
      have hid : w.jobId = k := key_of_get hw
      by_cases hk : k ∈ tasks
      · simp [hid, hk]
      · simp [hid, hk]
  refine hok.of_restart hrestart rfl rfl rfl rfl rfl (fun k => ?_) ?_
  · simp only [view, hdelete]
    split
    · exact Move.abort _ _ _
    · exact Move.stay _
  · intro jobId hmem
    simp only [stageOf, hdelete]
    split
    · rfl
    · next hnot => exact Classical.byContradiction fun hthere => hnot (hfits jobId hmem hthere)

theorem proceeds_stop (hok : RenderOk s) (hrestart : s.restart = some restart) {workspace : Option Nat}
    (hstage : restart.stage = .aborted workspace) : Proceeds s (s.restartNext restart) := by
  have hfits := hok.restart restart hrestart
  rw [hstage] at hfits
  simp only [restartNext, hstage]
  split
  · exact hok.of_restart hrestart rfl rfl rfl rfl rfl (fun k => Move.stay _) hfits
  · exact hok.proceeds

/-- Every run that was active is interrupted. -/
theorem get_recoverIncompleteRuns (store : Store) (k : String) :
    store.recoverIncompleteRuns.runs.get k = (store.runs.get k).map (fun r => if r.status.isActive then
      { r with
        status := .interrupted
        terminalReason := some (if r.cancelRequested then "cancelled_during_restart" else "broker_restart")
        cancelRequested := false } else r) := by
  rw [Store.recoverIncompleteRuns, get_update]

theorem proceeds_recover (hok : RenderOk s) (hrestart : s.restart = some restart) (hstage : restart.stage = .stopped)
    (hspares : RenderSpares s .restartNext) : Proceeds s (s.restartNext restart) := by
  have hfits := hok.restart restart hrestart
  have hwaits := hspares restart hrestart
  rw [hstage] at hfits hwaits
  have hnormal : normalizeProjectRoot s.root = s.store.projectRoot := by
    rw [← hok.root]
    exact s.store.normalized
  simp only [restartNext, hstage]
  refine hok.of_restart hrestart rfl hnormal rfl rfl rfl (moves_rerun _ rfl rfl (get_recoverIncompleteRuns s.store) ?_) ?_
  · intro k r hr
    split
    · next hactive =>
      refine ⟨rfl, Or.inr ⟨hactive, ?_⟩⟩
      intro st hst
      obtain ⟨w, hw, rfl⟩ := Option.map_eq_some_iff.mp hst
      exact hwaits k w hw
    · exact ⟨rfl, Or.inl rfl⟩
  · intro jobId hmem
    refine ⟨hfits jobId hmem, ?_⟩
    intro r hr
    have hr' : s.store.recoverIncompleteRuns.runs.get jobId = some r := hr
    rw [get_recoverIncompleteRuns] at hr'
    obtain ⟨r₀, -, rfl⟩ := Option.map_eq_some_iff.mp hr'
    split
    · rfl
    · next hended => simpa using hended

theorem proceeds_readRuns (hok : RenderOk s) (hrestart : s.restart = some restart) (hstage : restart.stage = .started) :
    Proceeds s (s.restartNext restart) := by
  have hfits := hok.restart restart hrestart
  rw [hstage] at hfits
  simp only [restartNext, hstage]
  refine hok.of_restart hrestart rfl rfl rfl rfl rfl (fun k => Move.stay _) ?_
  intro read hread
  obtain ⟨jobId, hmem, rfl⟩ := List.mem_map.mp hread
  obtain ⟨hnone, hended⟩ := hfits jobId hmem
  refine ⟨hmem, hnone, ?_⟩
  intro job hjob
  -- A job's run belongs to the open project, so the read has found it.
  have hroot := (hok.fits jobId).root (Or.inl (by rw [show (view s jobId).job = some job from hjob]; exact Option.some_ne_none _))
  cases hr : s.store.runs.get jobId with
  | none =>
    rw [show s.getRunDetail jobId = none by rw [getRunDetail, hr]; rfl]
  | some r =>
    have hfound : s.getRunDetail jobId = some r := by
      rw [getRunDetail, hr, Option.filter_some, decide_eq_true (hroot r hr)]
      rfl
    rw [hfound]
    exact ⟨hended r hr, fun _ => ⟨r, hr, rfl⟩⟩

/-- The jobs of a restart are reconciled with the runs that it has read. -/
theorem proceeds_reconcileAll (jobIds : List String) (runs : List (String × Option RunRecord)) {s : RenderSystem} (hok : RenderOk s)
    (hfits : RestartFits s jobIds (.read runs)) :
    Proceeds s (runs.foldl (fun s read => s.reconcileJob read.1 read.2) s) := by
  induction runs generalizing s with
  | nil => exact hok.proceeds
  | cons read runs ih =>
    obtain ⟨-, hnone, hread⟩ := hfits read List.mem_cons_self
    have hmoves : ∀ k, Move s.root k (view s k) (view (s.reconcileJob read.1 read.2) k) := by
      refine moves_reconcileJob fun hopen => ?_
      obtain ⟨job, hjob, -⟩ := hopen
      have hrun := hread job hjob
      rcases hr : read.2 with _ | r
      · rw [hr] at hrun
        exact Or.inl ⟨rfl, hrun, hnone⟩
      · rw [hr] at hrun
        exact Or.inr ⟨r, rfl, hrun.1, hrun.2⟩
    have hfirst : Proceeds s (s.reconcileJob read.1 read.2) := hok.of_frame ⟨rfl, rfl, rfl, rfl, rfl⟩ hmoves
    refine hfirst.trans (ih hfirst.ok ?_)
    have hrest : RestartFits s jobIds (.read runs) := fun read' hread' => hfits read' (List.mem_cons_of_mem _ hread')
    exact hrest.later fun k _ => (hmoves k).later (hok.fits k)

/-- The restart is over, with the workspace that it leaves. -/
theorem proceeds_over (hok : RenderOk s) (workspace : Option Nat) :
    Proceeds s { s with workspace, restart := none } := by
  refine hok.of_moves rfl rfl rfl (fun k => Move.stay _) (fun poll hpoll => Or.inl hpoll) ?_
  intro restart hr
  cases hr

theorem proceeds_restartNext (hok : RenderOk s) (hrestart : s.restart = some restart) (hspares : RenderSpares s .restartNext) :
    Proceeds s (s.restartNext restart) := by
  cases hstage : restart.stage with
  | marked => exact proceeds_collect hok hrestart hstage hspares
  | collected tasks => exact proceeds_cancelLatest hok hrestart hstage
  | runCancelled tasks => exact proceeds_take hok hrestart hstage
  | taken tasks workspace => exact proceeds_abort hok hrestart hstage
  | aborted workspace => exact proceeds_stop hok hrestart hstage
  | stopped => exact proceeds_recover hok hrestart hstage hspares
  | started => exact proceeds_readRuns hok hrestart hstage
  | read runs =>
    have hfits := hok.restart restart hrestart
    rw [hstage] at hfits
    have hall := proceeds_reconcileAll restart.jobIds runs hok hfits
    simp only [restartNext, hstage]
    exact hall.trans (proceeds_over hall.ok _)

theorem proceeds_restartFail (hok : RenderOk s) (restart : Restart) : Proceeds s (s.restartFail restart) := by
  unfold restartFail
  split
  · exact proceeds_over hok _
  · exact proceeds_over hok _

end Stages

/-! ## Every run -/

theorem proceeds_step {s : RenderSystem} (hok : RenderOk s) (l : RenderStep) (hspares : RenderSpares s l) :
    Proceeds s (s.step l) := by
  cases l with
  | submit jobId request => exact proceeds_submit hok jobId request
  | spawn jobId => exact hok.of_frame (sameFrame_spawn s jobId) (moves_spawn s jobId)
  | registerTask jobId => exact hok.of_frame (sameFrame_registerTask s jobId) (moves_registerTask s jobId)
  | workerStart jobId => exact hok.of_frame (sameFrame_workerStart s jobId) (moves_workerStart s jobId)
  | workerPrepare jobId o =>
    exact hok.of_frame (sameFrame_workerPrepare s jobId o) (moves_workerPrepare s jobId o hok.root hspares)
  | workerAnswer jobId o =>
    exact hok.of_frame (sameFrame_workerAnswer s jobId o) (moves_workerAnswer s jobId o (hok.fits jobId) hspares)
  | workerFinish jobId => exact hok.of_frame (sameFrame_workerFinish s jobId) (moves_workerFinish s jobId hspares)
  | pollRead jobId expired => exact proceeds_pollRead hok jobId expired
  | pollReconcile jobId run => exact proceeds_pollReconcile hok jobId run hspares
  | cancelJob jobId => exact proceeds_cancelJob hok jobId
  | cancelRun jobId => exact proceeds_cancelRun hok jobId
  | restartMark => exact proceeds_restartMark hok
  | restartNext =>
    simp only [step]
    cases hrestart : s.restart with
    | none => exact hok.proceeds
    | some restart => exact proceeds_restartNext hok hrestart hspares
  | restartFail =>
    simp only [step]
    cases s.restart with
    | none => exact hok.proceeds
    | some restart => exact proceeds_restartFail hok restart

theorem proceeds_after {s : RenderSystem} {trace : List RenderStep} (hok : RenderOk s)
    (hspares : Run.Along step RenderSpares s trace) : Proceeds s (Run.after step s trace) := by
  induction trace generalizing s with
  | nil => exact hok.proceeds
  | cons l trace ih =>
    have hstep := proceeds_step hok l hspares.1
    exact hstep.trans (ih hstep.ok hspares.2)

theorem renderOk_start (store : Store) (projectRoot : String) (broker : BrokerState) :
    RenderOk (.start store projectRoot broker) := by
  have hstore : ∀ root, (store.setProjectRoot (some root)).projectRoot = normalizeProjectRoot root := fun _ => rfl
  have hroot : (start store projectRoot broker).store.projectRoot = normalizeProjectRoot projectRoot := by
    rw [← normalizeProjectRoot_idem projectRoot]
    exact hstore (normalizeProjectRoot projectRoot)
  refine ⟨hroot, ?_, ?_, ?_, ?_, ?_⟩
  · intro k
    refine ⟨fun _ h => (nomatch h), fun _ h => (nomatch h), ?_⟩
    rintro (h | h)
    · exact absurd rfl h
    · exact absurd rfl h
  · intro k h
    exact absurd rfl h
  · intro poll h
    cases h
  · intro restart h
    cases h
  · intro restart h
    cases h

end RenderAux

/-! ## The theorem -/

/-- In every run of steps that go right, a job that has ended stays as it is and agrees with its run. -/
theorem render_jobs_settle (store : Store) (projectRoot : String) (broker : BrokerState) {trace : List RenderStep}
    (hspares : Run.Along RenderSystem.step RenderSpares (.start store projectRoot broker) trace) :
    StaysSettled (.start store projectRoot broker) trace := by
  intro before later rest htrace jobId job hjob hterm
  rw [htrace, Run.along_append, Run.along_append] at hspares
  obtain ⟨⟨hbefore, hlater⟩, -⟩ := hspares
  have hok := (RenderAux.proceeds_after (RenderAux.renderOk_start store projectRoot broker) hbefore).ok
  have hissued : jobId ∈ (Run.after RenderSystem.step (.start store projectRoot broker) before).issued :=
    hok.issued jobId (by rw [hjob]; exact Option.some_ne_none _)
  have hfrozen := (RenderAux.proceeds_after hok hlater).frozen jobId hissued job.status hterm
    ((hok.fits jobId).frozen hjob hterm)
  rw [Run.after_append]
  refine ⟨hfrozen.job, ?_⟩
  intro run hrun
  rcases hfrozen.run with ⟨hnone, -⟩ | ⟨r, hr, hagrees⟩
  · rw [show (RenderAux.view _ jobId).run = some run from hrun] at hnone
    cases hnone
  · rw [show (RenderAux.view _ jobId).run = some run from hrun] at hr
    cases hr
    exact hagrees

/-! A document is rendered in a new workspace. -/

def renderStart : RenderSystem :=
  .start { runs := .empty _, environmentOperations := .empty _, approvals := .empty _, projectRoot := "", normalized := rfl, identity := none }
    "/project" ⟨⟨"ws", "kernel", 0, 0, 0⟩⟩

/-- The job is submitted, and R has its code. -/
def renderHandover : List RenderStep :=
  [.submit "job" ⟨"/project/report.qmd", "report.qmd", none⟩, .spawn "job", .registerTask "job", .workerStart "job",
    .workerPrepare "job" ⟨"fresh", fun _ => none⟩]

/-- The dispatch has failed. -/
def WorkerStage.failed : WorkerStage → Bool
  | .answered _ (.error _) => true
  | _ => false

/-- Rendered without a poll, the job completes with its run. -/
theorem render_jobs_settle_completed :
    let trace := renderHandover ++ [.workerAnswer "job" ⟨.finished (.obj [("ok", .bool true)]), fun _ => none⟩, .workerFinish "job"]
    ((Run.after RenderSystem.step renderStart trace).jobs.get "job").map (·.status) = some .completed ∧
      StaysSettled renderStart trace := by
  refine ⟨by decide +kernel, render_jobs_settle _ _ _ ?_⟩
  refine ⟨trivial, trivial, trivial, trivial, ⟨rfl, rfl⟩, ⟨rfl, ?_⟩, ?_, trivial⟩
  · intro result hresult
    cases hresult
    exact ⟨rfl, fun _ => ⟨rfl, rfl, rfl, rfl⟩⟩
  · intro w workspace e job run hw hstage
    -- The dispatch has returned a response.
    have hanswered : ((Run.after RenderSystem.step renderStart
        (renderHandover ++ [.workerAnswer "job" ⟨.finished (.obj [("ok", .bool true)]), fun _ => none⟩])).workers.get "job").map
          (·.stage.failed) = some false := by
      decide +kernel
    have hget : (Run.after RenderSystem.step renderStart
        (renderHandover ++ [.workerAnswer "job" ⟨.finished (.obj [("ok", .bool true)]), fun _ => none⟩])).workers.get "job" =
          some w := hw
    rw [hget, Option.map_some, hstage] at hanswered
    cases hanswered

/-- A poll while R renders reads a run that is running, and ends the job as interrupted. -/
theorem render_job_interrupted_by_poll :
    let run : RunRecord :=
      { runId := "job", projectRoot := "/project", origin := .user, requestType := "workspace.render_document",
        operationClass := .projectMutation, code := "render /project/report.qmd", status := .running, terminalReason := none,
        cancelRequested := false, workspaceId := "ws", stateRevisionBefore := 0, projectRevisionBefore := 0,
        stateRevisionAfter := none, projectRevisionAfter := none }
    let trace := renderHandover ++ [.pollRead "job" (fun _ => false), .pollReconcile "job" run]
    (Run.after RenderSystem.step renderStart trace).store.runs.get "job" = some run ∧
      ((Run.after RenderSystem.step renderStart trace).jobs.get "job").map (·.status) = some .interrupted ∧
      ¬StaysSettled renderStart trace := by
  intro run trace
  have hrun : (Run.after RenderSystem.step renderStart trace).store.runs.get "job" = some run := by decide +kernel
  have hjob : (Run.after RenderSystem.step renderStart trace).jobs.get "job" =
      some { jobId := "job", projectRoot := "/project", status := .interrupted,
             terminalReason := some "workspace_restart_before_start" } := by decide +kernel
  refine ⟨hrun, by rw [hjob]; rfl, ?_⟩
  intro hstays
  have hsettled := hstays trace [] [] (by simp) "job" _ hjob rfl
  rw [List.append_nil] at hsettled
  cases hsettled.2 run hrun

end Rho
