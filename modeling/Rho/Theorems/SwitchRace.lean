import Rho.Desktop.SwitchRace
import Rho.Theorems.Switch
import Mathlib.Data.Fintype.Basic

/-!
# Which project a command works in

A switch sends R to the target, then commits the target to the store, then shows it, and holds the transition gate all the while;
only the applications of file proposals ask for that gate. What is executed is recorded under the project that R is in, and in
the project it was submitted in, as long as no `execute_r` and no render that the switch has not seen is under way while R and
the store are apart, and R does what its answers say.
-/

namespace Rho

open Effect DispatchAux AppState Table

/-! ## What is claimed -/

/-- A run is recorded under R's project, and nothing has been committed after the project that was shown when the command was
submitted. -/
def Execution.Sound : Execution → Prop
  | .run recordedRoot workingDirectory submitted commits =>
    recordedRoot = some (normalizeProjectRoot workingDirectory) ∧ submitted = commits
  | .write submitted commits => submitted = commits

/-! ## The condition -/

/-- The answer of R arrives, and nothing fails after it. -/
def SyncOutcome.Answered (o : SyncOutcome) : Prop :=
  (∃ result, o.conclude.kernel = .finished result) ∧ (∀ step, o.conclude.fault step = none) ∧ o.recovery = none

/-- R has changed its directory exactly when its answer arrives. -/
def SyncOutcome.Honest (o : SyncOutcome) : Prop :=
  if o.carriedOut then o.Answered else ∀ result, o.conclude.kernel ≠ .finished result

/-- A render is listed for the project it has read, and that project is still the last committed. -/
def ReadsOpen (s : ProjectSession) (r : RenderCall) : RenderCallStage → Prop
  | .read root => r.submitted = s.commits ∧ normalizeProjectRoot root = s.app.store.projectRoot
  | .waiting | .started | .executing _ | .answered _ => True

/-- The next step of the switch goes right. -/
def SwitchSpares (s : ProjectSession) (run : SwitchRun) : SwitchStage → Prop
  -- No call of `execute_r` waits for the coordinator when R is asked to go to the target.
  | .ready => ∀ callId c, s.calls.get callId = some c → c.stage.isWaiting = false
  | .syncing _ => run.outcome.sync.Honest
  -- Nothing fails before the store has the target.
  | .synced => workspaceCandidateFault run.outcome s.app = none ∧ run.outcome.fault .startWatcher = none
  | .watched => run.outcome.fault .setStoreRoot = none
  -- The way back succeeds.
  | .restoring => ∃ h app, beginSync run.previousRoot run.outcome.restore s.app = .ok h app
  | .restoringDirectory _ => run.outcome.restore.carriedOut = true ∧ run.outcome.restore.Answered
  | .restoringStore => run.outcome.fault .restoreStoreRoot = none
  | .entered | .runsChecked _ | .rendersChecked _ | .stored | .saved => True

/-- The steps that go right. -/
def SessionSpares (s : ProjectSession) : ProjectStep → Prop
  -- Nothing is executed by hand from the moment R is asked to go to the target.
  | .submitExecute _ _ => ∀ run, s.switch = some run → run.stage.pastSync = false
  -- No job is listed behind the back of a switch, or for a project that has been left since.
  | .listRender jobId =>
    (∀ run, s.switch = some run → run.stage.pastRenders = false) ∧ ∀ r, s.renders.get jobId = some r → ReadsOpen s r r.stage
  -- An application that has waited through a switch does not find its project open again.
  | .registerApply claimId =>
    ∀ a, s.applies.get claimId = some a → a.submitted = s.commits ∨ a.turnRoot ≠ normalizeProjectRoot s.app.projectRoot
  | .switchNext => ∀ run, s.switch = some run → SwitchSpares s run run.stage
  | _ => True

namespace RaceAux

/-! ## The invariant -/

/-- R, the store and what is shown are at one project. -/
def Together (r : ProjectRoots) : Prop :=
  normalizeProjectRoot r.workingDirectory = r.storeRoot ∧ normalizeProjectRoot r.projectRoot = r.storeRoot

/-- Where the roots are at each stage of a switch. -/
def RootsFit (run : SwitchRun) (r : ProjectRoots) : SwitchStage → Prop
  | .entered | .ready | .syncing _ => Together r
  | .runsChecked root | .rendersChecked root => Together r ∧ root = r.storeRoot
  | .synced | .watched => normalizeProjectRoot r.workingDirectory = normalizeProjectRoot run.target
  | .stored | .saved | .restoring | .restoringDirectory _ =>
    normalizeProjectRoot r.workingDirectory = normalizeProjectRoot run.target ∧ r.storeRoot = normalizeProjectRoot run.target
  | .restoringStore => normalizeProjectRoot r.workingDirectory = normalizeProjectRoot run.previousRoot

/-- The switch has looked at the claims. -/
def pastClaims : SwitchStage → Bool
  | .entered | .runsChecked _ | .rendersChecked _ => false
  | .ready => true
  | .syncing _ | .synced | .watched | .stored | .saved | .restoring | .restoringDirectory _ | .restoringStore => true

/-- R has answered that it has gone to the target. -/
def pastAnswer : SwitchStage → Bool
  | .entered | .runsChecked _ | .rendersChecked _ | .ready | .syncing _ => false
  | .synced | .watched | .stored | .saved | .restoring | .restoringDirectory _ | .restoringStore => true

def NoCalls (s : ProjectSession) : Prop := ∀ callId, s.calls.get callId = none

def NoRenders (s : ProjectSession) : Prop := ∀ jobId r, s.renders.get jobId = some r → r.stage.isListed = false

def NoClaims (s : ProjectSession) : Prop := ∀ claimId a, s.applies.get claimId = some a → a.stage.claimedRoot = none

structure SwitchFits (s : ProjectSession) (run : SwitchRun) : Prop where
  previous : run.previousRoot = s.app.projectRoot
  previousStore : (run.previousStoreRoot.map normalizeProjectRoot).getD "" = normalizeProjectRoot s.app.projectRoot
  roots : RootsFit run s.app.roots run.stage
  shown : pastAnswer run.stage = false → s.shown = s.commits
  renders : run.stage.pastRenders = true → NoRenders s
  claims : pastClaims run.stage = true → NoClaims s
  calls : run.stage.pastSync = true → NoCalls s

/-- A render that is under way has a job of the open project that has not ended. -/
def RenderFits (s : ProjectSession) (jobId : String) (r : RenderCall) : Prop :=
  r.submitted = s.commits ∧ ∃ job, s.app.renderJobs.get jobId = some job ∧ renderJobIsTerminal job.status = false ∧
    job.projectRoot = s.app.store.projectRoot

/-- An application that is under way has a claim for the open project. -/
def ApplyFits (s : ProjectSession) (claimId : String) (a : ApplyCall) : Prop :=
  a.submitted = s.commits ∧ ∃ claim ∈ s.app.fileMutations, claim.claimId = claimId ∧
    claim.projectRoot = s.app.store.projectRoot

structure RaceOk (s : ProjectSession) : Prop where
  context : s.app.context ≠ none
  executed : ∀ e ∈ s.executed, e.Sound
  calls : ∀ callId c, s.calls.get callId = some c → c.submitted = s.commits
  renders : ∀ jobId r, s.renders.get jobId = some r → r.stage.isListed = true → RenderFits s jobId r
  applies : ∀ claimId a, s.applies.get claimId = some a → a.stage.claimedRoot ≠ none → ApplyFits s claimId a
  idle : s.switch = none → Together s.app.roots ∧ s.shown = s.commits
  switch : ∀ run, s.switch = some run → SwitchFits s run

theorem pastSync_of_pastRenders {stage : SwitchStage} (h : stage.pastRenders = false) : stage.pastSync = false := by
  cases stage with
  | entered | runsChecked _ => rfl
  | _ => cases h

/-- Until R has gone to the target, the roots are together, and the last commit is shown. -/
theorem RaceOk.together {s : ProjectSession} (hok : RaceOk s)
    (hnot : ∀ run, s.switch = some run → pastAnswer run.stage = false) : Together s.app.roots ∧ s.shown = s.commits := by
  cases hswitch : s.switch with
  | none => exact hok.idle hswitch
  | some run =>
    have hpast := hnot run hswitch
    have hroots := (hok.switch run hswitch).roots
    refine ⟨?_, (hok.switch run hswitch).shown hpast⟩
    cases hstage : run.stage with
    | entered | ready | syncing _ =>
      rw [hstage] at hroots
      exact hroots
    | runsChecked root | rendersChecked root =>
      rw [hstage] at hroots
      exact hroots.1
    | _ =>
      rw [hstage] at hpast
      cases hpast

theorem pastAnswer_of_pastSync {stage : SwitchStage} (h : stage.pastSync = false) : pastAnswer stage = false := by
  cases stage with
  | entered | runsChecked _ | rendersChecked _ | ready => rfl
  | _ => cases h

/-- A call that is under way finds the roots together. -/
theorem RaceOk.together_of_call {s : ProjectSession} (hok : RaceOk s) {callId : Nat} {c : ExecuteCall}
    (hget : s.calls.get callId = some c) : Together s.app.roots := by
  refine (hok.together ?_).1
  intro run hrun
  refine pastAnswer_of_pastSync ?_
  by_contra hpast
  rw [(hok.switch run hrun).calls (by simpa using hpast) callId] at hget
  cases hget

/-- So does a render that is under way. -/
theorem RaceOk.together_of_render {s : ProjectSession} (hok : RaceOk s) {jobId : String} {r : RenderCall}
    (hget : s.renders.get jobId = some r) (hlisted : r.stage.isListed = true) : Together s.app.roots := by
  refine (hok.together ?_).1
  intro run hrun
  refine pastAnswer_of_pastSync (pastSync_of_pastRenders ?_)
  by_contra hpast
  rw [(hok.switch run hrun).renders (by simpa using hpast) jobId r hget] at hlisted
  cases hlisted

/-! ## What a request leaves -/

/-- A request to the workspace moves none of the roots, no job and no claim, and the workspace stays. -/
structure Undisturbed (a a' : AppState) : Prop where
  roots : a'.roots = a.roots
  jobs : a'.renderJobs = a.renderJobs
  claims : a'.fileMutations = a.fileMutations
  context : a'.context ≠ none

namespace Undisturbed

variable {a a' a'' : AppState}

theorem storeRoot (h : Undisturbed a a') : a'.store.projectRoot = a.store.projectRoot := congrArg ProjectRoots.storeRoot h.roots

theorem projectRoot (h : Undisturbed a a') : a'.projectRoot = a.projectRoot := congrArg ProjectRoots.projectRoot h.roots

theorem workingDirectory (h : Undisturbed a a') : a'.workingDirectory = a.workingDirectory :=
  congrArg ProjectRoots.workingDirectory h.roots

theorem refl (h : a.context ≠ none) : Undisturbed a a := ⟨rfl, rfl, rfl, h⟩

end Undisturbed

theorem undisturbed_onCoordinator {α : Type} {x : CoordinatorM α} (broker : BrokerState)
    (h : ∀ c, (final (x c)).store.projectRoot = c.store.projectRoot) (a : AppState) :
    Undisturbed a (final (onCoordinator broker x a)) := by
  have hroots := SwitchAux.keeps_roots_onCoordinator broker h a
  unfold onCoordinator at hroots ⊢
  cases hr : x { broker, store := a.store } with
  | ok value c =>
    rw [hr] at hroots
    exact ⟨hroots, rfl, rfl, Option.some_ne_none _⟩
  | error e c =>
    rw [hr] at hroots
    exact ⟨hroots, rfl, rfl, Option.some_ne_none _⟩

variable {broker : BrokerState} {h : Handover} {o : SyncOutcome}

/-- The run of a request that reaches R is recorded under the store's root. -/
theorem recorded_onCoordinator {call : DispatchCall} {o : PrepareOutcome} {a a' : AppState}
    (hok : onCoordinator broker (prepareDispatch call o) a = .ok h a') :
    (a'.store.runs.get h.executionId).map (·.projectRoot) = some a.store.projectRoot := by
  have hruns := runs_prepareDispatch call o { broker, store := a.store }
  unfold onCoordinator at hok
  cases hr : prepareDispatch call o { broker, store := a.store } with
  | error e c =>
    rw [hr] at hok
    cases hok
  | ok h₀ c =>
    rw [hr] at hok hruns
    cases hok
    obtain ⟨-, hactive, -, -, row, -, hroot, hget⟩ := hruns
    have hfound : c.store.runs.get h.executionId = some row := by rw [hget, runsWith, if_pos rfl]
    rw [hfound, Option.map_some, hroot, projectRoot_of_active hactive]

/-- What a request does up to its hand-over, when it is asked for the broker that is there. -/
theorem beginSync_eq (root : String) (o : SyncOutcome) (a : AppState) :
    (∃ e, beginSync root o a = .error e a) ∨ ∃ broker, beginSync root o a =
        onCoordinator broker (prepareDispatch (setProjectRootCall root broker.identity) o.prepare) a := by
  have heq : beginSync root o a = (ofResult (ensure a.session "Workspace R is not running") >>= fun _ =>
      ofResult (orError a.context "Workspace context is not ready") >>= fun broker =>
        onCoordinator broker (prepareDispatch (setProjectRootCall root broker.identity) o.prepare)) a := rfl
  rw [heq]
  cases a.session with
  | false => exact Or.inl ⟨_, rfl⟩
  | true =>
    cases a.context with
    | none => exact Or.inl ⟨_, rfl⟩
    | some broker =>
      refine Or.inr ⟨broker, ?_⟩
      simp only [ensure, orError, ofResult, if_true, pure_bind]

theorem undisturbed_beginSync (root : String) (o : SyncOutcome) {a : AppState} (hcontext : a.context ≠ none) :
    Undisturbed a (final (beginSync root o a)) := by
  rcases beginSync_eq root o a with ⟨e, herror⟩ | ⟨broker, heq⟩
  · rw [herror]
    exact .refl hcontext
  · rw [heq]
    exact undisturbed_onCoordinator broker (projectRoot_prepareDispatch _ _) a

theorem recorded_beginSync {root : String} {a a' : AppState} (hok : beginSync root o a = .ok h a') :
    (a'.store.runs.get h.executionId).map (·.projectRoot) = some a.store.projectRoot := by
  rcases beginSync_eq root o a with ⟨e, herror⟩ | ⟨broker, heq⟩
  · rw [herror] at hok
    cases hok
  · rw [heq] at hok
    exact recorded_onCoordinator hok

/-! ## The answer to a request -/

/-- An answer with a result, and nothing fails after it. -/
theorem concludeDispatch_answered (h : Handover) {o : ConcludeOutcome} {result : Json} (hkernel : o.kernel = .finished result)
    (hfault : ∀ step, o.fault step = none) (c : Coordinator) :
    Ends (fun _ _ => True) (fun _ _ => False) (concludeDispatch h o c) := by
  have hattempt : ∀ step (c : Coordinator),
      Ends (fun _ _ => True) (fun _ _ => False) (attempt (o.fault step) c : EStateM.Result String Coordinator Unit) := by
    intro step c
    rw [hfault step]
    exact trivial
  have hoperation : ∀ status outcome c, Ends (fun _ _ => True) (fun _ _ => False) (finishOperation h o status outcome c) := by
    intro status outcome c
    unfold finishOperation
    cases h.environmentOperation with
    | none => exact trivial
    | some requestId => exact ends_bind (hattempt _ c) fun _ _ _ => trivial
  unfold concludeDispatch
  rw [hkernel]
  refine ends_bind (P := fun _ _ => True) trivial fun _ c _ => ?_
  unfold concludeWith
  refine ends_bind (hattempt _ c) fun _ c _ => ?_
  refine ends_bind (P := fun _ _ => True) trivial fun _ c _ => ?_
  refine ends_bind (P := fun _ _ => True) trivial fun _ c _ => ?_
  refine ends_bind (hattempt _ c) fun _ c _ => ?_
  refine ends_bind (P := fun _ _ => True) trivial fun _ c _ => ?_
  refine ends_bind (hoperation _ _ c) fun _ c _ => ?_
  refine ends_bind (hattempt _ c) fun _ c _ => ?_
  refine ends_bind (hattempt _ c) fun _ c _ => ?_
  exact ends_bind (hattempt _ c) fun _ c _ => trivial

/-- Without a result, the request is an error. -/
theorem concludeDispatch_unanswered (h : Handover) {o : ConcludeOutcome} (hkernel : ∀ result, o.kernel ≠ .finished result)
    (c : Coordinator) : Ends (fun _ _ => False) (fun _ _ => True) (concludeDispatch h o c) := by
  have hwithout : ∀ reason, Ends (fun _ _ => True) (fun _ _ => True) (concludeWithout h o reason c) := by
    intro reason
    cases concludeWithout h o reason c with
    | ok _ _ => exact trivial
    | error _ _ => exact trivial
  unfold concludeDispatch
  cases hk : o.kernel with
  | error => exact ends_bind (hwithout _) fun _ _ _ => trivial
  | unreadable message => exact ends_bind (hwithout _) fun _ _ _ => trivial
  | finished result => exact absurd hk (hkernel result)

theorem endSync_eq (h : Handover) (o : SyncOutcome) {a : AppState} (hcontext : a.context = some broker) :
    endSync h o a = (onCoordinator broker (concludeDispatch h o.conclude) >>= fun _ => attempt o.recovery) a := by
  have heq : endSync h o a = (ofResult (orError a.context "Workspace context is not ready") >>= fun broker =>
      onCoordinator broker (concludeDispatch h o.conclude) >>= fun _ => attempt o.recovery) a := rfl
  rw [heq, hcontext]
  simp only [orError, ofResult, pure_bind]

theorem endSync_answered (h : Handover) (ho : o.Answered) {a : AppState} (hcontext : a.context ≠ none) :
    ∃ a', endSync h o a = .ok () a' ∧ Undisturbed a a' := by
  obtain ⟨⟨result, hkernel⟩, hfault, hrecovery⟩ := ho
  obtain ⟨broker, hbroker⟩ := Option.ne_none_iff_exists'.mp hcontext
  have happ := undisturbed_onCoordinator broker (projectRoot_concludeDispatch h o.conclude) a
  have hends := concludeDispatch_answered h hkernel hfault { broker, store := a.store }
  rw [endSync_eq h o hbroker, hrecovery]
  unfold onCoordinator at happ ⊢
  cases hr : concludeDispatch h o.conclude { broker, store := a.store } with
  | ok response c =>
    rw [hr] at happ
    refine ⟨{ a with context := some c.broker, store := c.store }, ?_, happ⟩
    change EStateM.bind _ _ a = _
    simp only [EStateM.bind, hr]
    rfl
  | error e c =>
    rw [hr] at hends
    exact hends.elim

theorem endSync_unanswered (h : Handover) (ho : ∀ result, o.conclude.kernel ≠ .finished result) {a : AppState}
    (hcontext : a.context ≠ none) : ∃ e a', endSync h o a = .error e a' ∧ Undisturbed a a' := by
  obtain ⟨broker, hbroker⟩ := Option.ne_none_iff_exists'.mp hcontext
  have happ := undisturbed_onCoordinator broker (projectRoot_concludeDispatch h o.conclude) a
  have hends := concludeDispatch_unanswered h ho { broker, store := a.store }
  rw [endSync_eq h o hbroker]
  unfold onCoordinator at happ ⊢
  cases hr : concludeDispatch h o.conclude { broker, store := a.store } with
  | ok response c =>
    rw [hr] at hends
    exact hends.elim
  | error e c =>
    rw [hr] at happ
    refine ⟨e, { a with context := some c.broker, store := c.store }, ?_, happ⟩
    change EStateM.bind _ _ a = _
    simp only [EStateM.bind, hr]

/-! ## The steps of the commands -/

/-- A step of a command: the switch, the commits and the roots stay; what is under way afterwards fits, and was under way before
or is something that the switch is still to look at. -/
theorem RaceOk.of_command {s s' : ProjectSession} (hok : RaceOk s) (hswitch : s'.switch = s.switch)
    (hcommits : s'.commits = s.commits) (hshown : s'.shown = s.shown) (hroots : s'.app.roots = s.app.roots)
    (hcontext : s'.app.context ≠ none) (hexecuted : ∀ e ∈ s'.executed, e.Sound)
    (hcalls : ∀ callId c, s'.calls.get callId = some c → c.submitted = s.commits ∧
      (s.calls.get callId ≠ none ∨ ∀ run, s.switch = some run → run.stage.pastSync = false))
    (hrenders : ∀ jobId r, s'.renders.get jobId = some r → r.stage.isListed = true → RenderFits s' jobId r ∧
      ((∃ r, s.renders.get jobId = some r ∧ r.stage.isListed = true) ∨
        ∀ run, s.switch = some run → run.stage.pastRenders = false))
    (happlies : ∀ claimId a, s'.applies.get claimId = some a → a.stage.claimedRoot ≠ none → ApplyFits s' claimId a ∧
      ((∃ a, s.applies.get claimId = some a ∧ a.stage.claimedRoot ≠ none) ∨ s.switch = none)) : RaceOk s' := by
  have hui : s'.app.projectRoot = s.app.projectRoot := congrArg ProjectRoots.projectRoot hroots
  refine ⟨hcontext, hexecuted, fun id c h => hcommits.symm ▸ (hcalls id c h).1, fun id r h hl => (hrenders id r h hl).1,
    fun id a h hc => (happlies id a h hc).1, ?_, ?_⟩
  · intro hnone
    rw [hroots, hshown, hcommits]
    exact hok.idle (hswitch ▸ hnone)
  · intro run hrun
    rw [hswitch] at hrun
    obtain ⟨hprevious, hstore, hfit, hlast, hnorenders, hnoclaims, hnocalls⟩ := hok.switch run hrun
    refine ⟨hprevious.trans hui.symm, by rw [hui]; exact hstore, by rw [hroots]; exact hfit,
      by rw [hshown, hcommits]; exact hlast, ?_, ?_, ?_⟩
    · intro hpast id r hget
      by_contra hlisted
      rcases (hrenders id r hget (by simpa using hlisted)).2 with ⟨r₀, hr₀, hl₀⟩ | hnot
      · rw [hnorenders hpast id r₀ hr₀] at hl₀
        cases hl₀
      · rw [hnot run hrun] at hpast
        cases hpast
    · intro hpast id a hget
      by_contra hclaimed
      rcases (happlies id a hget hclaimed).2 with ⟨a₀, ha₀, hc₀⟩ | hnone
      · exact hc₀ (hnoclaims hpast id a₀ ha₀)
      · rw [hnone] at hrun
        cases hrun
    · intro hpast id
      cases hget : s'.calls.get id with
      | none => rfl
      | some c =>
        rcases (hcalls id c hget).2 with hold | hnot
        · exact absurd (hnocalls hpast id) hold
        · rw [hnot run hrun] at hpast
          cases hpast

section Kept

variable {s s' : ProjectSession}

theorem RenderFits.of_eq {jobId : String} {r : RenderCall} (h : RenderFits s jobId r) (hcommits : s'.commits = s.commits)
    (hjob : s'.app.renderJobs.get jobId = s.app.renderJobs.get jobId)
    (hroot : s'.app.store.projectRoot = s.app.store.projectRoot) : RenderFits s' jobId r := by
  unfold RenderFits
  rw [hcommits, hjob, hroot]
  exact h

theorem ApplyFits.of_eq {claimId : String} {a : ApplyCall} (h : ApplyFits s claimId a) (hcommits : s'.commits = s.commits)
    (hclaims : ∀ claim ∈ s.app.fileMutations, claim.claimId = claimId → claim ∈ s'.app.fileMutations)
    (hroot : s'.app.store.projectRoot = s.app.store.projectRoot) : ApplyFits s' claimId a := by
  obtain ⟨hsubmitted, claim, hmem, hid, hclaim⟩ := h
  exact ⟨hsubmitted.trans hcommits.symm, claim, hclaims claim hmem hid, hid, hclaim.trans hroot.symm⟩

/-- The calls have not changed. -/
theorem RaceOk.calls_kept (hok : RaceOk s) (hcalls : s'.calls = s.calls) (callId : Nat) (c : ExecuteCall)
    (hget : s'.calls.get callId = some c) : c.submitted = s.commits ∧
      (s.calls.get callId ≠ none ∨ ∀ run, s.switch = some run → run.stage.pastSync = false) := by
  rw [hcalls] at hget
  exact ⟨hok.calls callId c hget, Or.inl (by rw [hget]; exact Option.some_ne_none c)⟩

/-- A render that has not changed, and whose job has not. -/
theorem RaceOk.render_kept (hok : RaceOk s) (s' : ProjectSession) (hcommits : s'.commits = s.commits)
    (hroot : s'.app.store.projectRoot = s.app.store.projectRoot) {jobId : String} {r : RenderCall}
    (hjob : s'.app.renderJobs.get jobId = s.app.renderJobs.get jobId) (hget : s.renders.get jobId = some r)
    (hlisted : r.stage.isListed = true) : RenderFits s' jobId r ∧
      ((∃ r, s.renders.get jobId = some r ∧ r.stage.isListed = true) ∨
        ∀ run, s.switch = some run → run.stage.pastRenders = false) :=
  ⟨(hok.renders jobId r hget hlisted).of_eq hcommits hjob hroot, Or.inl ⟨r, hget, hlisted⟩⟩

/-- An application that has not changed, and whose claim has not. -/
theorem RaceOk.apply_kept (hok : RaceOk s) (s' : ProjectSession) (hcommits : s'.commits = s.commits)
    (hroot : s'.app.store.projectRoot = s.app.store.projectRoot) {claimId : String} {a : ApplyCall}
    (hclaims : ∀ claim ∈ s.app.fileMutations, claim.claimId = claimId → claim ∈ s'.app.fileMutations)
    (hget : s.applies.get claimId = some a) (hclaimed : a.stage.claimedRoot ≠ none) : ApplyFits s' claimId a ∧
      ((∃ a, s.applies.get claimId = some a ∧ a.stage.claimedRoot ≠ none) ∨ s.switch = none) :=
  ⟨(hok.applies claimId a hget hclaimed).of_eq hcommits hclaims hroot, Or.inl ⟨a, hget, hclaimed⟩⟩

/-- A step of `execute_r`. -/
theorem RaceOk.of_calls (hok : RaceOk s) (app : AppState) (happ : Undisturbed s.app app) (calls : Table ExecuteCall.callId)
    (hcalls : ∀ callId c, calls.get callId = some c → c.submitted = s.commits ∧
      (s.calls.get callId ≠ none ∨ ∀ run, s.switch = some run → run.stage.pastSync = false)) :
    RaceOk { s with app, calls } := by
  refine hok.of_command rfl rfl rfl happ.roots happ.context hok.executed hcalls ?_ ?_
  · intro jobId r hget hlisted
    exact hok.render_kept { s with app, calls } rfl happ.storeRoot (congrArg (get · jobId) happ.jobs) hget hlisted
  · intro claimId a hget hclaimed
    exact hok.apply_kept { s with app, calls } rfl happ.storeRoot (fun claim hmem _ => happ.claims ▸ hmem) hget hclaimed

/-- A step of `render_document_job` or of its worker: what becomes of its own job is to be shown. -/
theorem RaceOk.of_renders (hok : RaceOk s) (app : AppState) (hroots : app.roots = s.app.roots) (hcontext : app.context ≠ none)
    (hclaims : app.fileMutations = s.app.fileMutations) (renders : Table RenderCall.jobId) (jobId : String)
    (hjobs : ∀ id, id ≠ jobId → app.renderJobs.get id = s.app.renderJobs.get id)
    (hothers : ∀ id, id ≠ jobId → renders.get id = s.renders.get id)
    (hown : ∀ r, renders.get jobId = some r → r.stage.isListed = true →
      RenderFits { s with app, renders } jobId r ∧ ((∃ r, s.renders.get jobId = some r ∧ r.stage.isListed = true) ∨
        ∀ run, s.switch = some run → run.stage.pastRenders = false)) : RaceOk { s with app, renders } := by
  have hroot : app.store.projectRoot = s.app.store.projectRoot := congrArg ProjectRoots.storeRoot hroots
  refine hok.of_command rfl rfl rfl hroots hcontext hok.executed (hok.calls_kept rfl) ?_ ?_
  · intro id r hget hlisted
    by_cases hid : id = jobId
    · subst hid
      exact hown r hget hlisted
    · exact hok.render_kept { s with app, renders } rfl hroot (hjobs id hid) ((hothers id hid).symm.trans hget) hlisted
  · intro claimId a hget hclaimed
    exact hok.apply_kept { s with app, renders } rfl hroot (fun claim hmem _ => hclaims ▸ hmem) hget hclaimed

/-- A step of the application of a proposal: what becomes of its own claim is to be shown. -/
theorem RaceOk.of_applies (hok : RaceOk s) (app : AppState) (hroots : app.roots = s.app.roots) (hcontext : app.context ≠ none)
    (hjobs : app.renderJobs = s.app.renderJobs) (applies : Table ApplyCall.claimId) (claimId : String)
    (hclaims : ∀ claim ∈ s.app.fileMutations, claim.claimId ≠ claimId → claim ∈ app.fileMutations)
    (hothers : ∀ id, id ≠ claimId → applies.get id = s.applies.get id)
    (hown : ∀ a, applies.get claimId = some a → a.stage.claimedRoot ≠ none →
      ApplyFits { s with app, applies } claimId a ∧
        ((∃ a, s.applies.get claimId = some a ∧ a.stage.claimedRoot ≠ none) ∨ s.switch = none)) :
    RaceOk { s with app, applies } := by
  have hroot : app.store.projectRoot = s.app.store.projectRoot := congrArg ProjectRoots.storeRoot hroots
  refine hok.of_command rfl rfl rfl hroots hcontext hok.executed (hok.calls_kept rfl) ?_ ?_
  · intro jobId r hget hlisted
    exact hok.render_kept { s with app, applies } rfl hroot (congrArg (get · jobId) hjobs) hget hlisted
  · intro id a hget hclaimed
    by_cases hid : id = claimId
    · subst hid
      exact hown a hget hclaimed
    · refine hok.apply_kept { s with app, applies } rfl hroot (fun claim hmem hclaim => ?_) ((hothers id hid).symm.trans hget) hclaimed
      exact hclaims claim hmem (hclaim ▸ hid)

/-- The hand-over of a run that is recorded under R's project, and in the project it was submitted in. -/
theorem RaceOk.handedOver (hok : RaceOk s) {h : Handover} {submitted : Nat} (hsubmitted : submitted = s.commits)
    (hrecorded : (s.app.store.runs.get h.executionId).map (·.projectRoot) = some (normalizeProjectRoot s.app.workingDirectory)) :
    RaceOk (s.handedOver h submitted) := by
  refine hok.of_command rfl rfl rfl rfl hok.context ?_ (hok.calls_kept rfl) ?_ ?_
  · intro e he
    rcases List.mem_append.mp he with hold | hnew
    · exact hok.executed e hold
    · rw [List.mem_singleton.mp hnew]
      exact ⟨hrecorded, hsubmitted⟩
  · intro jobId r hget hlisted
    exact hok.render_kept (s.handedOver h submitted) rfl rfl rfl hget hlisted
  · intro claimId a hget hclaimed
    exact hok.apply_kept (s.handedOver h submitted) rfl rfl (fun claim hmem _ => hmem) hget hclaimed

end Kept

/-! ### execute_r -/

section ExecuteSteps

variable {s : ProjectSession}

theorem RaceOk.removeCall (hok : RaceOk s) {app : AppState} (happ : Undisturbed s.app app) (callId : Nat) :
    RaceOk ({ s with app }.removeCall callId) := by
  refine hok.of_calls app happ _ ?_
  intro id c hget
  rw [get_delete_key] at hget
  split at hget
  · cases hget
  · exact hok.calls_kept rfl id c hget

theorem RaceOk.submitExecute (hok : RaceOk s) (callId : Nat) (request : ExecuteRequest)
    (hspares : SessionSpares s (.submitExecute callId request)) : RaceOk (s.submitExecute callId request) := by
  unfold ProjectSession.submitExecute
  split
  · exact hok
  split
  · rename_i calls hinsert
    refine hok.of_calls s.app (.refl hok.context) calls ?_
    intro id c hget
    rw [get_insert hinsert] at hget
    split at hget
    · cases hget
      exact ⟨(hok.together fun run hrun => pastAnswer_of_pastSync (hspares run hrun)).2, Or.inr hspares⟩
    · exact hok.calls_kept rfl id c hget
  · exact hok

theorem RaceOk.beginExecute (hok : RaceOk s) (callId : Nat) (o : PrepareOutcome) : RaceOk (s.beginExecute callId o) := by
  unfold ProjectSession.beginExecute
  split
  · rename_i c broker hcall _
    split
    · have happ := undisturbed_onCoordinator broker
        (projectRoot_prepareDispatch (executeRCall c.request broker.identity) o) s.app
      split
      · rename_i h app hprepare
        rw [hprepare] at happ
        change Undisturbed s.app app at happ
        refine RaceOk.handedOver ?_ (hok.calls callId c hcall) ?_
        · refine hok.of_calls app happ _ ?_
          intro id c' hget
          rw [get_update_key] at hget
          split at hget
          · rename_i hid
            rw [hid, hcall] at hget
            cases hget
            refine ⟨hok.calls callId c hcall, Or.inl ?_⟩
            rw [hid, hcall]
            exact Option.some_ne_none c
          · exact hok.calls_kept rfl id c' hget
        · change (app.store.runs.get h.executionId).map (·.projectRoot) = some (normalizeProjectRoot app.workingDirectory)
          rw [recorded_onCoordinator hprepare, happ.workingDirectory]
          exact congrArg some (hok.together_of_call hcall).1.symm
      · rename_i e app hprepare
        rw [hprepare] at happ
        exact hok.removeCall happ callId
    · exact hok
  · exact hok

theorem RaceOk.endExecute (hok : RaceOk s) (callId : Nat) (o : ConcludeOutcome) : RaceOk (s.endExecute callId o) := by
  unfold ProjectSession.endExecute
  split
  · rename_i c broker hcall _
    split
    · rename_i h _
      exact hok.removeCall (undisturbed_onCoordinator broker (projectRoot_concludeDispatch h o) s.app) callId
    · exact hok
  · exact hok

end ExecuteSteps

/-! ### render_document_job -/

section RenderSteps

variable {s : ProjectSession}

/-- A render that goes from one stage to another: the job is still there. -/
theorem RaceOk.setRenderStage (hok : RaceOk s) (app : AppState) (hroots : app.roots = s.app.roots) (hcontext : app.context ≠ none)
    (hclaims : app.fileMutations = s.app.fileMutations) {jobId : String} {r : RenderCall} (stage : RenderCallStage)
    (hget : s.renders.get jobId = some r)
    (hjobs : ∀ id, id ≠ jobId → app.renderJobs.get id = s.app.renderJobs.get id)
    (hown : RenderFits { s with app } jobId r ∧
      (r.stage.isListed = true ∨ ∀ run, s.switch = some run → run.stage.pastRenders = false)) :
    RaceOk ({ s with app }.setRenderStage jobId stage) := by
  refine hok.of_renders app hroots hcontext hclaims _ jobId hjobs ?_ ?_
  · intro id hid
    rw [get_update_key, if_neg hid]
  · intro r' hget' _
    rw [get_update_key, if_pos rfl, hget] at hget'
    cases hget'
    refine ⟨hown.1, ?_⟩
    rcases hown.2 with hlisted | hnot
    · exact Or.inl ⟨r, hget, hlisted⟩
    · exact Or.inr hnot

/-- A render that a request has been made for. -/
theorem RaceOk.setRenderStage_request (hok : RaceOk s) {app : AppState} (happ : Undisturbed s.app app) {jobId : String}
    {r : RenderCall} (stage : RenderCallStage) (hget : s.renders.get jobId = some r) (hlisted : r.stage.isListed = true) :
    RaceOk ({ s with app }.setRenderStage jobId stage) := by
  refine hok.setRenderStage app happ.roots happ.context happ.claims stage hget (fun id _ => congrArg (get · id) happ.jobs) ?_
  refine ⟨(hok.renders jobId r hget hlisted).of_eq rfl ?_ happ.storeRoot, Or.inl hlisted⟩
  exact congrArg (get · jobId) happ.jobs

theorem get_updateRenderJob (s : ProjectSession) (jobId : String) (f : RenderJob → RenderJob) (hf : ∀ j, (f j).jobId = j.jobId)
    (id : String) : (s.updateRenderJob jobId f hf).app.renderJobs.get id =
      if id = jobId then (s.app.renderJobs.get id).map f else s.app.renderJobs.get id :=
  get_update_key s.app.renderJobs jobId f hf id

/-- A render that ends, with its job as it may be. -/
theorem RaceOk.removeRender (hok : RaceOk s) (jobId : String) (f : RenderJob → RenderJob) (hf : ∀ j, (f j).jobId = j.jobId) :
    RaceOk ((s.updateRenderJob jobId f hf).removeRender jobId) := by
  refine hok.of_renders (s.updateRenderJob jobId f hf).app rfl hok.context rfl _ jobId ?_ ?_ ?_
  · intro id hid
    rw [get_updateRenderJob, if_neg hid]
  · intro id hid
    rw [get_delete_key, if_neg hid]
    rfl
  · intro r hget
    rw [get_delete_key, if_pos rfl] at hget
    cases hget

theorem RaceOk.readRender (hok : RaceOk s) (jobId : String) (request : RenderRequest) : RaceOk (s.readRender jobId request) := by
  unfold ProjectSession.readRender
  split
  · rename_i renders hinsert
    refine hok.of_renders s.app rfl hok.context rfl renders jobId (fun _ _ => rfl) ?_ ?_
    · intro id hid
      rw [get_insert hinsert, if_neg fun h => hid h.symm]
    · intro r hget hlisted
      rw [get_insert hinsert, if_pos rfl] at hget
      cases hget
      cases hlisted
  · exact hok

theorem RaceOk.listRender (hok : RaceOk s) (jobId : String) (hspares : SessionSpares s (.listRender jobId)) :
    RaceOk (s.listRender jobId) := by
  obtain ⟨hnot, hopen⟩ := hspares
  unfold ProjectSession.listRender
  split
  · rename_i r hget
    split
    · rename_i root hstage
      have hreads := hopen r hget
      rw [hstage] at hreads
      obtain ⟨hsubmitted, hroot⟩ := hreads
      split
      · rename_i renderJobs hinsert
        refine hok.setRenderStage { s.app with renderJobs } rfl hok.context rfl .waiting hget ?_ ?_
        · intro id hid
          rw [get_insert hinsert, if_neg fun h => hid h.symm]
        · refine ⟨⟨hsubmitted, ?_⟩, Or.inr hnot⟩
          exact ⟨_, (get_insert hinsert jobId).trans (if_pos rfl), rfl, hroot⟩
      · exact hok
    · exact hok
  · exact hok

theorem RaceOk.startRender (hok : RaceOk s) (jobId : String) : RaceOk (s.startRender jobId) := by
  unfold ProjectSession.startRender
  split
  · rename_i r hget
    split
    · rename_i hstage
      have hlisted : r.stage.isListed = true := by rw [hstage]; rfl
      split
      · obtain ⟨hsubmitted, job, hjob, hterminal, hroot⟩ := hok.renders jobId r hget hlisted
        unfold ProjectSession.admitRender
        rw [hjob]
        dsimp only
        split
        · exact hok.removeRender jobId _ _
        · refine hok.setRenderStage (s.updateRenderJob jobId _ _).app rfl hok.context rfl .started hget ?_ ?_
          · intro id hid
            rw [get_updateRenderJob, if_neg hid]
          · refine ⟨⟨hsubmitted, { job with status := .running }, ?_, rfl, hroot⟩, Or.inl hlisted⟩
            rw [get_updateRenderJob, if_pos rfl, hjob]
            rfl
      · exact hok
    · exact hok
  · exact hok

theorem RaceOk.handRender (hok : RaceOk s) {r : RenderCall} (hget : s.renders.get r.jobId = some r)
    (hlisted : r.stage.isListed = true) (broker : BrokerState) (call : DispatchCall) (o : PrepareOutcome) :
    RaceOk (s.handRender r broker call o) := by
  have happ := undisturbed_onCoordinator broker (projectRoot_prepareDispatch call o) s.app
  unfold ProjectSession.handRender
  split
  · rename_i h app hprepare
    rw [hprepare] at happ
    change Undisturbed s.app app at happ
    refine RaceOk.handedOver (hok.setRenderStage_request happ _ hget hlisted) (hok.renders r.jobId r hget hlisted).1 ?_
    change (app.store.runs.get h.executionId).map (·.projectRoot) = some (normalizeProjectRoot app.workingDirectory)
    rw [recorded_onCoordinator hprepare, happ.workingDirectory]
    exact congrArg some (hok.together_of_render hget hlisted).1.symm
  · rename_i e app hprepare
    rw [hprepare] at happ
    exact hok.setRenderStage_request happ _ hget hlisted

theorem RaceOk.prepareRender (hok : RaceOk s) (jobId : String) (o : PrepareOutcome) : RaceOk (s.prepareRender jobId o) := by
  unfold ProjectSession.prepareRender
  split
  · rename_i r broker hget _
    split
    · rename_i hstage
      have hkey : r.jobId = jobId := key_of_get hget
      exact hok.handRender (hkey.symm ▸ hget) (by rw [hstage]; rfl) broker _ o
    · exact hok
  · exact hok

theorem RaceOk.answerRender (hok : RaceOk s) (jobId : String) (o : ConcludeOutcome) : RaceOk (s.answerRender jobId o) := by
  unfold ProjectSession.answerRender
  split
  · rename_i r broker hget _
    split
    · rename_i h hstage
      have hlisted : r.stage.isListed = true := by rw [hstage]; rfl
      have happ := undisturbed_onCoordinator broker (projectRoot_concludeDispatch h o) s.app
      split
      · rename_i hanswer
        rw [hanswer] at happ
        exact hok.setRenderStage_request happ _ hget hlisted
      · rename_i hanswer
        rw [hanswer] at happ
        exact hok.setRenderStage_request happ _ hget hlisted
    · exact hok
  · exact hok

theorem RaceOk.finishRender (hok : RaceOk s) (jobId : String) : RaceOk (s.finishRender jobId) := by
  unfold ProjectSession.finishRender
  split
  · split
    · exact hok.removeRender jobId _ _
    · exact hok
  · exact hok

end RenderSteps

/-! ### Agent file proposals -/

section ApplySteps

variable {s : ProjectSession}

/-- An application that goes on with its claim. -/
theorem RaceOk.setApplyStage (hok : RaceOk s) {claimId : String} {a : ApplyCall} (stage : ApplyStage)
    (hget : s.applies.get claimId = some a) (hclaimed : a.stage.claimedRoot ≠ none) : RaceOk (s.setApplyStage claimId stage) := by
  refine hok.of_applies s.app rfl hok.context rfl _ claimId (fun _ hmem _ => hmem) ?_ ?_
  · intro id hid
    rw [get_update_key, if_neg hid]
  · intro a' hget' _
    rw [get_update_key, if_pos rfl, hget] at hget'
    cases hget'
    exact ⟨hok.applies claimId a hget hclaimed, Or.inl ⟨a, hget, hclaimed⟩⟩

/-- An application that ends, with its claim gone or not. -/
theorem RaceOk.removeApply (hok : RaceOk s) (app : AppState) (hroots : app.roots = s.app.roots) (hcontext : app.context ≠ none)
    (hjobs : app.renderJobs = s.app.renderJobs) (claimId : String)
    (hclaims : ∀ claim ∈ s.app.fileMutations, claim.claimId ≠ claimId → claim ∈ app.fileMutations) :
    RaceOk ({ s with app }.removeApply claimId) := by
  refine hok.of_applies app hroots hcontext hjobs _ claimId hclaims ?_ ?_
  · intro id hid
    rw [get_delete_key, if_neg hid]
  · intro a hget
    rw [get_delete_key, if_pos rfl] at hget
    cases hget

theorem RaceOk.dropClaim (hok : RaceOk s) (claimId : String) : RaceOk (s.dropClaim claimId) := by
  refine hok.removeApply { s.app with fileMutations := s.app.fileMutations.filter (fun c => c.claimId ≠ claimId) } rfl hok.context rfl claimId ?_
  intro claim hmem hid
  exact List.mem_filter.mpr ⟨hmem, by simpa using hid⟩

theorem RaceOk.submitApply (hok : RaceOk s) (claimId turnId turnRoot path : String) :
    RaceOk (s.submitApply claimId turnId turnRoot path) := by
  unfold ProjectSession.submitApply
  split
  · rename_i applies hinsert
    refine hok.of_applies s.app rfl hok.context rfl applies claimId (fun _ hmem _ => hmem) ?_ ?_
    · intro id hid
      rw [get_insert hinsert, if_neg fun h => hid h.symm]
    · intro a hget hclaimed
      rw [get_insert hinsert, if_pos rfl] at hget
      cases hget
      exact absurd rfl hclaimed
  · exact hok

theorem RaceOk.registerApply (hok : RaceOk s) (claimId : String) (hspares : SessionSpares s (.registerApply claimId)) :
    RaceOk (s.registerApply claimId) := by
  unfold ProjectSession.registerApply
  split
  · rename_i a hnone hget
    split
    · split
      · exact hok.removeApply s.app rfl hok.context rfl claimId fun _ hmem _ => hmem
      · rename_i hturn
        have hsubmitted : a.submitted = s.commits := (hspares a hget).resolve_right hturn
        have hkey : a.claimId = claimId := key_of_get hget
        refine hok.of_applies (s.addClaim a).app rfl hok.context rfl _ claimId ?_ ?_ ?_
        · intro claim hmem _
          exact List.mem_append_left _ hmem
        · intro id hid
          rw [get_update_key, if_neg hid]
          rfl
        · intro a' hget' _
          rw [get_update_key, if_pos rfl] at hget'
          change (s.applies.get claimId).map _ = some a' at hget'
          rw [hget] at hget'
          cases hget'
          refine ⟨⟨hsubmitted, _, List.mem_append_right _ (List.mem_singleton_self _), hkey, ?_⟩, Or.inr hnone⟩
          exact (hok.idle hnone).1.2
    · exact hok
  · exact hok

theorem RaceOk.admitApply (hok : RaceOk s) (claimId : String) (proceeds : Bool) : RaceOk (s.admitApply claimId proceeds) := by
  unfold ProjectSession.admitApply
  split
  · rename_i a hget
    split
    · rename_i root hstage
      split
      · split
        · exact hok.setApplyStage _ hget (by rw [hstage]; exact Option.some_ne_none root)
        · exact hok.dropClaim claimId
      · exact hok
    · exact hok
  · exact hok

/-- The write of a file in the project that the application was submitted in. -/
theorem RaceOk.wrote (hok : RaceOk s) {submitted : Nat} (hsubmitted : submitted = s.commits) :
    RaceOk { s with executed := s.executed ++ [.write submitted s.commits] } := by
  refine ⟨hok.context, ?_, hok.calls, hok.renders, hok.applies, hok.idle, ?_⟩
  · intro e he
    rcases List.mem_append.mp he with hold | hnew
    · exact hok.executed e hold
    · rw [List.mem_singleton.mp hnew]
      exact hsubmitted
  · intro run hrun
    obtain ⟨hprevious, hstore, hfit, hlast, hrenders, hclaims, hcalls⟩ := hok.switch run hrun
    exact ⟨hprevious, hstore, hfit, hlast, hrenders, hclaims, hcalls⟩

theorem RaceOk.writeApply (hok : RaceOk s) (claimId : String) : RaceOk (s.writeApply claimId) := by
  unfold ProjectSession.writeApply
  split
  · rename_i a hget
    split
    · rename_i root hstage
      have hclaimed : a.stage.claimedRoot ≠ none := by
        rw [hstage]
        exact Option.some_ne_none root
      exact (hok.wrote (hok.applies claimId a hget hclaimed).1).setApplyStage _ hget hclaimed
    · exact hok
  · exact hok

theorem RaceOk.finishApply (hok : RaceOk s) (claimId : String) : RaceOk (s.finishApply claimId) := by
  unfold ProjectSession.finishApply
  split
  · rename_i broker _ _
    split
    · split
      · refine hok.removeApply
          { s.app with
            context := some broker.projectChanged
            store := s.app.store.saveIdentity broker.projectChanged.identity
            fileMutations := s.app.fileMutations.filter (fun c => c.claimId ≠ claimId) }
          rfl (Option.some_ne_none _) rfl claimId ?_
        intro claim hmem hid
        exact List.mem_filter.mpr ⟨hmem, by simpa using hid⟩
      · exact hok
    · exact hok
  · exact hok

end ApplySteps

/-! ## The steps of the switch -/

section SwitchSteps

variable {s : ProjectSession} {run : SwitchRun}

/-- What a step of the switch leaves to the commands: their tables, their jobs and their claims, and the project that is shown. -/
structure Beside (a a' : AppState) : Prop where
  projectRoot : a'.projectRoot = a.projectRoot
  jobs : a'.renderJobs = a.renderJobs
  claims : a'.fileMutations = a.fileMutations
  context : a'.context ≠ none

theorem Undisturbed.beside {a a' : AppState} (h : Undisturbed a a') : Beside a a' := ⟨h.projectRoot, h.jobs, h.claims, h.context⟩

/-- Nothing is under way that a commit could come between. -/
def NothingUnderWay (s : ProjectSession) : Prop := NoCalls s ∧ NoRenders s ∧ NoClaims s

variable {app : AppState} {stage : SwitchStage} {root : String} {o : SyncOutcome} {h : Handover}

/-- The switch goes on to a stage, with the store's root and the commits as they were. -/
theorem RaceOk.switchAt (hok : RaceOk s) (hrun : s.switch = some run) (happ : Beside s.app app)
    (hroot : app.store.projectRoot = s.app.store.projectRoot) (hroots : RootsFit run app.roots stage)
    (hshown : pastAnswer stage = false → s.shown = s.commits) (hrenders : stage.pastRenders = true → NoRenders s)
    (hclaims : pastClaims stage = true → NoClaims s) (hcalls : stage.pastSync = true → NoCalls s) :
    RaceOk (s.switchAt run app stage) := by
  refine ⟨happ.context, hok.executed, hok.calls, ?_, ?_, ?_, ?_⟩
  · intro jobId r hget hlisted
    exact (hok.renders jobId r hget hlisted).of_eq rfl (congrArg (get · jobId) happ.jobs) hroot
  · intro claimId a hget hclaimed
    exact (hok.applies claimId a hget hclaimed).of_eq rfl (fun claim hmem _ => happ.claims ▸ hmem) hroot
  · intro hnone
    cases hnone
  · intro run' hrun'
    cases hrun'
    obtain ⟨hprevious, hstore, -, -, -, -, -⟩ := hok.switch run hrun
    refine ⟨hprevious.trans happ.projectRoot.symm, ?_, hroots, hshown, hrenders, hclaims, hcalls⟩
    change _ = normalizeProjectRoot app.projectRoot
    rw [happ.projectRoot]
    exact hstore

/-- The switch is over before anything was committed. -/
theorem RaceOk.leaveSwitch (hok : RaceOk s) (happ : Beside s.app app)
    (hroot : app.store.projectRoot = s.app.store.projectRoot) (htogether : Together app.roots) (hshown : s.shown = s.commits) :
    RaceOk (s.leaveSwitch app) := by
  refine ⟨happ.context, hok.executed, hok.calls, ?_, ?_, fun _ => ⟨htogether, hshown⟩, ?_⟩
  · intro jobId r hget hlisted
    exact (hok.renders jobId r hget hlisted).of_eq rfl (congrArg (get · jobId) happ.jobs) hroot
  · intro claimId a hget hclaimed
    exact (hok.applies claimId a hget hclaimed).of_eq rfl (fun claim hmem _ => happ.claims ▸ hmem) hroot
  · intro run' hrun'
    cases hrun'

/-- A step with nothing under way beside the switch. -/
theorem RaceOk.alone {s' : ProjectSession} (hok : RaceOk s) (hnothing : NothingUnderWay s) (hcontext : s'.app.context ≠ none)
    (hexecuted : s'.executed = s.executed) (hcalls : s'.calls = s.calls) (hrenders : s'.renders = s.renders)
    (happlies : s'.applies = s.applies) (hidle : s'.switch = none → Together s'.app.roots ∧ s'.shown = s'.commits)
    (hswitch : ∀ run', s'.switch = some run' → SwitchFits s' run') : RaceOk s' := by
  obtain ⟨hnocalls, hnorenders, hnoclaims⟩ := hnothing
  refine ⟨hcontext, by rw [hexecuted]; exact hok.executed, ?_, ?_, ?_, hidle, hswitch⟩
  · intro callId c hget
    rw [hcalls, hnocalls callId] at hget
    cases hget
  · intro jobId r hget hlisted
    rw [hrenders] at hget
    rw [hnorenders jobId r hget] at hlisted
    cases hlisted
  · intro claimId a hget hclaimed
    rw [happlies] at hget
    exact absurd (hnoclaims claimId a hget) hclaimed

/-- From the moment R is asked to go to the target, nothing is under way. -/
theorem RaceOk.nothingUnderWay (hok : RaceOk s) (hrun : s.switch = some run) (hpast : run.stage.pastSync = true) :
    NothingUnderWay s := by
  have hfits := hok.switch run hrun
  have hlater : run.stage.pastRenders = true ∧ pastClaims run.stage = true := by
    cases hstage : run.stage with
    | entered | runsChecked _ | rendersChecked _ | ready =>
      rw [hstage] at hpast
      cases hpast
    | _ => exact ⟨rfl, rfl⟩
  exact ⟨hfits.calls hpast, hfits.renders hlater.1, hfits.claims hlater.2⟩

/-- A step from one stage after R was asked to another. -/
theorem RaceOk.switchOn (hok : RaceOk s) (hrun : s.switch = some run) (hpast : run.stage.pastSync = true)
    (happ : Beside s.app app) (hroot : app.store.projectRoot = s.app.store.projectRoot)
    (hroots : RootsFit run app.roots stage) (hanswered : pastAnswer stage = true) : RaceOk (s.switchAt run app stage) := by
  obtain ⟨hnocalls, hnorenders, hnoclaims⟩ := hok.nothingUnderWay hrun hpast
  refine hok.switchAt hrun happ hroot hroots ?_ (fun _ => hnorenders) (fun _ => hnoclaims) (fun _ => hnocalls)
  intro hnot
  rw [hanswered] at hnot
  cases hnot

theorem beside_refl (hok : RaceOk s) : Beside s.app s.app := ⟨rfl, rfl, rfl, hok.context⟩

theorem RaceOk.enterSwitch (hok : RaceOk s) (target : String) (outcome : SwitchOutcome) :
    RaceOk (s.enterSwitch target outcome) := by
  unfold ProjectSession.enterSwitch
  split
  · exact hok
  · rename_i hnone
    split
    · exact hok
    · obtain ⟨htogether, hshown⟩ := hok.idle hnone
      refine ⟨hok.context, hok.executed, hok.calls, hok.renders, hok.applies, fun hsome => (Option.some_ne_none _ hsome).elim, ?_⟩
      intro run hrun
      cases hrun
      refine ⟨rfl, ?_, htogether, fun _ => hshown, nofun, nofun,
        nofun⟩
      exact (SwitchAux.normalize_activeProjectRoot s.app.store).trans htogether.2.symm

/-! ### Before R is asked -/

/-- While the roots are together, the work that counts is that of the store's project. -/
theorem currentRoot_eq {a : AppState} (h : Together a.roots) : a.currentRoot = a.store.projectRoot := by
  unfold currentRoot
  cases hactive : a.store.activeProjectRoot with
  | none => exact h.2
  | some root => exact (projectRoot_of_active hactive).symm

/-- A switch that is stopped before R was asked. -/
theorem RaceOk.stopped (hok : RaceOk s) (hrun : s.switch = some run) (hpast : pastAnswer run.stage = false)
    (happ : Undisturbed s.app app) : RaceOk (s.leaveSwitch app) := by
  obtain ⟨htogether, hshown⟩ := hok.together fun run' hrun' => by
    rw [hrun] at hrun'
    cases hrun'
    exact hpast
  refine hok.leaveSwitch happ.beside happ.storeRoot ?_ hshown
  rw [happ.roots]
  exact htogether

theorem undisturbed_logEvent {a : AppState} (h : a.context ≠ none) (kind : String) : Undisturbed a (a.logEvent kind) :=
  ⟨rfl, rfl, rfl, h⟩

/-- No job that has not ended is left for the project of the switch. -/
theorem RaceOk.noRenders (hok : RaceOk s) (hblocker : s.app.renderBlocker s.app.store.projectRoot = none) : NoRenders s := by
  intro jobId r hget
  by_contra hlisted
  obtain ⟨-, job, hjob, hterminal, hroot⟩ := hok.renders jobId r hget (by simpa using hlisted)
  have hnot := List.find?_eq_none.mp (Option.map_eq_none_iff.mp hblocker) job (mem_of_get hjob)
  rw [hroot, hterminal] at hnot
  simp at hnot

/-- No claim is left for the project of the switch. -/
theorem RaceOk.noClaims (hok : RaceOk s) (hblocker : s.app.fileMutationBlocker s.app.store.projectRoot = none) : NoClaims s := by
  intro claimId a hget
  by_contra hclaimed
  obtain ⟨-, claim, hmem, -, hroot⟩ := hok.applies claimId a hget hclaimed
  have hnot := List.find?_eq_none.mp (Option.map_eq_none_iff.mp hblocker) claim hmem
  rw [hroot] at hnot
  simp at hnot

theorem RaceOk.entered (hok : RaceOk s) (hrun : s.switch = some run) (hstage : run.stage = .entered) :
    RaceOk (s.switchNext run) := by
  have hpast : pastAnswer run.stage = false := by rw [hstage]; rfl
  have hfits := hok.switch run hrun
  have htogether : Together s.app.roots := by
    have hroots := hfits.roots
    rw [hstage] at hroots
    exact hroots
  unfold ProjectSession.switchNext ProjectSession.unlessBlocked
  rw [hstage]
  dsimp only
  split
  · exact hok.stopped hrun hpast (.refl hok.context)
  split
  · exact hok.stopped hrun hpast (undisturbed_logEvent hok.context _)
  · refine hok.switchAt hrun (beside_refl hok) rfl ⟨htogether, currentRoot_eq htogether⟩ (fun _ => hfits.shown hpast) ?_ ?_ ?_
    · exact nofun
    · exact nofun
    · exact nofun

theorem RaceOk.runsChecked (hok : RaceOk s) (hrun : s.switch = some run) (hstage : run.stage = .runsChecked root) :
    RaceOk (s.switchNext run) := by
  have hpast : pastAnswer run.stage = false := by rw [hstage]; rfl
  have hfits := hok.switch run hrun
  have hroots := hfits.roots
  rw [hstage] at hroots
  unfold ProjectSession.switchNext ProjectSession.unlessBlocked
  rw [hstage]
  dsimp only
  split
  · exact hok.stopped hrun hpast (undisturbed_logEvent hok.context _)
  · rename_i hblocker
    refine hok.switchAt hrun (beside_refl hok) rfl hroots (fun _ => hfits.shown hpast) (fun _ => ?_) ?_ ?_
    · rw [hroots.2] at hblocker
      exact hok.noRenders hblocker
    · exact nofun
    · exact nofun

theorem RaceOk.rendersChecked (hok : RaceOk s) (hrun : s.switch = some run)
    (hstage : run.stage = .rendersChecked root) : RaceOk (s.switchNext run) := by
  have hpast : pastAnswer run.stage = false := by rw [hstage]; rfl
  have hfits := hok.switch run hrun
  have hroots := hfits.roots
  rw [hstage] at hroots
  unfold ProjectSession.switchNext
  rw [hstage]
  dsimp only
  split
  · exact hok.stopped hrun hpast (undisturbed_logEvent hok.context _)
  · exact hok.stopped hrun hpast (.refl hok.context)
  · rename_i hblocker _
    refine hok.switchAt hrun (beside_refl hok) rfl hroots.1 (fun _ => hfits.shown hpast) ?_ (fun _ => ?_) ?_
    · exact fun _ => hfits.renders (by rw [hstage]; rfl)
    · simp only [Option.orElse_eq_orElse, Option.orElse_eq_or, Option.or_eq_none_iff] at hblocker
      have hmutations := hblocker.2.1
      rw [hroots.2] at hmutations
      exact hok.noClaims hmutations
    · exact nofun

/-! ### R goes to a root -/

/-- R is asked to go to a root: the run of the request is recorded under the project that R is still in. -/
theorem RaceOk.askedSync (hok : RaceOk s)
    (hbegin : beginSync root o s.app = .ok h app) (hsynced : normalizeProjectRoot s.app.workingDirectory = s.app.store.projectRoot)
    (hat : Undisturbed s.app app → RaceOk (s.switchAt run app stage)) :
    RaceOk ((s.switchAt run app stage).handedOver h s.commits) := by
  have happ := undisturbed_beginSync root o hok.context
  rw [hbegin] at happ
  change Undisturbed s.app app at happ
  refine (hat happ).handedOver rfl ?_
  change (app.store.runs.get h.executionId).map (·.projectRoot) = some (normalizeProjectRoot app.workingDirectory)
  rw [recorded_beginSync hbegin, happ.workingDirectory, hsynced]

/-- R has changed its directory and has answered. -/
theorem answerSync_answered (root : String) (h : Handover) (hdone : o.carriedOut = true) (ho : o.Answered)
    {a : AppState} (hcontext : a.context ≠ none) :
    ∃ a', ProjectSession.answerSync root h o a = .ok () a' ∧ Undisturbed { a with workingDirectory := root } a' := by
  obtain ⟨a', hend, happ⟩ := endSync_answered h ho (a := { a with workingDirectory := root }) hcontext
  refine ⟨a', ?_, happ⟩
  change endSync h o (if o.carriedOut then { a with workingDirectory := root } else a) = _
  rw [if_pos hdone]
  exact hend

/-- R has not changed its directory, and there is no answer. -/
theorem answerSync_unanswered (root : String) (h : Handover) (hdone : o.carriedOut = false)
    (ho : ∀ result, o.conclude.kernel ≠ .finished result) {a : AppState} (hcontext : a.context ≠ none) :
    ∃ e a', ProjectSession.answerSync root h o a = .error e a' ∧ Undisturbed a a' := by
  obtain ⟨e, a', hend, happ⟩ := endSync_unanswered h ho hcontext
  refine ⟨e, a', ?_, happ⟩
  change endSync h o (if o.carriedOut then { a with workingDirectory := root } else a) = _
  rw [if_neg (by rw [hdone]; exact Bool.false_ne_true)]
  exact hend

/-- R is in another directory, and the rest is as it was. -/
theorem beside_of_directory {a a' : AppState} (happ : Undisturbed { a with workingDirectory := root } a') :
    Beside a a' ∧ a'.store.projectRoot = a.store.projectRoot ∧ a'.workingDirectory = root :=
  ⟨⟨happ.projectRoot, happ.jobs, happ.claims, happ.context⟩, happ.storeRoot, happ.workingDirectory⟩

theorem RaceOk.ready (hok : RaceOk s) (hrun : s.switch = some run) (hstage : run.stage = .ready)
    (hspares : ∀ callId c, s.calls.get callId = some c → c.stage.isWaiting = false) : RaceOk (s.switchNext run) := by
  have hpast : pastAnswer run.stage = false := by rw [hstage]; rfl
  have hfits := hok.switch run hrun
  have htogether : Together s.app.roots := by
    have hroots := hfits.roots
    rw [hstage] at hroots
    exact hroots
  unfold ProjectSession.switchNext ProjectSession.askSync
  rw [hstage]
  dsimp only
  split
  · rename_i hfree
    -- No call holds the coordinator, and none waits for it.
    have hnocalls : NoCalls s := by
      intro callId
      cases hget : s.calls.get callId with
      | none => rfl
      | some c =>
        have hwaiting : c.stage.isWaiting = true := by
          unfold ProjectSession.coordinatorFree at hfree
          simp only [Bool.and_eq_true, List.all_eq_true] at hfree
          exact hfree.1.1 c (mem_of_get hget)
        rw [hspares callId c hget] at hwaiting
        cases hwaiting
    split
    · rename_i h app hbegin
      refine hok.askedSync hbegin htogether.1 fun happ => ?_
      refine hok.switchAt hrun happ.beside happ.storeRoot ?_ (fun _ => hfits.shown hpast) ?_ ?_ (fun _ => hnocalls)
      · change Together app.roots
        rw [happ.roots]
        exact htogether
      · exact fun _ => hfits.renders (by rw [hstage]; rfl)
      · exact fun _ => hfits.claims (by rw [hstage]; rfl)
    · rename_i e app hbegin
      have happ := undisturbed_beginSync run.target run.outcome.sync hok.context
      rw [hbegin] at happ
      exact hok.stopped hrun hpast happ
  · exact hok

theorem RaceOk.syncing (hok : RaceOk s) (hrun : s.switch = some run) (hstage : run.stage = .syncing h)
    (hspares : run.outcome.sync.Honest) : RaceOk (s.switchNext run) := by
  have hpast : run.stage.pastSync = true := by rw [hstage]; rfl
  unfold ProjectSession.switchNext
  rw [hstage]
  dsimp only
  unfold SyncOutcome.Honest at hspares
  cases hdone : run.outcome.sync.carriedOut with
  | true =>
    rw [if_pos hdone] at hspares
    obtain ⟨app, hanswer, happ⟩ := answerSync_answered run.target h hdone hspares hok.context
    obtain ⟨hbeside, hroot, hdirectory⟩ := beside_of_directory happ
    rw [hanswer]
    exact hok.switchOn hrun hpast hbeside hroot (congrArg normalizeProjectRoot hdirectory) rfl
  | false =>
    rw [if_neg (by rw [hdone]; exact Bool.false_ne_true)] at hspares
    obtain ⟨e, app, hanswer, happ⟩ := answerSync_unanswered run.target h hdone hspares hok.context
    rw [hanswer]
    exact hok.stopped hrun (by rw [hstage]; rfl) happ

theorem RaceOk.restoring (hok : RaceOk s) (hrun : s.switch = some run) (hstage : run.stage = .restoring)
    (hspares : ∃ h app, beginSync run.previousRoot run.outcome.restore s.app = .ok h app) : RaceOk (s.switchNext run) := by
  have hroots := (hok.switch run hrun).roots
  rw [hstage] at hroots
  obtain ⟨h, app, hbegin⟩ := hspares
  unfold ProjectSession.switchNext ProjectSession.askSync
  rw [hstage]
  dsimp only
  split
  · rw [hbegin]
    refine hok.askedSync hbegin (hroots.1.trans hroots.2.symm) fun happ => ?_
    refine hok.switchOn hrun (by rw [hstage]; rfl) happ.beside happ.storeRoot ?_ rfl
    change _ ∧ _
    rw [happ.roots]
    exact hroots
  · exact hok

theorem RaceOk.restoringDirectory (hok : RaceOk s) (hrun : s.switch = some run)
    (hstage : run.stage = .restoringDirectory h) (hdone : run.outcome.restore.carriedOut = true)
    (hanswered : run.outcome.restore.Answered) : RaceOk (s.switchNext run) := by
  obtain ⟨app, hanswer, happ⟩ := answerSync_answered run.previousRoot h hdone hanswered hok.context
  obtain ⟨hbeside, hroot, hdirectory⟩ := beside_of_directory happ
  unfold ProjectSession.switchNext
  rw [hstage]
  dsimp only
  rw [hanswer]
  exact hok.switchOn hrun (by rw [hstage]; rfl) hbeside hroot (congrArg normalizeProjectRoot hdirectory) rfl

/-! ### The commit -/

theorem RaceOk.synced (hok : RaceOk s) (hrun : s.switch = some run) (hstage : run.stage = .synced)
    (hcandidate : workspaceCandidateFault run.outcome s.app = none) (hwatcher : run.outcome.fault .startWatcher = none) :
    RaceOk (s.switchNext run) := by
  have hroots := (hok.switch run hrun).roots
  rw [hstage] at hroots
  unfold ProjectSession.switchNext
  rw [hstage]
  dsimp only
  rw [hcandidate, hwatcher]
  exact hok.switchOn hrun (by rw [hstage]; rfl) (beside_refl hok) rfl hroots rfl

/-- The store is given the target. -/
theorem RaceOk.committed (hok : RaceOk s) (hrun : s.switch = some run) (hpast : run.stage.pastSync = true)
    (happ : Beside s.app app) (hroots : RootsFit run app.roots .stored) :
    RaceOk { s.switchAt run app .stored with commits := s.commits + 1 } := by
  obtain ⟨hnocalls, hnorenders, hnoclaims⟩ := hok.nothingUnderWay hrun hpast
  have hfits := hok.switch run hrun
  refine hok.alone ⟨hnocalls, hnorenders, hnoclaims⟩ happ.context rfl rfl rfl rfl
    (fun hnone => (Option.some_ne_none _ hnone).elim) ?_
  intro run' hrun'
  cases hrun'
  refine ⟨hfits.previous.trans happ.projectRoot.symm, ?_, hroots, nofun, fun _ => hnorenders,
    fun _ => hnoclaims, fun _ => hnocalls⟩
  exact hfits.previousStore.trans (congrArg normalizeProjectRoot happ.projectRoot.symm)

theorem beside_store {a : AppState} (h : a.context ≠ none) (store : Store) : Beside a { a with store } := ⟨rfl, rfl, rfl, h⟩

theorem switchNext_watched (hstage : run.stage = .watched) (hstore : run.outcome.fault .setStoreRoot = none) :
    s.switchNext run =
      { s.switchAt run { s.app with store := s.app.store.setProjectRoot (some (normalizeProjectRoot run.target)) } .stored with
        commits := s.commits + 1 } := by
  unfold ProjectSession.switchNext
  simp only [hstage, hstore]

theorem rootsFit_stored {a : AppState} (hroots : normalizeProjectRoot a.workingDirectory = normalizeProjectRoot run.target)
    {store : Store} (hstore : store.projectRoot = normalizeProjectRoot run.target) :
    RootsFit run ({ a with store } : AppState).roots .stored :=
  ⟨hroots, hstore⟩

theorem RaceOk.watched (hok : RaceOk s) (hrun : s.switch = some run) (hstage : run.stage = .watched)
    (hstore : run.outcome.fault .setStoreRoot = none) : RaceOk (s.switchNext run) := by
  have hroots := (hok.switch run hrun).roots
  rw [hstage] at hroots
  have hpast : run.stage.pastSync = true := by rw [hstage]; rfl
  have hmoved : (s.app.store.setProjectRoot (some (normalizeProjectRoot run.target))).projectRoot =
      normalizeProjectRoot run.target := by
    simp only [Store.setProjectRoot, Option.map_some, Option.getD_some, normalizeProjectRoot_idem]
  rw [switchNext_watched hstage hstore]
  exact hok.committed hrun hpast (beside_store hok.context _) (rootsFit_stored hroots hmoved)

theorem RaceOk.stored (hok : RaceOk s) (hrun : s.switch = some run) (hstage : run.stage = .stored) :
    RaceOk (s.switchNext run) := by
  have hroots := (hok.switch run hrun).roots
  rw [hstage] at hroots
  have hpast : run.stage.pastSync = true := by rw [hstage]; rfl
  unfold ProjectSession.switchNext
  rw [hstage]
  dsimp only
  split
  · exact hok.switchOn hrun hpast (beside_refl hok) rfl hroots rfl
  · refine hok.switchOn hrun hpast ?_ ?_ ?_ ?_
    · exact ⟨rfl, rfl, rfl, hok.context⟩
    · rfl
    · exact hroots
    · rfl

theorem context_commitSwitch (root : String) (o : SwitchOutcome) (a : AppState) :
    (commitSwitch root o a).context = a.context := by
  unfold commitSwitch publishCandidates
  split
  · rfl
  · rfl

theorem RaceOk.saved (hok : RaceOk s) (hrun : s.switch = some run) (hstage : run.stage = .saved) :
    RaceOk (s.switchNext run) := by
  have hroots := (hok.switch run hrun).roots
  rw [hstage] at hroots
  unfold ProjectSession.switchNext
  rw [hstage]
  refine hok.alone (hok.nothingUnderWay hrun (by rw [hstage]; rfl)) ?_ rfl rfl rfl rfl (fun _ => ⟨?_, rfl⟩)
    (fun run' hrun' => by cases hrun')
  · exact (context_commitSwitch run.target run.outcome s.app).symm ▸ hok.context
  · change Together (commitSwitch run.target run.outcome s.app).roots
    rw [SwitchAux.roots_commitSwitch]
    exact ⟨hroots.1.trans hroots.2.symm, hroots.2.symm⟩

theorem RaceOk.restoringStore (hok : RaceOk s) (hrun : s.switch = some run) (hstage : run.stage = .restoringStore)
    (hspares : run.outcome.fault .restoreStoreRoot = none) : RaceOk (s.switchNext run) := by
  have hfits := hok.switch run hrun
  have hroots := hfits.roots
  rw [hstage] at hroots
  unfold ProjectSession.switchNext
  rw [hstage]
  dsimp only
  rw [hspares]
  refine hok.alone (hok.nothingUnderWay hrun (by rw [hstage]; rfl)) hok.context rfl rfl rfl rfl (fun _ => ⟨?_, rfl⟩)
    (fun run' hrun' => by cases hrun')
  change normalizeProjectRoot s.app.workingDirectory = (run.previousStoreRoot.map normalizeProjectRoot).getD "" ∧
    normalizeProjectRoot s.app.projectRoot = (run.previousStoreRoot.map normalizeProjectRoot).getD ""
  rw [hfits.previousStore, ← hfits.previous]
  exact ⟨hroots, rfl⟩

theorem RaceOk.switchNext (hok : RaceOk s) (hrun : s.switch = some run) (hspares : SessionSpares s .switchNext) :
    RaceOk (s.switchNext run) := by
  have hspares := hspares run hrun
  cases hstage : run.stage with
  | entered => exact hok.entered hrun hstage
  | runsChecked root => exact hok.runsChecked hrun hstage
  | rendersChecked root => exact hok.rendersChecked hrun hstage
  | ready =>
    rw [hstage] at hspares
    exact hok.ready hrun hstage hspares
  | syncing h =>
    rw [hstage] at hspares
    exact hok.syncing hrun hstage hspares
  | synced =>
    rw [hstage] at hspares
    exact hok.synced hrun hstage hspares.1 hspares.2
  | watched =>
    rw [hstage] at hspares
    exact hok.watched hrun hstage hspares
  | stored => exact hok.stored hrun hstage
  | saved => exact hok.saved hrun hstage
  | restoring =>
    rw [hstage] at hspares
    exact hok.restoring hrun hstage hspares
  | restoringDirectory h =>
    rw [hstage] at hspares
    exact hok.restoringDirectory hrun hstage hspares.1 hspares.2
  | restoringStore =>
    rw [hstage] at hspares
    exact hok.restoringStore hrun hstage hspares

end SwitchSteps

/-! ## A run -/

/-- What one step preserves. -/
theorem RaceOk.step {s : ProjectSession} (hok : RaceOk s) (t : ProjectStep) (hspares : SessionSpares s t) : RaceOk (s.step t) := by
  cases t with
  | submitExecute callId request => exact hok.submitExecute callId request hspares
  | beginExecute callId o => exact hok.beginExecute callId o
  | endExecute callId o => exact hok.endExecute callId o
  | readRender jobId request => exact hok.readRender jobId request
  | listRender jobId => exact hok.listRender jobId hspares
  | startRender jobId => exact hok.startRender jobId
  | prepareRender jobId o => exact hok.prepareRender jobId o
  | answerRender jobId o => exact hok.answerRender jobId o
  | finishRender jobId => exact hok.finishRender jobId
  | submitApply claimId turnId turnRoot path => exact hok.submitApply claimId turnId turnRoot path
  | registerApply claimId => exact hok.registerApply claimId hspares
  | admitApply claimId proceeds => exact hok.admitApply claimId proceeds
  | writeApply claimId => exact hok.writeApply claimId
  | finishApply claimId => exact hok.finishApply claimId
  | enterSwitch target outcome => exact hok.enterSwitch target outcome
  | switchNext =>
    cases hrun : s.switch with
    | none =>
      unfold ProjectSession.step
      simp only [hrun]
      exact hok
    | some run =>
      unfold ProjectSession.step
      simp only [hrun]
      exact hok.switchNext hrun hspares

theorem raceOk_start {app : AppState} (hcontext : app.context ≠ none) (htogether : Together app.roots) :
    RaceOk (.start app) := by
  refine ⟨hcontext, fun _ he => (List.not_mem_nil he).elim, ?_, ?_, ?_, fun _ => ⟨htogether, rfl⟩, ?_⟩
  · intro callId c hget
    cases hget
  · intro jobId r hget
    cases hget
  · intro claimId a hget
    cases hget
  · intro run hrun
    cases hrun

end RaceAux

/-! ## The condition can be evaluated -/

section Decidable

instance decidableForallSome {α : Type} (o : Option α) (P : α → Prop) [DecidablePred P] : Decidable (∀ a, o = some a → P a) :=
  match o with
  | none => .isTrue nofun
  | some a => decidable_of_iff (P a) ⟨fun h _ heq => Option.some.inj heq ▸ h, fun h => h a rfl⟩

instance : Fintype DispatchStep :=
  ⟨{.activeRoot, .claim, .snapshot, .createRun, .markRunning, .resultFile, .saveIdentity, .finishRun, .finishOperation,
      .plotArtifacts, .generatedFiles, .renderArtifact}, fun step => by cases step <;> decide⟩

instance (kernel : KernelOutcome) : Decidable (∃ result, kernel = .finished result) :=
  match kernel with
  | .error => .isFalse fun ⟨_, h⟩ => by cases h
  | .unreadable _ => .isFalse fun ⟨_, h⟩ => by cases h
  | .finished result => .isTrue ⟨result, rfl⟩

instance (o : SyncOutcome) : Decidable o.Answered :=
  inferInstanceAs (Decidable ((∃ result, o.conclude.kernel = .finished result) ∧ (∀ step, o.conclude.fault step = none) ∧
    o.recovery = none))

instance (o : SyncOutcome) : Decidable o.Honest :=
  decidable_of_iff (if o.carriedOut then o.Answered else ¬∃ result, o.conclude.kernel = .finished result) <| by
    unfold SyncOutcome.Honest
    split
    · exact Iff.rfl
    · exact not_exists

instance : DecidablePred Execution.Sound
  | .run recordedRoot workingDirectory submitted commits =>
    inferInstanceAs (Decidable (recordedRoot = some (normalizeProjectRoot workingDirectory) ∧ submitted = commits))
  | .write submitted commits => inferInstanceAs (Decidable (submitted = commits))

instance (r : EStateM.Result String AppState Handover) : Decidable (∃ h app, r = .ok h app) :=
  match r with
  | .ok h app => .isTrue ⟨h, app, rfl⟩
  | .error _ _ => .isFalse fun ⟨_, _, h⟩ => by cases h

instance (s : ProjectSession) (r : RenderCall) : DecidablePred (ReadsOpen s r)
  | .read root => inferInstanceAs (Decidable (r.submitted = s.commits ∧ normalizeProjectRoot root = s.app.store.projectRoot))
  | .waiting | .started | .executing _ | .answered _ => .isTrue trivial

instance (s : ProjectSession) (run : SwitchRun) : DecidablePred (SwitchSpares s run)
  | .ready => inferInstanceAs (Decidable (∀ callId c, s.calls.get callId = some c → c.stage.isWaiting = false))
  | .syncing _ => inferInstanceAs (Decidable run.outcome.sync.Honest)
  | .synced =>
    inferInstanceAs (Decidable (workspaceCandidateFault run.outcome s.app = none ∧ run.outcome.fault .startWatcher = none))
  | .watched => inferInstanceAs (Decidable (run.outcome.fault .setStoreRoot = none))
  | .restoring =>
    inferInstanceAs (Decidable (∃ h app, beginSync run.previousRoot run.outcome.restore s.app = .ok h app))
  | .restoringDirectory _ =>
    inferInstanceAs (Decidable (run.outcome.restore.carriedOut = true ∧ run.outcome.restore.Answered))
  | .restoringStore => inferInstanceAs (Decidable (run.outcome.fault .restoreStoreRoot = none))
  | .entered | .runsChecked _ | .rendersChecked _ | .stored | .saved => .isTrue trivial

instance (s : ProjectSession) : DecidablePred (SessionSpares s)
  | .submitExecute _ _ => inferInstanceAs (Decidable (∀ run, s.switch = some run → run.stage.pastSync = false))
  | .listRender jobId =>
    inferInstanceAs (Decidable ((∀ run, s.switch = some run → run.stage.pastRenders = false) ∧
      ∀ r, s.renders.get jobId = some r → ReadsOpen s r r.stage))
  | .registerApply claimId =>
    inferInstanceAs (Decidable (∀ a, s.applies.get claimId = some a →
      a.submitted = s.commits ∨ a.turnRoot ≠ normalizeProjectRoot s.app.projectRoot))
  | .switchNext => inferInstanceAs (Decidable (∀ run, s.switch = some run → SwitchSpares s run run.stage))
  | .beginExecute _ _ | .endExecute _ _ | .readRender _ _ | .startRender _ | .prepareRender _ _ | .answerRender _ _
  | .finishRender _ | .submitApply _ _ _ _ | .admitApply _ _ | .writeApply _ | .finishApply _ | .enterSwitch _ _ => .isTrue trivial

end Decidable

/-! ## The theorem -/

/-- In a session that starts with R, the store and what is shown at one project, and whose steps go right, every run is recorded
under the project that R is in, and what was submitted while a project was shown is executed before another is committed. -/
theorem commands_stay_in_their_project {app : AppState} (hcontext : app.context ≠ none)
    (htogether : RaceAux.Together app.roots) {trace : List ProjectStep}
    (hspares : Run.Along ProjectSession.step SessionSpares (.start app) trace) :
    ∀ e ∈ (Run.after ProjectSession.step (.start app) trace).executed, e.Sound := by
  have hstep : ∀ s t, RaceAux.RaceOk s → SessionSpares s t → RaceAux.RaceOk (s.step t) :=
    fun _ t hok hspare => hok.step t hspare
  exact (Run.invariant_along hstep (RaceAux.raceOk_start hcontext htogether) hspares).executed

/-! A call of `execute_r` in each of two projects. -/

def printRequest : ExecuteRequest := ⟨"print(1)", none, none, none, .null⟩

/-- R does what it is asked. -/
def setwdOk (executionId : String) : SyncOutcome :=
  ⟨⟨executionId, fun _ => none⟩, true, ⟨.finished (.obj [("ok", .bool true)]), fun _ => none⟩, none⟩

def switchOk : SwitchOutcome := ⟨fun _ => none, setwdOk "exec_sync", false, setwdOk "exec_restore"⟩

/-- One call before the switch, and one after it. -/
theorem commands_stay_in_two_projects :
    let trace : List ProjectStep :=
      [.submitExecute 0 printRequest, .beginExecute 0 ⟨"exec_1", fun _ => none⟩,
        .endExecute 0 ⟨.finished (.obj [("ok", .bool true)]), fun _ => none⟩, .enterSwitch "/b" switchOk] ++
      List.replicate 9 .switchNext ++ [.submitExecute 1 printRequest, .beginExecute 1 ⟨"exec_2", fun _ => none⟩]
    (Run.after ProjectSession.step (.start openedProject) trace).executed =
        [.run (some "/a") "/a" 0 0, .run (some "/a") "/a" 0 0, .run (some "/b") "/b" 1 1] ∧
      ∀ e ∈ (Run.after ProjectSession.step (.start openedProject) trace).executed, e.Sound := by
  refine ⟨by decide +kernel, commands_stay_in_their_project (Option.some_ne_none _) ?_ ?_⟩
  · exact ⟨by decide +kernel, by decide +kernel⟩
  · decide +kernel

/-- A call that is submitted while R has gone to the target and the store has not is recorded under the project that R has left. -/
theorem command_recorded_elsewhere :
    let trace : List ProjectStep :=
      .enterSwitch "/b" switchOk :: List.replicate 5 .switchNext ++
        [.submitExecute 0 printRequest, .beginExecute 0 ⟨"exec_1", fun _ => none⟩]
    (Run.after ProjectSession.step (.start openedProject) trace).executed =
        [.run (some "/a") "/a" 0 0, .run (some "/a") "/b" 0 0] ∧
      ¬∀ e ∈ (Run.after ProjectSession.step (.start openedProject) trace).executed, e.Sound := by
  have hexecuted : (Run.after ProjectSession.step (.start openedProject)
      (.enterSwitch "/b" switchOk :: List.replicate 5 .switchNext ++
        [.submitExecute 0 printRequest, .beginExecute 0 ⟨"exec_1", fun _ => none⟩])).executed =
      [.run (some "/a") "/a" 0 0, .run (some "/a") "/b" 0 0] := by
    decide +kernel
  refine ⟨hexecuted, ?_⟩
  intro hsound
  rw [hexecuted] at hsound
  have hrun : some "/a" = some (normalizeProjectRoot "/b") := (hsound _ (List.mem_cons_of_mem _ (List.mem_singleton_self _))).1
  exact absurd hrun (by decide +kernel)

end Rho
