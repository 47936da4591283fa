import Rho.Desktop.Switch
import Rho.Lemmas.Dispatch

/-!
# Where a project switch leaves the project

The root of the open project is kept in five places. A switch that says it is ready has moved all of them, and one that says it was
refused or undone has left all of them, exactly when R did what its answers are taken to mean; a fatal response promises nothing.
-/

namespace Rho

open Effect DispatchAux AppState

/-- The five places that know the open project. -/
@[ext] structure ProjectRoots where
  workingDirectory : String
  storeRoot : String
  projectRoot : String
  lastOpened : Option String
  watcher : Option String
  deriving DecidableEq, Repr

namespace AppState

def roots (a : AppState) : ProjectRoots where
  workingDirectory := a.workingDirectory
  storeRoot := a.store.projectRoot
  projectRoot := a.projectRoot
  lastOpened := a.lastOpened
  watcher := a.watcher

end AppState

/-- All five at one project. -/
def rootsAt (root : String) : ProjectRoots where
  workingDirectory := root
  storeRoot := normalizeProjectRoot root
  projectRoot := root
  lastOpened := some (displayPath root)
  watcher := some root

/-- What each end of a switch says about the five places. -/
def ResponseHolds (root : String) (before : ProjectRoots) : EStateM.Result String AppState SwitchResponse → Prop
  | .ok .ready a => a.roots = rootsAt root
  | .ok (.blocked _) a => a.roots = before
  | .ok (.failedRestored _ _ _) a => a.roots = before
  | .ok (.fatal _ _) _ => True
  | .error _ a => a.roots = before

/-- The switch leaves the five places as its end says. -/
def SwitchAgrees (root : String) (o : SwitchOutcome) (a : AppState) : Prop := ResponseHolds root a.roots (switchProject root o a)

/-! ## The way a switch takes -/

/-- How far a switch gets. -/
inductive SwitchBranch where
  /-- It ends before R is asked. -/
  | refused
  /-- R is asked, and no answer comes back or the recovery after it fails. -/
  | unanswered
  | committed
  | restored
  | fatal
  deriving DecidableEq, Repr

def restoreBranch (o : SwitchOutcome) (a stopped : AppState) : SwitchBranch :=
  match restoreProject a.projectRoot a.store.activeProjectRoot o stopped with
  | .ok _ _ => .restored
  | .error _ _ => .fatal

def commitBranch (root : String) (o : SwitchOutcome) (a synced : AppState) : SwitchBranch :=
  match prepareCommit root o synced with
  | .ok _ _ => .committed
  | .error _ stopped => restoreBranch o a stopped

def syncBranch (root : String) (o : SwitchOutcome) (a : AppState) : SwitchBranch :=
  match beginSync root o.sync a, syncWorkspaceProjectRoot root o.sync a with
  | .error _ _, _ => .refused
  | .ok _ _, .error _ _ => .unanswered
  | .ok _ _, .ok _ synced => commitBranch root o a synced

def switchBranch (root : String) (o : SwitchOutcome) (a : AppState) : SwitchBranch :=
  match checkSwitch o a, prepareSwitch o a with
  | .ok none, .ok _ => syncBranch root o a
  | _, _ => .refused

/-- What R has to do on each way. An answer is taken as the directory changed, an error as the directory kept, and the way back
leads to the root that was shown. -/
def BranchSound (root : String) (o : SwitchOutcome) (a : AppState) : SwitchBranch → Prop
  | .refused | .fatal => True
  | .unanswered => o.sync.carriedOut = false ∨ a.workingDirectory = root
  | .committed => o.sync.carriedOut = true ∨ a.workingDirectory = root
  | .restored =>
    if o.restore.carriedOut then a.workingDirectory = a.projectRoot
    else o.sync.carriedOut = false ∨ a.workingDirectory = root

/-- R does what it has to do on the way that the switch takes. -/
def SwitchSound (root : String) (o : SwitchOutcome) (a : AppState) : Prop := BranchSound root o a (switchBranch root o a)

namespace SwitchAux

/-! ## Sending R to a root -/

/-- The places after R was sent to a root. -/
def sent (root : String) (o : SyncOutcome) (r : ProjectRoots) : ProjectRoots :=
  if o.carriedOut then { r with workingDirectory := root } else r

theorem keeps_roots_onCoordinator {α : Type} {x : CoordinatorM α} (broker : BrokerState)
    (h : ∀ c, (final (x c)).store.projectRoot = c.store.projectRoot) :
    Keeps roots (onCoordinator broker x) := by
  intro a
  have hx := h { broker, store := a.store }
  unfold onCoordinator
  cases hr : x { broker, store := a.store } with
  | ok value c =>
    rw [hr] at hx
    exact ProjectRoots.mk.injEq .. ▸ ⟨rfl, hx, rfl, rfl, rfl⟩
  | error e c =>
    rw [hr] at hx
    exact ProjectRoots.mk.injEq .. ▸ ⟨rfl, hx, rfl, rfl, rfl⟩

theorem keeps_roots_beginSync (root : String) (o : SyncOutcome) : Keeps roots (beginSync root o) := by
  refine keeps_bind (keeps_get _) fun a => ?_
  refine keeps_bind (keeps_ofResult _ _) fun _ => ?_
  refine keeps_bind (keeps_ofResult _ _) fun broker => ?_
  exact keeps_roots_onCoordinator broker (projectRoot_prepareDispatch _ _)

theorem keeps_roots_endSync (h : Handover) (o : SyncOutcome) : Keeps roots (endSync h o) := by
  refine keeps_bind (keeps_get _) fun a => ?_
  refine keeps_bind (keeps_ofResult _ _) fun broker => ?_
  refine keeps_bind (keeps_roots_onCoordinator broker (projectRoot_concludeDispatch _ _)) fun _ => ?_
  exact keeps_attempt _ _

theorem roots_changeDirectory (root : String) (o : SyncOutcome) (a : AppState) :
    (final (changeDirectory root o a)).roots = sent root o a.roots := by
  change roots (if o.carriedOut then { a with workingDirectory := root } else a) = sent root o a.roots
  unfold sent
  split
  · rfl
  · rfl

/-- A request that does not reach R leaves everything; one that does moves R's directory at most, whether it succeeds or fails. -/
theorem roots_sync (root : String) (o : SyncOutcome) (a : AppState) : match beginSync root o a with
    | .error _ _ => ∃ e a', syncWorkspaceProjectRoot root o a = .error e a' ∧ a'.roots = a.roots
    | .ok _ _ => (final (syncWorkspaceProjectRoot root o a)).roots = sent root o a.roots := by
  have hbegin := keeps_roots_beginSync root o a
  cases hb : beginSync root o a with
  | error e a' =>
    rw [hb] at hbegin
    refine ⟨e, a', ?_, hbegin⟩
    change EStateM.bind (beginSync root o) _ a = _
    simp only [EStateM.bind, hb]
  | ok h a' =>
    rw [hb] at hbegin
    have hsync : syncWorkspaceProjectRoot root o a = (changeDirectory root o >>= fun _ => endSync h o) a' := by
      change EStateM.bind (beginSync root o) _ a = _
      simp only [EStateM.bind, hb]
    have hend : final (syncWorkspaceProjectRoot root o a) = final (endSync h o (final (changeDirectory root o a'))) := by
      rw [hsync]
      rfl
    have hkept : roots a' = a.roots := hbegin
    simp only [hend, keeps_roots_endSync h o _, roots_changeDirectory, hkept]

/-- A request that was answered moves R's directory at most. -/
theorem roots_of_sync_ok {root : String} {o : SyncOutcome} {a a' : AppState} {u : Unit}
    (h : syncWorkspaceProjectRoot root o a = .ok u a') : a'.roots = sent root o a.roots := by
  have hroots := roots_sync root o a
  rw [h] at hroots
  cases hb : beginSync root o a with
  | error e b =>
    rw [hb] at hroots
    obtain ⟨e', b', habs, -⟩ := hroots
    cases habs
  | ok hand b =>
    rw [hb] at hroots
    exact hroots

/-! ## The other places -/

/-- The steps before the commit have moved the store's root and the last opened project, or have stopped with at most the store's
root moved. -/
theorem roots_prepareCommit (root : String) (o : SwitchOutcome) (a : AppState) : Ends
      (fun _ a' => a'.roots = { a.roots with storeRoot := normalizeProjectRoot root, lastOpened := some (displayPath root) })
      (fun _ a' => ∃ storeRoot, a'.roots = { a.roots with storeRoot }) (prepareCommit root o a) := by
  have hunmoved : ∃ storeRoot, a.roots = { a.roots with storeRoot } := ⟨a.store.projectRoot, rfl⟩
  have hmoved : (a.store.setProjectRoot (some (normalizeProjectRoot root))).projectRoot = normalizeProjectRoot root :=
    normalizeProjectRoot_idem root
  unfold prepareCommit attemptStep
  refine ends_get ?_
  refine ends_attempt_bind (fun _ _ => hunmoved) fun _ => ?_
  refine ends_attempt_bind (fun _ _ => hunmoved) fun _ => ?_
  refine ends_attempt_bind (fun _ _ => hunmoved) fun _ => ?_
  refine ends_bind (P := fun _ a' => a'.roots = { a.roots with storeRoot := normalizeProjectRoot root }) ?_ ?_
  · exact congrArg (fun storeRoot => { a.roots with storeRoot }) hmoved
  intro _ c hc
  refine ends_attempt_bind (fun _ _ => ⟨_, hc⟩) fun _ => ?_
  exact congrArg (fun r : ProjectRoots => { r with lastOpened := some (displayPath root) }) hc

/-- The way back, when it succeeds, ends with the store's root as it was. -/
theorem roots_restoreProject {previousRoot : String} {previousStoreRoot : Option String} {o : SwitchOutcome} {a a' : AppState}
    {u : Unit} (h : restoreProject previousRoot previousStoreRoot o a = .ok u a') :
    a'.roots = { sent previousRoot o.restore a.roots with storeRoot := (previousStoreRoot.map normalizeProjectRoot).getD "" } := by
  unfold restoreProject at h
  obtain ⟨_, b, hsync, hrest⟩ := bind_ok h
  obtain ⟨_, c, hfault, hset⟩ := bind_ok hrest
  obtain ⟨_, rfl⟩ := attempt_ok hfault
  cases hset
  have hroots : c.roots = sent previousRoot o.restore a.roots := roots_of_sync_ok hsync
  exact congrArg (fun r : ProjectRoots => { r with storeRoot := (previousStoreRoot.map normalizeProjectRoot).getD "" }) hroots

/-- The store's root, read and written back. -/
theorem normalize_activeProjectRoot (s : Store) : (s.activeProjectRoot.map normalizeProjectRoot).getD "" = s.projectRoot := by
  unfold Store.activeProjectRoot
  split
  · next h => exact h.symm
  · exact s.normalized

theorem roots_logEvent (a : AppState) (kind : String) : (a.logEvent kind).roots = a.roots := rfl

theorem roots_commitSwitch (root : String) (o : SwitchOutcome) (a : AppState) :
    (commitSwitch root o a).roots = { a.roots with projectRoot := root, watcher := some root } := by
  unfold commitSwitch publishCandidates
  rw [roots_logEvent]
  split
  · rfl
  · rfl

/-! ## The whole switch -/

theorem switchProject_eq (root : String) (o : SwitchOutcome) (a : AppState) : switchProject root o a =
      match checkSwitch o a with
      | .error e => .error e a
      | .ok (some blocker) => .ok (.blocked blocker) (a.logEvent "project_switch_blocked")
      | .ok none =>
        match prepareSwitch o a with
        | .error e => .error e a
        | .ok _ =>
          match syncWorkspaceProjectRoot root o.sync a with
          | .error e a' => .error e a'
          | .ok _ a' =>
            match prepareCommit root o a' with
            | .ok _ b => .ok .ready (commitSwitch root o b)
            | .error failure b => recoverFailedProjectSwitch a.projectRoot a.store.activeProjectRoot o failure b := by
  unfold switchProject
  change EStateM.bind (ofResult (checkSwitch o a)) _ a = _
  cases checkSwitch o a with
  | error e => rfl
  | ok blocker =>
    cases blocker with
    | some blocker => rfl
    | none =>
      change EStateM.bind (ofResult (prepareSwitch o a)) _ a = _
      cases prepareSwitch o a with
      | error e => rfl
      | ok u =>
        change EStateM.bind (syncWorkspaceProjectRoot root o.sync) _ a = _
        unfold EStateM.bind
        cases syncWorkspaceProjectRoot root o.sync a with
        | error e a' => rfl
        | ok u a' =>
          change handle (prepareCommit root o) _ _ a' = _
          unfold handle
          cases hcommit : prepareCommit root o a' with
          | ok u b =>
            simp only [hcommit]
            rfl
          | error failure b => simp only [hcommit]

/-- R's directory after it was sent to one root, another place was moved, and it was sent back. -/
theorem sent_sent_eq_iff (root : String) (o o' : SyncOutcome) (a : AppState) (storeRoot : String) :
    { sent a.projectRoot o' { sent root o a.roots with storeRoot } with storeRoot := a.store.projectRoot } = a.roots ↔
      if o'.carriedOut then a.workingDirectory = a.projectRoot else o.carriedOut = false ∨ a.workingDirectory = root := by
  unfold sent roots
  cases o'.carriedOut with
  | true =>
    cases o.carriedOut with
    | true => simp [eq_comm]
    | false => simp [eq_comm]
  | false =>
    cases o.carriedOut with
    | true => simp [eq_comm]
    | false => simp

theorem sent_eq_iff (root : String) (o : SyncOutcome) (r : ProjectRoots) :
    sent root o r = r ↔ o.carriedOut = false ∨ r.workingDirectory = root := by
  unfold sent
  cases o.carriedOut with
  | true => simp [ProjectRoots.ext_iff, eq_comm]
  | false => simp

/-- R and the places that the commit moves are at the target exactly when R's directory is. -/
theorem committed_eq_iff (root : String) (o : SyncOutcome) (r : ProjectRoots) : { sent root o r with
        storeRoot := normalizeProjectRoot root
        lastOpened := some (displayPath root)
        projectRoot := root
        watcher := some root } = rootsAt root ↔ o.carriedOut = true ∨ r.workingDirectory = root := by
  unfold sent rootsAt
  cases o.carriedOut with
  | true => simp
  | false => simp

/-- The rest of the switch once R has answered. -/
theorem commit_agrees (root : String) (o : SwitchOutcome) (a synced : AppState) (hsynced : synced.roots = sent root o.sync a.roots) :
    ResponseHolds root a.roots (match prepareCommit root o synced with
        | .ok _ b => .ok .ready (commitSwitch root o b)
        | .error failure b => recoverFailedProjectSwitch a.projectRoot a.store.activeProjectRoot o failure b) ↔
      BranchSound root o a (commitBranch root o a synced) := by
  have hcommit := roots_prepareCommit root o synced
  unfold commitBranch
  rcases h : prepareCommit root o synced with ⟨u, b⟩ | ⟨failure, b⟩
  · rw [h, hsynced] at hcommit
    change (commitSwitch root o b).roots = rootsAt root ↔ _
    rw [roots_commitSwitch, show b.roots = _ from hcommit]
    exact committed_eq_iff root o.sync a.roots
  · rw [h, hsynced] at hcommit
    obtain ⟨storeRoot, hstopped⟩ := hcommit
    simp only
    unfold recoverFailedProjectSwitch restoreBranch handle
    rcases hrestore : restoreProject a.projectRoot a.store.activeProjectRoot o b with ⟨u, c⟩ | ⟨e, c⟩
    · have hroots := roots_restoreProject hrestore
      rw [normalize_activeProjectRoot, hstopped] at hroots
      change c.roots = a.roots ↔ _
      rw [hroots]
      exact sent_sent_eq_iff root o.sync o.restore a storeRoot
    · exact iff_of_true trivial trivial

end SwitchAux

open SwitchAux

/-- A workspace open on `/a`, with nothing in progress. -/
def openedProject : AppState where
  shutdownStarted := false
  session := true
  context :=
    some
      { identity :=
          { workspaceId := "ws", kernelInstanceId := "kernel", executionSeq := 0, stateRevision := 0, projectRevision := 0 } }
  store :=
    { runs := .empty _, environmentOperations := .empty _, approvals := .empty _, projectRoot := "/a", normalized := rfl
      identity := none }
  workingDirectory := "/a"
  projectRoot := "/a"
  lastOpened := some "/a"
  watcher := some "/a"
  approvals := 0
  environmentApprovals := 0
  renderJobs := .empty _
  agentTasks := []
  fileMutations := []
  extensionCandidates := false
  startupLog := []

/-- R answers that it cannot change its directory. -/
def setwdError : SyncOutcome where
  prepare := { freshExecutionId := "exec_1", fault := fun _ => none }
  carriedOut := false
  conclude := { kernel := .finished (.obj [("ok", .bool false)]), fault := fun _ => none }
  recovery := none

/-- Only R's error goes wrong in this switch. -/
def setwdErrorOutcome : SwitchOutcome where
  fault := fun _ => none
  sync := setwdError
  publishRejected := false
  restore := setwdError

end Rho
