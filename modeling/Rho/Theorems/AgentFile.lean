import Rho.Desktop.AgentFile
import Rho.Lib.Fallible

/-!
# What the writes of agents replace

A request holds the lane of its file from before it reads the file until after it has written it, so no other request comes between. A save
of the user does not take the lane: what a request replaces is what its ledger says as long as no save changes the file between the
request's read and its write.
-/

namespace Rho

open Proc AgentFileWorld

namespace AgentFile

variable (sha256 : List UInt8 → Vector UInt8 32)

/-- The digest of a file that is text. -/
def entryDigest : DiskEntry → Option String
  | .text content => some (textSha256 sha256 content)
  | .binary _ | .directory => none

/-- What was found at the path of a mutation has the digest that a ledger of the mutation expects. -/
def Backed (events : List FileEditEvent) (mutationId path : String) (entry : DiskEntry) : Prop :=
  ∃ event ∈ events, ∃ ledger, event.record = .mutationStarted ledger ∧ ledger.mutationId = mutationId ∧ ledger.path = path ∧
    ∃ digest, entryDigest sha256 entry = some digest ∧ ledger.expectedBeforeSha256 = some digest

/-- Whatever a mutation has replaced or deleted is what its ledger expected. -/
def Guarded (w : AgentFileWorld) : Prop :=
  ∀ r ∈ w.replaced, ∀ entry, r.found = some entry → Backed sha256 w.events r.mutationId r.path entry

/-- If there is something still, it has the digest of what was there. -/
def SameText (before after : Option DiskEntry) : Prop :=
  ∀ entry, after = some entry → ∃ entry', before = some entry' ∧ entryDigest sha256 entry = entryDigest sha256 entry'

/-- The next action of a request comes between its read and its write of the file, or is the write. -/
def Replacing (s : AgentFileSystem) (path : String) : Prop :=
  ∃ m, s.label? m = some (.pending path) ∨ s.label? m = some (.writing path)

/-- A save that leaves a file with another text is not made while a request is about to replace the file. -/
def Undisturbed (s : AgentFileSystem) : AgentFileStep → Prop
  | .act n input => ∀ path, s.label? n = some (.saving path) → Replacing s path →
      SameText sha256 (s.state.disk path) ((s.act n input).state.disk path)
  | _ => True

variable {sha256}

theorem sameText_refl (entry : Option DiskEntry) : SameText sha256 entry entry := fun e he => ⟨e, he, rfl⟩

theorem Backed.mono {events events' : List FileEditEvent} {mutationId path : String} {entry : DiskEntry}
    (h : Backed sha256 events mutationId path entry) (hevents : events <+: events') : Backed sha256 events' mutationId path entry := by
  obtain ⟨event, hevent, hledger⟩ := h
  exact ⟨event, hevents.subset hevent, hledger⟩

/-! ## What a program relies on and what it guarantees -/

variable (sha256) in
/-- What others leave to the program at place `n`. -/
structure Rely (n : Nat) (l : AgentFileAccess) (w w' : AgentFileWorld) : Prop where
  lanes : ∀ path, w.lanes path = some n → w'.lanes path = some n
  events : w.events <+: w'.events
  files : ∀ path, l = .pending path ∨ l = .writing path → w.lanes path = some n → SameText sha256 (w.disk path) (w'.disk path)

variable (sha256) in
/-- What an action of the program at place `n` leaves to others. -/
structure Guarantee (n : Nat) (l : AgentFileAccess) (w w' : AgentFileWorld) : Prop where
  lanes : ∀ path m, m ≠ n → w.lanes path = some m → w'.lanes path = some m
  events : w.events <+: w'.events
  files : ∀ path, w'.disk path = w.disk path ∨ w.lanes path = some n ∨ l = .saving path
  guarded : Guarded sha256 w → Guarded sha256 w'

/-- An action that leaves files and lanes alone. -/
structure Calm (w w' : AgentFileWorld) : Prop where
  disk : w'.disk = w.disk
  lanes : w'.lanes = w.lanes
  replaced : w'.replaced = w.replaced
  events : w.events <+: w'.events

theorem calm_refl (w : AgentFileWorld) : Calm w w := ⟨rfl, rfl, rfl, List.prefix_refl _⟩

/-- The system refuses an action, or it is taken. -/
theorem attempted_cases {α : Type} (f : AgentFileInput → AgentFileWorld → Except String α × AgentFileWorld) (i : AgentFileInput)
    (w : AgentFileWorld) : (∃ e, attempted f i w = (.error e, w)) ∨ attempted f i w = f i w := by
  unfold attempted
  cases i.fault with
  | some e => exact .inl ⟨e, rfl⟩
  | none => exact .inr rfl

/-- A change fails and leaves the world, or stands at the path. -/
theorem writeDisk_cases (w : AgentFileWorld) (path : String) (change : Option DiskEntry → Except String (Option DiskEntry)) :
    (∃ e, w.writeDisk path change = (.error e, w)) ∨ ∃ entry, change (w.disk path) = .ok entry ∧
      w.writeDisk path change = (.ok (), { w with disk := Function.update w.disk path entry }) := by
  unfold writeDisk
  cases change (w.disk path) with
  | error e => exact .inl ⟨e, rfl⟩
  | ok entry => exact .inr ⟨entry, rfl, rfl⟩

theorem replace_cases (w : AgentFileWorld) (mutationId path : String)
    (change : Option DiskEntry → Except String (Option DiskEntry)) :
    (∃ e, w.replace mutationId path change = (.error e, w)) ∨ ∃ entry, change (w.disk path) = .ok entry ∧
      w.replace mutationId path change = (.ok (), { w with
        disk := Function.update w.disk path entry
        replaced := w.replaced ++ [⟨mutationId, path, w.disk path⟩] }) := by
  unfold replace
  rcases writeDisk_cases w path change with ⟨e, heq⟩ | ⟨entry, hentry, heq⟩
  · exact .inl ⟨e, by rw [heq]⟩
  · exact .inr ⟨entry, hentry, by rw [heq]⟩

theorem calm_attempted {α : Type} {f : AgentFileInput → AgentFileWorld → Except String α × AgentFileWorld}
    (h : ∀ i w, Calm w (f i w).2) (i : AgentFileInput) (w : AgentFileWorld) : Calm w (attempted f i w).2 := by
  rcases attempted_cases f i w with ⟨e, heq⟩ | heq
  · rw [heq]
    exact calm_refl w
  · rw [heq]
    exact h i w

theorem calm_appendEvent (w : AgentFileWorld) (event : FileEditEvent) : Calm w (w.appendEvent event) :=
  ⟨rfl, rfl, rfl, List.prefix_append _ _⟩

theorem Guarded.of_events {w w' : AgentFileWorld} (h : Guarded sha256 w) (hreplaced : w'.replaced = w.replaced)
    (hevents : w.events <+: w'.events) : Guarded sha256 w' := by
  intro r hr entry hentry
  rw [hreplaced] at hr
  exact (h r hr entry hentry).mono hevents

theorem Calm.guarantee {w w' : AgentFileWorld} (h : Calm w w') (n : Nat) (l : AgentFileAccess) : Guarantee sha256 n l w w' where
  lanes path m _ hm := by rw [h.lanes]; exact hm
  events := h.events
  files path := .inl (by rw [h.disk])
  guarded hguarded := hguarded.of_events h.replaced h.events

/-- A condition that neither others nor calm actions end. -/
structure Steady (sha256 : List UInt8 → Vector UInt8 32) (n : Nat) (P : AgentFileWorld → Prop) : Prop where
  rely : ∀ l w w', P w → Rely sha256 n l w w' → P w'
  calm : ∀ w w', P w → Calm w w' → P w'

/-- The request at place `n` is in the lane of a file. -/
def Held (n : Nat) (path : String) (w : AgentFileWorld) : Prop := w.lanes path = some n

theorem steady_held (n : Nat) (path : String) : Steady sha256 n (Held n path) where
  rely _ _ _ h hrely := hrely.lanes path h
  calm _ _ h hcalm := by rw [Held, hcalm.lanes]; exact h

theorem steady_true (n : Nat) : Steady sha256 n fun _ => True := ⟨fun _ _ _ _ _ => trivial, fun _ _ _ _ => trivial⟩

/-- A program that keeps a condition up to either of its ends. -/
structure Within (sha256 : List UInt8 → Vector UInt8 32) (n : Nat) (P : AgentFileWorld → Prop) {α : Type} (x : AgentFileM α) :
    Prop where
  meets : ∀ w, P w → x.Meets (Rely sha256 n) (Guarantee sha256 n) (fun _ => P) (fun _ => P) w

section Within

variable {n : Nat} {P : AgentFileWorld → Prop} {α β : Type}

theorem within_done (a : α) : Within sha256 n P (.done a) := ⟨fun _ h => h⟩

theorem within_fail (e : String) : Within sha256 n P (.fail e : AgentFileM α) := ⟨fun _ h => h⟩

theorem within_lift (r : Except String α) : Within sha256 n P (liftM r) :=
  ⟨fun _ h => meets_lift (fun _ _ => h) fun _ _ => h⟩

variable {x : AgentFileM α} {l : AgentFileAccess}

theorem within_bind {g : α → AgentFileM β} (hx : Within sha256 n P x) (hg : ∀ a, Within sha256 n P (g a)) :
    Within sha256 n P (x >>= g) := ⟨fun w h => meets_bind (hx.meets w h) fun a t ht => (hg a).meets t ht⟩

theorem within_attempt (hx : Within sha256 n P x) : Within sha256 n P x.attempt :=
  ⟨fun w h => meets_attempt (hx.meets w h)⟩

theorem within_perform (hP : Steady sha256 n P) {f : AgentFileInput → AgentFileWorld → Except String α × AgentFileWorld}
    (hf : ∀ i w, Calm w (f i w).2) : Within sha256 n P (perform l f) := by
  refine ⟨fun w h => ?_⟩
  refine meets_perform P h (fun t u ht hrely => hP.rely l t u ht hrely) fun t i ht => ?_
  have hafter := hP.calm t _ ht (hf i t)
  exact ⟨(hf i t).guarantee n l, fun _ _ => hafter, fun _ _ => hafter⟩

theorem within_read (hP : Steady sha256 n P) {f : AgentFileWorld → Except String α} :
    Within sha256 n P (read l f) := within_perform hP fun _ w => calm_refl w

theorem within_append (hP : Steady sha256 n P) {event : FileEditEvent} :
    Within sha256 n P (appendAgentFileMutationEvent l event) :=
  within_perform hP (calm_attempted fun _ w => calm_appendEvent w event)

theorem within_await (hP : Steady sha256 n P) {f : AgentFileInput → AgentFileWorld → Option (α × AgentFileWorld)}
    (hf : ∀ i w a u, f i w = some (a, u) → Calm w u) : Within sha256 n P (await l f) := by
  refine ⟨fun w h => ?_⟩
  refine meets_await P h (fun t u ht hrely => hP.rely l t u ht hrely) fun t i a u ht hfa => ?_
  exact ⟨(hf i t a u hfa).guarantee n l, hP.calm t u ht (hf i t a u hfa)⟩

theorem within_guarded (hP : Steady sha256 n P) {release : AgentFileWorld → AgentFileWorld}
    (hrelease : ∀ w, Calm w (release w)) (hx : Within sha256 n P x) : Within sha256 n P (guarded l release x) := by
  refine ⟨fun w h => ?_⟩
  refine meets_guarded (M := fun _ => P) (hx.meets w h) (fun _ t u ht hrely => hP.rely l t u ht hrely)
    (fun _ t _ => (hrelease t).guarantee n l) ?_ ?_
  · exact fun _ t ht => hP.calm t _ ht (hrelease t)
  · exact fun _ t ht => hP.calm t _ ht (hrelease t)

theorem within_ensureFresh (hP : Steady sha256 n P) (stale : FileEditEvent) (message : String) (result : Except String α) :
    Within sha256 n P (ensureFresh stale message result) := by
  cases result with
  | ok a => exact within_done a
  | error e => exact within_bind (within_append hP) fun _ => within_fail message

theorem within_recordProjectChange (hP : Steady sha256 n P) : Within sha256 n P (recordAgentFileProjectChange n) := by
  refine within_bind (within_await hP ?_) fun _ => within_guarded hP ?_ (within_perform hP (calm_attempted fun _ w => calm_refl w))
  · intro _ w _ u hu
    unfold lockContext at hu
    split at hu
    · cases hu
    · cases hu
      exact ⟨rfl, rfl, rfl, List.prefix_refl _⟩
  · exact fun w => ⟨rfl, rfl, rfl, List.prefix_refl _⟩

theorem within_recordMutationEnd (hP : Steady sha256 n P) (turnId : String) (ledger : AgentFileMutationLedger) (record : FileEditRecord) :
    Within sha256 n P (recordMutationEnd n turnId ledger record) := by
  have hevent : Within sha256 n P (appendAgentFileMutationEvent .other (endEvent turnId ledger record)) := within_append hP
  have hend := within_bind (within_recordProjectChange hP) fun _ => hevent
  refine within_bind (within_attempt hend) fun result => ?_
  cases result with
  | ok _ => exact within_done ()
  | error e => exact within_bind (within_attempt (within_append hP)) fun _ => within_fail _

theorem within_writeFailure (hP : Steady sha256 n P) (turnId : String) (ledger : AgentFileMutationLedger) (error : String) :
    Within sha256 n P (agentFileWriteFailure sha256 turnId ledger error : AgentFileM α) := by
  refine within_bind (within_read hP) fun observation => ?_
  exact within_bind (within_attempt (within_append hP)) fun _ => within_fail _

theorem within_recoverEach (hP : Steady sha256 n P) (pending : List (String × String × AgentFileMutationLedger)) :
    Within sha256 n P (recoverEach sha256 pending) := by
  induction pending with
  | nil => exact within_done ()
  | cons p rest ih => exact within_bind (within_read hP) fun _ => within_bind (within_append hP) fun _ => ih

theorem within_available_apply (hP : Steady sha256 n P) (request : AgentFileApplyRequest) : Within sha256 n P request.available :=
  within_bind (within_read hP) fun _ => within_bind (within_lift _) fun _ => within_bind (within_lift _) fun _ =>
    within_bind (within_read hP) fun _ => within_done _

theorem within_available_undo (hP : Steady sha256 n P) (request : AgentFileUndoRequest) :
    Within sha256 n P (request.available sha256) :=
  within_bind (within_read hP) fun _ => within_bind (within_lift _) fun _ => within_bind (within_read hP) fun _ =>
    within_bind (within_lift _) fun _ => within_done _

end Within

/-! ## A lane and its request -/

section Lane

variable {n : Nat} {path : String} {α : Type}

/-- The request takes the lane, works in it and leaves it. -/
theorem within_inLane {turnId message : String} {cancelled : FileEditEvent} {body : AgentFileM α}
    (hbody : Within sha256 n (Held n path) body) :
    Within sha256 n (fun _ => True) (inLane n turnId path cancelled message body) := by
  have htrue : Steady sha256 n fun _ => True := steady_true n
  have hheld : Steady sha256 n (Held n path) := steady_held n path
  refine within_bind (within_perform htrue fun _ _ => ⟨rfl, rfl, rfl, List.prefix_refl _⟩) fun _ => ?_
  refine within_guarded htrue (fun w => ⟨rfl, rfl, rfl, List.prefix_refl _⟩) ⟨fun w _ => ?_⟩
  refine meets_bind (M := fun _ => Held n path) ?_ fun _ w hw => ?_
  · refine meets_await (fun _ => True) trivial (fun _ _ _ _ => trivial) fun t i _ u _ hu => ?_
    unfold enterLane at hu
    split at hu
    · cases hu
    · rename_i hfree
      cases hu
      refine ⟨⟨?_, List.prefix_refl _, fun _ => .inl rfl, fun h => h⟩, Function.update_self ..⟩
      intro path' m _ hm
      change Function.update t.lanes path (some n) path' = some m
      rw [Function.update_of_ne]
      · exact hm
      · rintro rfl
        rw [hfree] at hm
        cases hm
  · refine meets_guarded (M := fun _ => Held n path) ?_ (fun _ t u ht hrely => hheld.rely .other t u ht hrely) ?_
      (fun _ _ _ => trivial) (fun _ _ _ => trivial)
    · refine (within_bind (within_perform hheld ?_) fun admitted => ?_ : Within sha256 n (Held n path) _).meets w hw
      · intro _ w
        unfold beginRunning
        split
        · exact calm_refl w
        · split
          · exact calm_refl w
          · exact ⟨rfl, rfl, rfl, List.prefix_refl _⟩
      · unfold ifAdmitted
        split
        · exact hbody
        · exact within_bind (within_append hheld) fun _ => within_fail message
    · intro _ t ht
      refine ⟨?_, List.prefix_refl _, fun _ => .inl rfl, fun h => h⟩
      intro path' m hne hm
      change Function.update t.lanes path none path' = some m
      rw [Function.update_of_ne]
      · exact hm
      · rintro rfl
        exact hne (Option.some.inj (hm.symm.trans ht))

end Lane

/-! ## The write of a mutation -/

section Write

variable {n : Nat} {path : String}

variable (sha256) in
/-- If there is something at the path, it has the digest. -/
def FoundAs (path digest : String) (w : AgentFileWorld) : Prop := ∀ entry, w.disk path = some entry → entryDigest sha256 entry = some digest

variable {digest : String} {w w' : AgentFileWorld} {l : AgentFileAccess} {ledger : AgentFileMutationLedger} {turnId : String}
  {change : Option DiskEntry → Except String (Option DiskEntry)}

theorem FoundAs.of_sameText (h : FoundAs sha256 path digest w)
    (hsame : SameText sha256 (w.disk path) (w'.disk path)) : FoundAs sha256 path digest w' := by
  intro entry hentry
  obtain ⟨entry', hentry', hdigest⟩ := hsame entry hentry
  exact hdigest.trans (h entry' hentry')

theorem foundAs_of_diskDigest (h : diskDigest sha256 (w.disk path) = .ok digest) : FoundAs sha256 path digest w := by
  intro entry hentry
  rw [hentry] at h
  unfold diskDigest at h
  obtain ⟨entry', hentry', h⟩ := Fallible.bind_eq_ok h
  cases hentry'
  obtain ⟨-, -, h⟩ := Fallible.bind_eq_ok h
  obtain ⟨content, hcontent, h⟩ := Fallible.bind_eq_ok h
  cases h
  cases entry with
  | text c =>
    cases hcontent
    rfl
  | binary size => cases hcontent
  | directory => cases hcontent

/-- The lane is held and the file is as it was read. -/
structure ReadAs (sha256 : List UInt8 → Vector UInt8 32) (n : Nat) (path digest : String) (w : AgentFileWorld) : Prop where
  held : Held n path w
  found : FoundAs sha256 path digest w

theorem ReadAs.rely (h : ReadAs sha256 n path digest w)
    (hl : l = .pending path ∨ l = .writing path) (hrely : Rely sha256 n l w w') : ReadAs sha256 n path digest w' :=
  ⟨hrely.lanes path h.held, h.found.of_sameText (hrely.files path hl h.held)⟩

/-- The ledger stands in the events. -/
def Started (ledger : AgentFileMutationLedger) (w : AgentFileWorld) : Prop :=
  ∃ event ∈ w.events, event.record = .mutationStarted ledger

theorem Started.mono (h : Started ledger w) (hevents : w.events <+: w'.events) : Started ledger w' := by
  obtain ⟨event, hevent, hrecord⟩ := h
  exact ⟨event, hevents.subset hevent, hrecord⟩

/-- A write replaces nothing but what the ledger expects. -/
theorem meets_writeMutation (P : AgentFileWorld → Prop)
    (hrely : ∀ t u, P t → Rely sha256 n l t u → P u) (hheld : ∀ t, P t → Held n ledger.path t)
    (hfound : ∀ t, P t → ∀ entry, t.disk ledger.path = some entry → (∃ e, change (some entry) = .error e) ∨
      Backed sha256 t.events ledger.mutationId ledger.path entry) (hw : P w) :
    (writeMutation sha256 l turnId ledger change).Meets (Rely sha256 n) (Guarantee sha256 n) (fun _ => Held n ledger.path)
      (fun _ => Held n ledger.path) w := by
  refine meets_bind (M := fun _ => Held n ledger.path) (meets_attempt (meets_perform P hw hrely fun t i ht => ?_)) fun result t ht => ?_
  · have hfails : ∀ e, Guarantee sha256 n l t t ∧ (∀ a, (.error e : Except String Unit) = .ok a → Held n ledger.path t) ∧
        ∀ e', (.error e : Except String Unit) = .error e' → Held n ledger.path t :=
      fun e => ⟨(calm_refl t).guarantee n l, fun _ _ => hheld t ht, fun _ _ => hheld t ht⟩
    rcases attempted_cases (fun _ w => w.replace ledger.mutationId ledger.path change) i t with ⟨e, heq⟩ | heq
    · rw [heq]
      exact hfails e
    rcases replace_cases t ledger.mutationId ledger.path change with ⟨e, hreplace⟩ | ⟨entry, hchange, hreplace⟩
    · rw [heq, hreplace]
      exact hfails e
    · rw [heq, hreplace]
      refine ⟨⟨fun _ _ _ hm => hm, List.prefix_refl _, ?_, ?_⟩, fun _ _ => hheld t ht, fun _ _ => hheld t ht⟩
      · intro path'
        rcases eq_or_ne path' ledger.path with rfl | hne
        · exact .inr (.inl (hheld t ht))
        · exact .inl (Function.update_of_ne hne _ _)
      · intro hguarded r hr entry' hentry'
        rcases List.mem_append.mp hr with hr | hr
        · exact hguarded r hr entry' hentry'
        · obtain rfl := List.mem_singleton.mp hr
          rcases hfound t ht entry' hentry' with ⟨e, he⟩ | hbacked
          · rw [show t.disk ledger.path = some entry' from hentry', he] at hchange
            cases hchange
          · exact hbacked
  · cases result with
    | ok _ => exact ht
    | error e => exact (within_writeFailure (steady_held n ledger.path) turnId ledger e).meets t ht

/-- The record of a start, while the file stays as it was read. -/
theorem meets_startMutation {ledger : String → AgentFileMutationLedger}
    (P : AgentFileWorld → Prop) (hrely : ∀ t u, P t → Rely sha256 n l t u → P u) (hcalm : ∀ t u, P t → Calm t u → P u)
    (hheld : ∀ t, P t → Held n path t) (hw : P w) : (startMutation l turnId ledger).Meets (Rely sha256 n) (Guarantee sha256 n)
      (fun started t => (∃ mutationId, started = ledger mutationId) ∧ Started started t ∧ P t) (fun _ => Held n path) w := by
  refine meets_perform P hw hrely fun t i ht => ?_
  rcases attempted_cases (fun i w =>
      (.ok (ledger ("agent_file_mutation_" ++ i.uuid)),
        w.appendEvent (endEvent turnId (ledger ("agent_file_mutation_" ++ i.uuid))
          (.mutationStarted (ledger ("agent_file_mutation_" ++ i.uuid)))))) i t with ⟨e, heq⟩ | heq
  · dsimp only
    rw [heq]
    refine ⟨(calm_refl t).guarantee n l, ?_, fun _ _ => hheld t ht⟩
    intro _ h
    cases h
  · dsimp only
    rw [heq]
    have hcalmed := calm_appendEvent t (endEvent turnId (ledger ("agent_file_mutation_" ++ i.uuid))
      (.mutationStarted (ledger ("agent_file_mutation_" ++ i.uuid))))
    refine ⟨hcalmed.guarantee n l, ?_, ?_⟩
    · intro started hstarted
      cases hstarted
      exact ⟨⟨_, rfl⟩, ⟨_, List.mem_append_right _ (List.mem_singleton_self _), rfl⟩, hcalm t _ ht hcalmed⟩
    · intro _ h
      cases h

/-- A read of the digest of a file in whose lane the request is. -/
theorem meets_readDigest (hw : Held n path w) :
    (read .other fun w => diskDigest sha256 (w.disk path) : AgentFileM String).Meets (Rely sha256 n) (Guarantee sha256 n)
      (fun digest => ReadAs sha256 n path digest) (fun _ => Held n path) w := by
  refine meets_perform (Held n path) hw (fun t u ht hrely => hrely.lanes path ht) fun t i ht => ?_
  exact ⟨(calm_refl t).guarantee n _, fun digest h => ⟨ht, foundAs_of_diskDigest h⟩, fun _ _ => ht⟩

theorem meets_ensureFresh {α : Type} {P : AgentFileWorld → Prop} (hheld : ∀ t, P t → Held n path t) (stale : FileEditEvent)
    (message : String) (result : Except String α) (hw : P w) :
    (ensureFresh stale message result).Meets (Rely sha256 n) (Guarantee sha256 n) (fun a t => result = .ok a ∧ P t)
      (fun _ => Held n path) w := by
  cases result with
  | ok a => exact ⟨rfl, hw⟩
  | error e =>
    refine meets_bind (M := fun _ => Held n path) ((within_append (steady_held n path)).meets w (hheld w hw)) fun _ t ht => ht

theorem meets_check {α : Type} {P : AgentFileWorld → Prop} (hheld : ∀ t, P t → Held n path t) (result : Except String α)
    (hw : P w) : (liftM result : AgentFileM α).Meets (Rely sha256 n) (Guarantee sha256 n) (fun a t => result = .ok a ∧ P t)
      (fun _ => Held n path) w := meets_lift (fun _ h => ⟨h, hw⟩) fun _ _ => hheld w hw

theorem ReadAs.calm (h : ReadAs sha256 n path digest w) (hcalm : Calm w w') : ReadAs sha256 n path digest w' :=
  ⟨by rw [Held, hcalm.lanes]; exact h.held, fun entry hentry => h.found entry (by rw [← hcalm.disk]; exact hentry)⟩

/-- A write of a file that is as it was read, under a ledger that expects what was read. -/
theorem meets_replace (hdigest : ledger.expectedBeforeSha256 = some digest)
    (hstarted : Started ledger w) (hread : ReadAs sha256 n ledger.path digest w) :
    (writeMutation sha256 (.writing ledger.path) turnId ledger change).Meets (Rely sha256 n) (Guarantee sha256 n)
      (fun _ => Held n ledger.path) (fun _ => Held n ledger.path) w := by
  refine meets_writeMutation (fun t => Started ledger t ∧ ReadAs sha256 n ledger.path digest t)
    (fun t u ht hrely => ⟨ht.1.mono hrely.events, ht.2.rely (.inr rfl) hrely⟩) (fun t ht => ht.2.held) ?_ ⟨hstarted, hread⟩
  rintro t ⟨⟨event, hevent, hrecord⟩, hread⟩ entry hentry
  exact .inr ⟨event, hevent, ledger, hrecord, rfl, rfl, digest, hread.found entry hentry, hdigest⟩

/-- A file that is created replaces nothing. -/
theorem meets_create {content : String} (hheld : Held n ledger.path w) :
    (writeMutation sha256 .other turnId ledger (atomicWriteNew content)).Meets (Rely sha256 n) (Guarantee sha256 n)
      (fun _ => Held n ledger.path) (fun _ => Held n ledger.path) w :=
  meets_writeMutation (Held n ledger.path) (fun _ _ ht hrely => hrely.lanes _ ht) (fun _ ht => ht)
    (fun _ _ _ _ => .inl ⟨_, rfl⟩) hheld

end Write

/-! ## The programs -/

section Programs

variable {n : Nat}

variable {w : AgentFileWorld} {digest : String} {ledger : AgentFileMutationLedger}

/-- A program that is in the lane comes to its next part in the lane. -/
theorem meets_first {path : String} {α β : Type} {x : AgentFileM α} {g : α → AgentFileM β} {Q : β → AgentFileWorld → Prop}
    (hx : Within sha256 n (Held n path) x) (hw : Held n path w)
    (hg : ∀ a t, Held n path t → (g a).Meets (Rely sha256 n) (Guarantee sha256 n) Q (fun _ => Held n path) t) :
    (x >>= g).Meets (Rely sha256 n) (Guarantee sha256 n) Q (fun _ => Held n path) w := meets_bind (hx.meets w hw) hg

theorem meets_observeDigest_apply (request : AgentFileApplyRequest) (operation : String) (hw : Held n request.path w) :
    (request.observeDigest sha256 operation).Meets (Rely sha256 n) (Guarantee sha256 n)
      (fun actual t => ∃ digest, actual = some digest ∧ ReadAs sha256 n request.path digest t) (fun _ => Held n request.path) w := by
  have hheld : Steady sha256 n (Held n request.path) := steady_held n request.path
  refine meets_first (within_read hheld) hw fun found t ht => ?_
  refine meets_first (within_ensureFresh hheld _ _ _) ht fun _ t ht => ?_
  refine meets_bind (meets_readDigest ht) fun digest t ht => ?_
  refine meets_bind (meets_check (fun _ h => h.held) _ ht) fun expected t ht => ?_
  exact meets_bind (meets_ensureFresh (fun _ h => h.held) _ _ _ ht.2) fun _ t ht => ⟨digest, rfl, ht.2⟩

theorem meets_observeDigest_undo (request : AgentFileUndoRequest) (operation : String) (hw : Held n request.path w) :
    (request.observeDigest sha256 operation).Meets (Rely sha256 n) (Guarantee sha256 n)
      (fun digest => ReadAs sha256 n request.path digest) (fun _ => Held n request.path) w := by
  have hheld : Steady sha256 n (Held n request.path) := steady_held n request.path
  refine meets_first (within_read hheld) hw fun found t ht => ?_
  refine meets_first (within_ensureFresh hheld _ _ _) ht fun _ t ht => ?_
  refine meets_bind (meets_readDigest ht) fun digest t ht => ?_
  exact meets_bind (meets_ensureFresh (fun _ h => h.held) _ _ _ ht) fun _ t ht => ht.2

/-- The rest of an apply, with the content that it writes. -/
theorem within_applyProposal (request : AgentFileApplyRequest) (proposal : PersistedAgentFileProposal) :
    Within sha256 n (Held n request.path) (request.applyProposal sha256 n proposal) := by
  have hheld : Steady sha256 n (Held n request.path) := steady_held n request.path
  refine ⟨fun w hw => ?_⟩
  unfold AgentFileApplyRequest.applyProposal AgentFileApplyRequest.observe
  by_cases hcreate : proposal.operation = "create"
  · simp only [hcreate, decide_true, if_true]
    -- Nothing was there, and the write is refused if something is.
    refine (within_bind (P := Held n request.path) ?_ fun actual => within_bind (within_ensureFresh hheld _ _ _) fun edit => ?_).meets w hw
    · exact within_bind (within_lift _) fun _ => within_bind (within_read hheld) fun _ =>
        within_bind (within_ensureFresh hheld _ _ _) fun _ => within_done _
    · obtain ⟨content, start, finish⟩ := edit
      refine within_bind (within_lift _) fun _ => ⟨fun w hw => ?_⟩
      refine meets_bind (meets_startMutation (Held n request.path) (fun t u ht hrely => hrely.lanes _ ht) hheld.calm
        (fun _ ht => ht) hw) ?_
      rintro _ t ⟨⟨mutationId, rfl⟩, -, ht⟩
      exact meets_bind (meets_create ht) fun _ u hu => meets_bind ((within_recordMutationEnd hheld _ _ _).meets u hu) fun _ _ hv => hv
  · simp only [hcreate, decide_false, if_false]
    -- The file stays as it was read up to the write.
    refine meets_bind (meets_observeDigest_apply request proposal.operation hw) ?_
    rintro _ t ⟨digest, rfl, ht⟩
    refine meets_bind (meets_ensureFresh (fun _ h => h.held) _ _ _ ht) ?_
    rintro ⟨content, start, finish⟩ t ⟨-, ht⟩
    refine meets_bind (meets_check (fun _ h => h.held) _ ht) fun _ t ht => ?_
    refine meets_bind (meets_startMutation (ReadAs sha256 n request.path digest) (fun t u ht hrely => ht.rely (.inl rfl) hrely)
      (fun _ _ ht hcalm => ht.calm hcalm) (fun _ ht => ht.held) ht.2) ?_
    rintro _ t ⟨⟨mutationId, rfl⟩, hstarted, ht⟩
    exact meets_bind (meets_replace rfl hstarted ht) fun _ u hu => meets_bind ((within_recordMutationEnd hheld _ _ _).meets u hu) fun _ _ hv => hv

/-- The file that an apply has created is looked up once more and deleted. -/
theorem meets_deleteCreated {turnId : String} (hdigest : ledger.expectedBeforeSha256 = some digest) (hstarted : Started ledger w)
    (hread : ReadAs sha256 n ledger.path digest w) :
    (AgentFileUndoRequest.deleteCreated sha256 turnId ledger).Meets (Rely sha256 n) (Guarantee sha256 n)
      (fun _ => Held n ledger.path) (fun _ => Held n ledger.path) w := by
  have hboth : ∀ t u, Started ledger t ∧ ReadAs sha256 n ledger.path digest t → Rely sha256 n (.pending ledger.path) t u →
      Started ledger u ∧ ReadAs sha256 n ledger.path digest u :=
    fun t u ht hrely => ⟨ht.1.mono hrely.events, ht.2.rely (.inl rfl) hrely⟩
  refine meets_bind (M := fun _ t => Started ledger t ∧ ReadAs sha256 n ledger.path digest t) (meets_attempt (meets_perform
    (fun t => Started ledger t ∧ ReadAs sha256 n ledger.path digest t) ⟨hstarted, hread⟩ hboth fun t i ht =>
      ⟨(calm_refl t).guarantee n _, fun _ _ => ht, fun _ _ => ht⟩)) fun target t ht => ?_
  cases target with
  | ok _ => exact meets_replace hdigest ht.1 ht.2
  | error e => exact (within_writeFailure (steady_held n ledger.path) turnId ledger e).meets t ht.2.held

theorem meets_restore (request : AgentFileUndoRequest)
    (hpath : ledger.path = request.path) (hdigest : ledger.expectedBeforeSha256 = some digest)
    (hstarted : Started ledger w) (hread : ReadAs sha256 n request.path digest w) :
    (request.restore sha256 ledger).Meets (Rely sha256 n) (Guarantee sha256 n) (fun _ => Held n request.path)
      (fun _ => Held n request.path) w := by
  unfold AgentFileUndoRequest.restore
  rw [← hpath] at hread ⊢
  split
  · exact meets_deleteCreated hdigest hstarted hread
  · exact meets_replace hdigest hstarted hread

theorem within_undoProposal (request : AgentFileUndoRequest) (proposal : PersistedAgentFileProposal) :
    Within sha256 n (Held n request.path) (request.undoProposal sha256 n proposal) := by
  have hheld : Steady sha256 n (Held n request.path) := steady_held n request.path
  refine ⟨fun w hw => ?_⟩
  refine meets_bind (meets_observeDigest_undo request proposal.operation hw) fun digest t ht => ?_
  refine meets_bind (meets_startMutation (ReadAs sha256 n request.path digest) (fun t u ht hrely => ht.rely (.inl rfl) hrely)
    (fun _ _ ht hcalm => ht.calm hcalm) (fun _ ht => ht.held) ht) ?_
  rintro _ t ⟨⟨mutationId, rfl⟩, hstarted, ht⟩
  exact meets_bind (meets_restore request rfl rfl hstarted ht) fun _ u hu =>
    meets_bind ((within_recordMutationEnd hheld _ _ _).meets u hu) fun _ _ hv => hv

theorem within_apply (request : AgentFileApplyRequest) :
    Within sha256 n (fun _ => True) (applyAgentFileEditState sha256 n request) := by
  unfold applyAgentFileEditState
  refine within_bind (within_lift _) fun _ => within_bind (within_lift _) fun _ => within_bind (within_lift _) fun _ =>
    within_bind (within_lift _) fun _ => within_bind (within_lift _) fun _ =>
    within_bind (within_read (steady_true n)) fun _ => within_inLane ?_
  exact within_bind (within_available_apply (steady_held n request.path) request) fun proposal => within_applyProposal request proposal

theorem within_undo (request : AgentFileUndoRequest) :
    Within sha256 n (fun _ => True) (undoAgentFileEditState sha256 n request) := by
  unfold undoAgentFileEditState
  refine within_bind (within_lift _) fun _ => within_bind (within_lift _) fun _ => within_bind (within_lift _) fun _ =>
    within_bind (within_lift _) fun _ => within_bind (within_lift _) fun _ => within_inLane ?_
  exact within_bind (within_available_undo (steady_held n request.path) request) fun proposal => within_undoProposal request proposal

/-- A save changes the file that it names and no other. -/
theorem within_save (path : String) (change : Option DiskEntry → Except String (Option DiskEntry)) :
    Within sha256 n (fun _ => True)
      (perform (.saving path) (attempted fun _ w => w.writeDisk path change) : AgentFileM Unit) := by
  refine ⟨fun w _ => ?_⟩
  refine meets_perform (fun _ => True) trivial (fun _ _ _ _ => trivial) fun t i _ => ⟨?_, fun _ _ => trivial, fun _ _ => trivial⟩
  rcases attempted_cases (fun _ w => w.writeDisk path change) i t with ⟨e, heq⟩ | heq
  · rw [heq]
    exact (calm_refl t).guarantee n _
  rcases writeDisk_cases t path change with ⟨e, hwrite⟩ | ⟨entry, -, hwrite⟩
  · rw [heq, hwrite]
    exact (calm_refl t).guarantee n _
  · rw [heq, hwrite]
    refine ⟨fun _ _ _ hm => hm, List.prefix_refl _, ?_, fun h => h.of_events rfl (List.prefix_refl _)⟩
    intro path'
    rcases eq_or_ne path' path with rfl | hne
    · exact .inr (.inr rfl)
    · exact .inl (Function.update_of_ne hne _ _)

theorem within_underContext {save : AgentFileM Unit} (hsave : Within sha256 n (fun _ => True) save) :
    Within sha256 n (fun _ => True) (underContext n save) := by
  have htrue : Steady sha256 n fun _ => True := steady_true n
  refine within_bind (within_await htrue ?_) fun _ => within_guarded htrue (fun w => ⟨rfl, rfl, rfl, List.prefix_refl _⟩)
    (within_bind hsave fun _ => within_perform htrue (calm_attempted fun _ w => calm_refl w))
  intro _ w _ u hu
  unfold lockContext at hu
  split at hu
  · cases hu
  · cases hu
    exact ⟨rfl, rfl, rfl, List.prefix_refl _⟩

/-- Every program of the system keeps its guarantees. -/
theorem within_program (command : AgentFileCommand) : Within sha256 n (fun _ => True) (command.program sha256 n) := by
  have htrue : Steady sha256 n fun _ => True := steady_true n
  cases command with
  | apply request => exact within_bind (within_apply request) fun _ => within_done ()
  | undo request => exact within_bind (within_undo request) fun _ => within_done ()
  | write path content =>
    unfold AgentFileCommand.program projectWriteFile
    exact within_bind (within_lift _) fun _ => within_bind (within_lift _) fun _ => within_bind (within_lift _) fun _ =>
      within_underContext (within_save _ _)
  | create path content =>
    unfold AgentFileCommand.program projectCreateFile
    exact within_bind (within_lift _) fun _ => within_bind (within_lift _) fun _ => within_bind (within_lift _) fun _ =>
      within_bind (within_read htrue) fun _ => within_underContext (within_save _ _)
  | delete path =>
    unfold AgentFileCommand.program projectDeleteFile
    exact within_underContext (within_bind (within_lift _) fun _ => within_bind (within_lift _) fun _ =>
      within_bind (within_read htrue) fun _ => within_save _ _)
  | recover => exact within_bind (within_read htrue) fun _ => within_recoverEach htrue _

end Programs

/-! ## Runs -/

variable (sha256) in
/-- The invariant of a run: what has been replaced is guarded, and every program meets its guarantees from here on. -/
structure SystemOk (s : AgentFileSystem) : Prop where
  guarded : Guarded sha256 s.state
  meets : s.Meets (Rely sha256) (Guarantee sha256)

/-- An action of one program leaves to another what it relies on, unless it is a save that comes between. -/
theorem rely_of_guarantee {s : AgentFileSystem} {n m : Nat} {l l' : AgentFileAccess} {input : AgentFileInput}
    (hundisturbed : Undisturbed sha256 s (.act n input)) (hl : s.label? n = some l) (hl' : s.label? m = some l') (hne : m ≠ n)
    (h : Guarantee sha256 n l s.state (s.act n input).state) : Rely sha256 m l' s.state (s.act n input).state where
  lanes path hm := h.lanes path m hne hm
  events := h.events
  files path hreplacing hm := by
    rcases h.files path with hsame | hn | rfl
    · rw [hsame]
      exact sameText_refl _
    · exact absurd (Option.some.inj (hm.symm.trans hn)) hne
    · refine hundisturbed path hl ⟨m, ?_⟩
      rcases hreplacing with rfl | rfl
      · exact .inl hl'
      · exact .inr hl'

theorem systemOk_step {s : AgentFileSystem} (hs : SystemOk sha256 s) (l : AgentFileStep) (hundisturbed : Undisturbed sha256 s l) :
    SystemOk sha256 (step sha256 s l) := by
  cases l with
  | start command => exact ⟨hs.guarded, hs.meets.start (((within_program command).meets _ trivial).mono (fun _ _ _ => trivial) fun _ _ _ => trivial)⟩
  | act n input =>
    refine ⟨?_, hs.meets.act fun l hl h m l' hne hl' => rely_of_guarantee hundisturbed hl hl' hne h⟩
    change Guarded sha256 (s.act n input).state
    rcases hs.meets.guarantee (n := n) (i := input) with heq | ⟨l, -, h⟩
    · rw [heq]
      exact hs.guarded
    · exact h.guarded hs.guarded
  | cancelTurn turnId =>
    exact ⟨hs.guarded, hs.meets.disturb fun _ _ _ => ⟨fun _ h => h, List.prefix_refl _, fun _ _ _ => sameText_refl _⟩⟩
  | work turns =>
    exact ⟨hs.guarded, hs.meets.disturb fun _ _ _ => ⟨fun _ h => h, List.prefix_refl _, fun _ _ _ => sameText_refl _⟩⟩
  | stop => exact ⟨hs.guarded, fun n x hx => nomatch hx⟩

/-- A project as it is found, before any mutation of this run. -/
def begun (w : AgentFileWorld) : AgentFileSystem := ⟨{ w with replaced := [] }, []⟩

/-- As long as no save comes between a request's read of a file and its write, whatever an apply or undo replaces or deletes is what its
ledger expects. -/
theorem replacements_expected (w : AgentFileWorld) (trace : List AgentFileStep)
    (hundisturbed : Run.Along (step sha256) (Undisturbed sha256) (begun w) trace) :
    Guarded sha256 (Run.after (step sha256) (begun w) trace).state := by
  have hstart : SystemOk sha256 (begun w) := ⟨nofun, nofun⟩
  exact (Run.invariant_along (I := SystemOk sha256) (fun _ l hs hc => systemOk_step hs l hc) hstart hundisturbed).guarded

/-! ## A save between the read and the write -/

section Decidable

theorem replacing_iff {s : AgentFileSystem} {path : String} :
    Replacing s path ↔ ∃ m ∈ List.range s.procs.length, s.label? m = some (.pending path) ∨ s.label? m = some (.writing path) := by
  have hlt : ∀ m l, s.label? m = some l → m < s.procs.length := by
    intro m l h
    obtain ⟨x, hx, -⟩ := Option.bind_eq_some_iff.mp h
    exact (List.getElem?_eq_some_iff.mp hx).1
  constructor
  · rintro ⟨m, hm⟩
    refine ⟨m, List.mem_range.mpr ?_, hm⟩
    rcases hm with hm | hm
    · exact hlt m _ hm
    · exact hlt m _ hm
  · rintro ⟨m, -, hm⟩
    exact ⟨m, hm⟩

instance (s : AgentFileSystem) (path : String) : Decidable (Replacing s path) := decidable_of_iff _ replacing_iff.symm

instance (before after : Option DiskEntry) : Decidable (SameText sha256 before after) :=
  match after with
  | none => .isTrue nofun
  | some entry =>
    match before with
    | none => .isFalse fun h => by
        obtain ⟨_, h, -⟩ := h entry rfl
        cases h
    | some entry' =>
      decidable_of_iff (entryDigest sha256 entry = entryDigest sha256 entry')
        ⟨fun h _ he => ⟨entry', rfl, Option.some.inj he ▸ h⟩, fun h => by
          obtain ⟨_, he, hdigest⟩ := h entry rfl
          exact Option.some.inj he ▸ hdigest⟩

instance (s : AgentFileSystem) : ∀ l, Decidable (Undisturbed sha256 s l)
  | .act n input =>
    match h : s.label? n with
    | some (.saving path) =>
      decidable_of_iff (Replacing s path → SameText sha256 (s.state.disk path) ((s.act n input).state.disk path)) <| by
        constructor
        · intro hsame path' hlabel
          cases h.symm.trans hlabel
          exact hsame
        · exact fun hall => hall path h
    | some .other | some (.pending _) | some (.writing _) | none => .isTrue fun _ hlabel => nomatch h.symm.trans hlabel
  | .start _ | .cancelTurn _ | .work _ | .stop => .isTrue trivial

end Decidable

end AgentFile

namespace SampleFile

open AgentFile

def base : String := "x <- 1\n"

def saved : String := "x <- 2\n"

/-- The digests of the two texts; what other texts have does not matter here. -/
def sha256 (bytes : List UInt8) : Vector UInt8 32 :=
  if bytes = bytesOf base then
    #v[0x66, 0xb7, 0xdd, 0x2c, 0x95, 0x67, 0x79, 0x66, 0xd7, 0xe3, 0x05, 0x32, 0xfe, 0x17, 0xac, 0x46,
      0x42, 0x55, 0x4f, 0x6c, 0xa9, 0xc4, 0x16, 0x52, 0x74, 0xd8, 0x43, 0x8f, 0xd9, 0xc5, 0xa2, 0x83]
  else if bytes = bytesOf saved then
    #v[0xcf, 0x1d, 0xe6, 0xed, 0xb8, 0x4f, 0x27, 0xbe, 0x9c, 0x23, 0xcc, 0xc5, 0x0b, 0xd6, 0x05, 0x48,
      0x70, 0x37, 0x98, 0xf4, 0xeb, 0x52, 0x00, 0x65, 0x30, 0x4b, 0x1b, 0xed, 0xfc, 0x45, 0x93, 0x30]
  else
    #v[0x52, 0xd6, 0xdd, 0x50, 0x96, 0xed, 0x56, 0xda, 0x07, 0xc7, 0x7d, 0x43, 0x0e, 0xf2, 0x25, 0xc9,
      0x18, 0x87, 0x36, 0x09, 0x65, 0x08, 0xb6, 0x60, 0x3d, 0x37, 0xc3, 0x73, 0x95, 0x23, 0x85, 0xa3]

/-- An agent has proposed to append a line to a script. -/
def world : AgentFileWorld where
  disk path := if path = "a.R" then some (.text base) else none
  turns turnId := if turnId = "turn-1" then some ⟨"completed", fun _ => .ok ⟨"a.R", "append", "y <- 2\n", none⟩⟩ else none
  events := []
  claims := []
  lanes _ := none
  context := none
  replaced := []

def request : AgentFileApplyRequest := ⟨"turn-1", 7, "a.R", some (textSha256 sha256 base), base⟩

/-- The ledger of the apply. -/
def appended : AgentFileMutationLedger where
  mutationId := "agent_file_mutation_0123"
  action := .apply
  path := "a.R"
  operation := "append"
  proposalEventId := 7
  expectedBeforeSha256 := some (textSha256 sha256 base)
  expectedBeforeAbsent := false
  restoreContentSha256 := some (textSha256 sha256 base)
  intendedAfterSha256 := some (textSha256 sha256 (base ++ "y <- 2\n"))
  intendedAfterAbsent := false

def acts (n count : Nat) : List AgentFileStep := List.replicate count (.act n ⟨none, "0123"⟩)

/-- The proposal is applied, and another file is saved after the request has read its own. -/
def otherSaved : List AgentFileStep :=
  [.start (.apply request)] ++ acts 0 8 ++ [.start (.write "b.R" saved)] ++ acts 1 4 ++ acts 0 10

/-- The same, and the save is of the file that the request has read. -/
def sameSaved : List AgentFileStep :=
  [.start (.apply request)] ++ acts 0 8 ++ [.start (.write "a.R" saved)] ++ acts 1 4 ++ acts 0 10

end SampleFile

namespace AgentFile

open SampleFile in
theorem replacements_expected_sample :
    Guarded SampleFile.sha256 (Run.after (step SampleFile.sha256) (begun world) otherSaved).state ∧
      (Run.after (step SampleFile.sha256) (begun world) otherSaved).state.replaced =
        [⟨"agent_file_mutation_0123", "a.R", some (.text base)⟩] :=
  ⟨replacements_expected world otherSaved (by decide +kernel), by decide +kernel⟩

open SampleFile in
/-- The user saves the script after the request has checked its digest, and the apply replaces what was saved. -/
theorem saved_text_overwritten :
    ¬ ∀ (w : AgentFileWorld) (trace : List AgentFileStep), Guarded SampleFile.sha256 (Run.after (step SampleFile.sha256) (begun w) trace).state := by
  intro h
  have hreplaced : (Run.after (step SampleFile.sha256) (begun world) sameSaved).state.replaced =
      [⟨"agent_file_mutation_0123", "a.R", some (.text saved)⟩] := by decide +kernel
  have hledgers : (Run.after (step SampleFile.sha256) (begun world) sameSaved).state.events.map (·.record) =
      [.mutationStarted appended, .applied "agent_file_mutation_0123"] := by decide +kernel
  obtain ⟨event, hevent, ledger, hrecord, -, -, digest, hdigest, hexpected⟩ := h world sameSaved _
    (by rw [hreplaced]; exact List.mem_singleton_self _) (.text saved) rfl
  have hledger : FileEditRecord.mutationStarted ledger ∈
      [FileEditRecord.mutationStarted appended, .applied "agent_file_mutation_0123"] := by
    rw [← hledgers, ← hrecord]
    exact List.mem_map_of_mem hevent
  simp only [List.mem_cons, FileEditRecord.mutationStarted.injEq, reduceCtorEq, List.not_mem_nil, or_false] at hledger
  rw [hledger] at hexpected
  exact absurd (hexpected.trans hdigest.symm) (by decide +kernel)

end AgentFile

end Rho
