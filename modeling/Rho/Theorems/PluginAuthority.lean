import Rho.Desktop.PluginUninstall
import Rho.Theorems.GrantBatches
import Rho.Theorems.PermissionReplay
import Rho.Theorems.WasmHost

/-!
# What an uninstall and a replacement leave of a package's authority

The registry ends the requests and grants of a package that it finds in a list, and the store has cut the list off after a hundred
rows of the whole project. What is left afterwards is what stood behind them: an operation that succeeds has ended all authority of
the package exactly when none of its rows did.
-/

namespace Rho.PluginRegistry

open Effect PluginPermission Rows Fallible Table

/-! ## One row -/

variable {s : Surroundings} {root reasonCode message pluginId packageDigest : String} {db db' : PermissionDb}

variable {e : EventDraft} {written : PermissionDb} {crates : Crates} {now : Int} {grantId : String} {outcome : Outcome} {α : Type}
  {g : Grant} {x : PermissionM α} {root' reason : String} {r' : Registry}

/-- A row that is written with its event, or not at all. -/
theorem endGrant_some {uuid : Nat → String} {p : Grant → Bool} {f : Grant → Grant} {hf : ∀ g, (f g).grantId = g.grantId}
    (h : db.endGrant uuid p f hf e = .ok (some written)) :
    written.grants = db.grants.update p f hf ∧ written.requests = db.requests := by
  unfold PermissionDb.endGrant at h
  split at h
  · cases h
  · obtain ⟨w, hw, hsome⟩ := map_eq_ok h
    cases hsome
    obtain ⟨-, hrequests, hgrants, -⟩ := insertEvent_eq hw
    exact ⟨hgrants, hrequests⟩

theorem settleRequest_some {uuid : Nat → String} {p : Request → Bool} {f : Request → Request}
    {hf : ∀ r, (f r).requestId = r.requestId} (h : db.settleRequest uuid p f hf e = .ok (some written)) :
    written.requests = db.requests.update p f hf ∧ written.grants = db.grants := by
  unfold PermissionDb.settleRequest at h
  split at h
  · cases h
  · obtain ⟨w, hw, hsome⟩ := map_eq_ok h
    cases hsome
    obtain ⟨-, hrequests, hgrants, -⟩ := insertEvent_eq hw
    exact ⟨hrequests, hgrants⟩

/-- A revocation that is settled has closed the grant and touched no other row. -/
theorem swept_of_revokeGrant {uuid : Nat → String}
    (h : db.revokeGrant crates now uuid root grantId reasonCode = .ok (outcome, db')) (hsettled : isSettled outcome = true) :
    Table.Swept Grant.isActive [grantId] db.grants db'.grants ∧ db'.requests = db.requests := by
  unfold PermissionDb.revokeGrant at h
  obtain ⟨root', -, h⟩ := bind_eq_ok h
  obtain ⟨-, -, h⟩ := bind_eq_ok h
  obtain ⟨reason, -, h⟩ := bind_eq_ok h
  split at h
  · cases h
    cases hsettled
  · rename_i current hfound
    obtain ⟨hget, hroot⟩ := get_of_getGrant hfound
    split at h
    · rename_i hclosed
      cases h
      refine ⟨swept_of_closed ?_, rfl⟩
      intro g hg
      rw [hget] at hg
      cases hg
      exact isActive_eq_false.mpr hclosed
    · obtain ⟨o, ho, h⟩ := bind_eq_ok h
      cases o with
      | none =>
        cases h
        cases hsettled
      | some written =>
        cases h
        obtain ⟨hgrants, hrequests⟩ := endGrant_some ho
        refine ⟨?_, hrequests⟩
        rw [hgrants]
        refine swept_update _ ?_ ?_ ?_
        · exact fun g _ hg => (of_activeGrant hg).2.1
        · intro g hg hactive hid
          have hsame : g = current := by
            have hmem := get_of_mem hg
            rw [hid, hget] at hmem
            exact (Option.some.inj hmem).symm
          rw [hsame] at hactive hid ⊢
          simp [PermissionDb.activeGrant, hroot, hid, isActive_eq_true.mp hactive]
        · exact fun g => rfl

/-- A cancellation leaves the grants, and one that is settled has closed the request and touched no other. -/
theorem swept_of_cancelRequest {uuid : Nat → String} {requestId : String} {revision : Int}
    (h : db.cancelRequest crates now uuid root requestId revision reasonCode = .ok (outcome, db')) :
    (isSettled outcome = true → Table.Swept Request.isPending [requestId] db.requests db'.requests) ∧ db'.grants = db.grants := by
  unfold PermissionDb.cancelRequest at h
  obtain ⟨root', -, h⟩ := bind_eq_ok h
  obtain ⟨-, -, h⟩ := bind_eq_ok h
  split at h
  · cases h
  obtain ⟨reason, -, h⟩ := bind_eq_ok h
  split at h
  · cases h
    exact ⟨nofun, rfl⟩
  · rename_i current hfound
    obtain ⟨hget, hroot⟩ := get_of_getRequest hfound
    split at h
    · cases h
      exact ⟨nofun, rfl⟩
    split at h
    · rename_i hclosed
      cases h
      refine ⟨fun _ => swept_of_closed ?_, rfl⟩
      intro r hr
      rw [hget] at hr
      cases hr
      exact isPending_eq_false.mpr hclosed
    · obtain ⟨o, ho, h⟩ := bind_eq_ok h
      cases o with
      | none =>
        cases h
        exact ⟨nofun, rfl⟩
      | some written =>
        cases h
        have hid := key_of_get hget
        obtain ⟨hrequests, hgrants⟩ := settleRequest_some ho
        refine ⟨fun _ => ?_, hgrants⟩
        rw [hrequests]
        refine swept_update _ ?_ ?_ ?_
        · intro r _ hr
          simp only [PermissionDb.pendingRequest, Bool.and_eq_true, beq_iff_eq] at hr
          exact hr.1.2.trans hid
        · intro r hr hpending hkey
          have hsame : r = current := by
            have hmem := get_of_mem hr
            rw [hkey, hget] at hmem
            exact (Option.some.inj hmem).symm
          rw [hsame] at hpending ⊢
          simp [PermissionDb.pendingRequest, hroot, isPending_eq_true.mp hpending]
        · exact fun r => rfl

/-! ## The loops -/

/-- A transaction that succeeds is the store's. -/
theorem ends_access (step : Step) (op : Int → PermissionDb → Except String (α × PermissionDb)) (db : PermissionDb) :
    Ends (fun a db' => s.fault step = none ∧ op (s.now db.events.rows.length) db = .ok (a, db')) (fun _ db' => db' = db)
      (access s step op db) := by
  unfold access
  refine ends_bind (P := fun _ db' => s.fault step = none ∧ db' = db) (ends_attempt (fun h => ⟨h, rfl⟩) fun _ _ => rfl) ?_
  rintro - t ⟨hfault, rfl⟩
  cases hop : op (s.now t.events.rows.length) t with
  | error e =>
    change Ends _ _ ((ofResult (op (s.now t.events.rows.length) t) >>= fun r => _) t)
    rw [hop]
    exact rfl
  | ok r =>
    change Ends _ _ ((ofResult (op (s.now t.events.rows.length) t) >>= fun r => _) t)
    rw [hop]
    exact ⟨hfault, rfl⟩

theorem ends_revokeEach (l : List Grant) (db : PermissionDb) :
    Ends (fun _ db' => Table.Swept Grant.isActive (l.map Grant.grantId) db.grants db'.grants ∧ db'.requests = db.requests)
      (fun _ _ => True) (revokeEach s root reasonCode message l db) := by
  induction l generalizing db with
  | nil => exact ⟨Table.Swept.refl _ _, rfl⟩
  | cons g l ih =>
    refine ends_seq (ends_access _ _ db) (fun _ _ _ => trivial) ?_
    rintro outcome db₁ ⟨-, hrevoke⟩
    refine ends_bind (P := fun _ t => isSettled outcome = true ∧ t = db₁) (ends_ofResult ?_ fun _ _ => trivial) ?_
    · intro _ hok
      unfold ensure at hok
      split at hok
      · exact ⟨‹_›, rfl⟩
      · cases hok
    · rintro - t ⟨hsettled, rfl⟩
      obtain ⟨hswept, hrequests⟩ := swept_of_revokeGrant hrevoke hsettled
      refine (ih t).mono ?_ (fun _ _ h => h)
      rintro - db₂ ⟨hrest, hrequests'⟩
      exact ⟨hswept.trans hrest, hrequests'.trans hrequests⟩

theorem ends_cancelEach (l : List Request) (db : PermissionDb) :
    Ends (fun _ db' => Table.Swept Request.isPending (l.map Request.requestId) db.requests db'.requests ∧ db'.grants = db.grants)
      (fun _ _ => True) (cancelEach s root reasonCode message l db) := by
  induction l generalizing db with
  | nil => exact ⟨Table.Swept.refl _ _, rfl⟩
  | cons r l ih =>
    refine ends_seq (ends_access _ _ db) (fun _ _ _ => trivial) ?_
    rintro outcome db₁ ⟨-, hcancel⟩
    refine ends_bind (P := fun _ t => isSettled outcome = true ∧ t = db₁) (ends_ofResult ?_ fun _ _ => trivial) ?_
    · intro _ hok
      unfold ensure at hok
      split at hok
      · exact ⟨‹_›, rfl⟩
      · cases hok
    · rintro - t ⟨hsettled, rfl⟩
      obtain ⟨hswept, hgrants⟩ := swept_of_cancelRequest hcancel
      refine (ih t).mono ?_ (fun _ _ h => h)
      rintro - db₂ ⟨hrest, hgrants'⟩
      exact ⟨(hswept hsettled).trans hrest, hgrants'.trans hgrants⟩

/-- The loop of a teardown has closed all of the requests or says that one could not be cancelled. -/
theorem ends_cancelForTeardown (l : List Request) (db : PermissionDb) :
    Ends (fun result db' => (result.2 = false → Table.Swept Request.isPending (l.map Request.requestId) db.requests db'.requests) ∧
        db'.grants = db.grants) (fun _ _ => False) (cancelForTeardown s root l db) := by
  induction l generalizing db with
  | nil => exact ⟨fun _ => Table.Swept.refl _ _, rfl⟩
  | cons r l ih =>
    refine ends_bind (P := fun settled db₁ =>
      (settled = true → Table.Swept Request.isPending [r.requestId] db.requests db₁.requests) ∧ db₁.grants = db.grants)
      (ends_handle (ends_access _ _ db) ?_ ?_) ?_
    · rintro outcome db₁ ⟨-, hcancel⟩
      exact swept_of_cancelRequest hcancel
    · rintro _ _ rfl
      refine ⟨fun hfalse => ?_, rfl⟩
      cases hfalse
    · rintro settled db₁ ⟨hswept, hgrants⟩
      refine ends_bind (ih db₁) ?_
      rintro ⟨cancelled, failed⟩ db₂ ⟨hrest, hgrants'⟩
      refine ⟨?_, hgrants'.trans hgrants⟩
      intro hall
      have hall : (failed || !settled) = false := hall
      rw [Bool.or_eq_false_iff, Bool.not_eq_false'] at hall
      exact (hswept hall.2).trans (hrest hall.1)

/-! ## The rows of a package -/

/-- The active grants of a project. -/
def activeIn (root : String) (db : PermissionDb) : List Grant := db.grants.rows.filter (isActiveIn root)

/-- The pending requests of a project. -/
def pendingIn (root : String) (db : PermissionDb) : List Request :=
  db.requests.rows.filter (fun r => r.projectRoot == root && r.status == .pending)

/-- No grant of the project for the package is active. -/
def NoActiveGrant (root pluginId packageDigest : String) (db : PermissionDb) : Prop :=
  ∀ g ∈ activeIn (normalizeProjectRoot root) db, Grant.isOf pluginId packageDigest g = false

/-- No request of the project for the package is pending. -/
def NoPendingRequest (root pluginId packageDigest : String) (db : PermissionDb) : Prop :=
  ∀ r ∈ pendingIn (normalizeProjectRoot root) db, Request.isOf pluginId packageDigest r = false

/-- The package's grants are among the first active grants of the project. -/
def GrantsReached (root pluginId packageDigest : String) (db : PermissionDb) : Prop :=
  ∀ g ∈ activeIn (normalizeProjectRoot root) db, Grant.isOf pluginId packageDigest g = true →
    g ∈ firstRows grantOrder maxLimit (activeIn (normalizeProjectRoot root) db)

/-- The package's requests are among the first of the requests in a list. -/
def RequestsReached (pluginId packageDigest : String) (pending : List Request) : Prop :=
  ∀ r ∈ pending, Request.isOf pluginId packageDigest r = true → r ∈ firstRows requestOrder maxLimit pending

theorem mem_activeIn : g ∈ activeIn root db ↔ g ∈ db.grants.rows ∧ g.projectRoot = root ∧ g.isActive = true := by
  simp only [activeIn, isActiveIn, Grant.isActive, List.mem_filter, Bool.and_eq_true, beq_iff_eq]

theorem mem_pendingIn {r : Request} : r ∈ pendingIn root db ↔ r ∈ db.requests.rows ∧ r.projectRoot = root ∧ r.isPending = true := by
  simp only [pendingIn, Request.isPending, List.mem_filter, Bool.and_eq_true, beq_iff_eq]

/-- The rows of a list that have the key of one of its rows. -/
theorem mem_map_key_iff {key : α → String} {t : Table key} {listed : List α} (hlisted : listed ⊆ t.rows) {p : α → Bool} {a : α}
    (ha : a ∈ t.rows) (hp : p a = true) : key a ∈ (listed.filter p).map key ↔ a ∈ listed := by
  constructor
  · intro h
    obtain ⟨b, hb, hkey⟩ := List.mem_map.mp h
    have hmem := List.mem_of_mem_filter hb
    rwa [← List.inj_on_of_nodup_map t.nodup (hlisted hmem) ha hkey]
  · intro h
    exact List.mem_map.mpr ⟨a, List.mem_filter.mpr ⟨h, hp⟩, rfl⟩

/-- The loop over what a list has of a package leaves no active grant of it exactly when all of them are in the list. -/
theorem noActiveGrant_iff {listed : List Grant} (hlisted : listed ⊆ db.grants.rows)
    (hswept : Table.Swept Grant.isActive ((listed.filter (Grant.isOf pluginId packageDigest)).map Grant.grantId) db.grants db'.grants) :
    NoActiveGrant root pluginId packageDigest db' ↔
      ∀ g ∈ activeIn (normalizeProjectRoot root) db, Grant.isOf pluginId packageDigest g = true → g ∈ listed := by
  have hclear := hswept.clear_iff (p := fun g => g.projectRoot == normalizeProjectRoot root && Grant.isOf pluginId packageDigest g)
  constructor
  · intro hnone g hg hof
    obtain ⟨hmem, hroot, hactive⟩ := mem_activeIn.mp hg
    refine (mem_map_key_iff hlisted hmem hof).mp (hclear.mp ?_ g hmem hactive (by rw [hroot, hof, beq_self_eq_true]; rfl))
    intro g' hg' hactive'
    rw [Bool.and_eq_false_iff, or_iff_not_imp_left, Bool.not_eq_false, beq_iff_eq]
    exact fun hroot' => hnone g' (mem_activeIn.mpr ⟨hg', hroot', hactive'⟩)
  · intro hall g hg
    obtain ⟨hmem, hroot, hactive⟩ := mem_activeIn.mp hg
    have hleft := hclear.mpr ?_ g hmem hactive
    · rwa [hroot, beq_self_eq_true, Bool.true_and] at hleft
    · intro g' hg' hactive' hp
      rw [Bool.and_eq_true, beq_iff_eq] at hp
      exact (mem_map_key_iff hlisted hg' hp.2).mpr (hall g' (mem_activeIn.mpr ⟨hg', hp.1, hactive'⟩) hp.2)

theorem noPendingRequest_iff {listed : List Request} (hlisted : listed ⊆ db.requests.rows)
    (hswept : Table.Swept Request.isPending ((listed.filter (Request.isOf pluginId packageDigest)).map Request.requestId)
      db.requests db'.requests) : NoPendingRequest root pluginId packageDigest db' ↔
      ∀ r ∈ pendingIn (normalizeProjectRoot root) db, Request.isOf pluginId packageDigest r = true → r ∈ listed := by
  have hclear := hswept.clear_iff (p := fun r => r.projectRoot == normalizeProjectRoot root && Request.isOf pluginId packageDigest r)
  constructor
  · intro hnone r hr hof
    obtain ⟨hmem, hroot, hpending⟩ := mem_pendingIn.mp hr
    refine (mem_map_key_iff hlisted hmem hof).mp (hclear.mp ?_ r hmem hpending (by rw [hroot, hof, beq_self_eq_true]; rfl))
    intro r' hr' hpending'
    rw [Bool.and_eq_false_iff, or_iff_not_imp_left, Bool.not_eq_false, beq_iff_eq]
    exact fun hroot' => hnone r' (mem_pendingIn.mpr ⟨hr', hroot', hpending'⟩)
  · intro hall r hr
    obtain ⟨hmem, hroot, hpending⟩ := mem_pendingIn.mp hr
    have hleft := hclear.mpr ?_ r hmem hpending
    · rwa [hroot, beq_self_eq_true, Bool.true_and] at hleft
    · intro r' hr' hpending' hp
      rw [Bool.and_eq_true, beq_iff_eq] at hp
      exact (mem_map_key_iff hlisted hr' hp.2).mpr (hall r' (mem_pendingIn.mpr ⟨hr', hp.1, hpending'⟩) hp.2)

/-! ## What is listed -/

attribute [local irreducible] PermissionDb.listGrants PermissionDb.listRequests

theorem listLimit_eq (limit : Nat) (h : maxLimit ≤ limit) : listLimit (some limit) = maxLimit := Nat.min_eq_right h

/-- The store lists the first of the project's active grants. -/
theorem ends_listActive (db : PermissionDb) :
    Ends (fun listed db' => db' = db ∧ s.fault (.listGrants reasonCode) = none ∧
        listed = firstRows grantOrder maxLimit (activeIn (normalizeProjectRoot root) db))
      (fun _ db' => db' = db ∧ ∀ root', requiredProjectRoot root = .ok root' → s.fault (.listGrants reasonCode) ≠ none)
      (listActive s root reasonCode db) := by
  unfold listActive
  refine ends_bind (P := fun _ db' => s.fault (.listGrants reasonCode) = none ∧ db' = db) (ends_attempt (fun h => ⟨h, rfl⟩) ?_) ?_
  · intro e hfault
    exact ⟨rfl, fun _ _ => by rw [hfault]; exact Option.some_ne_none e⟩
  rintro - t ⟨hfault, rfl⟩
  refine ends_get (ends_ofResult ?_ ?_)
  · intro listed h
    unfold PermissionDb.listGrants at h
    obtain ⟨root', hroot, h⟩ := bind_eq_ok h
    have hlisted := Except.ok.inj h
    rw [normalized_of_required hroot, listLimit_eq 200 (by decide)] at hlisted
    exact ⟨rfl, hfault, hlisted.symm⟩
  · intro e h
    refine ⟨rfl, fun root' hroot => ?_⟩
    unfold PermissionDb.listGrants at h
    rw [hroot] at h
    cases h

/-- The store lists the first of the project's pending requests. -/
theorem ends_listPending (limit : Nat) (hlimit : maxLimit ≤ limit) (db : PermissionDb) :
    Ends (fun listed db' => db' = db ∧ listed = firstRows requestOrder maxLimit (pendingIn (normalizeProjectRoot root) db))
      (fun _ db' => db' = db) (listPending s root reasonCode limit db) := by
  unfold listPending
  refine ends_attempt_bind (fun _ _ => rfl) fun _ => ?_
  refine ends_get (ends_ofResult ?_ fun _ _ => rfl)
  intro listed h
  unfold PermissionDb.listRequests at h
  obtain ⟨root', hroot, h⟩ := bind_eq_ok h
  have hlisted := Except.ok.inj h
  rw [normalized_of_required hroot, listLimit_eq limit hlimit] at hlisted
  exact ⟨rfl, hlisted.symm⟩

theorem firstRows_activeIn_subset : firstRows grantOrder maxLimit (activeIn root db) ⊆ db.grants.rows :=
  fun _ hg => List.mem_of_mem_filter (mem_of_mem_firstRows hg)

theorem firstRows_pendingIn_subset : firstRows requestOrder maxLimit (pendingIn root db) ⊆ db.requests.rows :=
  fun _ hr => List.mem_of_mem_filter (mem_of_mem_firstRows hr)

/-- A revocation that succeeds leaves no active grant of the package exactly when all of them were among the first. -/
theorem ends_revokeListed (db : PermissionDb) :
    Ends (fun _ db' => (NoActiveGrant root pluginId packageDigest db' ↔ GrantsReached root pluginId packageDigest db) ∧
        db'.requests = db.requests)
      (fun _ _ => True) (revokeListed s root pluginId packageDigest reasonCode message db) := by
  unfold revokeListed
  refine ends_seq (ends_listActive db) (fun _ _ _ => trivial) ?_
  rintro listed t ⟨rfl, -, rfl⟩
  refine ends_bind (ends_revokeEach _ t) ?_
  rintro - db' ⟨hswept, hrequests⟩
  exact ⟨noActiveGrant_iff firstRows_activeIn_subset hswept, hrequests⟩

/-- A cancellation that succeeds leaves no pending request of the package exactly when all of them were among the first. -/
theorem ends_cancelListed (db : PermissionDb) :
    Ends (fun _ db' => (NoPendingRequest root pluginId packageDigest db' ↔
          RequestsReached pluginId packageDigest (pendingIn (normalizeProjectRoot root) db)) ∧ db'.grants = db.grants)
      (fun _ _ => True) (cancelListed s root pluginId packageDigest reasonCode message db) := by
  unfold cancelListed
  refine ends_seq (ends_listPending 200 (by decide) db) (fun _ _ _ => trivial) ?_
  rintro listed t ⟨rfl, rfl⟩
  refine ends_bind (ends_cancelEach _ t) ?_
  rintro - db' ⟨hswept, hgrants⟩
  exact ⟨noPendingRequest_iff firstRows_pendingIn_subset hswept, hgrants⟩

/-! ## Teardown -/

/-- A use of the permission records changes nothing else. -/
theorem ends_onPermissions {r : Registry} {Q : α → Registry → Prop} {E : String → Registry → Prop}
    (h : Ends (fun a db => Q a { r with permissions := db }) (fun e db => E e { r with permissions := db }) (x r.permissions)) :
    Ends Q E (onPermissions x r) := by
  unfold onPermissions
  cases hx : x r.permissions with
  | ok a db =>
    rw [hx] at h
    exact h
  | error e db =>
    rw [hx] at h
    exact h

/-- The advance of a transition is no business of the permission records. -/
theorem keeps_advanceTransition (next : PluginLifecycle.Phase) (status : PluginLifecycle.Status) :
    Keeps Registry.permissions (advanceTransition s next status) :=
  keeps_bind (keeps_attempt _ _) fun _ => keeps_modify fun _ => rfl

theorem keeps_failTransition : Keeps Registry.permissions (failTransition s) :=
  keeps_bind (keeps_attempt _ _) fun _ => keeps_modify fun _ => rfl

theorem keeps_requestTransition (kind : PluginLifecycle.Kind) : Keeps Registry.permissions (requestTransition s kind) :=
  keeps_bind (keeps_attempt _ _) fun _ => keeps_modify fun _ => rfl

variable {r : Registry} {t : Teardown}

/-- A phase that is recorded keeps the records, and does not make good what could not be recorded before. -/
theorem ends_recordPhase (next : PluginLifecycle.Phase) (status : PluginLifecycle.Status) (code : String) (t : Teardown) (r : Registry) :
    Ends (fun t' r' => r'.permissions = r.permissions ∧ (t'.persistenceFailed = false → t.persistenceFailed = false)) (fun _ _ => False)
      (recordPhase s next status code t r) := by
  unfold recordPhase
  refine ends_handle (ends_of_keeps (keeps_advanceTransition next status) r) ?_ ?_
  · exact fun _ r' h => ⟨h, fun ht => ht⟩
  · exact fun _ r' h => ⟨h, nofun⟩

/-- What is left pending where a teardown has cancelled the plugin's requests among the first of the project. -/
def pendingLeft (root pluginId : String) (torn : Bool) (db : PermissionDb) : List Request :=
  (pendingIn root db).filter fun r => !(torn && r.pluginId == pluginId && decide (r ∈ firstRows requestOrder maxLimit (pendingIn root db)))

theorem pendingIn_of_swept {ids : List String} (hswept : Table.Swept Request.isPending ids db.requests db'.requests) :
    pendingIn root db' = (pendingIn root db).filter (fun r => decide (r.requestId ∉ ids)) := by
  have hsplit : ∀ d : PermissionDb, pendingIn root d = (d.requests.rows.filter Request.isPending).filter (fun r => r.projectRoot == root) := by
    intro d
    rw [List.filter_filter]
    rfl
  rw [hsplit, hsplit, hswept]
  generalize db.requests.rows.filter Request.isPending = pending
  rw [List.filter_filter, List.filter_filter]
  exact List.filter_congr fun r _ => Bool.and_comm _ _

theorem ends_cancelPending (ctx : PluginContext) (pluginId : String) (t : Teardown) (r : Registry) :
    Ends (fun result r' => r'.permissions.grants = r.permissions.grants ∧
        (result.2.persistenceFailed = false → t.persistenceFailed = false ∧
          pendingIn (normalizeProjectRoot ctx.projectRoot) r'.permissions =
            pendingLeft (normalizeProjectRoot ctx.projectRoot) pluginId true r.permissions))
      (fun _ _ => True) (cancelPending s ctx pluginId t r) := by
  unfold cancelPending
  refine ends_bind (P := fun listed r' => r' = r ∧
    listed = firstRows requestOrder maxLimit (pendingIn (normalizeProjectRoot ctx.projectRoot) r.permissions)) ?_ ?_
  · refine ends_onPermissions ((ends_listPending 100 (by decide) r.permissions).mono ?_ fun _ _ _ => trivial)
    rintro listed db ⟨rfl, hlisted⟩
    exact ⟨rfl, hlisted⟩
  rintro listed r' ⟨rfl, rfl⟩
  refine ends_bind (P := fun result r₂ => r₂.permissions.grants = r'.permissions.grants ∧ (result.2 = false →
    pendingIn (normalizeProjectRoot ctx.projectRoot) r₂.permissions =
      pendingLeft (normalizeProjectRoot ctx.projectRoot) pluginId true r'.permissions)) ?_ ?_
  · refine ends_onPermissions ((ends_cancelForTeardown _ r'.permissions).mono ?_ fun _ _ h => h.elim)
    rintro result db ⟨hswept, hgrants⟩
    refine ⟨hgrants, fun hall => ?_⟩
    rw [pendingIn_of_swept (hswept hall), pendingLeft]
    refine List.filter_congr fun q hq => ?_
    have hmem := (mem_pendingIn.mp hq).1
    rw [Bool.eq_iff_iff, decide_eq_true_iff, Bool.not_eq_true', Bool.true_and, ← Bool.not_eq_true, not_iff_not, Bool.and_eq_true,
      decide_eq_true_iff]
    constructor
    · intro hid
      obtain ⟨q', hq', hkey⟩ := List.mem_map.mp hid
      obtain ⟨hfirst, hplugin⟩ := List.mem_filter.mp hq'
      have hsame := List.inj_on_of_nodup_map r'.permissions.requests.nodup (firstRows_pendingIn_subset hfirst) hmem hkey
      exact ⟨hsame ▸ hplugin, hsame ▸ hfirst⟩
    · rintro ⟨hplugin, hfirst⟩
      exact List.mem_map.mpr ⟨q, List.mem_filter.mpr ⟨hfirst, hplugin⟩, rfl⟩
  · rintro ⟨cancelled, failed⟩ r₂ ⟨hgrants, hleft⟩
    refine ⟨hgrants, fun hrecorded => ?_⟩
    cases failed with
    | true => cases hrecorded
    | false => exact ⟨hrecorded, hleft rfl⟩

theorem disposeHost_persistenceFailed (s : Surroundings) (host : WasmPluginHost) (t : Teardown) :
    (disposeHost s host t).persistenceFailed = t.persistenceFailed := by
  unfold disposeHost
  extract_lets quiesced
  have hquiesced : quiesced.2.persistenceFailed = t.persistenceFailed := by
    dsimp only [quiesced]
    split
    · split
      · rfl
      · rfl
      · rfl
    · rfl
  clear_value quiesced
  split
  · split
    · exact hquiesced
    · exact hquiesced
    · exact hquiesced
  · exact hquiesced

/-- A teardown whose end is certain has recorded all of its phases. -/
theorem recorded_of_status {preserveDesiredState : Bool} (h : t.status preserveDesiredState ≠ "completion_uncertain") :
    t.persistenceFailed = false := by
  rw [← Bool.not_eq_true]
  intro hfailed
  refine h ?_
  unfold Teardown.status
  rw [if_pos hfailed]

theorem ends_completeTeardown (t : Teardown) (r : Registry) :
    Ends (fun t' r' => r'.permissions = r.permissions ∧ (t'.persistenceFailed = false → t.persistenceFailed = false)) (fun _ _ => False)
      (completeTeardown s t r) := by
  unfold completeTeardown
  refine ends_bind (P := fun (t' : Teardown) (r' : Registry) =>
    r'.permissions = r.permissions ∧ (t'.persistenceFailed = false → t.persistenceFailed = false)) ?_ ?_
  · unfold recordCompletion
    split
    · exact ⟨rfl, fun h => h⟩
    · exact ends_recordPhase _ _ _ t r
  · rintro t' r' ⟨hkept, hrecorded⟩
    refine ends_get ?_
    split
    · refine ends_handle (ends_of_keeps (keeps_advanceTransition _ _) r') ?_ ?_
      · exact fun _ r'' h => ⟨h.trans hkept, hrecorded⟩
      · exact fun _ r'' h => ⟨h.trans hkept, hrecorded⟩
    · exact ⟨hkept, hrecorded⟩

theorem closeRoutes_permissions (r : Registry) : (closeRoutes r).permissions = r.permissions := by
  unfold closeRoutes removeActivePlugin
  cases r.active with
  | none => rfl
  | some active => rfl

/-- What a teardown leaves pending where its end is certain. -/
theorem ends_runTeardown (ctx : PluginContext) (pluginId : String) (preserveDesiredState : Bool) (r : Registry) :
    Ends (fun result r' => r'.permissions.grants = r.permissions.grants ∧ (result.status ≠ "completion_uncertain" →
        pendingIn (normalizeProjectRoot ctx.projectRoot) r'.permissions =
          pendingLeft (normalizeProjectRoot ctx.projectRoot) pluginId true r.permissions))
      (fun _ _ => True) (runTeardown s ctx pluginId preserveDesiredState r) := by
  unfold runTeardown
  refine ends_get ?_
  refine ends_bind (P := fun _ (r₁ : Registry) => r₁.permissions = r.permissions) (ends_modify (closeRoutes_permissions r)) ?_
  intro _ r₁ h₁
  refine ends_seq (ends_recordPhase _ _ _ _ r₁) (fun _ _ _ => trivial) ?_
  rintro t₂ r₂ ⟨h₂, -⟩
  refine ends_seq (ends_recordPhase _ _ _ _ r₂) (fun _ _ _ => trivial) ?_
  rintro t₃ r₃ ⟨h₃, -⟩
  refine ends_bind (ends_cancelPending ctx pluginId t₃ r₃) ?_
  rintro ⟨cancelled, t₄⟩ r₄ ⟨hgrants, hleft⟩
  refine ends_seq (ends_recordPhase _ _ _ t₄ r₄) (fun _ _ _ => trivial) ?_
  rintro t₅ r₅ ⟨h₅, ht₅⟩
  refine ends_seq (ends_recordPhase _ _ _ t₅ r₅) (fun _ _ _ => trivial) ?_
  rintro t₆ r₆ ⟨h₆, ht₆⟩
  refine ends_seq (ends_recordPhase _ _ _ _ r₆) (fun _ _ _ => trivial) ?_
  rintro t₇ r₇ ⟨h₇, ht₇⟩
  refine ends_seq (ends_completeTeardown t₇ r₇) (fun _ _ _ => trivial) ?_
  rintro t₈ r₈ ⟨h₈, ht₈⟩
  have hbefore : r₃.permissions = r.permissions := h₃.trans (h₂.trans h₁)
  have hafter : r₈.permissions = r₄.permissions := h₈.trans (h₇.trans (h₆.trans h₅))
  refine ⟨by rw [hafter, hgrants, hbefore], fun hstatus => ?_⟩
  have hdisposed := ht₇ (ht₈ (recorded_of_status hstatus))
  have hrecorded : t₆.persistenceFailed = false := by
    cases hactive : r.active with
    | none =>
      rw [hactive] at hdisposed
      exact hdisposed
    | some active =>
      rw [hactive] at hdisposed
      exact (disposeHost_persistenceFailed s _ t₆).symm.trans hdisposed
  rw [hafter, (hleft (ht₅ (ht₆ hrecorded))).2, hbefore]

/-- The teardown runs: the plugin is not torn down already. -/
def tornDown (f : TeardownFindings) (r : Registry) : Bool :=
  match f.lifecycle with
  | .ok (some lifecycle) => !alreadyTerminal false lifecycle r
  | .ok none | .error _ => false

theorem requireState_ok {message : String} {found : Except String (Option PluginLifecycle.PluginState)}
    {lifecycle : PluginLifecycle.PluginState} (h : requireState message found = .ok lifecycle) : found = .ok (some lifecycle) := by
  unfold requireState at h
  split at h
  · cases h
  · cases h
  · cases h
    rfl

theorem keeps_failOpen (f : TeardownFindings) (lifecycle : PluginLifecycle.PluginState) :
    Keeps Registry.permissions (failOpen s f lifecycle) := by
  unfold failOpen
  refine keeps_bind (keeps_ofResult _ _) fun nonterminal => ?_
  split
  · exact keeps_bind keeps_failTransition fun _ => keeps_bind (keeps_ofResult _ _) fun _ => keeps_pure _ _
  · exact keeps_pure _ _

theorem ends_teardownPlugin (ctx : PluginContext) (f : TeardownFindings) (pluginId : String) (kind : PluginLifecycle.Kind) (r : Registry) :
    Ends (fun result r' => r'.permissions.grants = r.permissions.grants ∧ (result.status ≠ "completion_uncertain" →
        pendingIn (normalizeProjectRoot ctx.projectRoot) r'.permissions =
          pendingLeft (normalizeProjectRoot ctx.projectRoot) pluginId (tornDown f r) r.permissions))
      (fun _ _ => True) (teardownPlugin s ctx f pluginId kind false r) := by
  unfold teardownPlugin
  refine ends_ofResult_bind (fun _ _ => trivial) fun _ _ => ?_
  refine ends_ofResult_bind (fun _ _ => trivial) fun _ _ => ?_
  refine ends_bind (P := fun lifecycle r' => f.lifecycle = .ok (some lifecycle) ∧ r' = r)
    (ends_ofResult (fun _ h => ⟨requireState_ok h, rfl⟩) fun _ _ => trivial) ?_
  rintro lifecycle r ⟨hlifecycle, rfl⟩
  have htorn : tornDown f r = !alreadyTerminal false lifecycle r := by
    unfold tornDown
    rw [hlifecycle]
  refine ends_get ?_
  cases hterminal : alreadyTerminal false lifecycle r with
  | true =>
    rw [if_pos rfl]
    refine ends_ofResult_bind (fun _ _ => trivial) fun nonterminal _ => ?_
    have hleft : pendingIn (normalizeProjectRoot ctx.projectRoot) r.permissions =
        pendingLeft (normalizeProjectRoot ctx.projectRoot) pluginId (tornDown f r) r.permissions := by
      rw [htorn, hterminal]
      exact (List.filter_eq_self.mpr fun _ _ => rfl).symm
    split
    · exact ⟨rfl, fun _ => hleft⟩
    · exact ⟨rfl, fun _ => hleft⟩
  | false =>
    rw [if_neg Bool.false_ne_true, htorn, hterminal]
    refine ends_seq (ends_of_keeps (keeps_failOpen f lifecycle) r) (fun _ _ _ => trivial) ?_
    intro _ r₁ h₁
    refine ends_seq (ends_of_keeps (keeps_requestTransition kind) r₁) (fun _ _ _ => trivial) ?_
    intro _ r₂ h₂
    have hsame : r₂.permissions = r.permissions := h₂.trans h₁
    rw [← hsame]
    exact ends_runTeardown ctx pluginId false r₂

/-! ## Uninstall -/

theorem keeps_movePackage : Keeps Registry.permissions (movePackage s) :=
  keeps_bind (keeps_requestTransition _) fun _ => keeps_bind (keeps_attempt _ _) fun _ =>
    keeps_bind (keeps_advanceTransition _ _) fun _ => keeps_bind (keeps_attempt _ _) fun _ => keeps_modify fun _ => rfl

theorem of_ensure {condition : Bool} {message : String} {a : Unit} (h : ensure condition message = .ok a) : condition = true := by
  unfold ensure at h
  split at h
  · assumption
  · cases h

/-- An uninstall that succeeds has ended the authority of the package exactly as far as its rows were among the first. -/
theorem ends_uninstall (ctx : PluginContext) (f : UninstallFindings) (input : UninstallInput) (r : Registry) :
    Ends (fun _ r' =>
        (NoPendingRequest ctx.projectRoot input.pluginId input.packageDigest r'.permissions ↔
          RequestsReached input.pluginId input.packageDigest
            (pendingLeft (normalizeProjectRoot ctx.projectRoot) input.pluginId (tornDown f.teardown r) r.permissions)) ∧
        (NoActiveGrant ctx.projectRoot input.pluginId input.packageDigest r'.permissions ↔
          GrantsReached ctx.projectRoot input.pluginId input.packageDigest r.permissions))
      (fun _ _ => True) (uninstall s ctx f input r) := by
  unfold uninstall
  refine ends_ofResult_bind (fun _ _ => trivial) fun _ _ => ?_
  refine ends_bind (ends_teardownPlugin ctx f.teardown input.pluginId .disable r) ?_
  rintro disabled r₁ ⟨hgrants, hleft⟩
  refine ends_bind (P := fun _ r' => disabled.status ≠ "completion_uncertain" ∧ r' = r₁) (ends_ofResult ?_ fun _ _ => trivial) ?_
  · intro _ h
    have hcertain := of_ensure h
    rw [Bool.and_eq_true, bne_iff_ne] at hcertain
    exact ⟨hcertain.2, rfl⟩
  rintro - r₂ ⟨hcertain, rfl⟩
  have hpending := hleft hcertain
  refine ends_bind (P := fun _ r' => r'.permissions.grants = r₂.permissions.grants ∧
    (NoPendingRequest ctx.projectRoot input.pluginId input.packageDigest r'.permissions ↔
      RequestsReached input.pluginId input.packageDigest (pendingIn (normalizeProjectRoot ctx.projectRoot) r₂.permissions))) ?_ ?_
  · refine ends_onPermissions ((ends_cancelListed r₂.permissions).mono ?_ fun _ _ h => h)
    rintro _ db ⟨hnone, hkept⟩
    exact ⟨hkept, hnone⟩
  rintro cancelled r₃ ⟨hkept, hnone⟩
  refine ends_bind (P := fun _ r' => r'.permissions.requests = r₃.permissions.requests ∧
    (NoActiveGrant ctx.projectRoot input.pluginId input.packageDigest r'.permissions ↔
      GrantsReached ctx.projectRoot input.pluginId input.packageDigest r₃.permissions)) ?_ ?_
  · refine ends_onPermissions ((ends_revokeListed r₃.permissions).mono ?_ fun _ _ h => h)
    rintro _ db ⟨hrevoked, hkept⟩
    exact ⟨hkept, hrevoked⟩
  rintro revoked r₄ ⟨hkept', hrevoked⟩
  refine ends_ofResult_bind (fun _ _ => trivial) fun _ _ => ?_
  refine ends_seq (ends_of_keeps keeps_movePackage r₄) (fun _ _ _ => trivial) ?_
  intro _ r₆ hmoved
  have hsame : ∀ {db db' : PermissionDb}, db.grants = db'.grants →
      activeIn (normalizeProjectRoot ctx.projectRoot) db = activeIn (normalizeProjectRoot ctx.projectRoot) db' := by
    intro db db' h
    rw [activeIn, activeIn, h]
  constructor
  · rw [← hpending, ← hnone, hmoved, NoPendingRequest, NoPendingRequest, pendingIn, pendingIn, hkept']
  · rw [hmoved, hrevoked, GrantsReached, GrantsReached, hsame (hkept.trans hgrants)]

/-! ## Revocations that fail -/

/-- The records of grants are as they were, and the events have the ids that were drawn for them if they had. -/
structure Records (uuid : Nat → String) (db db' : PermissionDb) : Prop where
  grants : db'.grants = db.grants
  drawn : DrawnIds uuid db → DrawnIds uuid db'

variable {uuid : Nat → String}

theorem Records.refl (uuid : Nat → String) (db : PermissionDb) : Records uuid db db := ⟨rfl, fun h => h⟩

theorem Records.trans {db'' : PermissionDb} (h : Records uuid db db') (h' : Records uuid db' db'') : Records uuid db db'' :=
  ⟨h'.grants.trans h.grants, fun hdrawn => h'.drawn (h.drawn hdrawn)⟩

theorem drawn_insertEvent (h : db.insertEvent uuid e = .ok db') (hdrawn : DrawnIds uuid db) : DrawnIds uuid db' := by
  unfold PermissionDb.insertEvent at h
  split at h
  · cases h
  split at h
  · cases h
  split at h
  · cases h
  rename_i events hinsert
  cases h
  intro e' he'
  have hrows := rows_insert hinsert
  simp only [hrows, List.length_append, List.length_singleton] at he' ⊢
  rcases List.mem_append.mp he' with he' | he'
  · obtain ⟨k, hk, hid⟩ := hdrawn e' he'
    exact ⟨k, by omega, hid⟩
  · exact ⟨db.events.rows.length, by omega, by rw [List.mem_singleton.mp he']⟩

theorem records_recordCallEvent {d : CallEventDraft} {eventId : String}
    (h : db.recordCallEvent crates now uuid d false = .ok (eventId, db')) : Records uuid db db' := by
  unfold PermissionDb.recordCallEvent at h
  obtain ⟨_, -, h⟩ := bind_eq_ok h
  obtain ⟨_, -, h⟩ := bind_eq_ok h
  obtain ⟨_, -, h⟩ := bind_eq_ok h
  obtain ⟨_, -, h⟩ := bind_eq_ok h
  obtain ⟨_, -, h⟩ := bind_eq_ok h
  obtain ⟨_, -, h⟩ := bind_eq_ok h
  obtain ⟨_, -, h⟩ := bind_eq_ok h
  rw [if_neg (by simp)] at h
  obtain ⟨_, -, h⟩ := bind_eq_ok h
  obtain ⟨_, -, h⟩ := bind_eq_ok h
  obtain ⟨recorded, hrecorded, h⟩ := bind_eq_ok h
  rw [if_neg (by simp)] at h
  cases h
  obtain ⟨-, -, hgrants, -⟩ := insertEvent_eq hrecorded
  exact ⟨hgrants, drawn_insertEvent hrecorded⟩

/-- A decision that is recorded has drawn the ids of its events. -/
theorem drawn_resolveRequest {d : DecisionDraft}
    (h : db.resolveRequest crates now uuid d = .ok (outcome, db')) (hdrawn : DrawnIds uuid db) : DrawnIds uuid db' := by
  unfold PermissionDb.resolveRequest at h
  obtain ⟨root', -, h⟩ := bind_eq_ok h
  obtain ⟨_, -, h⟩ := bind_eq_ok h
  split at h
  · cases h
  obtain ⟨reason, -, h⟩ := bind_eq_ok h
  split at h
  · cases h
    exact hdrawn
  split at h
  · cases h
    exact hdrawn
  split at h
  · cases h
    exact hdrawn
  obtain ⟨fields, -, h⟩ := bind_eq_ok h
  unfold PermissionDb.writeDecision at h
  split at h
  · cases h
    exact hdrawn
  obtain ⟨granted, hgranted, h⟩ := bind_eq_ok h
  obtain ⟨written, hwritten, h⟩ := bind_eq_ok h
  cases h
  refine drawn_insertEvent hwritten ?_
  have hevents : granted.events = db.events := by
    unfold PermissionDb.insertGrantOf at hgranted
    split at hgranted
    · cases hgranted
      rfl
    · unfold PermissionDb.insertGrant at hgranted
      split at hgranted
      · cases hgranted
      split at hgranted
      · cases hgranted
      split at hgranted
      · cases hgranted
      split at hgranted
      · cases hgranted
      · cases hgranted
        rfl
  unfold DrawnIds
  rw [hevents]
  exact hdrawn

/-- The revocation of a grant is refused by nobody: the store's access succeeds and the grant's id is one. -/
def Revocable (s : Surroundings) (reasonCode : String) (g : Grant) : Prop :=
  s.fault (.revokeGrant reasonCode g.grantId) = none ∧ (PluginPermission.validateIdentifier "plugin permission grant id" g.grantId).isOk = true

/-- The revocation of an active grant succeeds where its id is one and the ids that are drawn are not taken. -/
theorem revokeGrant_ok (crates : Crates) (now : Int) (huuid : Function.Injective uuid) (hdrawn : DrawnIds uuid db)
    (hroot : requiredProjectRoot root = .ok root')
    (hreason : requireReasonCode "plugin permission grant reason is required" reasonCode = .ok reason)
    (hg : g ∈ activeIn root' db) (hid : (PluginPermission.validateIdentifier "plugin permission grant id" g.grantId).isOk = true) :
    ∃ db', db.revokeGrant crates now uuid root g.grantId reasonCode = .ok (.applied, db') ∧ DrawnIds uuid db' := by
  obtain ⟨hmem, hproject, hactive⟩ := mem_activeIn.mp hg
  have hget := get_of_mem hmem
  have hstatus := isActive_eq_true.mp hactive
  have hfound : db.getGrant root' g.grantId = some g := by
    rw [PermissionDb.getGrant, hget, Option.filter_some, if_pos (decide_eq_true hproject)]
  have hsel : PermissionDb.activeGrant root' g.grantId g = true := by
    simp [PermissionDb.activeGrant, hproject, hstatus]
  have hchanged : db.grants.changed (PermissionDb.activeGrant root' g.grantId) = 1 :=
    (changed_eq_one_iff _ _ g.grantId fun g' hg' => (of_activeGrant hg').2.1).mpr ⟨g, hget, hsel⟩
  obtain ⟨id, hid⟩ : ∃ id, PluginPermission.validateIdentifier "plugin permission grant id" g.grantId = .ok id := by
    cases h : PluginPermission.validateIdentifier "plugin permission grant id" g.grantId with
    | error e =>
      rw [h] at hid
      cases hid
    | ok id => exact ⟨id, rfl⟩
  have hkeeps : ∀ g : Grant, (Grant.revokeAt (crates.toRfc3339 now) g).grantId = g.grantId := fun _ => rfl
  obtain ⟨written, hwritten, -, hdrawn'⟩ := insertEvent_ok { db with
      grants := db.grants.update (PermissionDb.activeGrant root' g.grantId) (Grant.revokeAt (crates.toRfc3339 now)) hkeeps }
      (e := PermissionDb.grantEvent crates now root' g.pluginId g.packageDigest g.grantId .grantRevoked (some reason))
      huuid hdrawn rfl rfl (by
        have hrevoked := get_update_of_pos hkeeps hget hsel
        have hsame : (Grant.revokeAt (crates.toRfc3339 now) g).projectRoot = root' := hproject
        change (((db.grants.update _ _ hkeeps).get g.grantId).filter (fun g => g.projectRoot = root')).isSome = true
        rw [hrevoked, Option.filter_some, if_pos (decide_eq_true hsame)]
        rfl)
  have hend : db.endGrant uuid (PermissionDb.activeGrant root' g.grantId) (Grant.revokeAt (crates.toRfc3339 now)) hkeeps
      (PermissionDb.grantEvent crates now root' g.pluginId g.packageDigest g.grantId .grantRevoked (some reason)) =
      .ok (some written) := by
    unfold PermissionDb.endGrant
    rw [if_neg (not_not.mpr hchanged), hwritten]
    rfl
  refine ⟨written, ?_, hdrawn'⟩
  unfold PermissionDb.revokeGrant
  simp only [hroot, hid, hreason, ok_bind, hfound]
  rw [if_neg (not_not.mpr hstatus), hend]
  rfl

theorem valid_of_revokeGrant {result : Outcome × PermissionDb}
    (h : db.revokeGrant crates now uuid root grantId reasonCode = .ok result) :
    (PluginPermission.validateIdentifier "plugin permission grant id" grantId).isOk = true := by
  unfold PermissionDb.revokeGrant at h
  obtain ⟨_, -, h⟩ := bind_eq_ok h
  obtain ⟨_, hid, -⟩ := bind_eq_ok h
  rw [hid]
  rfl

attribute [local irreducible] PermissionDb.revokeGrant

/-- One active grant is revoked, or it cannot be and nothing changes. -/
theorem ends_revokeGrant_or (huuid : Function.Injective s.uuid) (hdrawn : DrawnIds s.uuid db)
    (hroot : requiredProjectRoot root = .ok root')
    (hreason : requireReasonCode "plugin permission grant reason is required" reasonCode = .ok reason)
    (hg : g ∈ activeIn root' db) : Ends (fun outcome db' => Revocable s reasonCode g ∧ outcome = .applied ∧ DrawnIds s.uuid db' ∧
        Table.Swept Grant.isActive [g.grantId] db.grants db'.grants)
      (fun _ db' => db' = db ∧ ¬ Revocable s reasonCode g) (revokeGrant s root reasonCode g db) := by
  by_cases hrevocable : Revocable s reasonCode g
  · obtain ⟨written, hok, hdrawn'⟩ := revokeGrant_ok s.crates (s.now db.events.rows.length) huuid hdrawn hroot hreason hg
      hrevocable.2
    have haccess : revokeGrant s root reasonCode g db = .ok .applied written := by
      unfold revokeGrant access
      rw [hrevocable.1]
      change (ofResult (db.revokeGrant s.crates (s.now db.events.rows.length) s.uuid root g.grantId reasonCode) >>= fun r => _) db = _
      rw [hok]
      rfl
    rw [haccess]
    exact ⟨hrevocable, rfl, hdrawn', (swept_of_revokeGrant hok rfl).1⟩
  · refine (ends_access _ _ db).mono ?_ ?_
    · rintro outcome db' ⟨hfault, hok⟩
      exact absurd ⟨hfault, valid_of_revokeGrant hok⟩ hrevocable
    · rintro e db' rfl
      exact ⟨rfl, hrevocable⟩

/-- A loop over active grants revokes them all or stops at one that cannot be revoked, which is left active. -/
theorem ends_revokeEach_or (huuid : Function.Injective s.uuid) (hroot : requiredProjectRoot root = .ok root')
    (hreason : requireReasonCode "plugin permission grant reason is required" reasonCode = .ok reason) (l : List Grant)
    (hnodup : (l.map Grant.grantId).Nodup) (db : PermissionDb) (hl : l ⊆ activeIn root' db) (hdrawn : DrawnIds s.uuid db) :
    Ends (fun _ db' => Table.Swept Grant.isActive (l.map Grant.grantId) db.grants db'.grants ∧ ∀ g ∈ l, Revocable s reasonCode g)
      (fun _ db' => ∃ g ∈ l, ¬ Revocable s reasonCode g ∧ g ∈ activeIn root' db') (revokeEach s root reasonCode message l db) := by
  induction l generalizing db with
  | nil => exact ⟨Table.Swept.refl _ _, fun _ h => absurd h List.not_mem_nil⟩
  | cons g l ih =>
    have hg := hl List.mem_cons_self
    obtain ⟨hfresh, hnodup⟩ := List.nodup_cons.mp hnodup
    refine ends_bind (P := fun outcome db₁ => Revocable s reasonCode g ∧ outcome = .applied ∧ DrawnIds s.uuid db₁ ∧
      Table.Swept Grant.isActive [g.grantId] db.grants db₁.grants) ?_ ?_
    · refine (ends_revokeGrant_or huuid hdrawn hroot hreason hg).onError ?_
      rintro _ db₁ ⟨rfl, hnot⟩
      exact ⟨g, List.mem_cons_self, hnot, hg⟩
    · rintro outcome db₁ ⟨hrevocable, rfl, hdrawn₁, hswept⟩
      refine ends_ofResult_bind nofun fun _ _ => ?_
      have hl₁ : l ⊆ activeIn root' db₁ := by
        intro g' hg'
        obtain ⟨hmem, hproject, hactive⟩ := mem_activeIn.mp (hl (List.mem_cons_of_mem _ hg'))
        have hnot : g'.grantId ∉ [g.grantId] := by
          rw [List.mem_singleton]
          exact fun hsame => hfresh (hsame ▸ List.mem_map_of_mem hg')
        have hkept : g' ∈ db₁.grants.rows.filter Grant.isActive := by
          rw [hswept]
          exact List.mem_filter.mpr ⟨List.mem_filter.mpr ⟨hmem, hactive⟩, decide_eq_true hnot⟩
        exact mem_activeIn.mpr ⟨List.mem_of_mem_filter hkept, hproject, hactive⟩
      refine (ih hnodup db₁ hl₁ hdrawn₁).mono ?_ ?_
      · rintro - db₂ ⟨hrest, hall⟩
        refine ⟨hswept.trans hrest, fun g' hg' => ?_⟩
        rcases List.mem_cons.mp hg' with rfl | hg'
        · exact hrevocable
        · exact hall g' hg'
      · rintro _ db₂ ⟨g', hg', hnot, hleft⟩
        exact ⟨g', List.mem_cons_of_mem _ hg', hnot, hleft⟩

/-- The package's grants are among the first active grants of the project, and neither listing nor revoking one of them fails. -/
def GrantsRevocable (s : Surroundings) (root pluginId packageDigest reasonCode : String) (db : PermissionDb) : Prop :=
  ∀ g ∈ activeIn (normalizeProjectRoot root) db, Grant.isOf pluginId packageDigest g = true →
    g ∈ firstRows grantOrder maxLimit (activeIn (normalizeProjectRoot root) db) ∧ s.fault (.listGrants reasonCode) = none ∧
      Revocable s reasonCode g

/-- Whether a revocation succeeds or not, it leaves no active grant of the package exactly when all of them could be revoked. -/
theorem ends_revokeListed_or (huuid : Function.Injective s.uuid) (hdrawn : DrawnIds s.uuid db)
    (hroot : requiredProjectRoot root = .ok root')
    (hreason : requireReasonCode "plugin permission grant reason is required" reasonCode = .ok reason) :
    Ends (fun _ db' => NoActiveGrant root pluginId packageDigest db' ↔ GrantsRevocable s root pluginId packageDigest reasonCode db)
      (fun _ db' => NoActiveGrant root pluginId packageDigest db' ↔ GrantsRevocable s root pluginId packageDigest reasonCode db)
      (revokeListed s root pluginId packageDigest reasonCode message db) := by
  have hnormalized := normalized_of_required hroot
  unfold revokeListed
  refine ends_seq (ends_listActive db) ?_ ?_
  · rintro e db' ⟨rfl, hfault⟩
    constructor
    · intro hnone g hg hof
      rw [hnone g hg] at hof
      cases hof
    · intro hall g hg
      rw [← Bool.not_eq_true]
      exact fun hof => hfault root' hroot (hall g hg hof).2.1
  rintro listed t ⟨rfl, hfault, rfl⟩
  have hnodup : (((firstRows grantOrder maxLimit (activeIn (normalizeProjectRoot root) t)).filter
      (Grant.isOf pluginId packageDigest)).map Grant.grantId).Nodup := by
    have hlisted : ((activeIn (normalizeProjectRoot root) t).map Grant.grantId).Nodup :=
      t.grants.nodup.sublist (List.filter_sublist.map _)
    have hsorted : (((activeIn (normalizeProjectRoot root) t).insertionSort grantOrder).map Grant.grantId).Nodup :=
      ((List.perm_insertionSort grantOrder _).map Grant.grantId).nodup_iff.mpr hlisted
    exact hsorted.sublist ((List.filter_sublist.trans (List.take_sublist _ _)).map _)
  refine ends_seq (ends_revokeEach_or huuid hroot hreason _ hnodup t ?_ hdrawn) ?_ ?_
  · intro g hg
    rw [hnormalized]
    exact mem_of_mem_firstRows (List.mem_of_mem_filter hg)
  · rintro _ db' ⟨g, hg, hnot, hleft⟩
    obtain ⟨hfirst, hof⟩ := List.mem_filter.mp hg
    constructor
    · intro hnone
      rw [hnone g (hnormalized ▸ hleft)] at hof
      cases hof
    · intro hall
      exact absurd (hall g (mem_of_mem_firstRows hfirst) hof).2.2 hnot
  · rintro - db' ⟨hswept, hrevocable⟩
    refine (noActiveGrant_iff firstRows_activeIn_subset hswept).trans ?_
    constructor
    · intro hall g hg hof
      have hfirst := hall g hg hof
      exact ⟨hfirst, hfault, hrevocable g (List.mem_filter.mpr ⟨hfirst, hof⟩)⟩
    · intro hall g hg hof
      exact (hall g hg hof).1

/-! ## Up to the revocation -/

/-- The grants are as they were, and the active runtime is the one that was active, if there is one. -/
structure SameRuntime (uuid : Nat → String) (r r' : Registry) : Prop where
  records : Records uuid r.permissions r'.permissions
  runtime : ∀ a ∈ r'.active, ∃ old ∈ r.active, a.host.identity = old.host.identity

instance : Std.Refl (SameRuntime uuid) := ⟨fun _ => ⟨Records.refl _ _, fun a ha => ⟨a, ha, rfl⟩⟩⟩

instance : IsTrans Registry (SameRuntime uuid) := by
  refine ⟨fun r₁ r₂ r₃ h h' => ⟨h.records.trans h'.records, fun a ha => ?_⟩⟩
  obtain ⟨b, hb, hab⟩ := h'.runtime a ha
  obtain ⟨c, hc, hbc⟩ := h.runtime b hb
  exact ⟨c, hc, hab.trans hbc⟩

theorem sameRuntime_of_eq {r : Registry} (hactive : r'.active = r.active) (hpermissions : r'.permissions = r.permissions) :
    SameRuntime uuid r r' := by
  refine ⟨hpermissions ▸ Records.refl _ _, fun a ha => ⟨a, hactive ▸ ha, rfl⟩⟩

theorem moves_advanceTransition (next : PluginLifecycle.Phase) (status : PluginLifecycle.Status) :
    Moves (SameRuntime uuid) (advanceTransition s next status) :=
  moves_bind (moves_attempt _) fun _ => moves_modify fun _ => sameRuntime_of_eq rfl rfl

theorem moves_requestTransition (kind : PluginLifecycle.Kind) : Moves (SameRuntime uuid) (requestTransition s kind) :=
  moves_bind (moves_attempt _) fun _ => moves_modify fun _ => sameRuntime_of_eq rfl rfl

theorem moves_failTransition : Moves (SameRuntime uuid) (failTransition s) :=
  moves_bind (moves_attempt _) fun _ => moves_modify fun _ => sameRuntime_of_eq rfl rfl

theorem moves_orFail {x : RegistryM α} (hx : Moves (SameRuntime uuid) x) : Moves (SameRuntime uuid) (orFail s x) :=
  moves_handle hx (fun a => moves_pure a) fun e =>
    moves_bind (moves_handle moves_failTransition (fun a => moves_pure a) fun _ => moves_pure _) fun _ => moves_throw e

theorem moves_onPermissions {α : Type} {x : PermissionM α} (hx : Moves (Records uuid) x) : Moves (SameRuntime uuid) (onPermissions x) := by
  intro r
  have h := hx r.permissions
  unfold onPermissions
  cases hrun : x r.permissions with
  | ok a db =>
    rw [hrun] at h
    exact ⟨h, fun a ha => ⟨a, ha, rfl⟩⟩
  | error e db =>
    rw [hrun] at h
    exact ⟨h, fun a ha => ⟨a, ha, rfl⟩⟩

instance : Std.Refl (Records uuid) := ⟨Records.refl uuid⟩

instance : IsTrans PermissionDb (Records uuid) := ⟨fun _ _ _ => Records.trans⟩

theorem moves_mintHandles (l : List CallEventDraft) : Moves (Records s.uuid) (mintHandles s l) := by
  induction l with
  | nil => exact moves_pure _
  | cons d l ih =>
    refine moves_bind (fun db => ?_) fun _ => ih
    have h := ends_access (s := s) (.mintHandle d.grantId) (fun now db => db.recordCallEvent s.crates now s.uuid d false) db
    cases hrun : access s (.mintHandle d.grantId) (fun now db => db.recordCallEvent s.crates now s.uuid d false) db with
    | ok eventId db' =>
      rw [hrun] at h
      exact records_recordCallEvent h.2
    | error e db' =>
      rw [hrun] at h
      exact h ▸ Records.refl _ _

variable {ctx : PluginContext} {f : Findings}

theorem moves_prepareActivation (plugin cached : FoundPlugin) (expectedOld : Option ContributionInstanceIdentity) :
    Moves (SameRuntime s.uuid) (prepareActivation s f plugin cached expectedOld) :=
  moves_bind (moves_ofResult _) fun _ => moves_bind (moves_attempt _) fun _ => moves_bind (moves_attempt _) fun _ =>
    moves_bind (moves_advanceTransition _ _) fun _ => moves_bind (moves_attempt _) fun _ => moves_bind (moves_attempt _) fun _ =>
      moves_bind moves_get fun _ => moves_bind (moves_ofResult _) fun _ => moves_onPermissions (moves_mintHandles _)

/-- What a step of the old host comes to. -/
theorem onOldHost_of_active {α : Type} {step : WasmPluginHost → Except String α × WasmPluginHost} {r : Registry} {old : ActivePlugin}
    (hactive : r.active = some old) :
    onOldHost step r = ofResult (step old.host).1 { r with active := some { old with host := (step old.host).2 } } := by
  cases r
  cases hactive
  rfl

/-- A step of the old host leaves it the host that it was. -/
theorem moves_onOldHost {α : Type} {step : WasmPluginHost → Except String α × WasmPluginHost}
    (hstep : ∀ host, (step host).2.identity = host.identity) : Moves (SameRuntime uuid) (onOldHost step) := by
  intro r
  cases hactive : r.active with
  | none =>
    cases r
    cases hactive
    exact sameRuntime_of_eq rfl rfl
  | some old =>
    rw [onOldHost_of_active hactive, final_ofResult]
    refine ⟨Records.refl _ _, fun a ha => ?_⟩
    cases ha
    exact ⟨old, hactive ▸ rfl, hstep old.host⟩

theorem cancelOldCall_identity (host : WasmPluginHost) : (cancelOldCall s host).2.identity = host.identity := by
  unfold cancelOldCall
  cases host.brokerCall with
  | none => rfl
  | some call =>
    have h := WasmHostAux.identity_cancelBrokerCall (s.hostEnv .cancelCall) call.requestId host
    dsimp only
    cases hrun : WasmPluginHost.cancelBrokerCall (s.hostEnv .cancelCall) call.requestId host with
    | ok cancelled next =>
      rw [hrun] at h
      exact h
    | error e next =>
      rw [hrun] at h
      exact h

theorem quiesceOld_identity (host : WasmPluginHost) : (quiesceOld s host).2.identity = host.identity := by
  have h := WasmHostAux.identity_quiesce (s.hostEnv .quiesce) host.identity.hostInstanceId host
  unfold quiesceOld
  cases hrun : WasmPluginHost.handleFrame (s.hostEnv .quiesce) ⟨host.identity.hostInstanceId, .quiesce⟩ host with
  | error e next =>
    rw [hrun] at h
    exact h
  | ok response next =>
    rw [hrun] at h
    split
    · rename_i heq
      cases heq
      exact h
    · rename_i heq
      cases heq
      exact h
    · rename_i heq
      cases heq

theorem moves_publishCandidate : Moves (SameRuntime uuid) (publishCandidate s f) :=
  moves_bind (moves_attempt _) fun _ => moves_modify fun _ => sameRuntime_of_eq rfl rfl

theorem removeActivePlugin_active (r : Registry) : (removeActivePlugin r).active = none := by
  unfold removeActivePlugin
  cases hactive : r.active with
  | none => exact hactive
  | some active => rfl

theorem removeActivePlugin_permissions (r : Registry) : (removeActivePlugin r).permissions = r.permissions := by
  unfold removeActivePlugin
  cases r.active with
  | none => rfl
  | some active => rfl

/-- A runtime that is removed is no other. -/
theorem sameRuntime_removed {r : Registry} (h : Records uuid r.permissions r'.permissions) : SameRuntime uuid r (removeActivePlugin r') := by
  refine ⟨removeActivePlugin_permissions r' ▸ h, fun a ha => ?_⟩
  rw [removeActivePlugin_active] at ha
  cases ha

theorem ends_after {x : RegistryM α} {r : Registry} (hx : Moves (SameRuntime uuid) x) (r₁ : Registry) (h : SameRuntime uuid r r₁) :
    Ends (fun _ r' => SameRuntime uuid r r') (fun _ r' => SameRuntime uuid r r') (x r₁) :=
  (ends_of_moves hx r₁).mono (fun _ _ h' => IsTrans.trans _ _ _ h h') fun _ _ h' => IsTrans.trans _ _ _ h h'

/-- A replacement that succeeds has made the candidate the active runtime; one that fails leaves the old one or none. -/
theorem ends_activateReplacement (plugin cached : FoundPlugin) (expectedOldDigest : String) (r : Registry) :
    Ends (fun _ r' => r'.active = some f.candidate ∧ Records s.uuid r.permissions r'.permissions) (fun _ r' => SameRuntime s.uuid r r')
      (activateReplacement s ctx f plugin cached expectedOldDigest r) := by
  have hprefix := fun {α : Type} {x : RegistryM α} (hx : Moves (SameRuntime s.uuid) x) => ends_after (r := r) hx
  unfold activateReplacement
  refine ends_get ?_
  refine ends_bind ( hprefix (moves_ofResult _) r (Std.Refl.refl r)) ?_
  intro old r₁ h₁
  refine ends_bind ( hprefix (moves_orFail (moves_prepareActivation _ _ _)) r₁ h₁) ?_
  intro _ r₂ h₂
  refine ends_bind ( hprefix (moves_advanceTransition _ _) r₂ h₂) ?_
  intro _ r₃ h₃
  refine ends_get ?_
  refine ends_bind ( hprefix (moves_ofResult _) r₃ h₃) ?_
  intro _ r₄ h₄
  refine ends_bind ( hprefix (moves_onOldHost cancelOldCall_identity) r₄ h₄) ?_
  intro _ r₅ h₅
  refine ends_bind ( hprefix (moves_onOldHost quiesceOld_identity) r₅ h₅) ?_
  intro _ r₆ h₆
  refine ends_bind ( hprefix (moves_orFail moves_publishCandidate) r₆ h₆) ?_
  intro _ r₇ h₇
  refine ends_bind (P := fun _ r' => r'.active = some f.candidate ∧ Records s.uuid r.permissions r'.permissions)
    (ends_modify ⟨rfl, h₇.records⟩) ?_
  rintro - r₈ ⟨hactive, hrecords⟩
  -- from here on an error removes the candidate
  refine ends_bind (P := fun _ r' => r'.active = some f.candidate ∧ Records s.uuid r.permissions r'.permissions) ?_ ?_
  · refine ends_handle (P := fun _ r' => r'.active = some f.candidate ∧ Records s.uuid r.permissions r'.permissions)
      (R := fun _ r' => Records s.uuid r.permissions r'.permissions) ?_ (fun _ _ h => by exact h) ?_
    · exact ends_bind (P := fun _ r' => r' = r₈) (ends_attempt (fun _ => rfl) fun _ _ => hrecords)
        fun _ _ h => ends_modify (h ▸ ⟨hactive, hrecords⟩)
    · intro e r' h
      refine ends_bind (P := fun _ r' => SameRuntime s.uuid r r') (ends_modify (sameRuntime_removed h)) ?_
      intro _ r'' h'
      refine ends_bind ( hprefix (moves_handle moves_failTransition (fun a => moves_pure a) fun _ => moves_pure _) r'' h') ?_
      exact fun _ _ h => h
  rintro - r₉ ⟨hactive, hrecords⟩
  refine ends_bind (P := fun _ r' => r'.active = some f.candidate ∧ Records s.uuid r.permissions r'.permissions) ?_ ?_
  · refine ends_handle (P := fun _ r' => r'.active = some f.candidate ∧ Records s.uuid r.permissions r'.permissions)
      (R := fun _ r' => Records s.uuid r.permissions r'.permissions) ?_ (fun _ _ h => by exact h) ?_
    · exact ends_bind (P := fun _ r' => r' = r₉) (ends_attempt (fun _ => rfl) fun _ _ => hrecords)
        fun _ _ h => ends_modify (h ▸ ⟨hactive, hrecords⟩)
    · intro e r' h
      refine ends_bind (P := fun _ r' => SameRuntime s.uuid r r') (ends_modify (sameRuntime_removed h)) ?_
      exact fun _ _ h => h
  exact fun _ _ h => h

theorem activeIn_congr {db db' : PermissionDb} (h : db'.grants = db.grants) : activeIn root db' = activeIn root db := by
  rw [activeIn, activeIn, h]

theorem grantsReached_congr {db db' : PermissionDb} (h : db'.grants = db.grants) :
    GrantsReached root pluginId packageDigest db' ↔ GrantsReached root pluginId packageDigest db := by
  rw [GrantsReached, GrantsReached, activeIn_congr h]

/-- A call that waits for a review has activated nothing. -/
theorem ends_awaitReview (pending : PendingEnable) (reusable : Nat) (r : Registry) :
    Ends (fun result _ => result.status ≠ "enabled") (fun _ _ => True) (awaitReview s f pending reusable r) := by
  unfold awaitReview
  refine ends_bind (P := fun _ _ => True) (ends_of_forall (fun _ _ => trivial) fun _ _ => trivial) ?_
  intro _ r₁ _
  refine ends_bind (P := fun _ _ => True) (ends_modify trivial) ?_
  intro _ _ _
  exact show "permission_required" ≠ "enabled" by decide

/-- A replacement and the revocation after it leave no active grant of the old package exactly when all were among the first. -/
theorem ends_replaceAndRevoke {plugin cached : FoundPlugin} {pluginId expectedOldDigest reasonCode : String} (r₀ r : Registry)
    (h : SameRuntime s.uuid r₀ r) :
    Ends (fun _ r' => NoActiveGrant ctx.projectRoot pluginId expectedOldDigest r'.permissions ↔
        GrantsReached ctx.projectRoot pluginId expectedOldDigest r₀.permissions) (fun _ _ => True) ((do
        let result ← activateReplacement s ctx f plugin cached expectedOldDigest
        let _ ← onPermissions (revokeExactDurableGrants s ctx.projectRoot pluginId expectedOldDigest reasonCode)
        return result : RegistryM EnableResult) r) := by
  refine ends_seq (ends_activateReplacement plugin cached expectedOldDigest r) (fun _ _ _ => trivial) ?_
  rintro result r₁ ⟨-, hrecords⟩
  refine ends_bind (P := fun _ r' => NoActiveGrant ctx.projectRoot pluginId expectedOldDigest r'.permissions ↔
    GrantsReached ctx.projectRoot pluginId expectedOldDigest r₁.permissions) ?_ ?_
  · exact ends_onPermissions ((ends_revokeListed r₁.permissions).mono (fun _ _ h => h.1) fun _ _ h => h)
  · intro _ r₂ hrevoked
    exact hrevoked.trans (grantsReached_congr (hrecords.grants.trans h.records.grants))

theorem ends_requestUpdate (transitionId : String) (input : UpdateInput) (r : Registry) :
    Ends (fun result r' => result.status = "enabled" →
        (NoActiveGrant ctx.projectRoot input.pluginId input.expectedOldDigest r'.permissions ↔
          GrantsReached ctx.projectRoot input.pluginId input.expectedOldDigest r.permissions))
      (fun _ _ => True) (requestUpdate s ctx f transitionId input r) := by
  have hprefix : ∀ {α : Type} {x : RegistryM α} (_ : Moves (SameRuntime s.uuid) x) (r₁ : Registry), SameRuntime s.uuid r r₁ →
      Ends (fun _ r' => SameRuntime s.uuid r r') (fun _ _ => True) (x r₁) :=
    fun hx r₁ h => (ends_after hx r₁ h).onError fun _ _ _ => trivial
  unfold requestUpdate
  refine ends_get ?_
  refine ends_bind ( hprefix (moves_ofResult _) r (Std.Refl.refl r)) ?_
  intro plugin r₁ h₁
  refine ends_bind ( hprefix (moves_requestTransition _) r₁ h₁) ?_
  intro _ r₂ h₂
  refine ends_bind ( hprefix (moves_advanceTransition _ _) r₂ h₂) ?_
  intro _ r₃ h₃
  refine ends_bind ( hprefix (moves_orFail (moves_attempt _)) r₃ h₃) ?_
  intro _ r₄ h₄
  refine ends_bind ( hprefix (moves_advanceTransition _ _) r₄ h₄) ?_
  intro _ r₅ h₅
  refine ends_bind ( hprefix (moves_attempt _) r₅ h₅) ?_
  intro _ r₆ h₆
  cases hrequests : f.requests.isEmpty with
  | true =>
    rw [if_pos rfl]
    exact (ends_replaceAndRevoke r r₆ h₆).mono (fun _ _ h _ => h) fun _ _ h => h
  | false =>
    rw [if_neg Bool.false_ne_true]
    exact (ends_awaitReview _ _ r₆).mono (fun _ _ hstatus h => absurd h hstatus) fun _ _ h => h

theorem ends_requestRollback (transitionId : String) (input : RollbackInput) (r : Registry) :
    Ends (fun result r' => result.status = "enabled" →
        (NoActiveGrant ctx.projectRoot input.pluginId input.expectedCurrentDigest r'.permissions ↔
          GrantsReached ctx.projectRoot input.pluginId input.expectedCurrentDigest r.permissions))
      (fun _ _ => True) (requestRollback s ctx f transitionId input r) := by
  have hprefix : ∀ {α : Type} {x : RegistryM α} (_ : Moves (SameRuntime s.uuid) x) (r₁ : Registry), SameRuntime s.uuid r r₁ →
      Ends (fun _ r' => SameRuntime s.uuid r r') (fun _ _ => True) (x r₁) :=
    fun hx r₁ h => (ends_after hx r₁ h).onError fun _ _ _ => trivial
  unfold requestRollback
  refine ends_get ?_
  refine ends_bind ( hprefix (moves_ofResult _) r (Std.Refl.refl r)) ?_
  intro target r₁ h₁
  refine ends_bind ( hprefix (moves_requestTransition _) r₁ h₁) ?_
  intro _ r₂ h₂
  refine ends_bind ( hprefix (moves_advanceTransition _ _) r₂ h₂) ?_
  intro _ r₃ h₃
  refine ends_bind ( hprefix (moves_advanceTransition _ _) r₃ h₃) ?_
  intro _ r₄ h₄
  refine ends_bind ( hprefix (moves_attempt _) r₄ h₄) ?_
  intro _ r₅ h₅
  cases hrequests : f.requests.isEmpty with
  | true =>
    rw [if_pos rfl]
    exact (ends_replaceAndRevoke r r₅ h₅).mono (fun _ _ h _ => h) fun _ _ h => h
  | false =>
    rw [if_neg Bool.false_ne_true]
    exact (ends_awaitReview _ _ r₅).mono (fun _ _ hstatus h => absurd h hstatus) fun _ _ h => h

/-! ## Approval -/

/-- The package that a pending activation replaces. -/
def PendingActivationKind.expectedOld : PendingActivationKind → Option String
  | .enable | .retry => none
  | .upgrade expectedOldDigest | .rollback expectedOldDigest => some expectedOldDigest

/-- The candidate has become the active runtime in the place of another. -/
def Replaces (f : Findings) (r r' : Registry) : Prop :=
  r'.active = some f.candidate ∧
    ∀ old ∈ r.active, old.host.identity.hostInstanceId ≠ f.candidate.host.identity.hostInstanceId

theorem SameRuntime.not_replaces {r : Registry} (h : SameRuntime uuid r r') : ¬ Replaces f r r' := by
  rintro ⟨hactive, hother⟩
  obtain ⟨old, hold, hsame⟩ := h.runtime f.candidate hactive
  exact hother old hold (congrArg WasmHostIdentity.hostInstanceId hsame).symm

theorem revocationReason_ok (kind : PendingActivationKind) :
    ∃ reason, requireReasonCode "plugin permission grant reason is required" kind.revocationReason = .ok reason := by
  have hupdated : requireReasonCode "plugin permission grant reason is required" "plugin_updated" = .ok "plugin_updated" := rfl
  have hrolledBack : requireReasonCode "plugin permission grant reason is required" "plugin_rolled_back" = .ok "plugin_rolled_back" :=
    rfl
  cases kind with
  | enable => exact ⟨_, hupdated⟩
  | retry => exact ⟨_, hupdated⟩
  | upgrade expectedOldDigest => exact ⟨_, hupdated⟩
  | rollback expectedOldDigest => exact ⟨_, hrolledBack⟩

theorem grantsRevocable_congr {db db' : PermissionDb} (h : db'.grants = db.grants) :
    GrantsRevocable s root pluginId packageDigest reasonCode db' ↔ GrantsRevocable s root pluginId packageDigest reasonCode db := by
  rw [GrantsRevocable, GrantsRevocable, activeIn_congr h]

theorem moves_listActive : Moves (Records uuid) (listActive s root reasonCode) := by
  intro db
  have h : Ends _ _ (listActive s root reasonCode db) := ends_listActive db
  cases hrun : listActive s root reasonCode db with
  | ok listed db' =>
    rw [hrun] at h
    exact h.1 ▸ Records.refl _ _
  | error e db' =>
    rw [hrun] at h
    exact h.1 ▸ Records.refl _ _

theorem moves_reloadCandidate (pending : PendingEnable) : Moves (SameRuntime uuid) (reloadCandidate s f pending) := by
  have hfail : ∀ message : String, Moves (SameRuntime uuid) (failWith s message : RegistryM (FoundPlugin × FoundPlugin)) :=
    fun message => moves_orFail (moves_throw message)
  have hproject : Moves (SameRuntime uuid) (reloadFromProject s f pending) := by
    unfold reloadFromProject
    split
    · exact hfail _
    · exact moves_bind (moves_orFail (moves_attempt _)) fun _ => moves_pure _
  unfold reloadCandidate
  cases pending.kind with
  | enable => exact hproject
  | retry => exact hproject
  | upgrade expectedOldDigest => exact hproject
  | rollback expectedOldDigest =>
    dsimp only
    unfold reloadFromCache
    split
    · refine moves_bind (moves_orFail (moves_ofResult _)) fun cached => moves_bind (moves_ofResult _) fun _ => ?_
      split
      · exact hfail _
      · exact moves_pure _
    · exact hfail _

/-- What is to be shown of an approval: if it has replaced the package, it has ended the grants that could be revoked. -/
def EndsGrants (s : Surroundings) (ctx : PluginContext) (f : Findings) (pending : PendingEnable) (r r' : Registry) : Prop :=
  ∀ expectedOldDigest, pending.kind.expectedOld = some expectedOldDigest → Replaces f r r' →
    (NoActiveGrant ctx.projectRoot pending.pluginId expectedOldDigest r'.permissions ↔
      GrantsRevocable s ctx.projectRoot pending.pluginId expectedOldDigest pending.kind.revocationReason r.permissions)

theorem SameRuntime.endsGrants {pending : PendingEnable} {r : Registry} (h : SameRuntime uuid r r') : EndsGrants s ctx f pending r r' :=
  fun _ _ hreplaces => absurd hreplaces h.not_replaces

theorem ends_activateReviewed (huuid : Function.Injective s.uuid) (hroot : requiredProjectRoot ctx.projectRoot = .ok root')
    (pending : PendingEnable) (plugin cached : FoundPlugin) (r₀ r : Registry) (h : SameRuntime s.uuid r₀ r)
    (hdrawn : DrawnIds s.uuid r₀.permissions) :
    Ends (fun _ r' => EndsGrants s ctx f pending r₀ r') (fun _ r' => EndsGrants s ctx f pending r₀ r')
      (activateReviewed s ctx f pending.pluginId pending plugin cached r) := by
  obtain ⟨reason, hreason⟩ := revocationReason_ok pending.kind
  have hreplace : ∀ expectedOldDigest, pending.kind.expectedOld = some expectedOldDigest →
      Ends (fun _ r' => EndsGrants s ctx f pending r₀ r') (fun _ r' => EndsGrants s ctx f pending r₀ r')
        ((do
          let result ← activateReplacement s ctx f plugin cached expectedOldDigest
          let _ ← onPermissions (revokeExactDurableGrants s ctx.projectRoot pending.pluginId expectedOldDigest pending.kind.revocationReason)
          return result : RegistryM EnableResult) r) := by
    intro expectedOldDigest hexpected
    refine ends_seq (ends_activateReplacement plugin cached expectedOldDigest r) ?_ ?_
    · exact fun _ r' h' => (IsTrans.trans _ _ _ h h' : SameRuntime s.uuid r₀ r').endsGrants
    rintro result r₁ ⟨-, hrecords⟩
    have hsame := hrecords.grants.trans h.records.grants
    have hended : ∀ db, (NoActiveGrant ctx.projectRoot pending.pluginId expectedOldDigest db ↔
        GrantsRevocable s ctx.projectRoot pending.pluginId expectedOldDigest pending.kind.revocationReason r₁.permissions) →
        EndsGrants s ctx f pending r₀ { r₁ with permissions := db } := by
      intro db hdb digest hdigest _
      rw [hexpected] at hdigest
      cases hdigest
      exact hdb.trans (grantsRevocable_congr hsame)
    refine ends_bind (P := fun _ r' => EndsGrants s ctx f pending r₀ r') ?_ fun _ _ h => by exact h
    exact ends_onPermissions ((ends_revokeListed_or huuid (hrecords.drawn (h.records.drawn hdrawn)) hroot hreason).mono
      (fun _ db hdb => hended db hdb) fun _ db hdb => hended db hdb)
  unfold activateReviewed
  cases hkind : pending.kind with
  | upgrade expectedOldDigest =>
    have h := hreplace expectedOldDigest (by rw [hkind]; rfl)
    rw [hkind] at h
    exact h
  | rollback expectedOldDigest =>
    have h := hreplace expectedOldDigest (by rw [hkind]; rfl)
    rw [hkind] at h
    exact h
  | enable =>
    have hnone : ∀ r', EndsGrants s ctx f pending r₀ r' := fun r' digest hdigest => by
      rw [hkind] at hdigest
      cases hdigest
    exact ends_of_forall (fun _ r' => hnone r') fun _ r' => hnone r'
  | retry =>
    have hnone : ∀ r', EndsGrants s ctx f pending r₀ r' := fun r' digest hdigest => by
      rw [hkind] at hdigest
      cases hdigest
    exact ends_of_forall (fun _ r' => hnone r') fun _ r' => hnone r'

theorem ends_tryActivatePending (huuid : Function.Injective s.uuid)
    (hroot : requiredProjectRoot ctx.projectRoot = .ok root') (pluginId : String) (r : Registry) (hdrawn : DrawnIds s.uuid r.permissions) :
    Ends (fun _ r' => ∀ pending ∈ r.pending, EndsGrants s ctx f pending r r') (fun _ r' => ∀ pending ∈ r.pending, EndsGrants s ctx f pending r r')
      (tryActivatePending s ctx f pluginId r) := by
  unfold tryActivatePending
  refine ends_get ?_
  cases hpending : r.pending with
  | none => exact fun pending h => nomatch h
  | some pending =>
    have hkept : ∀ r', SameRuntime s.uuid r r' → ∀ pending' ∈ some pending, EndsGrants s ctx f pending' r r' :=
      fun r' h _ _ => h.endsGrants
    have hprefix : ∀ {α : Type} {x : RegistryM α} (_ : Moves (SameRuntime s.uuid) x) (r₁ : Registry), SameRuntime s.uuid r r₁ →
        Ends (fun _ r' => SameRuntime s.uuid r r') (fun _ r' => ∀ pending' ∈ some pending, EndsGrants s ctx f pending' r r') (x r₁) :=
      fun hx r₁ h => (ends_after hx r₁ h).onError fun _ r' h => hkept r' h
    have hclear : ∀ r' : Registry, SameRuntime s.uuid r' { r' with pending := none } := fun _ => sameRuntime_of_eq rfl rfl
    refine ends_bind (P := fun _ r' => pending.pluginId = pluginId ∧ r' = r)
      (ends_ofResult ?_ fun _ _ => hkept r (Std.Refl.refl r)) ?_
    · intro _ h
      have hsame := of_ensure h
      rw [Bool.and_eq_true, beq_iff_eq] at hsame
      exact ⟨hsame.1, rfl⟩
    rintro - r₁ ⟨rfl, rfl⟩
    refine ends_bind ( hprefix (moves_ofResult _) r₁ (Std.Refl.refl _)) ?_
    intro requests r₂ h₂
    split
    · exact hkept r₂ h₂
    split
    · refine ends_bind ( hprefix (moves_handle moves_failTransition (fun a => moves_pure a) fun _ => moves_pure _) r₂ h₂) ?_
      intro _ r₃ h₃
      refine ends_bind (P := fun _ r' => SameRuntime s.uuid r₁ r') (ends_modify (IsTrans.trans _ _ _ h₃ (hclear r₃))) ?_
      exact fun _ r₄ h₄ => hkept r₄ h₄
    refine ends_bind ( hprefix (moves_reloadCandidate pending) r₂ h₂) ?_
    rintro ⟨plugin, cached⟩ r₃ h₃
    refine ends_bind ( hprefix (moves_onPermissions moves_listActive) r₃ h₃) ?_
    intro _ r₄ h₄
    refine ends_bind (P := fun _ r' => EndsGrants s ctx f pending r₁ r') ((ends_activateReviewed huuid hroot pending plugin cached r₁ r₄ h₄
      hdrawn).onError ?_) ?_
    · rintro _ r' h pending' hmem
      cases hmem
      exact h
    intro result r₅ h₅
    refine ends_bind (P := fun _ r' => EndsGrants s ctx f pending r₁ r') (ends_modify h₅) ?_
    rintro _ r' h pending' hmem
    cases hmem
    exact h

/-- The decision that an approval records, and the database once it is recorded. -/
def Decided (s : Surroundings) (ctx : PluginContext) (input : DecisionInput) (grantId expiresAt : String) (db db' : PermissionDb) : Prop :=
  ∃ decision outcome, parseDecision input.decision = .ok decision ∧
    db.resolveRequest s.crates (s.now db.events.rows.length) s.uuid (decisionDraft ctx input decision grantId expiresAt) =
      .ok (outcome, db')

attribute [local irreducible] PermissionDb.resolveRequest requireRequest parseDecision

/-- An approval that replaces the package has ended its grants exactly when all of them could be revoked once it was recorded. -/
theorem ends_respond (huuid : Function.Injective s.uuid) (input : DecisionInput) (grantId expiresAt : String) (r : Registry)
    (hdrawn : DrawnIds s.uuid r.permissions) :
    Ends (fun _ r' => ∃ db, Decided s ctx input grantId expiresAt r.permissions db ∧
        ∀ pending ∈ r.pending, EndsGrants s ctx f pending { r with permissions := db } r')
      (fun _ _ => True) (respond s ctx f input grantId expiresAt r) := by
  unfold respond
  refine ends_ofResult_bind (fun _ _ => trivial) fun _ _ => ?_
  refine ends_get ?_
  refine ends_ofResult_bind (fun _ _ => trivial) fun request _ => ?_
  refine ends_ofResult_bind (fun _ _ => trivial) fun _ _ => ?_
  refine ends_bind (P := fun decision r' => parseDecision input.decision = .ok decision ∧ r' = r)
    (ends_ofResult (fun _ h => ⟨h, rfl⟩) fun _ _ => trivial) ?_
  rintro decision r ⟨hdecision, rfl⟩
  refine ends_bind (P := fun _ r' => ∃ db root', r' = { r with permissions := db } ∧
    Decided s ctx input grantId expiresAt r.permissions db ∧ DrawnIds s.uuid db ∧ requiredProjectRoot ctx.projectRoot = .ok root') ?_ ?_
  · refine ends_onPermissions ((ends_access _ _ r.permissions).mono ?_ fun _ _ _ => trivial)
    rintro outcome db ⟨-, hresolve⟩
    have hresolved := hresolve
    unfold PermissionDb.resolveRequest at hresolved
    obtain ⟨root', hroot, -⟩ := bind_eq_ok hresolved
    exact ⟨db, root', rfl, ⟨decision, outcome, hdecision, hresolve⟩, drawn_resolveRequest hresolve hdrawn, hroot⟩
  rintro outcome r₁ ⟨db, root', rfl, hdecided, hdrawn', hroot⟩
  refine ends_ofResult_bind (fun _ _ => trivial) fun _ _ => ?_
  refine ends_get ?_
  refine ends_ofResult_bind (fun _ _ => trivial) fun _ _ => ?_
  refine ends_bind (P := fun _ r' => ∀ pending ∈ r.pending, EndsGrants s ctx f pending { r with permissions := db } r') ?_ ?_
  · refine ends_handle (ends_tryActivatePending huuid hroot request.pluginId _ hdrawn') (fun _ _ h => by exact h) ?_
    intro e r' h
    unfold activationFailed
    exact ends_bind (P := fun _ r' => ∀ pending ∈ r.pending, EndsGrants s ctx f pending { r with permissions := db } r') (ends_modify h)
      fun _ _ h => by exact h
  · rintro ⟨pluginStatus, activeGrantCount⟩ r' h
    exact ⟨db, hdecided, h⟩

/-! ## What is left -/

/-- A decision is recorded in one way. -/
theorem Decided.unique {input : DecisionInput} {expiresAt : String} {db₁ db₂ : PermissionDb}
    (h₁ : Decided s ctx input grantId expiresAt db db₁) (h₂ : Decided s ctx input grantId expiresAt db db₂) : db₁ = db₂ := by
  obtain ⟨decision, outcome, hdecision, hresolve⟩ := h₁
  obtain ⟨decision', outcome', hdecision', hresolve'⟩ := h₂
  obtain rfl := Except.ok.inj (hdecision.symm.trans hdecision')
  exact congrArg Prod.snd (Except.ok.inj (hresolve.symm.trans hresolve'))

/-- What succeeds has ended the authority of the package that it removes or replaces exactly when none of the package's rows stood
behind the first of the project; and an approval, which succeeds although the revocation in it has failed, exactly when none of the
rows stood there and none of them could not be revoked. -/
theorem ended_authority_iff (s : Surroundings) (ctx : PluginContext) (r r' : Registry) :
    (∀ f input result, uninstall s ctx f input r = .ok result r' →
      ((NoPendingRequest ctx.projectRoot input.pluginId input.packageDigest r'.permissions ∧
          NoActiveGrant ctx.projectRoot input.pluginId input.packageDigest r'.permissions) ↔
        RequestsReached input.pluginId input.packageDigest
            (pendingLeft (normalizeProjectRoot ctx.projectRoot) input.pluginId (tornDown f.teardown r) r.permissions) ∧
          GrantsReached ctx.projectRoot input.pluginId input.packageDigest r.permissions)) ∧
    (∀ f transitionId input result, requestUpdate s ctx f transitionId input r = .ok result r' → result.status = "enabled" →
      (NoActiveGrant ctx.projectRoot input.pluginId input.expectedOldDigest r'.permissions ↔
        GrantsReached ctx.projectRoot input.pluginId input.expectedOldDigest r.permissions)) ∧
    (∀ f transitionId input result, requestRollback s ctx f transitionId input r = .ok result r' → result.status = "enabled" →
      (NoActiveGrant ctx.projectRoot input.pluginId input.expectedCurrentDigest r'.permissions ↔
        GrantsReached ctx.projectRoot input.pluginId input.expectedCurrentDigest r.permissions)) ∧
    (∀ f input grantId expiresAt result db pending expectedOldDigest, Function.Injective s.uuid → DrawnIds s.uuid r.permissions →
      respond s ctx f input grantId expiresAt r = .ok result r' → Decided s ctx input grantId expiresAt r.permissions db →
      r.pending = some pending → pending.kind.expectedOld = some expectedOldDigest → Replaces f r r' →
      (NoActiveGrant ctx.projectRoot pending.pluginId expectedOldDigest r'.permissions ↔
        GrantsRevocable s ctx.projectRoot pending.pluginId expectedOldDigest pending.kind.revocationReason db)) := by
  refine ⟨?_, ?_, ?_, ?_⟩
  · intro f input result hok
    have h := ends_uninstall (s := s) ctx f input r
    rw [hok] at h
    exact and_congr h.1 h.2
  · intro f transitionId input result hok
    have h : Ends _ _ (requestUpdate s ctx f transitionId input r) := ends_requestUpdate transitionId input r
    rw [hok] at h
    exact h
  · intro f transitionId input result hok
    have h : Ends _ _ (requestRollback s ctx f transitionId input r) := ends_requestRollback transitionId input r
    rw [hok] at h
    exact h
  · intro f input grantId expiresAt result db pending expectedOldDigest huuid hdrawn hok hdecided hpending hexpected hreplaces
    have h : Ends _ _ (respond s ctx f input grantId expiresAt r) := ends_respond huuid input grantId expiresAt r hdrawn
    rw [hok] at h
    obtain ⟨db', hdecided', hended⟩ := h
    obtain rfl := hdecided.unique hdecided'
    exact hended pending hpending expectedOldDigest hexpected hreplaces

/-! ## A crowded project -/

namespace SampleAuthority

def oldDigest : String := "bbbbbbbbbbbbbbbbbbbbbbbbbbbbbbbbbbbbbbbbbbbbbbbbbbbbbbbbbbbbbbbb"
def newDigest : String := "aaaaaaaaaaaaaaaaaaaaaaaaaaaaaaaaaaaaaaaaaaaaaaaaaaaaaaaaaaaaaaaa"

def context : PluginContext := ⟨"/project", 0⟩

/-- A request that was granted: the last one of the plugin that is removed, the others of a plugin each. -/
def request (k : Nat) : PluginPermission.Request where
  requestId := SampleBatch.number k
  projectRoot := "/project"
  pluginId := if k = 100 then "plugin" else SampleBatch.number k
  pluginVersion := "1.0.0"
  packageDigest := oldDigest
  runtimeKind := "wasm"
  permission := .projectFsRead
  constraintsJson := "\x7b\"maxBytes\":1,\"paths\":[\"a\"]\x7d"
  constraintsDigest := "6be8b625e1b9bd006c340a22c2bea58be08ba82df42f1f8518e79e22588d8b7c"
  purposeText := none
  status := .granted
  requestedAt := "2024-01-01T00:00:00+00:00"
  resolvedAt := some "2024-01-01T00:00:00+00:00"
  decision := some .allowProject
  grantSource := some .project
  reasonCode := none
  expectedProjectRevision := 0

/-- The grant of the plugin that is removed is a second older than the others. -/
def grant (k : Nat) : Grant :=
  (request k).grant ⟨SampleBatch.number k, .project, 1, "2024-02-01T00:00:00+00:00"⟩
    (if k = 100 then "2024-01-01T00:00:00+00:00" else "2024-01-01T00:00:01+00:00")

theorem nodup_numbered {α : Type} (row : Nat → α) (key : α → String) (hkey : ∀ k, key (row k) = SampleBatch.number k) :
    (((List.range 101).map row).map key).Nodup := by
  rw [List.map_map]
  refine List.Nodup.map_on ?_ List.nodup_range
  intro a ha b hb h
  have hsame := (hkey a).symm.trans (h.trans (hkey b))
  exact SampleBatch.number_inj (by have := List.mem_range.mp ha; omega) (by have := List.mem_range.mp hb; omega) hsame

/-- One more active grant than the store lists. -/
def crowded : PermissionDb :=
  ⟨⟨(List.range 101).map request, nodup_numbered request _ (fun _ => rfl)⟩,
    ⟨(List.range 101).map grant, nodup_numbered grant _ (fun _ => rfl)⟩, .empty _⟩

/-- Nothing fails. -/
def surroundings : Surroundings where
  crates := sampleCrates
  now _ := 1704067200000000000
  uuid := SampleBatch.uuid
  fault _ := none
  hostEnv _ := SampleHost.succeeds

/-- The plugin is disabled already. -/
def disabled : PluginLifecycle.PluginState where
  projectRoot := "/project"
  pluginId := "plugin"
  directoryName := "plugin"
  pluginVersion := "1.0.0"
  acceptedDigest := some oldDigest
  pendingDigest := none
  rollbackDigest := none
  desiredState := .disabled
  observedState := .disabled
  lastActivationGeneration := 1
  lastHostSessionId := none
  transitionId := none
  lastErrorCode := none

def uninstallFindings : UninstallFindings where
  lifecycle := .ok (some disabled)
  teardown := ⟨.ok (some disabled), .ok none, .ok (some disabled)⟩
  discovered := .ok ⟨⟨"plugin", "1.0.0", oldDigest⟩, "plugin"⟩
  lifecycleAfter := .ok (some disabled)

def uninstallInput : UninstallInput := ⟨"plugin", "plugin", oldDigest, 0, true⟩

/-- An active runtime of a package. -/
def runtime (digest instanceId : String) : ActivePlugin where
  projectRoot := "/project"
  packageDigest := digest
  host := { WasmPluginHost.fromRuntime ⟨⟨"project.a", SampleHost.project_valid⟩, ⟨"plugin", by decide +kernel⟩, digest, ⟨1, one_nonzero⟩, instanceId⟩
    SampleHost.runtime with state := .active }
  contributionIdentity := none

def enabled (observed : PluginLifecycle.ObservedState) : PluginLifecycle.PluginState :=
  { disabled with
    pendingDigest := some newDigest
    rollbackDigest := some newDigest
    desiredState := .enabled
    observedState := observed }

/-- The candidate needs no permission. -/
def findings (discovered : String) (observed : PluginLifecycle.ObservedState) : Findings where
  discovered := .ok ⟨"plugin", "1.0.0", discovered⟩
  lifecycle := .ok (some (enabled observed))
  cached := .ok ⟨"plugin", "1.0.0", newDigest⟩
  requests := []
  requestIds := []
  reusable := 0
  candidate := runtime newDigest "instance.2"
  handles := []
  completion := .applied

/-- The old package is active. -/
def running (pending : Option PendingEnable) (db : PermissionDb) : Registry :=
  ⟨some (runtime oldDigest "instance.1"), pending, none, none, db⟩

/-- The review of an update that asks for one permission. -/
def review : PendingEnable := ⟨.upgrade oldDigest, "plugin", "1.0.0", newDigest, "transition.1", ["request"], 0⟩

/-- The permission is asked for. -/
def asked : PermissionDb :=
  { emptyDb with requests := ⟨[{ request 100 with
      requestId := "request"
      packageDigest := newDigest
      status := .pending
      resolvedAt := none
      decision := none
      grantSource := none }], List.nodup_singleton _⟩ }

def decision : DecisionInput := ⟨"request", 0, "allow_project"⟩

/-- No plugin is active. -/
def idle (db : PermissionDb) : Registry := ⟨none, none, none, none, db⟩

end SampleAuthority

attribute [local irreducible] uninstall requestUpdate requestRollback respond normalizeProjectRoot

/-- The uninstall of a plugin succeeds, and its grant is still active, which stood behind a hundred others. -/
theorem grant_survives_uninstall : ∃ result r',
    uninstall SampleAuthority.surroundings SampleAuthority.context SampleAuthority.uninstallFindings SampleAuthority.uninstallInput
        (SampleAuthority.idle SampleAuthority.crowded) = .ok result r' ∧
      ¬ NoActiveGrant "/project" "plugin" SampleAuthority.oldDigest r'.permissions := by
  have hrun : succeeds (fun _ r' => (activeIn (normalizeProjectRoot "/project") r'.permissions).any
      (Grant.isOf "plugin" SampleAuthority.oldDigest)) (uninstall SampleAuthority.surroundings SampleAuthority.context
        SampleAuthority.uninstallFindings SampleAuthority.uninstallInput (SampleAuthority.idle SampleAuthority.crowded)) = true := by
    decide +kernel
  obtain ⟨result, r', hok, hleft⟩ := of_succeeds hrun
  refine ⟨result, r', hok, fun hnone => ?_⟩
  obtain ⟨g, hg, hof⟩ := List.any_eq_true.mp hleft
  exact Bool.false_ne_true ((hnone g hg).symm.trans hof)

theorem grantsReached_empty : GrantsReached root pluginId packageDigest emptyDb :=
  fun _ hg => absurd (mem_activeIn.mp hg).1 List.not_mem_nil

theorem requestsReached_empty {plugin : String} {torn : Bool} :
    RequestsReached pluginId packageDigest (pendingLeft root plugin torn emptyDb) :=
  fun _ hr => absurd (mem_pendingIn.mp (List.mem_of_mem_filter hr)).1 List.not_mem_nil

/-- The approval is recorded, and gives the old package no grant. -/
theorem SampleAuthority.decided : ∃ db, Decided surroundings context decision "grant" "2024-01-01T00:00:30Z" asked db ∧
    ∀ g ∈ activeIn (normalizeProjectRoot "/project") db, Grant.isOf "plugin" oldDigest g = false := by
  have hdecision : parseDecision decision.decision = .ok .allowProject := by decide +kernel
  have hrun : (asked.resolveRequest surroundings.crates (surroundings.now asked.events.rows.length) surroundings.uuid
      (decisionDraft context decision .allowProject "grant" "2024-01-01T00:00:30Z")).toOption.any (fun result =>
        (activeIn (normalizeProjectRoot "/project") result.2).all (fun g => !Grant.isOf "plugin" oldDigest g)) = true := by
    decide +kernel
  cases hresolve : asked.resolveRequest surroundings.crates (surroundings.now asked.events.rows.length) surroundings.uuid
      (decisionDraft context decision .allowProject "grant" "2024-01-01T00:00:30Z") with
  | error e =>
    rw [hresolve] at hrun
    cases hrun
  | ok result =>
    rw [hresolve] at hrun
    exact ⟨result.2, ⟨_, result.1, hdecision, hresolve⟩, fun g hg => Bool.not_eq_true' _ ▸ List.all_eq_true.mp hrun g hg⟩

/-- An uninstall, an update, a rollback and an approval that succeed and leave nothing. -/
theorem authority_ended :
    (∃ result r', uninstall SampleAuthority.surroundings SampleAuthority.context SampleAuthority.uninstallFindings
        SampleAuthority.uninstallInput (SampleAuthority.idle emptyDb) = .ok result r' ∧
      NoPendingRequest "/project" "plugin" SampleAuthority.oldDigest r'.permissions ∧
      NoActiveGrant "/project" "plugin" SampleAuthority.oldDigest r'.permissions) ∧
    (∃ result r', requestUpdate SampleAuthority.surroundings SampleAuthority.context
        (SampleAuthority.findings SampleAuthority.newDigest .updatePending) "transition.1"
        ⟨"plugin", SampleAuthority.oldDigest, SampleAuthority.newDigest, 0⟩ (SampleAuthority.running none emptyDb) = .ok result r' ∧
      NoActiveGrant "/project" "plugin" SampleAuthority.oldDigest r'.permissions) ∧
    (∃ result r', requestRollback SampleAuthority.surroundings SampleAuthority.context
        (SampleAuthority.findings SampleAuthority.oldDigest .active) "transition.1"
        ⟨"plugin", SampleAuthority.oldDigest, SampleAuthority.newDigest, 0⟩ (SampleAuthority.running none emptyDb) = .ok result r' ∧
      NoActiveGrant "/project" "plugin" SampleAuthority.oldDigest r'.permissions) ∧
    (∃ result r', respond SampleAuthority.surroundings SampleAuthority.context
        (SampleAuthority.findings SampleAuthority.newDigest .updatePending) SampleAuthority.decision "grant" "2024-01-01T00:00:30Z"
        (SampleAuthority.running (some SampleAuthority.review) SampleAuthority.asked) = .ok result r' ∧
      NoActiveGrant "/project" "plugin" SampleAuthority.oldDigest r'.permissions) := by
  refine ⟨?_, ?_, ?_, ?_⟩
  · obtain ⟨result, r', hok, -⟩ := of_succeeds (p := fun _ _ => true) (x := uninstall SampleAuthority.surroundings
      SampleAuthority.context SampleAuthority.uninstallFindings SampleAuthority.uninstallInput (SampleAuthority.idle emptyDb))
      (by decide +kernel)
    exact ⟨result, r', hok, ((ended_authority_iff _ _ _ r').1 _ _ _ hok).mpr ⟨requestsReached_empty, grantsReached_empty⟩⟩
  · obtain ⟨result, r', hok, henabled⟩ := of_succeeds (p := fun result _ => result.status == "enabled") (x := requestUpdate
      SampleAuthority.surroundings SampleAuthority.context (SampleAuthority.findings SampleAuthority.newDigest .updatePending)
      "transition.1" ⟨"plugin", SampleAuthority.oldDigest, SampleAuthority.newDigest, 0⟩ (SampleAuthority.running none emptyDb))
      (by decide +kernel)
    exact ⟨result, r', hok, ((ended_authority_iff _ _ _ r').2.1 _ _ _ _ hok (beq_iff_eq.mp henabled)).mpr grantsReached_empty⟩
  · obtain ⟨result, r', hok, henabled⟩ := of_succeeds (p := fun result _ => result.status == "enabled") (x := requestRollback
      SampleAuthority.surroundings SampleAuthority.context (SampleAuthority.findings SampleAuthority.oldDigest .active)
      "transition.1" ⟨"plugin", SampleAuthority.oldDigest, SampleAuthority.newDigest, 0⟩ (SampleAuthority.running none emptyDb))
      (by decide +kernel)
    exact ⟨result, r', hok, ((ended_authority_iff _ _ _ r').2.2.1 _ _ _ _ hok (beq_iff_eq.mp henabled)).mpr grantsReached_empty⟩
  · obtain ⟨result, r', hok, hactive⟩ := of_succeeds
      (p := fun _ r' => r'.active == some (SampleAuthority.runtime SampleAuthority.newDigest "instance.2")) (x := respond
        SampleAuthority.surroundings SampleAuthority.context (SampleAuthority.findings SampleAuthority.newDigest .updatePending)
        SampleAuthority.decision "grant" "2024-01-01T00:00:30Z"
        (SampleAuthority.running (some SampleAuthority.review) SampleAuthority.asked)) (by decide +kernel)
    obtain ⟨db, hdecided, hnone⟩ := SampleAuthority.decided
    refine ⟨result, r', hok, ((ended_authority_iff _ _ _ r').2.2.2 _ _ _ _ _ db SampleAuthority.review _ SampleBatch.uuid_injective ?_
      hok hdecided rfl rfl ⟨beq_iff_eq.mp hactive, ?_⟩).mpr ?_⟩
    · exact fun e he => absurd he List.not_mem_nil
    · intro old hold
      cases hold
      decide
    · intro g hg hof
      exact absurd ((hnone g hg).symm.trans hof) Bool.false_ne_true

end Rho.PluginRegistry
