import Rho.Lib.AuditLog
import Rho.Store.PluginPermission

/-!
# Permission records and their events

Every operation is a sequence of writes of one kind: it creates requests, or it grants one, or it ends requests and grants. Each
write puts one event beside the row it changes. The histories of the rows are kept by every write, and what an operation adds is
read off the histories before and after it.
-/

namespace Rho.PluginPermission

open AuditLog Fallible PermissionDb Table

/-! ## What an event is about -/

/-- The `request_*` and `recovery_*` events. -/
def EventType.isRequestEvent : EventType → Bool
  | .requestCreated | .requestGranted | .requestDenied | .requestCancelled | .requestStale | .recoveryCancelled => true
  | _ => false

/-- The `grant_*` events. -/
def EventType.isGrantEvent : EventType → Bool
  | .grantConsumed | .grantRevoked | .grantExpired => true
  | _ => false

/-- The events that tell of a request that has come to a status. -/
def RequestStatus.events : RequestStatus → List EventType
  | .pending => [.requestCreated]
  | .granted => [.requestGranted]
  | .denied => [.requestDenied]
  | .cancelled => [.requestCancelled, .recoveryCancelled]
  | .stale => [.requestStale]

/-- The events that tell of a grant that has come to a status; a grant is created by the event of its request. -/
def GrantStatus.events : GrantStatus → List EventType
  | .active => [.requestGranted]
  | .consumed => [.grantConsumed]
  | .revoked => [.grantRevoked]
  | .expired => [.grantExpired]

def Event.aboutRequest (requestId : String) (e : Event) : Bool := e.eventType.isRequestEvent && e.requestId == some requestId

def Event.aboutGrant (grantId : String) (e : Event) : Bool :=
  (e.eventType.isGrantEvent || e.eventType == .requestGranted) && e.grantId == some grantId

/-- The event is of the request's project, plugin and digest and of its status. -/
def Event.tellsRequest (e : Event) (r : Request) : Prop :=
  e.projectRoot = r.projectRoot ∧ e.pluginId = r.pluginId ∧ e.packageDigest = r.packageDigest ∧ e.eventType ∈ r.status.events

/-- The event is of the grant's project, plugin and digest and of its status. -/
def Event.tellsGrant (e : Event) (g : Grant) : Prop :=
  e.projectRoot = g.projectRoot ∧ e.pluginId = g.pluginId ∧ e.packageDigest = g.packageDigest ∧ e.eventType ∈ g.status.events

def Request.isPending (r : Request) : Bool := r.status == .pending

def Grant.isActive (g : Grant) : Bool := g.status == .active

/-- What a grant has of its request. -/
structure Identity where
  projectRoot : String
  pluginId : String
  pluginVersion : String
  packageDigest : String
  runtimeKind : String
  permission : PermissionKind
  constraintsJson : String
  constraintsDigest : String

def Request.identity (r : Request) : Identity where
  projectRoot := r.projectRoot
  pluginId := r.pluginId
  pluginVersion := r.pluginVersion
  packageDigest := r.packageDigest
  runtimeKind := r.runtimeKind
  permission := r.permission
  constraintsJson := r.constraintsJson
  constraintsDigest := r.constraintsDigest

def Grant.identity (g : Grant) : Identity where
  projectRoot := g.projectRoot
  pluginId := g.pluginId
  pluginVersion := g.pluginVersion
  packageDigest := g.packageDigest
  runtimeKind := g.runtimeKind
  permission := g.permission
  constraintsJson := g.constraintsJson
  constraintsDigest := g.constraintsDigest

/-! ## Writes -/

inductive WriteKind where
  | create | grant | close
  deriving DecidableEq

/-- One change of a row, with its event; or the event of a call, with no change. -/
inductive Write : WriteKind → PermissionDb → PermissionDb → Prop
  | create {db db' : PermissionDb} (r : Request) (e : Event) (fresh : db.requests.get r.requestId = none) (pending : r.status = .pending)
      (requests : db.requests.Sets db'.requests r) (grants : db'.grants = db.grants) (events : db'.events.rows = db.events.rows ++ [e])
      (tells : e.tellsRequest r) (request : e.requestId = some r.requestId) (grant : e.grantId = none) : Write .create db db'
  | grant {db db' : PermissionDb} (r r' : Request) (g : Grant) (e : Event) (found : db.requests.get r'.requestId = some r)
      (pending : r.status = .pending) (granted : r'.status = .granted) (same : r'.identity = r.identity)
      (requests : db.requests.Sets db'.requests r') (fresh : db.grants.get g.grantId = none)
      (unique : ∀ other ∈ db.grants.rows, other.originatingRequestId ≠ r'.requestId) (active : g.status = .active)
      (origin : g.originatingRequestId = r'.requestId) (ofRequest : g.identity = r'.identity) (grants : db.grants.Sets db'.grants g)
      (events : db'.events.rows = db.events.rows ++ [e]) (tells : e.tellsRequest r') (request : e.requestId = some r'.requestId)
      (grant : e.grantId = some g.grantId) : Write .grant db db'
  | settle {db db' : PermissionDb} (r r' : Request) (e : Event) (found : db.requests.get r'.requestId = some r)
      (pending : r.status = .pending) (settled : r'.status ≠ .pending) (notGranted : r'.status ≠ .granted)
      (same : r'.identity = r.identity) (requests : db.requests.Sets db'.requests r') (grants : db'.grants = db.grants)
      (events : db'.events.rows = db.events.rows ++ [e]) (tells : e.tellsRequest r') (request : e.requestId = some r'.requestId)
      (grant : e.grantId = none) : Write .close db db'
  | endGrant {db db' : PermissionDb} (g g' : Grant) (e : Event) (found : db.grants.get g'.grantId = some g) (active : g.status = .active)
      (ended : g'.status ≠ .active) (same : g'.identity = g.identity) (origin : g'.originatingRequestId = g.originatingRequestId)
      (source : g'.grantSource = g.grantSource) (terms : g'.policyRevision = g.policyRevision ∧ g'.expiresAt = g.expiresAt)
      (once : g'.status = .consumed → g.grantSource = .allowOnce)
      (requests : db'.requests = db.requests) (grants : db.grants.Sets db'.grants g')
      (events : db'.events.rows = db.events.rows ++ [e]) (tells : e.tellsGrant g') (request : e.requestId = none)
      (grant : e.grantId = some g'.grantId) : Write .close db db'
  | call {db db' : PermissionDb} (e : Event) (requests : db'.requests = db.requests) (grants : db'.grants = db.grants)
      (events : db'.events.rows = db.events.rows ++ [e]) (noRequest : e.eventType.isRequestEvent = false)
      (noGrant : e.eventType.isGrantEvent = false) : Write .close db db'

/-- How the row of a request changes in an operation of a kind. -/
def WriteKind.RequestMove : WriteKind → Option Request → Option Request → Prop
  | .create => Opens Request.isPending
  | .grant | .close => Closes Request.isPending

/-- How the row of a grant changes in an operation of a kind. -/
def WriteKind.GrantMove : WriteKind → Option Grant → Option Grant → Prop
  | .create | .grant => Opens Grant.isActive
  | .close => Closes Grant.isActive

theorem isPending_eq_true {r : Request} : r.isPending = true ↔ r.status = .pending := by
  rw [Request.isPending, beq_iff_eq]

theorem isPending_eq_false {r : Request} : r.isPending = false ↔ r.status ≠ .pending := by
  rw [← Bool.not_eq_true, isPending_eq_true]

theorem isActive_eq_true {g : Grant} : g.isActive = true ↔ g.status = .active := by
  rw [Grant.isActive, beq_iff_eq]

theorem isActive_eq_false {g : Grant} : g.isActive = false ↔ g.status ≠ .active := by
  rw [← Bool.not_eq_true, isActive_eq_true]

/-- A request that is set in place of a pending one. -/
theorem closes_of_sets {t t' : Table Request.requestId} {r r' : Request} (hsets : t.Sets t' r') (hget : t.get r'.requestId = some r)
    (hr : r.status = .pending) (hr' : r'.status ≠ .pending) (id : String) : Closes Request.isPending (t.get id) (t'.get id) := by
  rw [hsets id]
  by_cases hid : id = r'.requestId
  · rw [if_pos hid, hid]
    exact .inr ⟨r, r', hget, rfl, isPending_eq_true.mpr hr, isPending_eq_false.mpr hr'⟩
  · rw [if_neg hid]
    exact .refl _

variable {k : WriteKind} {db db' : PermissionDb}

theorem Write.requestMove (h : Write k db db') (id : String) : k.RequestMove (db.requests.get id) (db'.requests.get id) := by
  cases h with
  | create r e fresh pending requests _ _ _ _ _ =>
    rw [requests id]
    by_cases hid : id = r.requestId
    · rw [if_pos hid, hid]
      exact .inr ⟨fresh, r, rfl, isPending_eq_true.mpr pending⟩
    · rw [if_neg hid]
      exact .refl _
  | grant r r' g e found pending granted _ requests _ _ _ _ _ _ _ _ _ _ =>
    exact closes_of_sets requests found pending (by rw [granted]; decide) id
  | settle r r' e found pending settled _ _ requests _ _ _ _ _ => exact closes_of_sets requests found pending settled id
  | endGrant g g' e _ _ _ _ _ _ _ _ requests _ _ _ _ _ =>
    rw [requests]
    exact .refl _
  | call e requests _ _ _ _ =>
    rw [requests]
    exact .refl _

theorem Write.grantMove (h : Write k db db') (id : String) : k.GrantMove (db.grants.get id) (db'.grants.get id) := by
  cases h with
  | create _ _ _ _ _ grants _ _ _ _ =>
    rw [grants]
    exact .refl _
  | grant r r' g e _ _ _ _ _ fresh _ active _ _ grants _ _ _ _ =>
    rw [grants id]
    by_cases hid : id = g.grantId
    · rw [if_pos hid, hid]
      exact .inr ⟨fresh, g, rfl, isActive_eq_true.mpr active⟩
    · rw [if_neg hid]
      exact .refl _
  | settle _ _ _ _ _ _ _ _ _ grants _ _ _ _ =>
    rw [grants]
    exact .refl _
  | endGrant g g' e found active ended _ _ _ _ _ _ grants _ _ _ _ =>
    rw [grants id]
    by_cases hid : id = g'.grantId
    · rw [if_pos hid, hid]
      exact .inr ⟨g, g', found, rfl, isActive_eq_true.mpr active, isActive_eq_false.mpr ended⟩
    · rw [if_neg hid]
      exact .refl _
  | call _ _ grants _ _ _ =>
    rw [grants]
    exact .refl _

theorem Write.events (h : Write k db db') : ∃ e, db'.events.rows = db.events.rows ++ [e] := by
  cases h with
  | create _ e _ _ _ _ events _ _ _ => exact ⟨e, events⟩
  | grant _ _ _ e _ _ _ _ _ _ _ _ _ _ _ events _ _ _ => exact ⟨e, events⟩
  | settle _ _ e _ _ _ _ _ _ _ events _ _ _ => exact ⟨e, events⟩
  | endGrant _ _ e _ _ _ _ _ _ _ _ _ _ events _ _ _ => exact ⟨e, events⟩
  | call e _ _ events _ _ => exact ⟨e, events⟩

/-- The rows that are there stay, each with its identity. -/
structure Kept (db db' : PermissionDb) : Prop where
  requests : ∀ id r, db.requests.get id = some r → ∃ r', db'.requests.get id = some r' ∧ r'.identity = r.identity
  grants : ∀ id g, db.grants.get id = some g → ∃ g', db'.grants.get id = some g' ∧ g'.identity = g.identity ∧
    g'.originatingRequestId = g.originatingRequestId ∧ g'.grantSource = g.grantSource

theorem Kept.refl (db : PermissionDb) : Kept db db :=
  ⟨fun _ r h => ⟨r, h, rfl⟩, fun _ g h => ⟨g, h, rfl, rfl, rfl⟩⟩

theorem Kept.trans {db'' : PermissionDb} (h : Kept db db') (h' : Kept db' db'') : Kept db db'' := by
  constructor
  · intro id r hr
    obtain ⟨r', hr', hsame⟩ := h.requests id r hr
    obtain ⟨r'', hr'', hsame'⟩ := h'.requests id r' hr'
    exact ⟨r'', hr'', hsame'.trans hsame⟩
  · intro id g hg
    obtain ⟨g', hg', hsame, horigin, hsource⟩ := h.grants id g hg
    obtain ⟨g'', hg'', hsame', horigin', hsource'⟩ := h'.grants id g' hg'
    exact ⟨g'', hg'', hsame'.trans hsame, horigin'.trans horigin, hsource'.trans hsource⟩

/-- Setting a row that is new, or in place of one with what it has to keep, keeps every row. -/
theorem kept_of_sets {α β : Type} {key : α → String} {t t' : Table key} {row : α} (what : α → β) (hsets : t.Sets t' row)
    (hrow : ∀ r, t.get (key row) = some r → what row = what r) (id : String) (r : α) (h : t.get id = some r) :
    ∃ r', t'.get id = some r' ∧ what r' = what r := by
  rw [hsets id]
  by_cases hid : id = key row
  · rw [if_pos hid]
    exact ⟨row, rfl, hrow r (hid ▸ h)⟩
  · rw [if_neg hid]
    exact ⟨r, h, rfl⟩

theorem Write.kept (h : Write k db db') : Kept db db' := by
  cases h with
  | create r e fresh pending requests grants _ _ _ _ =>
    refine ⟨kept_of_sets Request.identity requests ?_, ?_⟩
    · intro r' hr'
      rw [fresh] at hr'
      cases hr'
    · rw [grants]
      exact (Kept.refl db).grants
  | grant r r' g e found pending granted same requests fresh unique active origin ofRequest grants _ _ _ _ =>
    refine ⟨kept_of_sets Request.identity requests ?_, ?_⟩
    · intro r₀ hr₀
      rw [found] at hr₀
      cases hr₀
      exact same
    · intro id g₀ hg₀
      obtain ⟨g', hg', hwhat⟩ := kept_of_sets (fun g : Grant => (g.identity, g.originatingRequestId, g.grantSource)) grants
        (fun r hr => by rw [fresh] at hr; cases hr) id g₀ hg₀
      rw [Prod.mk.injEq, Prod.mk.injEq] at hwhat
      exact ⟨g', hg', hwhat⟩
  | settle r r' e found pending settled notGranted same requests grants _ _ _ _ =>
    refine ⟨kept_of_sets Request.identity requests ?_, ?_⟩
    · intro r₀ hr₀
      rw [found] at hr₀
      cases hr₀
      exact same
    · rw [grants]
      exact (Kept.refl db).grants
  | endGrant g g' e found active ended same origin source terms once requests grants _ _ _ _ =>
    refine ⟨?_, ?_⟩
    · rw [requests]
      exact (Kept.refl db).requests
    · intro id g₀ hg₀
      obtain ⟨g₁, hg₁, hwhat⟩ := kept_of_sets (fun g : Grant => (g.identity, g.originatingRequestId, g.grantSource)) grants
        (fun r hr => by rw [found] at hr; cases hr; rw [same, origin, source]) id g₀ hg₀
      rw [Prod.mk.injEq, Prod.mk.injEq] at hwhat
      exact ⟨g₁, hg₁, hwhat⟩
  | call e requests grants _ _ _ =>
    refine ⟨?_, ?_⟩
    · rw [requests]
      exact (Kept.refl db).requests
    · rw [grants]
      exact (Kept.refl db).grants

/-! ## Sequences of writes -/

/-- The writes of one operation. -/
abbrev Writes (k : WriteKind) : PermissionDb → PermissionDb → Prop := Relation.ReflTransGen (Write k)

theorem Writes.requestMove (h : Writes k db db') (id : String) : k.RequestMove (db.requests.get id) (db'.requests.get id) := by
  induction h with
  | refl =>
    cases k with
    | create => exact Opens.refl _
    | grant => exact Closes.refl _
    | close => exact Closes.refl _
  | tail _ hwrite ih =>
    have hlast := hwrite.requestMove id
    cases k with
    | create => exact Opens.trans ih hlast
    | grant => exact Closes.trans ih hlast
    | close => exact Closes.trans ih hlast

theorem Writes.grantMove (h : Writes k db db') (id : String) : k.GrantMove (db.grants.get id) (db'.grants.get id) := by
  induction h with
  | refl =>
    cases k with
    | create => exact Opens.refl _
    | grant => exact Opens.refl _
    | close => exact Closes.refl _
  | tail _ hwrite ih =>
    have hlast := hwrite.grantMove id
    cases k with
    | create => exact Opens.trans ih hlast
    | grant => exact Opens.trans ih hlast
    | close => exact Closes.trans ih hlast

theorem Writes.events (h : Writes k db db') : ∃ added, db'.events.rows = db.events.rows ++ added := by
  induction h with
  | refl => exact ⟨[], (List.append_nil _).symm⟩
  | tail _ hwrite ih =>
    obtain ⟨added, hadded⟩ := ih
    obtain ⟨e, he⟩ := hwrite.events
    exact ⟨added ++ [e], by rw [he, hadded, List.append_assoc]⟩

theorem Writes.kept (h : Writes k db db') : Kept db db' := by
  induction h with
  | refl => exact .refl db
  | tail _ hwrite ih => exact ih.trans hwrite.kept

/-! ## The ledger -/

/-- What the three tables have to do with each other. -/
structure Ledger (db : PermissionDb) : Prop where
  requestHistories : Histories Request.isPending Event.tellsRequest Event.aboutRequest db.requests db.events.rows
  grantHistories : Histories Grant.isActive Event.tellsGrant Event.aboutGrant db.grants db.events.rows
  /-- An event about a request or a grant names it. -/
  named : ∀ e ∈ db.events.rows, (e.eventType.isRequestEvent = true → e.requestId ≠ none) ∧
    (e.eventType.isGrantEvent = true → e.grantId ≠ none)
  /-- A grant answers a request that was granted, and is for what was asked. -/
  origin : ∀ id g, db.grants.get id = some g →
    ∃ r, db.requests.get g.originatingRequestId = some r ∧ r.status = .granted ∧ g.identity = r.identity
  granted : ∀ id r, db.requests.get id = some r → r.status = .granted →
    ∃ grantId g, db.grants.get grantId = some g ∧ g.originatingRequestId = id
  unique : ∀ id id' g g', db.grants.get id = some g → db.grants.get id' = some g' →
    g.originatingRequestId = g'.originatingRequestId → id = id'
  once : ∀ id g, db.grants.get id = some g → g.status = .consumed → g.grantSource = .allowOnce

theorem ledger_empty : Ledger emptyDb where
  requestHistories _ := rfl
  grantHistories _ := rfl
  named _ h := by cases h
  origin _ _ h := by cases h
  granted _ _ h := by cases h
  unique _ _ _ _ h := by cases h
  once _ _ h := by cases h

/-! The event of a write is about the row that is written, and about no other. -/

theorem RequestStatus.isRequestEvent {t : EventType} {status : RequestStatus} (h : t ∈ status.events) : t.isRequestEvent = true := by
  revert h
  cases status <;> cases t <;> decide

theorem RequestStatus.not_isGrantEvent {t : EventType} {status : RequestStatus} (h : t ∈ status.events) : t.isGrantEvent = false := by
  revert h
  cases status <;> cases t <;> decide

/-- The event of a grant that ends is a `grant_*` event. -/
theorem GrantStatus.isGrantEvent {t : EventType} {status : GrantStatus} (h : t ∈ status.events) (hended : status ≠ .active) :
    t.isGrantEvent = true ∧ t.isRequestEvent = false := by
  revert h hended
  cases status <;> cases t <;> decide

theorem aboutRequest_iff {e : Event} {r : Request} (htells : e.tellsRequest r) (hid : e.requestId = some r.requestId) (id : String) :
    e.aboutRequest id = true ↔ id = r.requestId := by
  rw [Event.aboutRequest, RequestStatus.isRequestEvent htells.2.2.2, Bool.true_and, hid, beq_iff_eq, Option.some.injEq]
  exact eq_comm

theorem aboutRequest_of_not {e : Event} (h : e.eventType.isRequestEvent = false) (id : String) : e.aboutRequest id = false := by
  rw [Event.aboutRequest, h, Bool.false_and]

theorem aboutGrant_of_none {e : Event} (h : e.grantId = none) (id : String) : e.aboutGrant id = false := by
  rw [Event.aboutGrant, h]
  exact Bool.and_false _

theorem aboutGrant_iff {e : Event} {g : Grant} (htells : e.tellsGrant g) (hid : e.grantId = some g.grantId) (id : String) :
    e.aboutGrant id = true ↔ id = g.grantId := by
  have htype : (e.eventType.isGrantEvent || e.eventType == .requestGranted) = true := by
    have hmem := htells.2.2.2
    revert hmem
    cases g.status <;> cases e.eventType <;> decide
  rw [Event.aboutGrant, htype, Bool.true_and, hid, beq_iff_eq, Option.some.injEq]
  exact eq_comm

theorem named_append {rows : List Event} {e : Event}
    (h : ∀ e ∈ rows, (e.eventType.isRequestEvent = true → e.requestId ≠ none) ∧ (e.eventType.isGrantEvent = true → e.grantId ≠ none))
    (he : (e.eventType.isRequestEvent = true → e.requestId ≠ none) ∧ (e.eventType.isGrantEvent = true → e.grantId ≠ none)) :
    ∀ e' ∈ rows ++ [e], (e'.eventType.isRequestEvent = true → e'.requestId ≠ none) ∧
      (e'.eventType.isGrantEvent = true → e'.grantId ≠ none) := by
  intro e' he'
  rcases List.mem_append.mp he' with he' | he'
  · exact h e' he'
  · rw [List.mem_singleton.mp he']
    exact he

/-! One kind of write after the other keeps the ledger. -/

theorem Ledger.create (h : Ledger db) {r : Request} {e : Event} (fresh : db.requests.get r.requestId = none)
    (pending : r.status = .pending) (requests : db.requests.Sets db'.requests r) (grants : db'.grants = db.grants)
    (events : db'.events.rows = db.events.rows ++ [e]) (tells : e.tellsRequest r) (request : e.requestId = some r.requestId)
    (grant : e.grantId = none) : Ledger db' where
  requestHistories := by
    rw [events]
    exact h.requestHistories.write requests (aboutRequest_iff tells request) tells (.inl ⟨fresh, isPending_eq_true.mpr pending⟩)
  grantHistories := by
    rw [events, grants]
    exact h.grantHistories.skip (aboutGrant_of_none grant)
  named := by
    rw [events]
    refine named_append h.named ⟨fun _ => by rw [request]; exact Option.some_ne_none _, ?_⟩
    intro hgrant
    rw [RequestStatus.not_isGrantEvent tells.2.2.2] at hgrant
    cases hgrant
  origin := by
    rw [grants]
    intro id g hg
    obtain ⟨r₀, hr₀, hstatus, hsame⟩ := h.origin id g hg
    refine ⟨r₀, ?_, hstatus, hsame⟩
    rw [requests, if_neg, hr₀]
    intro heq
    rw [heq, fresh] at hr₀
    cases hr₀
  granted := by
    intro id r₀ hr₀ hstatus
    rw [grants]
    rw [requests] at hr₀
    split at hr₀
    · cases hr₀
      rw [pending] at hstatus
      cases hstatus
    · exact h.granted id r₀ hr₀ hstatus
  unique := by
    rw [grants]
    exact h.unique
  once := by
    rw [grants]
    exact h.once

theorem Ledger.settle (h : Ledger db) {r r' : Request} {e : Event} (found : db.requests.get r'.requestId = some r)
    (pending : r.status = .pending) (settled : r'.status ≠ .pending) (notGranted : r'.status ≠ .granted)
    (requests : db.requests.Sets db'.requests r') (grants : db'.grants = db.grants) (events : db'.events.rows = db.events.rows ++ [e])
    (tells : e.tellsRequest r') (request : e.requestId = some r'.requestId) (grant : e.grantId = none) : Ledger db' where
  requestHistories := by
    rw [events]
    exact h.requestHistories.write requests (aboutRequest_iff tells request) tells
      (.inr ⟨r, found, isPending_eq_true.mpr pending, isPending_eq_false.mpr settled⟩)
  grantHistories := by
    rw [events, grants]
    exact h.grantHistories.skip (aboutGrant_of_none grant)
  named := by
    rw [events]
    refine named_append h.named ⟨fun _ => by rw [request]; exact Option.some_ne_none _, ?_⟩
    intro hgrant
    rw [RequestStatus.not_isGrantEvent tells.2.2.2] at hgrant
    cases hgrant
  origin := by
    rw [grants]
    intro id g hg
    obtain ⟨r₀, hr₀, hstatus, hsame⟩ := h.origin id g hg
    refine ⟨r₀, ?_, hstatus, hsame⟩
    rw [requests, if_neg, hr₀]
    intro heq
    rw [heq, found] at hr₀
    cases hr₀
    rw [pending] at hstatus
    cases hstatus
  granted := by
    intro id r₀ hr₀ hstatus
    rw [grants]
    rw [requests] at hr₀
    split at hr₀
    · cases hr₀
      exact absurd hstatus notGranted
    · exact h.granted id r₀ hr₀ hstatus
  unique := by
    rw [grants]
    exact h.unique
  once := by
    rw [grants]
    exact h.once

theorem Ledger.grant (h : Ledger db) {r r' : Request} {g : Grant} {e : Event} (found : db.requests.get r'.requestId = some r)
    (pending : r.status = .pending) (granted : r'.status = .granted) (requests : db.requests.Sets db'.requests r')
    (fresh : db.grants.get g.grantId = none) (unique : ∀ other ∈ db.grants.rows, other.originatingRequestId ≠ r'.requestId)
    (active : g.status = .active) (origin : g.originatingRequestId = r'.requestId) (ofRequest : g.identity = r'.identity)
    (grants : db.grants.Sets db'.grants g) (events : db'.events.rows = db.events.rows ++ [e]) (tells : e.tellsRequest r')
    (request : e.requestId = some r'.requestId) (grant : e.grantId = some g.grantId) : Ledger db' where
  requestHistories := by
    rw [events]
    exact h.requestHistories.write requests (aboutRequest_iff tells request) tells
      (.inr ⟨r, found, isPending_eq_true.mpr pending, isPending_eq_false.mpr (by rw [granted]; decide)⟩)
  grantHistories := by
    -- The event of the request tells of the grant that it creates, too.
    have hgrant : e.tellsGrant g := by
      obtain ⟨hroot, hplugin, hdigest, htype⟩ := tells
      rw [granted] at htype
      refine ⟨hroot.trans ?_, hplugin.trans ?_, hdigest.trans ?_, by rw [active]; exact htype⟩
      · exact (congrArg Identity.projectRoot ofRequest).symm
      · exact (congrArg Identity.pluginId ofRequest).symm
      · exact (congrArg Identity.packageDigest ofRequest).symm
    rw [events]
    exact h.grantHistories.write grants (aboutGrant_iff hgrant grant) hgrant (.inl ⟨fresh, isActive_eq_true.mpr active⟩)
  named := by
    rw [events]
    exact named_append h.named ⟨fun _ => by rw [request]; exact Option.some_ne_none _,
      fun _ => by rw [grant]; exact Option.some_ne_none _⟩
  origin := by
    intro id g₀ hg₀
    rw [grants] at hg₀
    split at hg₀
    · cases hg₀
      refine ⟨r', ?_, granted, ofRequest⟩
      rw [origin, requests, if_pos rfl]
    · obtain ⟨r₀, hr₀, hstatus, hsame⟩ := h.origin id g₀ hg₀
      refine ⟨r₀, ?_, hstatus, hsame⟩
      rw [requests, if_neg (unique g₀ (mem_of_get hg₀)), hr₀]
  granted := by
    intro id r₀ hr₀ hstatus
    rw [requests] at hr₀
    split at hr₀
    · next hid =>
      exact ⟨g.grantId, g, by rw [grants, if_pos rfl], by rw [origin, hid]⟩
    · obtain ⟨grantId, g₀, hg₀, horigin⟩ := h.granted id r₀ hr₀ hstatus
      refine ⟨grantId, g₀, ?_, horigin⟩
      rw [grants, if_neg, hg₀]
      intro heq
      rw [heq, fresh] at hg₀
      cases hg₀
  unique := by
    intro id id' g₁ g₂ h₁ h₂ heq
    rw [grants] at h₁ h₂
    split at h₁
    · next hid =>
      cases h₁
      split at h₂
      · next hid' => rw [hid, hid']
      · exact absurd (heq.symm.trans origin) (unique g₂ (mem_of_get h₂))
    · split at h₂
      · cases h₂
        exact absurd (heq.trans origin) (unique g₁ (mem_of_get h₁))
      · exact h.unique id id' g₁ g₂ h₁ h₂ heq
  once := by
    intro id g₀ hg₀ hconsumed
    rw [grants] at hg₀
    split at hg₀
    · cases hg₀
      rw [active] at hconsumed
      cases hconsumed
    · exact h.once id g₀ hg₀ hconsumed

/-- A grant that is set in place of one of the same request leaves every grant with its request. -/
theorem origin_iff_of_sets {t t' : Table Grant.grantId} {g g' : Grant} (found : t.get g'.grantId = some g) (grants : t.Sets t' g')
    (origin : g'.originatingRequestId = g.originatingRequestId) (id requestId : String) :
    (∃ g, t'.get id = some g ∧ g.originatingRequestId = requestId) ↔ ∃ g, t.get id = some g ∧ g.originatingRequestId = requestId := by
  rw [grants id]
  by_cases hid : id = g'.grantId
  · rw [if_pos hid, hid, found]
    constructor
    · rintro ⟨g₀, hg₀, horigin⟩
      cases hg₀
      exact ⟨g, rfl, origin.symm.trans horigin⟩
    · rintro ⟨g₀, hg₀, horigin⟩
      cases hg₀
      exact ⟨g', rfl, origin.trans horigin⟩
  · rw [if_neg hid]

theorem Ledger.endGrant (h : Ledger db) {g g' : Grant} {e : Event} (found : db.grants.get g'.grantId = some g)
    (active : g.status = .active) (ended : g'.status ≠ .active) (same : g'.identity = g.identity)
    (origin : g'.originatingRequestId = g.originatingRequestId) (source : g'.grantSource = g.grantSource)
    (once : g'.status = .consumed → g.grantSource = .allowOnce) (requests : db'.requests = db.requests)
    (grants : db.grants.Sets db'.grants g') (events : db'.events.rows = db.events.rows ++ [e]) (tells : e.tellsGrant g')
    (grant : e.grantId = some g'.grantId) : Ledger db' where
  requestHistories := by
    rw [events, requests]
    exact h.requestHistories.skip (aboutRequest_of_not (GrantStatus.isGrantEvent tells.2.2.2 ended).2)
  grantHistories := by
    rw [events]
    exact h.grantHistories.write grants (aboutGrant_iff tells grant) tells
      (.inr ⟨g, found, isActive_eq_true.mpr active, isActive_eq_false.mpr ended⟩)
  named := by
    rw [events]
    refine named_append h.named ⟨?_, fun _ => by rw [grant]; exact Option.some_ne_none _⟩
    intro hrequest
    rw [(GrantStatus.isGrantEvent tells.2.2.2 ended).2] at hrequest
    cases hrequest
  origin := by
    intro id g₀ hg₀
    rw [requests]
    rw [grants] at hg₀
    split at hg₀
    · cases hg₀
      rw [origin, same]
      exact h.origin _ g found
    · exact h.origin id g₀ hg₀
  granted := by
    intro id r hr hstatus
    rw [requests] at hr
    obtain ⟨grantId, hfound⟩ := h.granted id r hr hstatus
    exact ⟨grantId, (origin_iff_of_sets found grants origin grantId id).mpr hfound⟩
  unique := by
    intro id id' g₁ g₂ h₁ h₂ heq
    obtain ⟨g₁', h₁', horigin₁⟩ := (origin_iff_of_sets found grants origin id _).mp ⟨g₁, h₁, rfl⟩
    obtain ⟨g₂', h₂', horigin₂⟩ := (origin_iff_of_sets found grants origin id' _).mp ⟨g₂, h₂, rfl⟩
    exact h.unique id id' g₁' g₂' h₁' h₂' (horigin₁.trans (heq.trans horigin₂.symm))
  once := by
    intro id g₀ hg₀ hconsumed
    rw [grants] at hg₀
    split at hg₀
    · cases hg₀
      rw [source]
      exact once hconsumed
    · exact h.once id g₀ hg₀ hconsumed

theorem Ledger.call (h : Ledger db) {e : Event} (requests : db'.requests = db.requests) (grants : db'.grants = db.grants)
    (events : db'.events.rows = db.events.rows ++ [e]) (noRequest : e.eventType.isRequestEvent = false)
    (noGrant : e.eventType.isGrantEvent = false) : Ledger db' where
  requestHistories := by
    rw [events, requests]
    exact h.requestHistories.skip (aboutRequest_of_not noRequest)
  grantHistories := by
    rw [events, grants]
    refine h.grantHistories.skip ?_
    intro id
    have htype : (e.eventType == .requestGranted) = false := by
      revert noRequest
      cases e.eventType <;> decide
    rw [Event.aboutGrant, noGrant, htype]
    rfl
  named := by
    rw [events]
    refine named_append h.named ⟨?_, ?_⟩
    · intro hrequest
      rw [noRequest] at hrequest
      cases hrequest
    · intro hgrant
      rw [noGrant] at hgrant
      cases hgrant
  origin := by
    rw [requests, grants]
    exact h.origin
  granted := by
    rw [requests, grants]
    exact h.granted
  unique := by
    rw [grants]
    exact h.unique
  once := by
    rw [grants]
    exact h.once

theorem Write.ledger (h : Write k db db') (hledger : Ledger db) : Ledger db' := by
  cases h with
  | create r e fresh pending requests grants events tells request grant =>
    exact hledger.create fresh pending requests grants events tells request grant
  | grant r r' g e found pending granted _ requests fresh unique active origin ofRequest grants events tells request grant =>
    exact hledger.grant found pending granted requests fresh unique active origin ofRequest grants events tells request grant
  | settle r r' e found pending settled notGranted _ requests grants events tells request grant =>
    exact hledger.settle found pending settled notGranted requests grants events tells request grant
  | endGrant g g' e found active ended same origin source _ once requests grants events tells _ grant =>
    exact hledger.endGrant found active ended same origin source once requests grants events tells grant
  | call e requests grants events noRequest noGrant => exact hledger.call requests grants events noRequest noGrant

theorem Writes.ledger (h : Writes k db db') (hledger : Ledger db) : Ledger db' := by
  induction h with
  | refl => exact hledger
  | tail _ hwrite ih => exact hwrite.ledger ih

/-! ## The operations write -/

variable {crates : Crates} {now : Int} {uuid : Nat → String}

theorem insertEvent_eq {e : EventDraft} (h : db.insertEvent uuid e = .ok db') :
    ∃ eventId, db'.requests = db.requests ∧ db'.grants = db.grants ∧
      db'.events.rows = db.events.rows ++ [{ e with eventId := eventId }] := by
  unfold insertEvent at h
  split at h
  · cases h
  · split at h
    · cases h
    · split at h
      · cases h
      · next events hinsert =>
        cases h
        exact ⟨_, rfl, rfl, rows_insert hinsert⟩

/-- A guarded statement on grants ends an active grant, with the event of that grant. -/
theorem write_endGrant {p : Grant → Bool} {f : Grant → Grant} {hf : ∀ g, (f g).grantId = g.grantId} {e : EventDraft} {id : String}
    (h : db.endGrant uuid p f hf e = .ok (some db')) (hp : ∀ g, p g = true → g.grantId = id ∧ g.status = .active)
    (same : ∀ g, (f g).identity = g.identity ∧ (f g).originatingRequestId = g.originatingRequestId ∧
      (f g).grantSource = g.grantSource ∧ (f g).policyRevision = g.policyRevision ∧ (f g).expiresAt = g.expiresAt)
    (hstatus : ∀ g, (f g).status ≠ .active ∧ e.eventType ∈ (f g).status.events)
    (once : ∀ g, db.grants.get id = some g → p g = true → (f g).status = .consumed → g.grantSource = .allowOnce)
    (of : ∀ g, db.grants.get id = some g → e.projectRoot = g.projectRoot ∧ e.pluginId = g.pluginId ∧ e.packageDigest = g.packageDigest)
    (request : e.requestId = none) (grant : e.grantId = some id) : Write .close db db' := by
  unfold endGrant at h
  split at h
  · cases h
  · next hchanged =>
    obtain ⟨g, hget, hg⟩ := (changed_eq_one_iff db.grants p id (fun g hg => (hp g hg).1)).mp (not_not.mp hchanged)
    obtain ⟨written, hwritten, hsome⟩ := map_eq_ok h
    cases hsome
    obtain ⟨eventId, hrequests, hgrants, hevents⟩ := insertEvent_eq hwritten
    have hid : (f g).grantId = id := (hf g).trans (key_of_get hget)
    obtain ⟨hroot, hplugin, hdigest⟩ := of g hget
    obtain ⟨hsame, horigin, hsource, hterms⟩ := same g
    refine .endGrant g (f g) _ (hid ▸ hget) (hp g hg).2 (hstatus g).1 hsame horigin hsource hterms (once g hget hg) hrequests ?_ hevents ?_
      request (by rw [hid]; exact grant)
    · rw [hgrants]
      exact sets_update hf (fun g hg => (hp g hg).1) hget hg
    · exact ⟨hroot.trans (congrArg Identity.projectRoot hsame).symm, hplugin.trans (congrArg Identity.pluginId hsame).symm,
        hdigest.trans (congrArg Identity.packageDigest hsame).symm, (hstatus g).2⟩

/-- A cancellation settles a pending request, with the event of that request. -/
theorem write_cancelWith {root reasonCode : String} {r : Request} {t : EventType} (ht : t ∈ RequestStatus.cancelled.events)
    (h : db.cancelWith crates now uuid root r t reasonCode = .ok (some db'))
    (of : ∀ r₀, db.requests.get r.requestId = some r₀ → r.pluginId = r₀.pluginId ∧ r.packageDigest = r₀.packageDigest) :
    Write .close db db' := by
  have hp : ∀ r₀, pendingRequest root r.requestId r₀ = true →
      r₀.requestId = r.requestId ∧ r₀.status = .pending ∧ r₀.projectRoot = root := by
    intro r₀ hr₀
    simp only [pendingRequest, Bool.and_eq_true, beq_iff_eq] at hr₀
    exact ⟨hr₀.1.2, hr₀.2, hr₀.1.1⟩
  unfold cancelWith settleRequest at h
  split at h
  · cases h
  · next hchanged =>
    obtain ⟨r₀, hget, hr₀⟩ :=
      (changed_eq_one_iff db.requests _ r.requestId (fun r hr => (hp r hr).1)).mp (not_not.mp hchanged)
    obtain ⟨written, hwritten, hsome⟩ := map_eq_ok h
    cases hsome
    obtain ⟨eventId, hrequests, hgrants, hevents⟩ := insertEvent_eq hwritten
    obtain ⟨hid, hpending, hroot⟩ := hp r₀ hr₀
    obtain ⟨hplugin, hdigest⟩ := of r₀ hget
    refine .settle r₀ (r₀.cancelledFor reasonCode (crates.toRfc3339 now)) _ ?_ hpending ?_ ?_ rfl ?_ hgrants hevents ?_ ?_ rfl
    · exact hid.symm ▸ hget
    · exact nofun
    · exact nofun
    · rw [hrequests]
      exact sets_update (f := Request.cancelledFor reasonCode (crates.toRfc3339 now)) (fun _ => rfl)
        (fun r hr => (hp r hr).1) hget hr₀
    · exact ⟨hroot.symm, hplugin, hdigest, ht⟩
    · exact congrArg some hid.symm

/-- A loop of guarded statements is a sequence of writes. -/
theorem writes_sweep {α : Type} {write : PermissionDb → α → Except String (Option PermissionDb)} {rows : List α} {n : Nat}
    (hwrite : ∀ s s', ∀ row ∈ rows, Writes k db s → write s row = .ok (some s') → Write k s s')
    (h : db.sweep write rows = .ok (n, db')) : Writes k db db' := by
  unfold sweep at h
  -- What is done of the rows has led to the state by writes, and the next row is one of them.
  refine (foldlM_invariant (fun done (s : Nat × PermissionDb) => (∃ rest, rows = done ++ rest) → Writes k db s.2) ?_ rows [] _ _
    (fun _ => .refl) h) ⟨[], by rw [List.nil_append, List.append_nil]⟩
  rintro done row s s₁ hs hrun ⟨rest, hrows⟩
  rw [List.append_assoc] at hrows
  have hs := hs ⟨_, hrows⟩
  obtain ⟨o, ho, hs₁⟩ := bind_eq_ok hrun
  cases o with
  | none =>
    cases hs₁
    exact hs
  | some written =>
    cases hs₁
    exact hs.tail (hwrite s.2 written row (by rw [hrows]; simp) hs ho)

theorem get_of_getRequest {root id : String} {r : Request} (h : db.getRequest root id = some r) :
    db.requests.get id = some r ∧ r.projectRoot = root := by
  obtain ⟨hget, hroot⟩ := Option.filter_eq_some_iff.mp h
  exact ⟨hget, of_decide_eq_true hroot⟩

theorem get_of_getGrant {root id : String} {g : Grant} (h : db.getGrant root id = some g) :
    db.grants.get id = some g ∧ g.projectRoot = root := by
  obtain ⟨hget, hroot⟩ := Option.filter_eq_some_iff.mp h
  exact ⟨hget, of_decide_eq_true hroot⟩

/-- What the guard of a statement on one active grant says. -/
theorem of_activeGrant {root id : String} {g : Grant} (h : activeGrant root id g = true) :
    g.projectRoot = root ∧ g.grantId = id ∧ g.status = .active := by
  simp only [activeGrant, Bool.and_eq_true, beq_iff_eq] at h
  exact ⟨h.1.1, h.1.2, h.2⟩

theorem of_activeOnceGrant {root id : String} {g : Grant} (h : activeOnceGrant root id g = true) :
    (g.projectRoot = root ∧ g.grantId = id ∧ g.status = .active) ∧ g.grantSource = .allowOnce := by
  simp only [activeOnceGrant, Bool.and_eq_true, beq_iff_eq] at h
  exact ⟨of_activeGrant h.1, h.2⟩

/-- The row that is under an id after some writes is of the project, the plugin and the digest of the row before them. -/
theorem Writes.grant_of {s : PermissionDb} (h : Writes k db s) {g : Grant} (hg : g ∈ db.grants.rows) :
    ∀ g', s.grants.get g.grantId = some g' →
      g.projectRoot = g'.projectRoot ∧ g.pluginId = g'.pluginId ∧ g.packageDigest = g'.packageDigest := by
  intro g' hg'
  obtain ⟨g₀, hg₀, hsame, -⟩ := h.kept.grants _ g (get_of_mem hg)
  rw [hg'] at hg₀
  cases hg₀
  exact ⟨(congrArg Identity.projectRoot hsame).symm, (congrArg Identity.pluginId hsame).symm,
    (congrArg Identity.packageDigest hsame).symm⟩

theorem Writes.request_of {s : PermissionDb} (h : Writes k db s) {r : Request} (hr : r ∈ db.requests.rows) :
    ∀ r', s.requests.get r.requestId = some r' → r.pluginId = r'.pluginId ∧ r.packageDigest = r'.packageDigest := by
  intro r' hr'
  obtain ⟨r₀, hr₀, hsame⟩ := h.kept.requests _ r (get_of_mem hr)
  rw [hr'] at hr₀
  cases hr₀
  exact ⟨(congrArg Identity.pluginId hsame).symm, (congrArg Identity.packageDigest hsame).symm⟩

theorem writes_recoverPending {root reasonCode : String} {n : Nat}
    (h : db.recoverPending crates now uuid root reasonCode = .ok (n, db')) : Writes .close db db' := by
  unfold recoverPending at h
  obtain ⟨root, -, h⟩ := bind_eq_ok h
  obtain ⟨reasonCode, -, h⟩ := bind_eq_ok h
  refine writes_sweep ?_ h
  intro s s' r hr hs hwrite
  have hrow : r ∈ db.requests.rows := List.mem_of_mem_filter ((List.mem_insertionSort _).mp hr)
  exact write_cancelWith (by decide) hwrite (hs.request_of hrow)

theorem writes_recoverTransient {root reasonCode : String} {n : Nat}
    (h : db.recoverTransient crates now uuid root reasonCode = .ok (n, db')) : Writes .close db db' := by
  unfold recoverTransient at h
  obtain ⟨root, -, h⟩ := bind_eq_ok h
  obtain ⟨reasonCode, -, h⟩ := bind_eq_ok h
  refine writes_sweep ?_ h
  intro s s' g hg hs hwrite
  obtain ⟨hrow, hselected⟩ := List.mem_filter.mp ((List.mem_insertionSort _).mp (List.mem_of_mem_take hg))
  simp only [Bool.and_eq_true, beq_iff_eq] at hselected
  refine write_endGrant hwrite (fun g hg => (of_activeOnceGrant hg).1.2) (fun _ => ⟨rfl, rfl, rfl, rfl, rfl⟩)
    (fun _ => ⟨nofun, List.mem_singleton_self _⟩) (fun _ _ _ => nofun) ?_ rfl rfl
  intro g' hg'
  obtain ⟨hroot, hplugin, hdigest⟩ := hs.grant_of hrow g' hg'
  exact ⟨hselected.1.1.symm.trans hroot, hplugin, hdigest⟩

theorem writes_expireGrants {root : String} {n : Nat} (h : db.expireGrants crates now uuid root = .ok (n, db')) :
    Writes .close db db' := by
  unfold expireGrants at h
  obtain ⟨root, -, h⟩ := bind_eq_ok h
  refine writes_sweep ?_ h
  intro s s' g hg hs hwrite
  obtain ⟨hrow, hselected⟩ := List.mem_filter.mp ((List.mem_insertionSort _).mp (List.mem_of_mem_take hg))
  simp only [Bool.and_eq_true, beq_iff_eq] at hselected
  unfold expireGrant at hwrite
  split at hwrite
  · cases hwrite
  · split at hwrite
    · cases hwrite
    · refine write_endGrant hwrite (fun g hg => (of_activeGrant hg).2) (fun _ => ⟨rfl, rfl, rfl, rfl, rfl⟩)
        (fun _ => ⟨nofun, List.mem_singleton_self _⟩) (fun _ _ _ => nofun) ?_ rfl rfl
      intro g' hg'
      obtain ⟨hroot, hplugin, hdigest⟩ := hs.grant_of hrow g' hg'
      exact ⟨hselected.1.symm.trans hroot, hplugin, hdigest⟩

/-- An operation with an outcome writes rows of one kind, and none unless it is applied. -/
structure Settles (k : WriteKind) (db : PermissionDb) (r : Outcome × PermissionDb) : Prop where
  writes : Writes k db r.2
  unapplied : r.1 ≠ .applied → r.2 = db

theorem settles_unapplied (k : WriteKind) (db : PermissionDb) (o : Outcome) : Settles k db (o, db) := ⟨.refl, fun _ => rfl⟩

theorem settles_outcomeOf {o : Option PermissionDb} (h : ∀ written, o = some written → Write k db written) :
    Settles k db (db.outcomeOf o) := by
  cases o with
  | none => exact settles_unapplied k db .stale
  | some written => exact ⟨.single (h written rfl), fun hne => absurd rfl hne⟩

theorem settles_cancelRequest {root id reasonCode : String} {revision : Int} {r : Outcome × PermissionDb}
    (h : db.cancelRequest crates now uuid root id revision reasonCode = .ok r) : Settles .close db r := by
  unfold cancelRequest at h
  obtain ⟨root, -, h⟩ := bind_eq_ok h
  obtain ⟨-, -, h⟩ := bind_eq_ok h
  split at h
  · cases h
  · obtain ⟨reasonCode, -, h⟩ := bind_eq_ok h
    split at h
    · cases h
      exact settles_unapplied _ _ _
    · next current hcurrent =>
      split at h
      · cases h
        exact settles_unapplied _ _ _
      · split at h
        · cases h
          exact settles_unapplied _ _ _
        · obtain ⟨o, ho, h⟩ := bind_eq_ok h
          cases h
          refine settles_outcomeOf ?_
          rintro written rfl
          refine write_cancelWith (by decide) ho ?_
          intro r₀ hr₀
          obtain ⟨hget, -⟩ := get_of_getRequest hcurrent
          rw [← key_of_get hget, hr₀] at hget
          cases hget
          exact ⟨rfl, rfl⟩

theorem settles_consumeGrant {root id : String} {r : Outcome × PermissionDb} (h : db.consumeGrant crates now uuid root id = .ok r) :
    Settles .close db r := by
  unfold consumeGrant at h
  obtain ⟨root, -, h⟩ := bind_eq_ok h
  obtain ⟨-, -, h⟩ := bind_eq_ok h
  split at h
  · cases h
    exact settles_unapplied _ _ _
  · next current hcurrent =>
    obtain ⟨hget, hroot⟩ := get_of_getGrant hcurrent
    split at h
    · cases h
      exact settles_unapplied _ _ _
    · next hguard =>
      obtain ⟨o, ho, h⟩ := bind_eq_ok h
      cases h
      refine settles_outcomeOf ?_
      rintro written rfl
      refine write_endGrant ho (fun g hg => (of_activeGrant hg).2) (fun _ => ⟨rfl, rfl, rfl, rfl, rfl⟩)
        (fun _ => ⟨nofun, List.mem_singleton_self _⟩) ?_ ?_ rfl rfl
      -- The statement does not repeat that the grant is for one use; the row was read in the same transaction.
      · intro g hg _ _
        rw [hget] at hg
        cases hg
        exact not_not.mp (fun hsource => hguard (.inr hsource))
      · intro g hg
        rw [hget] at hg
        cases hg
        exact ⟨hroot.symm, rfl, rfl⟩

theorem settles_revokeGrant {root id reasonCode : String} {r : Outcome × PermissionDb}
    (h : db.revokeGrant crates now uuid root id reasonCode = .ok r) : Settles .close db r := by
  unfold revokeGrant at h
  obtain ⟨root, -, h⟩ := bind_eq_ok h
  obtain ⟨-, -, h⟩ := bind_eq_ok h
  obtain ⟨reasonCode, -, h⟩ := bind_eq_ok h
  split at h
  · cases h
    exact settles_unapplied _ _ _
  · next current hcurrent =>
    obtain ⟨hget, hroot⟩ := get_of_getGrant hcurrent
    split at h
    · cases h
      exact settles_unapplied _ _ _
    · obtain ⟨o, ho, h⟩ := bind_eq_ok h
      cases h
      refine settles_outcomeOf ?_
      rintro written rfl
      refine write_endGrant ho (fun g hg => (of_activeGrant hg).2) (fun _ => ⟨rfl, rfl, rfl, rfl, rfl⟩)
        (fun _ => ⟨nofun, List.mem_singleton_self _⟩) (fun _ _ _ => nofun) ?_ rfl rfl
      intro g hg
      rw [hget] at hg
      cases hg
      exact ⟨hroot.symm, rfl, rfl⟩

/-- A call event is about no request and no grant. -/
theorem callEvent_of_validate {value : String} {t : EventType} (h : validateCallEventType value = .ok t) :
    t.isRequestEvent = false ∧ t.isGrantEvent = false := by
  unfold validateCallEventType at h
  split at h <;> cases h <;> decide

/-- The grant that a call event names is active, and of the plugin and the digest that the event names. -/
theorem of_callGrantSource {root pluginId packageDigest id : String} {source : Option GrantSource}
    (h : db.callGrantSource root pluginId packageDigest (some id) = .ok source) :
    ∀ g, db.grants.get id = some g → root = g.projectRoot ∧ pluginId = g.pluginId ∧ packageDigest = g.packageDigest := by
  intro g hg
  simp only [callGrantSource] at h
  split at h
  · cases h
  · next g₀ hg₀ =>
    obtain ⟨hfound, hidentity⟩ := Option.filter_eq_some_iff.mp hg₀
    obtain ⟨hget, hroot⟩ := get_of_getGrant hfound
    rw [hg] at hget
    cases hget
    obtain ⟨hplugin, hdigest, -⟩ := of_decide_eq_true hidentity
    exact ⟨hroot.symm, hplugin.symm, hdigest.symm⟩

theorem writes_recordCallEvent {d : CallEventDraft} {consumeAllowOnce : Bool} {eventId : String}
    (h : db.recordCallEvent crates now uuid d consumeAllowOnce = .ok (eventId, db')) : Writes .close db db' := by
  unfold recordCallEvent at h
  obtain ⟨root, -, h⟩ := bind_eq_ok h
  obtain ⟨pluginId, -, h⟩ := bind_eq_ok h
  obtain ⟨packageDigest, -, h⟩ := bind_eq_ok h
  obtain ⟨eventType, htype, h⟩ := bind_eq_ok h
  obtain ⟨status, -, h⟩ := bind_eq_ok h
  obtain ⟨reasonCode, -, h⟩ := bind_eq_ok h
  obtain ⟨detailsJson, -, h⟩ := bind_eq_ok h
  split at h
  · cases h
  · obtain ⟨grantId, -, h⟩ := bind_eq_ok h
    obtain ⟨grantSource, hsource, h⟩ := bind_eq_ok h
    obtain ⟨recorded, hrecorded, h⟩ := bind_eq_ok h
    obtain ⟨callId, hrequests, hgrants, hevents⟩ := insertEvent_eq hrecorded
    obtain ⟨hnoRequest, hnoGrant⟩ := callEvent_of_validate htype
    have hcall : Write .close db recorded := .call _ hrequests hgrants hevents hnoRequest hnoGrant
    split at h
    · obtain ⟨written, hwritten, h⟩ := bind_eq_ok h
      cases h
      cases grantId with
      | none => cases hwritten
      | some grantId =>
        simp only [consumeAfterCall] at hwritten
        obtain ⟨o, ho, hwritten⟩ := bind_eq_ok hwritten
        cases o with
        | none => cases hwritten
        | some written =>
          cases hwritten
          refine (Relation.ReflTransGen.single hcall).tail (write_endGrant ho (fun g hg => (of_activeOnceGrant hg).1.2)
            (fun _ => ⟨rfl, rfl, rfl, rfl, rfl⟩) (fun _ => ⟨nofun, List.mem_singleton_self _⟩) (fun g _ hg _ => (of_activeOnceGrant hg).2)
            ?_ rfl rfl)
          rw [hgrants]
          exact of_callGrantSource hsource
    · cases h
      exact .single hcall

/-- A decision creates a grant unless it denies. -/
theorem fields_of_validate {d : DecisionDraft} {fields : Option GrantFields} (h : validateDecisionFields crates d now = .ok fields) :
    fields = none ↔ d.decision = .deny := by
  have hdeny : d.decision.grantSource = none ↔ d.decision = .deny := by
    cases d.decision <;> decide
  rw [← hdeny]
  unfold validateDecisionFields at h
  split at h
  · next hsource =>
    split at h
    · cases h
    · cases h
      exact iff_of_true rfl hsource
  · next source hsource =>
    refine iff_of_false ?_ (by rw [hsource]; exact Option.some_ne_none _)
    split at h
    · cases h
    · obtain ⟨-, -, h⟩ := bind_eq_ok h
      split at h
      · cases h
      · split at h
        · cases h
        · split at h
          · cases h
          · split at h
            · cases h
            · cases h
              exact Option.some_ne_none _

/-- The checks of a grant's row before it is written. -/
theorem insertGrant_eq {g : Grant} (h : db.insertGrant g = .ok db') :
    db'.requests = db.requests ∧ db'.events = db.events ∧ db.grants.get g.grantId = none ∧ db.grants.Sets db'.grants g ∧
      ∀ other ∈ db.grants.rows, other.originatingRequestId ≠ g.originatingRequestId := by
  unfold insertGrant at h
  split at h
  · cases h
  · next hunique =>
    split at h
    · cases h
    · split at h
      · cases h
      · split at h
        · cases h
        · next grants hinsert =>
          cases h
          refine ⟨rfl, rfl, get_of_insert hinsert, sets_insert hinsert, ?_⟩
          intro other hother heq
          refine hunique (List.any_eq_true.mpr ⟨other, hother, ?_⟩)
          rw [beq_iff_eq]
          exact heq

theorem of_decidable {root : String} {d : DecisionDraft} {r : Request} (h : decidable root d r = true) :
    r.requestId = d.requestId ∧ r.status = .pending := by
  simp only [decidable, Bool.and_eq_true, beq_iff_eq] at h
  exact ⟨h.1.1.2, h.1.2⟩

theorem settles_writeDecision {root : String} {current : Request} {d : DecisionDraft} {reasonCode : Option String}
    {fields : Option GrantFields} {r : Outcome × PermissionDb} (hcurrent : db.requests.get d.requestId = some current)
    (hfields : fields = none ↔ d.decision = .deny)
    (h : db.writeDecision crates now uuid root current d reasonCode fields = .ok r) : ∃ k, Settles k db r := by
  unfold writeDecision at h
  split at h
  · cases h
    exact ⟨.close, settles_unapplied _ _ _⟩
  · next hchanged =>
    obtain ⟨r₀, hr₀, hselected⟩ :=
      (changed_eq_one_iff db.requests _ d.requestId (fun r hr => (of_decidable hr).1)).mp (not_not.mp hchanged)
    rw [hcurrent] at hr₀
    cases hr₀
    have hid : current.requestId = d.requestId := key_of_get hcurrent
    have hpending : current.status = .pending := (of_decidable hselected).2
    have hsets := sets_update (f := Request.resolved d reasonCode (crates.toRfc3339 now)) (fun _ => rfl)
      (fun r (hr : decidable root d r = true) => (of_decidable hr).1) hcurrent hselected
    obtain ⟨granted, hgranted, h⟩ := bind_eq_ok h
    obtain ⟨written, hwritten, h⟩ := bind_eq_ok h
    obtain ⟨eventId, hrequests, hgrants, hevents⟩ := insertEvent_eq hwritten
    cases h
    cases fields with
    | none =>
      have hdeny : d.decision = .deny := hfields.mp rfl
      cases hgranted
      refine ⟨.close, .single ?_, fun hne => absurd rfl hne⟩
      refine .settle current (current.resolved d reasonCode (crates.toRfc3339 now)) _ (hid.symm ▸ hcurrent) hpending ?_ ?_ rfl
        (hrequests ▸ hsets) hgrants hevents ⟨rfl, rfl, rfl, ?_⟩ rfl rfl
      · simp [Request.resolved, hdeny]
      · simp [Request.resolved, hdeny]
      · simp [Request.resolved, hdeny, RequestStatus.events]
    | some fields =>
      have hallow : d.decision ≠ .deny := fun hdeny => Option.some_ne_none _ (hfields.mpr hdeny)
      obtain ⟨hrequests', hevents', hfresh, hgrantSets, hunique⟩ := insertGrant_eq hgranted
      rw [hevents'] at hevents
      refine ⟨.grant, .single ?_, fun hne => absurd rfl hne⟩
      refine .grant current (current.resolved d reasonCode (crates.toRfc3339 now)) (current.grant fields (crates.toRfc3339 now)) _
        (hid.symm ▸ hcurrent) hpending ?_ rfl ?_ hfresh hunique rfl rfl rfl (hgrants ▸ hgrantSets) hevents ⟨rfl, rfl, rfl, ?_⟩ rfl rfl
      · simp [Request.resolved, hallow]
      · rw [hrequests, hrequests']
        exact hsets
      · simp [Request.resolved, hallow, RequestStatus.events]

theorem settles_resolveRequest {d : DecisionDraft} {r : Outcome × PermissionDb} (h : db.resolveRequest crates now uuid d = .ok r) :
    ∃ k, Settles k db r := by
  unfold resolveRequest at h
  obtain ⟨root, -, h⟩ := bind_eq_ok h
  obtain ⟨-, -, h⟩ := bind_eq_ok h
  split at h
  · cases h
  · obtain ⟨reasonCode, -, h⟩ := bind_eq_ok h
    split at h
    · cases h
      exact ⟨.close, settles_unapplied _ _ _⟩
    · next current hcurrent =>
      split at h
      · cases h
        exact ⟨.close, settles_unapplied _ _ _⟩
      · split at h
        · cases h
          exact ⟨.close, settles_unapplied _ _ _⟩
        · obtain ⟨fields, hfields, h⟩ := bind_eq_ok h
          exact settles_writeDecision (get_of_getRequest hcurrent).1 (fields_of_validate hfields) h

/-! The batch of requests, and that it can be read back. -/

theorem requiredProjectRoot_idem {root root' : String} (h : requiredProjectRoot root = .ok root') :
    requiredProjectRoot root' = .ok root' := by
  unfold requiredProjectRoot at h
  simp only at h
  split at h
  · cases h
  · next hvalid =>
    cases h
    rw [requiredProjectRoot]
    simp only [normalizeProjectRoot_idem]
    rw [if_neg hvalid]

theorem of_validateRequest {d : RequestDraft} {r : Request} (h : validateRequest crates now d = .ok r) :
    r.status = .pending ∧ requiredProjectRoot r.projectRoot = .ok r.projectRoot := by
  unfold validateRequest at h
  obtain ⟨requestId, -, h⟩ := bind_eq_ok h
  obtain ⟨projectRoot, hroot, h⟩ := bind_eq_ok h
  obtain ⟨pluginId, -, h⟩ := bind_eq_ok h
  simp only at h
  split at h
  · cases h
  · obtain ⟨packageDigest, -, h⟩ := bind_eq_ok h
    split at h
    · cases h
    · obtain ⟨permission, -, h⟩ := bind_eq_ok h
      obtain ⟨⟨parsed, constraintsJson, computed⟩, -, h⟩ := bind_eq_ok h
      obtain ⟨-, -, h⟩ := bind_eq_ok h
      obtain ⟨constraintsDigest, -, h⟩ := bind_eq_ok h
      split at h
      · cases h
      · obtain ⟨purposeText, -, h⟩ := bind_eq_ok h
        split at h
        · cases h
        · cases h
          exact ⟨rfl, requiredProjectRoot_idem hroot⟩

theorem write_createRequest {r : Request} (hr : r.status = .pending) (h : db.createRequest uuid r = .ok db') :
    Write .create db db' ∧ db'.requests.get r.requestId = some r := by
  unfold createRequest at h
  obtain ⟨inserted, hinserted, h⟩ := bind_eq_ok h
  obtain ⟨eventId, hrequests, hgrants, hevents⟩ := insertEvent_eq h
  unfold insertRequest at hinserted
  split at hinserted
  · cases hinserted
  · next requests hinsert =>
    cases hinserted
    refine ⟨.create r _ (get_of_insert hinsert) hr (hrequests ▸ sets_insert hinsert) hgrants hevents
      ⟨rfl, rfl, rfl, by rw [hr]; exact List.mem_singleton_self _⟩ rfl rfl, ?_⟩
    rw [hrequests, sets_insert hinsert, if_pos rfl]

/-- After the batch every request of it is there as it was written. -/
theorem writes_createAll : ∀ (requests : List Request) (db db' : PermissionDb), (∀ r ∈ requests, r.status = .pending) →
    requests.foldlM (fun db r => createRequest db uuid r) db = .ok db' →
    Writes .create db db' ∧ ∀ r ∈ requests, db'.requests.get r.requestId = some r
  | [], db, db', _, h => by
    cases h
    exact ⟨.refl, fun _ hr => absurd hr List.not_mem_nil⟩
  | r :: requests, db, db', hpending, h => by
    rw [List.foldlM_cons] at h
    obtain ⟨db₁, h₁, hrest⟩ := bind_eq_ok h
    obtain ⟨hwrite, hget⟩ := write_createRequest (hpending r List.mem_cons_self) h₁
    obtain ⟨hwrites, hall⟩ := writes_createAll requests db₁ db' (fun r hr => hpending r (List.mem_cons_of_mem _ hr)) hrest
    refine ⟨.head hwrite hwrites, ?_⟩
    intro r' hr'
    rcases List.mem_cons.mp hr' with rfl | hr'
    · -- A batch only opens rows, so the row that is there stays.
      rcases hwrites.requestMove r'.requestId with hkept | ⟨hnone, -⟩
      · rw [hkept, hget]
      · rw [hget] at hnone
        cases hnone
    · exact hall r' hr'

theorem writes_insertRequests {drafts : List RequestDraft} {requests : List Request}
    (h : db.insertRequests crates now uuid drafts = .ok (requests, db')) :
    Writes .create db db' ∧ ∀ r ∈ requests, db'.requests.get r.requestId = some r ∧
      requiredProjectRoot r.projectRoot = .ok r.projectRoot := by
  unfold insertRequests at h
  split at h
  · cases h
  · obtain ⟨validated, hvalidated, h⟩ := bind_eq_ok h
    split at h
    · cases h
    · obtain ⟨written, hwritten, h⟩ := bind_eq_ok h
      cases h
      have hrequest : ∀ r ∈ requests, r.status = .pending ∧ requiredProjectRoot r.projectRoot = .ok r.projectRoot := by
        intro r hr
        obtain ⟨d, -, hd⟩ := mapM_mem drafts requests hvalidated r hr
        exact of_validateRequest hd
      obtain ⟨hwrites, hget⟩ := writes_createAll requests db db' (fun r hr => (hrequest r hr).1) hwritten
      exact ⟨hwrites, fun r hr => ⟨hget r hr, (hrequest r hr).2⟩⟩

/-- A batch that is committed can be read back, so an error of the batch is one of its transaction. -/
theorem writes_createRequests {drafts : List RequestDraft} {answer : Except String (List Request)}
    (h : db.createRequests crates now uuid drafts = (answer, db')) :
    Writes .create db db' ∧ ∀ e, answer = .error e → db' = db := by
  unfold createRequests at h
  split at h
  · cases h
    exact ⟨.refl, fun _ _ => rfl⟩
  · next requests written hwritten =>
    cases h
    obtain ⟨hwrites, hrows⟩ := writes_insertRequests hwritten
    refine ⟨hwrites, ?_⟩
    intro e he
    have hreload : ∀ r ∈ requests, ∃ r', db'.reload r = .ok r' := by
      intro r hr
      obtain ⟨hget, hroot⟩ := hrows r hr
      have hfound : db'.getRequest r.projectRoot r.requestId = some r := by
        rw [getRequest, hget, Option.filter_some, if_pos (decide_eq_true rfl)]
      refine ⟨r, ?_⟩
      rw [reload, hroot]
      simp only [bind, Except.bind, hfound]
    obtain ⟨rows, hrows⟩ := mapM_ok requests hreload
    rw [hrows] at he
    cases he

/-! ## Every operation -/

/-- The answers that an operation gives when it has done nothing. -/
def idle : Except String Answer → Bool
  | .error _ => true
  | .ok (.outcome o) => o != .applied
  | .ok _ => false

theorem transact_settles {k : WriteKind} {x : Except String (Outcome × PermissionDb)} (h : ∀ r, x = .ok r → ∃ k, Settles k db r) :
    (∃ k, Writes k db (transact db .outcome x).2) ∧ (idle (transact db .outcome x).1 = true → (transact db .outcome x).2 = db) := by
  cases x with
  | error e => exact ⟨⟨k, .refl⟩, fun _ => rfl⟩
  | ok r =>
    obtain ⟨k, hwrites, hunapplied⟩ := h r rfl
    refine ⟨⟨k, hwrites⟩, ?_⟩
    intro hidle
    exact hunapplied (bne_iff_ne.mp hidle)

theorem transact_writes {α : Type} {answer : α → Answer} (hanswer : ∀ a, idle (.ok (answer a)) = false)
    {x : Except String (α × PermissionDb)} (h : ∀ a db', x = .ok (a, db') → Writes .close db db') :
    (∃ k, Writes k db (transact db answer x).2) ∧ (idle (transact db answer x).1 = true → (transact db answer x).2 = db) := by
  cases x with
  | error e => exact ⟨⟨.close, .refl⟩, fun _ => rfl⟩
  | ok r =>
    refine ⟨⟨.close, h r.1 r.2 rfl⟩, ?_⟩
    intro hidle
    rw [transact, hanswer] at hidle
    cases hidle

/-- An operation writes rows of one kind, and none when its answer is an error, not found, stale or unchanged. -/
theorem exec_writes (crates : Crates) (db : PermissionDb) (call : PermissionCall) :
    (∃ k, Writes k db (exec crates db call).2) ∧ (idle (exec crates db call).1 = true → (exec crates db call).2 = db) := by
  obtain ⟨now, uuid, op⟩ := call
  cases op with
  | createRequests drafts =>
    obtain ⟨answer, written, hanswer⟩ : ∃ answer written, db.createRequests crates now uuid drafts = (answer, written) := ⟨_, _, rfl⟩
    obtain ⟨hwrites, herror⟩ := writes_createRequests hanswer
    simp only [exec, hanswer]
    refine ⟨⟨.create, hwrites⟩, ?_⟩
    intro hidle
    cases answer with
    | error e => exact herror e rfl
    | ok rows => cases hidle
  | resolve d =>
    simp only [exec]
    exact transact_settles (k := .close) (fun _ h => settles_resolveRequest h)
  | cancel root id revision reasonCode =>
    simp only [exec]
    exact transact_settles (k := .close) (fun _ h => ⟨.close, settles_cancelRequest h⟩)
  | revoke root id reasonCode =>
    simp only [exec]
    exact transact_settles (k := .close) (fun _ h => ⟨.close, settles_revokeGrant h⟩)
  | consume root id =>
    simp only [exec]
    exact transact_settles (k := .close) (fun _ h => ⟨.close, settles_consumeGrant h⟩)
  | recoverPending root reasonCode =>
    simp only [exec]
    exact transact_writes (fun _ => rfl) (fun _ _ h => writes_recoverPending h)
  | recoverTransient root reasonCode =>
    simp only [exec]
    exact transact_writes (fun _ => rfl) (fun _ _ h => writes_recoverTransient h)
  | expire root =>
    simp only [exec]
    exact transact_writes (fun _ => rfl) (fun _ _ h => writes_expireGrants h)
  | recordCall d consumeAllowOnce =>
    simp only [exec]
    exact transact_writes (fun _ => rfl) (fun _ _ h => writes_recordCallEvent h)

/-! ## Runs -/

/-- What one operation adds to the events: one for each request and each grant whose status it changes, of the row's project, plugin
and digest, and none without a change. -/
def StepAudited (db db' : PermissionDb) : Prop :=
  ∃ added, db'.events.rows = db.events.rows ++ added ∧
    (∀ id, Audited Event.tellsRequest Request.status (db.requests.get id) (db'.requests.get id) (added.filter (Event.aboutRequest id))) ∧
    (∀ id, Audited Event.tellsGrant Grant.status (db.grants.get id) (db'.grants.get id) (added.filter (Event.aboutGrant id))) ∧
    ∀ e ∈ added, (e.eventType.isRequestEvent = true → ∃ id, e.aboutRequest id = true) ∧
      (e.eventType.isGrantEvent = true → ∃ id, e.aboutGrant id = true)

/-- A request has a grant exactly when it is granted, and then exactly one; a grant is for what its request asks for, and only a
grant for one use is ever consumed. -/
structure GrantsMatch (db : PermissionDb) : Prop where
  granted : ∀ id r, db.requests.get id = some r →
    (r.status = .granted ↔ ∃ g ∈ db.grants.rows, g.originatingRequestId = id) ∧
      ∀ g ∈ db.grants.rows, ∀ g' ∈ db.grants.rows, g.originatingRequestId = id → g'.originatingRequestId = id → g = g'
  origin : ∀ g ∈ db.grants.rows, ∃ r, db.requests.get g.originatingRequestId = some r ∧ g.identity = r.identity
  consumed : ∀ g ∈ db.grants.rows, g.status = .consumed → g.grantSource = .allowOnce

/-- A request that has left pending and a grant that has ended stay as they are; the others stay with their identity. -/
structure Settled (db db' : PermissionDb) : Prop where
  requests : ∀ id r, db.requests.get id = some r → r.status ≠ .pending → db'.requests.get id = some r
  grants : ∀ id g, db.grants.get id = some g → g.status ≠ .active → db'.grants.get id = some g
  kept : Kept db db'

theorem Ledger.grantsMatch (h : Ledger db) : GrantsMatch db where
  granted := by
    intro id r hr
    refine ⟨⟨?_, ?_⟩, ?_⟩
    · intro hgranted
      obtain ⟨grantId, g, hg, horigin⟩ := h.granted id r hr hgranted
      exact ⟨g, mem_of_get hg, horigin⟩
    · rintro ⟨g, hg, rfl⟩
      obtain ⟨r', hr', hgranted, -⟩ := h.origin g.grantId g (get_of_mem hg)
      rw [hr] at hr'
      cases hr'
      exact hgranted
    · intro g hg g' hg' horigin horigin'
      have hget := get_of_mem hg
      have hget' := get_of_mem hg'
      rw [← h.unique g.grantId g'.grantId g g' hget hget' (horigin.trans horigin'.symm), hget] at hget'
      exact Option.some.inj hget'
  origin := by
    intro g hg
    obtain ⟨r, hr, -, hsame⟩ := h.origin g.grantId g (get_of_mem hg)
    exact ⟨r, hr, hsame⟩
  consumed g hg := h.once g.grantId g (get_of_mem hg)

theorem WriteKind.RequestMove.opens_or_closes {o o' : Option Request} (h : k.RequestMove o o') :
    Opens Request.isPending o o' ∨ Closes Request.isPending o o' := by
  cases k with
  | create => exact .inl h
  | grant => exact .inr h
  | close => exact .inr h

theorem WriteKind.GrantMove.opens_or_closes {o o' : Option Grant} (h : k.GrantMove o o') :
    Opens Grant.isActive o o' ∨ Closes Grant.isActive o o' := by
  cases k with
  | create => exact .inl h
  | grant => exact .inl h
  | close => exact .inr h

theorem Writes.stepAudited (h : Writes k db db') (hledger : Ledger db) : StepAudited db db' := by
  have hledger' := h.ledger hledger
  obtain ⟨added, hadded⟩ := h.events
  refine ⟨added, hadded, ?_, ?_, ?_⟩
  · intro id
    refine audited_of_histories ?_ (hledger.requestHistories id) ?_ (h.requestMove id).opens_or_closes
    · intro r r' hstatus
      rw [Request.isPending, Request.isPending, hstatus]
    · have hhistory := hledger'.requestHistories id
      rwa [hadded, List.filter_append] at hhistory
  · intro id
    refine audited_of_histories ?_ (hledger.grantHistories id) ?_ (h.grantMove id).opens_or_closes
    · intro g g' hstatus
      rw [Grant.isActive, Grant.isActive, hstatus]
    · have hhistory := hledger'.grantHistories id
      rwa [hadded, List.filter_append] at hhistory
  · intro e he
    obtain ⟨hrequest, hgrant⟩ := hledger'.named e (by rw [hadded]; exact List.mem_append_right _ he)
    refine ⟨?_, ?_⟩
    · intro htype
      obtain ⟨id, hid⟩ := Option.ne_none_iff_exists'.mp (hrequest htype)
      exact ⟨id, by rw [Event.aboutRequest, htype, hid, beq_self_eq_true, Bool.and_self]⟩
    · intro htype
      obtain ⟨id, hid⟩ := Option.ne_none_iff_exists'.mp (hgrant htype)
      exact ⟨id, by rw [Event.aboutGrant, htype, hid, beq_self_eq_true, Bool.true_or, Bool.and_self]⟩

theorem Writes.settled (h : Writes k db db') : Settled db db' where
  requests id _ hr hstatus := closed_stays (h.requestMove id).opens_or_closes hr (isPending_eq_false.mpr hstatus)
  grants id _ hg hstatus := closed_stays (h.grantMove id).opens_or_closes hg (isActive_eq_false.mpr hstatus)
  kept := h.kept

theorem ledger_run (crates : Crates) (trace : List PermissionCall) : Ledger (Run.after (step crates) emptyDb trace) := by
  refine Run.invariant (I := Ledger) ?_ trace ledger_empty
  intro db call hledger
  obtain ⟨⟨k, hwrites⟩, -⟩ := exec_writes crates db call
  exact hwrites.ledger hledger

theorem settled_run (crates : Crates) (db : PermissionDb) (trace : List PermissionCall) :
    Settled db (Run.after (step crates) db trace) := by
  refine Run.invariant (I := Settled db) ?_ trace ⟨fun _ _ h _ => h, fun _ _ h _ => h, .refl db⟩
  intro s call hsettled
  obtain ⟨⟨k, hwrites⟩, -⟩ := exec_writes crates s call
  exact {
    requests := fun id r hr hstatus => hwrites.settled.requests id r (hsettled.requests id r hr hstatus) hstatus
    grants := fun id g hg hstatus => hwrites.settled.grants id g (hsettled.grants id g hg hstatus) hstatus
    kept := hsettled.kept.trans hwrites.kept }

/-- In every run of the permission store: what has left pending or has ended stays for the rest of the run, the grants answer the
requests, and each operation tells of every change of a status with one event, and changes nothing when its answer is an error, not
found, stale or unchanged. -/
theorem permission_records_kept (crates : Crates) (trace : List PermissionCall) :
    (∀ before rest, trace = before ++ rest →
      Settled (Run.after (step crates) emptyDb before) (Run.after (step crates) emptyDb trace)) ∧
    GrantsMatch (Run.after (step crates) emptyDb trace) ∧
    Run.Along (step crates) (fun db call => StepAudited db (step crates db call) ∧
      (idle (exec crates db call).1 = true → step crates db call = db)) emptyDb trace := by
  refine ⟨?_, (ledger_run crates trace).grantsMatch, ?_⟩
  · rintro before rest rfl
    rw [Run.after_append]
    exact settled_run crates _ rest
  · rw [Run.along_iff]
    intro before call rest _
    obtain ⟨⟨k, hwrites⟩, hidle⟩ := exec_writes crates (Run.after (step crates) emptyDb before) call
    exact ⟨hwrites.stepAudited (ledger_run crates before), hidle⟩

end Rho.PluginPermission
