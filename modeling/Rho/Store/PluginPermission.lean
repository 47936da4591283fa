import Rho.Extension.Grant
import Rho.Lib.Rows
import Rho.Store.PluginLifecycle

/-!
# The permission records of workspace plugins

`plugin_permission.rs`: the requests for a permission, the grants that answer them and the events that tell of both. Every
operation is one transaction; one that fails, or returns before its commit, is rolled back. The batch of requests is read back
after its commit, so its answer may be an error although the rows are there: `createRequests` keeps the two apart.

A text of a draft that the source checks against a fixed list is decoded into an enumeration, and the row has the enumeration. The
`CHECK` constraints of the tables repeat what the drafts are checked for and are left out; the keys, the unique columns, the partial
index on active grants and the foreign keys are not. What chrono, semver and sha2 answer are parameters.
-/

namespace Rho.PluginPermission

/-! ## Enumerations -/

inductive RequestStatus where
  | pending | granted | denied | cancelled | stale
  deriving DecidableEq, Repr

/-- `PluginPermissionDecision`. -/
inductive Decision where
  | deny | allowOnce | allowProject
  deriving DecidableEq, Repr

def Decision.grantSource : Decision → Option GrantSource
  | .deny => none
  | .allowOnce => some .allowOnce
  | .allowProject => some .project

inductive GrantStatus where
  | active | consumed | revoked | expired
  deriving DecidableEq, Repr

inductive EventType where
  | requestCreated | requestGranted | requestDenied | requestCancelled | requestStale | grantConsumed | grantRevoked | grantExpired
  | recoveryCancelled | handleMinted | callAdmitted | callDenied | callCompleted | callFailed | callCancelled | completionUncertain
  deriving DecidableEq, Repr

inductive EventStatus where
  | pending | completed | failed | cancelled | stale
  deriving DecidableEq, Repr

/-- `PluginPermissionMutationOutcome`. -/
inductive Outcome where
  | applied | unchanged | notFound | stale
  deriving DecidableEq, Repr

/-! ## Drafts and rows -/

structure RequestDraft where
  requestId : String
  projectRoot : String
  pluginId : String
  pluginVersion : String
  packageDigest : String
  runtimeKind : String
  permission : String
  constraintsJson : String
  constraintsDigest : String
  purposeText : Option String
  expectedProjectRevision : Int
  deriving DecidableEq

structure Request where
  requestId : String
  projectRoot : String
  pluginId : String
  pluginVersion : String
  packageDigest : String
  runtimeKind : String
  permission : PermissionKind
  constraintsJson : String
  constraintsDigest : String
  purposeText : Option String
  status : RequestStatus
  requestedAt : String
  resolvedAt : Option String
  decision : Option Decision
  grantSource : Option GrantSource
  reasonCode : Option String
  expectedProjectRevision : Int
  deriving DecidableEq

structure DecisionDraft where
  requestId : String
  projectRoot : String
  expectedProjectRevision : Int
  decision : Decision
  reasonCode : Option String
  grantId : Option String
  policyRevision : Option Int
  expiresAt : Option String
  deriving DecidableEq

structure Grant where
  grantId : String
  projectRoot : String
  pluginId : String
  pluginVersion : String
  packageDigest : String
  runtimeKind : String
  permission : PermissionKind
  constraintsJson : String
  constraintsDigest : String
  grantSource : GrantSource
  policyRevision : Int
  createdAt : String
  expiresAt : String
  revokedAt : Option String
  consumedAt : Option String
  status : GrantStatus
  originatingRequestId : String
  deriving DecidableEq

/-- `PermissionEventDraft`, and the call event as it is written. -/
structure EventDraft where
  projectRoot : String
  pluginId : String
  packageDigest : String
  requestId : Option String
  grantId : Option String
  eventType : EventType
  status : EventStatus
  reasonCode : Option String
  detailsJson : String := "\x7b\x7d"
  createdAt : String
  deriving DecidableEq

structure Event extends EventDraft where
  eventId : String
  deriving DecidableEq

structure CallEventDraft where
  projectRoot : String
  pluginId : String
  packageDigest : String
  grantId : Option String
  eventType : String
  status : String
  reasonCode : Option String
  detailsJson : String
  deriving DecidableEq

/-- What the crates outside the repository answer; a time is the number of nanoseconds since the epoch. -/
structure Crates where
  parseFromRfc3339 : String → Option Int
  toRfc3339 : Int → String
  /-- `semver::Version::parse` succeeds. -/
  semver : String → Bool
  sha256Hex : String → String

/-! ## Validation -/

def maxIdentifierBytes : Nat := 128
def maxPurposeBytes : Nat := 2048
def maxReasonBytes : Nat := 256
def maxConstraintsBytes : Nat := 64 * 1024
def maxDetailsBytes : Nat := 8192
def maxRecoveryRecords : Nat := 1024
def defaultLimit : Nat := 50
def maxLimit : Nat := 100
def allowOnceMaxSeconds : Int := 5 * 60
def projectMaxSeconds : Int := 30 * 24 * 60 * 60

def requiredProjectRoot (root : String) : Except String String :=
  let normalized := normalizeProjectRoot root
  if (trim normalized).isEmpty || normalized == "legacy_unscoped" then .error "plugin permission project root is required"
  else .ok normalized

/-- The characters of an identifier and of a reason code. -/
def identifierChar (c : Char) : Bool := c.isLower || c.isDigit || c == '.' || c == '_' || c == '-'

def validateIdentifier (label value : String) : Except String String :=
  let value := trim value
  if value.isEmpty || decide (maxIdentifierBytes < value.utf8ByteSize) || !value.toList.all identifierChar then
    .error (label ++ " contains invalid or oversized characters")
  else .ok value

def validateDigest (label value : String) : Except String String :=
  if value.utf8ByteSize ≠ 64 ∨ !value.toList.all (fun c => c.isDigit || ('a' ≤ c && c ≤ 'f')) then
    .error (label ++ " must be lowercase hexadecimal SHA-256")
  else .ok value

def validatePermission (permission : String) : Except String PermissionKind :=
  match permission with
  | "project.fs.read" => .ok .projectFsRead
  | "workspace.r.inspect" => .ok .workspaceRInspect
  | "network.fetch" => .ok .networkFetch
  | _ => .error "unsupported plugin permission"

def isBidiOverride (c : Char) : Bool :=
  decide (c.toNat = 0x061c) || decide (c.toNat = 0x200e) || decide (c.toNat = 0x200f) ||
    (decide (0x202a ≤ c.toNat) && decide (c.toNat ≤ 0x202e)) || (decide (0x2066 ≤ c.toNat) && decide (c.toNat ≤ 0x2069))

def validateOptionalText (maximumBytes : Nat) (label : String) : Option String → Except String (Option String)
  | none => .ok none
  | some value =>
    let value := trim value
    if value.isEmpty then .ok none
    else if decide (maximumBytes < value.utf8ByteSize) || value.toList.any isControl || value.toList.any isBidiOverride then
      .error (label ++ " is oversized or contains control characters")
    else .ok (some value)

def validateReasonCode : Option String → Except String (Option String)
  | none => .ok none
  | some reasonCode =>
    let reasonCode := trim reasonCode
    if reasonCode.isEmpty then .ok none
    else if decide (maxReasonBytes < reasonCode.utf8ByteSize) || !reasonCode.toList.all identifierChar then
      .error "plugin permission reason code is invalid or oversized"
    else .ok (some reasonCode)

/-- A reason code that an operation cannot do without. -/
def requireReasonCode (message reasonCode : String) : Except String String := do
  match ← validateReasonCode (some reasonCode) with
  | none => .error message
  | some reasonCode => .ok reasonCode

/-- `canonical_constraints`: the value itself and its text, which has to be the text that was given. -/
def canonicalConstraints (crates : Crates) (value : String) : Except String (Json × String × String) :=
  if maxConstraintsBytes < value.utf8ByteSize then .error "plugin permission constraints are too large"
  else
    match Json.fromText value with
    | none => .error "plugin permission constraints are malformed"
    | some (.obj fields) =>
      let canonical := Json.toText (.obj fields)
      if maxConstraintsBytes < canonical.utf8ByteSize then .error "canonical plugin permission constraints are too large"
      else if value ≠ canonical then .error "plugin permission constraints must use canonical JSON encoding"
      else .ok (.obj fields, canonical, crates.sha256Hex canonical)
    | some _ => .error "plugin permission constraints must be a JSON object"

/-- `reserved_path_pattern`. -/
def reservedPathPattern (path : String) : Bool :=
  let segments := pathSegments (path.toList.map Char.toLower)
  let first := segments.headD []
  let last := segments.getLastD []
  [".git", ".rho"].any (fun name => first == name.toList) || last == ".env".toList || ".env.".toList.isPrefixOf last ||
    last == ".renviron".toList || ["id_rsa", "id_ed25519", "id_ecdsa", "id_dsa"].any (fun name => last == name.toList) ||
    [".pem", ".key", ".p12", ".pfx"].any (fun suffix => suffix.toList.isSuffixOf last)

-- Without a backslash in the path its segments are those between `/`.
def constraintPathAllowed (path : String) : Bool :=
  path.toList.head? != some '/' && path.toList.head? != some '\\' && !path.toList.contains ':' && !path.toList.contains '\\' &&
    !reservedPathPattern path &&
    !(pathSegments path.toList).any (fun component => component.isEmpty || component == ['.'] || component == ['.', '.'])

/-- The object has the keys of a permission and no others. -/
def exactKeys (fields : List (String × Json)) (allowed : List String) : Bool :=
  fields.length == allowed.length && fields.all (fun field => allowed.contains field.1)

def positiveBound (constraints : Json) (key : String) : Bool :=
  ((constraints.get key).bind Json.asU64).any (fun value => decide (0 < value) && decide (value ≤ 1024 * 1024))

/-- The texts of an array of texts; nothing for any other value. -/
def stringArray (constraints : Json) (key : String) : Option (List String) := do
  let values ← (constraints.get key).bind Json.asArray
  let texts ← values.mapM Json.asStr
  if texts.isEmpty || decide (64 < texts.length) || texts.any (fun text => text.isEmpty || decide (4096 < text.utf8ByteSize)) then none
  else some texts

def validateConstraintShape (permission : PermissionKind) : Json → Except String Unit
  | .obj fields =>
    let constraints := Json.obj fields
    let texts (key : String) (p : String → Bool) : Bool := (stringArray constraints key).any (fun values => values.all p)
    let valid := match permission with
      | .projectFsRead =>
        exactKeys fields ["maxBytes", "paths"] && positiveBound constraints "maxBytes" && texts "paths" constraintPathAllowed
      | .workspaceRInspect =>
        exactKeys fields ["maxBytes", "operations"] && positiveBound constraints "maxBytes" &&
          texts "operations" (fun operation => operation == "metadata" || operation == "preview")
      | .networkFetch =>
        exactKeys fields ["hosts", "maxResponseBytes", "methods", "schemes"] && positiveBound constraints "maxResponseBytes" &&
          texts "schemes" (· == "https") && texts "hosts" (fun host => validHostPattern host.toList) &&
          texts "methods" (fun method => method == "GET" || method == "HEAD")
    if valid then .ok () else .error "plugin permission constraints do not match the permission shape"
  | _ => .error "plugin permission constraints must be an object"

/-- `validate_request`, with the row it becomes: the draft's texts trimmed and checked, and pending since `now`. -/
def validateRequest (crates : Crates) (now : Int) (d : RequestDraft) : Except String Request := do
  let requestId ← validateIdentifier "plugin permission request id" d.requestId
  let projectRoot ← requiredProjectRoot d.projectRoot
  let pluginId ← validateIdentifier "plugin id" d.pluginId
  let pluginVersion := trim d.pluginVersion
  if maxIdentifierBytes < pluginVersion.utf8ByteSize ∨ crates.semver pluginVersion = false then
    .error "plugin version must be a bounded semantic version"
  else do
    let packageDigest ← validateDigest "package digest" d.packageDigest
    if d.runtimeKind ≠ "wasm" then .error "plugin permission runtime kind must be wasm"
    else do
      let permission ← validatePermission d.permission
      let (parsed, constraintsJson, computed) ← canonicalConstraints crates d.constraintsJson
      validateConstraintShape permission parsed
      let constraintsDigest ← validateDigest "constraints digest" d.constraintsDigest
      if constraintsDigest ≠ computed then .error "plugin permission constraints digest does not match canonical JSON"
      else do
        let purposeText ← validateOptionalText maxPurposeBytes "plugin permission purpose" d.purposeText
        if d.expectedProjectRevision < 0 then .error "plugin permission project revision must be non-negative"
        else
          return {
            requestId, projectRoot, pluginId, pluginVersion, packageDigest, permission, constraintsJson, constraintsDigest, purposeText
            runtimeKind := "wasm"
            status := .pending
            requestedAt := crates.toRfc3339 now
            resolvedAt := none
            decision := none
            grantSource := none
            reasonCode := none
            expectedProjectRevision := d.expectedProjectRevision }

/-- How long a grant of a decision may last. -/
def Decision.maximumSeconds : Decision → Int
  | .allowProject => projectMaxSeconds
  | .deny | .allowOnce => allowOnceMaxSeconds

/-- What the decision gives the grant it creates. -/
structure GrantFields where
  grantId : String
  grantSource : GrantSource
  policyRevision : Int
  expiresAt : String

/-- `validate_decision_fields`, with the source that the decision gives. -/
def validateDecisionFields (crates : Crates) (d : DecisionDraft) (now : Int) : Except String (Option GrantFields) :=
  match d.decision.grantSource with
  | none =>
    if d.grantId.isSome || d.policyRevision.isSome || d.expiresAt.isSome then
      .error "denied plugin permission must not create grant fields"
    else .ok none
  | some grantSource =>
    match d.grantId with
    | none => .error "granted plugin permission requires grant id"
    | some grantId => do
      -- The grant keeps the id as it was given, with the white space around it.
      let _ ← validateIdentifier "plugin permission grant id" grantId
      match d.policyRevision.filter (fun value => decide (0 < value)) with
      | none => .error "granted plugin permission requires positive policy revision"
      | some policyRevision =>
        match d.expiresAt with
        | none => .error "granted plugin permission requires expiry"
        | some expiresAt =>
          match crates.parseFromRfc3339 expiresAt with
          | none => .error "plugin grant expiry is invalid"
          | some expiry =>
            if expiry ≤ now ∨ now + d.decision.maximumSeconds * 1000000000 < expiry then
              .error "plugin grant expiry exceeds its allowed duration"
            else .ok (some ⟨grantId, grantSource, policyRevision, crates.toRfc3339 expiry⟩)

def validateCallEventType (value : String) : Except String EventType :=
  match value with
  | "handle_minted" => .ok .handleMinted
  | "call_admitted" => .ok .callAdmitted
  | "call_denied" => .ok .callDenied
  | "call_completed" => .ok .callCompleted
  | "call_failed" => .ok .callFailed
  | "call_cancelled" => .ok .callCancelled
  | "completion_uncertain" => .ok .completionUncertain
  | _ => .error "unsupported plugin permission call event type"

def validateCallEventStatus (value : String) : Except String EventStatus :=
  match value with
  | "completed" => .ok .completed
  | "failed" => .ok .failed
  | "cancelled" => .ok .cancelled
  | "stale" => .ok .stale
  | _ => .error "unsupported plugin permission call event status"

def forbiddenDetailKeys : List String :=
  ["handle", "credential", "header", "url", "content", "path", "token", "secret", "workspace_id"]

def detailKeyAllowed (key : String) : Bool :=
  let lower := key.toList.map Char.toLower
  !key.isEmpty && decide (key.utf8ByteSize ≤ 64) && !key.toList.any isControl &&
    !forbiddenDetailKeys.any (fun forbidden => PluginLifecycle.containsText lower forbidden.toList)

def detailValueAllowed : Json → Bool
  | .null | .bool _ | .int _ | .float _ => true
  | .str s =>
    decide (s.utf8ByteSize ≤ 128) && !s.toList.any isControl && !s.toList.any isBidiOverride &&
      !PluginLifecycle.containsText s.toList "handle.".toList && !PluginLifecycle.containsText s.toList "://".toList
  | .arr _ | .obj _ => false

/-- `validate_call_details`. -/
def validateCallDetails (value : String) : Except String String :=
  if maxDetailsBytes < value.utf8ByteSize then .error "plugin permission call details are too large"
  else
    match Json.fromText value with
    | none => .error "plugin permission call details are malformed"
    | some (.obj fields) =>
      if 16 < fields.length then .error "plugin permission call details contain too many fields"
      else
        match fields.find? (fun field => !detailKeyAllowed field.1 || !detailValueAllowed field.2) with
        | some field =>
          if !detailKeyAllowed field.1 then .error "plugin permission call details contain a forbidden field"
          else .error "plugin permission call details contain an unsafe value"
        | none =>
          if Json.toText (.obj fields) ≠ value then .error "plugin permission call details must use canonical JSON encoding"
          else .ok (Json.toText (.obj fields))
    | some _ => .error "plugin permission call details must be an object"

/-! ## The tables and their statements -/

structure PermissionDb where
  requests : Table Request.requestId
  grants : Table Grant.grantId
  events : Table Event.eventId

def emptyDb : PermissionDb := ⟨.empty _, .empty _, .empty _⟩

def Request.resolved (d : DecisionDraft) (reasonCode : Option String) (now : String) (r : Request) : Request :=
  { r with
    status := if d.decision = .deny then .denied else .granted
    resolvedAt := some now
    decision := some d.decision
    grantSource := d.decision.grantSource
    reasonCode := reasonCode }

def Request.cancelledFor (reasonCode now : String) (r : Request) : Request :=
  { r with
    status := .cancelled
    resolvedAt := some now
    reasonCode := some reasonCode }

/-- The grant that a decision creates for its request. -/
def Request.grant (r : Request) (fields : GrantFields) (now : String) : Grant where
  grantId := fields.grantId
  projectRoot := r.projectRoot
  pluginId := r.pluginId
  pluginVersion := r.pluginVersion
  packageDigest := r.packageDigest
  runtimeKind := r.runtimeKind
  permission := r.permission
  constraintsJson := r.constraintsJson
  constraintsDigest := r.constraintsDigest
  grantSource := fields.grantSource
  policyRevision := fields.policyRevision
  createdAt := now
  expiresAt := fields.expiresAt
  revokedAt := none
  consumedAt := none
  status := .active
  originatingRequestId := r.requestId

def Grant.consumeAt (now : String) (g : Grant) : Grant :=
  { g with
    status := .consumed
    consumedAt := some now }

def Grant.revokeAt (now : String) (g : Grant) : Grant :=
  { g with
    status := .revoked
    revokedAt := some now }

def Grant.expire (g : Grant) : Grant := { g with status := .expired }

/-- The columns of the index on active grants. -/
def Grant.activeIdentity (g : Grant) : String × String × String × String × PermissionKind × String × GrantSource × Int :=
  (g.projectRoot, g.pluginId, g.packageDigest, g.runtimeKind, g.permission, g.constraintsDigest, g.grantSource, g.policyRevision)

/-- `ORDER BY requested_at DESC, request_id`. -/
def requestOrder (a b : Request) : Prop := b.requestedAt < a.requestedAt ∨ (a.requestedAt = b.requestedAt ∧ a.requestId ≤ b.requestId)

instance : DecidableRel requestOrder := fun _ _ => instDecidableOr

/-- `ORDER BY created_at DESC, grant_id`. -/
def grantOrder (a b : Grant) : Prop := b.createdAt < a.createdAt ∨ (a.createdAt = b.createdAt ∧ a.grantId ≤ b.grantId)

instance : DecidableRel grantOrder := fun _ _ => instDecidableOr

/-- How many rows a list has at most. -/
def listLimit (limit : Option Nat) : Nat := min (limit.getD defaultLimit) maxLimit

namespace PermissionDb

variable (db : PermissionDb)

/-- The request of a project with an id. -/
def getRequest (root requestId : String) : Option Request :=
  (db.requests.get requestId).filter (fun r => r.projectRoot = root)

/-- `grant_identity`: the grant of a project with an id. -/
def getGrant (root grantId : String) : Option Grant := (db.grants.get grantId).filter (fun g => g.projectRoot = root)

/-- `list_plugin_permission_requests`. -/
def listRequests (root : String) (limit : Option Nat) (status : Option RequestStatus) : Except String (List Request) := do
  let root ← requiredProjectRoot root
  return Rows.firstRows requestOrder (listLimit limit)
    (db.requests.rows.filter (fun r => r.projectRoot == root && status.all (fun status => r.status == status)))

/-- `list_plugin_permission_grants`. -/
def listGrants (root : String) (limit : Option Nat) (status : Option GrantStatus) : Except String (List Grant) := do
  let root ← requiredProjectRoot root
  return Rows.firstRows grantOrder (listLimit limit)
    (db.grants.rows.filter (fun g => g.projectRoot == root && status.all (fun status => g.status == status)))

/-- `INSERT INTO plugin_permission_requests`. -/
def insertRequest (r : Request) : Except String PermissionDb :=
  match db.requests.insert r with
  | none => .error "UNIQUE constraint failed: plugin_permission_requests.request_id"
  | some requests => .ok { db with requests := requests }

/-- `INSERT INTO plugin_permission_grants`. -/
def insertGrant (g : Grant) : Except String PermissionDb :=
  if db.grants.rows.any (fun other => other.originatingRequestId == g.originatingRequestId) then
    .error "UNIQUE constraint failed: plugin_permission_grants.originating_request_id"
  else if db.grants.rows.any (fun other => other.status == .active && other.activeIdentity == g.activeIdentity) then
    .error "UNIQUE constraint failed: idx_plugin_permission_grants_active_identity"
  else if (db.getRequest g.projectRoot g.originatingRequestId).isNone then .error "FOREIGN KEY constraint failed"
  else
    match db.grants.insert g with
    | none => .error "UNIQUE constraint failed: plugin_permission_grants.grant_id"
    | some grants => .ok { db with grants := grants }

/-- `insert_event` and `insert_call_event`; the number of events so far names the id that is drawn. -/
def insertEvent (uuid : Nat → String) (e : EventDraft) : Except String PermissionDb :=
  if e.requestId.any (fun requestId => (db.getRequest e.projectRoot requestId).isNone) then .error "FOREIGN KEY constraint failed"
  else if e.grantId.any (fun grantId => (db.getGrant e.projectRoot grantId).isNone) then .error "FOREIGN KEY constraint failed"
  else
    match db.events.insert { e with eventId := "event." ++ uuid db.events.rows.length } with
    | none => .error "UNIQUE constraint failed: plugin_permission_events.event_id"
    | some events => .ok { db with events := events }

/-- An `UPDATE` of requests with the event that goes with it; nothing when it does not change one row. -/
def settleRequest (uuid : Nat → String) (p : Request → Bool) (f : Request → Request)
    (hf : ∀ r, (f r).requestId = r.requestId) (e : EventDraft) : Except String (Option PermissionDb) :=
  if db.requests.changed p ≠ 1 then .ok none
  else (insertEvent { db with requests := db.requests.update p f hf } uuid e).map some

/-- An `UPDATE` of grants with the event that goes with it; nothing when it does not change one row. -/
def endGrant (uuid : Nat → String) (p : Grant → Bool) (f : Grant → Grant) (hf : ∀ g, (f g).grantId = g.grantId)
    (e : EventDraft) : Except String (Option PermissionDb) :=
  if db.grants.changed p ≠ 1 then .ok none
  else (insertEvent { db with grants := db.grants.update p f hf } uuid e).map some

/-- `terminal_decision_matches`. -/
def terminalDecisionMatches (current : Request) (d : DecisionDraft) (reasonCode : Option String) : Bool :=
  if current.decision ≠ some d.decision ∨ current.reasonCode ≠ reasonCode then false
  else if d.decision = .deny then
    current.status == .denied && current.grantSource.isNone && d.grantId.isNone && d.policyRevision.isNone && d.expiresAt.isNone
  else
    match db.grants.rows.find? (fun g => g.projectRoot == current.projectRoot && g.originatingRequestId == current.requestId) with
    | none => false
    | some g =>
      current.status == .granted && current.grantSource == d.decision.grantSource && d.grantId == some g.grantId &&
        d.policyRevision == some g.policyRevision && d.expiresAt == some g.expiresAt && d.decision.grantSource == some g.grantSource

/-! ## Operations -/

section

variable (crates : Crates) (now : Int) (uuid : Nat → String)

/-- One request of a batch. -/
def createRequest (r : Request) : Except String PermissionDb := do
  let db ← db.insertRequest r
  db.insertEvent uuid {
    projectRoot := r.projectRoot
    pluginId := r.pluginId
    packageDigest := r.packageDigest
    requestId := some r.requestId
    grantId := none
    eventType := .requestCreated
    status := .pending
    reasonCode := none
    createdAt := r.requestedAt }

/-- The transaction of `create_plugin_permission_requests`. -/
def insertRequests (drafts : List RequestDraft) : Except String (List Request × PermissionDb) := do
  if drafts.isEmpty ∨ 64 < drafts.length then .error "plugin permission request batch must contain 1..=64 entries"
  else do
    let requests ← drafts.mapM (validateRequest crates now)
    if ¬ (requests.map Request.requestId).Nodup then .error "plugin permission request batch contains duplicate ids"
    else do
      let db ← requests.foldlM (fun db r => createRequest db uuid r) db
      return (requests, db)

/-- `get_plugin_permission_request` of a request that was just written. -/
def reload (r : Request) : Except String Request := do
  let root ← requiredProjectRoot r.projectRoot
  match db.getRequest root r.requestId with
  | none => .error "new plugin permission request could not be reloaded"
  | some r => .ok r

/-- `create_plugin_permission_requests`: the answer is read after the commit. -/
def createRequests (drafts : List RequestDraft) : Except String (List Request) × PermissionDb :=
  match insertRequests db crates now uuid drafts with
  | .error e => (.error e, db)
  | .ok (requests, written) => (requests.mapM written.reload, written)

/-- `WHERE project_root = ?1 AND request_id = ?2 AND status = 'pending' AND expected_project_revision = ?8`. -/
def decidable (root : String) (d : DecisionDraft) (r : Request) : Bool :=
  r.projectRoot == root && r.requestId == d.requestId && r.status == .pending &&
    r.expectedProjectRevision == d.expectedProjectRevision

/-- The grant of a decision, if it creates one. -/
def insertGrantOf (current : Request) : Option GrantFields → Except String PermissionDb
  | none => .ok db
  | some fields => db.insertGrant (current.grant fields (crates.toRfc3339 now))

/-- The rows that a decision writes: the request, its grant if there is one, and the event. -/
def writeDecision (root : String) (current : Request) (d : DecisionDraft) (reasonCode : Option String) (fields : Option GrantFields) :
    Except String (Outcome × PermissionDb) :=
  if db.requests.changed (decidable root d) ≠ 1 then .ok (.stale, db)
  else do
    let granted ← insertGrantOf
      { db with requests := db.requests.update (decidable root d) (Request.resolved d reasonCode (crates.toRfc3339 now)) }
      crates now current fields
    let written ← granted.insertEvent uuid {
      projectRoot := current.projectRoot
      pluginId := current.pluginId
      packageDigest := current.packageDigest
      requestId := some current.requestId
      grantId := fields.map GrantFields.grantId
      eventType := if d.decision = .deny then .requestDenied else .requestGranted
      status := .completed
      reasonCode := reasonCode
      createdAt := crates.toRfc3339 now }
    return (.applied, written)

/-- `resolve_plugin_permission_request`. -/
def resolveRequest (d : DecisionDraft) : Except String (Outcome × PermissionDb) := do
  let root ← requiredProjectRoot d.projectRoot
  let _ ← validateIdentifier "plugin permission request id" d.requestId
  if d.expectedProjectRevision < 0 then .error "plugin permission project revision must be non-negative"
  else do
    let reasonCode ← validateReasonCode d.reasonCode
    match db.getRequest root d.requestId with
    | none => .ok (.notFound, db)
    | some current =>
      if current.expectedProjectRevision ≠ d.expectedProjectRevision then .ok (.stale, db)
      else if current.status ≠ .pending then
        .ok (if db.terminalDecisionMatches current d reasonCode then .unchanged else .stale, db)
      else do
        let fields ← validateDecisionFields crates d now
        writeDecision db crates now uuid root current d reasonCode fields

/-- `WHERE project_root = ?1 AND request_id = ?2 AND status = 'pending'`. -/
def pendingRequest (root requestId : String) (r : Request) : Bool :=
  r.projectRoot == root && r.requestId == requestId && r.status == .pending

/-- The request is cancelled, by its user or by a recovery. -/
def cancelWith (root : String) (r : Request) (eventType : EventType) (reasonCode : String) : Except String (Option PermissionDb) :=
  db.settleRequest uuid (pendingRequest root r.requestId) (Request.cancelledFor reasonCode (crates.toRfc3339 now)) (fun _ => rfl) {
    projectRoot := root
    pluginId := r.pluginId
    packageDigest := r.packageDigest
    requestId := some r.requestId
    grantId := none
    eventType := eventType
    status := .cancelled
    reasonCode := some reasonCode
    createdAt := crates.toRfc3339 now }

/-- What a guarded statement makes of an outcome: a statement that changes no row is stale and rolled back. -/
def outcomeOf (db : PermissionDb) : Option PermissionDb → Outcome × PermissionDb
  | none => (.stale, db)
  | some written => (.applied, written)

/-- `cancel_plugin_permission_request`. -/
def cancelRequest (root requestId : String) (expectedProjectRevision : Int) (reasonCode : String) :
    Except String (Outcome × PermissionDb) := do
  let root ← requiredProjectRoot root
  let _ ← validateIdentifier "plugin permission request id" requestId
  if expectedProjectRevision < 0 then .error "plugin permission project revision must be non-negative"
  else do
    let reasonCode ← requireReasonCode "plugin permission cancellation reason is required" reasonCode
    match db.getRequest root requestId with
    | none => .ok (.notFound, db)
    | some current =>
      if current.expectedProjectRevision ≠ expectedProjectRevision then .ok (.stale, db)
      else if current.status ≠ .pending then .ok (if current.status = .cancelled then .unchanged else .stale, db)
      else return db.outcomeOf (← cancelWith db crates now uuid root current .requestCancelled reasonCode)

/-- `WHERE project_root = ?1 AND grant_id = ?2 AND status = 'active'`. -/
def activeGrant (root grantId : String) (g : Grant) : Bool :=
  g.projectRoot == root && g.grantId == grantId && g.status == .active

/-- The same with `AND grant_source = 'allow_once'`. -/
def activeOnceGrant (root grantId : String) (g : Grant) : Bool := activeGrant root grantId g && g.grantSource == .allowOnce

/-- The event of a grant that ends. -/
def grantEvent (root pluginId packageDigest grantId : String) (eventType : EventType) (reasonCode : Option String) : EventDraft where
  projectRoot := root
  pluginId := pluginId
  packageDigest := packageDigest
  requestId := none
  grantId := some grantId
  eventType := eventType
  status := .completed
  reasonCode := reasonCode
  createdAt := crates.toRfc3339 now

/-- `consume_plugin_permission_grant`. -/
def consumeGrant (root grantId : String) : Except String (Outcome × PermissionDb) := do
  let root ← requiredProjectRoot root
  let _ ← validateIdentifier "plugin permission grant id" grantId
  match db.getGrant root grantId with
  | none => .ok (.notFound, db)
  | some current =>
    if current.status ≠ .active ∨ current.grantSource ≠ .allowOnce then
      .ok (if current.status = .consumed then .unchanged else .stale, db)
    else
      return db.outcomeOf (← db.endGrant uuid (activeGrant root grantId) (Grant.consumeAt (crates.toRfc3339 now)) (fun _ => rfl)
        (grantEvent crates now root current.pluginId current.packageDigest grantId .grantConsumed none))

/-- `transition_grant` as `revoke_plugin_permission_grant` calls it. -/
def revokeGrant (root grantId reasonCode : String) : Except String (Outcome × PermissionDb) := do
  let root ← requiredProjectRoot root
  let _ ← validateIdentifier "plugin permission grant id" grantId
  let reasonCode ← requireReasonCode "plugin permission grant reason is required" reasonCode
  match db.getGrant root grantId with
  | none => .ok (.notFound, db)
  | some current =>
    if current.status ≠ .active then .ok (if current.status = .revoked then .unchanged else .stale, db)
    else
      return db.outcomeOf (← db.endGrant uuid (activeGrant root grantId) (Grant.revokeAt (crates.toRfc3339 now)) (fun _ => rfl)
        (grantEvent crates now root current.pluginId current.packageDigest grantId .grantRevoked (some reasonCode)))

/-- A loop over rows that were selected before it: each is written, or skipped by the guard of its statement. -/
def sweep {α : Type} (write : PermissionDb → α → Except String (Option PermissionDb)) (rows : List α) :
    Except String (Nat × PermissionDb) :=
  rows.foldlM (fun (s : Nat × PermissionDb) row => do
    match ← write s.2 row with
    | none => .ok s
    | some written => .ok (s.1 + 1, written)) (0, db)

/-- `recover_pending_plugin_permission_requests`. -/
def recoverPending (root reasonCode : String) : Except String (Nat × PermissionDb) := do
  let root ← requiredProjectRoot root
  let reasonCode ← requireReasonCode "plugin permission recovery reason is required" reasonCode
  let pending := (db.requests.rows.filter (fun r => r.projectRoot == root && r.status == .pending)).insertionSort
    (fun a b => a.requestedAt < b.requestedAt ∨ (a.requestedAt = b.requestedAt ∧ a.requestId ≤ b.requestId))
  db.sweep (fun db r => cancelWith db crates now uuid root r .recoveryCancelled reasonCode) pending

/-- `recover_transient_plugin_permission_grants`. -/
def recoverTransient (root reasonCode : String) : Except String (Nat × PermissionDb) := do
  let root ← requiredProjectRoot root
  let reasonCode ← requireReasonCode "plugin permission recovery reason is required" reasonCode
  let grants := ((db.grants.rows.filter (fun g => g.projectRoot == root && g.status == .active && g.grantSource == .allowOnce)).insertionSort
    (fun a b => a.grantId ≤ b.grantId)).take maxRecoveryRecords
  db.sweep (fun db g => db.endGrant uuid (activeOnceGrant root g.grantId) (Grant.revokeAt (crates.toRfc3339 now)) (fun _ => rfl)
    (grantEvent crates now root g.pluginId g.packageDigest g.grantId .grantRevoked (some reasonCode))) grants

/-- One grant of an expiry: it is skipped while it lasts. -/
def expireGrant (root : String) (db : PermissionDb) (g : Grant) : Except String (Option PermissionDb) :=
  match crates.parseFromRfc3339 g.expiresAt with
  | none => .error "persisted plugin permission expiry is invalid"
  | some expiry =>
    if now < expiry then .ok none
    else
      db.endGrant uuid (activeGrant root g.grantId) Grant.expire (fun _ => rfl)
        (grantEvent crates now root g.pluginId g.packageDigest g.grantId .grantExpired none)

/-- `expire_plugin_permission_grants`. -/
def expireGrants (root : String) : Except String (Nat × PermissionDb) := do
  let root ← requiredProjectRoot root
  let active := ((db.grants.rows.filter (fun g => g.projectRoot == root && g.status == .active)).insertionSort
    (fun a b => a.expiresAt < b.expiresAt ∨ (a.expiresAt = b.expiresAt ∧ a.grantId ≤ b.grantId))).take maxRecoveryRecords
  db.sweep (expireGrant crates now uuid root) active

/-- The source of the active grant that a call event names, if it names one. -/
def callGrantSource (root pluginId packageDigest : String) : Option String → Except String (Option GrantSource)
  | none => .ok none
  | some grantId =>
    match (db.getGrant root grantId).filter (fun g => g.pluginId = pluginId ∧ g.packageDigest = packageDigest ∧ g.status = .active) with
    | none => .error "plugin permission call grant is missing, stale, or inactive"
    | some g => .ok (some g.grantSource)

/-- The end of the grant that a call has used up. -/
def consumeAfterCall (root pluginId packageDigest : String) (grantId : Option String) : Except String PermissionDb :=
  match grantId with
  | none => .error "consuming a plugin permission call requires a grant"
  | some grantId => do
    match ← db.endGrant uuid (activeOnceGrant root grantId) (Grant.consumeAt (crates.toRfc3339 now)) (fun _ => rfl)
        (grantEvent crates now root pluginId packageDigest grantId .grantConsumed none) with
    | none => .error "allow-once plugin grant changed before completion persisted"
    | some written => .ok written

/-- `record_plugin_permission_call_event`; the answer is the id of the call event. -/
def recordCallEvent (d : CallEventDraft) (consumeAllowOnce : Bool) : Except String (String × PermissionDb) := do
  let root ← requiredProjectRoot d.projectRoot
  let pluginId ← validateIdentifier "plugin id" d.pluginId
  let packageDigest ← validateDigest "package digest" d.packageDigest
  let eventType ← validateCallEventType d.eventType
  let status ← validateCallEventStatus d.status
  let reasonCode ← validateReasonCode d.reasonCode
  let detailsJson ← validateCallDetails d.detailsJson
  if consumeAllowOnce = true ∧ eventType ≠ .callCompleted ∧ eventType ≠ .completionUncertain then
    .error "only completed or uncertain calls may consume an allow-once grant"
  else do
    let grantId ← PluginLifecycle.checkOptional (validateIdentifier "plugin permission grant id") d.grantId
    let grantSource ← db.callGrantSource root pluginId packageDigest grantId
    let recorded ← db.insertEvent uuid {
      projectRoot := root, pluginId, packageDigest, grantId, eventType, status, reasonCode, detailsJson
      requestId := none
      createdAt := crates.toRfc3339 now }
    let eventId := "event." ++ uuid db.events.rows.length
    if consumeAllowOnce = true ∧ grantSource = some .allowOnce then do
      let written ← consumeAfterCall recorded crates now uuid root pluginId packageDigest grantId
      return (eventId, written)
    else return (eventId, recorded)

end

end PermissionDb

/-! ## Runs -/

inductive PermissionOp where
  | createRequests (drafts : List RequestDraft)
  | resolve (d : DecisionDraft)
  | cancel (root requestId : String) (expectedProjectRevision : Int) (reasonCode : String)
  | revoke (root grantId reasonCode : String)
  | consume (root grantId : String)
  | recoverPending (root reasonCode : String)
  | recoverTransient (root reasonCode : String)
  | expire (root : String)
  | recordCall (d : CallEventDraft) (consumeAllowOnce : Bool)

/-- An operation with the clock's reading and the ids that are drawn in it. -/
structure PermissionCall where
  now : Int
  uuid : Nat → String
  op : PermissionOp

inductive Answer where
  | requests (rows : List Request)
  | outcome (o : Outcome)
  | count (n : Nat)
  | event (eventId : String)
  deriving DecidableEq

/-- The answer of a transaction and what it leaves: one that fails is rolled back. -/
def transact {α : Type} (db : PermissionDb) (answer : α → Answer) : Except String (α × PermissionDb) → Except String Answer × PermissionDb
  | .error e => (.error e, db)
  | .ok (a, written) => (.ok (answer a), written)

def exec (crates : Crates) (db : PermissionDb) (call : PermissionCall) : Except String Answer × PermissionDb :=
  match call.op with
  | .createRequests drafts =>
    let (answer, written) := db.createRequests crates call.now call.uuid drafts
    (answer.map .requests, written)
  | .resolve d => transact db .outcome (db.resolveRequest crates call.now call.uuid d)
  | .cancel root requestId revision reasonCode =>
    transact db .outcome (db.cancelRequest crates call.now call.uuid root requestId revision reasonCode)
  | .revoke root grantId reasonCode => transact db .outcome (db.revokeGrant crates call.now call.uuid root grantId reasonCode)
  | .consume root grantId => transact db .outcome (db.consumeGrant crates call.now call.uuid root grantId)
  | .recoverPending root reasonCode => transact db .count (db.recoverPending crates call.now call.uuid root reasonCode)
  | .recoverTransient root reasonCode => transact db .count (db.recoverTransient crates call.now call.uuid root reasonCode)
  | .expire root => transact db .count (db.expireGrants crates call.now call.uuid root)
  | .recordCall d consumeAllowOnce => transact db .event (db.recordCallEvent crates call.now call.uuid d consumeAllowOnce)

def step (crates : Crates) (db : PermissionDb) (call : PermissionCall) : PermissionDb := (exec crates db call).2

end Rho.PluginPermission
