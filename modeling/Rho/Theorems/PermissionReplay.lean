import Rho.Theorems.PluginPermission

/-!
# Submitting a decision again

A decision that was applied is recognised by comparing the draft with what was stored. The stored expiry is the canonical text of
the instant, while the draft's own text is compared: a draft whose expiry is written in another way is `Stale` when it comes again.
Of canonical drafts the recognition is exact, in every later state of the request and its grant.
-/

namespace Rho.PluginPermission

open Fallible Table PermissionDb

/-- The text of the expiry is the one its instant is stored with. -/
def ExpiryCanonical (crates : Crates) (d : DecisionDraft) : Prop :=
  ∀ text expiry, d.expiresAt = some text → crates.parseFromRfc3339 text = some expiry → crates.toRfc3339 expiry = text

/-- The two drafts differ in what they decide; a reason is compared as it is stored, an expiry by its instant. -/
def Differs (crates : Crates) (d d' : DecisionDraft) : Prop :=
  d'.decision ≠ d.decision ∨ validateReasonCode d'.reasonCode ≠ validateReasonCode d.reasonCode ∨ d'.grantId ≠ d.grantId ∨
    d'.policyRevision ≠ d.policyRevision ∨ d'.expiresAt.bind crates.parseFromRfc3339 ≠ d.expiresAt.bind crates.parseFromRfc3339

/-- The draft is for the same request and passes the checks that come before the request is read. -/
structure Resubmits (d d' : DecisionDraft) : Prop where
  request : d'.requestId = d.requestId
  project : requiredProjectRoot d'.projectRoot = requiredProjectRoot d.projectRoot
  revision : 0 ≤ d'.expectedProjectRevision
  reason : ∃ reasonCode, validateReasonCode d'.reasonCode = .ok reasonCode

/-- What a state promises of a decision that was applied before it. -/
structure ReplayLaw (crates : Crates) (db : PermissionDb) (d : DecisionDraft) : Prop where
  /-- The draft again is `Unchanged` and changes nothing. -/
  same : ∀ now uuid, db.resolveRequest crates now uuid d = .ok (.unchanged, db)
  /-- A draft that decides something else is `Stale` and changes nothing. -/
  other : ∀ now uuid d', Resubmits d d' → Differs crates d d' → db.resolveRequest crates now uuid d' = .ok (.stale, db)

/-! ## What an applied decision leaves -/

variable {crates : Crates} {d : DecisionDraft} {now : Int} {fields : GrantFields} {k : WriteKind} {db db' : PermissionDb}
  {r : Request} {root : String} {reasonCode : Option String} {d' : DecisionDraft}

/-- The fields of the grant that a decision creates, as the draft has them. -/
theorem grantFields_of_validate (h : validateDecisionFields crates d now = .ok (some fields)) :
    d.decision.grantSource = some fields.grantSource ∧ d.grantId = some fields.grantId ∧
      d.policyRevision = some fields.policyRevision ∧
      ∃ text expiry, d.expiresAt = some text ∧ crates.parseFromRfc3339 text = some expiry ∧
        fields.expiresAt = crates.toRfc3339 expiry := by
  unfold validateDecisionFields at h
  split at h
  · split at h
    · cases h
    · cases h
  · next source hsource =>
    split at h
    · cases h
    · next grantId hgrant =>
      obtain ⟨-, -, h⟩ := bind_eq_ok h
      split at h
      · cases h
      · next policyRevision hpolicy =>
        split at h
        · cases h
        · next text htext =>
          split at h
          · cases h
          · next expiry hexpiry =>
            split at h
            · cases h
            · cases h
              exact ⟨hsource, hgrant, (Option.filter_eq_some_iff.mp hpolicy).1, text, expiry, htext, hexpiry, rfl⟩

/-- A decision without a grant has no fields of one. -/
theorem noFields_of_validate (h : validateDecisionFields crates d now = .ok none) :
    d.decision = .deny ∧ d.grantId = none ∧ d.policyRevision = none ∧ d.expiresAt = none := by
  have hdeny := (fields_of_validate h).mp rfl
  unfold validateDecisionFields at h
  simp only [hdeny, Decision.grantSource] at h
  split at h
  · cases h
  · next hnone =>
    simp only [Bool.or_eq_true, not_or, Option.not_isSome_iff_eq_none] at hnone
    exact ⟨hdeny, hnone.1.1, hnone.1.2, hnone.2⟩

/-- The grant of a request, and no other, with the terms that a decision gave it. -/
def GrantStored (db : PermissionDb) (r : Request) (fields : GrantFields) : Prop :=
  ∃ g, db.grants.get fields.grantId = some g ∧ g.projectRoot = r.projectRoot ∧ g.originatingRequestId = r.requestId ∧
    g.grantSource = fields.grantSource ∧ g.policyRevision = fields.policyRevision ∧ g.expiresAt = fields.expiresAt ∧
    ∀ other ∈ db.grants.rows, other.originatingRequestId = r.requestId → other = g

/-- What a decision that was applied leaves, and what stays of it. -/
structure DecisionStored (crates : Crates) (db : PermissionDb) (d : DecisionDraft) (root : String) (reasonCode : Option String)
    (r : Request) : Prop where
  request : db.getRequest root d.requestId = some r
  revision : r.expectedProjectRevision = d.expectedProjectRevision
  decision : r.decision = some d.decision
  reason : r.reasonCode = reasonCode
  source : r.grantSource = d.decision.grantSource
  status : r.status = if d.decision = .deny then .denied else .granted
  grant : (d.decision = .deny ∧ d.grantId = none ∧ d.policyRevision = none ∧ d.expiresAt = none) ∨
    ∃ fields now, validateDecisionFields crates d now = .ok (some fields) ∧ GrantStored db r fields

/-- The only grant of a request stays its only grant. -/
theorem Write.grantStored (h : Write k db db')
    (hr : db.requests.get r.requestId = some r) (hstatus : r.status ≠ .pending) (hg : GrantStored db r fields) :
    GrantStored db' r fields := by
  obtain ⟨g, hget, hroot, horigin, hsource, hpolicy, hexpires, honly⟩ := hg
  cases h with
  | create r₀ e _ _ _ grants _ _ _ _ =>
    unfold GrantStored
    rw [grants]
    exact ⟨g, hget, hroot, horigin, hsource, hpolicy, hexpires, honly⟩
  | grant r₀ r' g' e found pending granted same requests fresh unique active origin ofRequest grants _ _ _ _ =>
    -- the grant that is added answers another request, for this one is not pending
    have hother : r'.requestId ≠ r.requestId := by
      intro heq
      rw [heq, hr] at found
      cases found
      exact hstatus pending
    have hid : fields.grantId ≠ g'.grantId := by
      intro heq
      rw [← heq, hget] at fresh
      cases fresh
    refine ⟨g, by rw [grants fields.grantId, if_neg hid, hget], hroot, horigin, hsource, hpolicy, hexpires, ?_⟩
    intro other hmem hsame
    have hgetOther := get_of_mem hmem
    rw [grants other.grantId] at hgetOther
    split at hgetOther
    · cases hgetOther
      exact absurd (origin.symm.trans hsame) hother
    · exact honly other (mem_of_get hgetOther) hsame
  | settle r₀ r' e _ _ _ _ _ _ grants _ _ _ _ =>
    unfold GrantStored
    rw [grants]
    exact ⟨g, hget, hroot, horigin, hsource, hpolicy, hexpires, honly⟩
  | endGrant g₀ g' e found active ended same origin source terms once requests grants _ _ _ _ =>
    by_cases hid : fields.grantId = g'.grantId
    · rw [← hid, hget] at found
      cases found
      refine ⟨g', by rw [grants fields.grantId, if_pos hid], (congrArg Identity.projectRoot same).trans hroot,
        origin.trans horigin, source.trans hsource, terms.1.trans hpolicy, terms.2.trans hexpires, ?_⟩
      intro other hmem hsame
      have hgetOther := get_of_mem hmem
      rw [grants other.grantId] at hgetOther
      split at hgetOther
      · exact (Option.some.inj hgetOther).symm
      · next hne =>
        have heq := honly other (mem_of_get hgetOther) hsame
        rw [heq, key_of_get hget] at hne
        exact absurd hid hne
    · refine ⟨g, by rw [grants fields.grantId, if_neg hid, hget], hroot, horigin, hsource, hpolicy, hexpires, ?_⟩
      intro other hmem hsame
      have hgetOther := get_of_mem hmem
      rw [grants other.grantId] at hgetOther
      split at hgetOther
      · cases hgetOther
        -- the grant that ends is another one, and so was its row before
        have heq := honly g₀ (mem_of_get found) (origin.symm.trans hsame)
        rw [heq] at found
        exact absurd ((key_of_get hget).symm.trans (key_of_get found)) hid
      · exact honly other (mem_of_get hgetOther) hsame
  | call e _ grants _ _ _ =>
    unfold GrantStored
    rw [grants]
    exact ⟨g, hget, hroot, horigin, hsource, hpolicy, hexpires, honly⟩

theorem Writes.grantStored (h : Writes k db db')
    (hr : db.requests.get r.requestId = some r) (hstatus : r.status ≠ .pending) (hg : GrantStored db r fields) :
    GrantStored db' r fields := by
  induction h with
  | refl => exact hg
  | tail hbefore hlast ih => exact hlast.grantStored ((Writes.settled hbefore).requests r.requestId r hr hstatus) hstatus ih

theorem DecisionStored.pending (h : DecisionStored crates db d root reasonCode r) : r.status ≠ .pending := by
  rw [h.status]
  split <;> simp

/-- What a decision leaves stays in every later state. -/
theorem decisionStored_run (h : DecisionStored crates db d root reasonCode r) (later : List PermissionCall) :
    DecisionStored crates (Run.after (step crates) db later) d root reasonCode r := by
  refine Run.invariant (I := fun db => DecisionStored crates db d root reasonCode r) ?_ later h
  intro db call h
  obtain ⟨⟨k, hwrites⟩, -⟩ := exec_writes crates db call
  obtain ⟨hget, hroot⟩ := Option.filter_eq_some_iff.mp h.request
  have hid := key_of_get hget
  have hstays := hwrites.settled.requests d.requestId r hget h.pending
  refine { h with request := Option.filter_eq_some_iff.mpr ⟨hstays, hroot⟩, grant := ?_ }
  rcases h.grant with hnone | ⟨fields, now, hfields, hstored⟩
  · exact .inl hnone
  · exact .inr ⟨fields, now, hfields, hwrites.grantStored (hid ▸ hget) h.pending hstored⟩

/-- The row of the grant that was inserted is the only one of its request. -/
theorem grantStored_insert {now : String} {r' : Request}
    (hsame : r'.projectRoot = r.projectRoot ∧ r'.requestId = r.requestId) (hgrants : db.grants.Sets db'.grants (r.grant fields now))
    (hunique : ∀ other ∈ db.grants.rows, other.originatingRequestId ≠ r.requestId) : GrantStored db' r' fields := by
  refine ⟨r.grant fields now, ?_, hsame.1.symm, hsame.2.symm, rfl, rfl, rfl, ?_⟩
  · rw [hgrants fields.grantId]
    exact if_pos rfl
  · intro other hmem horigin
    have hget := get_of_mem hmem
    rw [hgrants other.grantId] at hget
    split at hget
    · exact (Option.some.inj hget).symm
    · exact absurd (horigin.trans hsame.2) (hunique other (mem_of_get hget))

theorem decisionStored_of_applied {uuid : Nat → String} (h : db.resolveRequest crates now uuid d = .ok (.applied, db')) :
    ∃ root reasonCode r, requiredProjectRoot d.projectRoot = .ok root ∧
      (∃ id, validateIdentifier "plugin permission request id" d.requestId = .ok id) ∧ ¬ d.expectedProjectRevision < 0 ∧
      validateReasonCode d.reasonCode = .ok reasonCode ∧ DecisionStored crates db' d root reasonCode r := by
  unfold resolveRequest at h
  obtain ⟨root, hroot, h⟩ := bind_eq_ok h
  obtain ⟨id, hid, h⟩ := bind_eq_ok h
  split at h
  · cases h
  next hrevision =>
  obtain ⟨reasonCode, hreason, h⟩ := bind_eq_ok h
  split at h
  · cases h
  next current hcurrent =>
  split at h
  · cases h
  next hexpected =>
  split at h
  · split at h <;> cases h
  obtain ⟨fields, hfields, h⟩ := bind_eq_ok h
  refine ⟨root, reasonCode, current.resolved d reasonCode (crates.toRfc3339 now), hroot, ⟨id, hid⟩, hrevision, hreason, ?_⟩
  obtain ⟨hget, hcurrentRoot⟩ := Option.filter_eq_some_iff.mp hcurrent
  have hkey := key_of_get hget
  unfold writeDecision at h
  split at h
  · cases h
  next hchanged =>
  obtain ⟨r₀, hr₀, hselected⟩ :=
    (changed_eq_one_iff db.requests _ d.requestId (fun r hr => (of_decidable hr).1)).mp (not_not.mp hchanged)
  rw [hget] at hr₀
  cases hr₀
  have hsets := sets_update (f := Request.resolved d reasonCode (crates.toRfc3339 now)) (fun _ => rfl)
    (fun r (hr : decidable root d r = true) => (of_decidable hr).1) hget hselected
  obtain ⟨granted, hgranted, h⟩ := bind_eq_ok h
  obtain ⟨written, hwritten, h⟩ := bind_eq_ok h
  obtain ⟨eventId, hrequests, hgrants, -⟩ := insertEvent_eq hwritten
  cases h
  have hrow : ∀ requests, granted.requests = requests → requests.get d.requestId =
      some (current.resolved d reasonCode (crates.toRfc3339 now)) → db'.getRequest root d.requestId =
      some (current.resolved d reasonCode (crates.toRfc3339 now)) := by
    intro requests heq hrow
    refine Option.filter_eq_some_iff.mpr ⟨?_, hcurrentRoot⟩
    rw [hrequests, heq]
    exact hrow
  have hwrittenRow : (db.requests.update (decidable root d)
      (Request.resolved d reasonCode (crates.toRfc3339 now)) (fun _ => rfl)).get d.requestId =
      some (current.resolved d reasonCode (crates.toRfc3339 now)) := by
    rw [hsets d.requestId]
    exact if_pos hkey.symm
  cases fields with
  | none =>
    cases hgranted
    exact ⟨hrow _ rfl hwrittenRow, not_not.mp hexpected, rfl, rfl, rfl, rfl, .inl (noFields_of_validate hfields)⟩
  | some fields =>
    obtain ⟨hrequests', -, -, hgrantSets, hunique⟩ := insertGrant_eq hgranted
    refine ⟨hrow _ hrequests' hwrittenRow, not_not.mp hexpected, rfl, rfl, rfl, rfl, .inr ⟨fields, now, hfields, ?_⟩⟩
    have hsets' : db.grants.Sets db'.grants (current.grant fields (crates.toRfc3339 now)) := by
      rw [hgrants]
      exact hgrantSets
    exact grantStored_insert ⟨rfl, rfl⟩ hsets' hunique

/-! ## The answer to a draft -/

/-- The only row that meets a condition is the one that is found. -/
theorem find?_of_only {α : Type} {l : List α} {p : α → Bool} {a : α} (ha : a ∈ l) (hp : p a = true)
    (honly : ∀ b ∈ l, p b = true → b = a) : l.find? p = some a := by
  cases hfind : l.find? p with
  | none => exact absurd hp (by simpa using List.find?_eq_none.mp hfind a ha)
  | some b => rw [honly b (List.mem_of_find?_eq_some hfind) (List.find?_some hfind)]

/-- A draft for a request that was decided is compared with what is stored. -/
theorem resolve_stored (h : DecisionStored crates db d root reasonCode r) (hroot : requiredProjectRoot d'.projectRoot = .ok root)
    (hrequest : d'.requestId = d.requestId) {id : String}
    (hid : validateIdentifier "plugin permission request id" d.requestId = .ok id) (hrevision : ¬ d'.expectedProjectRevision < 0)
    {reasonCode' : Option String} (hreason : validateReasonCode d'.reasonCode = .ok reasonCode') (now : Int)
    (uuid : Nat → String) :
    db.resolveRequest crates now uuid d' = .ok (if d.expectedProjectRevision = d'.expectedProjectRevision ∧
      db.terminalDecisionMatches r d' reasonCode' = true then .unchanged else .stale, db) := by
  simp only [resolveRequest, hroot, hrequest, hid, hreason, h.request, bind, Except.bind, if_neg hrevision]
  rw [h.revision]
  by_cases hsame : d.expectedProjectRevision = d'.expectedProjectRevision
  · rw [if_neg (not_not.mpr hsame), if_pos h.pending]
    simp only [hsame, true_and]
  · rw [if_pos hsame, if_neg (fun hboth => hsame hboth.1)]

/-- The stored decision as it is compared: the fields of the draft, and the canonical text of the expiry. -/
theorem matches_stored (h : DecisionStored crates db d root reasonCode r) (reasonCode' : Option String) :
    db.terminalDecisionMatches r d' reasonCode' = true ↔ d'.decision = d.decision ∧ reasonCode' = reasonCode ∧
      d'.grantId = d.grantId ∧ d'.policyRevision = d.policyRevision ∧
      d'.expiresAt = d.expiresAt.map (fun text => ((crates.parseFromRfc3339 text).map crates.toRfc3339).getD text) := by
  unfold terminalDecisionMatches
  rw [h.decision, h.reason]
  by_cases hdecision : d'.decision = d.decision
  swap
  · rw [if_pos (.inl fun heq => hdecision (Option.some.inj heq).symm)]
    simp [hdecision]
  by_cases hreason : reasonCode' = reasonCode
  swap
  · rw [if_pos (.inr (Ne.symm hreason))]
    simp [hreason]
  rw [if_neg (by simp [hdecision, hreason])]
  rcases h.grant with ⟨hdeny, hgrant, hpolicy, hexpires⟩ | ⟨fields, now, hfields, g, hget, hroot, horigin, hsource, hpolicy, hexpires, honly⟩
  · rw [if_pos (hdecision.trans hdeny), h.status, h.source, if_pos hdeny]
    simp [hdecision, hreason, hdeny, Decision.grantSource, hgrant, hpolicy, hexpires, and_assoc]
  · obtain ⟨hdsource, hdgrant, hdpolicy, text, expiry, htext, hparse, hstored⟩ := grantFields_of_validate hfields
    have hallow : d.decision ≠ .deny := by
      intro hdeny
      rw [hdeny] at hdsource
      cases hdsource
    have hfound : db.grants.rows.find? (fun g => g.projectRoot == r.projectRoot && g.originatingRequestId == r.requestId) =
        some g := by
      refine find?_of_only (mem_of_get hget) (by simp [hroot, horigin]) ?_
      intro other hmem hother
      simp only [Bool.and_eq_true, beq_iff_eq] at hother
      exact honly other hmem hother.2
    rw [if_neg (fun hdeny => hallow (hdecision.symm.trans hdeny)), hfound, h.status, h.source, if_neg hallow]
    simp [hdecision, hreason, hdsource, hdgrant, hdpolicy, htext, hparse, hpolicy, hexpires, hsource, hstored,
      show g.grantId = fields.grantId from key_of_get hget, and_assoc]

/-- A canonical expiry is stored as it is given. -/
theorem expiry_stored (h : ExpiryCanonical crates d) :
    d.expiresAt.map (fun text => ((crates.parseFromRfc3339 text).map crates.toRfc3339).getD text) = d.expiresAt := by
  cases htext : d.expiresAt with
  | none => rfl
  | some text =>
    rw [Option.map_some]
    cases hparse : crates.parseFromRfc3339 text with
    | none => rfl
    | some expiry =>
      rw [Option.map_some, Option.getD_some]
      exact congrArg some (h text expiry htext hparse)

/-- In every state after a decision was applied, the draft again is `Unchanged` and every other decision `Stale`, exactly when the
draft's expiry is written in the canonical way. -/
theorem decision_replay_iff {crates : Crates} {db db' : PermissionDb} {now : Int} {uuid : Nat → String} {d : DecisionDraft}
    (happlied : db.resolveRequest crates now uuid d = .ok (.applied, db')) (later : List PermissionCall) :
    ReplayLaw crates (Run.after (step crates) db' later) d ↔ ExpiryCanonical crates d := by
  obtain ⟨root, reasonCode, r, hroot, ⟨id, hid⟩, hrevision, hreason, hstored⟩ := decisionStored_of_applied happlied
  have hlater := decisionStored_run hstored later
  have hagain := resolve_stored hlater hroot rfl hid hrevision hreason
  constructor
  · intro hlaw text expiry htext hparse
    have hsame := hlaw.same now uuid
    rw [hagain now uuid] at hsame
    split at hsame
    · next hmatches =>
      obtain ⟨-, -, -, -, hexpires⟩ := (matches_stored hlater reasonCode).mp hmatches.2
      rw [htext, Option.map_some, hparse, Option.map_some, Option.getD_some] at hexpires
      exact (Option.some.inj hexpires).symm
    · cases hsame
  · intro hcanonical
    have hexpiry := expiry_stored hcanonical
    refine ⟨?_, ?_⟩
    · intro now uuid
      rw [hagain now uuid, if_pos]
      exact ⟨rfl, (matches_stored hlater reasonCode).mpr ⟨rfl, rfl, rfl, rfl, hexpiry.symm⟩⟩
    · intro now uuid d' hresubmits hdiffers
      obtain ⟨reasonCode', hreason'⟩ := hresubmits.reason
      rw [resolve_stored hlater (hresubmits.project.trans hroot) hresubmits.request hid (Int.not_lt.mpr hresubmits.revision) hreason'
        now uuid, if_neg]
      rintro ⟨-, hmatches⟩
      obtain ⟨hdecision, hreasons, hgrant, hpolicy, hexpires⟩ := (matches_stored hlater reasonCode').mp hmatches
      rw [hexpiry] at hexpires
      rcases hdiffers with hne | hne | hne | hne | hne
      · exact hne hdecision
      · exact hne (by rw [hreason', hreason, hreasons])
      · exact hne hgrant
      · exact hne hpolicy
      · exact hne (by rw [hexpires])

/-! A request to read a file, allowed once until half a minute later. -/

/-- What chrono, semver and sha2 answer to the texts of the sample. -/
def sampleCrates : Crates where
  parseFromRfc3339 text :=
    if text = "2024-01-01T00:00:30+00:00" ∨ text = "2024-01-01T00:00:30Z" then some 1704067230000000000 else none
  toRfc3339 t := if t = 1704067230000000000 then "2024-01-01T00:00:30+00:00" else "2024-01-01T00:00:00+00:00"
  semver text := text == "1.0.0"
  sha256Hex _ := "6be8b625e1b9bd006c340a22c2bea58be08ba82df42f1f8518e79e22588d8b7c"

def samplePermission : RequestDraft where
  requestId := "request"
  projectRoot := "/project"
  pluginId := "plugin"
  pluginVersion := "1.0.0"
  packageDigest := String.ofList (List.replicate 64 'a')
  runtimeKind := "wasm"
  permission := "project.fs.read"
  constraintsJson := "\x7b\"maxBytes\":1,\"paths\":[\"a\"]\x7d"
  constraintsDigest := "6be8b625e1b9bd006c340a22c2bea58be08ba82df42f1f8518e79e22588d8b7c"
  purposeText := none
  expectedProjectRevision := 0

def sampleDecision (expiresAt : String) : DecisionDraft where
  requestId := "request"
  projectRoot := "/project"
  expectedProjectRevision := 0
  decision := .allowOnce
  reasonCode := none
  grantId := some "grant"
  policyRevision := some 1
  expiresAt := some expiresAt

def sampleUuid (n : Nat) : String := toString n

/-- The request is pending. -/
def samplePending : PermissionDb :=
  step sampleCrates emptyDb ⟨1704067200000000000, sampleUuid, .createRequests [samplePermission]⟩

/-- The decision was applied. -/
def sampleDecided (expiresAt : String) : PermissionDb :=
  step sampleCrates samplePending ⟨1704067200000000000, sampleUuid, .resolve (sampleDecision expiresAt)⟩

/-- The two spellings of one expiry are both accepted. -/
theorem sampleDecided_applied {expiresAt : String}
    (h : expiresAt = "2024-01-01T00:00:30+00:00" ∨ expiresAt = "2024-01-01T00:00:30Z") :
    samplePending.resolveRequest sampleCrates 1704067200000000000 sampleUuid (sampleDecision expiresAt) =
      .ok (.applied, sampleDecided expiresAt) := by
  have houtcome : ∀ text : String, (samplePending.resolveRequest sampleCrates 1704067200000000000 sampleUuid
      (sampleDecision text)).map Prod.fst = .ok .applied →
      samplePending.resolveRequest sampleCrates 1704067200000000000 sampleUuid (sampleDecision text) =
        .ok (.applied, sampleDecided text) := by
    intro text hfst
    unfold sampleDecided step exec
    match hx : samplePending.resolveRequest sampleCrates 1704067200000000000 sampleUuid (sampleDecision text) with
    | .error _ =>
      rw [hx] at hfst
      cases hfst
    | .ok (o, written) =>
      rw [hx] at hfst
      cases hfst
      simp only [hx, transact]
  rcases h with rfl | rfl
  · exact houtcome _ (by decide +kernel)
  · exact houtcome _ (by decide +kernel)

/-- The draft with the canonical expiry is recognised, also after its grant was used up. -/
theorem canonical_decision_recognised :
    samplePending.resolveRequest sampleCrates 1704067200000000000 sampleUuid (sampleDecision "2024-01-01T00:00:30+00:00") =
      .ok (.applied, sampleDecided "2024-01-01T00:00:30+00:00") ∧
    ReplayLaw sampleCrates (Run.after (step sampleCrates) (sampleDecided "2024-01-01T00:00:30+00:00")
      [⟨1704067200000000000, sampleUuid, .consume "/project" "grant"⟩]) (sampleDecision "2024-01-01T00:00:30+00:00") := by
  refine ⟨sampleDecided_applied (.inl rfl), (decision_replay_iff (sampleDecided_applied (.inl rfl)) _).mpr ?_⟩
  intro text expiry htext hparse
  cases htext
  have hexpiry : sampleCrates.parseFromRfc3339 "2024-01-01T00:00:30+00:00" = some 1704067230000000000 := by decide
  rw [hexpiry] at hparse
  cases hparse
  decide

/-- The draft with the same expiry in Zulu time is applied, and `Stale` when it comes again. -/
theorem zulu_decision_stale :
    ¬ ∀ (crates : Crates) (db db' : PermissionDb) (now : Int) (uuid : Nat → String) (d : DecisionDraft)
      (later : List PermissionCall), db.resolveRequest crates now uuid d = .ok (.applied, db') →
      ReplayLaw crates (Run.after (step crates) db' later) d := by
  intro h
  have hlaw := h sampleCrates samplePending _ 1704067200000000000 sampleUuid (sampleDecision "2024-01-01T00:00:30Z") []
    (sampleDecided_applied (.inr rfl))
  have hsame := congrArg (Except.map Prod.fst) (hlaw.same 1704067200000000000 sampleUuid)
  have hstale : ((sampleDecided "2024-01-01T00:00:30Z").resolveRequest sampleCrates 1704067200000000000 sampleUuid
      (sampleDecision "2024-01-01T00:00:30Z")).map Prod.fst = .ok .stale := by
    decide +kernel
  rw [Run.after_nil, hstale] at hsame
  cases hsame

end Rho.PluginPermission
