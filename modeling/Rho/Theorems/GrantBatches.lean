import Rho.Lib.Rfc3339
import Rho.Theorems.PluginPermission

/-!
# What one batch of a recovery leaves

The recovery of one-shot grants and the expiry of grants each select a bounded number of rows before they write. A grant that should
have ended is still active afterwards exactly when it was not among the rows selected, so the recovery is complete up to the bound on
a batch, and the expiry as long as every grant that is due comes early enough in the order of the texts of the expiries.
-/

namespace Rho.PluginPermission

open Rows Fallible PermissionDb

/-! ## What a loop of guarded statements leaves -/

/-- A guarded statement on one grant changes that grant, where its guard holds. -/
theorem grants_endGrant {db : PermissionDb} {uuid : Nat → String} {p : Grant → Bool} {f : Grant → Grant}
    {hf : ∀ g, (f g).grantId = g.grantId} {e : EventDraft} {o : Option PermissionDb} {id : String}
    (hp : ∀ g, p g = true → g.grantId = id) (h : db.endGrant uuid p f hf e = .ok o) (k : String) :
    (o.getD db).grants.get k = (db.grants.get k).map (fun g => if p g then f g else g) := by
  unfold endGrant at h
  split at h
  · rename_i hchanged
    cases h
    cases hget : db.grants.get k with
    | none => exact hget
    | some g =>
      have hnot : p g = false := by
        rw [← Bool.not_eq_true]
        intro hg
        have hid : k = id := (Table.key_of_get hget).symm.trans (hp g hg)
        exact hchanged ((Table.changed_eq_one_iff db.grants p id hp).mpr ⟨g, hid ▸ hget, hg⟩)
      rw [Option.getD_none, hget, Option.map_some, hnot]
      rfl
  · obtain ⟨written, hwritten, hsome⟩ := map_eq_ok h
    cases hsome
    obtain ⟨-, -, hgrants, -⟩ := insertEvent_eq hwritten
    rw [Option.getD_some, hgrants, Table.get_update]

section Sweep

variable {db db' : PermissionDb} {write : PermissionDb → Grant → Except String (Option PermissionDb)} {rows : List Grant}
  {guard due : Grant → Bool} {f : Grant → Grant} {n : Nat}

/-- What a loop does whose statements, row by row, end the grants with a guard that are due. -/
structure Ends (write : PermissionDb → Grant → Except String (Option PermissionDb)) (guard due : Grant → Bool) (f : Grant → Grant) :
    Prop where
  get : ∀ s row o, write s row = .ok o → ∀ k,
    (o.getD s).grants.get k = (s.grants.get k).map (fun g => if due row && guard g && g.grantId == row.grantId then f g else g)
  keepsId : ∀ g, (f g).grantId = g.grantId
  closes : ∀ g, guard (f g) = false

theorem grants_sweep (hends : Ends write guard due f) (h : db.sweep write rows = .ok (n, db')) (k : String) :
    db'.grants.get k =
      (db.grants.get k).map (fun g => if guard g && rows.any (fun row => due row && g.grantId == row.grantId) then f g else g) := by
  refine foldlM_invariant (fun done (s : Nat × PermissionDb) => ∀ k, s.2.grants.get k =
    (db.grants.get k).map (fun g => if guard g && done.any (fun row => due row && g.grantId == row.grantId) then f g else g))
    ?_ rows [] (0, db) (n, db') ?_ h k
  · intro done row s s' hs hstep k
    obtain ⟨o, hwrite, hstep⟩ := bind_eq_ok hstep
    have hget := hends.get s.2 row o hwrite k
    have hs' : s'.2 = o.getD s.2 := by
      cases o with
      | none =>
        cases hstep
        rfl
      | some written =>
        cases hstep
        rfl
    rw [hs', hget, hs k, Option.map_map]
    refine congrArg (fun g => (db.grants.get k).map g) (funext fun g => ?_)
    simp only [Function.comp_apply, List.any_append, List.any_cons, List.any_nil, Bool.or_false]
    cases hguard : guard g with
    | false => simp [hguard]
    | true =>
      cases hdone : done.any (fun row => due row && g.grantId == row.grantId) with
      | false =>
        by_cases hrow : due row = true ∧ g.grantId = row.grantId
        · simp [hguard, hrow.1, hrow.2]
        · have hnot : (due row && g.grantId == row.grantId) = false := by
            rw [← Bool.not_eq_true, Bool.and_eq_true, beq_iff_eq]
            exact hrow
          simp only [Bool.and_false, Bool.false_eq_true, if_false, hguard, Bool.and_true, hnot, Bool.or_false]
      | true => simp [hends.closes]
  · intro k
    cases hget : db.grants.get k with
    | none => rfl
    | some g => simp

/-- A grant that is due is left exactly when the loop has not come to it. -/
theorem swept_iff (hends : Ends write guard due f) (hrows : rows ⊆ db.grants.rows) (h : db.sweep write rows = .ok (n, db')) :
    (∀ g ∈ db'.grants.rows, guard g = true → due g = false) ↔ ∀ g ∈ db.grants.rows, guard g = true → due g = true → g ∈ rows := by
  have hget := grants_sweep hends h
  have hany : ∀ g ∈ db.grants.rows, due g = true →
      (rows.any (fun row => due row && g.grantId == row.grantId) = true ↔ g ∈ rows) := by
    intro g hg hdue
    rw [List.any_eq_true]
    constructor
    · rintro ⟨row, hrow, hsame⟩
      rw [Bool.and_eq_true, beq_iff_eq] at hsame
      rwa [List.inj_on_of_nodup_map db.grants.nodup hg (hrows hrow) hsame.2]
    · intro hg
      exact ⟨g, hg, by simp [hdue]⟩
  constructor
  · intro hnone g hg hguard hdue
    by_contra hnot
    have hkept := hget g.grantId
    rw [Table.get_of_mem hg, Option.map_some, if_neg] at hkept
    · rw [hnone g (Table.mem_of_get hkept) hguard] at hdue
      cases hdue
    · rw [Bool.and_eq_true]
      rintro ⟨-, hcome⟩
      exact hnot ((hany g hg hdue).mp hcome)
  · intro hall g' hg' hguard
    rw [← Bool.not_eq_true]
    intro hdue
    have hfound := Table.get_of_mem hg'
    rw [hget] at hfound
    obtain ⟨g, hg, hchanged⟩ := Option.map_eq_some_iff.mp hfound
    have hmem := Table.mem_of_get hg
    split at hchanged
    · rw [← hchanged, hends.closes] at hguard
      cases hguard
    · rename_i hnot
      rw [← hchanged] at hguard hdue
      exact hnot (by rw [hguard, (hany g hmem hdue).mpr (hall g hmem hguard hdue)]; rfl)

end Sweep

/-! ## The two batches -/

/-- `WHERE project_root = ?1 AND status = 'active' AND grant_source = 'allow_once'`. -/
def isOnce (root : String) (g : Grant) : Bool := g.projectRoot == root && g.status == .active && g.grantSource == .allowOnce

/-- `WHERE project_root = ?1 AND status = 'active'`. -/
def isActiveIn (root : String) (g : Grant) : Bool := g.projectRoot == root && g.status == .active

/-- The expiry of the grant is at the time or before it. -/
def isDue (crates : Crates) (now : Int) (g : Grant) : Bool := (crates.parseFromRfc3339 g.expiresAt).any (fun expiry => decide (expiry ≤ now))

/-- `ORDER BY expires_at, grant_id`. -/
def expiryOrder (a b : Grant) : Prop := a.expiresAt < b.expiresAt ∨ (a.expiresAt = b.expiresAt ∧ a.grantId ≤ b.grantId)

instance : DecidableRel expiryOrder := fun _ _ => instDecidableOr

instance : Std.Total expiryOrder := by
  refine ⟨fun a b => ?_⟩
  rcases lt_trichotomy a.expiresAt b.expiresAt with hlt | heq | hgt
  · exact .inl (.inl hlt)
  · rcases le_total a.grantId b.grantId with hle | hle
    · exact .inl (.inr ⟨heq, hle⟩)
    · exact .inr (.inr ⟨heq.symm, hle⟩)
  · exact .inr (.inl hgt)

instance : IsTrans Grant expiryOrder := by
  refine ⟨fun a b c => ?_⟩
  rintro (hab | ⟨hab, hid⟩) (hbc | ⟨hbc, hid'⟩)
  · exact .inl (hab.trans hbc)
  · exact .inl (hbc ▸ hab)
  · exact .inl (hab ▸ hbc)
  · exact .inr ⟨hab.trans hbc, hid.trans hid'⟩

section Batches

variable {crates : Crates} {db : PermissionDb} {now : Int} {uuid : Nat → String} {root : String}

theorem nodup_grants (db : PermissionDb) (p : Grant → Bool) : (db.grants.rows.filter p).Nodup := (List.Nodup.of_map _ db.grants.nodup).filter p

theorem strict_expiryOrder (db : PermissionDb) (p : Grant → Bool) : Strict expiryOrder (db.grants.rows.filter p) := by
  intro a ha b hb hab hba
  refine List.inj_on_of_nodup_map db.grants.nodup (List.mem_of_mem_filter ha) (List.mem_of_mem_filter hb) ?_
  rcases hab with hab | ⟨heq, hid⟩
  · rcases hba with hba | ⟨heq, -⟩
    · exact absurd hab (lt_asymm hba)
    · exact absurd hab heq.not_gt
  · rcases hba with hba | ⟨-, hid'⟩
    · exact absurd hba heq.not_gt
    · exact le_antisymm hid hid'

theorem normalized_of_required {root root' : String} (h : requiredProjectRoot root = .ok root') : root' = normalizeProjectRoot root := by
  unfold requiredProjectRoot at h
  dsimp only at h
  split at h
  · cases h
  · cases h
    rfl

theorem ends_recoverTransient (root reasonCode : String) :
    Ends (fun db g => db.endGrant uuid (activeOnceGrant root g.grantId) (Grant.revokeAt (crates.toRfc3339 now)) (fun _ => rfl)
      (grantEvent crates now root g.pluginId g.packageDigest g.grantId .grantRevoked (some reasonCode)))
      (isOnce root) (fun _ => true) (Grant.revokeAt (crates.toRfc3339 now)) where
  get := by
    intro s row o hwrite k
    rw [grants_endGrant (fun g hg => (of_activeOnceGrant hg).1.2.1) hwrite k]
    refine congrArg (fun change => (s.grants.get k).map change) (funext fun g => ?_)
    have hsame : activeOnceGrant root row.grantId g = (true && isOnce root g && g.grantId == row.grantId) := by
      rw [Bool.eq_iff_iff]
      simp only [activeOnceGrant, activeGrant, isOnce, Bool.and_eq_true, Bool.true_and]
      tauto
    rw [hsame]
  keepsId := fun _ => rfl
  closes := fun g => by simp [isOnce, Grant.revokeAt]

theorem ends_expireGrant (root : String) :
    Ends (expireGrant crates now uuid root) (isActiveIn root) (isDue crates now) Grant.expire where
  get := by
    intro s row o hwrite k
    unfold expireGrant at hwrite
    split at hwrite
    · cases hwrite
    rename_i expiry hparse
    split at hwrite
    · rename_i hlater
      cases hwrite
      have hnot : isDue crates now row = false := by simp [isDue, hparse, hlater]
      simp [hnot]
    · rename_i hlater
      have hdue : isDue crates now row = true := by simpa [isDue, hparse] using Int.not_lt.mp hlater
      rw [grants_endGrant (fun g hg => (of_activeGrant hg).2.1) hwrite k]
      refine congrArg (fun change => (s.grants.get k).map change) (funext fun g => ?_)
      have hsame : activeGrant root row.grantId g = (isDue crates now row && isActiveIn root g && g.grantId == row.grantId) := by
        rw [Bool.eq_iff_iff]
        simp only [activeGrant, isActiveIn, Bool.and_eq_true, hdue, Bool.true_and]
        tauto
      rw [hsame]
  keepsId := fun _ => rfl
  closes := fun g => by simp [isActiveIn, Grant.expire]

/-- The recovery leaves no one-shot grant active exactly when there were no more of them than a batch holds. -/
theorem recoverTransient_complete_iff {reasonCode : String} {n : Nat} {recovered : PermissionDb}
    (h : db.recoverTransient crates now uuid root reasonCode = .ok (n, recovered)) :
    (∀ g ∈ recovered.grants.rows, isOnce (normalizeProjectRoot root) g = false) ↔
      (db.grants.rows.filter (isOnce (normalizeProjectRoot root))).length ≤ maxRecoveryRecords := by
  unfold recoverTransient at h
  obtain ⟨p, hp, h⟩ := bind_eq_ok h
  obtain ⟨reasonCode, -, h⟩ := bind_eq_ok h
  rw [← normalized_of_required hp]
  have hswept := swept_iff (ends_recoverTransient p reasonCode)
    (fun g hg => List.mem_of_mem_filter (mem_of_mem_firstRows hg)) h
  simp only [Bool.true_eq_false, imp_false, Bool.not_eq_true, forall_const] at hswept
  rw [hswept, ← all_firstRows_iff (r := fun a b => a.grantId ≤ b.grantId) (nodup_grants db _)]
  constructor
  · intro hall g hg
    obtain ⟨hmem, hguard⟩ := List.mem_filter.mp hg
    exact hall g hmem hguard
  · intro hall g hmem hguard
    exact hall g (List.mem_filter.mpr ⟨hmem, hguard⟩)

/-- The expiry leaves no grant that is due active exactly when fewer active grants come before it than a batch holds. -/
theorem expireGrants_complete_iff {n : Nat} {expired : PermissionDb} (h : db.expireGrants crates now uuid root = .ok (n, expired)) :
    (∀ g ∈ expired.grants.rows, isActiveIn (normalizeProjectRoot root) g = true → isDue crates now g = false) ↔
      ∀ g ∈ db.grants.rows, isActiveIn (normalizeProjectRoot root) g = true → isDue crates now g = true →
        (db.grants.rows.filter (isActiveIn (normalizeProjectRoot root))).countP (fun b => Before expiryOrder b g) < maxRecoveryRecords := by
  unfold expireGrants at h
  obtain ⟨p, hp, h⟩ := bind_eq_ok h
  rw [← normalized_of_required hp]
  rw [swept_iff (ends_expireGrant p) (fun g hg => List.mem_of_mem_filter (mem_of_mem_firstRows hg)) h]
  have hfirst : ∀ g ∈ db.grants.rows, isActiveIn p g = true →
      (g ∈ firstRows expiryOrder maxRecoveryRecords (db.grants.rows.filter (isActiveIn p)) ↔
        (db.grants.rows.filter (isActiveIn p)).countP (fun b => Before expiryOrder b g) < maxRecoveryRecords) := by
    intro g hmem hguard
    exact mem_firstRows_iff (strict_expiryOrder db _) (nodup_grants db _) (List.mem_filter.mpr ⟨hmem, hguard⟩)
  constructor
  · intro hall g hmem hguard hdue
    exact (hfirst g hmem hguard).mp (hall g hmem hguard hdue)
  · intro hall g hmem hguard hdue
    exact (hfirst g hmem hguard).mpr (hall g hmem hguard hdue)

end Batches

/-- A recovery that succeeds has ended every one-shot grant of the project, and an expiry that succeeds every grant that is due, exactly
when the bound on a batch has not cut one off. -/
theorem grant_batches_complete_iff (crates : Crates) (db : PermissionDb) (now : Int) (uuid : Nat → String) (root reasonCode : String) :
    (∀ n recovered, db.recoverTransient crates now uuid root reasonCode = .ok (n, recovered) →
      ((∀ g ∈ recovered.grants.rows, isOnce (normalizeProjectRoot root) g = false) ↔
        (db.grants.rows.filter (isOnce (normalizeProjectRoot root))).length ≤ maxRecoveryRecords)) ∧
    (∀ n expired, db.expireGrants crates now uuid root = .ok (n, expired) →
      ((∀ g ∈ expired.grants.rows, isActiveIn (normalizeProjectRoot root) g = true → isDue crates now g = false) ↔
        ∀ g ∈ db.grants.rows, isActiveIn (normalizeProjectRoot root) g = true → isDue crates now g = true →
          (db.grants.rows.filter (isActiveIn (normalizeProjectRoot root))).countP (fun b => Before expiryOrder b g) <
            maxRecoveryRecords)) :=
  ⟨fun _ _ h => recoverTransient_complete_iff h, fun _ _ h => expireGrants_complete_iff h⟩

/-! ## A batch that is too small -/

section Succeeds

variable {crates : Crates} {db : PermissionDb} {now : Int} {uuid : Nat → String} {root : String}

/-- A loop succeeds whose statements do, in every state that they lead to. -/
theorem sweep_ok {write : PermissionDb → Grant → Except String (Option PermissionDb)} {rows : List Grant} {P : PermissionDb → Prop}
    (hwrite : ∀ s, ∀ row ∈ rows, P s → ∃ o, write s row = .ok o ∧ P (o.getD s)) (hdb : P db) :
    ∃ n written, db.sweep write rows = .ok (n, written) := by
  obtain ⟨⟨n, written⟩, h, -⟩ : ∃ s', db.sweep write rows = .ok s' ∧ [] ⊆ rows ∧ P s'.2 := by
    refine foldlM_ok (P := fun l (s : Nat × PermissionDb) => l ⊆ rows ∧ P s.2) ?_ rows (0, db) ⟨List.Subset.refl _, hdb⟩
    rintro row l s ⟨hsub, hs⟩
    obtain ⟨o, ho, hP⟩ := hwrite s.2 row (hsub List.mem_cons_self) hs
    have hrest : l ⊆ rows := fun _ ha => hsub (List.mem_cons_of_mem row ha)
    rw [ho]
    cases o with
    | none => exact ⟨s, rfl, hrest, hP⟩
    | some written => exact ⟨(s.1 + 1, written), rfl, hrest, hP⟩
  exact ⟨n, written, h⟩

/-- The events have the ids that were drawn for them. -/
def DrawnIds (uuid : Nat → String) (db : PermissionDb) : Prop :=
  ∀ e ∈ db.events.rows, ∃ k < db.events.rows.length, e.eventId = "event." ++ uuid k

theorem insertEvent_ok (db : PermissionDb) (huuid : Function.Injective uuid) (hdrawn : DrawnIds uuid db) {e : EventDraft}
    (hrequest : e.requestId = none) {id : String} (hgrant : e.grantId = some id) (hfound : (db.getGrant e.projectRoot id).isSome) :
    ∃ written, db.insertEvent uuid e = .ok written ∧ written.grants = db.grants ∧ DrawnIds uuid written := by
  have hnone : (db.getGrant e.projectRoot id).isNone = false := by
    rw [← Bool.not_eq_true, Option.isNone_iff_eq_none]
    intro h
    rw [h] at hfound
    cases hfound
  unfold insertEvent
  rw [hrequest, hgrant]
  simp only [Option.any_none, Bool.false_eq_true, if_false, Option.any_some, hnone]
  cases hinsert : db.events.insert { e with eventId := "event." ++ uuid db.events.rows.length } with
  | none =>
    unfold Table.insert at hinsert
    split at hinsert
    · rename_i htaken
      obtain ⟨e', he', hid⟩ := List.mem_map.mp htaken
      obtain ⟨k, hk, hdrawn⟩ := hdrawn e' he'
      have hsame := huuid ((String.append_right_inj _).mp (hdrawn.symm.trans hid))
      omega
    · cases hinsert
  | some events =>
    refine ⟨_, rfl, rfl, ?_⟩
    intro e' he'
    have hrows := Table.rows_insert hinsert
    simp only [hrows, List.length_append, List.length_singleton] at he' ⊢
    rcases List.mem_append.mp he' with he' | he'
    · obtain ⟨k, hk, hid⟩ := hdrawn e' he'
      exact ⟨k, by omega, hid⟩
    · exact ⟨db.events.rows.length, by omega, by rw [List.mem_singleton.mp he']⟩

/-- The recovery succeeds where the ids that are drawn are not taken. -/
theorem recoverTransient_ok (crates : Crates) (now : Int) (huuid : Function.Injective uuid) (hdrawn : DrawnIds uuid db)
    {reasonCode p reason : String} (hroot : requiredProjectRoot root = .ok p)
    (hreason : requireReasonCode "plugin permission recovery reason is required" reasonCode = .ok reason) :
    ∃ n recovered, db.recoverTransient crates now uuid root reasonCode = .ok (n, recovered) := by
  unfold recoverTransient
  rw [hroot, hreason, show ∀ {α β : Type} (a : α) (f : α → Except String β), (Except.ok a >>= f) = f a from fun _ _ => rfl,
    show ∀ {α β : Type} (a : α) (f : α → Except String β), (Except.ok a >>= f) = f a from fun _ _ => rfl]
  refine sweep_ok (P := fun s => DrawnIds uuid s ∧ ∀ g ∈ db.grants.rows, g.projectRoot = p → (s.getGrant p g.grantId).isSome) ?_ ?_
  · rintro s row hrow ⟨hdrawn, hfound⟩
    obtain ⟨hmem, hselected⟩ := List.mem_filter.mp (mem_of_mem_firstRows hrow)
    simp only [Bool.and_eq_true, beq_iff_eq] at hselected
    have hid : ∀ g : Grant, (Grant.revokeAt (crates.toRfc3339 now) g).grantId = g.grantId := fun _ => rfl
    have hkept : ∀ g ∈ db.grants.rows, g.projectRoot = p → (getGrant { s with
        grants := s.grants.update (activeOnceGrant p row.grantId) (Grant.revokeAt (crates.toRfc3339 now)) hid }
        p g.grantId).isSome := by
      intro g hg hp
      obtain ⟨g', hg'⟩ := Option.isSome_iff_exists.mp (hfound g hg hp)
      obtain ⟨hget, hp'⟩ := get_of_getGrant hg'
      dsimp only [getGrant]
      rw [Table.get_update, hget, Option.map_some]
      have hroot : (if activeOnceGrant p row.grantId g' then Grant.revokeAt (crates.toRfc3339 now) g' else g').projectRoot = p := by
        split
        · exact hp'
        · exact hp'
      rw [Option.filter_some, if_pos (decide_eq_true hroot)]
      rfl
    unfold endGrant
    split
    · exact ⟨none, rfl, hdrawn, hfound⟩
    · obtain ⟨written, hwritten, hgrants, hdrawn'⟩ := insertEvent_ok { s with
        grants := s.grants.update (activeOnceGrant p row.grantId) (Grant.revokeAt (crates.toRfc3339 now)) hid }
        (e := grantEvent crates now p row.pluginId row.packageDigest row.grantId .grantRevoked (some reason))
        huuid hdrawn rfl rfl (hkept row hmem hselected.1.1)
      refine ⟨some written, by rw [hwritten]; rfl, hdrawn', ?_⟩
      intro g hg hp
      rw [Option.getD_some, getGrant, hgrants]
      exact hkept g hg hp
  · refine ⟨hdrawn, fun g hg hp => ?_⟩
    rw [getGrant, Table.get_of_mem hg, Option.filter_some, if_pos (decide_eq_true hp)]
    rfl

end Succeeds

namespace SampleBatch

def number (k : Nat) : String := String.ofList (Rfc3339.digits 4 k)

theorem number_inj {a b : Nat} (ha : a < 10000) (hb : b < 10000) (h : number a = number b) : a = b := by
  have hdigits := String.ofList_injective h
  rcases Nat.lt_trichotomy a b with hlt | heq | hgt
  · have hless := Rfc3339.digits_lt (w := 4) hlt hb [] []
    rw [hdigits] at hless
    exact absurd hless (lt_irrefl _)
  · exact heq
  · have hless := Rfc3339.digits_lt (w := 4) hgt ha [] []
    rw [hdigits] at hless
    exact absurd hless (lt_irrefl _)

def request (k : Nat) : Request where
  requestId := "request." ++ number k
  projectRoot := "/p"
  pluginId := "a"
  pluginVersion := "1.0.0"
  packageDigest := "0000000000000000000000000000000000000000000000000000000000000000"
  runtimeKind := "wasm"
  permission := .workspaceRInspect
  constraintsJson := "\x7b\"maxBytes\":1,\"operations\":[\"metadata\"]\x7d"
  constraintsDigest := "1111111111111111111111111111111111111111111111111111111111111111"
  purposeText := none
  status := .granted
  requestedAt := "2026-08-01T00:00:00+00:00"
  resolvedAt := some "2026-08-01T00:00:00+00:00"
  decision := some .allowOnce
  grantSource := some .allowOnce
  reasonCode := none
  expectedProjectRevision := 0

/-- The one-shot grant of a request; each is of a revision of the policy of its own. -/
def grant (k : Nat) : Grant :=
  (request k).grant ⟨"grant." ++ number k, .allowOnce, k + 1, "2026-08-01T00:05:00+00:00"⟩ "2026-08-01T00:00:00+00:00"

theorem nodup_named {α : Type} (row : Nat → α) (key : α → String) (kind : String) (hkey : ∀ k, key (row k) = kind ++ number k) :
    (((List.range 1025).map row).map key).Nodup := by
  rw [List.map_map]
  refine List.Nodup.map_on ?_ List.nodup_range
  intro a ha b hb h
  have hsame := (hkey a).symm.trans (h.trans (hkey b))
  exact number_inj (by have := List.mem_range.mp ha; omega) (by have := List.mem_range.mp hb; omega) ((String.append_right_inj _).mp hsame)

/-- One more active one-shot grant than a batch holds. -/
def db : PermissionDb :=
  ⟨⟨(List.range 1025).map request, nodup_named request _ "request." (fun _ => rfl)⟩,
    ⟨(List.range 1025).map grant, nodup_named grant _ "grant." (fun _ => rfl)⟩, .empty _⟩

def uuid (n : Nat) : String := String.ofList (Nat.toDigits 10 n)

theorem uuid_injective : Function.Injective uuid := by
  intro a b h
  have hnumber := congrArg (Nat.ofDigitChars 10 · 0) (String.ofList_injective h)
  rwa [Nat.ofDigitChars_ten_toDigits, Nat.ofDigitChars_ten_toDigits] at hnumber

def crates : Crates := ⟨fun _ => none, fun _ => "2026-08-01T00:01:00+00:00", fun _ => true, fun _ => ""⟩

theorem drawnIds_db : DrawnIds uuid db := fun _ h => absurd h List.not_mem_nil

theorem length_once : (db.grants.rows.filter (isOnce "/p")).length = 1025 := by
  have hall : ∀ l : List Nat, ((l.map grant).filter (isOnce "/p")).length = l.length := by
    intro l
    rw [List.filter_eq_self.mpr, List.length_map]
    intro g hg
    obtain ⟨k, -, rfl⟩ := List.mem_map.mp hg
    rfl
  simp only [db]
  rw [hall, List.length_range]

end SampleBatch

/-- The recovery succeeds, and a one-shot grant is still active. -/
theorem one_shot_grant_survives : ∃ n recovered,
    SampleBatch.db.recoverTransient SampleBatch.crates 0 SampleBatch.uuid "/p" "restart" = .ok (n, recovered) ∧
      ¬ ∀ g ∈ recovered.grants.rows, isOnce "/p" g = false := by
  have hroot : normalizeProjectRoot "/p" = "/p" := by decide +kernel
  have hrequired : requiredProjectRoot "/p" = .ok "/p" := by decide +kernel
  have hreason : requireReasonCode "plugin permission recovery reason is required" "restart" = .ok "restart" := by decide +kernel
  obtain ⟨n, recovered, h⟩ :=
    recoverTransient_ok SampleBatch.crates 0 SampleBatch.uuid_injective SampleBatch.drawnIds_db hrequired hreason
  refine ⟨n, recovered, h, ?_⟩
  have hcomplete := recoverTransient_complete_iff h
  rw [hroot, SampleBatch.length_once] at hcomplete
  exact fun hall => absurd (hcomplete.mp hall) (by decide)

end Rho.PluginPermission
