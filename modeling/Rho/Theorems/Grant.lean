import Rho.Extension.Grant

/-!
# What a handle admits

Two properties of the grant store over every run. An `allow once` handle admits one call at a time and none after a completion
that may have had an effect, whatever the clock reads. A durable decision has one handle that can be redeemed, and revoking the
decision ends every handle issued for it, as long as the clock does not go back behind the expiry of a handle that was replaced
because it had expired: the store forgets such a handle without revoking it.
-/

namespace Rho

open GrantStore

section Digest

variable (sha256 : String → String)

/-! ## Events about one handle

A handle is the digest it is stored under. -/

/-- A call of `revalidate` that is answered with `Allowed`. -/
def admits (d : String) : GrantCall × GrantAnswer → Bool
  | (⟨_, .revalidate request⟩, .revalidation .allowed) => sha256 request.handleId == d
  | _ => false

/-- A call of `revalidate` or `revalidate_admitted` that is answered with `Allowed`. -/
def allows (d : String) : GrantCall × GrantAnswer → Bool
  | (⟨_, .revalidate request⟩, .revalidation .allowed) => sha256 request.handleId == d
  | (⟨_, .revalidateAdmitted request⟩, .revalidation .allowed) => sha256 request.handleId == d
  | _ => false

/-- A completion of one of some classes that is recorded. -/
def completes (d : String) (p : CompletionClass → Bool) : GrantCall × GrantAnswer → Bool
  | (⟨_, .complete handleId completion⟩, .done true) => sha256 handleId == d && p completion
  | _ => false

def releases (d : String) : GrantCall × GrantAnswer → Bool := completes sha256 d (· == .failureBeforeDispatch)

def consumes (d : String) : GrantCall × GrantAnswer → Bool := completes sha256 d (· != .failureBeforeDispatch)

/-! ## What a call does to one grant -/

/-- How a call changes the grant of a handle, and what its answer says about the handle then. -/
inductive RowMove (d : String) (e : GrantCall × GrantAnswer) : Option PluginGrant → Option PluginGrant → Prop
  | kept (row : Option PluginGrant) (hadmits : admits sha256 d e = true → ∃ g, row = some g ∧ g.grantSource ≠ .allowOnce)
      (hcomplete : ∀ p, completes sha256 d p e = false) : RowMove d e row row
  | issued (request : GrantRequest) (handleDigest : String) (now : Nat) (hop : ∃ token, e.1.op = .grant request token)
      (hadmits : admits sha256 d e = false) (hcomplete : ∀ p, completes sha256 d p e = false) :
      RowMove d e none (some { request with handleDigest := handleDigest, createdAtMillis := now })
  | revoked (g : PluginGrant) (now : Nat) (hadmits : admits sha256 d e = false)
      (hcomplete : ∀ p, completes sha256 d p e = false) : RowMove d e (some g) (some (g.revokeAt now))
  | admitted (g : PluginGrant) (hsource : g.grantSource = .allowOnce) (hused : g.used = false) (hfree : g.inFlight = false)
      (hadmits : admits sha256 d e = true) (hcomplete : ∀ p, completes sha256 d p e = false) :
      RowMove d e (some g) (some g.reserve)
  | completed (g : PluginGrant) (completion : CompletionClass) (hflight : g.inFlight = true)
      (hadmits : admits sha256 d e = false) (hcomplete : ∀ p, completes sha256 d p e = p completion) :
      RowMove d e (some g) (some (g.complete completion))

theorem revalidationError_none {g : PluginGrant} {request : RevalidationRequest} {now : Nat} {admitted : Bool}
    (h : revalidationError g request now admitted = none) :
    g.revokedAtMillis = none ∧ now < g.expiresAtMillis ∧ g.used = false ∧ (admitted = false → g.inFlight = false) := by
  unfold revalidationError at h
  by_cases hrevoked : g.revokedAtMillis.isSome = true
  · rw [if_pos hrevoked] at h
    cases h
  by_cases hexpired : g.expiresAtMillis ≤ now
  · rw [if_neg hrevoked, if_pos hexpired] at h
    cases h
  by_cases hused : g.used = true
  · rw [if_neg hrevoked, if_neg hexpired, if_pos hused] at h
    cases h
  rw [if_neg hrevoked, if_neg hexpired, if_neg hused] at h
  by_cases hnot : (admitted && decide (g.grantSource = .allowOnce) && !g.inFlight) = true
  · rw [if_pos hnot] at h
    cases h
  by_cases hflight : (!admitted && g.inFlight) = true
  · rw [if_neg hnot, if_pos hflight] at h
    cases h
  refine ⟨by simpa using hrevoked, Nat.lt_of_not_le hexpired, by simpa using hused, ?_⟩
  intro hadmitted
  simpa [hadmitted] using hflight

theorem get_edit (s : GrantStore) (handleDigest : String) (f : PluginGrant → PluginGrant)
    (hf : ∀ g, (f g).handleDigest = g.handleDigest) (d : String) :
    (s.edit handleDigest f hf).grants.get d = if d = handleDigest then (s.grants.get d).map f else s.grants.get d :=
  Table.get_update_key s.grants handleDigest f hf d

section Rows

variable {sha256} {s : GrantStore} {now : Nat} {d : String}

/-- An event that is neither a revalidation nor a completion says nothing about a handle. -/
theorem rowMove_of_edit {e : GrantCall × GrantAnswer} (hadmits : admits sha256 d e = false)
    (hcomplete : ∀ p, completes sha256 d p e = false) (handleDigest : String) :
    RowMove sha256 d e (s.grants.get d) ((s.edit handleDigest (·.revokeAt now) (PluginGrant.revokeAt_handleDigest now)).grants.get d) := by
  rw [get_edit]
  split
  · cases s.grants.get d with
    | none => exact .kept none (fun h => by rw [hadmits] at h; cases h) hcomplete
    | some g => exact .revoked g now hadmits hcomplete
  · exact .kept _ (fun h => by rw [hadmits] at h; cases h) hcomplete

theorem rowMove_of_same {e : GrantCall × GrantAnswer} (hadmits : admits sha256 d e = false)
    (hcomplete : ∀ p, completes sha256 d p e = false) {row : Option PluginGrant} : RowMove sha256 d e row row :=
  .kept row (fun h => by rw [hadmits] at h; cases h) hcomplete

theorem rowMove_of_invalidate {e : GrantCall × GrantAnswer} (hadmits : admits sha256 d e = false)
    (hcomplete : ∀ p, completes sha256 d p e = false) (p : PluginGrant → Bool) :
    RowMove sha256 d e (s.grants.get d) ((s.invalidate p now).2.grants.get d) := by
  simp only [invalidate, Table.get_update]
  cases s.grants.get d with
  | none => exact rowMove_of_same hadmits hcomplete
  | some g =>
    simp only [Option.map_some]
    split
    · exact .revoked g now hadmits hcomplete
    · exact rowMove_of_same hadmits hcomplete

theorem rowMove_revoke (handleId : String) :
    RowMove sha256 d (s.event sha256 ⟨now, .revoke handleId⟩) (s.grants.get d)
      ((s.step sha256 ⟨now, .revoke handleId⟩).grants.get d) := by
  simp only [event, step, serve, revoke]
  cases s.grants.get (sha256 handleId) with
  | none => exact rowMove_of_same rfl (fun _ => rfl)
  | some g => exact rowMove_of_edit rfl (fun _ => rfl) _

theorem rowMove_revokeDurableGrant (durableGrantId : String) :
    RowMove sha256 d (s.event sha256 ⟨now, .revokeDurableGrant durableGrantId⟩) (s.grants.get d)
      ((s.step sha256 ⟨now, .revokeDurableGrant durableGrantId⟩).grants.get d) := by
  simp only [event, step, serve, revokeDurableGrant]
  cases s.durableHandles durableGrantId with
  | none => exact rowMove_of_same rfl (fun _ => rfl)
  | some handleDigest =>
    dsimp only
    cases s.grants.get handleDigest with
    | none => exact rowMove_of_same rfl (fun _ => rfl)
    | some g => exact rowMove_of_edit rfl (fun _ => rfl) _

theorem rowMove_grant (request : GrantRequest) (token : Vector UInt8 32) :
    RowMove sha256 d (s.event sha256 ⟨now, .grant request token⟩) (s.grants.get d)
      ((s.step sha256 ⟨now, .grant request token⟩).grants.get d) := by
  simp only [event, step, serve, grant]
  split
  · exact rowMove_of_same rfl (fun _ => rfl)
  · split
    · exact rowMove_of_same rfl (fun _ => rfl)
    · split
      · exact rowMove_of_same rfl (fun _ => rfl)
      · rename_i grants hinsert
        simp only [Prod.map, id]
        rw [Table.get_insert hinsert]
        split
        · rename_i hd
          have hnone := Table.get_of_insert hinsert
          rw [hd] at hnone
          rw [hnone]
          exact .issued request _ now ⟨token, rfl⟩ rfl (fun _ => rfl)
        · exact rowMove_of_same rfl (fun _ => rfl)

theorem rowMove_revalidate (request : RevalidationRequest) :
    RowMove sha256 d (s.event sha256 ⟨now, .revalidate request⟩) (s.grants.get d)
      ((s.step sha256 ⟨now, .revalidate request⟩).grants.get d) := by
  simp only [event, step, serve, revalidate]
  cases hget : s.grants.get (sha256 request.handleId) with
  | none => exact rowMove_of_same rfl (fun _ => rfl)
  | some g =>
    dsimp only
    cases herror : revalidationError g request now false with
    | some error => exact rowMove_of_same rfl (fun _ => rfl)
    | none =>
      obtain ⟨-, -, hused, hfree⟩ := revalidationError_none herror
      dsimp only
      split
      · rename_i hsource
        simp only [Prod.map, id]
        rw [get_edit]
        by_cases hd : d = sha256 request.handleId
        · subst hd
          rw [if_pos rfl, hget]
          exact .admitted g hsource hused (hfree rfl) (beq_self_eq_true _) (fun _ => rfl)
        · rw [if_neg hd]
          exact rowMove_of_same (by simp [admits, Ne.symm hd]) (fun _ => rfl)
      · rename_i hsource
        refine .kept _ ?_ (fun _ => rfl)
        intro hadmits
        have hd : sha256 request.handleId = d := eq_of_beq hadmits
        exact ⟨g, hd ▸ hget, hsource⟩

theorem rowMove_revalidateAdmitted (request : RevalidationRequest) :
    RowMove sha256 d (s.event sha256 ⟨now, .revalidateAdmitted request⟩) (s.grants.get d)
      ((s.step sha256 ⟨now, .revalidateAdmitted request⟩).grants.get d) :=
  rowMove_of_same rfl (fun _ => rfl)

theorem rowMove_complete (handleId : String) (completion : CompletionClass) :
    RowMove sha256 d (s.event sha256 ⟨now, .complete handleId completion⟩) (s.grants.get d)
      ((s.step sha256 ⟨now, .complete handleId completion⟩).grants.get d) := by
  simp only [event, step, serve, complete]
  cases hget : s.grants.get (sha256 handleId) with
  | none => exact rowMove_of_same rfl (fun _ => rfl)
  | some g =>
    dsimp only
    split
    · exact rowMove_of_same rfl (fun _ => rfl)
    · rename_i hrecorded
      have hflight : g.inFlight = true := by
        cases hg : g.inFlight with
        | false => exact absurd (Or.inr hg) hrecorded
        | true => rfl
      simp only [Prod.map, id]
      rw [get_edit]
      by_cases hd : d = sha256 handleId
      · subst hd
        rw [if_pos rfl, hget]
        exact .completed g completion hflight rfl (fun p => by simp [completes])
      · rw [if_neg hd]
        exact rowMove_of_same rfl (fun p => by simp [completes, Ne.symm hd])

/-- Every call moves the grant of a handle in one of these ways. -/
theorem rowMove_step (s : GrantStore) (call : GrantCall) (d : String) :
    RowMove sha256 d (s.event sha256 call) (s.grants.get d) ((s.step sha256 call).grants.get d) := by
  obtain ⟨now, op⟩ := call
  cases op with
  | grant request token => exact rowMove_grant request token
  | revoke handleId => exact rowMove_revoke handleId
  | revokeDurableGrant durableGrantId => exact rowMove_revokeDurableGrant durableGrantId
  | invalidateProject root => exact rowMove_of_invalidate rfl (fun _ => rfl) _
  | invalidateHost host => exact rowMove_of_invalidate rfl (fun _ => rfl) _
  | invalidateWorkspace workspace => exact rowMove_of_invalidate rfl (fun _ => rfl) _
  | revalidate request => exact rowMove_revalidate request
  | revalidateAdmitted request => exact rowMove_revalidateAdmitted request
  | complete handleId completion => exact rowMove_complete handleId completion
  | hasLiveDurableGrant durableGrantId => exact rowMove_of_same rfl (fun _ => rfl)
  | hasLiveHandle handleId => exact rowMove_of_same rfl (fun _ => rfl)

/-- A handle is allowed only when its grant is neither revoked nor used, and not expired at the reading. -/
theorem active_of_allows {call : GrantCall} (h : allows sha256 d (s.event sha256 call) = true) :
    ∃ g, s.grants.get d = some g ∧ g.revokedAtMillis = none ∧ call.now < g.expiresAtMillis ∧ g.used = false := by
  obtain ⟨now, op⟩ := call
  cases op with
  | revalidate request =>
    simp only [event, serve, revalidate] at h
    cases hget : s.grants.get (sha256 request.handleId) with
    | none => simp [hget, allows] at h
    | some g =>
      cases herror : revalidationError g request now false with
      | some error => simp [hget, herror, allows] at h
      | none =>
        obtain ⟨hrevoked, hexpired, hused, -⟩ := revalidationError_none herror
        have hd : sha256 request.handleId = d := by
          simp only [hget, herror] at h
          split at h
          · exact eq_of_beq h
          · exact eq_of_beq h
        exact ⟨g, hd ▸ hget, hrevoked, hexpired, hused⟩
  | revalidateAdmitted request =>
    simp only [event, serve, revalidateAdmitted] at h
    cases hget : s.grants.get (sha256 request.handleId) with
    | none => simp [hget, allows] at h
    | some g =>
      cases herror : revalidationError g request now true with
      | some error => simp [hget, herror, allows] at h
      | none =>
        obtain ⟨hrevoked, hexpired, hused, -⟩ := revalidationError_none herror
        have hd : sha256 request.handleId = d := by
          simp only [hget, herror] at h
          exact eq_of_beq h
        exact ⟨g, hd ▸ hget, hrevoked, hexpired, hused⟩
  | grant => cases h
  | revoke => cases h
  | revokeDurableGrant => cases h
  | invalidateProject => cases h
  | invalidateHost => cases h
  | invalidateWorkspace => cases h
  | complete => cases h
  | hasLiveDurableGrant => cases h
  | hasLiveHandle => cases h

end Rows

/-! ## One use of an `allow once` handle -/

/-- The grant is not reserved and used at once. -/
def OnceOk (row : Option PluginGrant) : Prop := ∀ g, row = some g → g.inFlight = true → g.used = false

/-- The admissions of a handle that are not released: one while the grant is reserved, and one when it is used. -/
def spent (row : Option PluginGrant) : Nat := if row.any (fun g => g.inFlight || g.used) then 1 else 0

/-- The grant of the handle, when there is one, is an `allow once` grant. -/
def OnceOnly (row : Option PluginGrant) : Prop := ∀ g ∈ row, g.grantSource = .allowOnce

instance (row : Option PluginGrant) : Decidable (OnceOnly row) :=
  inferInstanceAs (Decidable (∀ g ∈ row, g.grantSource = .allowOnce))

section Once

variable {sha256} {d : String} {e : GrantCall × GrantAnswer} {row row' : Option PluginGrant}

theorem onceOk_move (h : RowMove sha256 d e row row') (hok : OnceOk row) : OnceOk row' := by
  intro g' hg' hflight
  cases h with
  | kept => exact hok g' hg' hflight
  | issued request handleDigest now =>
    cases hg'
    rfl
  | revoked g now =>
    cases hg'
    exact hok g rfl hflight
  | admitted g hsource hused hfree =>
    cases hg'
    exact hused
  | completed g completion =>
    cases hg'
    cases hflight

/-- The source of a grant is fixed when it is issued. -/
theorem onceOnly_of_move (h : RowMove sha256 d e row row') (honce : OnceOnly row') : OnceOnly row := by
  intro g hg
  cases h with
  | kept => exact honce g hg
  | issued => cases hg
  | revoked g₁ now =>
    cases hg
    exact honce (g.revokeAt now) rfl
  | admitted g₁ hsource =>
    cases hg
    exact hsource
  | completed g₁ completion =>
    cases hg
    exact honce (g.complete completion) rfl

theorem spent_move (h : RowMove sha256 d e row row') (hok : OnceOk row) (honce : OnceOnly row') :
    (admits sha256 d e).toNat + spent row = (releases sha256 d e).toNat + spent row' := by
  cases h with
  | kept row hadmits hcomplete =>
    have hquiet : admits sha256 d e = false := by
      rw [Bool.eq_false_iff]
      intro hadmitted
      obtain ⟨g, hg, hsource⟩ := hadmits hadmitted
      exact hsource (honce g hg)
    rw [hquiet, releases, hcomplete]
  | issued request handleDigest now hop hadmits hcomplete =>
    rw [hadmits, releases, hcomplete]
    rfl
  | revoked g now hadmits hcomplete =>
    rw [hadmits, releases, hcomplete]
    rfl
  | admitted g hsource hused hfree hadmits hcomplete =>
    rw [hadmits, releases, hcomplete]
    simp [spent, PluginGrant.reserve, hused, hfree]
  | completed g completion hflight hadmits hcomplete =>
    have hused := hok g rfl hflight
    rw [hadmits, releases, hcomplete]
    cases completion <;> simp [spent, PluginGrant.complete, hflight, hused]

/-- A grant that is used stays so. -/
theorem used_move (h : RowMove sha256 d e row row') (hused : row.any (fun g => g.used) = true) :
    row'.any (fun g => g.used) = true := by
  cases h with
  | kept => exact hused
  | issued => cases hused
  | revoked g now => exact hused
  | admitted g => exact hused
  | completed g completion => simpa [PluginGrant.complete] using Or.inl hused

theorem used_of_consumes (h : RowMove sha256 d e row row') (hconsumes : consumes sha256 d e = true) :
    row'.any (fun g => g.used) = true := by
  cases h with
  | kept row hadmits hcomplete => rw [consumes, hcomplete] at hconsumes; cases hconsumes
  | issued request handleDigest now hop hadmits hcomplete => rw [consumes, hcomplete] at hconsumes; cases hconsumes
  | revoked g now hadmits hcomplete => rw [consumes, hcomplete] at hconsumes; cases hconsumes
  | admitted g hsource hused hfree hadmits hcomplete => rw [consumes, hcomplete] at hconsumes; cases hconsumes
  | completed g completion hflight hadmits hcomplete =>
    rw [consumes, hcomplete] at hconsumes
    simp [PluginGrant.complete, show completion ≠ .failureBeforeDispatch by simpa using hconsumes]

end Once

theorem onceOnly_before (trace : List GrantCall) (s : GrantStore) (d : String)
    (honce : OnceOnly ((Run.after (step sha256) s trace).grants.get d)) : OnceOnly (s.grants.get d) := by
  induction trace generalizing s with
  | nil => exact honce
  | cons call trace ih => exact onceOnly_of_move (rowMove_step s call d) (ih (s.step sha256 call) honce)

/-- Over a run the admissions not released are those the grant shows. -/
theorem count_admits (trace : List GrantCall) (s : GrantStore) (d : String) (hok : OnceOk (s.grants.get d))
    (honce : OnceOnly ((Run.after (step sha256) s trace).grants.get d)) :
    (Run.outputs (step sha256) (event sha256) s trace).countP (admits sha256 d) + spent (s.grants.get d) =
      (Run.outputs (step sha256) (event sha256) s trace).countP (releases sha256 d) +
        spent ((Run.after (step sha256) s trace).grants.get d) := by
  induction trace generalizing s with
  | nil => simp [Run.outputs]
  | cons call trace ih =>
    have hmove : RowMove sha256 d (s.event sha256 call) _ _ := rowMove_step s call d
    have hnext := ih (s.step sha256 call) (onceOk_move hmove hok) honce
    have hstep := spent_move hmove hok (onceOnly_before sha256 trace _ d honce)
    simp only [Run.outputs, List.countP_cons, Run.after_cons]
    simp only [Bool.toNat, Bool.cond_eq_ite] at hstep
    omega

/-- A handle whose grant is used is not allowed in what follows. -/
theorem not_allows_of_used (trace : List GrantCall) (s : GrantStore) (d : String)
    (hused : (s.grants.get d).any (fun g => g.used) = true) :
    ∀ e ∈ Run.outputs (step sha256) (event sha256) s trace, allows sha256 d e = false := by
  induction trace generalizing s with
  | nil =>
    intro e he
    cases he
  | cons call trace ih =>
    intro e he
    rcases List.mem_cons.mp he with rfl | he
    · rw [Bool.eq_false_iff]
      intro hallows
      obtain ⟨g, hget, -, -, hfresh⟩ := active_of_allows hallows
      rw [hget, Option.any_some, hfresh] at hused
      cases hused
    · exact ih _ (used_move (rowMove_step s call d) hused) e he

/-- In every run, with any readings of the clock, the calls an `allow once` handle admits exceed the completions that failed
before dispatch by at most one, and after a completion that succeeded or is uncertain the handle is not allowed again. -/
theorem allow_once_admits_once (trace : List GrantCall) (handleId : String)
    (honce : OnceOnly ((Run.after (GrantStore.step sha256) .new trace).grants.get (sha256 handleId))) :
    (GrantStore.events sha256 trace).countP (admits sha256 (sha256 handleId)) ≤
        (GrantStore.events sha256 trace).countP (releases sha256 (sha256 handleId)) + 1 ∧
      ∀ before e rest, GrantStore.events sha256 trace = before ++ e :: rest → consumes sha256 (sha256 handleId) e = true →
        ∀ e' ∈ rest, allows sha256 (sha256 handleId) e' = false := by
  constructor
  · have hcount := count_admits sha256 trace .new (sha256 handleId) (fun g hg => by cases hg) honce
    have hspent : ∀ row, spent row ≤ 1 := by
      intro row
      unfold spent
      split
      · exact Nat.le_refl 1
      · exact Nat.zero_le 1
    have hend := hspent ((Run.after (GrantStore.step sha256) .new trace).grants.get (sha256 handleId))
    rw [GrantStore.events]
    omega
  · intro before e rest hsplit hconsumes
    obtain ⟨t₁, call, t₂, -, -, rfl, rfl⟩ := Run.outputs_eq_append _ hsplit
    exact not_allows_of_used sha256 t₂ _ _ (used_of_consumes (rowMove_step _ call _) hconsumes)

end Digest

/-! ## A sample decision -/

namespace SampleGrant

/-- The digests of the texts that the samples hash. -/
def sha256 (text : String) : String :=
  if text = "\x7b\"maxBytes\":1024,\"operations\":[\"metadata\"]\x7d" then
    "24f71ef62511299d4704a81c0d5f71b9c1d8b7ac66e21896fc86bd26c0d13b1b"
  else if text = "handle.0000000000000000000000000000000000000000000000000000000000000000" then
    "c693f8edd080a9e8e78c4794c4e3b0e6bbfbed93ca3cb293e981b48e0db4884a"
  else if text = "handle.0101010101010101010101010101010101010101010101010101010101010101" then
    "545c81db00706f76dab0762461badd88a2ed620a510d931f6f26efce3d44999c"
  else ""

def workspace : WorkspaceGrantIdentity := ⟨"workspace.1", "kernel.1", 1, 1⟩

theorem project_valid : validateIdentifier "project.a" = none := by decide +kernel
theorem plugin_valid : validateIdentifier "plugin.sample" = none := by decide +kernel

/-- A decision to let a plugin read the metadata of a workspace until a time. -/
def decision (grantSource : GrantSource) (expiresAtMillis : Nat) : GrantRequest where
  durableGrantId := "grant.1"
  normalizedProjectRoot := "/projects/a"
  pluginId := ⟨"plugin.sample", plugin_valid⟩
  runtimeKind := .wasm
  hostInstanceId := "instance.1"
  packageDigest := "digest.1"
  projectId := ⟨"project.a", project_valid⟩
  scopeId := ⟨"project.a", project_valid⟩
  activationGeneration := ⟨1, one_nonzero⟩
  permission := .workspaceRInspect
  constraints := { operations := ["metadata"], maxBytes := some 1024 }
  constraintsDigest := "24f71ef62511299d4704a81c0d5f71b9c1d8b7ac66e21896fc86bd26c0d13b1b"
  grantSource := grantSource
  policyRevision := 1
  workspace := some workspace
  expiresAtMillis := expiresAtMillis

def firstToken : Vector UInt8 32 := Vector.replicate 32 0
def secondToken : Vector UInt8 32 := Vector.replicate 32 1

def firstHandle : String := "handle.0000000000000000000000000000000000000000000000000000000000000000"
def secondHandle : String := "handle.0101010101010101010101010101010101010101010101010101010101010101"

/-- A call of the plugin with one of the handles. -/
def use (handleId : String) : RevalidationRequest where
  handleId := handleId
  pluginId := ⟨"plugin.sample", plugin_valid⟩
  hostInstanceId := "instance.1"
  packageDigest := "digest.1"
  projectId := ⟨"project.a", project_valid⟩
  scopeId := ⟨"project.a", project_valid⟩
  generation := ⟨1, one_nonzero⟩
  permission := .workspaceRInspect
  permissionUse := .workspaceRInspect "metadata" 100
  workspace := some workspace

/-- An `allow once` handle admits a call that fails before dispatch, admits another, refuses a third and is completed. -/
def once : List GrantCall :=
  [⟨0, .grant (decision .allowOnce 1000) firstToken⟩, ⟨1, .revalidate (use firstHandle)⟩,
    ⟨2, .complete firstHandle .failureBeforeDispatch⟩, ⟨3, .revalidate (use firstHandle)⟩, ⟨4, .revalidate (use firstHandle)⟩,
    ⟨5, .complete firstHandle .success⟩]

end SampleGrant

/-- The second admission of the sample follows the release of the first, and the completed handle is spent. -/
theorem allow_once_sample : (GrantStore.events SampleGrant.sha256 SampleGrant.once).countP
        (admits SampleGrant.sha256 (SampleGrant.sha256 SampleGrant.firstHandle)) = 2 ∧
      (GrantStore.events SampleGrant.sha256 SampleGrant.once).countP
        (admits SampleGrant.sha256 (SampleGrant.sha256 SampleGrant.firstHandle)) ≤
        (GrantStore.events SampleGrant.sha256 SampleGrant.once).countP
          (releases SampleGrant.sha256 (SampleGrant.sha256 SampleGrant.firstHandle)) + 1 :=
  ⟨by decide +kernel,
    (allow_once_admits_once SampleGrant.sha256 SampleGrant.once SampleGrant.firstHandle (by decide +kernel)).1⟩

/-! ## One handle for a durable decision -/

section Durable

variable (sha256 : String → String)

/-- Some call of `revalidate` with the handle would be answered with `Allowed`. -/
def Redeemable (s : GrantStore) (now : Nat) (d : String) : Prop :=
  ∃ request : RevalidationRequest, sha256 request.handleId = d ∧ (s.revalidate sha256 request now).1 = .allowed

/-- At most one handle of each durable decision can be redeemed. -/
def OneHandle (s : GrantStore) (now : Nat) : Prop :=
  ∀ d d' g g', s.grants.get d = some g → s.grants.get d' = some g' → g.durableGrantId = g'.durableGrantId →
    Redeemable sha256 s now d → Redeemable sha256 s now d' → d = d'

/-- Before and after every call of the run, at what the clock reads, each decision has at most one handle that can be redeemed;
and once a decision is revoked, no handle that had been issued for it is allowed. -/
def DurableGrantsExclusive (trace : List GrantCall) : Prop :=
  (∀ before call rest, trace = before ++ call :: rest →
    OneHandle sha256 (Run.after (GrantStore.step sha256) .new before) call.now ∧
      OneHandle sha256 (Run.after (GrantStore.step sha256) .new (before ++ [call])) call.now) ∧
  ∀ before now durableGrantId between call rest,
    trace = before ++ ⟨now, .revokeDurableGrant durableGrantId⟩ :: (between ++ call :: rest) →
    ∀ d g, (Run.after (GrantStore.step sha256) .new before).grants.get d = some g → g.durableGrantId = durableGrantId →
      allows sha256 d ((Run.after (GrantStore.step sha256) .new (before ++ ⟨now, .revokeDurableGrant durableGrantId⟩ :: between)).event
        sha256 call) = false

/-- The clock has passed the expiry of every handle that is neither revoked nor used and is no longer the handle of its decision. -/
def ReplacedExpired (s : GrantStore) (now : Nat) : Prop :=
  ∀ d g, s.grants.get d = some g → g.revokedAtMillis = none → g.used = false → s.durableHandles g.durableGrantId ≠ some d →
    g.expiresAtMillis ≤ now

variable {sha256} {s : GrantStore} {d : String}

theorem active_of_redeemable {now : Nat} (h : Redeemable sha256 s now d) :
    ∃ g, s.grants.get d = some g ∧ g.revokedAtMillis = none ∧ now < g.expiresAtMillis ∧ g.used = false := by
  obtain ⟨request, rfl, hallowed⟩ := h
  have hallows : allows sha256 (sha256 request.handleId) (s.event sha256 ⟨now, .revalidate request⟩) = true := by
    simp [event, serve, hallowed, allows]
  exact active_of_allows hallows

/-- A handle that can be redeemed is the handle of its decision. -/
theorem oneHandle_of_replacedExpired {now : Nat} (h : ReplacedExpired s now) : OneHandle sha256 s now := by
  have hcurrent : ∀ d g, s.grants.get d = some g → Redeemable sha256 s now d → s.durableHandles g.durableGrantId = some d := by
    intro d g hget hredeem
    obtain ⟨g', hget', hrevoked, hexpiry, hused⟩ := active_of_redeemable hredeem
    rw [hget] at hget'
    cases hget'
    by_contra hcontra
    exact Nat.not_le_of_lt hexpiry (h d g hget hrevoked hused hcontra)
  intro d d' g g' hget hget' hsame hredeem hredeem'
  have hd := hcurrent d g hget hredeem
  have hd' := hcurrent d' g' hget' hredeem'
  rw [hsame, hd'] at hd
  exact (Option.some.inj hd).symm

/-- A grant changes the handle of its own decision only: the handle before is not active then, and the new one is not in the
store yet. -/
theorem durableHandles_grant (s : GrantStore) (now : Nat) (request : GrantRequest) (token : Vector UInt8 32) (id : String) :
    (s.step sha256 ⟨now, .grant request token⟩).durableHandles id = s.durableHandles id ∨
      (∀ d g, s.durableHandles id = some d → s.grants.get d = some g → g.isActive now = false) ∧
        ∀ d, (s.step sha256 ⟨now, .grant request token⟩).durableHandles id = some d → s.grants.get d = none := by
  simp only [step, serve, grant]
  split
  · exact Or.inl rfl
  · split
    · exact Or.inl rfl
    · rename_i hlive
      by_cases hid : id = request.durableGrantId
      · subst hid
        right
        constructor
        · intro d g hd hget
          simpa [hasLiveDurableGrant, hd, hget] using hlive
        · intro d hd
          split at hd
          · simp [Function.update] at hd
          · rename_i grants hinsert
            simp only [Prod.map, id, Function.update_self, Option.some.injEq] at hd
            rw [← hd]
            exact Table.get_of_insert hinsert
      · left
        split
        · simp [Prod.map, Function.update_of_ne hid]
        · simp [Prod.map, Function.update_of_ne hid]

/-- Every other call leaves the handles of the decisions. -/
theorem durableHandles_step (s : GrantStore) (call : GrantCall) (id : String) :
    (s.step sha256 call).durableHandles id = s.durableHandles id ∨
      (∀ d g, s.durableHandles id = some d → s.grants.get d = some g → g.isActive call.now = false) ∧
        ∀ d, (s.step sha256 call).durableHandles id = some d → s.grants.get d = none := by
  obtain ⟨now, op⟩ := call
  cases op with
  | grant request token => exact durableHandles_grant s now request token id
  | revoke handleId =>
    left
    simp only [step, serve, revoke]
    split <;> rfl
  | revokeDurableGrant durableGrantId =>
    left
    simp only [step, serve, revokeDurableGrant]
    split
    · rfl
    · split <;> rfl
  | revalidate request =>
    left
    simp only [step, serve, revalidate]
    split
    · rfl
    · split
      · rfl
      · split <;> rfl
  | complete handleId completion =>
    left
    simp only [step, serve, complete]
    split
    · rfl
    · split <;> rfl
  | invalidateProject root => exact Or.inl rfl
  | invalidateHost host => exact Or.inl rfl
  | invalidateWorkspace workspace => exact Or.inl rfl
  | revalidateAdmitted request => exact Or.inl rfl
  | hasLiveDurableGrant durableGrantId => exact Or.inl rfl
  | hasLiveHandle handleId => exact Or.inl rfl

/-- A grant that is issued is the one of its decision. -/
theorem durableHandles_of_issued (s : GrantStore) (call : GrantCall) {g : PluginGrant} (hbefore : s.grants.get d = none)
    (hget : (s.step sha256 call).grants.get d = some g) : (s.step sha256 call).durableHandles g.durableGrantId = some d := by
  have hmove : RowMove sha256 d (s.event sha256 call) _ _ := rowMove_step s call d
  have hkey := Table.key_of_get hget
  rw [hbefore, hget] at hmove
  obtain ⟨now, op⟩ := call
  cases hmove with
  | issued request handleDigest created hop =>
    obtain ⟨token, rfl⟩ := hop
    revert hget
    simp only [step, serve, grant]
    split
    · intro hget
      exact absurd (hbefore.symm.trans hget) (by simp)
    · split
      · intro hget
        exact absurd (hbefore.symm.trans hget) (by simp)
      · split
        · intro hget
          exact absurd (hbefore.symm.trans hget) (by simp)
        · rename_i grants hinsert
          intro hget
          simp only [Prod.map, id] at hget ⊢
          rw [Table.get_insert hinsert] at hget
          split at hget
          · rename_i hd
            rw [Function.update_self]
            exact congrArg some hd
          · exact absurd (hbefore.symm.trans hget) (by simp)

/-- What a call leaves of a grant that was there: its decision and its expiry, and that it is revoked or used. -/
theorem row_step (s : GrantStore) (call : GrantCall) {g : PluginGrant} (hget : s.grants.get d = some g) :
    ∃ g', (s.step sha256 call).grants.get d = some g' ∧ g'.durableGrantId = g.durableGrantId ∧
      g'.expiresAtMillis = g.expiresAtMillis ∧ (g'.revokedAtMillis = none → g.revokedAtMillis = none) ∧
      (g'.used = false → g.used = false) := by
  have hmove : RowMove sha256 d (s.event sha256 call) _ _ := rowMove_step s call d
  rw [hget] at hmove
  generalize (s.step sha256 call).grants.get d = row at hmove ⊢
  cases hmove with
  | kept => exact ⟨g, rfl, rfl, rfl, id, id⟩
  | revoked g now => exact ⟨_, rfl, rfl, rfl, nofun, id⟩
  | admitted g => exact ⟨_, rfl, rfl, rfl, id, id⟩
  | completed g completion =>
    refine ⟨_, rfl, rfl, rfl, id, ?_⟩
    intro hused
    exact (Bool.or_eq_false_iff.mp hused).1

/-- Within one reading no handle is replaced before it has expired. -/
theorem replacedExpired_step {call : GrantCall} (h : ReplacedExpired s call.now) :
    ReplacedExpired (s.step sha256 call) call.now := by
  intro d g' hget' hrevoked' hused' hreplaced
  cases hget : s.grants.get d with
  | none => exact absurd (durableHandles_of_issued s call hget hget') hreplaced
  | some g =>
    obtain ⟨g₁, hget₁, hid, hexpires, hrevoked, hused⟩ := row_step s call hget
    rw [hget'] at hget₁
    cases hget₁
    rw [hexpires]
    rw [hid] at hreplaced
    by_cases hcurrent : s.durableHandles g.durableGrantId = some d
    · rcases durableHandles_step s call g.durableGrantId with hsame | ⟨hinactive, -⟩
      · exact absurd (hsame.trans hcurrent) hreplaced
      · have hactive := hinactive d g hcurrent hget
        simpa [PluginGrant.isActive, PluginGrant.consumed, hrevoked hrevoked', hused hused'] using hactive
    · exact h d g hget (hrevoked hrevoked') (hused hused') hcurrent

/-- The handle has been issued and is revoked, used or no longer the handle of its decision. -/
def Retired (d : String) (s : GrantStore) : Prop :=
  ∃ g, s.grants.get d = some g ∧ (g.revokedAtMillis = none → g.used = false → s.durableHandles g.durableGrantId ≠ some d)

theorem retired_step (s : GrantStore) (call : GrantCall) (h : Retired d s) : Retired d (s.step sha256 call) := by
  obtain ⟨g, hget, hretired⟩ := h
  obtain ⟨g', hget', hid, -, hrevoked, hused⟩ := row_step s call hget
  refine ⟨g', hget', ?_⟩
  intro hrevoked' hused'
  have hreplaced := hretired (hrevoked hrevoked') (hused hused')
  rw [hid]
  rcases durableHandles_step s call g.durableGrantId with hsame | ⟨-, hfresh⟩
  · rw [hsame]
    exact hreplaced
  · intro hd
    rw [hfresh d hd] at hget
    cases hget

/-- Revoking a decision retires every handle issued for it. -/
theorem retired_of_revoke (s : GrantStore) (now : Nat) {g : PluginGrant} (hget : s.grants.get d = some g) :
    Retired d (s.step sha256 ⟨now, .revokeDurableGrant g.durableGrantId⟩) := by
  by_cases hcurrent : s.durableHandles g.durableGrantId = some d
  · refine ⟨g.revokeAt now, ?_, nofun⟩
    simp only [step, serve, revokeDurableGrant, hcurrent, hget, Prod.map, id]
    rw [get_edit, if_pos rfl, hget]
    rfl
  · exact retired_step s _ ⟨g, hget, fun _ _ => hcurrent⟩

theorem not_allows_of_retired {call : GrantCall} (hretired : Retired d s) (hclock : ReplacedExpired s call.now) :
    allows sha256 d (s.event sha256 call) = false := by
  rw [Bool.eq_false_iff]
  intro hallows
  obtain ⟨g, hget, hreplaced⟩ := hretired
  obtain ⟨g', hget', hrevoked, hexpiry, hused⟩ := active_of_allows hallows
  rw [hget] at hget'
  cases hget'
  exact Nat.not_le_of_lt hexpiry (hclock d g hget hrevoked hused (hreplaced hrevoked hused))

variable (sha256)

/-- When the clock never reads less than the expiry of a handle that was replaced, every decision has one handle that can be
redeemed, and revoking the decision ends the handles issued for it. -/
theorem durable_grants_exclusive (trace : List GrantCall)
    (hclock : Run.Along (GrantStore.step sha256) (fun s call => ReplacedExpired s call.now) .new trace) :
    DurableGrantsExclusive sha256 trace := by
  constructor
  · intro before call rest hsplit
    have hbefore := Run.along_iff.mp hclock before call rest hsplit
    refine ⟨oneHandle_of_replacedExpired hbefore, ?_⟩
    rw [Run.after_append]
    exact oneHandle_of_replacedExpired (replacedExpired_step hbefore)
  · intro before now durableGrantId between call rest hsplit d g hget hid
    have hread := Run.along_iff.mp hclock (before ++ ⟨now, .revokeDurableGrant durableGrantId⟩ :: between) call rest
      (by rw [hsplit, List.append_assoc, List.cons_append])
    refine not_allows_of_retired ?_ hread
    rw [Run.after_append, Run.after_cons]
    refine Run.invariant (I := Retired d) (fun s call h => retired_step s call h) between ?_
    subst hid
    exact retired_of_revoke _ now hget

theorem replacedExpired_new (now : Nat) : ReplacedExpired .new now := by
  intro d g hget
  cases hget

/-- Readings in order meet the condition. -/
theorem replacedExpired_of_ordered (trace : List GrantCall) (s : GrantStore) (start : Nat) (hs : ReplacedExpired s start)
    (hordered : (start :: trace.map GrantCall.now).Pairwise (· ≤ ·)) :
    Run.Along (step sha256) (fun s call => ReplacedExpired s call.now) s trace := by
  induction trace generalizing s start with
  | nil => trivial
  | cons call trace ih =>
    obtain ⟨hstart, hrest⟩ := List.pairwise_cons.mp hordered
    have hnow : ReplacedExpired s call.now := by
      intro d g hget hrevoked hused hreplaced
      exact Nat.le_trans (hs d g hget hrevoked hused hreplaced) (hstart call.now List.mem_cons_self)
    exact ⟨hnow, ih _ call.now (replacedExpired_step hnow) hrest⟩

end Durable

namespace SampleGrant

/-- A handle expires, the decision gets another, and the decision is revoked before either is used. -/
def replaced : List GrantCall :=
  [⟨0, .grant (decision .project 1000) firstToken⟩, ⟨2000, .grant (decision .project 3000) secondToken⟩,
    ⟨2500, .revokeDurableGrant "grant.1"⟩, ⟨2501, .revalidate (use firstHandle)⟩]

/-- The same calls with a clock that is set back after the second grant. -/
def setBack : List GrantCall :=
  [⟨0, .grant (decision .project 1000) firstToken⟩, ⟨2000, .grant (decision .project 3000) secondToken⟩,
    ⟨500, .revokeDurableGrant "grant.1"⟩, ⟨501, .revalidate (use firstHandle)⟩]

end SampleGrant

theorem durable_grants_exclusive_replaced : DurableGrantsExclusive SampleGrant.sha256 SampleGrant.replaced :=
  durable_grants_exclusive SampleGrant.sha256 SampleGrant.replaced
    (replacedExpired_of_ordered SampleGrant.sha256 SampleGrant.replaced .new 0 (replacedExpired_new 0) (by decide))

/-- With the clock set back both handles can be redeemed, and the first one is allowed after the decision is revoked. -/
theorem durable_grants_overlap_when_set_back : ¬ DurableGrantsExclusive SampleGrant.sha256 SampleGrant.setBack ∧
      allows SampleGrant.sha256 (SampleGrant.sha256 SampleGrant.firstHandle)
        ((Run.after (GrantStore.step SampleGrant.sha256) .new (SampleGrant.setBack.take 3)).event SampleGrant.sha256
          ⟨501, .revalidate (SampleGrant.use SampleGrant.firstHandle)⟩) = true := by
  have hfirst : (((Run.after (GrantStore.step SampleGrant.sha256) .new (SampleGrant.setBack.take 2)).grants.get
      (SampleGrant.sha256 SampleGrant.firstHandle)).map (·.durableGrantId)) = some "grant.1" := by decide +kernel
  have hsecond : (((Run.after (GrantStore.step SampleGrant.sha256) .new (SampleGrant.setBack.take 2)).grants.get
      (SampleGrant.sha256 SampleGrant.secondHandle)).map (·.durableGrantId)) = some "grant.1" := by decide +kernel
  have hboth : ¬ OneHandle SampleGrant.sha256
      (Run.after (GrantStore.step SampleGrant.sha256) .new (SampleGrant.setBack.take 2)) 500 := by
    intro hone
    obtain ⟨g, hg, hid⟩ := Option.map_eq_some_iff.mp hfirst
    obtain ⟨g', hg', hid'⟩ := Option.map_eq_some_iff.mp hsecond
    have heq := hone _ _ g g' hg hg' (hid.trans hid'.symm)
      ⟨SampleGrant.use SampleGrant.firstHandle, rfl, by decide +kernel⟩
      ⟨SampleGrant.use SampleGrant.secondHandle, rfl, by decide +kernel⟩
    exact absurd heq (by decide +kernel)
  refine ⟨?_, by decide +kernel⟩
  intro h
  exact hboth (h.1 (SampleGrant.setBack.take 2) ⟨500, .revokeDurableGrant "grant.1"⟩ _ rfl).1

end Rho
