import Rho.Lib.RelativePath
import Rho.Theorems.Grant

/-!
# What a revalidation compares

A call is allowed exactly when everything that the grant says of it holds: the grant stands, the call is the one that it was issued
for, and its constraints admit the use. A refused grant leaves the store, unless it forgets a handle that is dead and then draws a
token that was used before.
-/

namespace Rho

open RelativePath

/-! ## The use that constraints admit -/

/-- The constraints of a permission admit a use of it. -/
inductive Admits (c : PermissionConstraints) : PermissionKind → PermissionUse → Prop
  | file {relativePath : String} {requestedBytes maximum : Nat} (hnormal : ∃ names, Normal relativePath.toList names)
      (hback : '\\' ∉ relativePath.toList) (hcolon : ':' ∉ relativePath.toList)
      (hpattern : ∃ pattern ∈ c.paths, globMatches pattern relativePath = true) (hmaximum : c.maxBytes = some maximum)
      (hbytes : requestedBytes ≤ maximum) : Admits c .projectFsRead (.projectFsRead relativePath requestedBytes)
  | object {operation : String} {requestedBytes maximum : Nat} (hoperation : operation ∈ c.operations)
      (hmaximum : c.maxBytes = some maximum) (hbytes : requestedBytes ≤ maximum) :
      Admits c .workspaceRInspect (.workspaceRInspect operation requestedBytes)
  | fetch {scheme host method : String} {requestedResponseBytes maximum : Nat} (hscheme : scheme ∈ c.schemes)
      (hhost : ∃ allowed ∈ c.hosts, hostMatches allowed.toList host.toList = true) (hmethod : method ∈ c.methods)
      (hmaximum : c.maxResponseBytes = some maximum) (hbytes : requestedResponseBytes ≤ maximum) :
      Admits c .networkFetch (.networkFetch scheme host method requestedResponseBytes)

/-- Where there is no backslash, the segments are those between slashes. -/
theorem pathSegments_eq_splitOn {path : List Char} (hback : '\\' ∉ path) : pathSegments path = path.splitOn '/' := by
  induction path with
  | nil => rfl
  | cons c path ih =>
    obtain ⟨hc, hback⟩ := not_or.mp fun h => hback (List.mem_cons.mpr h)
    obtain ⟨first, rest, hsplit⟩ := List.exists_cons_of_ne_nil (List.splitOn_ne_nil '/' path)
    rw [pathSegments, List.splitOn_cons_eq_if_modifyHead, ih hback, hsplit, List.modifyHead_cons]
    by_cases hslash : c = '/'
    · rw [if_pos (Or.inl hslash), if_pos (beq_iff_eq.mpr hslash)]
    · rw [if_neg (not_or.mpr ⟨hslash, fun h => hc h.symm⟩), if_neg (fun h => hslash (beq_iff_eq.mp h))]

theorem validRelativePath_iff (path : String) : validRelativePath path = true ↔
      (∃ names, Normal path.toList names) ∧ '\\' ∉ path.toList ∧ ':' ∉ path.toList := by
  constructor
  · intro h
    simp only [validRelativePath, validRelativePattern, Bool.and_eq_true, Bool.not_eq_true', List.contains_eq_mem,
      decide_eq_false_iff_not, List.any_eq_false, Bool.or_eq_true, List.isEmpty_iff, beq_iff_eq, not_or] at h
    obtain ⟨⟨⟨⟨-, hcolon⟩, hparent⟩, hback⟩, hproper⟩ := h
    rw [pathSegments_eq_splitOn hback] at hproper hparent
    refine ⟨normal_iff_splitOn.mpr ?_, hback, hcolon⟩
    intro name hname
    obtain ⟨hempty, hdot⟩ := hproper name hname
    exact ⟨hempty, hdot, fun h => hparent (h ▸ hname)⟩
  · rintro ⟨⟨names, hnormal⟩, hback, hcolon⟩
    have hproper := normal_iff_splitOn.mp ⟨names, hnormal⟩
    rw [← pathSegments_eq_splitOn hback] at hproper
    have hhead : path.toList.head? ≠ some '\\' := fun h => hback (List.mem_of_head? h)
    simp only [validRelativePath, validRelativePattern, Bool.and_eq_true, Bool.not_eq_true', List.contains_eq_mem,
      decide_eq_false_iff_not, List.any_eq_false, Bool.or_eq_true, List.isEmpty_iff, beq_iff_eq, not_or, bne_iff_ne]
    refine ⟨⟨⟨⟨⟨⟨?_, hnormal.relative⟩, hhead⟩, hcolon⟩, fun h => (hproper _ h).2.2 rfl⟩, hback⟩, ?_⟩
    · rw [← Bool.not_eq_true, String.isEmpty_iff]
      rintro rfl
      exact hnormal.ne_nil rfl
    · intro name hname
      exact ⟨(hproper name hname).1, (hproper name hname).2.1⟩

theorem any_le_iff {bound : Option Nat} {n : Nat} :
    bound.any (fun maximum => decide (n ≤ maximum)) = true ↔ ∃ maximum, bound = some maximum ∧ n ≤ maximum := by
  cases bound with
  | none => simp
  | some maximum => simp

theorem permissionUseAllowed_iff (permission : PermissionKind) (c : PermissionConstraints) (use : PermissionUse) :
    permissionUseAllowed permission c use = true ↔ Admits c permission use := by
  constructor
  · intro h
    cases permission with
    | projectFsRead =>
      cases use with
      | projectFsRead relativePath requestedBytes =>
        simp only [permissionUseAllowed, Bool.and_eq_true, validRelativePath_iff, List.any_eq_true, any_le_iff] at h
        obtain ⟨⟨⟨hnormal, hback, hcolon⟩, hpattern⟩, maximum, hmaximum, hbytes⟩ := h
        exact .file hnormal hback hcolon hpattern hmaximum hbytes
      | workspaceRInspect => cases h
      | networkFetch => cases h
    | workspaceRInspect =>
      cases use with
      | workspaceRInspect operation requestedBytes =>
        simp only [permissionUseAllowed, Bool.and_eq_true, List.contains_eq_mem, decide_eq_true_iff, any_le_iff] at h
        obtain ⟨hoperation, maximum, hmaximum, hbytes⟩ := h
        exact .object hoperation hmaximum hbytes
      | projectFsRead => cases h
      | networkFetch => cases h
    | networkFetch =>
      cases use with
      | networkFetch scheme host method requestedResponseBytes =>
        simp only [permissionUseAllowed, Bool.and_eq_true, List.contains_eq_mem, decide_eq_true_iff, List.any_eq_true, any_le_iff] at h
        obtain ⟨⟨⟨hscheme, hhost⟩, hmethod⟩, maximum, hmaximum, hbytes⟩ := h
        exact .fetch hscheme hhost hmethod hmaximum hbytes
      | projectFsRead => cases h
      | workspaceRInspect => cases h
  · intro h
    cases h with
    | file hnormal hback hcolon hpattern hmaximum hbytes =>
      simp only [permissionUseAllowed, Bool.and_eq_true, validRelativePath_iff, List.any_eq_true, any_le_iff]
      exact ⟨⟨⟨hnormal, hback, hcolon⟩, hpattern⟩, _, hmaximum, hbytes⟩
    | object hoperation hmaximum hbytes =>
      simp only [permissionUseAllowed, Bool.and_eq_true, List.contains_eq_mem, decide_eq_true_iff, any_le_iff]
      exact ⟨hoperation, _, hmaximum, hbytes⟩
    | fetch hscheme hhost hmethod hmaximum hbytes =>
      simp only [permissionUseAllowed, Bool.and_eq_true, List.contains_eq_mem, decide_eq_true_iff, List.any_eq_true, any_le_iff]
      exact ⟨⟨⟨hscheme, hhost⟩, hmethod⟩, _, hmaximum, hbytes⟩

/-! ## The call that a grant was issued for -/

/-- The call is made by whom, where and for what the grant was issued. -/
structure IssuedFor (g : PluginGrant) (request : RevalidationRequest) : Prop where
  pluginId : g.pluginId = request.pluginId
  hostInstanceId : g.hostInstanceId = request.hostInstanceId
  projectId : g.projectId = request.projectId
  scopeId : g.scopeId = request.scopeId
  generation : g.activationGeneration = request.generation
  packageDigest : g.packageDigest = request.packageDigest
  permission : g.permission = request.permission
  workspace : g.workspace = request.workspace

/-- Nothing speaks against a call when the grant stands and neither its identity nor its constraints are against it. -/
theorem revalidationError_eq_none_iff (g : PluginGrant) (request : RevalidationRequest) (now : Nat) :
    revalidationError g request now false = none ↔
      g.revokedAtMillis = none ∧ now < g.expiresAtMillis ∧ g.used = false ∧ g.inFlight = false ∧ IssuedFor g request ∧
        Admits g.constraints g.permission request.permissionUse := by
  rw [← permissionUseAllowed_iff]
  constructor
  · intro h
    obtain ⟨hrevoked, hexpiry, hused, hfree⟩ := revalidationError_none h
    have hfree := hfree rfl
    unfold revalidationError at h
    rw [hrevoked, hused, hfree, if_neg (Nat.not_le_of_lt hexpiry)] at h
    simp only [Option.isSome_none, Bool.false_eq_true, if_false, Bool.false_and, Bool.and_false] at h
    split at h
    · cases h
    split at h
    · cases h
    split at h
    · cases h
    split at h
    · cases h
    split at h
    · cases h
    split at h
    · cases h
    split at h
    · cases h
    split at h
    · cases h
    split at h
    · cases h
    rename_i hplugin hhost hproject hscope hgeneration hdigest hpermission hworkspace hallowed
    exact ⟨hrevoked, hexpiry, hused, hfree,
      ⟨not_not.mp hplugin, not_not.mp hhost, not_not.mp hproject, not_not.mp hscope, not_not.mp hgeneration, not_not.mp hdigest,
        not_not.mp hpermission, not_not.mp hworkspace⟩, by simpa using hallowed⟩
  · rintro ⟨hrevoked, hexpiry, hused, hfree, hissued, hallowed⟩
    unfold revalidationError
    rw [hrevoked, hused, hfree, if_neg (Nat.not_le_of_lt hexpiry), hissued.pluginId, hissued.hostInstanceId, hissued.projectId,
      hissued.scopeId, hissued.generation, hissued.packageDigest, hissued.workspace, hallowed]
    simp [hissued.permission]

section Digest

variable (sha256 : String → String)

/-- A revalidation is allowed exactly for a grant that stands and was issued for the call, a file is then read by a normal relative
path that matches a granted pattern, and no other grant is touched. -/
theorem revalidate_allowed_iff (s : GrantStore) (request : RevalidationRequest) (now : Nat) :
    ((s.revalidate sha256 request now).1 = .allowed ↔
      ∃ g, s.grants.get (sha256 request.handleId) = some g ∧ g.revokedAtMillis = none ∧ now < g.expiresAtMillis ∧ g.used = false ∧
        g.inFlight = false ∧ IssuedFor g request ∧ Admits g.constraints g.permission request.permissionUse) ∧
    (∀ relativePath requestedBytes, request.permissionUse = .projectFsRead relativePath requestedBytes →
      (s.revalidate sha256 request now).1 = .allowed →
        ∃ g, s.grants.get (sha256 request.handleId) = some g ∧ relativePath.toList.head? ≠ some '/' ∧
          (∃ names, Normal relativePath.toList names ∧ ['.', '.'] ∉ names) ∧
          ∃ pattern ∈ g.constraints.paths, globMatches pattern relativePath = true) ∧
    ∀ d, d ≠ sha256 request.handleId → (s.revalidate sha256 request now).2.grants.get d = s.grants.get d := by
  have hallowed : (s.revalidate sha256 request now).1 = .allowed ↔
      ∃ g, s.grants.get (sha256 request.handleId) = some g ∧ g.revokedAtMillis = none ∧ now < g.expiresAtMillis ∧ g.used = false ∧
        g.inFlight = false ∧ IssuedFor g request ∧ Admits g.constraints g.permission request.permissionUse := by
    unfold GrantStore.revalidate
    cases hget : s.grants.get (sha256 request.handleId) with
    | none => simp
    | some g =>
      simp only [Option.some.injEq, exists_eq_left']
      rw [← revalidationError_eq_none_iff]
      cases revalidationError g request now false with
      | none =>
        dsimp only
        split
        · exact iff_of_true rfl rfl
        · exact iff_of_true rfl rfl
      | some error => exact iff_of_false (fun h => by cases h) (fun h => by cases h)
  refine ⟨hallowed, ?_, ?_⟩
  · intro relativePath requestedBytes huse h
    obtain ⟨g, hget, -, -, -, -, -, hadmits⟩ := hallowed.mp h
    rw [huse] at hadmits
    generalize g.permission = permission at hadmits
    cases hadmits with
    | file hnormal hback hcolon hpattern =>
      obtain ⟨names, hnormal⟩ := hnormal
      exact ⟨g, hget, hnormal.relative, ⟨names, hnormal, fun h => (hnormal.proper _ h).2.2.1 rfl⟩, hpattern⟩
  · intro d hd
    unfold GrantStore.revalidate
    split
    · rfl
    · split
      · rfl
      · split
        · rw [get_edit, if_neg hd]
        · rfl

/-! ## A grant that is refused -/

/-- The handle that a token makes has been issued before. -/
def TokenCollides (s : GrantStore) (token : Vector UInt8 32) : Prop :=
  ∃ g, s.grants.get (sha256 ("handle." ++ hexEncode token.toList)) = some g

/-- The request passes every check that is made before a token is drawn. -/
def Grantable (s : GrantStore) (request : GrantRequest) (now : Nat) : Prop :=
  validateConstraints request.permission request.constraints = .ok () ∧ validateGrantRequest sha256 request = .ok () ∧
    checkGrantExpiry request now = .ok () ∧ s.hasLiveDurableGrant request.durableGrantId now = false

/-- A grant that is refused leaves the store exactly when it does not forget a dead handle of its decision before a token collides. -/
theorem refused_grant_keeps_iff (s : GrantStore) (request : GrantRequest) (now : Nat) (token : Vector UInt8 32) :
    (∀ reason, (s.grant sha256 request now token).1 = .error reason → (s.grant sha256 request now token).2 = s) ↔
      (Grantable sha256 s request now → TokenCollides sha256 s token → s.durableHandles request.durableGrantId = none) := by
  have hsame : Function.update s.durableHandles request.durableGrantId none = s.durableHandles ↔
      s.durableHandles request.durableGrantId = none :=
    ⟨fun h => by rw [← h, Function.update_self], fun h => by rw [← h, Function.update_eq_self]⟩
  unfold GrantStore.grant Grantable
  cases hconstraints : validateConstraints request.permission request.constraints with
  | error reason => exact iff_of_true (fun _ _ => rfl) (fun h => by cases h.1)
  | ok =>
    cases hrequest : validateGrantRequest sha256 request with
    | error reason => exact iff_of_true (fun _ _ => rfl) (fun h => by cases h.2.1)
    | ok =>
      cases hexpiry : checkGrantExpiry request now with
      | error reason => exact iff_of_true (fun _ _ => rfl) (fun h => by cases h.2.2.1)
      | ok =>
        cases hlive : s.hasLiveDurableGrant request.durableGrantId now with
        | true => exact iff_of_true (fun _ _ => rfl) (fun h => by cases h.2.2.2)
        | false =>
          simp only [bind, Except.bind, Bool.false_eq_true, if_false]
          split
          · next hinsert =>
            have hcollides : TokenCollides sha256 s token := Table.insert_eq_none_iff.mp hinsert
            constructor
            · intro h _ _
              exact hsame.mp (congrArg GrantStore.durableHandles (h _ rfl))
            · intro h _ _
              rw [hsame.mpr (h ⟨trivial, trivial, trivial, trivial⟩ hcollides)]
          · next grants hinsert =>
            refine iff_of_true nofun fun _ hcollides => ?_
            obtain ⟨g, hget⟩ := hcollides
            cases (Table.get_of_insert hinsert).symm.trans hget

/-- A handle expires, and the next one for its decision is drawn with the same token: the decision has no handle any more. -/
theorem colliding_token_forgets_handle :
    let s := Run.after (GrantStore.step SampleGrant.sha256) .new
      [⟨0, .grant (SampleGrant.decision .project 1000) SampleGrant.firstToken⟩]
    (s.grant SampleGrant.sha256 (SampleGrant.decision .project 3000) 2000 SampleGrant.firstToken).1 =
        .error "handle token source produced a duplicate token" ∧
      (s.grant SampleGrant.sha256 (SampleGrant.decision .project 3000) 2000 SampleGrant.firstToken).2 ≠ s := by
  have hbefore : (Run.after (GrantStore.step SampleGrant.sha256) .new
      [⟨0, .grant (SampleGrant.decision .project 1000) SampleGrant.firstToken⟩]).durableHandles "grant.1" ≠ none := by
    decide +kernel
  refine ⟨by decide +kernel, fun h => hbefore ?_⟩
  rw [← h]
  decide +kernel

end Digest

end Rho
