import Rho.Lemmas.Package
import Rho.Server.PluginWorkspace

/-!
# References to workspace objects

What a plugin is told of an object, it is told under a reference that was issued for the project and the workspace of the call, and of
an object that is described as the one referred to; nothing but a bounded projection of the response comes out. An invalidation ends
references only in part: a prepared inspection is finished without a look at the registry, and `invalidate_workspace` compares the
count of executions too, which no check does.
-/

namespace Rho

open Json Fallible

/-! ## Bounds of a preview -/

/-- A value is found in another one, so many levels down. -/
inductive Inside : Nat → Json → Json → Prop
  | self (v : Json) : Inside 0 v v
  | element {n : Nat} {values : List Json} {v w : Json} (hv : v ∈ values) (hw : Inside n v w) : Inside (n + 1) (.arr values) w
  | field {n : Nat} {fields : List (String × Json)} {key : String} {v w : Json} (hv : (key, v) ∈ fields) (hw : Inside n v w) :
      Inside (n + 1) (.obj fields) w

/-- An array has the rows, an object the columns that a preview may have. -/
def WithinRows : Json → Prop
  | .arr values => values.length ≤ maxWorkspacePreviewRows
  | .obj fields => fields.length ≤ maxWorkspacePreviewColumns
  | _ => True

theorem validatePreviewList_mem {depth : Nat} {values : List Json} (h : validatePreviewList depth values = .ok ()) :
    ∀ v ∈ values, validatePreview depth v = .ok () := by
  induction values with
  | nil => exact nofun
  | cons value values ih =>
    rw [validatePreviewList] at h
    split at h
    · cases h
    rename_i hvalue
    intro v hv
    rcases List.mem_cons.mp hv with rfl | hv
    · exact hvalue
    · exact ih h v hv

theorem validatePreviewFields_mem {depth : Nat} {fields : List (String × Json)} (h : validatePreviewFields depth fields = .ok ()) :
    ∀ f ∈ fields, validatePreview depth f.2 = .ok () := by
  induction fields with
  | nil => exact nofun
  | cons field fields ih =>
    obtain ⟨key, value⟩ := field
    rw [validatePreviewFields] at h
    split at h
    · cases h
    split at h
    · cases h
    rename_i hvalue
    intro f hf
    rcases List.mem_cons.mp hf with rfl | hf
    · exact hvalue
    · exact ih h f hf

/-- What is inside of a validated preview is within the bounds. -/
theorem within_of_validatePreview {n : Nat} {v w : Json} (hinside : Inside n v w) :
    ∀ {depth : Nat}, validatePreview depth v = .ok () → depth + n ≤ maxWorkspacePreviewDepth ∧ WithinRows w := by
  induction hinside with
  | self v =>
    intro depth h
    unfold validatePreview at h
    split at h
    · cases h
    rename_i hdepth
    refine ⟨by omega, ?_⟩
    cases v with
    | arr values =>
      simp only at h
      split at h
      · cases h
      · rename_i hrows
        exact Nat.not_lt.mp hrows
    | obj fields =>
      simp only at h
      split at h
      · cases h
      · rename_i hcolumns
        exact Nat.not_lt.mp hcolumns
    | _ => exact trivial
  | @element n values v w hv hw ih =>
    intro depth h
    unfold validatePreview at h
    split at h
    · cases h
    simp only at h
    split at h
    · cases h
    obtain ⟨hdepth, hrows⟩ := ih (validatePreviewList_mem h v hv)
    exact ⟨by omega, hrows⟩
  | @field n fields key v w hv hw ih =>
    intro depth h
    unfold validatePreview at h
    split at h
    · cases h
    simp only at h
    split at h
    · cases h
    obtain ⟨hdepth, hrows⟩ := ih (validatePreviewFields_mem h _ hv)
    exact ⟨by omega, hrows⟩

/-! ## The projection -/

open WorkspaceObjectReferenceRegistry

/-- Projected fields have a listed key and the value that the execution has for it. -/
def Projected (execution : Json) (keys : List String) (fields : List (String × Json)) : Prop :=
  ∀ f ∈ fields, f.1 ∈ keys ∧ execution.get f.1 = some f.2

theorem projected_project {execution : Json} {allowed : List String} (keys : List String) (hkeys : ∀ key ∈ keys, key ∈ allowed) :
    ∀ {fields : List (String × Json)}, Projected execution allowed fields →
      Projected execution allowed (project execution keys fields) := by
  induction keys with
  | nil => exact fun h => h
  | cons key keys ih =>
    intro fields h
    rw [project, List.foldl_cons]
    refine ih (fun k hk => hkeys k (List.mem_cons_of_mem _ hk)) ?_
    cases hget : execution.get key with
    | none => exact h
    | some value =>
      intro f hf
      rcases OrdMap.mem_insert hf with rfl | hf
      · exact ⟨hkeys key List.mem_cons_self, hget⟩
      · exact h f hf

theorem validatePreviews_mem {execution : Json} {keys : List String} (h : validatePreviews execution keys = .ok ()) :
    ∀ key ∈ keys, ∀ value, execution.get key = some value → validatePreview 0 value = .ok () := by
  induction keys with
  | nil => exact nofun
  | cons key keys ih =>
    rw [validatePreviews] at h
    intro k hk value hvalue
    rcases List.mem_cons.mp hk with rfl | hk
    · rw [hvalue] at h
      simp only at h
      split at h
      · cases h
      · assumption
    · split at h
      · exact ih h k hk value hvalue
      · split at h
        · cases h
        · exact ih h k hk value hvalue

/-- The keys that an operation may project. -/
def WorkspaceInspectOperation.keys : WorkspaceInspectOperation → List String
  | .metadata => projectedKeys
  | .preview => projectedKeys ++ previewKeys

def WorkspaceInspectOperation.maxBytes : WorkspaceInspectOperation → Nat
  | .metadata => maxWorkspaceMetadataBytes
  | .preview => maxWorkspacePreviewBytes

/-- The value is a projection of the execution within the bounds of the operation. -/
structure BoundedProjection (operation : WorkspaceInspectOperation) (execution value : Json) : Prop where
  bytes : value.toText.utf8ByteSize ≤ operation.maxBytes
  projected : ∃ fields, value = .obj fields ∧ Projected execution operation.keys fields ∧
    ∀ f ∈ fields, f.1 ∈ previewKeys → ∀ n w, Inside n f.2 w → n ≤ maxWorkspacePreviewDepth ∧ WithinRows w

/-! ## Descriptors -/

namespace ObjectDescriptor

theorem exact_identity (d : ObjectDescriptor) : Exact d.identity := by
  have hclasses : ExactList (d.classes.map .str) := by
    refine exactList_of_forall fun v hv => ?_
    obtain ⟨cls, -, rfl⟩ := List.mem_map.mp hv
    simp [Exact]
  simp [identity, Exact, ExactFields, hclasses]

theorem nesting_identity (d : ObjectDescriptor) : nesting d.identity ≤ 2 := by
  have hclasses : nestingList (d.classes.map .str) ≤ 0 := by
    refine nestingList_le fun v hv => ?_
    obtain ⟨cls, -, rfl⟩ := List.mem_map.mp hv
    simp [nesting]
  simp only [identity, nesting, nestingFields]
  omega

theorem identity_inj {d d' : ObjectDescriptor} (h : d.identity = d'.identity) : d = d' := by
  have htexts : Function.Injective (List.map Json.str) := List.map_injective_iff.mpr fun _ _ heq => Json.str.inj heq
  obtain ⟨name, classes, objectType, previewKind⟩ := d
  obtain ⟨name', classes', objectType', previewKind'⟩ := d'
  simp only [identity, Json.obj.injEq, List.cons.injEq, Prod.mk.injEq, Json.str.injEq, Json.arr.injEq, true_and, and_true] at h
  obtain ⟨hclasses, hname, hkind, htype⟩ := h
  rw [htexts hclasses, hname, hkind, htype]

/-- Descriptors with one digest are one, unless their texts collide. -/
theorem eq_of_digest {sha256 : List UInt8 → Vector UInt8 32} {d d' : ObjectDescriptor} (h : d.digest sha256 = d'.digest sha256) :
    d = d' ∨ Collide sha256 (bytesOf d.identity.toText) (bytesOf d'.identity.toText) := by
  by_cases heq : d = d'
  · exact .inl heq
  · refine .inr ⟨fun hbytes => heq (identity_inj ?_), Vector.toList_inj.mp (hexEncode_inj h)⟩
    refine toText_inj d.exact_identity d'.exact_identity ?_ ?_ (bytesOf_injective hbytes)
    · exact d.nesting_identity.trans (by decide)
    · exact d'.nesting_identity.trans (by decide)

end ObjectDescriptor

/-! ## Runs -/

section Runs

variable (sha256 : List UInt8 → Vector UInt8 32)

/-- A reference as it was issued. -/
structure WorkspaceReference where
  view : WorkspaceObjectReferenceView
  projectRoot : String
  workspace : WorkspaceIdentity
  deriving DecidableEq

/-- What the reference says of its object. -/
def WorkspaceReference.descriptor (r : WorkspaceReference) : ObjectDescriptor :=
  ⟨r.view.name, r.view.classes, r.view.objectType, r.view.previewKind⟩

def WorkspaceObjectReferenceRecord.reference (record : WorkspaceObjectReferenceRecord) : WorkspaceReference :=
  ⟨record.view, record.projectRoot, record.workspace⟩

/-- The registry, the inspections it has handed out, the references that were issued, and those of them that are live: no
invalidation of their project or of their workspace came after. -/
structure ReferenceWorld where
  registry : WorkspaceObjectReferenceRegistry := []
  handedOut : List PreparedWorkspaceInspection := []
  issued : List WorkspaceReference := []
  live : List WorkspaceReference := []

inductive ReferenceOp where
  | issue (context : WorkspaceInspectionContext) (sources : ReferenceSources) (snapshotResponse : Json)
  | prepare (context : WorkspaceInspectionContext) (request : WorkspaceInspectRequest)
  | finish (context : WorkspaceInspectionContext) (prepared : PreparedWorkspaceInspection) (response : Json)
  | invalidateProject (projectRoot : String)
  | invalidateWorkspace (workspace : WorkspaceIdentity)
  | list (context : WorkspaceInspectionContext)

namespace ReferenceWorld

def step (s : ReferenceWorld) : ReferenceOp → ReferenceWorld
  | .issue context sources snapshotResponse =>
    match s.registry.issueFromSnapshot sha256 context sources snapshotResponse with
    | (.ok views, registry) =>
      let references := views.map (fun view => ⟨view, context.projectRoot, context.workspace⟩)
      { s with registry := registry, issued := s.issued ++ references, live := s.live ++ references }
    | (.error _, registry) => { s with registry := registry }
  | .prepare context request =>
    match s.registry.prepare context request with
    | .ok prepared => { s with handedOut := s.handedOut ++ [prepared] }
    | .error _ => s
  | .finish _ _ _ | .list _ => s
  | .invalidateProject projectRoot => { s with
      registry := (s.registry.invalidateProject projectRoot).2
      live := s.live.filter (fun r => decide (r.projectRoot ≠ projectRoot)) }
  | .invalidateWorkspace workspace => { s with
      registry := (s.registry.invalidateWorkspace workspace).2
      live := s.live.filter (fun r => !sameWorkspaceLineage r.workspace workspace) }

/-- The inspection was prepared by the registry, whatever has become of its public fields. -/
def HandedOut (s : ReferenceWorld) (prepared : PreparedWorkspaceInspection) : Prop :=
  ∃ p ∈ s.handedOut, p.record = prepared.record ∧ p.operation = prepared.operation

instance (s : ReferenceWorld) (prepared : PreparedWorkspaceInspection) : Decidable (s.HandedOut prepared) :=
  inferInstanceAs (Decidable (∃ p ∈ s.handedOut, _))

/-- The reference was issued for the project and the workspace of the call. -/
def IssuedFor (context : WorkspaceInspectionContext) (r : WorkspaceReference) : Prop :=
  r.projectRoot = context.projectRoot ∧ sameWorkspaceLineage r.workspace context.workspace = true

/-- A call succeeds only for one of the references, with the described object and a bounded projection, and an issue that fails
changes nothing. -/
def LawfulFor (references : ReferenceWorld → List WorkspaceReference) (s : ReferenceWorld) : ReferenceOp → Prop
  | .issue context sources snapshotResponse =>
    ∀ e, (s.registry.issueFromSnapshot sha256 context sources snapshotResponse).1 = .error e →
      step sha256 s (.issue context sources snapshotResponse) = s
  | .prepare context request =>
    ∀ prepared, s.registry.prepare context request = .ok prepared →
      ∃ r ∈ references s, r.view.referenceId = request.objectReference ∧ IssuedFor context r
  | .finish context prepared response =>
    s.HandedOut prepared → ∀ value, finish sha256 context prepared response = .ok value →
      ∃ r ∈ references s, r.view.referenceId = prepared.referenceId ∧ IssuedFor context r ∧
        (∃ workspace, decodeWorkspace response = .ok workspace ∧ sameWorkspaceLineage workspace r.workspace = true) ∧
        (∃ d, decodeObjectDescriptor (executionOf response) = .ok d ∧
          (d = r.descriptor ∨ Collide sha256 (bytesOf d.identity.toText) (bytesOf r.descriptor.identity.toText))) ∧
        BoundedProjection prepared.operation (executionOf response) value
  | _ => True

/-- An invalidation of a workspace finds no reference to it that was issued at another count of executions, and an inspection is
finished while its reference is in the registry. -/
def Covered (s : ReferenceWorld) : ReferenceOp → Prop
  | .invalidateWorkspace workspace =>
    ∀ e ∈ s.registry, sameWorkspaceLineage e.2.workspace workspace = true → e.2.workspace = workspace
  | .finish _ prepared _ => s.HandedOut prepared → prepared.record ∈ s.registry.map (·.2)
  | _ => True

instance (s : ReferenceWorld) : (op : ReferenceOp) → Decidable (s.Covered op)
  | .invalidateWorkspace _ => inferInstanceAs (Decidable (∀ e ∈ s.registry, _ → _))
  | .finish _ _ _ => inferInstanceAs (Decidable (_ → _))
  | .issue _ _ _ | .prepare _ _ | .invalidateProject _ | .list _ => inferInstanceAs (Decidable True)

/-! ## What is in the registry -/

variable {sha256} {s : ReferenceWorld}

/-- A record holds the digest of what it says of its object. -/
def Described (sha256 : List UInt8 → Vector UInt8 32) (record : WorkspaceObjectReferenceRecord) : Prop :=
  record.objectIdentityDigest = record.reference.descriptor.digest sha256

/-- What is in the registry, and what was handed out, are records of references under their ids. -/
structure Kept (sha256 : List UInt8 → Vector UInt8 32) (s : ReferenceWorld) : Prop where
  registered : ∀ e ∈ s.registry, e.1 = e.2.view.referenceId ∧ Described sha256 e.2 ∧ e.2.reference ∈ s.issued
  handedOut : ∀ p ∈ s.handedOut, Described sha256 p.record ∧ p.record.reference ∈ s.issued

/-- What is staged for a snapshot. -/
def StagedFor (sha256 : List UInt8 → Vector UInt8 32) (context : WorkspaceInspectionContext)
    (e : String × WorkspaceObjectReferenceRecord) : Prop :=
  e.1 = e.2.view.referenceId ∧ Described sha256 e.2 ∧ e.2.projectRoot = context.projectRoot ∧ e.2.workspace = context.workspace

variable {registry : WorkspaceObjectReferenceRegistry} {context : WorkspaceInspectionContext} {sources : ReferenceSources}
  {staged : WorkspaceObjectReferenceRegistry} {prepared : PreparedWorkspaceInspection}

theorem stagedFor_stage (decoded : List ObjectDescriptor) :
    ∀ {staged result : WorkspaceObjectReferenceRegistry}, (∀ e ∈ staged, StagedFor sha256 context e) →
      stage sha256 registry context sources staged decoded = .ok result → ∀ e ∈ result, StagedFor sha256 context e := by
  induction decoded with
  | nil =>
    intro staged result hstaged h
    cases h
    exact hstaged
  | cons d decoded ih =>
    intro staged result hstaged h
    rw [stage] at h
    simp only at h
    split at h
    · cases h
    · refine ih ?_ h
      intro e he
      rcases List.mem_append.mp he with he | he
      · exact hstaged e he
      · rw [List.mem_singleton.mp he]
        exact ⟨rfl, rfl, rfl, rfl⟩

theorem stagedFor_stageSnapshot {snapshotResponse : Json}
    (h : registry.stageSnapshot sha256 context sources snapshotResponse = .ok staged) :
    ∀ e ∈ staged, StagedFor sha256 context e := by
  unfold stageSnapshot at h
  obtain ⟨⟨⟩, -, h⟩ := bind_eq_ok h
  obtain ⟨workspace, -, h⟩ := bind_eq_ok h
  split at h
  · cases h
  split at h
  · cases h
  split at h
  · cases h
  obtain ⟨decoded, -, h⟩ := bind_eq_ok h
  simp only at h
  split at h
  · cases h
  · have hnone : ∀ e ∈ ([] : WorkspaceObjectReferenceRegistry), StagedFor sha256 context e := nofun
    exact stagedFor_stage _ hnone h

/-- What staged records add to a registry. -/
theorem mem_foldl_insert {e : String × WorkspaceObjectReferenceRecord} : ∀ {registry : WorkspaceObjectReferenceRegistry},
      e ∈ staged.foldl (fun registry e => OrdMap.insert e.1 e.2 registry) registry → e ∈ registry ∨ e ∈ staged := by
  induction staged with
  | nil => exact fun h => .inl h
  | cons a staged ih =>
    intro registry h
    rw [List.foldl_cons] at h
    rcases ih h with h | h
    · rcases OrdMap.mem_insert h with rfl | h
      · exact .inr List.mem_cons_self
      · exact .inl h
    · exact .inr (List.mem_cons_of_mem _ h)

/-- An issue either changes nothing or adds the references of what it has staged. -/
theorem step_issue (s : ReferenceWorld) (context : WorkspaceInspectionContext) (sources : ReferenceSources) (snapshotResponse : Json) :
    ((∃ e, (s.registry.issueFromSnapshot sha256 context sources snapshotResponse).1 = .error e) ∧
      step sha256 s (.issue context sources snapshotResponse) = s) ∨
    ∃ staged : WorkspaceObjectReferenceRegistry, (∀ e ∈ staged, StagedFor sha256 context e) ∧
      (s.registry.issueFromSnapshot sha256 context sources snapshotResponse).1 = .ok (staged.map (·.2.view)) ∧
      step sha256 s (.issue context sources snapshotResponse) = { s with
        registry := staged.foldl (fun registry e => OrdMap.insert e.1 e.2 registry) s.registry
        issued := s.issued ++ staged.map (·.2.reference)
        live := s.live ++ staged.map (·.2.reference) } := by
  cases hstaged : s.registry.stageSnapshot sha256 context sources snapshotResponse with
  | error e =>
    have hissue : s.registry.issueFromSnapshot sha256 context sources snapshotResponse = (.error e, s.registry) := by
      rw [issueFromSnapshot, hstaged]
    exact .inl ⟨⟨e, by rw [hissue]⟩, by simp only [step, hissue]⟩
  | ok staged =>
    have hissue : s.registry.issueFromSnapshot sha256 context sources snapshotResponse =
        (.ok (staged.map (·.2.view)), staged.foldl (fun registry e => OrdMap.insert e.1 e.2 registry) s.registry) := by
      rw [issueFromSnapshot, hstaged]
    have hfor := stagedFor_stageSnapshot hstaged
    have hreferences : (staged.map (·.2.view)).map (fun view => (⟨view, context.projectRoot, context.workspace⟩ : WorkspaceReference)) =
        staged.map (·.2.reference) := by
      rw [List.map_map]
      refine List.map_congr_left fun e he => ?_
      obtain ⟨-, -, hproject, hworkspace⟩ := hfor e he
      change WorkspaceReference.mk e.2.view context.projectRoot context.workspace = ⟨e.2.view, e.2.projectRoot, e.2.workspace⟩
      rw [hproject, hworkspace]
    exact .inr ⟨staged, hfor, by rw [hissue], by simp only [step, hissue, hreferences]⟩

/-- What is prepared is a record of the registry for the context. -/
theorem prepare_ok {request : WorkspaceInspectRequest} (h : registry.prepare context request = .ok prepared) :
    (request.objectReference, prepared.record) ∈ registry ∧ IssuedFor context prepared.record.reference := by
  unfold prepare at h
  obtain ⟨⟨⟩, -, h⟩ := bind_eq_ok h
  split at h
  · cases h
  rename_i record hget
  split at h
  · cases h
  rename_i hchecked
  cases h
  simp only [not_or, ne_eq, not_not, Bool.not_eq_false] at hchecked
  exact ⟨OrdMap.mem_of_get hget, hchecked⟩

theorem kept_step (op : ReferenceOp) (h : Kept sha256 s) : Kept sha256 (step sha256 s op) := by
  cases op with
  | issue context sources snapshotResponse =>
    rcases @step_issue sha256 s context sources snapshotResponse with ⟨-, hstep⟩ | ⟨staged, hstaged, -, hstep⟩
    · rw [hstep]
      exact h
    · rw [hstep]
      refine ⟨?_, fun p hp => ⟨(h.handedOut p hp).1, List.mem_append_left _ (h.handedOut p hp).2⟩⟩
      intro e he
      rcases mem_foldl_insert he with he | he
      · obtain ⟨hid, hdescribed, hissued⟩ := h.registered e he
        exact ⟨hid, hdescribed, List.mem_append_left _ hissued⟩
      · obtain ⟨hid, hdescribed, -⟩ := hstaged e he
        exact ⟨hid, hdescribed, List.mem_append_right _ (List.mem_map_of_mem he)⟩
  | prepare context request =>
    unfold step
    simp only
    split
    · rename_i prepared hprepared
      obtain ⟨hmem, -⟩ := prepare_ok hprepared
      refine ⟨h.registered, ?_⟩
      intro p hp
      rcases List.mem_append.mp hp with hp | hp
      · exact h.handedOut p hp
      · rw [List.mem_singleton.mp hp]
        exact (h.registered _ hmem).2
    · exact h
  | finish | list => exact h
  | invalidateProject | invalidateWorkspace =>
    exact ⟨fun e he => h.registered e (List.mem_filter.mp he).1, h.handedOut⟩

/-! ## Successful calls -/

theorem sameWorkspaceLineage_trans {a b c : WorkspaceIdentity} (hab : sameWorkspaceLineage a b = true)
    (hcb : sameWorkspaceLineage c b = true) : sameWorkspaceLineage a c = true := by
  simp only [sameWorkspaceLineage, Bool.and_eq_true, decide_eq_true_eq] at hab hcb ⊢
  obtain ⟨⟨⟨hab1, hab2⟩, hab3⟩, hab4⟩ := hab
  obtain ⟨⟨⟨hcb1, hcb2⟩, hcb3⟩, hcb4⟩ := hcb
  exact ⟨⟨⟨hab1.trans hcb1.symm, hab2.trans hcb2.symm⟩, hab3.trans hcb3.symm⟩, hab4.trans hcb4.symm⟩

/-- What a successful finish has checked, and what it returns. -/
theorem finish_ok {response value : Json} (h : finish sha256 context prepared response = .ok value) :
    prepared.record.view.referenceId = prepared.referenceId ∧ IssuedFor context prepared.record.reference ∧
      (∃ workspace, decodeWorkspace response = .ok workspace ∧ sameWorkspaceLineage workspace prepared.record.workspace = true) ∧
      (∃ d, decodeObjectDescriptor (executionOf response) = .ok d ∧ d.digest sha256 = prepared.record.objectIdentityDigest) ∧
      BoundedProjection prepared.operation (executionOf response) value := by
  unfold finish at h
  obtain ⟨⟨⟩, -, h⟩ := bind_eq_ok h
  split at h
  · cases h
  rename_i hidentity
  simp only [not_or, ne_eq, not_not, Bool.not_eq_false] at hidentity
  obtain ⟨hproject, hlineage, hid⟩ := hidentity
  obtain ⟨workspace, hworkspace, h⟩ := bind_eq_ok h
  split at h
  · cases h
  rename_i hcurrent
  simp only at h
  obtain ⟨d, hd, h⟩ := bind_eq_ok h
  split at h
  · cases h
  rename_i hdigest
  have hcurrent' : sameWorkspaceLineage workspace context.workspace = true := by simpa using hcurrent
  refine ⟨hid.symm, ⟨hproject, hlineage⟩, ⟨workspace, hworkspace, sameWorkspaceLineage_trans hcurrent' hlineage⟩,
    ⟨d, hd, not_not.mp hdigest⟩, ?_⟩
  have hnone : Projected (executionOf response) projectedKeys [] := nofun
  cases hoperation : prepared.operation with
  | metadata =>
    simp only [hoperation] at h
    split at h
    · cases h
    rename_i hbytes
    cases h
    have hprojected := projected_project projectedKeys (fun _ hk => hk) hnone
    refine ⟨Nat.not_lt.mp hbytes, _, rfl, hprojected, ?_⟩
    intro f hf hpreview
    have hkey := (hprojected f hf).1
    simp only [projectedKeys, previewKeys, List.mem_cons, List.not_mem_nil, or_false] at hkey hpreview
    rcases hpreview with hpreview | hpreview <;> simp [hpreview] at hkey
  | preview =>
    simp only [hoperation] at h
    obtain ⟨⟨⟩, hpreviews, h⟩ := bind_eq_ok h
    split at h
    · cases h
    rename_i hbytes
    cases h
    have hnone' : Projected (executionOf response) (projectedKeys ++ previewKeys) [] := nofun
    have hprojected := projected_project previewKeys (fun _ hk => List.mem_append_right _ hk)
      (projected_project projectedKeys (fun _ hk => List.mem_append_left _ hk) hnone')
    refine ⟨Nat.not_lt.mp hbytes, _, rfl, hprojected, ?_⟩
    intro f hf hpreview n w hinside
    have hvalid := validatePreviews_mem hpreviews f.1 hpreview f.2 (hprojected f hf).2
    simpa using within_of_validatePreview hinside hvalid

/-- The calls are lawful for references that have those of the registry, and those of the inspections that are finished. -/
theorem lawfulFor_of_mem {references : ReferenceWorld → List WorkspaceReference} {op : ReferenceOp} (hkept : Kept sha256 s)
    (hregistry : ∀ e ∈ s.registry, e.2.reference ∈ references s)
    (hfinish : ∀ context prepared response, op = .finish context prepared response → s.HandedOut prepared →
      prepared.record.reference ∈ references s) : LawfulFor sha256 references s op := by
  cases op with
  | issue context sources snapshotResponse =>
    intro e he
    rcases @step_issue sha256 s context sources snapshotResponse with ⟨-, hstep⟩ | ⟨staged, -, hok, -⟩
    · exact hstep
    · rw [hok] at he
      cases he
  | prepare context request =>
    intro prepared h
    obtain ⟨hmem, hfor⟩ := prepare_ok h
    exact ⟨_, hregistry _ hmem, (hkept.registered _ hmem).1.symm, hfor⟩
  | finish context prepared response =>
    intro hout value h
    obtain ⟨hid, hfor, hworkspace, ⟨d, hd, hdigest⟩, hbounded⟩ := finish_ok h
    refine ⟨_, hfinish context prepared response rfl hout, hid, hfor, hworkspace, ⟨d, hd, ?_⟩, hbounded⟩
    obtain ⟨p, hp, hrecord, -⟩ := hout
    have hdescribed := (hkept.handedOut p hp).1
    rw [hrecord] at hdescribed
    exact ObjectDescriptor.eq_of_digest (hdigest.trans hdescribed)
  | invalidateProject | invalidateWorkspace | list => exact trivial

theorem kept_start : Kept sha256 {} := ⟨fun _ hmem => (nomatch hmem), fun _ hmem => (nomatch hmem)⟩

/-! ## Live references -/

/-- Every reference of the registry is live. -/
def RegistryLive (s : ReferenceWorld) : Prop := ∀ e ∈ s.registry, e.2.reference ∈ s.live

theorem registryLive_step (op : ReferenceOp) (h : RegistryLive s) (hcovered : s.Covered op) : RegistryLive (step sha256 s op) := by
  cases op with
  | issue context sources snapshotResponse =>
    rcases @step_issue sha256 s context sources snapshotResponse with ⟨-, hstep⟩ | ⟨staged, -, -, hstep⟩
    · rw [hstep]
      exact h
    · rw [hstep]
      intro e he
      rcases mem_foldl_insert he with he | he
      · exact List.mem_append_left _ (h e he)
      · exact List.mem_append_right _ (List.mem_map_of_mem he)
  | prepare context request =>
    unfold step
    simp only
    split
    · exact h
    · exact h
  | finish | list => exact h
  | invalidateProject projectRoot =>
    intro e he
    obtain ⟨hmem, hkeep⟩ := List.mem_filter.mp he
    exact List.mem_filter.mpr ⟨h e hmem, hkeep⟩
  | invalidateWorkspace workspace =>
    intro e he
    obtain ⟨hmem, hkeep⟩ := List.mem_filter.mp he
    refine List.mem_filter.mpr ⟨h e hmem, ?_⟩
    cases hlineage : sameWorkspaceLineage e.2.workspace workspace with
    | false => simp [WorkspaceObjectReferenceRecord.reference, hlineage]
    | true => exact absurd (hcovered e hmem hlineage) (of_decide_eq_true hkeep)

/-- As long as invalidations of workspaces cover what the registry has of them, and inspections are finished while their references
are registered, a call succeeds only for a live reference. -/
theorem references_lawful (sha256 : List UInt8 → Vector UInt8 32) (ops : List ReferenceOp)
    (h : Run.Along (step sha256) Covered {} ops) : Run.Along (step sha256) (LawfulFor sha256 (·.live)) {} ops := by
  refine Run.along_of_invariant (I := fun s => Kept sha256 s ∧ RegistryLive s) ?_ ?_ ⟨kept_start, nofun⟩ h
  · intro s op hs hcovered
    exact ⟨kept_step op hs.1, registryLive_step op hs.2 hcovered⟩
  · intro s op hs hcovered
    refine lawfulFor_of_mem hs.1 hs.2 ?_
    rintro context prepared response rfl hout
    obtain ⟨e, he, hrecord⟩ := List.mem_map.mp (hcovered hout)
    rw [← hrecord]
    exact hs.2 e he

end ReferenceWorld

end Runs

/-! ## A finish after the invalidation -/

namespace SampleReferences

def workspace (executionSeq : Nat) : WorkspaceIdentity := ⟨"workspace.a", "kernel.a", executionSeq, 2, 3⟩

def context : WorkspaceInspectionContext := ⟨"D:/project/a", workspace 1⟩

def workspaceJson : Json :=
  .obj [("execution_seq", .int 1), ("kernel_instance_id", .str "kernel.a"), ("project_revision", .int 3), ("state_revision", .int 2),
    ("workspace_id", .str "workspace.a")]

def object : List (String × Json) :=
  [("classes", .arr [.str "data.frame"]), ("name", .str "qc"), ("preview_kind", .str "tabular"), ("typeof", .str "list")]

def snapshotResponse : Json := .obj [("execution", .obj [("objects", .arr [.obj object])]), ("workspace", workspaceJson)]

def response : Json := .obj [("execution", .obj object), ("workspace", workspaceJson)]

/-- The digest of the object's descriptor. -/
def hash : Vector UInt8 32 :=
  #v[0x65, 0x42, 0xa3, 0xb5, 0x24, 0xcd, 0x87, 0x30, 0x43, 0x4d, 0x6f, 0x05, 0x4e, 0x7d, 0x7b, 0xce,
    0xf3, 0x76, 0x94, 0x6f, 0x94, 0xb1, 0x5d, 0xd0, 0x22, 0x34, 0xb0, 0x05, 0xc3, 0x5a, 0x87, 0xf3]

def sha256 (_ : List UInt8) : Vector UInt8 32 := hash

def sources : ReferenceSources := ⟨fun _ => Vector.replicate 16 7, fun _ => 123⟩

def referenceId : String := "object.07070707070707070707070707070707"

def record : WorkspaceObjectReferenceRecord where
  view := ⟨referenceId, "qc", ["data.frame"], "list", "tabular", 123⟩
  projectRoot := "D:/project/a"
  workspace := workspace 1
  objectIdentityDigest := hexEncode hash.toList

def prepared : PreparedWorkspaceInspection where
  referenceId := referenceId
  requestType := "workspace.inspect_object"
  arguments := .obj [("name", .str "qc")]
  expectedWorkspace := ⟨some "kernel.a", some 2, some 3⟩
  operation := .metadata
  record := record

/-- The inspection is prepared, and finished. -/
def before : List ReferenceOp := [.issue context sources snapshotResponse, .prepare context ⟨referenceId, .metadata⟩]

end SampleReferences

open SampleReferences in
theorem references_lawful_sample : Run.Along (ReferenceWorld.step sha256) (ReferenceWorld.LawfulFor sha256 (·.live)) {}
    (before ++ [.finish context prepared response, .invalidateWorkspace (workspace 1)]) :=
  ReferenceWorld.references_lawful sha256 _ (by decide +kernel)

open SampleReferences in
/-- The project is invalidated between the two halves of an inspection, and the second half returns a value. -/
theorem finished_after_invalidation : ¬ ∀ ops : List ReferenceOp,
    Run.Along (ReferenceWorld.step sha256) (ReferenceWorld.LawfulFor sha256 (·.live)) {} ops := by
  intro h
  have hall := Run.along_iff.mp (h (before ++ [.invalidateProject "D:/project/a", .finish context prepared response]))
    (before ++ [.invalidateProject "D:/project/a"]) (.finish context prepared response) [] rfl
  obtain ⟨r, hr, -⟩ := hall (by decide +kernel) (.obj object) (by decide +kernel)
  have hlive : (Run.after (ReferenceWorld.step sha256) {} (before ++ [.invalidateProject "D:/project/a"])).live = [] := by
    decide +kernel
  simp only [hlive] at hr
  exact absurd hr List.not_mem_nil

end Rho
