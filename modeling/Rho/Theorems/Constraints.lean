import Rho.Extension.Manifest
import Rho.Store.PluginPermission

/-!
# Constraints of permissions, from the manifest and from the store

Three checks of one grammar: of the manifest on a permission it asks for, of the store on the text of constraints, and of the live
grant on decoded constraints. What the first or the second accepts, the third accepts; and the text that the store keeps is the
text that the grant is compared by.
-/

namespace Rho

open Fallible PluginPermission Json

namespace ConstraintsAux

/-! ## Paths and hosts -/

/-- A character of a path that is no separator is in one of its components. -/
theorem mem_pathSegments {c : Char} (hslash : c ≠ '/') (hback : c ≠ '\\') {path : List Char} (h : c ∈ path) :
    ∃ component ∈ pathSegments path, c ∈ component := by
  induction path with
  | nil => cases h
  | cons d path ih =>
    unfold pathSegments
    split
    · next hsep =>
      rcases List.mem_cons.mp h with rfl | h
      · rcases hsep with hsep | hsep
        · exact absurd hsep hslash
        · exact absurd hsep hback
      · obtain ⟨component, hmem, hc⟩ := ih h
        exact ⟨component, List.mem_cons_of_mem _ hmem, hc⟩
    · split
      · next first rest hrest =>
        rcases List.mem_cons.mp h with rfl | h
        · exact ⟨c :: first, List.mem_cons_self, List.mem_cons_self⟩
        · obtain ⟨component, hmem, hc⟩ := ih h
          rw [hrest] at hmem
          rcases List.mem_cons.mp hmem with rfl | hmem
          · exact ⟨d :: component, List.mem_cons_self, List.mem_cons_of_mem _ hc⟩
          · exact ⟨component, List.mem_cons_of_mem _ hmem, hc⟩
      · next hnone =>
        rcases List.mem_cons.mp h with rfl | h
        · exact ⟨[c], List.mem_cons_self, List.mem_cons_self⟩
        · obtain ⟨component, hmem, -⟩ := ih h
          rw [hnone] at hmem
          cases hmem

variable {path : String} {u : Unit} {texts : List String} {constraints : Json} {key : String} {n : Nat}
  {fields : List (String × Json)}

/-- What a path must be for the live grant. -/
theorem validRelativePattern_of (hempty : path.isEmpty = false) (hslash : path.toList.head? ≠ some '/')
    (hback : path.toList.head? ≠ some '\\') (hcolon : ':' ∉ path.toList) (hparent : ['.', '.'] ∉ pathSegments path.toList) :
    validRelativePattern path = true := by
  unfold validRelativePattern
  simp [hempty, hslash, hback, hcolon, hparent]

theorem validRelativePattern_of_manifest (h : validateRelativePath path = .ok u) : validRelativePattern path = true := by
  unfold validateRelativePath at h
  obtain ⟨_, hempty, h⟩ := bind_eq_ok h
  obtain ⟨_, -, h⟩ := bind_eq_ok h
  obtain ⟨_, habsolute, h⟩ := bind_eq_ok h
  obtain ⟨_, -, h⟩ := bind_eq_ok h
  have hcomponents : ∀ component ∈ pathSegments path.toList, component ≠ ['.', '.'] ∧ ':' ∉ component := by
    intro component hmem
    have hcomponent := forM_mem _ h component hmem
    unfold validateComponent at hcomponent
    obtain ⟨_, -, hcomponent⟩ := bind_eq_ok hcomponent
    obtain ⟨_, hparent, hcolon⟩ := bind_eq_ok hcomponent
    exact ⟨by simpa using ensureManifest_ok hparent, by simpa using ensureManifest_ok hcolon⟩
  have hseparators : path.toList.head? ≠ some '/' ∧ path.toList.head? ≠ some '\\' := by
    simpa using ensureManifest_ok habsolute
  refine validRelativePattern_of (by simpa using ensureManifest_ok hempty) hseparators.1 hseparators.2 ?_ ?_
  · intro hmem
    obtain ⟨component, hcomponent, hcolon⟩ := mem_pathSegments (by decide) (by decide) hmem
    exact (hcomponents component hcomponent).2 hcolon
  · exact fun hmem => (hcomponents _ hmem).1 rfl

theorem validRelativePattern_of_store (hempty : path.isEmpty = false) (h : constraintPathAllowed path = true) :
    validRelativePattern path = true := by
  unfold constraintPathAllowed at h
  simp only [Bool.and_eq_true, bne_iff_ne, ne_eq, Bool.not_eq_true', List.any_eq_false, List.contains_eq_mem,
    decide_eq_false_iff_not] at h
  obtain ⟨⟨⟨⟨⟨hslash, hback⟩, hcolon⟩, -⟩, -⟩, hcomponents⟩ := h
  refine validRelativePattern_of hempty hslash hback hcolon ?_
  intro hmem
  exact hcomponents _ hmem rfl

theorem validHostPattern_of_manifest {host : String} (h : validateHostPattern host = .ok u) :
    validHostPattern host.toList = true := by
  have hholds := ensureManifest_ok h
  simp only [Bool.not_eq_true', Bool.or_eq_false_iff, Bool.not_eq_false'] at hholds
  obtain ⟨⟨⟨⟨⟨⟨⟨hempty, hdot⟩, hfirst⟩, hlast⟩, hstar⟩, -⟩, -⟩, hchars⟩ := hholds
  unfold validHostPattern
  simp only [hempty, hdot, hstar, hchars, bne, hfirst, hlast]
  rfl

/-! ## From the manifest -/

theorem fromManifest_ok {p : PermissionRequest} (permission : PermissionKind) (hname : PermissionKind.parse p.name = some permission)
    (hvalid : validateConstraints permission
      { paths := p.paths
        operations := p.operations
        schemes := p.schemes
        hosts := p.hosts
        methods := p.methods
        maxBytes := p.maxBytes
        maxResponseBytes := p.maxResponseBytes } = .ok ()) : ∃ c, PermissionConstraints.fromManifest p = .ok c := by
  unfold PermissionConstraints.fromManifest
  rw [hname]
  simp only [hvalid]
  exact ⟨_, rfl⟩

theorem positive_of_bound {value : Option Nat} {name : String} (h : validatePositiveBound value name = .ok u) :
    value.any (fun value => decide (0 < value)) = true := by
  have hbound := ensureManifest_ok h
  cases value with
  | none => cases hbound
  | some value => exact (Bool.and_eq_true_iff.mp hbound).1

theorem fromManifest_of_valid (p : PermissionRequest) (h : validatePermissionRequest p = .ok ()) :
    ∃ c, PermissionConstraints.fromManifest p = .ok c := by
  unfold validatePermissionRequest at h
  obtain ⟨_, -, h⟩ := bind_eq_ok h
  obtain ⟨_, -, h⟩ := bind_eq_ok h
  split at h
  · next hname =>
    obtain ⟨_, hshape, h⟩ := bind_eq_ok h
    obtain ⟨_, hpaths, hbound⟩ := bind_eq_ok h
    have hpatterns : p.paths.all validRelativePattern = true :=
      List.all_eq_true.mpr fun path hmem => validRelativePattern_of_manifest (forM_mem _ hpaths path hmem)
    have hshape := ensureManifest_ok hshape
    simp only [Bool.and_eq_true] at hshape
    obtain ⟨⟨⟨⟨⟨hsome, hoperations⟩, hschemes⟩, hhosts⟩, hmethods⟩, hresponse⟩ := hshape
    refine fromManifest_ok .projectFsRead (by rw [hname]; rfl) ?_
    simp [validateConstraints, hsome, hoperations, hschemes, hhosts, hmethods, hresponse, positive_of_bound hbound, hpatterns]
  · split at h
    · next hname =>
      obtain ⟨_, hshape, h⟩ := bind_eq_ok h
      obtain ⟨_, -, hbound⟩ := bind_eq_ok h
      have hshape := ensureManifest_ok hshape
      simp only [Bool.and_eq_true] at hshape
      obtain ⟨⟨⟨⟨⟨hsome, hpaths⟩, hschemes⟩, hhosts⟩, hmethods⟩, hresponse⟩ := hshape
      refine fromManifest_ok .workspaceRInspect (by rw [hname]; rfl) ?_
      simp [validateConstraints, hsome, hpaths, hschemes, hhosts, hmethods, hresponse, positive_of_bound hbound]
    · split at h
      · next hname =>
        obtain ⟨_, hshape, h⟩ := bind_eq_ok h
        obtain ⟨_, hhttps, h⟩ := bind_eq_ok h
        obtain ⟨_, hhosts, h⟩ := bind_eq_ok h
        obtain ⟨_, hverbs, hbound⟩ := bind_eq_ok h
        have hpatterns : p.hosts.all (fun host => validHostPattern host.toList) = true :=
          List.all_eq_true.mpr fun host hmem => validHostPattern_of_manifest (forM_mem _ hhosts host hmem)
        have hshape := ensureManifest_ok hshape
        simp only [Bool.and_eq_true] at hshape
        obtain ⟨⟨⟨⟨⟨hschemes, hsome⟩, hmethods⟩, hpaths⟩, hoperations⟩, hbytes⟩ := hshape
        refine fromManifest_ok .networkFetch (by rw [hname]; rfl) ?_
        simp [validateConstraints, hschemes, hsome, hmethods, hpaths, hoperations, hbytes, positive_of_bound hbound, hpatterns,
          ensureManifest_ok hhttps, ensureManifest_ok hverbs]
      · cases h

/-! ## The text in the store -/

theorem mapM_asStr {values : List Json} (h : values.mapM asStr = some texts) : values = texts.map str := by
  induction values generalizing texts with
  | nil =>
    cases h
    rfl
  | cons v values ih =>
    rw [List.mapM_cons] at h
    obtain ⟨text, htext, h⟩ := Option.bind_eq_some_iff.mp h
    obtain ⟨rest, hrest, h⟩ := Option.bind_eq_some_iff.mp h
    cases h
    cases v with
    | str s =>
      cases htext
      rw [List.map_cons, ih hrest]
    | _ => cases htext

theorem readTexts_texts (texts : List String) : readTexts (some (.arr (texts.map str))) = some texts := by
  change (texts.map str).mapM asStr = some texts
  induction texts with
  | nil => rfl
  | cons text texts ih =>
    rw [List.map_cons, List.mapM_cons, ih]
    rfl

/-- A list of texts in the store. -/
theorem stringArray_some (h : stringArray constraints key = some texts) :
    constraints.get key = some (.arr (texts.map str)) ∧ texts.isEmpty = false ∧ ∀ text ∈ texts, text.isEmpty = false := by
  unfold stringArray at h
  obtain ⟨values, hvalues, h⟩ := Option.bind_eq_some_iff.mp h
  obtain ⟨found, hfound, h⟩ := Option.bind_eq_some_iff.mp h
  split at h
  · cases h
  · next hbounds =>
    cases h
    obtain ⟨v, hget, harray⟩ := Option.bind_eq_some_iff.mp hvalues
    cases v with
    | arr l =>
      cases harray
      rw [mapM_asStr hfound] at hget
      simp only [Bool.or_eq_true, not_or, List.any_eq_true, not_exists, not_and, Bool.not_eq_true] at hbounds
      exact ⟨hget, hbounds.1.1, fun text hmem => (hbounds.2 text hmem).1⟩
    | _ => cases harray

/-- A bound in the store. -/
theorem positiveBound_int (h : positiveBound constraints key = true) :
    ∃ n : Nat, constraints.get key = some (.int n) ∧ 0 < n ∧ n < 2 ^ 64 := by
  unfold positiveBound at h
  obtain ⟨n, hn, hbound⟩ := (Option.any_eq_true _ _).mp h
  obtain ⟨v, hget, hu64⟩ := Option.bind_eq_some_iff.mp hn
  cases v with
  | int z =>
    simp only [asU64] at hu64
    split at hu64
    · next hrange =>
      cases hu64
      refine ⟨z.toNat, ?_, ?_, ?_⟩
      · rw [hget, Int.toNat_of_nonneg hrange.1]
      · exact of_decide_eq_true (Bool.and_eq_true_iff.mp hbound).1
      · omega
    · cases hu64
  | _ => cases hu64

theorem u64_int (h : n < 2 ^ 64) : Serde.optional Serde.u64 (some (.int n)) = some (some n) := by
  have hrange : (0 : Int) ≤ n ∧ (n : Int) < 2 ^ 64 := by omega
  simp only [Serde.optional, Serde.u64, asU64, if_pos hrange, Option.map_some, Int.toNat_natCast]

theorem exact_texts (texts : List String) : Json.Exact (.arr (texts.map str)) := by
  induction texts with
  | nil => trivial
  | cons text texts ih => exact ⟨trivial, ih⟩

theorem nesting_texts (texts : List String) : nestingList (texts.map str) = 0 := by
  induction texts with
  | nil => rfl
  | cons text texts ih =>
    rw [List.map_cons, nestingList, ih]
    rfl

/-- What the shape of an object says: the constraints that are read from it pass, and are written as the same object. -/
def Shaped (permission : PermissionKind) (value : Json) : Prop :=
  ∃ c, PermissionConstraints.read value = some c ∧ validateConstraints permission c = .ok () ∧ c.canonicalJson = value.toText ∧
    Json.Exact value ∧ Json.nesting value ≤ Json.maxNesting

theorem inRange_nat (h : n < 2 ^ 64) : Json.InRange n := by
  constructor <;> omega

theorem shaped_fs {paths : List String} (hpositive : 0 < n) (hrange : n < 2 ^ 64) (hsome : paths.isEmpty = false)
    (htexts : ∀ path ∈ paths, path.isEmpty = false) (hallowed : paths.all constraintPathAllowed = true) :
    Shaped .projectFsRead (.obj [("maxBytes", .int n), ("paths", .arr (paths.map str))]) := by
  refine ⟨{ paths := paths, maxBytes := some n }, ?_, ?_, ?_, ?_, ?_⟩
  · have hfields : Serde.fields false ["paths", "operations", "schemes", "hosts", "methods", "maxBytes", "maxResponseBytes"]
        (.obj [("maxBytes", .int n), ("paths", .arr (paths.map str))]) =
        some [some (.arr (paths.map str)), none, none, none, none, some (.int n), none] := rfl
    unfold PermissionConstraints.read
    rw [hfields]
    simp only [readTexts_texts, u64_int hrange]
    rfl
  · have hpatterns : paths.all validRelativePattern = true := by
      refine List.all_eq_true.mpr fun path hmem => ?_
      exact validRelativePattern_of_store (htexts path hmem) (List.all_eq_true.mp hallowed path hmem)
    simp [validateConstraints, hsome, hpatterns, hpositive]
  · simp [PermissionConstraints.canonicalJson, PermissionConstraints.listField, PermissionConstraints.boundField, hsome]
  · exact ⟨inRange_nat hrange, exact_texts paths, trivial⟩
  · simp [nesting, nestingFields, nesting_texts, maxNesting]

theorem shaped_inspect {operations : List String} (hpositive : 0 < n) (hrange : n < 2 ^ 64) (hsome : operations.isEmpty = false) :
    Shaped .workspaceRInspect (.obj [("maxBytes", .int n), ("operations", .arr (operations.map str))]) := by
  refine ⟨{ operations := operations, maxBytes := some n }, ?_, ?_, ?_, ?_, ?_⟩
  · have hfields : Serde.fields false ["paths", "operations", "schemes", "hosts", "methods", "maxBytes", "maxResponseBytes"]
        (.obj [("maxBytes", .int n), ("operations", .arr (operations.map str))]) =
        some [none, some (.arr (operations.map str)), none, none, none, some (.int n), none] := rfl
    unfold PermissionConstraints.read
    rw [hfields]
    simp only [readTexts_texts, u64_int hrange]
    rfl
  · simp [validateConstraints, hsome, hpositive]
  · simp [PermissionConstraints.canonicalJson, PermissionConstraints.listField, PermissionConstraints.boundField, hsome]
  · exact ⟨inRange_nat hrange, exact_texts operations, trivial⟩
  · simp [nesting, nestingFields, nesting_texts, maxNesting]

theorem shaped_fetch {hosts methods schemes : List String} (hpositive : 0 < n) (hrange : n < 2 ^ 64)
    (hhosts : hosts.isEmpty = false) (hmethods : methods.isEmpty = false) (hschemes : schemes.isEmpty = false)
    (hpatterns : hosts.all (fun host => validHostPattern host.toList) = true)
    (hverbs : methods.all (fun method => method == "GET" || method == "HEAD") = true)
    (hhttps : schemes.all (· == "https") = true) : Shaped .networkFetch
      (.obj [("hosts", .arr (hosts.map str)), ("maxResponseBytes", .int n), ("methods", .arr (methods.map str)),
        ("schemes", .arr (schemes.map str))]) := by
  refine ⟨{ hosts := hosts, methods := methods, schemes := schemes, maxResponseBytes := some n }, ?_, ?_, ?_, ?_, ?_⟩
  · have hfields : Serde.fields false ["paths", "operations", "schemes", "hosts", "methods", "maxBytes", "maxResponseBytes"]
        (.obj [("hosts", .arr (hosts.map str)), ("maxResponseBytes", .int n), ("methods", .arr (methods.map str)),
          ("schemes", .arr (schemes.map str))]) =
        some [none, none, some (.arr (schemes.map str)), some (.arr (hosts.map str)),
          some (.arr (methods.map str)), none, some (.int n)] := rfl
    unfold PermissionConstraints.read
    rw [hfields]
    simp only [readTexts_texts, u64_int hrange]
    rfl
  · simp [validateConstraints, hhosts, hmethods, hschemes, hpatterns, hverbs, hhttps, hpositive]
  · simp [PermissionConstraints.canonicalJson, PermissionConstraints.listField, PermissionConstraints.boundField, hhosts, hmethods,
      hschemes]
  · exact ⟨exact_texts hosts, inRange_nat hrange, exact_texts methods, exact_texts schemes, trivial⟩
  · simp [nesting, nestingFields, nesting_texts, maxNesting]

/-- The fields of an object with the keys of a permission. -/
theorem fields_of_exactKeys {allowed : List String} (hsorted : OrdMap.Sorted fields)
    (hallowed : allowed.Pairwise (· < ·)) (h : exactKeys fields allowed = true) : fields.map (·.1) = allowed := by
  unfold exactKeys at h
  rw [Bool.and_eq_true, beq_iff_eq, List.all_eq_true] at h
  exact OrdMap.keys_eq hsorted hallowed h.1 fun e he => by simpa using h.2 e he

theorem stringArray_all {p : String → Bool} (h : (stringArray constraints key).any (fun values => values.all p) = true) :
    ∃ texts : List String, constraints.get key = some (.arr (texts.map str)) ∧ texts.isEmpty = false ∧
      (∀ text ∈ texts, text.isEmpty = false) ∧ texts.all p = true := by
  obtain ⟨texts, htexts, hall⟩ := (Option.any_eq_true _ _).mp h
  obtain ⟨hget, hsome, hnonempty⟩ := stringArray_some htexts
  exact ⟨texts, hget, hsome, hnonempty, hall⟩

theorem shaped_of_shape {permission : PermissionKind} (hsorted : OrdMap.Sorted fields)
    (h : validateConstraintShape permission (.obj fields) = .ok u) : Shaped permission (.obj fields) := by
  unfold validateConstraintShape at h
  cases permission with
  | projectFsRead =>
    simp only at h
    split at h
    · next hvalid =>
      simp only [Bool.and_eq_true] at hvalid
      obtain ⟨⟨hkeys, hbound⟩, hpaths⟩ := hvalid
      obtain ⟨⟨_, v⟩, _, rfl, rfl, h₁⟩ := List.map_eq_cons_iff.mp (fields_of_exactKeys hsorted (by decide) hkeys)
      obtain ⟨⟨_, w⟩, _, rfl, rfl, h₂⟩ := List.map_eq_cons_iff.mp h₁
      obtain rfl := List.map_eq_nil_iff.mp h₂
      obtain ⟨n, hn, hpositive, hrange⟩ := positiveBound_int hbound
      obtain ⟨paths, hget, hsome, htexts, hallowed⟩ := stringArray_all hpaths
      cases hn
      cases hget
      exact shaped_fs hpositive hrange hsome htexts hallowed
    · cases h
  | workspaceRInspect =>
    simp only at h
    split at h
    · next hvalid =>
      simp only [Bool.and_eq_true] at hvalid
      obtain ⟨⟨hkeys, hbound⟩, hoperations⟩ := hvalid
      obtain ⟨⟨_, v⟩, _, rfl, rfl, h₁⟩ := List.map_eq_cons_iff.mp (fields_of_exactKeys hsorted (by decide) hkeys)
      obtain ⟨⟨_, w⟩, _, rfl, rfl, h₂⟩ := List.map_eq_cons_iff.mp h₁
      obtain rfl := List.map_eq_nil_iff.mp h₂
      obtain ⟨n, hn, hpositive, hrange⟩ := positiveBound_int hbound
      obtain ⟨operations, hget, hsome, -, -⟩ := stringArray_all hoperations
      cases hn
      cases hget
      exact shaped_inspect hpositive hrange hsome
    · cases h
  | networkFetch =>
    simp only at h
    split at h
    · next hvalid =>
      simp only [Bool.and_eq_true] at hvalid
      obtain ⟨⟨⟨⟨hkeys, hbound⟩, hschemes⟩, hhosts⟩, hmethods⟩ := hvalid
      obtain ⟨⟨_, v₁⟩, _, rfl, rfl, h₁⟩ := List.map_eq_cons_iff.mp (fields_of_exactKeys hsorted (by decide) hkeys)
      obtain ⟨⟨_, v₂⟩, _, rfl, rfl, h₂⟩ := List.map_eq_cons_iff.mp h₁
      obtain ⟨⟨_, v₃⟩, _, rfl, rfl, h₃⟩ := List.map_eq_cons_iff.mp h₂
      obtain ⟨⟨_, v₄⟩, _, rfl, rfl, h₄⟩ := List.map_eq_cons_iff.mp h₃
      obtain rfl := List.map_eq_nil_iff.mp h₄
      obtain ⟨n, hn, hpositive, hrange⟩ := positiveBound_int hbound
      obtain ⟨schemes, hget₁, hschemed, -, hhttps⟩ := stringArray_all hschemes
      obtain ⟨hosts, hget₂, hhosted, -, hpatterns⟩ := stringArray_all hhosts
      obtain ⟨methods, hget₃, hmethod, -, hverbs⟩ := stringArray_all hmethods
      cases hn
      cases hget₁
      cases hget₂
      cases hget₃
      exact shaped_fetch hpositive hrange hhosted hmethod hschemed hpatterns hverbs hhttps
    · cases h

/-- What the store accepts as the text of constraints: the text of an object whose keys are in order. -/
theorem canonicalConstraints_ok {crates : Crates} {value canonical digest : String} {parsed : Json}
    (h : canonicalConstraints crates value = .ok (parsed, canonical, digest)) :
    ∃ fields, parsed = .obj fields ∧ OrdMap.Sorted fields ∧ value = parsed.toText ∧ canonical = value ∧
      digest = crates.sha256Hex canonical := by
  unfold canonicalConstraints at h
  split at h
  · cases h
  · split at h
    · cases h
    · next fields hparsed =>
      simp only at h
      split at h
      · cases h
      · split at h
        · cases h
        · next hvalue =>
          cases h
          have hvalue := not_not.mp hvalue
          refine ⟨fields, rfl, ?_, hvalue, hvalue.symm, rfl⟩
          obtain ⟨raw, -, hraw⟩ := Option.map_eq_some_iff.mp hparsed
          cases raw with
          | obj entries =>
            cases hraw
            exact OrdMap.sorted_ofList _
          | _ => cases hraw
    · cases h

end ConstraintsAux

/-! ## The theorem -/

/-- The three checks agree. A permission that a manifest may ask for has constraints. And the text of constraints that the store
accepts for a permission is read as constraints that pass for it, whose canonical text and digest are those of the store. -/
theorem permission_checks_agree :
    (∀ p : PermissionRequest, validatePermissionRequest p = .ok () → ∃ c, PermissionConstraints.fromManifest p = .ok c) ∧
      ∀ (crates : Crates) (permission : PermissionKind) (value canonical digest : String) (parsed : Json),
        canonicalConstraints crates value = .ok (parsed, canonical, digest) → validateConstraintShape permission parsed = .ok () →
          ∃ c, PermissionConstraints.fromText canonical = some c ∧ validateConstraints permission c = .ok () ∧
            c.canonicalJson = canonical ∧ crates.sha256Hex c.canonicalJson = digest := by
  refine ⟨ConstraintsAux.fromManifest_of_valid, ?_⟩
  intro crates permission value canonical digest parsed hcanonical hshape
  obtain ⟨fields, rfl, hsorted, hvalue, rfl, rfl⟩ := ConstraintsAux.canonicalConstraints_ok hcanonical
  obtain ⟨c, hread, hvalid, htext, hexact, hnesting⟩ := ConstraintsAux.shaped_of_shape hsorted hshape
  refine ⟨c, ?_, hvalid, htext.trans hvalue.symm, by rw [htext, hvalue]⟩
  unfold PermissionConstraints.fromText
  rw [hvalue, Json.toText, String.toList_ofList, Json.rawParse_print hexact hnesting]
  exact hread

namespace SampleConstraints

/-- The text of constraints and its digest; nothing else is asked of the crates. -/
def text : String := "\x7b\"maxBytes\":1024,\"operations\":[\"metadata\"]\x7d"

def digest : String := "24f71ef62511299d4704a81c0d5f71b9c1d8b7ac66e21896fc86bd26c0d13b1b"

def crates : Crates where
  parseFromRfc3339 _ := none
  toRfc3339 _ := ""
  semver _ := false
  sha256Hex value := if value = text then digest else ""

def parsed : Json := .obj [("maxBytes", .int 1024), ("operations", .arr [.str "metadata"])]

def request : PermissionRequest where
  name := "workspace.r.inspect"
  purpose := none
  paths := []
  operations := ["metadata"]
  schemes := []
  hosts := []
  methods := []
  maxBytes := some 1024
  maxResponseBytes := none

end SampleConstraints

open SampleConstraints in
/-- One permission on both ways. -/
theorem sample_permission_checks : (∃ c, PermissionConstraints.fromManifest request = .ok c) ∧
      ∃ c, PermissionConstraints.fromText text = some c ∧ validateConstraints .workspaceRInspect c = .ok () ∧
        c.canonicalJson = text ∧ crates.sha256Hex c.canonicalJson = digest := by
  refine ⟨permission_checks_agree.1 request (by decide +kernel), ?_⟩
  exact permission_checks_agree.2 crates .workspaceRInspect text text digest parsed (by decide +kernel) (by decide +kernel)

end Rho
