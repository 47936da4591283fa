import Rho.Extension.JsonSchema
import Rho.Lib.Binary64
import Rho.Lib.Fallible

/-!
# What a schema means

The meaning of the supported keywords by recursion on the schema (`Conforms`), and that the check of an instance decides it for
every schema that has passed its own check. The facts that only the first check has established are collected in `Checked`; with
them no `expect` of the second check can fail.
-/

namespace Rho

open Fallible Numbers

variable {F : Type} [LinearOrder F] (num : Numbers F)

/-! ## The meaning of the keywords -/

def HasType (value : Json) : String → Prop
  | "object" => ∃ members, value = .obj members
  | "array" => ∃ elements, value = .arr elements
  | "string" => ∃ text, value = .str text
  | "number" => (∃ n, value = .int n) ∨ ∃ text, value = .float text
  | "integer" => ∃ n, value = .int n ∧ -2 ^ 63 ≤ n ∧ n < 2 ^ 64
  | "boolean" => ∃ b, value = .bool b
  | "null" => value = .null
  | _ => False

/-- A length between the bounds that are there. -/
def WithinLength (schema : Json) (minimumKey maximumKey : String) (length : Nat) : Prop :=
  (∀ bound, schema.get minimumKey = some bound → ∃ n : Nat, bound = .int n ∧ n ≤ length) ∧
    ∀ bound, schema.get maximumKey = some bound → ∃ n : Nat, bound = .int n ∧ length ≤ n

/-- A number between the bounds that are there. -/
def WithinNumbers (schema : Json) (number : F) : Prop :=
  (∀ bound, schema.get "minimum" = some bound → ∃ x, num.asF64 bound = some x ∧ x ≤ number) ∧
    ∀ bound, schema.get "maximum" = some bound → ∃ x, num.asF64 bound = some x ∧ number ≤ x

theorem sizeOf_get_lt {v w : Json} {key : String} (h : v.get key = some w) : sizeOf w < sizeOf v := by
  cases v with
  | obj fields =>
    unfold Json.get OrdMap.get at h
    obtain ⟨field, hfind, hw⟩ := Option.map_eq_some_iff.mp h
    have hsize := List.sizeOf_lt_of_mem (List.mem_of_find?_eq_some hfind)
    obtain ⟨name, value⟩ := field
    cases hw
    simp only [Prod.mk.sizeOf_spec, Json.obj.sizeOf_spec] at hsize ⊢
    omega
  | _ => cases h

/-- The instance conforms to the schema: by its type, its `enum` and what the keywords of the type ask of it and its parts. -/
def Conforms (schema value : Json) : Prop :=
  ∃ schemaType, schema.get "type" = some (.str schemaType) ∧ HasType value schemaType ∧
    (∀ allowed, schema.get "enum" = some allowed → ∃ values, allowed = .arr values ∧ ∃ v ∈ values, num.same v value = true) ∧
    (∀ members, value = .obj members →
      (∀ member ∈ members, ∃ properties childSchema,
        schema.get "properties" = some properties ∧ properties.get member.1 = some childSchema) ∧
      (∀ required, schema.get "required" = some required →
        ∃ names : List String, required = .arr (names.map .str) ∧ ∀ name ∈ names, ∃ child, value.get name = some child) ∧
      ∀ member ∈ members, ∀ properties childSchema, schema.get "properties" = some properties →
        properties.get member.1 = some childSchema → Conforms childSchema member.2) ∧
    (∀ elements, value = .arr elements →
      WithinLength schema "minItems" "maxItems" elements.length ∧
        ∀ child ∈ elements, ∀ items, schema.get "items" = some items → Conforms items child) ∧
    (∀ text, value = .str text → WithinLength schema "minLength" "maxLength" text.length) ∧
    ∀ number, num.asF64 value = some number → WithinNumbers num schema number
termination_by sizeOf schema
decreasing_by
  · have hproperties := sizeOf_get_lt ‹schema.get "properties" = _›
    have hchild := sizeOf_get_lt ‹properties.get _ = _›
    omega
  · exact sizeOf_get_lt ‹_›

namespace SchemaAux

/-! ## What a schema that has passed has established -/

/-- What the check has established of a node, with what it has established of the schemas below. -/
structure CheckedNode (below : Json → Prop) (object : List (String × Json)) (schemaType : String) : Prop where
  enum : ∀ v, OrdMap.get object "enum" = some v → ∃ values, v = .arr values
  properties : schemaType = "object" → ∃ properties, OrdMap.get object "properties" = some (.obj properties) ∧
    ∀ property ∈ properties, below property.2
  required : schemaType = "object" → ∀ v, OrdMap.get object "required" = some v →
    ∃ names : List String, v = .arr (names.map .str)
  items : schemaType = "array" → ∃ items, OrdMap.get object "items" = some items ∧ below items
  lengths : schemaType = "array" → ∀ key ∈ ["minItems", "maxItems"], ∀ v, OrdMap.get object key = some v →
    ∃ n : Nat, v.asU64 = some n
  texts : schemaType = "string" → ∀ key ∈ ["minLength", "maxLength"], ∀ v, OrdMap.get object key = some v →
    ∃ n : Nat, v.asU64 = some n
  numbers : schemaType = "number" ∨ schemaType = "integer" → ∀ key ∈ ["minimum", "maximum"], ∀ v,
    OrdMap.get object key = some v → ∃ x, num.asF64 v = some x

/-- What the check has established of a schema of so many levels. -/
def Checked : Nat → Json → Prop
  | 0, _ => False
  | levels + 1, schema => ∃ object schemaType, schema = .obj object ∧ OrdMap.get object "type" = some (.str schemaType) ∧
    schemaType ∈ schemaTypes ∧ CheckedNode num (Checked levels) object schemaType

variable {v : Json} {α : Type} {reason : String} {u : Unit}

theorem asStr_some {s : String} (h : v.asStr = some s) : v = .str s := by
  cases v <;> cases h
  rfl

theorem asArray_some {l : List Json} (h : v.asArray = some l) : v = .arr l := by
  cases v <;> cases h
  rfl

theorem asObject_some {fields : List (String × Json)} (h : v.asObject = some fields) : v = .obj fields := by
  cases v <;> cases h
  rfl

theorem orSchemaError_ok {value : Option α} {a : α} (h : orSchemaError value reason = .ok a) : value = some a := by
  cases value with
  | none => cases h
  | some v =>
    cases h
    rfl

theorem ensureSchema_ok {condition : Bool} (h : ensureSchema condition reason = .ok u) : condition = true := by
  unfold ensureSchema at h
  split at h
  · assumption
  · cases h

/-- A keyword that has been read is absent or of its kind. -/
theorem optionalKeyword_ok {value : Option Json} {read : Json → Option α} {a : Option α}
    (h : optionalKeyword value read reason = .ok a) : ∀ v, value = some v → ∃ x, read v = some x := by
  rintro v rfl
  obtain ⟨x, hx, -⟩ := map_eq_ok h
  exact ⟨x, orSchemaError_ok hx⟩

/-- Both keys of a pair of bounds that has been read. -/
theorem both_keys {P : String → Prop} {minimumKey maximumKey : String} (hmin : P minimumKey) (hmax : P maximumKey) :
    ∀ key ∈ [minimumKey, maximumKey], P key := by
  intro key hkey
  rcases List.mem_cons.mp hkey with rfl | hkey
  · exact hmin
  · rcases List.mem_singleton.mp hkey with rfl
    exact hmax

theorem validateUnsignedBounds_ok {object : List (String × Json)} {minimumKey maximumKey : String}
    (h : validateUnsignedBounds object minimumKey maximumKey = .ok u) :
    ∀ key ∈ [minimumKey, maximumKey], ∀ v, OrdMap.get object key = some v → ∃ n : Nat, v.asU64 = some n := by
  obtain ⟨minimum, hmin, h⟩ := bind_eq_ok h
  obtain ⟨maximum, hmax, -⟩ := bind_eq_ok h
  exact both_keys (optionalKeyword_ok hmin) (optionalKeyword_ok hmax)

theorem validateNumericBounds_ok {object : List (String × Json)} (h : validateNumericBounds num object = .ok u) :
    ∀ key ∈ ["minimum", "maximum"], ∀ v, OrdMap.get object key = some v → ∃ x, num.asF64 v = some x := by
  obtain ⟨minimum, hmin, h⟩ := bind_eq_ok h
  obtain ⟨maximum, hmax, -⟩ := bind_eq_ok h
  exact both_keys (optionalKeyword_ok hmin) (optionalKeyword_ok hmax)

/-- Required names that have passed are strings. -/
theorem validateRequired_ok {properties : List (String × Json)} : ∀ (required : List Json) (seen : List String),
    validateRequired properties seen required = .ok u → ∃ names : List String, required = names.map .str
  | [], _, _ => ⟨[], rfl⟩
  | item :: required, seen, h => by
    obtain ⟨name, hname, h⟩ := bind_eq_ok h
    obtain ⟨_, -, h⟩ := bind_eq_ok h
    obtain ⟨_, -, h⟩ := bind_eq_ok h
    obtain ⟨names, hnames⟩ := validateRequired_ok required _ h
    refine ⟨name :: names, ?_⟩
    rw [hnames, asStr_some (orSchemaError_ok hname), List.map_cons]

section Node

variable {below : Json → Prop} {node : Json → SchemaBudget → Except JsonSchemaError SchemaBudget}
  {object : List (String × Json)} {budget budget' : SchemaBudget}

theorem validateObjectSchema_ok (hnode : ∀ v b b', node v b = .ok b' → below v)
    (h : validateObjectSchema node object budget = .ok budget') :
    (∃ properties, OrdMap.get object "properties" = some (.obj properties) ∧ ∀ property ∈ properties, below property.2) ∧
      ∀ v, OrdMap.get object "required" = some v → ∃ names : List String, v = .arr (names.map .str) := by
  obtain ⟨properties, hproperties, h⟩ := bind_eq_ok h
  obtain ⟨spent, -, h⟩ := bind_eq_ok h
  obtain ⟨_, -, h⟩ := bind_eq_ok h
  obtain ⟨_, hfold, h⟩ := bind_eq_ok h
  obtain ⟨required, hrequired, h⟩ := bind_eq_ok h
  obtain ⟨_, hnames, -⟩ := bind_eq_ok h
  refine ⟨⟨properties, ?_, ?_⟩, ?_⟩
  · obtain ⟨v, hv, hobject⟩ := Option.bind_eq_some_iff.mp (orSchemaError_ok hproperties)
    rw [hv, asObject_some hobject]
  · intro property hmem
    obtain ⟨b, b', hstep⟩ := foldlM_mem properties _ _ hfold property hmem
    obtain ⟨_, -, hchild⟩ := bind_eq_ok hstep
    exact hnode _ _ _ hchild
  · intro v hv
    rw [hv] at hrequired
    obtain ⟨l, hl, rfl⟩ := map_eq_ok hrequired
    obtain ⟨names, hnames⟩ := validateRequired_ok _ _ hnames
    refine ⟨names, ?_⟩
    rw [asArray_some (orSchemaError_ok hl)]
    exact congrArg Json.arr hnames

theorem validateEnum_ok {schemaType : String} (h : validateEnum object schemaType budget = .ok budget') :
    ∀ v, OrdMap.get object "enum" = some v → ∃ values, v = .arr values := by
  intro v hv
  unfold validateEnum at h
  rw [hv] at h
  obtain ⟨values, hvalues, -⟩ := bind_eq_ok h
  exact ⟨values, asArray_some (orSchemaError_ok hvalues)⟩

theorem validateArray_ok (hnode : ∀ v b b', node v b = .ok b' → below v)
    (h : validateTyped num node object "array" budget = .ok budget') :
    (∃ items, OrdMap.get object "items" = some items ∧ below items) ∧
      ∀ key ∈ ["minItems", "maxItems"], ∀ v, OrdMap.get object key = some v → ∃ n : Nat, v.asU64 = some n := by
  simp only [validateTyped] at h
  obtain ⟨items, hitems, h⟩ := bind_eq_ok h
  obtain ⟨_, hbelow, h⟩ := bind_eq_ok h
  obtain ⟨_, hbounds, -⟩ := bind_eq_ok h
  exact ⟨⟨items, orSchemaError_ok hitems, hnode _ _ _ hbelow⟩, validateUnsignedBounds_ok hbounds⟩

/-- What has passed the check of a node's type and of its `enum`. -/
theorem checkedNode_of_ok {schemaType : String} {between : SchemaBudget} (hnode : ∀ v b b', node v b = .ok b' → below v)
    (htyped : validateTyped num node object schemaType budget = .ok between)
    (henum : validateEnum object schemaType between = .ok budget') : CheckedNode num below object schemaType := by
  refine ⟨validateEnum_ok henum, ?_, ?_, ?_, ?_, ?_, ?_⟩
  · rintro rfl
    exact (validateObjectSchema_ok hnode htyped).1
  · rintro rfl
    exact (validateObjectSchema_ok hnode htyped).2
  · rintro rfl
    exact (validateArray_ok num hnode htyped).1
  · rintro rfl
    exact (validateArray_ok num hnode htyped).2
  · rintro rfl
    simp only [validateTyped] at htyped
    obtain ⟨_, hbounds, -⟩ := bind_eq_ok htyped
    exact validateUnsignedBounds_ok hbounds
  · rintro (rfl | rfl)
    · simp only [validateTyped] at htyped
      obtain ⟨_, hbounds, -⟩ := bind_eq_ok htyped
      exact validateNumericBounds_ok num hbounds
    · simp only [validateTyped] at htyped
      obtain ⟨_, hbounds, -⟩ := bind_eq_ok htyped
      exact validateNumericBounds_ok num hbounds

end Node

theorem checked_of_ok {levels : Nat} {schema : Json} {budget budget' : SchemaBudget}
    (h : validateSchemaNode num levels schema budget = .ok budget') : Checked num levels schema := by
  induction levels generalizing schema budget budget' with
  | zero => cases h
  | succ levels ih =>
    obtain ⟨object, hobject, h⟩ := bind_eq_ok h
    obtain ⟨_, -, h⟩ := bind_eq_ok h
    obtain ⟨schemaType, htype, h⟩ := bind_eq_ok h
    obtain ⟨_, hknown, h⟩ := bind_eq_ok h
    obtain ⟨_, -, h⟩ := bind_eq_ok h
    obtain ⟨between, htyped, henum⟩ := bind_eq_ok h
    obtain ⟨v, hv, hstr⟩ := Option.bind_eq_some_iff.mp (orSchemaError_ok htype)
    refine ⟨object, schemaType, asObject_some (orSchemaError_ok hobject), ?_, ?_, ?_⟩
    · rw [hv, asStr_some hstr]
    · exact List.contains_iff_mem.mp (ensureSchema_ok hknown)
    · exact checkedNode_of_ok num (fun v b b' hbelow => ih hbelow) htyped henum

/-! ## Checks that decide a condition -/

/-- The check succeeds exactly when the condition holds, and otherwise rejects the instance. -/
structure Decides (check : Except InstanceFault Unit) (P : Prop) : Prop where
  ok_iff : check = .ok () ↔ P
  rejects : ∀ fault, check = .error fault → ∃ error, fault = .rejected error

variable {P Q : Prop} {α : Type} {value : Option α} {v : α}

theorem Decides.congr {check : Except InstanceFault Unit} (h : Decides check P) (hPQ : P ↔ Q) : Decides check Q :=
  ⟨h.ok_iff.trans hPQ, h.rejects⟩

theorem decides_ok (h : P) : Decides (.ok ()) P := ⟨iff_of_true rfl h, nofun⟩

theorem decides_rejected (error : JsonSchemaError) (h : ¬P) : Decides (.error (.rejected error)) P :=
  ⟨iff_of_false nofun h, fun fault h => ⟨error, by cases h; rfl⟩⟩

theorem decides_ensure (condition : Bool) (reason : String) : Decides (ensureInstance condition reason) (condition = true) := by
  cases condition with
  | true => exact decides_ok rfl
  | false => exact decides_rejected _ Bool.false_ne_true

/-- Two checks, one after the other, the second under the condition of the first. -/
theorem Decides.bind {first second : Except InstanceFault Unit} (h : Decides first P) (h' : P → Decides second Q) :
    Decides (first >>= fun _ => second) (P ∧ Q) := by
  cases hfirst : first with
  | ok u =>
    have hP : P := h.ok_iff.mp hfirst
    exact (h' hP).congr (and_iff_right hP).symm
  | error fault =>
    obtain ⟨error, rfl⟩ := h.rejects fault hfirst
    refine decides_rejected error ?_
    rintro ⟨hP, -⟩
    cases hfirst.symm.trans (h.ok_iff.mpr hP)

/-- A check of every element of a list. -/
theorem decides_forM {f : α → Except InstanceFault Unit} {P : α → Prop} :
    ∀ l : List α, (∀ a ∈ l, Decides (f a) (P a)) → Decides (l.forM f) (∀ a ∈ l, P a)
  | [], _ => decides_ok fun _ ha => absurd ha List.not_mem_nil
  | a :: l, h => by
    have hhead := h a List.mem_cons_self
    have htail := decides_forM l fun b hb => h b (List.mem_cons_of_mem a hb)
    exact (hhead.bind fun _ => htail).congr List.forall_mem_cons.symm

theorem expect_bind (hvalue : value = some v) (g : α → Except InstanceFault Unit) : (expect value >>= g) = g v := by
  rw [hvalue]
  rfl

theorem orMalformed_bind (hvalue : value = some v) (reason : String)
    (g : α → Except InstanceFault Unit) : (orMalformed value reason >>= g) = g v := by
  rw [hvalue]
  rfl

/-! ## The parts of the check of an instance -/

theorem hasType_iff (value : Json) {schemaType : String} (hknown : schemaType ∈ schemaTypes) :
    valueMatchesType value schemaType = true ↔ HasType value schemaType := by
  simp only [schemaTypes, List.mem_cons, List.not_mem_nil, or_false] at hknown
  rcases hknown with rfl | rfl | rfl | rfl | rfl | rfl | rfl
  · cases value <;> simp [valueMatchesType, HasType, Json.asObject]
  · cases value <;> simp [valueMatchesType, HasType, Json.asArray]
  · cases value <;> simp [valueMatchesType, HasType, Json.asStr]
  · cases value <;> simp [valueMatchesType, HasType]
  · cases value with
    | int n =>
      simp only [valueMatchesType, HasType, Json.asI64, Json.asU64, Json.int.injEq, Bool.or_eq_true]
      constructor
      · intro h
        refine ⟨n, rfl, ?_⟩
        rcases h with h | h
        · split at h
          · omega
          · cases h
        · split at h
          · omega
          · cases h
      · rintro ⟨_, rfl, hlow, hhigh⟩
        by_cases hsigned : n < 2 ^ 63
        · exact Or.inl (by rw [if_pos ⟨hlow, hsigned⟩]; rfl)
        · exact Or.inr (by rw [if_pos (by omega)]; rfl)
    | _ => simp [valueMatchesType, HasType, Json.asI64, Json.asU64]
  · cases value <;> simp [valueMatchesType, HasType, Json.asBool]
  · simp [valueMatchesType, HasType]

theorem asU64_some {v : Json} {n : Nat} (h : v.asU64 = some n) : v = .int n := by
  cases v with
  | int m =>
    simp only [Json.asU64] at h
    split at h
    · next hrange =>
      cases h
      rw [Int.toNat_of_nonneg hrange.1]
    · cases h
  | _ => cases h

section Bounds

variable {object : List (String × Json)} {minimumKey maximumKey : String}

/-- A bound that is there and was read as a number. -/
theorem any_bound_iff {α : Type} {bound : Option Json} {read : Json → Option α} (hread : ∀ v, bound = some v → ∃ x, read v = some x)
    (p : α → Bool) : ((bound.bind read).any p = false) ↔ ∀ v, bound = some v → ∃ x, read v = some x ∧ p x = false := by
  cases bound with
  | none => simp
  | some v =>
    obtain ⟨x, hx⟩ := hread v rfl
    simp [hx]

theorem decides_length (hread : ∀ key ∈ [minimumKey, maximumKey], ∀ v, OrdMap.get object key = some v → ∃ n : Nat, v.asU64 = some n)
    (actual : Nat) (path : String) : Decides (validateLengthBounds object actual minimumKey maximumKey path)
      (WithinLength (.obj object) minimumKey maximumKey actual) := by
  refine (decides_ensure _ _).congr ?_
  have hmin := hread minimumKey List.mem_cons_self
  have hmax := hread maximumKey (List.mem_cons_of_mem _ List.mem_cons_self)
  rw [Bool.not_eq_true', Bool.or_eq_false_iff, any_bound_iff hmin, any_bound_iff hmax]
  have hiff : ∀ (key : String) (P : Nat → Prop), (∀ v, OrdMap.get object key = some v → ∃ n : Nat, v.asU64 = some n) →
      ((∀ v, OrdMap.get object key = some v → ∃ n, v.asU64 = some n ∧ P n) ↔
        ∀ v, (Json.obj object).get key = some v → ∃ n : Nat, v = .int n ∧ P n) := by
    intro key P hkey
    refine forall_congr' fun v => ⟨fun h hv => ?_, fun h hv => ?_⟩
    · obtain ⟨n, hn, hP⟩ := h hv
      exact ⟨n, asU64_some hn, hP⟩
    · obtain ⟨n, rfl, hP⟩ := h hv
      obtain ⟨m, hm⟩ := hkey _ hv
      refine ⟨m, hm, ?_⟩
      cases asU64_some hm
      exact hP
  unfold WithinLength
  simp only [decide_eq_false_iff_not, Nat.not_lt]
  exact and_congr (hiff minimumKey (· ≤ actual) hmin) (hiff maximumKey (actual ≤ ·) hmax)

theorem decides_numbers (hread : ∀ key ∈ ["minimum", "maximum"], ∀ v, OrdMap.get object key = some v → ∃ x, num.asF64 v = some x)
    (number : F) (path : String) : Decides (ensureInstance
        (!((((OrdMap.get object "minimum").bind num.asF64).any fun minimum => number < minimum) ||
          (((OrdMap.get object "maximum").bind num.asF64).any fun maximum => maximum < number)))
        (path ++ " is outside numeric bounds")) (WithinNumbers num (.obj object) number) := by
  refine (decides_ensure _ _).congr ?_
  have hmin := hread "minimum" List.mem_cons_self
  have hmax := hread "maximum" (List.mem_cons_of_mem _ List.mem_cons_self)
  rw [Bool.not_eq_true', Bool.or_eq_false_iff, any_bound_iff hmin, any_bound_iff hmax]
  simp only [decide_eq_false_iff_not, not_lt]
  rfl

end Bounds

section Instance

variable {levels : Nat} {object properties members : List (String × Json)}
  {node : Json → Json → String → Except InstanceFault Unit}

/-- Every member is a property. -/
theorem decides_declared (hproperties : OrdMap.get object "properties" = some (.obj properties)) (path : String) :
    Decides (validateDeclared properties members path)
      (∀ member ∈ members, ∃ properties childSchema, (Json.obj object).get "properties" = some properties ∧
        properties.get member.1 = some childSchema) := by
  unfold validateDeclared
  cases hfind : members.find? (fun m => (OrdMap.get properties m.1).isNone) with
  | some unknown =>
    refine decides_rejected _ fun hall => ?_
    have hnone := List.find?_some hfind
    obtain ⟨_, childSchema, hget, hchild⟩ := hall unknown (List.mem_of_find?_eq_some hfind)
    cases hproperties.symm.trans hget
    rw [show OrdMap.get properties unknown.1 = some childSchema from hchild] at hnone
    cases hnone
  | none =>
    refine decides_ok fun member hmem => ?_
    have hsome := List.find?_eq_none.mp hfind member hmem
    simp only [Option.isNone_iff_eq_none, ← ne_eq, Option.ne_none_iff_exists'] at hsome
    obtain ⟨childSchema, hchild⟩ := hsome
    exact ⟨.obj properties, childSchema, hproperties, hchild⟩

/-- Every required property is there. -/
theorem decides_present
    (hrequired : ∀ v, OrdMap.get object "required" = some v → ∃ names : List String, v = .arr (names.map .str)) (path : String) :
    Decides (validatePresent object members path)
      (∀ required, (Json.obj object).get "required" = some required → ∃ names : List String, required = .arr (names.map .str) ∧
        ∀ name ∈ names, ∃ child, (Json.obj members).get name = some child) := by
  unfold validatePresent
  cases hget : OrdMap.get object "required" with
  | none =>
    refine decides_ok fun required h => ?_
    cases hget.symm.trans h
  | some v =>
    obtain ⟨names, rfl⟩ := hrequired v hget
    have hnames : (names.map Json.str).filterMap Json.asStr = names := by
      rw [List.filterMap_map]
      exact List.filterMap_some
    have hcheck : ∀ name ∈ names, Decides
        (ensureInstance (OrdMap.get members name).isSome (path ++ " is missing required property " ++ name))
        (∃ child, (Json.obj members).get name = some child) :=
      fun name _ => (decides_ensure _ _).congr Option.isSome_iff_exists
    simp only [Option.bind_some, Json.asArray, hnames]
    refine (decides_forM names hcheck).congr ⟨fun h required hrequired => ?_, fun h => ?_⟩
    · cases hget.symm.trans hrequired
      exact ⟨names, rfl, h⟩
    · obtain ⟨names', heq, h⟩ := h _ hget
      have heq' : names = names' := List.map_injective_iff.mpr (fun a b hab => Json.str.inj hab) (Json.arr.inj heq)
      exact heq' ▸ h

/-- The members of an object. -/
theorem decides_members (hnode : ∀ property ∈ properties, ∀ value path, Decides (node property.2 value path)
      (Conforms num property.2 value)) (hproperties : OrdMap.get object "properties" = some (.obj properties))
    (hrequired : ∀ v, OrdMap.get object "required" = some v → ∃ names : List String, v = .arr (names.map .str))
    (path : String) : Decides (validateMembers node object properties members path)
      ((∀ member ∈ members, ∃ properties childSchema, (Json.obj object).get "properties" = some properties ∧
          properties.get member.1 = some childSchema) ∧
        (∀ required, (Json.obj object).get "required" = some required → ∃ names : List String, required = .arr (names.map .str) ∧
          ∀ name ∈ names, ∃ child, (Json.obj members).get name = some child) ∧
        ∀ member ∈ members, ∀ properties childSchema, (Json.obj object).get "properties" = some properties →
          properties.get member.1 = some childSchema → Conforms num childSchema member.2) := by
  refine (decides_declared hproperties path).bind fun hdeclared => (decides_present hrequired path).bind fun _ => ?_
  refine decides_forM members ?_
  rintro ⟨name, child⟩ hmem
  obtain ⟨_, childSchema, hget, hchild⟩ := hdeclared (name, child) hmem
  cases hproperties.symm.trans hget
  simp only
  rw [expect_bind (show OrdMap.get properties name = some childSchema from hchild)]
  refine (hnode _ (OrdMap.mem_of_get hchild) child _).congr ⟨fun h properties' childSchema' h₁ h₂ => ?_, fun h => ?_⟩
  · cases hproperties.symm.trans h₁
    cases hchild.symm.trans h₂
    exact h
  · exact h _ _ hget hchild

theorem decides_items {items : Json} (hnode : ∀ value path, Decides (node items value path) (Conforms num items value))
    (path : String) : ∀ (elements : List Json) (index : Nat),
    Decides (validateItems node items path index elements) (∀ child ∈ elements, Conforms num items child)
  | [], _ => decides_ok fun _ h => absurd h List.not_mem_nil
  | child :: rest, index =>
    ((hnode child _).bind fun _ => decides_items hnode path rest (index + 1)).congr List.forall_mem_cons.symm

theorem decides_allowed (henum : ∀ v, OrdMap.get object "enum" = some v → ∃ values, v = .arr values) (value : Json)
    (path : String) : Decides (validateAllowed num object value path)
      (∀ allowed, (Json.obj object).get "enum" = some allowed →
        ∃ values, allowed = .arr values ∧ ∃ v ∈ values, num.same v value = true) := by
  unfold validateAllowed
  cases hget : OrdMap.get object "enum" with
  | none =>
    refine decides_ok fun allowed h => ?_
    cases hget.symm.trans h
  | some v =>
    obtain ⟨values, rfl⟩ := henum v hget
    refine (decides_ensure _ _).congr ?_
    rw [List.any_eq_true]
    constructor
    · intro h allowed hallowed
      cases hget.symm.trans hallowed
      exact ⟨values, rfl, h⟩
    · intro h
      obtain ⟨_, ⟨⟩, h⟩ := h _ hget
      exact h

/-- What the keywords of the type ask, as `Conforms` has it. -/
def TypedConforms (schema value : Json) : Prop :=
  (∀ members, value = .obj members →
    (∀ member ∈ members, ∃ properties childSchema,
      schema.get "properties" = some properties ∧ properties.get member.1 = some childSchema) ∧
    (∀ required, schema.get "required" = some required →
      ∃ names : List String, required = .arr (names.map .str) ∧ ∀ name ∈ names, ∃ child, value.get name = some child) ∧
    ∀ member ∈ members, ∀ properties childSchema, schema.get "properties" = some properties →
      properties.get member.1 = some childSchema → Conforms num childSchema member.2) ∧
  (∀ elements, value = .arr elements →
    WithinLength schema "minItems" "maxItems" elements.length ∧
      ∀ child ∈ elements, ∀ items, schema.get "items" = some items → Conforms num items child) ∧
  (∀ text, value = .str text → WithinLength schema "minLength" "maxLength" text.length) ∧
  ∀ number, num.asF64 value = some number → WithinNumbers num schema number

theorem conforms_iff (schema value : Json) :
    Conforms num schema value ↔ ∃ schemaType, schema.get "type" = some (.str schemaType) ∧ HasType value schemaType ∧
      (∀ allowed, schema.get "enum" = some allowed → ∃ values, allowed = .arr values ∧ ∃ v ∈ values, num.same v value = true) ∧
      TypedConforms num schema value := by
  rw [Conforms]
  rfl

/-- A number of either numeric type. -/
theorem decides_numeric {schemaType : String} (htype : schemaType = "number" ∨ schemaType = "integer") {value : Json} {number : F}
    (hnumber : num.asF64 value = some number)
    (hread : ∀ key ∈ ["minimum", "maximum"], ∀ v, OrdMap.get object key = some v → ∃ x, num.asF64 v = some x) (path : String) :
    Decides (validateTypedInstance num node object schemaType value path) (TypedConforms num (.obj object) value) := by
  have hcheck := decides_numbers num hread number path
  have hrest : WithinNumbers num (.obj object) number ↔ TypedConforms num (.obj object) value := by
    constructor
    · intro h
      refine ⟨?_, ?_, ?_, ?_⟩
      · rintro _ rfl
        cases hnumber
      · rintro _ rfl
        cases hnumber
      · rintro _ rfl
        cases hnumber
      · intro number' h'
        cases hnumber.symm.trans h'
        exact h
    · intro h
      exact h.2.2.2 number hnumber
  rcases htype with rfl | rfl
  · simp only [validateTypedInstance]
    rw [expect_bind hnumber]
    exact hcheck.congr hrest
  · simp only [validateTypedInstance]
    rw [expect_bind hnumber]
    exact hcheck.congr hrest

/-- The keywords of a type, for an instance of the type. -/
theorem decides_typed {below : Json → Prop} {schemaType : String} {value : Json}
    (hnode : ∀ schema, below schema → ∀ value path, Decides (node schema value path) (Conforms num schema value))
    (hchecked : CheckedNode num below object schemaType) (hknown : schemaType ∈ schemaTypes) (htype : HasType value schemaType)
    (path : String) :
    Decides (validateTypedInstance num node object schemaType value path) (TypedConforms num (.obj object) value) := by
  simp only [schemaTypes, List.mem_cons, List.not_mem_nil, or_false] at hknown
  rcases hknown with rfl | rfl | rfl | rfl | rfl | rfl | rfl
  · obtain ⟨members, rfl⟩ := htype
    obtain ⟨properties, hproperties, hbelow⟩ := hchecked.properties rfl
    simp only [validateTypedInstance]
    rw [expect_bind (show (Json.obj members).asObject = some members from rfl), expect_bind (v := properties) (by rw [hproperties]; rfl)]
    refine (decides_members num (fun property hmem => hnode _ (hbelow property hmem)) hproperties (hchecked.required rfl) path).congr ?_
    simp [TypedConforms, asF64]
  · obtain ⟨elements, rfl⟩ := htype
    obtain ⟨items, hitems, hbelow⟩ := hchecked.items rfl
    simp only [validateTypedInstance]
    rw [expect_bind (show (Json.arr elements).asArray = some elements from rfl), expect_bind hitems]
    refine ((decides_length (hchecked.lengths rfl) elements.length path).bind fun _ =>
      decides_items num (hnode items hbelow) path elements 0).congr ?_
    simp [TypedConforms, asF64, Json.get, hitems]
  · obtain ⟨text, rfl⟩ := htype
    simp only [validateTypedInstance]
    rw [expect_bind (show (Json.str text).asStr = some text from rfl)]
    refine (decides_length (hchecked.texts rfl) text.length path).congr ?_
    simp [TypedConforms, asF64]
  · obtain ⟨n, rfl⟩ | ⟨text, rfl⟩ := htype
    · exact decides_numeric num (Or.inl rfl) rfl (hchecked.numbers (Or.inl rfl)) path
    · exact decides_numeric num (Or.inl rfl) rfl (hchecked.numbers (Or.inl rfl)) path
  · obtain ⟨n, rfl, -⟩ := htype
    exact decides_numeric num (Or.inr rfl) rfl (hchecked.numbers (Or.inr rfl)) path
  · obtain ⟨b, rfl⟩ := htype
    refine decides_ok ?_
    simp [TypedConforms, asF64]
  · have hnull : value = .null := htype
    subst hnull
    refine decides_ok ?_
    simp [TypedConforms, asF64]

end Instance

/-- The check of an instance decides conformance, for every schema that has passed. -/
theorem decides_node {levels : Nat} {schema : Json} (h : Checked num levels schema) (value : Json) (path : String) :
    Decides (validateInstanceNode num levels schema value path) (Conforms num schema value) := by
  induction levels generalizing schema value path with
  | zero => exact h.elim
  | succ levels ih =>
    obtain ⟨object, schemaType, rfl, htype, hknown, hchecked⟩ := h
    have hmatches := (decides_ensure (valueMatchesType value schemaType) (path ++ " does not match type " ++ schemaType)).congr
      (hasType_iff value hknown)
    have hcheck := hmatches.bind fun hvalue => (decides_allowed num hchecked.enum value path).bind fun _ =>
      decides_typed num (fun schema hbelow => ih hbelow) hchecked hknown hvalue path
    have hrun : validateInstanceNode num (levels + 1) (.obj object) value path =
        (ensureInstance (valueMatchesType value schemaType) (path ++ " does not match type " ++ schemaType) >>= fun _ =>
          validateAllowed num object value path >>= fun _ =>
            validateTypedInstance num (validateInstanceNode num levels) object schemaType value path) := by
      simp only [validateInstanceNode]
      rw [orMalformed_bind (show (Json.obj object).asObject = some object from rfl), orMalformed_bind (v := schemaType)]
      rw [htype]
      rfl
    rw [hrun, conforms_iff]
    refine hcheck.congr ⟨fun h => ⟨schemaType, htype, h⟩, ?_⟩
    rintro ⟨schemaType', htype', h⟩
    cases htype.symm.trans htype'
    exact h

end SchemaAux

/-! ## The theorem -/

/-- For every schema that has passed its check, the check of an instance accepts exactly what conforms to the schema, and what it
does not accept it rejects: it never panics, never runs out of levels and never finds the schema malformed. -/
theorem validate_instance_decides (value : Json) (schema : BoundedJsonSchema) (h : BoundedJsonSchema.new num value = .ok schema)
    (inst : Json) : (schema.validateInstance num inst = .ok () ↔ Conforms num schema.value inst) ∧
      ∀ fault, schema.validateInstance num inst = .error fault → ∃ error, fault = .rejected error := by
  obtain ⟨_, -, h⟩ := bind_eq_ok h
  obtain ⟨_, hnode, h⟩ := bind_eq_ok h
  cases h
  obtain ⟨hiff, hrejects⟩ := SchemaAux.decides_node num (SchemaAux.checked_of_ok num hnode) inst "$"
  exact ⟨hiff, hrejects⟩

namespace SampleSchema

/-- Integers as their own numbers; the samples have no floats. -/
def integers : Numbers Int := ⟨id, fun _ => 0, id⟩

/-- A list of at most two names and an optional limit. -/
def schema : Json :=
  .obj [("properties", .obj
      [("limit", .obj [("maximum", .int 10), ("minimum", .int 1), ("type", .str "integer")]),
        ("names", .obj [("items", .obj [("maxLength", .int 4), ("type", .str "string")]), ("maxItems", .int 2),
          ("type", .str "array")])]),
    ("required", .arr [.str "names"]), ("type", .str "object")]

def accepted : Json := .obj [("limit", .int 3), ("names", .arr [.str "TP53", .str "MYC"])]

end SampleSchema

open SampleSchema in
/-- A schema that passes, and an instance that therefore conforms to it. -/
theorem sample_schema_conforms :
    BoundedJsonSchema.new integers schema = .ok ⟨schema⟩ ∧ Conforms integers schema accepted := by
  have hnew : BoundedJsonSchema.new integers schema = .ok ⟨schema⟩ := by decide +kernel
  exact ⟨hnew, (validate_instance_decides integers schema ⟨schema⟩ hnew accepted).1.mp (by decide +kernel)⟩

/-! ## Integer bounds -/

/-- The bounds of a node are the integers that are there. -/
structure IntegerBounds (object : List (String × Json)) (minimum maximum : Option Int) : Prop where
  minimum : OrdMap.get object "minimum" = minimum.map .int
  maximum : OrdMap.get object "maximum" = maximum.map .int

/-- The comparison of bounds that were read as floating-point numbers. -/
theorem accepts_rounded_iff (num : Numbers Int) (node : Json → Json → String → Except InstanceFault Unit)
    {object : List (String × Json)} {minimum maximum : Option Int} (hbounds : IntegerBounds object minimum maximum) (n : Int)
    (path : String) : validateTypedInstance num node object "integer" (.int n) path = .ok () ↔
      (∀ m ∈ minimum, num.ofInt m ≤ num.ofInt n) ∧ ∀ m ∈ maximum, num.ofInt n ≤ num.ofInt m := by
  simp only [validateTypedInstance]
  rw [SchemaAux.expect_bind (rfl : num.asF64 (.int n) = some (num.ofInt n)), (SchemaAux.decides_ensure _ _).1, hbounds.minimum,
    hbounds.maximum]
  cases minimum <;> cases maximum <;> simp [asF64]

/-- The bounds of a node that has passed its check are in order as floating-point numbers. -/
theorem bounds_ordered (num : Numbers Int) {object : List (String × Json)} {minimum maximum : Option Int}
    (hbounds : IntegerBounds object minimum maximum) (hvalid : validateNumericBounds num object = .ok ()) :
    ∀ m ∈ minimum, ∀ m' ∈ maximum, num.ofInt m ≤ num.ofInt m' := by
  rintro m rfl m' rfl
  rw [validateNumericBounds, hbounds.minimum, hbounds.maximum] at hvalid
  exact of_decide_eq_true (SchemaAux.ensureSchema_ok hvalid)

/-- The bounds of an integer node are exact for an instance exactly when no bound that it violates is read as the same
floating-point number. -/
theorem integer_bounds_exact_iff (num : Numbers Int) (hround : num.ofInt = Binary64.round)
    (node : Json → Json → String → Except InstanceFault Unit) (object : List (String × Json)) (minimum maximum : Option Int)
    (hbounds : IntegerBounds object minimum maximum) (hvalid : validateNumericBounds num object = .ok ()) (n : Int) (path : String) :
    (validateTypedInstance num node object "integer" (.int n) path = .ok () ↔ (∀ m ∈ minimum, m ≤ n) ∧ ∀ m ∈ maximum, n ≤ m) ↔
      (∀ m ∈ minimum, n < m → Binary64.round m ≠ Binary64.round n) ∧
        ∀ m ∈ maximum, m < n → Binary64.round m ≠ Binary64.round n := by
  have hordered := bounds_ordered num hbounds hvalid
  rw [accepts_rounded_iff num node hbounds, hround] at *
  constructor
  · intro hexact
    refine ⟨?_, ?_⟩
    · intro m hm hlt heq
      have haccepts := hexact.mp ⟨fun a ha => ?_, fun a ha => heq ▸ hordered m hm a ha⟩
      · exact absurd (haccepts.1 m hm) (not_le.mpr hlt)
      · cases hm.symm.trans ha
        exact heq.le
    · intro m hm hlt heq
      have haccepts := hexact.mp ⟨fun a ha => heq ▸ hordered a ha m hm, fun a ha => ?_⟩
      · exact absurd (haccepts.2 m hm) (not_le.mpr hlt)
      · cases hm.symm.trans ha
        exact heq.ge
  · rintro ⟨hminimum, hmaximum⟩
    constructor
    · rintro ⟨hleast, hmost⟩
      refine ⟨?_, ?_⟩
      · intro m hm
        by_contra hlt
        rw [not_le] at hlt
        exact hminimum m hm hlt (le_antisymm (hleast m hm) (Binary64.round_mono hlt.le))
      · intro m hm
        by_contra hlt
        rw [not_le] at hlt
        exact hmaximum m hm hlt (le_antisymm (Binary64.round_mono hlt.le) (hmost m hm))
    · rintro ⟨hleast, hmost⟩
      exact ⟨fun m hm => Binary64.round_mono (hleast m hm), fun m hm => Binary64.round_mono (hmost m hm)⟩

namespace SampleSchema

/-- Integers read as floating-point numbers. -/
def doubles : Numbers Int := ⟨Binary64.round, fun _ => 0, id⟩

/-- A bound that a floating-point number cannot hold. -/
def bounded : List (String × Json) := [("minimum", .int (2 ^ 53 + 1)), ("type", .str "integer")]

end SampleSchema

open SampleSchema in
theorem integer_bounds_exact_iff_sample :
    (validateTypedInstance doubles (fun _ _ _ => .ok ()) bounded "integer" (.int 7) "$" = .ok () ↔
      (∀ m ∈ some ((2 : Int) ^ 53 + 1), m ≤ 7) ∧ ∀ m ∈ (none : Option Int), 7 ≤ m) ↔
      (∀ m ∈ some ((2 : Int) ^ 53 + 1), 7 < m → Binary64.round m ≠ Binary64.round 7) ∧
        ∀ m ∈ (none : Option Int), m < 7 → Binary64.round m ≠ Binary64.round 7 :=
  integer_bounds_exact_iff doubles rfl _ bounded (some (2 ^ 53 + 1)) none ⟨rfl, rfl⟩ rfl 7 "$"

open SampleSchema in
/-- The integer below the bound is accepted. -/
theorem below_bound_accepted :
    ¬ (validateTypedInstance doubles (fun _ _ _ => .ok ()) bounded "integer" (.int (2 ^ 53)) "$" = .ok () ↔
      (2 ^ 53 + 1 : Int) ≤ 2 ^ 53) := by
  have hbounds : IntegerBounds bounded (some (2 ^ 53 + 1)) none := ⟨rfl, rfl⟩
  rw [accepts_rounded_iff doubles _ hbounds]
  simp only [Option.mem_some_iff, forall_eq', Option.not_mem_none, false_implies, implies_true, and_true]
  decide

end Rho
