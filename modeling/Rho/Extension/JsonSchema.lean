import Rho.Extension.Model
import Rho.Server.Bridge

/-!
# Schemas of contribution calls

The closed subset of JSON Schema that a contribution may declare (`json_schema.rs`): the check that a value is such a schema, with
its bounds, and the check of an instance against a schema that has passed. The second check relies on the first one; where it
does, it panics instead of returning an error.
-/

namespace Rho

def maxContributionSchemaBytes : Nat := 64 * 1024
def maxContributionSchemaDepth : Nat := 8
def maxContributionSchemaProperties : Nat := 128
def maxContributionSchemaEnumValues : Nat := 128

structure JsonSchemaError where
  reason : String
  deriving DecidableEq, Repr

/-! ## Numbers -/

/-- The floating-point numbers behind JSON numbers: what an integer and what the text of a float are read as, and the text a float
is written back as. Two of them are compared by their order. -/
structure Numbers (F : Type) where
  ofInt : Int → F
  ofFloat : String → F
  floatText : String → String

variable {F : Type} [LinearOrder F] (num : Numbers F)

/-- `Value::as_f64`. -/
def Numbers.asF64 : Json → Option F
  | .int n => some (num.ofInt n)
  | .float text => some (num.ofFloat text)
  | _ => none

mutual

/-- Equality of JSON values: floats are compared as numbers, and a float is no integer. -/
def Numbers.same : Json → Json → Bool
  | .null, .null => true
  | .bool a, .bool b => a == b
  | .int a, .int b => a == b
  | .float a, .float b => decide (num.ofFloat a = num.ofFloat b)
  | .str a, .str b => a == b
  | .arr a, .arr b => Numbers.sameList a b
  | .obj a, .obj b => Numbers.sameFields a b
  | _, _ => false

def Numbers.sameList : List Json → List Json → Bool
  | [], [] => true
  | a :: l, b :: l' => Numbers.same a b && Numbers.sameList l l'
  | _, _ => false

def Numbers.sameFields : List (String × Json) → List (String × Json) → Bool
  | [], [] => true
  | (k, a) :: l, (k', b) :: l' => k == k' && Numbers.same a b && Numbers.sameFields l l'
  | _, _ => false

end

mutual

/-- A value with its floats as they are written. -/
def Numbers.written : Json → Json
  | .float text => .float (num.floatText text)
  | .arr l => .arr (Numbers.writtenList l)
  | .obj fields => .obj (Numbers.writtenFields fields)
  | .null => .null
  | .bool b => .bool b
  | .int n => .int n
  | .str s => .str s

def Numbers.writtenList : List Json → List Json
  | [] => []
  | v :: l => Numbers.written v :: Numbers.writtenList l

def Numbers.writtenFields : List (String × Json) → List (String × Json)
  | [] => []
  | (k, v) :: l => (k, Numbers.written v) :: Numbers.writtenFields l

end

/-- `value_matches_type`. -/
def valueMatchesType (value : Json) (schemaType : String) : Bool :=
  match schemaType with
  | "object" => value.asObject.isSome
  | "array" => value.asArray.isSome
  | "string" => value.asStr.isSome
  | "number" =>
    match value with
    | .int _ | .float _ => true
    | _ => false
  | "integer" => value.asI64.isSome || value.asU64.isSome
  | "boolean" => value.asBool.isSome
  | "null" => decide (value = .null)
  | _ => false

def containsBidiOverride (value : String) : Bool :=
  value.toList.any fun c => c.toNat == 0x061c || c.toNat == 0x200e || c.toNat == 0x200f ||
    (decide (0x202a ≤ c.toNat) && decide (c.toNat ≤ 0x202e)) || (decide (0x2066 ≤ c.toNat) && decide (c.toNat ≤ 0x2069))

/-! ## The check of a schema -/

structure SchemaBudget where
  properties : Nat
  enumValues : Nat
  deriving DecidableEq, Repr

def schemaKeywords : List String :=
  ["type", "required", "properties", "items", "enum", "minimum", "maximum", "minLength", "maxLength", "minItems", "maxItems"]

def schemaTypes : List String := ["object", "array", "string", "number", "integer", "boolean", "null"]

/-- The keywords that only one type has. -/
def keywordOwners : List (String × String) :=
  [("required", "object"), ("properties", "object"), ("items", "array"), ("minLength", "string"), ("maxLength", "string"),
    ("minItems", "array"), ("maxItems", "array")]

def schemaError {α : Type} (reason : String) : Except JsonSchemaError α := .error ⟨reason⟩

/-- An option, or the error that stands for its absence. -/
def orSchemaError {α : Type} (value : Option α) (reason : String) : Except JsonSchemaError α :=
  match value with
  | some v => .ok v
  | none => schemaError reason

/-- A condition, or the error that it has failed. -/
def ensureSchema (condition : Bool) (reason : String) : Except JsonSchemaError Unit :=
  if condition then .ok () else schemaError reason

/-- A keyword that may be absent and otherwise must be of one kind. -/
def optionalKeyword {α : Type} (value : Option Json) (read : Json → Option α) (reason : String) :
    Except JsonSchemaError (Option α) :=
  match value with
  | none => .ok none
  | some v => some <$> orSchemaError (read v) reason

/-- `checked_add` of a budget. -/
def addToBudget (spent more : Nat) (reason : String) : Except JsonSchemaError Nat :=
  if spent + more < 2 ^ 64 then .ok (spent + more) else schemaError reason

def validateKeywordOwnership (object : List (String × Json)) (schemaType : String) : Except JsonSchemaError Unit := do
  keywordOwners.forM fun (keyword, owner) =>
    ensureSchema (!((OrdMap.get object keyword).isSome && schemaType != owner))
      (keyword ++ " is valid only for " ++ owner ++ " schemas")
  ensureSchema
    (!(((OrdMap.get object "minimum").isSome || (OrdMap.get object "maximum").isSome) &&
      !(schemaType == "number" || schemaType == "integer")))
    "minimum/maximum are valid only for numeric schemas"

/-- Both bounds, when both are there, in their order. -/
def ensureOrdered {α : Type} [LinearOrder α] (minimum maximum : Option α) (reason : String) : Except JsonSchemaError Unit :=
  match minimum, maximum with
  | some minimum, some maximum => ensureSchema (decide (minimum ≤ maximum)) reason
  | _, _ => .ok ()

def validateUnsignedBounds (object : List (String × Json)) (minimumKey maximumKey : String) : Except JsonSchemaError Unit := do
  let minimum ← optionalKeyword (OrdMap.get object minimumKey) Json.asU64 (minimumKey ++ " must be an integer")
  let maximum ← optionalKeyword (OrdMap.get object maximumKey) Json.asU64 (maximumKey ++ " must be an integer")
  ensureOrdered minimum maximum (minimumKey ++ " must not exceed " ++ maximumKey)

def validateNumericBounds (object : List (String × Json)) : Except JsonSchemaError Unit := do
  let minimum ← optionalKeyword (OrdMap.get object "minimum") num.asF64 "minimum must be a finite JSON number"
  let maximum ← optionalKeyword (OrdMap.get object "maximum") num.asF64 "maximum must be a finite JSON number"
  ensureOrdered minimum maximum "minimum must not exceed maximum"

/-- The `required` names of an object schema: strings, declared, each once. -/
def validateRequired (properties : List (String × Json)) : List String → List Json → Except JsonSchemaError Unit
  | _, [] => .ok ()
  | seen, item :: required => do
    let name ← orSchemaError item.asStr "required entries must be strings"
    ensureSchema (OrdMap.get properties name).isSome ("required property is undeclared: " ++ name)
    ensureSchema (!seen.contains name) ("duplicate required property: " ++ name)
    validateRequired properties (name :: seen) required

def safePropertyName (name : String) : Bool :=
  !name.isEmpty && decide (name.utf8ByteSize ≤ maxIdentifierBytes) && !name.toList.any isControl && !containsBidiOverride name

/-- `validate_object_schema`, with the check of a property's schema. -/
def validateObjectSchema (node : Json → SchemaBudget → Except JsonSchemaError SchemaBudget) (object : List (String × Json))
    (budget : SchemaBudget) : Except JsonSchemaError SchemaBudget := do
  let properties ← orSchemaError ((OrdMap.get object "properties").bind Json.asObject) "object schema requires properties"
  let spent ← addToBudget budget.properties properties.length "schema property budget overflow"
  ensureSchema (decide (spent ≤ maxContributionSchemaProperties)) "schema properties exceed 128"
  let budget ← properties.foldlM (fun budget property => do
    ensureSchema (safePropertyName property.1) "schema property name is empty, oversized, or unsafe"
    node property.2 budget) { budget with properties := spent }
  let required ← optionalKeyword (OrdMap.get object "required") Json.asArray "required must be an array"
  validateRequired properties [] (required.getD [])
  return budget

/-- The `enum` of a schema. -/
def validateEnum (object : List (String × Json)) (schemaType : String) (budget : SchemaBudget) :
    Except JsonSchemaError SchemaBudget :=
  match OrdMap.get object "enum" with
  | none => .ok budget
  | some values => do
    let values ← orSchemaError values.asArray "enum must be an array"
    ensureSchema (!values.isEmpty) "enum must not be empty"
    let spent ← addToBudget budget.enumValues values.length "schema enum budget overflow"
    ensureSchema (decide (spent ≤ maxContributionSchemaEnumValues)) "schema enum values exceed 128"
    values.forM fun item =>
      ensureSchema (valueMatchesType item schemaType) ("enum value does not match schema type " ++ schemaType)
    return { budget with enumValues := spent }

/-- The keywords of one type. -/
def validateTyped (node : Json → SchemaBudget → Except JsonSchemaError SchemaBudget) (object : List (String × Json))
    (schemaType : String) (budget : SchemaBudget) : Except JsonSchemaError SchemaBudget :=
  match schemaType with
  | "object" => validateObjectSchema node object budget
  | "array" => do
    let items ← orSchemaError (OrdMap.get object "items") "array schema requires items"
    let budget ← node items budget
    validateUnsignedBounds object "minItems" "maxItems"
    return budget
  | "string" => do
    validateUnsignedBounds object "minLength" "maxLength"
    return budget
  | "number" | "integer" => do
    validateNumericBounds num object
    return budget
  | _ => return budget

/-- `validate_schema_node`, with the number of levels that the node and what is below it may have. -/
def validateSchemaNode : Nat → Json → SchemaBudget → Except JsonSchemaError SchemaBudget
  | 0, _, _ => schemaError "schema depth exceeds 8"
  | levels + 1, value, budget => do
    let object ← orSchemaError value.asObject "every schema node must be an object"
    object.forM fun (key, _) => ensureSchema (schemaKeywords.contains key) ("unsupported schema keyword: " ++ key)
    let schemaType ← orSchemaError ((OrdMap.get object "type").bind Json.asStr) "schema type must be one string"
    ensureSchema (schemaTypes.contains schemaType) ("unsupported schema type: " ++ schemaType)
    validateKeywordOwnership object schemaType
    let budget ← validateTyped num (validateSchemaNode levels) object schemaType budget
    validateEnum object schemaType budget

/-- A schema that has passed the check. -/
structure BoundedJsonSchema where
  value : Json
  deriving DecidableEq

def BoundedJsonSchema.new (value : Json) : Except JsonSchemaError BoundedJsonSchema := do
  ensureSchema (decide ((num.written value).toText.utf8ByteSize ≤ maxContributionSchemaBytes)) "schema exceeds 65536 bytes"
  let _ ← validateSchemaNode num maxContributionSchemaDepth value ⟨0, 0⟩
  return ⟨value⟩

/-! ## The check of an instance -/

/-- How the check of an instance ends without success. -/
inductive InstanceFault where
  /-- An `expect` or an `unreachable!` that failed. -/
  | panicked
  /-- "instance depth exceeds schema budget". -/
  | tooDeep
  /-- The schema is not one that has passed the check. -/
  | malformed (error : JsonSchemaError)
  | rejected (error : JsonSchemaError)
  deriving DecidableEq, Repr

def expect {α : Type} (value : Option α) : Except InstanceFault α :=
  match value with
  | some v => .ok v
  | none => .error .panicked

def orMalformed {α : Type} (value : Option α) (reason : String) : Except InstanceFault α :=
  match value with
  | some v => .ok v
  | none => .error (.malformed ⟨reason⟩)

def ensureInstance (condition : Bool) (reason : String) : Except InstanceFault Unit :=
  if condition then .ok () else .error (.rejected ⟨reason⟩)

def validateLengthBounds (schema : List (String × Json)) (actual : Nat) (minimumKey maximumKey path : String) :
    Except InstanceFault Unit :=
  ensureInstance
    (!((((OrdMap.get schema minimumKey).bind Json.asU64).any fun minimum => actual < minimum) ||
      (((OrdMap.get schema maximumKey).bind Json.asU64).any fun maximum => maximum < actual)))
    (path ++ " is outside length bounds")

/-- The first member that is no property. -/
def validateDeclared (properties members : List (String × Json)) (path : String) : Except InstanceFault Unit :=
  match members.find? (fun m => (OrdMap.get properties m.1).isNone) with
  | some unknown => .error (.rejected ⟨path ++ " contains undeclared property " ++ unknown.1⟩)
  | none => .ok ()

/-- The required properties. -/
def validatePresent (object members : List (String × Json)) (path : String) : Except InstanceFault Unit :=
  match (OrdMap.get object "required").bind Json.asArray with
  | some required =>
    (required.filterMap Json.asStr).forM fun name =>
      ensureInstance (OrdMap.get members name).isSome (path ++ " is missing required property " ++ name)
  | none => .ok ()

/-- The members of an object, each against the schema of its property. -/
def validateMembers (node : Json → Json → String → Except InstanceFault Unit) (object properties : List (String × Json))
    (members : List (String × Json)) (path : String) : Except InstanceFault Unit := do
  validateDeclared properties members path
  validatePresent object members path
  members.forM fun (name, child) => do
    let childSchema ← expect (OrdMap.get properties name)
    node childSchema child (path ++ "." ++ name)

/-- The elements of an array, with the index of the first one. -/
def validateItems (node : Json → Json → String → Except InstanceFault Unit) (items : Json) (path : String) :
    Nat → List Json → Except InstanceFault Unit
  | _, [] => .ok ()
  | index, child :: rest => do
    node items child (path ++ "[" ++ toString index ++ "]")
    validateItems node items path (index + 1) rest

/-- What the type of a schema asks of an instance. -/
def validateTypedInstance (node : Json → Json → String → Except InstanceFault Unit) (object : List (String × Json))
    (schemaType : String) (value : Json) (path : String) : Except InstanceFault Unit :=
  match schemaType with
  | "object" => do
    let members ← expect value.asObject
    let properties ← expect ((OrdMap.get object "properties").bind Json.asObject)
    validateMembers node object properties members path
  | "array" => do
    let values ← expect value.asArray
    validateLengthBounds object values.length "minItems" "maxItems" path
    let items ← expect (OrdMap.get object "items")
    validateItems node items path 0 values
  | "string" => do
    let text ← expect value.asStr
    validateLengthBounds object text.length "minLength" "maxLength" path
  | "number" | "integer" => do
    let number ← expect (num.asF64 value)
    ensureInstance
      (!((((OrdMap.get object "minimum").bind num.asF64).any fun minimum => number < minimum) ||
        (((OrdMap.get object "maximum").bind num.asF64).any fun maximum => maximum < number)))
      (path ++ " is outside numeric bounds")
  | "boolean" | "null" => .ok ()
  | _ => .error .panicked

/-- The `enum` of a schema, against an instance. -/
def validateAllowed (object : List (String × Json)) (value : Json) (path : String) : Except InstanceFault Unit :=
  match (OrdMap.get object "enum").bind Json.asArray with
  | some allowed => ensureInstance (allowed.any fun v => num.same v value) (path ++ " is not in enum")
  | none => .ok ()

/-- `validate_instance_node`, with the number of levels left. -/
def validateInstanceNode : Nat → Json → Json → String → Except InstanceFault Unit
  | 0, _, _, _ => .error .tooDeep
  | levels + 1, schema, value, path => do
    let object ← orMalformed schema.asObject "validated schema node is not an object"
    let schemaType ← orMalformed ((OrdMap.get object "type").bind Json.asStr) "validated schema has no type"
    ensureInstance (valueMatchesType value schemaType) (path ++ " does not match type " ++ schemaType)
    validateAllowed num object value path
    validateTypedInstance num (validateInstanceNode levels) object schemaType value path

def BoundedJsonSchema.validateInstance (schema : BoundedJsonSchema) (value : Json) : Except InstanceFault Unit :=
  validateInstanceNode num maxContributionSchemaDepth schema.value value "$"

end Rho
