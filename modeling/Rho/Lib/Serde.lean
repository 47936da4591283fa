import Rho.Lib.JsonParse

/-!
# Records from JSON

How a deserializer that is derived for a record reads a JSON value: an object with the fields of the record, each at most once, or
an array that lists them in their order. A value that it refuses is read as nothing.
-/

namespace Serde

/-! ## Values -/

def string : Json → Option String := Json.asStr

/-- An unsigned 64-bit number. -/
def u64 : Json → Option Nat := Json.asU64

def list {α : Type} (read : Json → Option α) : Json → Option (List α)
  | .arr values => values.mapM read
  | _ => none

/-- A variant without data: its name, or an object with its name and null. -/
def unitVariant {α : Type} (variants : List (String × α)) : Json → Option α
  | .str name => variants.lookup name
  | .obj [(name, .null)] => variants.lookup name
  | _ => none

/-! ## Fields -/

/-- A field without which there is no record. -/
def required {α : Type} (read : Json → Option α) (value : Option Json) : Option α := value.bind read

/-- A field that has a default. -/
def withDefault {α : Type} (read : Json → Option α) (default : α) : Option Json → Option α
  | none => some default
  | some value => read value

/-- A field that may be absent or null. -/
def optional {α : Type} (read : Json → Option α) : Option Json → Option (Option α)
  | none | some .null => some none
  | some value => (read value).map some

/-- The values of the fields of a record in their order, nothing for a field that is absent. -/
def fields (denyUnknown : Bool) (names : List String) : Json → Option (List (Option Json))
  | .obj entries =>
    if ((entries.map (·.1)).filter (names.contains ·)).Nodup ∧ ¬(denyUnknown = true ∧ entries.any (fun e => !names.contains e.1)) then
      some (names.map (OrdMap.get entries))
    else none
  | .arr values => if names.length < values.length then none else some ((List.range names.length).map fun i => (values)[i]?)
  | _ => none

/-! ## Texts -/

/-- `str::parse::<u64>`: digits after an optional plus sign. -/
def parseU64 (text : String) : Option Nat :=
  let digits := if text.toList.head? = some '+' then text.toList.drop 1 else text.toList
  if digits.isEmpty || !digits.all Char.isDigit then none
  else if Nat.ofDigitChars 10 digits 0 < 2 ^ 64 then some (Nat.ofDigitChars 10 digits 0)
  else none

end Serde
