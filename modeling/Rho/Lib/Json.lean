import Mathlib.Algebra.Group.Int.Defs
import Mathlib.Algebra.GroupWithZero.Nat
import Mathlib.Data.String.Basic
import Mathlib.Tactic.Common
import Rho.Lib.OrdMap

/-!
# JSON values

Values as a generic JSON library hands them to a program: the accessors, the order of an object's keys and the text a value is
written as. An integer is kept as a number and a float as its text.
-/

inductive Json where
  | null
  | bool (b : Bool)
  | int (n : Int)
  | float (text : String)
  | str (s : String)
  | arr (l : List Json)
  | obj (fields : List (String × Json))
  deriving Repr, Inhabited

namespace Json

/-! ## Equality -/

mutual

def beq : Json → Json → Bool
  | null, null => true
  | bool a, bool b => a == b
  | int a, int b => a == b
  | float a, float b => a == b
  | str a, str b => a == b
  | arr a, arr b => beqList a b
  | obj a, obj b => beqFields a b
  | _, _ => false

def beqList : List Json → List Json → Bool
  | [], [] => true
  | a :: l, b :: l' => beq a b && beqList l l'
  | _, _ => false

def beqFields : List (String × Json) → List (String × Json) → Bool
  | [], [] => true
  | (k, a) :: l, (k', b) :: l' => k == k' && beq a b && beqFields l l'
  | _, _ => false

end

mutual

theorem beq_iff : ∀ a b : Json, beq a b = true ↔ a = b
  | null, b => by cases b <;> simp [beq]
  | bool _, b => by cases b <;> simp [beq]
  | int _, b => by cases b <;> simp [beq]
  | float _, b => by cases b <;> simp [beq]
  | str _, b => by cases b <;> simp [beq]
  | arr l, b => by cases b <;> simp [beq, beqList_iff l]
  | obj l, b => by cases b <;> simp [beq, beqFields_iff l]

theorem beqList_iff : ∀ l l' : List Json, beqList l l' = true ↔ l = l'
  | [], l' => by cases l' <;> simp [beqList]
  | a :: l, l' => by cases l' <;> simp [beqList, beq_iff a, beqList_iff l]

theorem beqFields_iff : ∀ l l' : List (String × Json), beqFields l l' = true ↔ l = l'
  | [], l' => by cases l' <;> simp [beqFields]
  | (k, a) :: l, l' => by
    cases l' with
    | nil => simp [beqFields]
    | cons p l' =>
      obtain ⟨k', b⟩ := p
      simp [beqFields, beq_iff a, beqFields_iff l, and_assoc]

end

instance : DecidableEq Json := fun a b => decidable_of_iff (beq a b = true) (beq_iff a b)

/-! ## Accessors -/

/-- The value of a key of an object. -/
def get (v : Json) (key : String) : Option Json :=
  match v with
  | obj fields => OrdMap.get fields key
  | _ => none

def asStr : Json → Option String
  | str s => some s
  | _ => none

def asBool : Json → Option Bool
  | bool b => some b
  | _ => none

def asArray : Json → Option (List Json)
  | arr l => some l
  | _ => none

def asObject : Json → Option (List (String × Json))
  | obj fields => some fields
  | _ => none

/-- An integer of the unsigned 64-bit range. -/
def asU64 : Json → Option Nat
  | int n => if 0 ≤ n ∧ n < 2 ^ 64 then some n.toNat else none
  | _ => none

/-- An integer of the signed 64-bit range. -/
def asI64 : Json → Option Int
  | int n => if -2 ^ 63 ≤ n ∧ n < 2 ^ 63 then some n else none
  | _ => none

/-! ## Objects as maps

A parsed object is a map ordered by key; of several fields with one key the last counts. -/

mutual

/-- Every object, at any depth, as a map. -/
def normalize : Json → Json
  | arr l => arr (normalizeList l)
  | obj fields => obj (OrdMap.ofList (normalizeFields fields))
  | null => null
  | bool b => bool b
  | int n => int n
  | float t => float t
  | str s => str s

def normalizeList : List Json → List Json
  | [] => []
  | v :: l => normalize v :: normalizeList l

def normalizeFields : List (String × Json) → List (String × Json)
  | [] => []
  | (k, v) :: l => (k, normalize v) :: normalizeFields l

end

theorem normalizeList_eq_map (l : List Json) : normalizeList l = l.map normalize := by
  induction l with
  | nil => rfl
  | cons v l ih => rw [normalizeList, ih, List.map_cons]

theorem normalizeFields_eq_map (l : List (String × Json)) : normalizeFields l = l.map (fun f => (f.1, normalize f.2)) := by
  induction l with
  | nil => rfl
  | cons f l ih => rw [normalizeFields, ih, List.map_cons]

/-- The value of a key in an object read as a map: the last field with the key. -/
theorem get_normalize_obj (fields : List (String × Json)) (key : String) :
    (normalize (obj fields)).get key = (OrdMap.get fields.reverse key).map normalize := by
  simp only [normalize, get]
  rw [OrdMap.get_ofList, normalizeFields_eq_map, ← List.map_reverse]
  simp only [OrdMap.get, List.find?_map, Option.map_map]
  rfl

/-! ## Text -/

/-- A lower-case hexadecimal digit. -/
def hexDigit (n : Nat) : Char := "0123456789abcdef".toList.getD n '0'

/-- A character inside a JSON string. -/
def escapeChar (c : Char) : List Char :=
  if c = '"' then ['\\', '"']
  else if c = '\\' then ['\\', '\\']
  else if c = '\x08' then ['\\', 'b']
  else if c = '\t' then ['\\', 't']
  else if c = '\n' then ['\\', 'n']
  else if c = '\x0c' then ['\\', 'f']
  else if c = '\r' then ['\\', 'r']
  else if c.toNat < 32 then ['\\', 'u', '0', '0', hexDigit (c.toNat / 16), hexDigit (c.toNat % 16)]
  else [c]

/-- A string between its quotes. -/
def quote (s : String) : List Char := '"' :: (s.toList.flatMap escapeChar ++ ['"'])

/-- The decimal text of an integer. -/
def printInt (n : Int) : List Char :=
  if n < 0 then '-' :: Nat.toDigits 10 n.natAbs else Nat.toDigits 10 n.natAbs

mutual

/-- The compact text of a value, the fields of an object in the order in which they are listed. -/
def print : Json → List Char
  | null => ['n', 'u', 'l', 'l']
  | bool true => ['t', 'r', 'u', 'e']
  | bool false => ['f', 'a', 'l', 's', 'e']
  | int n => printInt n
  | float t => t.toList
  | str s => quote s
  | arr [] => ['[', ']']
  | arr (v :: l) => '[' :: (print v ++ printElems l)
  | obj [] => ['\x7b', '\x7d']
  | obj ((k, v) :: l) => '\x7b' :: (quote k ++ ':' :: (print v ++ printFields l))

/-- The elements after the first, and the end of the array. -/
def printElems : List Json → List Char
  | [] => [']']
  | v :: l => ',' :: (print v ++ printElems l)

/-- The fields after the first, and the end of the object. -/
def printFields : List (String × Json) → List Char
  | [] => ['\x7d']
  | (k, v) :: l => ',' :: (quote k ++ ':' :: (print v ++ printFields l))

end

/-- The text of a value. -/
def toText (v : Json) : String := String.ofList v.print

/-- The bytes of a text. -/
def bytes (l : List Char) : Nat := (String.ofList l).utf8ByteSize

theorem bytes_append (l l' : List Char) : bytes (l ++ l') = bytes l + bytes l' := by
  unfold bytes
  rw [String.ofList_append, String.utf8ByteSize_append]

theorem bytes_nil : bytes [] = 0 := rfl

theorem bytes_cons (c : Char) (l : List Char) : bytes (c :: l) = c.utf8Size + bytes l := by
  have happend := bytes_append [c] l
  have hone : bytes [c] = c.utf8Size := by
    unfold bytes
    rw [← String.singleton_eq_ofList, String.utf8ByteSize_singleton]
  rwa [hone] at happend

theorem bytes_replicate (n : Nat) (c : Char) : bytes (List.replicate n c) = n * c.utf8Size := by
  induction n with
  | zero => rw [List.replicate_zero, bytes_nil, Nat.zero_mul]
  | succ n ih => rw [List.replicate_succ, bytes_cons, ih, Nat.succ_mul, Nat.add_comm]

theorem bytes_bounds (l : List Char) : l.length ≤ bytes l ∧ bytes l ≤ 4 * l.length := by
  induction l with
  | nil => exact ⟨Nat.le_refl _, Nat.le_refl _⟩
  | cons c l ih =>
    rw [bytes_cons, List.length_cons]
    have hleast := Char.utf8Size_pos c
    have hmost := Char.utf8Size_le_four c
    omega

theorem loop_toList (b : ByteArray) (i : Nat) (r : List UInt8) :
    ByteArray.toList.loop b i r = r.reverse ++ b.data.toList.drop i := by
  fun_induction ByteArray.toList.loop b i r with
  | case1 i r h ih =>
    rw [ih, List.reverse_cons, List.append_assoc, List.singleton_append, List.drop_eq_getElem_cons (i := i) (by simpa using h)]
    congr 2
    simp [ByteArray.get!, getElem!_pos, h]
  | case2 i r h => rw [List.drop_eq_nil_of_le (by simpa using h), List.append_nil]

theorem toList_eq_data (b : ByteArray) : b.toList = b.data.toList := by
  rw [ByteArray.toList, loop_toList]
  rfl

/-- The bytes of a text are read as the text. -/
theorem fromUTF8_toList (s : String) : String.fromUTF8? ⟨s.toUTF8.toList.toArray⟩ = some s := by
  rw [toList_eq_data]
  exact dif_pos s.isValidUTF8

theorem length_toUTF8 (s : String) : s.toUTF8.toList.length = s.utf8ByteSize := by
  rw [toList_eq_data]
  rfl

end Json
