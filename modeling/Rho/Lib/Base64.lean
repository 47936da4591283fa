import Mathlib.Tactic.Common

/-!
# Base64

The standard alphabet with padding: three bytes are written as four characters of six bits each, and what is left at the end is filled
up with equals signs. What is written is read back as the bytes it was written from.
-/

namespace Base64

/-- The character of six bits. -/
def digit (n : Nat) : Char :=
  if n < 26 then Char.ofNat (65 + n)
  else if n < 52 then Char.ofNat (71 + n)
  else if n < 62 then Char.ofNat (n - 4)
  else if n = 62 then '+'
  else '/'

/-- The six bits of a character. -/
def value (c : Char) : Option Nat :=
  if 'A' ≤ c ∧ c ≤ 'Z' then some (c.toNat - 65)
  else if 'a' ≤ c ∧ c ≤ 'z' then some (c.toNat - 71)
  else if '0' ≤ c ∧ c ≤ '9' then some (c.toNat + 4)
  else if c = '+' then some 62
  else if c = '/' then some 63
  else none

/-- Three bytes as one number. -/
def pack (a b c : UInt8) : Nat := a.toNat * 65536 + b.toNat * 256 + c.toNat

def encode : List UInt8 → List Char
  | [] => []
  | [a] => [digit (pack a 0 0 / 262144), digit (pack a 0 0 / 4096 % 64), '=', '=']
  | [a, b] => [digit (pack a b 0 / 262144), digit (pack a b 0 / 4096 % 64), digit (pack a b 0 / 64 % 64), '=']
  | a :: b :: c :: bytes =>
    digit (pack a b c / 262144) :: digit (pack a b c / 4096 % 64) :: digit (pack a b c / 64 % 64) :: digit (pack a b c % 64) ::
      encode bytes

/-- The last group, with one byte or two. The bits that no byte takes are zero. -/
def decodeLast (w x : Nat) : Option Nat → Option (List UInt8)
  | none => if x % 16 = 0 then some [UInt8.ofNat (w * 4 + x / 16)] else none
  | some y => if y % 4 = 0 then some [UInt8.ofNat (w * 4 + x / 16), UInt8.ofNat (x % 16 * 16 + y / 4)] else none

def decode : List Char → Option (List UInt8)
  | [] => some []
  | [w, x, '=', '='] => do decodeLast (← value w) (← value x) none
  | [w, x, y, '='] => do decodeLast (← value w) (← value x) (some (← value y))
  | w :: x :: y :: z :: rest => do
    let w ← value w
    let x ← value x
    let y ← value y
    let z ← value z
    return UInt8.ofNat (w * 4 + x / 16) :: UInt8.ofNat (x % 16 * 16 + y / 4) :: UInt8.ofNat (y % 4 * 64 + z) :: (← decode rest)
  | _ => none

/-! ## Reading back -/

theorem value_digit {n : Nat} (h : n < 64) : value (digit n) = some n := by
  have hall : ∀ i : Fin 64, value (digit i) = some i.val := by decide
  exact hall ⟨n, h⟩

/-- No six bits are written as the padding. -/
theorem digit_ne_pad {n : Nat} (h : n < 64) : digit n ≠ '=' := by
  intro hpad
  have hvalue := value_digit h
  rw [hpad] at hvalue
  cases hvalue

theorem pack_lt (a b c : UInt8) : pack a b c < 16777216 := by
  have ha := a.toNat_lt
  have hb := b.toNat_lt
  have hc := c.toNat_lt
  unfold pack
  omega

theorem ofNat_eq {n : Nat} {a : UInt8} (h : n = a.toNat) : UInt8.ofNat n = a := by
  rw [h, UInt8.ofNat_toNat]

/-- The bytes of what was packed. -/
theorem unpack_first (a b c : UInt8) : UInt8.ofNat (pack a b c / 262144 * 4 + pack a b c / 4096 % 64 / 16) = a := by
  have hb := b.toNat_lt
  have hc := c.toNat_lt
  refine ofNat_eq ?_
  unfold pack
  omega

theorem unpack_second (a b c : UInt8) : UInt8.ofNat (pack a b c / 4096 % 64 % 16 * 16 + pack a b c / 64 % 64 / 4) = b := by
  have hb := b.toNat_lt
  have hc := c.toNat_lt
  refine ofNat_eq ?_
  unfold pack
  omega

theorem unpack_third (a b c : UInt8) : UInt8.ofNat (pack a b c / 64 % 64 % 4 * 64 + pack a b c % 64) = c := by
  have hc := c.toNat_lt
  refine ofNat_eq ?_
  unfold pack
  omega

/-- What is written is read back. -/
theorem decode_encode (bytes : List UInt8) : decode (encode bytes) = some bytes := by
  induction bytes using encode.induct with
  | case1 => rfl
  | case2 a =>
    have hlt := pack_lt a 0 0
    have hx : pack a 0 0 / 4096 % 64 % 16 = 0 := by
      unfold pack
      simp only [UInt8.toNat_zero]
      omega
    simp only [encode, decode, value_digit (show pack a 0 0 / 262144 < 64 by omega), value_digit (Nat.mod_lt _ (by decide : 0 < 64)),
      decodeLast, Option.bind_eq_bind, Option.bind_some, hx, if_true, unpack_first]
  | case3 a b =>
    have hlt := pack_lt a b 0
    have hy : pack a b 0 / 64 % 64 % 4 = 0 := by
      unfold pack
      simp only [UInt8.toNat_zero]
      omega
    rw [encode, decode]
    · simp only [value_digit (show pack a b 0 / 262144 < 64 by omega), value_digit (Nat.mod_lt _ (by decide : 0 < 64)),
        decodeLast, Option.bind_eq_bind, Option.bind_some, hy, if_true, unpack_first, unpack_second]
    · exact digit_ne_pad (Nat.mod_lt _ (by decide))
  | case4 a b c bytes ih =>
    have hlt := pack_lt a b c
    rw [encode, decode]
    · simp only [value_digit (show pack a b c / 262144 < 64 by omega), value_digit (Nat.mod_lt _ (by decide : 0 < 64)),
        Option.bind_eq_bind, Option.bind_some, ih, unpack_first, unpack_second, unpack_third]
      rfl
    · exact fun hz => absurd hz (digit_ne_pad (Nat.mod_lt _ (by decide)))
    · exact fun hz => absurd hz (digit_ne_pad (Nat.mod_lt _ (by decide)))

/-! ## With and without padding -/

section Padding

variable (last : Nat → Nat → Option Nat → Option (List UInt8))

/-- Reads a padded text, given what the last group is read as. -/
def decodePadded : List Char → Option (List UInt8)
  | [] => some []
  | [w, x, '=', '='] => do last (← value w) (← value x) none
  | [w, x, y, '='] => do last (← value w) (← value x) (some (← value y))
  | w :: x :: y :: z :: rest => do
    let w ← value w
    let x ← value x
    let y ← value y
    let z ← value z
    return UInt8.ofNat (w * 4 + x / 16) :: UInt8.ofNat (x % 16 * 16 + y / 4) :: UInt8.ofNat (y % 4 * 64 + z) :: (← decodePadded rest)
  | _ => none

/-- Reads a text without padding. -/
def decodeUnpadded : List Char → Option (List UInt8)
  | [] => some []
  | [w, x] => do last (← value w) (← value x) none
  | [w, x, y] => do last (← value w) (← value x) (some (← value y))
  | w :: x :: y :: z :: rest => do
    let w ← value w
    let x ← value x
    let y ← value y
    let z ← value z
    return UInt8.ofNat (w * 4 + x / 16) :: UInt8.ofNat (x % 16 * 16 + y / 4) :: UInt8.ofNat (y % 4 * 64 + z) ::
      (← decodeUnpadded rest)
  | _ => none

variable {last}

/-- The signs that fill up the last group of so many characters. -/
def padding (length : Nat) : List Char := List.replicate ((4 - length % 4) % 4) '='

theorem ne_pad {c : Char} (h : (value c).isSome) : c ≠ '=' := by
  rintro rfl
  cases h

/-- A text that is filled up is read as what it was before. -/
theorem decodePadded_padding {core : List Char} (hcore : ∀ c ∈ core, (value c).isSome) :
    decodePadded last (core ++ padding core.length) = decodeUnpadded last core := by
  induction core using decodeUnpadded.induct with
  | case1 => rfl
  | case2 w x => rfl
  | case3 w x y =>
    have hy := ne_pad (hcore y (by simp))
    rw [decodeUnpadded]
    exact decodePadded.eq_3 last w x y hy
  | case4 w x y z rest ih =>
    have hz := ne_pad (hcore z (by simp))
    have hlength : padding (w :: x :: y :: z :: rest).length = padding rest.length := by
      unfold padding
      simp only [List.length_cons]
      congr 1
      omega
    rw [hlength, List.cons_append, List.cons_append, List.cons_append, List.cons_append, decodePadded, decodeUnpadded,
      ih fun c hc => hcore c (by simp [hc])]
    · exact fun _ h => absurd h hz
    · exact fun h => absurd h hz
  | case5 core hnil htwo hthree hmore =>
    obtain _ | ⟨w, _ | ⟨x, _ | ⟨y, _ | ⟨z, rest⟩⟩⟩⟩ := core
    · exact absurd rfl hnil
    · change ((value w).bind fun w => (value '=').bind fun x => last w x none) = none
      cases value w with
      | none => rfl
      | some n => rfl
    · exact absurd rfl (htwo w x)
    · exact absurd rfl (hthree w x y)
    · exact absurd rfl (hmore w x y z rest)

/-- The last group with the bits that no byte takes ignored. -/
def lastForgiving (w x : Nat) : Option Nat → Option (List UInt8)
  | none => some [UInt8.ofNat (w * 4 + x / 16)]
  | some y => some [UInt8.ofNat (w * 4 + x / 16), UInt8.ofNat (x % 16 * 16 + y / 4)]

end Padding

end Base64
