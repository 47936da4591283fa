import Mathlib.Algebra.Group.Nat.Defs
import Mathlib.Data.Fin.Basic
import Mathlib.Tactic.Common

/-!
# Times and their RFC 3339 texts

A time in UTC by its civil fields, and the text that chrono's `to_rfc3339` gives it: a year of four digits, or with its sign where
four digits are not enough, and a fraction of as many groups of three digits as the time has. Where the year has four digits, a text
is before another as soon as its time is: the offset `+` that ends a shorter fraction is before every digit and before the point.
-/

namespace Rfc3339

/-- A time in UTC; a leap second is the second 60. -/
structure UtcTime where
  year : Int
  month : Fin 13
  day : Fin 32
  hour : Fin 24
  minute : Fin 60
  second : Fin 61
  nano : Fin 1000000000
  deriving DecidableEq

/-- The one time is before the other. -/
def UtcTime.Before (t u : UtcTime) : Prop :=
  t.year < u.year ∨ (t.year = u.year ∧ (t.month < u.month ∨ (t.month = u.month ∧ (t.day < u.day ∨ (t.day = u.day ∧
    (t.hour < u.hour ∨ (t.hour = u.hour ∧ (t.minute < u.minute ∨ (t.minute = u.minute ∧
      (t.second < u.second ∨ (t.second = u.second ∧ t.nano < u.nano)))))))))))

/-! ## Digits -/

def digit (n : Nat) : Char := Char.ofNat (48 + n % 10)

/-- The last digits of a number, as many as asked for. -/
def digits : Nat → Nat → List Char
  | 0, _ => []
  | w + 1, n => digit (n / 10 ^ w) :: digits w (n % 10 ^ w)

variable {a b w c c' b' : Nat} {t u : UtcTime}

theorem digit_lt (h : a < b) (hb : b < 10) : digit a < digit b := by
  have hall : ∀ b : Fin 10, ∀ a : Fin 10, a < b → digit a < digit b := by decide
  exact hall ⟨b, hb⟩ ⟨a, by omega⟩ h

/-- Every digit is after the signs. -/
theorem plus_lt_digit (n : Nat) : '+' < digit n := by
  have hall : ∀ d : Fin 10, '+' < Char.ofNat (48 + d) := by decide
  exact hall ⟨n % 10, Nat.mod_lt n (by decide)⟩

theorem minus_lt_digit (n : Nat) : '-' < digit n := by
  have hall : ∀ d : Fin 10, '-' < Char.ofNat (48 + d) := by decide
  exact hall ⟨n % 10, Nat.mod_lt n (by decide)⟩

/-- Numbers of the same width are before each other as their texts are. -/
theorem digits_lt (h : a < b) (hb : b < 10 ^ w) (x y : List Char) : digits w a ++ x < digits w b ++ y := by
  induction w generalizing a b with
  | zero => omega
  | succ w ih =>
    have hpow : 0 < 10 ^ w := Nat.pow_pos (by decide)
    have hfirst : a / 10 ^ w ≤ b / 10 ^ w := Nat.div_le_div_right (Nat.le_of_lt h)
    have hbound : b / 10 ^ w < 10 := by
      rw [Nat.div_lt_iff_lt_mul hpow]
      rw [Nat.pow_succ] at hb
      omega
    simp only [digits, List.cons_append, List.cons_lt_cons_iff]
    rcases Nat.lt_or_eq_of_le hfirst with hlt | heq
    · exact .inl (digit_lt hlt hbound)
    · refine .inr ⟨by rw [heq], ih ?_ (Nat.mod_lt b hpow)⟩
      have ha := Nat.div_add_mod a (10 ^ w)
      have hb' := Nat.div_add_mod b (10 ^ w)
      rw [heq] at ha
      omega

/-- A block of digits of the same width, and what comes after it. -/
theorem digits_append_lt (hb : b < 10 ^ w) {x y : List Char} (h : a < b ∨ (a = b ∧ x < y)) :
    digits w a ++ x < digits w b ++ y := by
  rcases h with h | ⟨rfl, h⟩
  · exact digits_lt h hb x y
  · exact List.append_left_lt h

/-! ## The text -/

/-- A number above nothing begins with a digit, and so does any text that begins with it. -/
theorem cons_lt_digits {c : Char} (hc : ∀ n, c < digit n) (w n : Nat) (x y : List Char) :
    c :: x < digits (w + 1) n ++ y := by
  rw [digits, List.cons_append, List.cons_lt_cons_iff]
  exact .inl (hc _)

def offset : List Char := "+00:00".toList

/-- The third group of digits of a fraction, if there is one. -/
def nanoTail (c : Nat) : List Char := if c = 0 then offset else digits 3 c ++ offset

/-- The second and the third. -/
def microTail (b c : Nat) : List Char := if b = 0 ∧ c = 0 then offset else digits 3 b ++ nanoTail c

/-- The fraction and the offset, from the three groups of digits. -/
def milliTail (a b c : Nat) : List Char := if a = 0 ∧ b = 0 ∧ c = 0 then offset else '.' :: (digits 3 a ++ microTail b c)

/-- `SecondsFormat::AutoSi`: no fraction, or as many groups of three digits as it takes. -/
def fractionText (nano : Nat) : List Char := milliTail (nano / 1000000) (nano / 1000 % 1000) (nano % 1000)

/-- A year of four digits; any other with its sign, and four digits at least. -/
def yearText (year : Int) : List Char :=
  if 0 ≤ year ∧ year ≤ 9999 then digits 4 year.toNat
  else (if 0 ≤ year then '+' else '-') :: digits (max 4 (Nat.toDigits 10 year.natAbs).length) year.natAbs

/-- `DateTime<Utc>::to_rfc3339`. -/
def UtcTime.toRfc3339 (t : UtcTime) : String :=
  String.ofList (yearText t.year ++ ('-' :: (digits 2 t.month ++ ('-' :: (digits 2 t.day ++ ('T' :: (digits 2 t.hour ++
    (':' :: (digits 2 t.minute ++ (':' :: (digits 2 t.second ++ fractionText t.nano)))))))))))

example : (⟨2024, 1, 1, 0, 0, 30, 0⟩ : UtcTime).toRfc3339 = "2024-01-01T00:00:30+00:00" := by decide

example : (⟨10000, 1, 1, 0, 0, 0, 500000000⟩ : UtcTime).toRfc3339 = "+10000-01-01T00:00:00.500+00:00" := by decide

theorem nanoTail_lt (h : c < c') (hc' : c' < 1000) : nanoTail c < nanoTail c' := by
  unfold nanoTail
  rw [if_neg (by omega : ¬ c' = 0)]
  split
  · exact cons_lt_digits plus_lt_digit 2 c' _ _
  · exact digits_lt h hc' _ _

theorem microTail_lt (h : b < b' ∨ (b = b' ∧ c < c')) (hb' : b' < 1000) (hc' : c' < 1000) : microTail b c < microTail b' c' := by
  unfold microTail
  rw [if_neg (by omega : ¬ (b' = 0 ∧ c' = 0))]
  split
  · exact cons_lt_digits plus_lt_digit 2 b' _ _
  · exact digits_append_lt hb' (h.imp id (And.imp id (nanoTail_lt · hc')))

theorem milliTail_lt {a' : Nat} (h : a < a' ∨ (a = a' ∧ (b < b' ∨ (b = b' ∧ c < c')))) (ha' : a' < 1000)
    (hb' : b' < 1000) (hc' : c' < 1000) : milliTail a b c < milliTail a' b' c' := by
  unfold milliTail
  rw [if_neg (by omega : ¬ (a' = 0 ∧ b' = 0 ∧ c' = 0))]
  split
  · rw [offset, show "+00:00".toList = '+' :: "00:00".toList from rfl, List.cons_lt_cons_iff]
    exact .inl (by decide)
  · rw [List.cons_lt_cons_iff]
    exact .inr ⟨rfl, digits_append_lt ha' (h.imp id (And.imp id (microTail_lt · hb' hc')))⟩

theorem fractionText_lt (h : a < b) (hb : b < 1000000000) : fractionText a < fractionText b := by
  refine milliTail_lt ?_ ?_ ?_ ?_
  · omega
  · omega
  · omega
  · omega

/-- A time that is before another one whose year has four digits has the text that is before. -/
theorem toRfc3339_lt (hyear : 0 ≤ u.year ∧ u.year ≤ 9999) (h : t.Before u) : t.toRfc3339 < u.toRfc3339 := by
  rw [String.lt_iff]
  unfold UtcTime.toRfc3339
  rw [String.toList_ofList, String.toList_ofList]
  by_cases hsame : 0 ≤ t.year ∧ t.year ≤ 9999
  · unfold yearText
    rw [if_pos hyear, if_pos hsame]
    -- field by field: the first one that differs decides
    have hskip : ∀ {c : Char} {x y : List Char}, x < y → c :: x < c :: y :=
      fun h => List.cons_lt_cons_iff.mpr (.inr ⟨rfl, h⟩)
    have hfield : ∀ {n : Nat} {a b : Fin n} {p : Prop} {x y : List Char}, n ≤ 100 → a < b ∨ (a = b ∧ p) → (p → x < y) →
        digits 2 a ++ x < digits 2 b ++ y := by
      intro n a b p x y hn h hxy
      refine digits_append_lt (by have := b.isLt; omega) ?_
      exact h.imp id (fun h => ⟨congrArg Fin.val h.1, hxy h.2⟩)
    refine digits_append_lt (by omega) ?_
    rcases h with h | ⟨hy, h⟩
    · exact .inl (by omega)
    · refine .inr ⟨by rw [hy], hskip (hfield (by decide) h fun h => hskip (hfield (by decide) h fun h => hskip
        (hfield (by decide) h fun h => hskip (hfield (by decide) h fun h => hskip (hfield (by decide) h ?_)))))⟩
      intro h
      exact fractionText_lt h u.nano.isLt
  · -- the sign of a year without four digits is before every digit
    unfold yearText
    rw [if_pos hyear, if_neg hsame, List.cons_append]
    refine cons_lt_digits ?_ 3 _ _ _
    intro n
    split
    · exact plus_lt_digit n
    · exact minus_lt_digit n

/-- Whether the year has four digits can be told from the text. -/
theorem year_of_toRfc3339_eq (hyear : 0 ≤ u.year ∧ u.year ≤ 9999) (h : t.toRfc3339 = u.toRfc3339) :
    0 ≤ t.year ∧ t.year ≤ 9999 := by
  by_contra hother
  have hlist := congrArg String.toList h
  unfold UtcTime.toRfc3339 at hlist
  rw [String.toList_ofList, String.toList_ofList] at hlist
  unfold yearText at hlist
  rw [if_pos hyear, if_neg hother, List.cons_append, digits, List.cons_append] at hlist
  obtain ⟨hsign, -⟩ := List.cons.inj hlist
  split at hsign
  · exact absurd (plus_lt_digit (u.year.toNat / 10 ^ 3)) (by rw [← hsign]; decide)
  · exact absurd (minus_lt_digit (u.year.toNat / 10 ^ 3)) (by rw [← hsign]; decide)

end Rfc3339
