import Rho.Lib.Json

/-!
# Parsing JSON

A parser of JSON texts as a generic JSON library has it: insignificant white space, the escapes of strings with surrogate pairs,
numbers, and a bound on the nesting. The text of a value without floats is read back as the value (`rawParse_print`).
-/

namespace Json

/-! ## The parser -/

/-- The text after insignificant white space. -/
def skipWs : List Char → List Char
  | c :: s => if c = ' ' ∨ c = '\t' ∨ c = '\n' ∨ c = '\r' then skipWs s else c :: s
  | [] => []

def hexVal (c : Char) : Option Nat :=
  if '0' ≤ c ∧ c ≤ '9' then some (c.toNat - '0'.toNat)
  else if 'a' ≤ c ∧ c ≤ 'f' then some (c.toNat - 'a'.toNat + 10)
  else if 'A' ≤ c ∧ c ≤ 'F' then some (c.toNat - 'A'.toNat + 10)
  else none

/-- Four hexadecimal digits. -/
def hex4 (a b c d : Char) : Option Nat := do
  return (((← hexVal a) * 16 + (← hexVal b)) * 16 + (← hexVal c)) * 16 + (← hexVal d)

/-- The character of a two-character escape. -/
def simpleEscape (c : Char) : Option Char :=
  if c = '"' then some '"'
  else if c = '\\' then some '\\'
  else if c = '/' then some '/'
  else if c = 'b' then some '\x08'
  else if c = 'f' then some '\x0c'
  else if c = 'n' then some '\n'
  else if c = 'r' then some '\r'
  else if c = 't' then some '\t'
  else none

/-- A character before what the rest of a string is read as. -/
def consChar (c : Char) : Option (List Char × List Char) → Option (List Char × List Char)
  | some (l, rest) => some (c :: l, rest)
  | none => none

/-- The characters of a string up to its closing quote, and the text after it. -/
def parseStringBody : List Char → Option (List Char × List Char)
  | [] => none
  | c :: s =>
    if c = '"' then some ([], s)
    else if c = '\\' then
      match s with
      | 'u' :: a :: b :: c :: d :: s =>
        match hex4 a b c d with
        | none => none
        | some n =>
          if n < 0xD800 ∨ 0xDFFF < n then consChar (Char.ofNat n) (parseStringBody s)
          else if 0xDBFF < n then none
          else
            match s with
            | '\\' :: 'u' :: a :: b :: c :: d :: s =>
              match hex4 a b c d with
              | none => none
              | some m =>
                if 0xDC00 ≤ m ∧ m ≤ 0xDFFF then
                  consChar (Char.ofNat (0x10000 + (n - 0xD800) * 0x400 + (m - 0xDC00))) (parseStringBody s)
                else none
            | _ => none
      | e :: s =>
        match simpleEscape e with
        | some c => consChar c (parseStringBody s)
        | none => none
      | [] => none
    else if c.toNat < 32 then none
    else consChar c (parseStringBody s)

/-- A string after its opening quote. -/
def parseString (s : List Char) : Option (String × List Char) :=
  (parseStringBody s).map (fun r => (String.ofList r.1, r.2))

/-- The fraction of a number, if there is one: its text and the rest. -/
def parseFraction : List Char → Option (List Char × List Char)
  | '.' :: s => if s.takeWhile Char.isDigit = [] then none else some ('.' :: s.takeWhile Char.isDigit, s.dropWhile Char.isDigit)
  | s => some ([], s)

/-- The exponent of a number, if there is one: its text and the rest. -/
def parseExponent : List Char → Option (List Char × List Char)
  | e :: s =>
    if e = 'e' ∨ e = 'E' then
      let sign := s.takeWhile (fun c => c = '+' ∨ c = '-')
      let s := s.dropWhile (fun c => c = '+' ∨ c = '-')
      if 1 < sign.length ∨ s.takeWhile Char.isDigit = [] then none
      else some (e :: (sign ++ s.takeWhile Char.isDigit), s.dropWhile Char.isDigit)
    else some ([], e :: s)
  | [] => some ([], [])

/-- The value of a number: an integer in the 64-bit ranges without fraction and exponent, a float otherwise. -/
def numberOf (negative : Bool) (digits fraction exponent : List Char) : Json :=
  let n := Nat.ofDigitChars 10 digits 0
  let text := String.ofList ((if negative then ['-'] else []) ++ digits ++ fraction ++ exponent)
  if fraction ≠ [] ∨ exponent ≠ [] then float text
  else if negative then
    if n ≠ 0 ∧ n ≤ 2 ^ 63 then int (-n) else float text
  else if n < 2 ^ 64 then int n else float text

/-- The digits of a number and what follows. -/
def parseUnsigned (negative : Bool) (s : List Char) : Option (Json × List Char) :=
  let digits := s.takeWhile Char.isDigit
  if digits = [] ∨ (1 < digits.length ∧ digits.head? = some '0') then none
  else
    match parseFraction (s.dropWhile Char.isDigit) with
    | none => none
    | some (fraction, s) =>
      match parseExponent s with
      | none => none
      | some (exponent, s) => some (numberOf negative digits fraction exponent, s)

def parseNumber : List Char → Option (Json × List Char)
  | '-' :: s => parseUnsigned true s
  | s => parseUnsigned false s

/-- The rest of a word, and its value. -/
def parseWord (word : List Char) (v : Json) (s : List Char) : Option (Json × List Char) :=
  if word.isPrefixOf s then some (v, s.drop word.length) else none

mutual

/-- A value. The first argument bounds the number of calls, the second the nesting that is left. -/
def parseValue : Nat → Nat → List Char → Option (Json × List Char)
  | 0, _, _ => none
  | n + 1, depth, s =>
    match skipWs s with
    | [] => none
    | c :: s =>
      if c = 'n' then parseWord ['u', 'l', 'l'] null s
      else if c = 't' then parseWord ['r', 'u', 'e'] (bool true) s
      else if c = 'f' then parseWord ['a', 'l', 's', 'e'] (bool false) s
      else if c = '"' then (parseString s).map (fun r => (str r.1, r.2))
      else if c = '[' then
        match depth with
        | 0 => none
        | depth + 1 =>
          match skipWs s with
          | ']' :: s => some (arr [], s)
          | s =>
            match parseValue n depth s with
            | none => none
            | some (v, s) => (parseElems n depth s).map (fun r => (arr (v :: r.1), r.2))
      else if c = '\x7b' then
        match depth with
        | 0 => none
        | depth + 1 =>
          match skipWs s with
          | '\x7d' :: s => some (obj [], s)
          | s => (parseField n depth s).map (fun r => (obj r.1, r.2))
      else parseNumber (c :: s)

/-- What follows an element of an array. -/
def parseElems : Nat → Nat → List Char → Option (List Json × List Char)
  | 0, _, _ => none
  | n + 1, depth, s =>
    match skipWs s with
    | ']' :: s => some ([], s)
    | ',' :: s =>
      match parseValue n depth s with
      | none => none
      | some (v, s) => (parseElems n depth s).map (fun r => (v :: r.1, r.2))
    | _ => none

/-- A field of an object and what follows it. -/
def parseField : Nat → Nat → List Char → Option (List (String × Json) × List Char)
  | 0, _, _ => none
  | n + 1, depth, s =>
    match skipWs s with
    | '"' :: s =>
      match parseString s with
      | none => none
      | some (key, s) =>
        match skipWs s with
        | ':' :: s =>
          match parseValue n depth s with
          | none => none
          | some (v, s) =>
            match skipWs s with
            | '\x7d' :: s => some ([(key, v)], s)
            | ',' :: s => (parseField n depth s).map (fun r => ((key, v) :: r.1, r.2))
            | _ => none
        | _ => none
    | _ => none

end

/-- Arrays and objects may be nested this deep. -/
def maxNesting : Nat := 127

/-- The value of a text, the fields of its objects as they are listed. -/
def rawParse (s : List Char) : Option Json :=
  match parseValue (s.length + 1) maxNesting s with
  | some (v, s) => if skipWs s = [] then some v else none
  | none => none

/-- The value of a text. -/
def fromText (s : String) : Option Json := (rawParse s.toList).map normalize

/-! ## Strings are read back -/

theorem hex4_control : ∀ n < 32, hex4 '0' '0' (hexDigit (n / 16)) (hexDigit (n % 16)) = some n := by
  decide

theorem parseStringBody_escapeChar (c : Char) (s : List Char) :
    parseStringBody (escapeChar c ++ s) = consChar c (parseStringBody s) := by
  unfold escapeChar
  split
  · rename_i h; subst h; rfl
  split
  · rename_i h; subst h; rfl
  split
  · rename_i h; subst h; rfl
  split
  · rename_i h; subst h; rfl
  split
  · rename_i h; subst h; rfl
  split
  · rename_i h; subst h; rfl
  split
  · rename_i h; subst h; rfl
  split
  · rename_i hlow
    have hlt : c.toNat < 0xD800 ∨ 0xDFFF < c.toNat := Or.inl (by omega)
    simp only [List.cons_append, List.nil_append]
    rw [parseStringBody.eq_def]
    simp only [show ('\\' : Char) ≠ '"' by decide, if_false, if_true]
    simp only [hex4_control c.toNat hlow, if_pos hlt, Char.ofNat_toNat]
  · rename_i hquote hback _ _ _ _ _ hlow
    rw [List.singleton_append, parseStringBody.eq_def]
    simp only [hquote, hback, hlow, if_false]

theorem parseStringBody_flatMap (l s : List Char) :
    parseStringBody (l.flatMap escapeChar ++ '"' :: s) = some (l, s) := by
  induction l with
  | nil =>
    rw [List.flatMap_nil, List.nil_append, parseStringBody.eq_def]
    simp only [if_true]
  | cons c l ih => rw [List.flatMap_cons, List.append_assoc, parseStringBody_escapeChar, ih]; rfl

theorem parseString_quote (x : String) (s : List Char) :
    parseString (x.toList.flatMap escapeChar ++ '"' :: s) = some (x, s) := by
  rw [parseString, parseStringBody_flatMap]
  simp

/-! ## Integers are read back -/

/-- What may follow a value: nothing, or the end of an element. -/
def Terminated (s : List Char) : Prop := ∀ c t, s = c :: t → c = ',' ∨ c = ']' ∨ c = '\x7d'

theorem terminated_nil : Terminated [] := by
  intro c t h
  cases h

theorem terminated_cons {c : Char} {s : List Char} (h : c = ',' ∨ c = ']' ∨ c = '\x7d') : Terminated (c :: s) := by
  intro c' t heq
  cases heq
  exact h

theorem toDigits_head (n : Nat) : 0 < n → (Nat.toDigits 10 n).head? ≠ some '0' := by
  induction n using Nat.strongRecOn with
  | ind n ih =>
    intro hn
    by_cases h : n < 10
    · rw [Nat.toDigits_of_lt_base h]
      have hall : ∀ m < 10, 0 < m → [m.digitChar].head? ≠ some '0' := by decide
      exact hall n h hn
    · rw [Nat.toDigits_of_base_le (by decide) (by omega)]
      have hrest := ih (n / 10) (by omega) (by omega)
      cases hd : Nat.toDigits 10 (n / 10) with
      | nil => exact absurd hd Nat.toDigits_ne_nil
      | cons c l => rw [hd] at hrest; exact hrest

/-- The digits of a number are taken up to what ends it. -/
theorem takeWhile_toDigits (n : Nat) {s : List Char} (hs : Terminated s) :
    (Nat.toDigits 10 n ++ s).takeWhile Char.isDigit = Nat.toDigits 10 n ∧
      (Nat.toDigits 10 n ++ s).dropWhile Char.isDigit = s := by
  have hdigits : ∀ c ∈ Nat.toDigits 10 n, c.isDigit = true := by
    intro c hc
    exact Nat.isDigit_of_mem_toDigits (by decide) (by decide) hc
  rw [List.takeWhile_append_of_pos hdigits, List.dropWhile_append_of_pos hdigits]
  cases s with
  | nil => simp
  | cons c s =>
    have hc : ¬c.isDigit = true := by
      rcases hs c s rfl with rfl | rfl | rfl <;> decide
    rw [List.takeWhile_cons_of_neg hc, List.dropWhile_cons_of_neg hc, List.append_nil]
    exact ⟨rfl, rfl⟩

theorem parseUnsigned_toDigits (negative : Bool) (n : Nat) {s : List Char} (hs : Terminated s) :
    parseUnsigned negative (Nat.toDigits 10 n ++ s) = some (numberOf negative (Nat.toDigits 10 n) [] [], s) := by
  obtain ⟨htake, hdrop⟩ := takeWhile_toDigits n hs
  have hlead : ¬(Nat.toDigits 10 n = [] ∨ (1 < (Nat.toDigits 10 n).length ∧ (Nat.toDigits 10 n).head? = some '0')) := by
    rintro (h | ⟨hlen, hhead⟩)
    · exact Nat.toDigits_ne_nil h
    · rcases Nat.eq_zero_or_pos n with rfl | hn
      · simp at hlen
      · exact toDigits_head n hn hhead
  have hfraction : parseFraction s = some ([], s) := by
    unfold parseFraction
    split
    · rcases hs _ _ rfl with h | h | h <;> exact absurd h (by decide)
    · rfl
  have hexponent : parseExponent s = some ([], s) := by
    cases s with
    | nil => rfl
    | cons c s =>
      have hc : ¬(c = 'e' ∨ c = 'E') := by
        rcases hs c s rfl with rfl | rfl | rfl <;> decide
      rw [parseExponent, if_neg hc]
  unfold parseUnsigned
  simp only [htake, hdrop, if_neg hlead, hfraction, hexponent]

/-- An integer of the 64-bit ranges. -/
def InRange (n : Int) : Prop := -2 ^ 63 ≤ n ∧ n < 2 ^ 64

theorem parseNumber_printInt {n : Int} (hn : InRange n) {s : List Char} (hs : Terminated s) :
    parseNumber (printInt n ++ s) = some (int n, s) := by
  obtain ⟨hlo, hhi⟩ := hn
  unfold printInt
  split
  · rename_i hneg
    rw [List.cons_append, parseNumber, parseUnsigned_toDigits true _ hs]
    have habs : n.natAbs ≠ 0 ∧ n.natAbs ≤ 2 ^ 63 := by omega
    simp only [numberOf, Nat.ofDigitChars_ten_toDigits, ne_eq, not_true_eq_false, or_self, if_false, if_true,
      if_pos habs]
    rw [Int.ofNat_natAbs_of_nonpos (by omega), Int.neg_neg]
  · rename_i hneg
    have hminus : ∀ c l, Nat.toDigits 10 n.natAbs ++ s = c :: l → c ≠ '-' := by
      intro c l h hc
      subst hc
      cases hd : Nat.toDigits 10 n.natAbs with
      | nil => exact Nat.toDigits_ne_nil hd
      | cons d ds =>
        rw [hd, List.cons_append] at h
        have hdigit := Nat.isDigit_of_mem_toDigits (by decide) (by decide) (hd ▸ List.mem_cons_self : d ∈ Nat.toDigits 10 n.natAbs)
        rw [(List.cons.inj h).1] at hdigit
        exact absurd hdigit (by decide)
    have hpos : parseNumber (Nat.toDigits 10 n.natAbs ++ s) = parseUnsigned false (Nat.toDigits 10 n.natAbs ++ s) := by
      unfold parseNumber
      split
      · rename_i heq
        exact absurd rfl (hminus _ _ heq)
      · rfl
    have habs : n.natAbs < 2 ^ 64 := by omega
    rw [hpos, parseUnsigned_toDigits false _ hs]
    simp only [numberOf, Nat.ofDigitChars_ten_toDigits, ne_eq, not_true_eq_false, or_self, if_false, if_pos habs,
      Bool.false_eq_true]
    rw [Int.natAbs_of_nonneg (by omega)]

/-! ## Values are read back -/

mutual

/-- A value whose text is exact: no floats, and integers of the 64-bit ranges. -/
def Exact : Json → Prop
  | float _ => False
  | int n => InRange n
  | arr l => ExactList l
  | obj fields => ExactFields fields
  | null => True
  | bool _ => True
  | str _ => True

def ExactList : List Json → Prop
  | [] => True
  | v :: l => Exact v ∧ ExactList l

def ExactFields : List (String × Json) → Prop
  | [] => True
  | (_, v) :: l => Exact v ∧ ExactFields l

end

mutual

/-- How deep arrays and objects are nested in a value. -/
def nesting : Json → Nat
  | arr l => nestingList l + 1
  | obj fields => nestingFields fields + 1
  | null => 0
  | bool _ => 0
  | int _ => 0
  | float _ => 0
  | str _ => 0

def nestingList : List Json → Nat
  | [] => 0
  | v :: l => max (nesting v) (nestingList l)

def nestingFields : List (String × Json) → Nat
  | [] => 0
  | (_, v) :: l => max (nesting v) (nestingFields l)

end

theorem exactList_of_forall {l : List Json} (h : ∀ v ∈ l, Exact v) : ExactList l := by
  induction l with
  | nil => exact trivial
  | cons v l ih => exact ⟨h v List.mem_cons_self, ih fun w hw => h w (List.mem_cons_of_mem v hw)⟩

theorem nestingList_le {l : List Json} {n : Nat} (h : ∀ v ∈ l, nesting v ≤ n) : nestingList l ≤ n := by
  induction l with
  | nil => exact Nat.zero_le n
  | cons v l ih =>
    rw [nestingList]
    exact Nat.max_le.mpr ⟨h v List.mem_cons_self, ih fun w hw => h w (List.mem_cons_of_mem v hw)⟩

theorem skipWs_cons {c : Char} {s : List Char} (h : ¬(c = ' ' ∨ c = '\t' ∨ c = '\n' ∨ c = '\r')) :
    skipWs (c :: s) = c :: s := by
  rw [skipWs, if_neg h]

theorem printElems_terminated (l : List Json) (s : List Char) : Terminated (printElems l ++ s) := by
  cases l with
  | nil => exact terminated_cons (Or.inr (Or.inl rfl))
  | cons v l => exact terminated_cons (Or.inl rfl)

theorem printFields_terminated (l : List (String × Json)) (s : List Char) : Terminated (printFields l ++ s) := by
  cases l with
  | nil => exact terminated_cons (Or.inr (Or.inr rfl))
  | cons f l => exact terminated_cons (Or.inl rfl)

/-- The first character of an integer is not one of the characters that start another value, nor white space. -/
theorem printInt_head (n : Int) : ∃ c l, printInt n = c :: l ∧ ¬(c = ' ' ∨ c = '\t' ∨ c = '\n' ∨ c = '\r') ∧
    c ≠ 'n' ∧ c ≠ 't' ∧ c ≠ 'f' ∧ c ≠ '"' ∧ c ≠ '[' ∧ c ≠ '\x7b' := by
  unfold printInt
  split
  · exact ⟨'-', _, rfl, by decide⟩
  · cases hd : Nat.toDigits 10 n.natAbs with
    | nil => exact absurd hd Nat.toDigits_ne_nil
    | cons c l =>
      have hdigit := Nat.isDigit_of_mem_toDigits (by decide) (by decide) (hd ▸ List.mem_cons_self : c ∈ Nat.toDigits 10 n.natAbs)
      refine ⟨c, l, rfl, ?_⟩
      have hne : ∀ x : Char, x.isDigit = false → c ≠ x := by
        intro x hx heq
        rw [← heq, hdigit] at hx
        cases hx
      refine ⟨?_, hne _ (by decide), hne _ (by decide), hne _ (by decide), hne _ (by decide), hne _ (by decide),
        hne _ (by decide)⟩
      rintro (h | h | h | h)
      · exact hne _ (by decide) h
      · exact hne _ (by decide) h
      · exact hne _ (by decide) h
      · exact hne _ (by decide) h

/-- The first character of a value is neither white space nor the end of an array. -/
theorem print_head (v : Json) (hv : Exact v) :
    ∃ c l, print v = c :: l ∧ ¬(c = ' ' ∨ c = '\t' ∨ c = '\n' ∨ c = '\r') ∧ c ≠ ']' := by
  cases v with
  | null => exact ⟨'n', _, rfl, by decide⟩
  | bool b => cases b <;> exact ⟨_, _, rfl, by decide⟩
  | int n =>
    obtain ⟨c, l, h, hws, _⟩ := printInt_head n
    refine ⟨c, l, by rw [print, h], hws, ?_⟩
    rintro rfl
    unfold printInt at h
    split at h
    · cases h
    · have hdigit := Nat.isDigit_of_mem_toDigits (by decide) (by decide) (h ▸ List.mem_cons_self : ']' ∈ Nat.toDigits 10 n.natAbs)
      exact absurd hdigit (by decide)
  | float t => exact absurd hv (by simp [Exact])
  | str s => exact ⟨'"', _, rfl, by decide⟩
  | arr l => cases l <;> exact ⟨'[', _, by rw [print], by decide⟩
  | obj l =>
    cases l with
    | nil => exact ⟨'\x7b', _, by rw [print], by decide⟩
    | cons f l => exact ⟨'\x7b', _, by rw [print], by decide⟩

mutual

theorem parseValue_print : ∀ (v : Json) (n depth : Nat) (s : List Char), Exact v → nesting v ≤ depth →
    (print v).length ≤ n → Terminated s → parseValue n depth (print v ++ s) = some (v, s)
  | null, n + 1, depth, s, _, _, _, _ => rfl
  | bool true, n + 1, depth, s, _, _, _, _ => rfl
  | bool false, n + 1, depth, s, _, _, _, _ => rfl
  | int m, 0, _, _, _, _, hn, _ => by
    obtain ⟨c, l, h, -⟩ := printInt_head m
    rw [print, h] at hn
    simp at hn
  | int m, n + 1, depth, s, hv, _, _, hs => by
    obtain ⟨c, l, h, hws, hn, ht, hf, hq, ha, ho⟩ := printInt_head m
    have hnum := parseNumber_printInt hv hs
    rw [print, h, List.cons_append] at *
    simp only [parseValue, skipWs_cons hws, hn, ht, hf, hq, ha, ho, if_false]
    exact hnum
  | str x, n + 1, depth, s, _, _, _, _ => by
    have hstr := parseString_quote x s
    simp only [print, quote, List.cons_append, List.append_assoc]
    rw [parseValue, skipWs_cons (by decide)]
    simp only [show ('"' : Char) ≠ 'n' by decide, show ('"' : Char) ≠ 't' by decide, show ('"' : Char) ≠ 'f' by decide,
      if_false, if_true, List.nil_append, hstr]
    rfl
  | arr [], n + 1, depth + 1, s, _, _, _, _ => rfl
  | arr (v :: l), n + 1, depth + 1, s, hv, hd, hn, hs => by
    obtain ⟨hv, hl⟩ := hv
    simp only [nesting, nestingList, Nat.add_le_add_iff_right, Nat.max_le] at hd
    simp only [print, List.length_cons, List.length_append, Nat.add_le_add_iff_right] at hn
    obtain ⟨c, t, hc, hws, hclose⟩ := print_head v hv
    have hval := parseValue_print v n depth (printElems l ++ s) hv hd.1 (by omega) (printElems_terminated l s)
    have hrest := parseElems_print l n depth s hl hd.2 (by omega) hs
    simp only [print, List.cons_append, List.append_assoc]
    rw [hc, List.cons_append] at hval ⊢
    rw [parseValue, skipWs_cons (by decide)]
    simp only [show ('[' : Char) ≠ 'n' by decide, show ('[' : Char) ≠ 't' by decide, show ('[' : Char) ≠ 'f' by decide,
      show ('[' : Char) ≠ '"' by decide, if_false, if_true, skipWs_cons hws]
    split
    · rename_i heq
      exact absurd (List.cons.inj heq).1 hclose
    · simp only [hval, hrest]
      rfl
  | obj [], n + 1, depth + 1, s, _, _, _, _ => rfl
  | obj ((k, v) :: l), n + 1, depth + 1, s, hv, hd, hn, hs => by
    simp only [nesting, Nat.add_le_add_iff_right] at hd
    have hlen : (quote k ++ ':' :: (print v ++ printFields l)).length ≤ n := by
      simpa [print] using hn
    have hfield := parseField_print l k v n depth s hv hd hlen hs
    simp only [print, List.cons_append, List.append_assoc] at hfield ⊢
    rw [parseValue, skipWs_cons (by decide)]
    simp only [show ('\x7b' : Char) ≠ 'n' by decide, show ('\x7b' : Char) ≠ 't' by decide,
      show ('\x7b' : Char) ≠ 'f' by decide, show ('\x7b' : Char) ≠ '"' by decide, show ('\x7b' : Char) ≠ '[' by decide,
      if_false, if_true]
    have hquote : skipWs (quote k ++ ':' :: (print v ++ (printFields l ++ s))) =
        quote k ++ ':' :: (print v ++ (printFields l ++ s)) := by
      rw [quote, List.cons_append, skipWs_cons (by decide)]
    rw [hquote]
    split
    · rename_i heq
      rw [quote, List.cons_append] at heq
      exact absurd (List.cons.inj heq).1 (by decide)
    · rw [hfield]
      rfl

theorem parseElems_print : ∀ (l : List Json) (n depth : Nat) (s : List Char), ExactList l → nestingList l ≤ depth →
    (printElems l).length ≤ n → Terminated s → parseElems n depth (printElems l ++ s) = some (l, s)
  | [], n + 1, depth, s, _, _, _, _ => rfl
  | v :: l, n + 1, depth, s, hv, hd, hn, hs => by
    obtain ⟨hv, hl⟩ := hv
    simp only [nestingList, Nat.max_le] at hd
    simp only [printElems, List.length_cons, List.length_append, Nat.add_le_add_iff_right] at hn
    have hval := parseValue_print v n depth (printElems l ++ s) hv hd.1 (by omega) (printElems_terminated l s)
    have hrest := parseElems_print l n depth s hl hd.2 (by omega) hs
    simp only [printElems, List.cons_append, List.append_assoc]
    rw [parseElems, skipWs_cons (by decide)]
    simp only [hval, hrest]
    rfl

theorem parseField_print : ∀ (l : List (String × Json)) (k : String) (v : Json) (n depth : Nat) (s : List Char),
    ExactFields ((k, v) :: l) → nestingFields ((k, v) :: l) ≤ depth →
    (quote k ++ ':' :: (print v ++ printFields l)).length ≤ n → Terminated s →
    parseField n depth (quote k ++ ':' :: (print v ++ printFields l) ++ s) = some ((k, v) :: l, s)
  | l, k, v, 0, _, _, _, _, hn, _ => by simp [quote] at hn
  | l, k, v, n + 1, depth, s, hv, hd, hn, hs => by
    obtain ⟨hv, hl⟩ := hv
    simp only [nestingFields, Nat.max_le] at hd
    simp only [quote, List.length_cons, List.length_append] at hn
    have hval := parseValue_print v n depth (printFields l ++ s) hv hd.1 (by omega) (printFields_terminated l s)
    have hkey := parseString_quote k (':' :: (print v ++ (printFields l ++ s)))
    simp only [quote, List.cons_append, List.append_assoc, List.nil_append]
    rw [parseField, skipWs_cons (by decide)]
    simp only [hkey, skipWs_cons (show ¬((':' : Char) = ' ' ∨ (':' : Char) = '\t' ∨ (':' : Char) = '\n' ∨ (':' : Char) = '\r') by
      decide), hval]
    cases l with
    | nil => rfl
    | cons f l =>
      obtain ⟨k', v'⟩ := f
      have hnext := parseField_print l k' v' n depth s hl hd.2 (by
        simp only [printFields, quote, List.length_cons, List.length_append] at hn ⊢
        omega) hs
      simp only [printFields, List.cons_append, List.append_assoc] at hnext ⊢
      rw [skipWs_cons (by decide)]
      simp only [hnext]
      rfl

end

/-- The text of an exact value that is not nested too deep is read back as the value. -/
theorem rawParse_print {v : Json} (hv : Exact v) (hd : nesting v ≤ maxNesting) : rawParse (print v) = some v := by
  have h := parseValue_print v ((print v).length + 1) maxNesting [] hv hd (Nat.le_succ _) terminated_nil
  rw [List.append_nil] at h
  rw [rawParse, h]
  rfl

/-- The text of an exact value is that of no other. -/
theorem toText_inj {v w : Json} (hv : Exact v) (hw : Exact w) (hdv : nesting v ≤ maxNesting) (hdw : nesting w ≤ maxNesting)
    (h : toText v = toText w) : v = w := by
  have hread : rawParse (print v) = rawParse (print w) := by rw [String.ofList_injective h]
  rw [rawParse_print hv hdv, rawParse_print hw hdw] at hread
  exact Option.some.inj hread

/-- Reading the text of an exact value gives the value with its objects as maps. -/
theorem fromText_toText {v : Json} (hv : Exact v) (hd : nesting v ≤ maxNesting) : fromText (toText v) = some (normalize v) := by
  simp [fromText, toText, rawParse_print hv hd]

end Json
