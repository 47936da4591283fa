import Mathlib.Data.List.TakeWhile
import Rho.Lib.JsonParse

/-!
# Call expressions of R

A reader for the part of R's grammar that consists of calls: names, `NULL`, numbers, double-quoted strings, `pkg::name`, `x$name`
and calls with positional and named arguments. It follows R's lexer and parser on that part and reads nothing else: operators, blocks,
comments, single-quoted and raw strings, octal and hexadecimal byte escapes, and a second expression are all refused.
-/

namespace RLang

/-! ## Strings -/

/-- The character of a one-letter escape. -/
def simpleEscape (e : Char) : Option Char :=
  if e = 'n' then some '\n'
  else if e = 't' then some '\t'
  else if e = 'r' then some '\r'
  else if e = 'a' then some '\x07'
  else if e = 'b' then some '\x08'
  else if e = 'f' then some '\x0c'
  else if e = 'v' then some '\x0b'
  else if e = '\\' ∨ e = '"' ∨ e = '\'' ∨ e.toNat = 96 ∨ e = ' ' ∨ e = '\n' then some e
  else none

def isHex (c : Char) : Bool := (Json.hexVal c).isSome

/-- The number that hexadecimal digits denote. -/
def hexNumber (digits : List Char) : Nat := digits.foldl (fun n c => n * 16 + (Json.hexVal c).getD 0) 0

/-- The character of a code point. The null character and what is no character are refused. -/
def codePoint (n : Nat) : Option Char :=
  if n ≠ 0 ∧ n.isValidChar then some (Char.ofNat n) else none

/-- The code point after `\u` or `\U`: up to `max` digits, or as many between braces. -/
def unicodeEscape (max : Nat) (s : List Char) : Option (Char × List Char) :=
  match s with
  | '\x7b' :: t =>
    match t.dropWhile isHex with
    | '\x7d' :: rest =>
      if 1 ≤ (t.takeWhile isHex).length ∧ (t.takeWhile isHex).length ≤ max then
        (codePoint (hexNumber (t.takeWhile isHex))).map (·, rest)
      else none
    | _ => none
  | s =>
    let digits := (s.take max).takeWhile isHex
    if digits = [] then none else (codePoint (hexNumber digits)).map (·, s.drop digits.length)

/-- An escape after its backslash. -/
def escape : List Char → Option (Char × List Char)
  | [] => none
  | e :: s =>
    if e = 'u' then unicodeEscape 4 s
    else if e = 'U' then unicodeEscape 8 s
    else (simpleEscape e).map (·, s)

/-- What an escape reads: a nonempty text, with a quote in it only when it is the escape of a quote. -/
theorem escape_spec {s rest : List Char} {c : Char} (h : escape s = some (c, rest)) :
    ∃ e, s = e ++ rest ∧ e ≠ [] ∧ ('"' ∈ e → e = ['"'] ∧ c = '"') := by
  have hhex : ∀ l : List Char, '"' ∉ l.takeWhile isHex := by
    intro l hmem
    have := List.mem_takeWhile_imp hmem
    exact absurd this (by decide)
  have hunicode : ∀ (max : Nat) (t : List Char), unicodeEscape max t = some (c, rest) → ∃ e, t = e ++ rest ∧ '"' ∉ e := by
    intro max t ht
    unfold unicodeEscape at ht
    split at ht
    · rename_i t
      split at ht
      · rename_i after hdrop
        split at ht
        · obtain ⟨c', -, hpair⟩ := Option.map_eq_some_iff.mp ht
          cases hpair
          refine ⟨'\x7b' :: (t.takeWhile isHex ++ ['\x7d']), ?_, ?_⟩
          · have happ := List.takeWhile_append_dropWhile (p := isHex) (l := t)
            rw [hdrop] at happ
            simp [happ]
          · intro hmem
            simp only [List.mem_cons, List.mem_append, List.not_mem_nil, or_false] at hmem
            rcases hmem with h | h | h
            · exact absurd h (by decide)
            · exact hhex t h
            · exact absurd h (by decide)
        · cases ht
      · cases ht
    · dsimp only at ht
      split at ht
      · cases ht
      · obtain ⟨c', -, hpair⟩ := Option.map_eq_some_iff.mp ht
        cases hpair
        refine ⟨((t.take max).takeWhile isHex), ?_, hhex _⟩
        have hpre : ((t.take max).takeWhile isHex) <+: t :=
          (List.takeWhile_prefix isHex).trans (List.take_prefix max t)
        exact (List.prefix_iff_eq_append.mp hpre).symm
  cases s with
  | nil => cases h
  | cons x s =>
    rw [escape] at h
    split at h
    · rename_i hx
      obtain ⟨e, rfl, he⟩ := hunicode 4 s h
      refine ⟨x :: e, rfl, List.cons_ne_nil x e, ?_⟩
      intro hmem
      rcases List.mem_cons.mp hmem with hq | hq
      · exact absurd (hx ▸ hq) (by decide)
      · exact absurd hq he
    split at h
    · rename_i hx
      obtain ⟨e, rfl, he⟩ := hunicode 8 s h
      refine ⟨x :: e, rfl, List.cons_ne_nil x e, ?_⟩
      intro hmem
      rcases List.mem_cons.mp hmem with hq | hq
      · exact absurd (hx ▸ hq) (by decide)
      · exact absurd hq he
    · obtain ⟨c', hsimple, hpair⟩ := Option.map_eq_some_iff.mp h
      cases hpair
      refine ⟨[x], rfl, List.cons_ne_nil x [], ?_⟩
      intro hmem
      obtain rfl := List.mem_singleton.mp hmem
      exact ⟨rfl, (Option.some.inj hsimple).symm⟩

/-- The value of a string up to its closing quote, and the text after it. -/
def stringBody (s : List Char) : Option (List Char × List Char) :=
  match s with
  | [] => none
  | c :: s =>
    if c = '"' then some ([], s)
    else if c = '\\' then
      match h : escape s with
      | some (c, rest) =>
        have : rest.length < s.length + 1 := by
          obtain ⟨e, rfl, -, -⟩ := escape_spec h
          simp only [List.length_append]
          omega
        Json.consChar c (stringBody rest)
      | none => none
    else if c = '\x00' then none
    else Json.consChar c (stringBody s)
termination_by s.length

/-! ## Tokens -/

inductive Token where
  | ident (name : String)
  | num (text : String)
  | str (value : String)
  | lparen | rparen | comma | eq | dollar | colons
  deriving DecidableEq, Repr

/-- A character that may continue a name. -/
def isNameChar (c : Char) : Bool := c.isAlphanum || c == '.' || c == '_'

/-- A character that may start a name. -/
def isNameStart (c : Char) : Bool := c.isAlpha || c == '.'

/-- The `L` of an integer, if it is there. -/
def integerSuffix : List Char → List Char × List Char
  | 'L' :: s => (['L'], s)
  | s => ([], s)

/-- The rest of a number: digits, and `L` for an integer. The text after a number must not continue it. -/
def numberRest (s : List Char) : Option (List Char × List Char) :=
  let r := integerSuffix (s.dropWhile Char.isDigit)
  if (r.2.head?.map isNameChar).getD false then none else some (s.takeWhile Char.isDigit ++ r.1, r.2)

/-- White space. Line breaks are white space inside parentheses only. -/
def isBlank (depth : Nat) (c : Char) : Bool := c == ' ' || c == '\t' || c == '\x0c' || (c == '\n' && decide (0 < depth))

theorem stringBody_length : ∀ (s v rest : List Char), stringBody s = some (v, rest) → rest.length < s.length := by
  intro s
  induction hn : s.length using Nat.strongRecOn generalizing s with
  | ind n ih =>
    intro v rest h
    have hcons : ∀ (c : Char) (t : List Char), t.length < n → Json.consChar c (stringBody t) = some (v, rest) →
        rest.length < t.length := by
      intro c t hlt hc
      cases ht : stringBody t with
      | none => rw [ht] at hc; cases hc
      | some r =>
        rw [ht] at hc
        cases hc
        exact ih t.length hlt t rfl _ _ ht
    unfold stringBody at h
    split at h
    · cases h
    · rename_i c t
      simp only [List.length_cons] at hn
      split at h
      · cases h
        omega
      split at h
      · split at h
        · rename_i c' after hesc
          obtain ⟨e, rfl, hne, -⟩ := escape_spec hesc
          have := hcons c' after (by simp only [List.length_append] at hn; omega) h
          simp only [List.length_append] at hn
          omega
        · cases h
      split at h
      · cases h
      · have := hcons c t (by omega) h
        omega

theorem numberRest_length {s text rest : List Char} (h : numberRest s = some (text, rest)) : rest.length ≤ s.length := by
  have hdrop : (s.dropWhile Char.isDigit).length ≤ s.length := List.length_dropWhile_le Char.isDigit s
  have hsuffix : ∀ t : List Char, (integerSuffix t).2.length ≤ t.length := by
    intro t
    unfold integerSuffix
    split
    · exact Nat.le_succ _
    · exact Nat.le_refl _
  unfold numberRest at h
  dsimp only at h
  split at h
  · cases h
  · cases h
    exact Nat.le_trans (hsuffix _) hdrop

/-- The tokens of a text. -/
def lex (depth : Nat) (s : List Char) : Option (List Token) :=
  match s with
  | [] => some []
  | c :: s =>
    if isBlank depth c then lex depth s
    else if c = '(' then (lex (depth + 1) s).map (Token.lparen :: ·)
    else if c = ')' then (lex (depth - 1) s).map (Token.rparen :: ·)
    else if c = ',' then (lex depth s).map (Token.comma :: ·)
    else if c = '$' then (lex depth s).map (Token.dollar :: ·)
    else if c = '=' then if s.head? = some '=' then none else (lex depth s).map (Token.eq :: ·)
    else if c = ':' then
      match s with
      | ':' :: s => if s.head? = some ':' then none else (lex depth s).map (Token.colons :: ·)
      | _ => none
    else if c = '"' then
      match h : stringBody s with
      | some (v, rest) =>
        have : rest.length < s.length + 1 := Nat.lt_succ_of_lt (stringBody_length s v rest h)
        (lex depth rest).map (Token.str (String.ofList v) :: ·)
      | none => none
    else if c.isDigit then
      match h : numberRest s with
      | some (text, rest) =>
        have : rest.length < s.length + 1 := Nat.lt_succ_of_le (numberRest_length h)
        (lex depth rest).map (Token.num (String.ofList (c :: text)) :: ·)
      | none => none
    else if isNameStart c then
      if c = '.' ∧ (s.head?.map Char.isDigit).getD false then none
      else
        have : (s.dropWhile isNameChar).length < s.length + 1 := Nat.lt_succ_of_le (List.length_dropWhile_le isNameChar s)
        (lex depth (s.dropWhile isNameChar)).map (Token.ident (String.ofList (c :: s.takeWhile isNameChar)) :: ·)
    else none
termination_by s.length

/-! ## Expressions -/

inductive Expr where
  | null
  | num (text : String)
  | sym (name : String)
  | str (value : String)
  | ns (pkg name : String)
  | dollar (e : Expr) (name : String)
  | call (f : Expr) (args : List (Option String × Expr))

def reserved : List String :=
  ["NULL", "NA", "TRUE", "FALSE", "Inf", "NaN", "NA_integer_", "NA_real_", "NA_character_", "NA_complex_", "function", "while",
    "repeat", "for", "if", "in", "else", "next", "break"]

/-- A name that can be used as it is: it is lexed as one name and is not reserved. -/
def isName (name : String) : Bool :=
  (match name.toList with
  | c :: s => isNameStart c && !(c == '.' && (s.head?.map Char.isDigit).getD false) && s.all isNameChar
  | [] => false) && !reserved.contains name

/-- The name of an argument, when the argument is named. -/
def argName : List Token → Option String × List Token
  | Token.ident a :: Token.eq :: ts => (some a, ts)
  | ts => (none, ts)

mutual

/-- An expression at the start of some tokens. The number bounds the recursion. -/
def parseExpr : Nat → List Token → Option (Expr × List Token)
  | 0, _ => none
  | n + 1, ts =>
    match ts with
    | Token.ident a :: Token.colons :: Token.ident b :: ts =>
      if isName a && isName b then parseOps n (.ns a b) ts else none
    | Token.ident a :: ts =>
      if a = "NULL" then parseOps n .null ts else if isName a then parseOps n (.sym a) ts else none
    | Token.num t :: ts => parseOps n (.num t) ts
    | Token.str v :: ts => parseOps n (.str v) ts
    | _ => none

/-- What follows an expression: `$name` and calls, from left to right. -/
def parseOps : Nat → Expr → List Token → Option (Expr × List Token)
  | 0, _, _ => none
  | n + 1, e, ts =>
    match ts with
    | Token.dollar :: Token.ident a :: ts => if isName a then parseOps n (.dollar e a) ts else none
    | Token.lparen :: Token.rparen :: ts => parseOps n (.call e []) ts
    | Token.lparen :: ts =>
      match parseArgs n ts with
      | some (args, ts) => parseOps n (.call e args) ts
      | none => none
    | ts => some (e, ts)

/-- Arguments up to the closing parenthesis. -/
def parseArgs : Nat → List Token → Option (List (Option String × Expr) × List Token)
  | 0, _ => none
  | n + 1, ts =>
    match parseExpr n (argName ts).2 with
    | some (e, Token.comma :: rest) => (parseArgs n rest).map (fun r => (((argName ts).1, e) :: r.1, r.2))
    | some (e, Token.rparen :: rest) => some ([((argName ts).1, e)], rest)
    | _ => none

end

/-- The expression that a text is read as: one expression and nothing else. -/
def read (text : String) : Option Expr :=
  match lex 0 text.toList with
  | none => none
  | some ts =>
    match parseExpr (2 * ts.length + 1) ts with
    | some (e, []) => some e
    | _ => none

end RLang
