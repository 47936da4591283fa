import Rho.Lib.RLang

/-!
# Written calls are read back

The text of a call expression, with JSON's quoting of its strings, is read back as the expression unless a string holds the null
character, which R refuses (`read_text`). And whatever is read as an expression has the tokens of the expression
(`tokens_of_read`), with each string literal's value read from its text by `stringBody`.
-/

namespace RLang

open Json

/-! ## The text and the tokens of an expression -/

/-- The name of an argument and the equals sign after it. -/
def nameText : Option String → List Char
  | some a => a.toList ++ [' ', '=', ' ']
  | none => []

def nameTokens : Option String → List Token
  | some a => [Token.ident a, Token.eq]
  | none => []

namespace Expr

mutual

/-- The text of an expression: a comma and a space between arguments, spaces around the equals sign. -/
def text : Expr → List Char
  | null => "NULL".toList
  | num t => t.toList
  | sym a => a.toList
  | str v => Json.quote v
  | ns a b => a.toList ++ ':' :: ':' :: b.toList
  | dollar e a => e.text ++ '$' :: a.toList
  | call f [] => f.text ++ ['(', ')']
  | call f ((name, e) :: args) => f.text ++ '(' :: (nameText name ++ (e.text ++ moreText args))

/-- The arguments after the first and the closing parenthesis. -/
def moreText : List (Option String × Expr) → List Char
  | [] => [')']
  | (name, e) :: args => ',' :: ' ' :: (nameText name ++ (e.text ++ moreText args))

end

mutual

def tokens : Expr → List Token
  | null => [Token.ident "NULL"]
  | num t => [Token.num t]
  | sym a => [Token.ident a]
  | str v => [Token.str v]
  | ns a b => [Token.ident a, Token.colons, Token.ident b]
  | dollar e a => e.tokens ++ [Token.dollar, Token.ident a]
  | call f [] => f.tokens ++ [Token.lparen, Token.rparen]
  | call f ((name, e) :: args) => f.tokens ++ Token.lparen :: (nameTokens name ++ (e.tokens ++ moreTokens args))

def moreTokens : List (Option String × Expr) → List Token
  | [] => [Token.rparen]
  | (name, e) :: args => Token.comma :: (nameTokens name ++ (e.tokens ++ moreTokens args))

end

mutual

/-- No string of the expression holds the null character. -/
def clean : Expr → Bool
  | str v => !v.toList.contains '\x00'
  | dollar e _ => e.clean
  | call f args => f.clean && cleanArgs args
  | null => true
  | num _ => true
  | sym _ => true
  | ns _ _ => true

def cleanArgs : List (Option String × Expr) → Bool
  | [] => true
  | (_, e) :: args => e.clean && cleanArgs args

end

end Expr

/-- The digits of a number and the `L` of an integer. -/
def isNumber (t : String) : Bool :=
  (t.toList.head?.map Char.isDigit).getD false &&
    (t.toList.dropWhile Char.isDigit == [] || t.toList.dropWhile Char.isDigit == ['L'])

namespace Expr

mutual

/-- The names and numbers of the expression are written as such. -/
def wf : Expr → Bool
  | num t => isNumber t
  | sym a => isName a
  | ns a b => isName a && isName b
  | dollar e a => e.wf && isName a
  | call f args => f.wf && wfArgs args
  | null => true
  | str _ => true

def wfArgs : List (Option String × Expr) → Bool
  | [] => true
  | (name, e) :: args => (name.all isName) && e.wf && wfArgs args

end

end Expr

/-! ## Lexing token by token -/

/-- What may follow a name or a number. -/
def Stops (s : List Char) : Prop := ∀ c t, s = c :: t → isNameChar c = false

theorem stops_nil : Stops [] := by
  intro c t h
  cases h

variable {c : Char} {s : List Char} {a : String}

theorem stops_cons (h : isNameChar c = false) (s : List Char) : Stops (c :: s) := by
  intro c' t heq
  cases heq
  exact h

theorem Stops.dropWhile (h : Stops s) : s.dropWhile isNameChar = s ∧ s.takeWhile isNameChar = [] := by
  cases s with
  | nil => exact ⟨rfl, rfl⟩
  | cons c t =>
    have hc := h c t rfl
    rw [List.dropWhile_cons_of_neg (by simp [hc]), List.takeWhile_cons_of_neg (by simp [hc])]
    exact ⟨rfl, rfl⟩

theorem lex_blank {depth : Nat} (h : isBlank depth c = true) (s : List Char) : lex depth (c :: s) = lex depth s := by
  rw [lex.eq_def]
  simp only [h, if_true]

theorem lex_space (depth : Nat) (s : List Char) : lex depth (' ' :: s) = lex depth s := lex_blank (by simp [isBlank]) s

theorem lex_lparen (depth : Nat) (s : List Char) : lex depth ('(' :: s) = (lex (depth + 1) s).map (Token.lparen :: ·) := by
  rw [lex.eq_def]
  simp [isBlank]

theorem lex_rparen (depth : Nat) (s : List Char) : lex depth (')' :: s) = (lex (depth - 1) s).map (Token.rparen :: ·) := by
  rw [lex.eq_def]
  simp [isBlank]

theorem lex_comma (depth : Nat) (s : List Char) : lex depth (',' :: s) = (lex depth s).map (Token.comma :: ·) := by
  rw [lex.eq_def]
  simp [isBlank]

theorem lex_dollar (depth : Nat) (s : List Char) : lex depth ('$' :: s) = (lex depth s).map (Token.dollar :: ·) := by
  rw [lex.eq_def]
  simp [isBlank]

theorem lex_eq (depth : Nat) (s : List Char) : lex depth ('=' :: ' ' :: s) = (lex depth s).map (Token.eq :: ·) := by
  rw [lex.eq_def]
  simp [isBlank, lex_space]

theorem isName_cons (h : isName a = true) :
    ∃ c s, a.toList = c :: s ∧ isNameStart c = true ∧ ¬(c = '.' ∧ (s.head?.map Char.isDigit).getD false = true) ∧
      ∀ x ∈ s, isNameChar x = true := by
  unfold isName at h
  rw [Bool.and_eq_true] at h
  cases ha : a.toList with
  | nil => rw [ha] at h; cases h.1
  | cons c s =>
    rw [ha] at h
    simp only [Bool.and_eq_true, Bool.not_eq_true', Bool.and_eq_false_iff, beq_eq_false_iff_ne, List.all_eq_true] at h
    refine ⟨c, s, rfl, h.1.1.1, ?_, h.1.2⟩
    rintro ⟨hdot, hdigit⟩
    rcases h.1.1.2 with hne | hno
    · exact hne hdot
    · rw [hdigit] at hno
      cases hno

theorem nameStart_not_special (h : isNameStart c = true) (depth : Nat) : isBlank depth c = false ∧ c ≠ '(' ∧ c ≠ ')' ∧
    c ≠ ',' ∧ c ≠ '$' ∧ c ≠ '=' ∧ c ≠ ':' ∧ c ≠ '"' ∧ c.isDigit = false := by
  have hne : ∀ x : Char, isNameStart x = false → c ≠ x := by
    rintro x hx rfl
    rw [h] at hx
    cases hx
  refine ⟨?_, hne _ (by decide), hne _ (by decide), hne _ (by decide), hne _ (by decide), hne _ (by decide), hne _ (by decide),
    hne _ (by decide), ?_⟩
  · simp [isBlank, hne ' ' (by decide), hne '\t' (by decide), hne '\x0c' (by decide), hne '\n' (by decide)]
  · rw [isNameStart, Bool.or_eq_true, beq_iff_eq] at h
    rcases h with h | rfl
    · unfold Char.isAlpha Char.isUpper Char.isLower at h
      simp only [Bool.or_eq_true, Bool.and_eq_true, decide_eq_true_eq] at h
      simp only [Char.isDigit, Bool.and_eq_false_iff, decide_eq_false_iff_not, UInt32.not_le]
      rcases h with h | h
      · exact Or.inr (UInt32.lt_of_lt_of_le (by decide) h.1)
      · exact Or.inr (UInt32.lt_of_lt_of_le (by decide) h.1)
    · decide

theorem lex_ident (ha : isName a = true ∨ a = "NULL") (hs : Stops s) (depth : Nat) :
    lex depth (a.toList ++ s) = (lex depth s).map (Token.ident a :: ·) := by
  have hname : ∃ c t, a.toList = c :: t ∧ isNameStart c = true ∧ ¬(c = '.' ∧ (t.head?.map Char.isDigit).getD false = true) ∧
      ∀ x ∈ t, isNameChar x = true := by
    rcases ha with ha | rfl
    · exact isName_cons ha
    · exact ⟨'N', ['U', 'L', 'L'], rfl, by decide, by decide, List.all_eq_true.mp (by decide)⟩
  obtain ⟨c, t, hc, hstart, hdot, hall⟩ := hname
  obtain ⟨hblank, h1, h2, h3, h4, h5, h6, h7, hdigit⟩ := nameStart_not_special hstart depth
  have hdot' : ¬(c = '.' ∧ ((t ++ s).head?.map Char.isDigit).getD false = true) := by
    cases t with
    | nil =>
      rintro ⟨rfl, h⟩
      cases s with
      | nil => cases h
      | cons x s =>
        have hx := hs x s rfl
        simp only [List.nil_append, List.head?_cons, Option.map_some, Option.getD_some] at h
        simp [isNameChar, Char.isAlphanum, h] at hx
    | cons x t => exact hdot
  rw [hc, List.cons_append, lex.eq_def]
  simp only [hblank, h1, h2, h3, h4, h5, h6, h7, hdigit, hstart, hdot', if_false, if_true, Bool.false_eq_true]
  rw [List.dropWhile_append_of_pos hall, List.takeWhile_append_of_pos hall, hs.dropWhile.1, hs.dropWhile.2, List.append_nil, ← hc,
    String.ofList_toList]

theorem lex_colons (hc : c ≠ ':') (depth : Nat) (s : List Char) :
    lex depth (':' :: ':' :: c :: s) = (lex depth (c :: s)).map (Token.colons :: ·) := by
  rw [lex.eq_def]
  simp [isBlank, hc]

theorem lex_num {t : String} (ht : isNumber t = true) (hs : Stops s) (depth : Nat) :
    lex depth (t.toList ++ s) = (lex depth s).map (Token.num t :: ·) := by
  rw [isNumber, Bool.and_eq_true, Bool.or_eq_true, beq_iff_eq, beq_iff_eq] at ht
  obtain ⟨hhead, hdrop⟩ := ht
  cases hc : t.toList with
  | nil => rw [hc] at hhead; cases hhead
  | cons c l =>
    rw [hc] at hhead hdrop
    simp only [List.head?_cons, Option.map_some, Option.getD_some] at hhead
    rw [List.dropWhile_cons_of_pos hhead] at hdrop
    have hsplit := List.takeWhile_append_dropWhile (p := Char.isDigit) (l := l)
    have hdigits : ∀ x ∈ l.takeWhile Char.isDigit, x.isDigit = true := fun x hx => List.mem_takeWhile_imp hx
    have hstop : (s.head?.map isNameChar).getD false = false := by
      cases s with
      | nil => rfl
      | cons x s => exact hs x s rfl
    have hrest : numberRest (l ++ s) = some (l, s) := by
      rcases hdrop with hdrop | hdrop
      · rw [hdrop, List.append_nil] at hsplit
        rw [hsplit] at hdigits
        have hdropS : s.dropWhile Char.isDigit = s ∧ s.takeWhile Char.isDigit = [] := by
          cases s with
          | nil => exact ⟨rfl, rfl⟩
          | cons x s =>
            have hx := hs x s rfl
            have hx' : ¬x.isDigit = true := by
              intro h
              simp [isNameChar, Char.isAlphanum, h] at hx
            rw [List.dropWhile_cons_of_neg hx', List.takeWhile_cons_of_neg hx']
            exact ⟨rfl, rfl⟩
        have hsuffix : integerSuffix s = ([], s) := by
          unfold integerSuffix
          split
          · exact absurd (hs _ _ rfl) (by decide)
          · rfl
        simp only [numberRest, List.dropWhile_append_of_pos hdigits, List.takeWhile_append_of_pos hdigits, hdropS.1, hdropS.2,
          hsuffix, hstop, Bool.false_eq_true, if_false, List.append_nil]
      · rw [hdrop] at hsplit
        have hL : ¬('L' : Char).isDigit = true := by decide
        simp only [numberRest]
        rw [← hsplit, List.append_assoc, List.dropWhile_append_of_pos hdigits, List.takeWhile_append_of_pos hdigits,
          List.cons_append, List.nil_append, List.dropWhile_cons_of_neg hL, List.takeWhile_cons_of_neg hL]
        simp only [integerSuffix, hstop, Bool.false_eq_true, if_false, List.append_nil]
    have hspecial : isBlank depth c = false ∧ c ≠ '(' ∧ c ≠ ')' ∧ c ≠ ',' ∧ c ≠ '$' ∧ c ≠ '=' ∧ c ≠ ':' ∧ c ≠ '"' := by
      have hne : ∀ x : Char, x.isDigit = false → c ≠ x := by
        rintro x hx rfl
        rw [hhead] at hx
        cases hx
      refine ⟨?_, hne _ (by decide), hne _ (by decide), hne _ (by decide), hne _ (by decide), hne _ (by decide),
        hne _ (by decide), hne _ (by decide)⟩
      simp [isBlank, hne ' ' (by decide), hne '\t' (by decide), hne '\x0c' (by decide), hne '\n' (by decide)]
    obtain ⟨hblank, h1, h2, h3, h4, h5, h6, h7⟩ := hspecial
    rw [List.cons_append, lex.eq_def]
    simp only [hblank, h1, h2, h3, h4, h5, h6, h7, hhead, if_false, if_true, Bool.false_eq_true]
    split
    · rename_i text rest heq
      rw [hrest] at heq
      cases heq
      rw [← hc, String.ofList_toList]
    · rename_i heq
      rw [hrest] at heq
      cases heq

/-! ## Strings in JSON's quoting -/

theorem stringBody_plain (hq : c ≠ '"') (hb : c ≠ '\\') (hz : c ≠ '\x00') (s : List Char) :
    stringBody (c :: s) = consChar c (stringBody s) := by
  rw [stringBody.eq_def]
  simp only [hq, hb, hz, if_false]

theorem stringBody_escape {rest : List Char} (h : escape s = some (c, rest)) :
    stringBody ('\\' :: s) = consChar c (stringBody rest) := by
  rw [stringBody.eq_def]
  simp only [show ('\\' : Char) ≠ '"' by decide, if_false, if_true]
  split
  · rename_i heq
    rw [h] at heq
    cases heq
    rfl
  · rename_i heq
    rw [h] at heq
    cases heq

theorem stringBody_escape_none (h : escape s = none) : stringBody ('\\' :: s) = none := by
  rw [stringBody.eq_def]
  simp only [show ('\\' : Char) ≠ '"' by decide, if_false, if_true]
  split
  · rename_i heq
    rw [h] at heq
    cases heq
  · rfl

theorem unicodeEscape_control (n : Nat) (hn : n < 32) (s : List Char) :
    unicodeEscape 4 ('0' :: '0' :: hexDigit (n / 16) :: hexDigit (n % 16) :: s) = (codePoint n).map (·, s) := by
  have hall : ∀ n < 32, (['0', '0', hexDigit (n / 16), hexDigit (n % 16)].takeWhile isHex =
      ['0', '0', hexDigit (n / 16), hexDigit (n % 16)]) ∧
      hexNumber ['0', '0', hexDigit (n / 16), hexDigit (n % 16)] = n := by decide
  obtain ⟨htake, hnum⟩ := hall n hn
  unfold unicodeEscape
  split
  · rename_i heq
    exact absurd (List.cons.inj heq).1 (by decide)
  · simp only [List.take_succ_cons, List.take_zero, htake, hnum]
    rfl

/-- JSON's escape of a character is read as the character, unless it is the null character. -/
theorem stringBody_escapeChar (c : Char) (s : List Char) :
    stringBody (escapeChar c ++ s) = if c = '\x00' then none else consChar c (stringBody s) := by
  unfold escapeChar
  split
  · rename_i h; subst h; exact stringBody_escape rfl
  split
  · rename_i h; subst h; exact stringBody_escape rfl
  split
  · rename_i h; subst h; exact stringBody_escape rfl
  split
  · rename_i h; subst h; exact stringBody_escape rfl
  split
  · rename_i h; subst h; exact stringBody_escape rfl
  split
  · rename_i h; subst h; exact stringBody_escape rfl
  split
  · rename_i h; subst h; exact stringBody_escape rfl
  split
  · rename_i hlow
    have hesc := unicodeEscape_control c.toNat hlow s
    by_cases hz : c = '\x00'
    · subst hz
      rw [if_pos rfl]
      exact stringBody_escape_none hesc
    · have hcode : codePoint c.toNat = some c := by
        have hne : c.toNat ≠ 0 := by
          intro h0
          apply hz
          have := Char.ofNat_toNat c
          rw [h0] at this
          exact this.symm
        have hvalid : c.toNat.isValidChar := c.valid
        simp only [codePoint, hne, ne_eq, not_false_eq_true, hvalid, and_self, if_true, Char.ofNat_toNat]
      rw [hcode] at hesc
      rw [if_neg hz]
      exact stringBody_escape hesc
  · rename_i hquote hback _ _ _ _ _ hlow
    have hz : c ≠ '\x00' := by
      rintro rfl
      exact hlow (by decide)
    rw [if_neg hz]
    exact stringBody_plain hquote hback hz s

theorem stringBody_flatMap (l s : List Char) :
    stringBody (l.flatMap escapeChar ++ '"' :: s) = if '\x00' ∈ l then none else some (l, s) := by
  induction l with
  | nil =>
    rw [List.flatMap_nil, List.nil_append, stringBody.eq_def]
    simp
  | cons c l ih =>
    rw [List.flatMap_cons, List.append_assoc, stringBody_escapeChar, ih]
    by_cases hc : c = '\x00'
    · simp [hc]
    · have hc' : '\x00' ≠ c := fun h => hc h.symm
      by_cases hl : '\x00' ∈ l
      · simp [hc, hl, consChar]
      · simp [hc, hc', hl, consChar]

/-- A string between quotes is one token. -/
theorem lex_string (depth : Nat) (s : List Char) : lex depth ('"' :: s) =
    (stringBody s).bind (fun r => (lex depth r.2).map (Token.str (String.ofList r.1) :: ·)) := by
  rw [lex.eq_def]
  simp only [isBlank, show (('"' : Char) == ' ') = false by decide, show (('"' : Char) == '\t') = false by decide,
    show (('"' : Char) == '\x0c') = false by decide, show (('"' : Char) == '\n') = false by decide,
    show ('"' : Char) ≠ '(' by decide, show ('"' : Char) ≠ ')' by decide, show ('"' : Char) ≠ ',' by decide,
    show ('"' : Char) ≠ '$' by decide, show ('"' : Char) ≠ '=' by decide, show ('"' : Char) ≠ ':' by decide, Bool.false_and,
    Bool.or_self, Bool.false_eq_true, if_false, if_true]
  split
  · rename_i heq
    rw [heq]
    rfl
  · rename_i heq
    rw [heq]
    rfl

theorem lex_quote (v : String) (depth : Nat) (s : List Char) : lex depth (quote v ++ s) =
      if v.toList.contains '\x00' then none else (lex depth s).map (Token.str v :: ·) := by
  simp only [quote, List.cons_append, List.append_assoc, List.nil_append]
  rw [lex_string, stringBody_flatMap]
  by_cases hz : '\x00' ∈ v.toList
  · rw [if_pos hz, if_pos (by simpa using hz)]
    rfl
  · rw [if_neg hz, if_neg (by simpa using hz)]
    simp

/-! ## Lexing the text of an expression -/

/-- The tokens of a part before those of what follows, when the part is clean. -/
def before (clean : Bool) (ts : List Token) (rest : Option (List Token)) : Option (List Token) :=
  if clean then rest.map (ts ++ ·) else none

theorem before_before (c c' : Bool) (ts ts' : List Token) (rest : Option (List Token)) :
    before c ts (before c' ts' rest) = before (c && c') (ts ++ ts') rest := by
  cases c <;> cases c' <;> simp [before, Option.map_map, Function.comp_def]

theorem map_cons_eq_before (t : Token) (rest : Option (List Token)) : rest.map (t :: ·) = before true [t] rest := by
  simp [before]

theorem moreText_stops (args : List (Option String × Expr)) (s : List Char) : Stops (Expr.moreText args ++ s) := by
  cases args with
  | nil => exact stops_cons (by decide) _
  | cons a args => exact stops_cons (by decide) _

/-- The name of an argument is lexed as its tokens. -/
theorem lex_nameText {name : Option String} (h : name.all isName = true) (depth : Nat) (s : List Char) :
    lex depth (nameText name ++ s) = before true (nameTokens name) (lex depth s) := by
  cases name with
  | none => simp [nameText, nameTokens, before]
  | some a =>
    have ha : isName a = true := by simpa using h
    simp only [nameText, List.append_assoc, List.cons_append, List.nil_append]
    rw [lex_ident (Or.inl ha) (stops_cons (by decide) _), lex_space, lex_eq]
    simp [before, nameTokens, Option.map_map, Function.comp_def]

mutual

theorem lex_text : ∀ (e : Expr) (depth : Nat) (s : List Char), e.wf = true → Stops s →
    lex depth (e.text ++ s) = before e.clean e.tokens (lex depth s)
  | .null, depth, s, _, hs => by
    rw [Expr.text, lex_ident (Or.inr rfl) hs, map_cons_eq_before]
    rfl
  | .num t, depth, s, he, hs => by
    rw [Expr.text, lex_num he hs, map_cons_eq_before]
    rfl
  | .sym a, depth, s, he, hs => by
    rw [Expr.text, lex_ident (Or.inl he) hs, map_cons_eq_before]
    rfl
  | .str v, depth, s, _, _ => by
    rw [Expr.text, lex_quote, Expr.clean, Expr.tokens, before]
    cases v.toList.contains '\x00' <;> simp
  | .ns a b, depth, s, he, hs => by
    obtain ⟨ha, hb⟩ := Bool.and_eq_true_iff.mp he
    obtain ⟨c, t, hc, hstart, -, -⟩ := isName_cons hb
    have hcolon : c ≠ ':' := (nameStart_not_special hstart depth).2.2.2.2.2.2.1
    have hident := lex_ident (Or.inl hb) hs depth
    simp only [Expr.text, List.append_assoc, List.cons_append]
    rw [lex_ident (Or.inl ha) (stops_cons (by decide) _)]
    rw [hc, List.cons_append] at hident ⊢
    rw [lex_colons hcolon, hident]
    simp [before, Expr.clean, Expr.tokens, Option.map_map, Function.comp_def]
  | .dollar e a, depth, s, he, hs => by
    obtain ⟨hwf, ha⟩ := Bool.and_eq_true_iff.mp he
    simp only [Expr.text, List.append_assoc, List.cons_append]
    rw [lex_text e depth _ hwf (stops_cons (by decide) _), lex_dollar, lex_ident (Or.inl ha) hs]
    rw [map_cons_eq_before, map_cons_eq_before, before_before, before_before]
    simp [Expr.clean, Expr.tokens]
  | .call f [], depth, s, he, hs => by
    obtain ⟨hf, -⟩ := Bool.and_eq_true_iff.mp he
    simp only [Expr.text, List.append_assoc, List.cons_append, List.nil_append]
    rw [lex_text f depth _ hf (stops_cons (by decide) _), lex_lparen, lex_rparen, Nat.add_sub_cancel]
    rw [map_cons_eq_before, map_cons_eq_before, before_before, before_before]
    simp [Expr.clean, Expr.cleanArgs, Expr.tokens]
  | .call f ((name, e) :: args), depth, s, he, hs => by
    obtain ⟨hf, hargs⟩ := Bool.and_eq_true_iff.mp he
    obtain ⟨hne, hrest⟩ := Bool.and_eq_true_iff.mp hargs
    obtain ⟨hname, hwf⟩ := Bool.and_eq_true_iff.mp hne
    simp only [Expr.text, List.append_assoc, List.cons_append]
    rw [lex_text f depth _ hf (stops_cons (by decide) _), lex_lparen, lex_nameText hname,
      lex_text e (depth + 1) _ hwf (moreText_stops args s), lex_moreText args depth s hrest]
    rw [map_cons_eq_before, before_before, before_before, before_before, before_before]
    simp [Expr.clean, Expr.cleanArgs, Expr.tokens, Bool.and_assoc]

theorem lex_moreText : ∀ (args : List (Option String × Expr)) (depth : Nat) (s : List Char), Expr.wfArgs args = true →
    lex (depth + 1) (Expr.moreText args ++ s) = before (Expr.cleanArgs args) (Expr.moreTokens args) (lex depth s)
  | [], depth, s, _ => by
    simp only [Expr.moreText, List.cons_append, List.nil_append]
    rw [lex_rparen, Nat.add_sub_cancel, map_cons_eq_before]
    rfl
  | (name, e) :: args, depth, s, he => by
    obtain ⟨hne, hrest⟩ := Bool.and_eq_true_iff.mp he
    obtain ⟨hname, hwf⟩ := Bool.and_eq_true_iff.mp hne
    simp only [Expr.moreText, List.append_assoc, List.cons_append]
    rw [lex_comma, lex_space, lex_nameText hname, lex_text e (depth + 1) _ hwf (moreText_stops args s),
      lex_moreText args depth s hrest]
    rw [map_cons_eq_before, before_before, before_before, before_before]
    simp [Expr.cleanArgs, Expr.moreTokens]

end

/-! ## Parsing the tokens of an expression -/

/-- How much of the bound an expression uses at its own level. -/
def Expr.cost : Expr → Nat
  | .dollar e _ => e.cost + 1
  | .call f _ => f.cost + 1
  | _ => 1

theorem cost_le (e : Expr) : 1 ≤ e.cost ∧ e.cost ≤ e.tokens.length := by
  induction e using Expr.cost.induct with
  | case1 e a ih => simp only [Expr.cost, Expr.tokens, List.length_append, List.length_cons, List.length_nil]; omega
  | case2 f args ih =>
    cases args with
    | nil => simp only [Expr.cost, Expr.tokens, List.length_append, List.length_cons, List.length_nil]; omega
    | cons a args => simp only [Expr.cost, Expr.tokens, List.length_append, List.length_cons]; omega
  | case3 e h1 h2 =>
    cases e with
    | dollar e a => exact absurd rfl (h1 e a)
    | call f args => exact absurd rfl (h2 f args)
    | null => simp [Expr.cost, Expr.tokens]
    | num t => simp [Expr.cost, Expr.tokens]
    | sym a => simp [Expr.cost, Expr.tokens]
    | str v => simp [Expr.cost, Expr.tokens]
    | ns a b => simp [Expr.cost, Expr.tokens]

/-- An expression followed by anything but an equals sign is not a named argument. -/
theorem argName_tokens : ∀ (e : Expr) (rest : List Token), rest.head? ≠ some Token.eq →
    argName (e.tokens ++ rest) = (none, e.tokens ++ rest)
  | .null, rest, h => by
    simp only [Expr.tokens, List.cons_append, List.nil_append]
    unfold argName
    split
    · rename_i heq
      cases heq
      exact absurd rfl h
    · rfl
  | .num t, rest, _ => rfl
  | .sym a, rest, h => by
    simp only [Expr.tokens, List.cons_append, List.nil_append]
    unfold argName
    split
    · rename_i heq
      cases heq
      exact absurd rfl h
    · rfl
  | .str v, rest, _ => rfl
  | .ns a b, rest, _ => rfl
  | .dollar e a, rest, _ => by
    simp only [Expr.tokens, List.append_assoc]
    exact argName_tokens e _ (by simp)
  | .call f [], rest, _ => by
    simp only [Expr.tokens, List.append_assoc]
    exact argName_tokens f _ (by simp)
  | .call f ((name, e) :: args), rest, _ => by
    simp only [Expr.tokens, List.append_assoc]
    exact argName_tokens f _ (by simp)

/-- Anything but `$` and an opening parenthesis ends an expression. -/
theorem parseOps_done {n : Nat} (hn : 1 ≤ n) (e : Expr) {rest : List Token} (hd : rest.head? ≠ some Token.dollar)
    (hl : rest.head? ≠ some Token.lparen) : parseOps n e rest = some (e, rest) := by
  obtain ⟨n, rfl⟩ := Nat.exists_eq_succ_of_ne_zero (Nat.ne_of_gt hn)
  rw [parseOps]
  · intro a ts heq
    exact hd (by rw [heq]; rfl)
  · intro ts heq
    exact hl (by rw [heq]; rfl)
  · intro ts heq
    exact hl (by rw [heq]; rfl)

theorem parseExpr_ident (n : Nat) (a : String) {ts : List Token} (h : ts.head? ≠ some Token.colons) :
    parseExpr (n + 1) (Token.ident a :: ts) =
      if a = "NULL" then parseOps n .null ts else if isName a then parseOps n (.sym a) ts else none := by
  rw [parseExpr]
  intro b ts' heq
  exact h (by rw [heq]; rfl)

theorem isName_ne_null {a : String} (h : isName a = true) : a ≠ "NULL" := by
  rintro rfl
  exact absurd h (by decide)

/-- What follows the last argument ends its expression. -/
theorem moreTokens_head (args : List (Option String × Expr)) (rest : List Token) :
    (Expr.moreTokens args ++ rest).head? = some Token.rparen ∨ (Expr.moreTokens args ++ rest).head? = some Token.comma := by
  cases args with
  | nil => exact Or.inl rfl
  | cons a args => exact Or.inr rfl

/-- The first argument does not start with a closing parenthesis. -/
theorem argTokens_head (name : Option String) (e : Expr) (args : List (Option String × Expr)) (rest : List Token) :
    (nameTokens name ++ (e.tokens ++ (Expr.moreTokens args ++ rest))).head? ≠ some Token.rparen := by
  have htokens : ∀ (e : Expr) (ts : List Token), (e.tokens ++ ts).head? ≠ some Token.rparen := by
    intro e
    induction e using Expr.cost.induct with
    | case1 e a ih => intro ts; simp only [Expr.tokens, List.append_assoc]; exact ih _
    | case2 f args ih =>
      intro ts
      cases args with
      | nil => simp only [Expr.tokens, List.append_assoc]; exact ih _
      | cons a args => simp only [Expr.tokens, List.append_assoc]; exact ih _
    | case3 e h1 h2 =>
      intro ts
      cases e with
      | dollar e a => exact absurd rfl (h1 e a)
      | call f args => exact absurd rfl (h2 f args)
      | null => simp [Expr.tokens]
      | num t => simp [Expr.tokens]
      | sym a => simp [Expr.tokens]
      | str v => simp [Expr.tokens]
      | ns a b => simp [Expr.tokens]
  cases name with
  | none => exact htokens e _
  | some a => simp [nameTokens]

theorem parseOps_lparen (n : Nat) (e : Expr) {ts : List Token} (h : ts.head? ≠ some Token.rparen) :
    parseOps (n + 1) e (Token.lparen :: ts) = match parseArgs n ts with
      | some (args, ts) => parseOps n (.call e args) ts
      | none => none := by
  refine parseOps.eq_4 e n ts fun ts' heq => h ?_
  rw [heq]
  rfl

mutual

theorem parseExpr_tokens : ∀ (e : Expr) (n : Nat) (rest : List Token), e.wf = true → rest.head? ≠ some Token.colons →
    2 * e.tokens.length ≤ n → parseExpr n (e.tokens ++ rest) = parseOps (n - e.cost) e rest
  | .null, n + 1, rest, _, hr, _ => by
    simp only [Expr.tokens, List.cons_append, List.nil_append]
    rw [parseExpr_ident n _ hr, if_pos rfl]
    rfl
  | .num t, n + 1, rest, _, _, _ => by
    simp only [Expr.tokens, List.cons_append, List.nil_append]
    rw [parseExpr]
    rfl
  | .sym a, n + 1, rest, he, hr, _ => by
    have ha : isName a = true := he
    simp only [Expr.tokens, List.cons_append, List.nil_append]
    rw [parseExpr_ident n a hr, if_neg (isName_ne_null ha), if_pos ha]
    rfl
  | .str v, n + 1, rest, _, _, _ => by
    simp only [Expr.tokens, List.cons_append, List.nil_append]
    rw [parseExpr]
    rfl
  | .ns a b, n + 1, rest, he, _, _ => by
    have hab : (isName a && isName b) = true := he
    simp only [Expr.tokens, List.cons_append, List.nil_append]
    rw [parseExpr, if_pos hab]
    rfl
  | .dollar e a, n, rest, he, _, hn => by
    obtain ⟨hwf, ha⟩ := Bool.and_eq_true_iff.mp he
    simp only [Expr.tokens, List.length_append, List.length_cons, List.length_nil] at hn
    have hcost := cost_le e
    simp only [Expr.tokens, List.append_assoc, List.cons_append, List.nil_append]
    rw [parseExpr_tokens e n _ hwf (by simp) (by omega)]
    obtain ⟨k, hk⟩ : ∃ k, n - e.cost = k + 1 := Nat.exists_eq_succ_of_ne_zero (by omega)
    rw [hk, parseOps, if_pos ha, Expr.cost, show n - (e.cost + 1) = k by omega]
  | .call f [], n, rest, he, _, hn => by
    obtain ⟨hf, -⟩ := Bool.and_eq_true_iff.mp he
    simp only [Expr.tokens, List.length_append, List.length_cons, List.length_nil] at hn
    have hcost := cost_le f
    simp only [Expr.tokens, List.append_assoc, List.cons_append, List.nil_append]
    rw [parseExpr_tokens f n _ hf (by simp) (by omega)]
    obtain ⟨k, hk⟩ : ∃ k, n - f.cost = k + 1 := Nat.exists_eq_succ_of_ne_zero (by omega)
    rw [hk, parseOps, Expr.cost, show n - (f.cost + 1) = k by omega]
  | .call f ((name, e) :: args), n, rest, he, _, hn => by
    obtain ⟨hf, hargs⟩ := Bool.and_eq_true_iff.mp he
    simp only [Expr.tokens, List.length_append, List.length_cons] at hn
    have hcost := cost_le f
    simp only [Expr.tokens, List.append_assoc, List.cons_append]
    rw [parseExpr_tokens f n _ hf (by simp) (by omega)]
    obtain ⟨k, hk⟩ : ∃ k, n - f.cost = k + 1 := Nat.exists_eq_succ_of_ne_zero (by omega)
    have hparse := parseArgs_tokens args name e k rest hargs (by simp only [List.length_append]; omega)
    simp only [List.append_assoc] at hparse
    rw [hk, parseOps_lparen k f (argTokens_head name e args rest), hparse, Expr.cost, show n - (f.cost + 1) = k by omega]

theorem parseArgs_tokens : ∀ (args : List (Option String × Expr)) (name : Option String) (e : Expr) (n : Nat)
    (rest : List Token), Expr.wfArgs ((name, e) :: args) = true →
    2 * (nameTokens name ++ (e.tokens ++ Expr.moreTokens args)).length ≤ n →
    parseArgs n (nameTokens name ++ (e.tokens ++ Expr.moreTokens args) ++ rest) = some ((name, e) :: args, rest)
  | args, name, e, 0, rest, _, hn => by
    have hcost := cost_le e
    simp only [List.length_append] at hn
    omega
  | args, name, e, n + 1, rest, he, hn => by
    obtain ⟨hne, hrest⟩ := Bool.and_eq_true_iff.mp he
    obtain ⟨-, hwf⟩ := Bool.and_eq_true_iff.mp hne
    simp only [List.length_append] at hn
    have hcost := cost_le e
    have hmore : 1 ≤ (Expr.moreTokens args).length := by
      cases args with
      | nil => simp [Expr.moreTokens]
      | cons a args => simp [Expr.moreTokens]
    have hhead := moreTokens_head args rest
    have hexpr : parseExpr n (e.tokens ++ (Expr.moreTokens args ++ rest)) = some (e, Expr.moreTokens args ++ rest) := by
      rw [parseExpr_tokens e n _ hwf ?_ (by omega), parseOps_done (by omega) e ?_ ?_]
      · rcases hhead with h | h <;> rw [h] <;> decide
      · rcases hhead with h | h <;> rw [h] <;> decide
      · rcases hhead with h | h <;> rw [h] <;> decide
    have hname : argName (nameTokens name ++ (e.tokens ++ (Expr.moreTokens args ++ rest))) =
        (name, e.tokens ++ (Expr.moreTokens args ++ rest)) := by
      cases name with
      | none =>
        refine argName_tokens e _ ?_
        rcases hhead with h | h <;> rw [h] <;> decide
      | some a => rfl
    simp only [List.append_assoc]
    rw [parseArgs, hname]
    simp only [hexpr]
    cases args with
    | nil => rfl
    | cons a args =>
      obtain ⟨name', e'⟩ := a
      have hnext := parseArgs_tokens args name' e' n rest hrest (by
        simp only [Expr.moreTokens, List.length_cons, List.length_append] at hn ⊢
        omega)
      simp only [Expr.moreTokens, List.cons_append, List.append_assoc] at hnext ⊢
      rw [hnext]
      rfl

end

/-! ## What is read has the tokens of the expression -/

theorem argName_eq (ts : List Token) : nameTokens (argName ts).1 ++ (argName ts).2 = ts := by
  unfold argName
  split <;> rfl

/-- The tokens of a list of arguments and the closing parenthesis. -/
def argsTokens : List (Option String × Expr) → List Token
  | [] => [Token.rparen]
  | (name, e) :: args => nameTokens name ++ (e.tokens ++ Expr.moreTokens args)

theorem tokens_call (f : Expr) (args : List (Option String × Expr)) :
    (Expr.call f args).tokens = f.tokens ++ Token.lparen :: argsTokens args := by
  cases args with
  | nil => rw [Expr.tokens, argsTokens]
  | cons a args => rw [Expr.tokens, argsTokens]

/-- What the three functions of the parser read at a bound, as tokens of what they return. -/
structure Sound (n : Nat) : Prop where
  expr : ∀ ts e rest, parseExpr n ts = some (e, rest) → ts = e.tokens ++ rest
  ops : ∀ e₀ ts e rest, parseOps n e₀ ts = some (e, rest) → e₀.tokens ++ ts = e.tokens ++ rest
  args : ∀ ts args rest, parseArgs n ts = some (args, rest) → args ≠ [] ∧ ts = argsTokens args ++ rest

theorem sound (n : Nat) : Sound n := by
  induction n with
  | zero =>
    refine ⟨?_, ?_, ?_⟩
    · intro ts e rest h
      cases h
    · intro e₀ ts e rest h
      cases h
    · intro ts args rest h
      cases h
  | succ n ih =>
    refine ⟨?_, ?_, ?_⟩
    · intro ts e rest h
      unfold parseExpr at h
      split at h
      · split at h
        · exact ih.ops _ _ _ _ h
        · cases h
      · split at h
        · rename_i heq
          subst heq
          exact ih.ops _ _ _ _ h
        split at h
        · exact ih.ops _ _ _ _ h
        · cases h
      · exact ih.ops _ _ _ _ h
      · exact ih.ops _ _ _ _ h
      · cases h
    · intro e₀ ts e rest h
      unfold parseOps at h
      split at h
      · split at h
        · have := ih.ops _ _ _ _ h
          simpa [Expr.tokens] using this
        · cases h
      · have := ih.ops _ _ _ _ h
        simpa [Expr.tokens] using this
      · split at h
        · rename_i args ts' hargs
          obtain ⟨-, htokens⟩ := ih.args _ _ _ hargs
          have := ih.ops _ _ _ _ h
          rw [tokens_call] at this
          rw [htokens]
          simpa using this
        · cases h
      · cases h
        rfl
    · intro ts args rest h
      unfold parseArgs at h
      have hname := argName_eq ts
      split at h
      · rename_i e rest' hexpr
        have he := ih.expr _ _ _ hexpr
        obtain ⟨⟨args', rest''⟩, hargs, heq⟩ := Option.map_eq_some_iff.mp h
        obtain ⟨hne, htokens⟩ := ih.args _ _ _ hargs
        cases heq
        refine ⟨List.cons_ne_nil _ _, ?_⟩
        cases args' with
        | nil => exact absurd rfl hne
        | cons a args' =>
          obtain ⟨name', e'⟩ := a
          calc
            ts = nameTokens (argName ts).1 ++ (argName ts).2 := hname.symm
            _ = argsTokens (((argName ts).1, e) :: (name', e') :: args') ++ rest'' := by
              rw [he, htokens]
              simp [argsTokens, Expr.moreTokens]
      · rename_i e rest' hexpr
        have he := ih.expr _ _ _ hexpr
        cases h
        refine ⟨List.cons_ne_nil _ _, ?_⟩
        calc
          ts = nameTokens (argName ts).1 ++ (argName ts).2 := hname.symm
          _ = argsTokens [((argName ts).1, e)] ++ rest := by
            rw [he]
            simp [argsTokens, Expr.moreTokens]
      · cases h

variable {text : String} {e : Expr} {x v name : List Char}

/-- A text that is read as an expression has the expression's tokens. -/
theorem tokens_of_read (h : read text = some e) : lex 0 text.toList = some e.tokens := by
  unfold read at h
  split at h
  · cases h
  · rename_i ts hlex
    split at h
    · rename_i e' hparse
      cases h
      have := (sound _).expr _ _ _ hparse
      rw [List.append_nil] at this
      rw [hlex, this]
    · cases h

/-- A text with the tokens of a well-formed expression is read as the expression. -/
theorem read_of_tokens (he : e.wf = true) (h : lex 0 text.toList = some e.tokens) : read text = some e := by
  have hcost := cost_le e
  have hparse := parseExpr_tokens e (2 * e.tokens.length + 1) [] he (by simp) (by omega)
  rw [List.append_nil, parseOps_done (by omega) e (by simp) (by simp)] at hparse
  simp only [read, h, hparse]

/-- A text lexed as a well-formed expression is read as the expression exactly when no string holds the null character. -/
theorem read_of_lex (he : e.wf = true)
    (hlex : lex 0 text.toList = before e.clean e.tokens (some [])) : read text = some e ↔ e.clean = true := by
  constructor
  · intro h
    have htokens := tokens_of_read h
    rw [hlex] at htokens
    by_contra hclean
    rw [before, if_neg hclean] at htokens
    cases htokens
  · intro hclean
    refine read_of_tokens he ?_
    rw [hlex, before, if_pos hclean]
    simp

theorem lex_nil (depth : Nat) : lex depth [] = some [] := by
  rw [lex.eq_def]

/-- The text of a well-formed expression is read as the expression exactly when no string holds the null character. -/
theorem read_text (he : e.wf = true) (htext : text.toList = e.text) : read text = some e ↔ e.clean = true := by
  have hlex := lex_text e 0 [] he stops_nil
  rw [List.append_nil, lex_nil, ← htext] at hlex
  exact read_of_lex he hlex

/-! ## Calls over several lines -/

/-- The arguments after the first, each on a line of its own, and the closing parenthesis. -/
def linesMore : List (Option String × Expr) → List Char
  | [] => ['\n', ')']
  | (name, e) :: args => ',' :: '\n' :: ' ' :: ' ' :: (nameText name ++ (e.text ++ linesMore args))

/-- A call with each argument on a line of its own. -/
def linesText (f : Expr) (name : Option String) (e : Expr) (args : List (Option String × Expr)) : List Char :=
  f.text ++ '(' :: '\n' :: ' ' :: ' ' :: (nameText name ++ (e.text ++ linesMore args))

theorem lex_newline (depth : Nat) (s : List Char) : lex (depth + 1) ('\n' :: s) = lex (depth + 1) s :=
  lex_blank (by simp [isBlank]) s

theorem linesMore_stops (args : List (Option String × Expr)) (s : List Char) : Stops (linesMore args ++ s) := by
  cases args with
  | nil => exact stops_cons (by decide) _
  | cons a args => exact stops_cons (by decide) _

theorem lex_linesMore : ∀ (args : List (Option String × Expr)) (depth : Nat) (s : List Char), Expr.wfArgs args = true →
    lex (depth + 1) (linesMore args ++ s) = before (Expr.cleanArgs args) (Expr.moreTokens args) (lex depth s)
  | [], depth, s, _ => by
    simp only [linesMore, List.cons_append, List.nil_append]
    rw [lex_newline, lex_rparen, Nat.add_sub_cancel, map_cons_eq_before]
    rfl
  | (name, e) :: args, depth, s, he => by
    obtain ⟨hne, hrest⟩ := Bool.and_eq_true_iff.mp he
    obtain ⟨hname, hwf⟩ := Bool.and_eq_true_iff.mp hne
    simp only [linesMore, List.append_assoc, List.cons_append]
    rw [lex_comma, lex_newline, lex_space, lex_space, lex_nameText hname,
      lex_text e (depth + 1) _ hwf (linesMore_stops args s), lex_linesMore args depth s hrest]
    rw [map_cons_eq_before, before_before, before_before, before_before]
    simp [Expr.cleanArgs, Expr.moreTokens]

/-- A call over several lines is read as the call exactly when no string holds the null character. -/
theorem read_linesText {f : Expr} {name : Option String} {args : List (Option String × Expr)}
    (he : (Expr.call f ((name, e) :: args)).wf = true) (htext : text.toList = linesText f name e args) :
    read text = some (Expr.call f ((name, e) :: args)) ↔ (Expr.call f ((name, e) :: args)).clean = true := by
  refine read_of_lex he ?_
  obtain ⟨hf, hargs⟩ := Bool.and_eq_true_iff.mp he
  obtain ⟨hne, hrest⟩ := Bool.and_eq_true_iff.mp hargs
  obtain ⟨hname, hwf⟩ := Bool.and_eq_true_iff.mp hne
  have hmore := lex_linesMore args 0 [] hrest
  have hexpr := lex_text e 1 (linesMore args) hwf (by simpa using linesMore_stops args [])
  rw [List.append_nil, lex_nil] at hmore
  rw [htext, linesText, lex_text f 0 _ hf (stops_cons (by decide) _), lex_lparen, lex_newline, lex_space, lex_space,
    lex_nameText hname, hexpr, hmore]
  rw [map_cons_eq_before, before_before, before_before, before_before, before_before]
  simp [Expr.clean, Expr.cleanArgs, Expr.tokens, Bool.and_assoc]

/-! ## What a string literal's value says about its text -/

/-- A text between quotes and its value: plain characters and escapes. -/
inductive Body : List Char → List Char → Prop where
  | nil : Body [] []
  | plain {c : Char} {x v : List Char} : c ≠ '"' → c ≠ '\\' → c ≠ '\x00' → Body x v → Body (c :: x) (c :: v)
  | escape {e x v : List Char} {c : Char} : e ≠ [] → ('"' ∈ e → e = ['"'] ∧ c = '"') → Body x v →
      Body ('\\' :: e ++ x) (c :: v)

/-- What `stringBody` reads is a text between quotes with its value. -/
theorem body_of_stringBody : ∀ (s v rest : List Char), stringBody s = some (v, rest) →
    ∃ x, s = x ++ '"' :: rest ∧ Body x v := by
  intro s
  induction hn : s.length using Nat.strongRecOn generalizing s with
  | ind n ih =>
    intro v rest h
    have hcons : ∀ (c : Char) (t : List Char), t.length < n → consChar c (stringBody t) = some (v, rest) →
        ∃ x v', v = c :: v' ∧ t = x ++ '"' :: rest ∧ Body x v' := by
      intro c t hlt hc
      cases ht : stringBody t with
      | none => rw [ht] at hc; cases hc
      | some r =>
        rw [ht] at hc
        cases hc
        obtain ⟨x, hx, hbody⟩ := ih t.length hlt t rfl _ _ ht
        exact ⟨x, r.1, rfl, hx, hbody⟩
    unfold stringBody at h
    split at h
    · cases h
    · rename_i c t
      simp only [List.length_cons] at hn
      split at h
      · rename_i hc
        cases h
        exact ⟨[], by rw [hc]; rfl, .nil⟩
      rename_i hquote
      split at h
      · rename_i hback
        split at h
        · rename_i c' after hesc
          obtain ⟨e, rfl, hne, hq⟩ := escape_spec hesc
          simp only [List.length_append] at hn
          obtain ⟨x, v', rfl, rfl, hbody⟩ := hcons c' after (by omega) h
          exact ⟨'\\' :: e ++ x, by rw [hback]; simp, .escape hne hq hbody⟩
        · cases h
      rename_i hback
      split at h
      · cases h
      · rename_i hnull
        obtain ⟨x, v', rfl, rfl, hbody⟩ := hcons c t (by omega) h
        exact ⟨c :: x, rfl, .plain hquote hback hnull hbody⟩

theorem Body.length_le (h : Body x v) : v.length ≤ x.length := by
  induction h with
  | nil => exact Nat.le_refl _
  | plain _ _ _ _ ih => simp only [List.length_cons]; omega
  | escape _ _ _ ih => simp only [List.length_cons, List.length_append]; omega

/-- A character that stands for itself between quotes. -/
def isPlain (c : Char) : Bool := c != '"' && c != '\\' && c != '\x00'

/-- A text as long as its value has no quotes, backslashes or null characters. -/
theorem Body.plain_of_length (h : Body x v) : v.length = x.length → x.all isPlain = true := by
  induction h with
  | nil => intro _; rfl
  | @plain c x v hq hb hz hbody ih =>
    intro hlen
    have hrest := ih (by simpa using hlen)
    simp [isPlain, hq, hb, hz, hrest]
  | @escape e x v c hne _ hbody ih =>
    intro hlen
    have hle := hbody.length_le
    have hpos := List.length_pos_iff.mpr hne
    simp only [List.length_cons, List.length_append, List.cons_append] at hlen
    omega

/-- A quote in the text stands for a quote in the value, at an earlier place. -/
theorem Body.quote_earlier (h : Body x v) : ∀ i : Nat, x[i]? = some '"' → ∃ j, j < i ∧ v[j]? = some '"' := by
  induction h with
  | nil => intro i hi; simp at hi
  | @plain c x v hq _ _ _ ih =>
    intro i hi
    cases i with
    | zero =>
      simp only [List.getElem?_cons_zero, Option.some.injEq] at hi
      exact absurd hi hq
    | succ i =>
      rw [List.getElem?_cons_succ] at hi
      obtain ⟨j, hj, hv⟩ := ih i hi
      exact ⟨j + 1, by omega, by rw [List.getElem?_cons_succ]; exact hv⟩
  | @escape e x v c hne hq _ ih =>
    intro i hi
    have hpos := List.length_pos_iff.mpr hne
    by_cases hlt : i < ('\\' :: e).length
    · rw [List.getElem?_append_left hlt] at hi
      cases i with
      | zero => simp at hi
      | succ i =>
        rw [List.getElem?_cons_succ] at hi
        have hmem : '"' ∈ e := List.mem_of_getElem? hi
        exact ⟨0, by omega, by rw [(hq hmem).2]; rfl⟩
    · rw [List.getElem?_append_right (by omega)] at hi
      obtain ⟨j, hj, hv⟩ := ih _ hi
      simp only [List.length_cons] at hj hlt
      exact ⟨j + 1, by omega, by rw [List.getElem?_cons_succ]; exact hv⟩

/-- A text does not continue its own value with a quote: the quote would stand for one in the value, which is an earlier quote of
the text, and so on for ever. -/
theorem Body.not_quote_after (h : Body x v) (s : List Char) : x ≠ v ++ '"' :: s := by
  intro heq
  have hnone : ∀ i : Nat, i ≤ v.length → x[i]? ≠ some '"' := by
    intro i
    induction i using Nat.strongRecOn with
    | ind i ih =>
      intro hi hx
      obtain ⟨j, hj, hv⟩ := h.quote_earlier i hx
      have hjv : j < v.length := by
        by_contra hge
        rw [List.getElem?_eq_none (by omega)] at hv
        cases hv
      refine ih j hj (by omega) ?_
      rw [heq, List.getElem?_append_left hjv]
      exact hv
  exact hnone v.length (Nat.le_refl _) (by rw [heq]; simp)

/-- A text between quotes that is its own value is plain. -/
theorem plain_of_stringBody {s rest : List Char} (h : stringBody (name ++ '"' :: s) = some (name, rest)) :
    name.all isPlain = true ∧ rest = s := by
  obtain ⟨x, hx, hbody⟩ := body_of_stringBody _ _ _ h
  rcases Nat.lt_trichotomy x.length name.length with hlt | heq | hgt
  · exact absurd hbody.length_le (by omega)
  · obtain ⟨rfl, htail⟩ := List.append_inj hx heq.symm
    exact ⟨hbody.plain_of_length rfl, (List.cons.inj htail).2.symm⟩
  · -- the text goes on past the name's closing quote
    obtain ⟨s', hs'⟩ : ∃ s', x = name ++ '"' :: s' := by
      have hprefix : (name ++ ['"']) <+: x := by
        have hname : (name ++ ['"']) <+: name ++ '"' :: s := ⟨s, by simp⟩
        have hbody' : x <+: name ++ '"' :: s := ⟨'"' :: rest, hx.symm⟩
        exact List.prefix_of_prefix_length_le hname hbody' (by simp; omega)
      obtain ⟨s', hs'⟩ := hprefix
      exact ⟨s', by rw [← hs']; simp⟩
    exact absurd hs' (hbody.not_quote_after s')

/-- A plain text between quotes is its own value. -/
theorem stringBody_of_plain (h : name.all isPlain = true) (s : List Char) : stringBody (name ++ '"' :: s) = some (name, s) := by
  induction name with
  | nil =>
    rw [List.nil_append, stringBody.eq_def]
    simp
  | cons c name ih =>
    simp only [List.all_cons, Bool.and_eq_true, isPlain, bne_iff_ne] at h
    rw [List.cons_append, stringBody_plain h.1.1.1 h.1.1.2 h.1.2, ih h.2]
    rfl

end RLang
