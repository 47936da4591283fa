import Rho.Lemmas.Dispatch
import Rho.Server.ErrorRange

/-!
# What a translated error range says

A range of the code that is within the selection is translated to the same characters of the document, and nothing else is. What the
store asks of a range holds of a translated one except for the bound on the columns, which is checked in characters and not in what they
are in the document.
-/

namespace Rho.ErrorRange

open TextPosition Effect DispatchAux Position

/-! ## Single positions -/

variable {left right position : DiagnosticPosition} {column : Nat}

theorem before_or_equal_iff : diagnosticPositionBeforeOrEqual left right = true ↔ left ≤ right := by
  unfold diagnosticPositionBeforeOrEqual
  rw [le_def]
  simp only [Bool.or_eq_true, Bool.and_eq_true, decide_eq_true_eq]

theorem before_or_equal_false_iff : diagnosticPositionBeforeOrEqual left right = false ↔ ¬ left ≤ right := by
  rw [← before_or_equal_iff, Bool.not_eq_true]

/-- A position within the limits, as numbers. -/
structure Bounded (position : DiagnosticPosition) : Prop where
  line_pos : 0 < position.line
  line_le : position.line ≤ maxDiagnosticLine
  column_pos : 0 < position.column
  column_le : position.column ≤ maxDiagnosticColumn

theorem bounded_iff : bounded position = true ↔ Bounded position := by
  unfold bounded
  simp only [Bool.and_eq_true, decide_eq_true_eq]
  exact ⟨fun h => ⟨h.1.1.1, h.1.1.2, h.1.2, h.2⟩, fun h => ⟨⟨⟨h.line_pos, h.line_le⟩, h.column_pos⟩, h.column_le⟩⟩

/-- A range that is read is within the limits and not empty. -/
theorem decode_some {value : Json} {range : DiagnosticRangeInput} (h : decodeDiagnosticRange value = some range) :
    Bounded range.start ∧ Bounded range.stop ∧ range.start ≤ range.stop ∧ range.start ≠ range.stop := by
  unfold decodeDiagnosticRange at h
  simp only [Option.bind_eq_bind, Option.bind_eq_some_iff] at h
  obtain ⟨startLine, -, startColumn, -, endLine, -, endColumn, -, h⟩ := h
  split at h
  next hchecks =>
    cases h
    simp only [Bool.and_eq_true, bounded_iff, before_or_equal_iff, decide_eq_true_eq] at hchecks
    exact ⟨hchecks.1.1.1, hchecks.1.1.2, hchecks.1.2, hchecks.2⟩
  next => cases h

theorem lenUtf16_pos (c : Char) : 0 < lenUtf16 c := by
  unfold lenUtf16
  split
  · exact Nat.zero_lt_two
  · exact Nat.one_pos

theorem sum_lenUtf16_le (line : List Char) : (line.map lenUtf16).sum ≤ 2 * line.length := by
  induction line with
  | nil => exact Nat.le_refl _
  | cons c line ih =>
    have hc : lenUtf16 c ≤ 2 := by
      unfold lenUtf16
      split
      · exact Nat.le_refl _
      · exact Nat.le_succ 1
    rw [List.map_cons, List.sum_cons, List.length_cons]
    omega

/-- The UTF-16 units before a column of a line that is counted in characters. -/
def unitsBefore (line : List Char) (column : Nat) : Nat := ((line.take (column - 1)).map lenUtf16).sum

theorem unitsBefore_lt (h : column ≤ maxDiagnosticColumn) (line : List Char) : unitsBefore line column < 2_000_000 := by
  have hsum := sum_lenUtf16_le (line.take (column - 1))
  have hlength := List.length_take_le (column - 1) line
  unfold maxDiagnosticColumn at h
  unfold unitsBefore
  omega

/-- Within the limits a column of a line is counted in UTF-16 units, and no sum overflows. -/
theorem utf16Column_eq (hpos : 0 < column) (hle : column ≤ maxDiagnosticColumn) (line : List Char) :
    utf16ColumnAtCharacterBoundary line column = if line.length < column - 1 then none else some (unitsBefore line column + 1) := by
  have hunits := unitsBefore_lt hle line
  unfold unitsBefore at hunits
  have hsum : toU32 ((line.take (column - 1)).map lenUtf16).sum = some ((line.take (column - 1)).map lenUtf16).sum := if_pos (by omega)
  have hadd : checkedAdd ((line.take (column - 1)).map lenUtf16).sum 1 = some (((line.take (column - 1)).map lenUtf16).sum + 1) :=
    if_pos (by omega)
  unfold utf16ColumnAtCharacterBoundary checkedSub unitsBefore
  rw [if_pos (show 1 ≤ column from hpos)]
  simp only [Option.bind_eq_bind, Option.bind_some, hsum, hadd]

/-! ## The position in the document -/

/-- The line of the code that a position is on. -/
def codeLine (code : String) (position : DiagnosticPosition) : List Char :=
  ((lines isNewline code.toList)[position.line - 1]?).getD []

/-- The code has the position: there is such a line, and it is long enough. -/
def InCode (code : String) (position : DiagnosticPosition) : Prop :=
  position.line - 1 < (lines isNewline code.toList).length ∧ position.column - 1 ≤ (codeLine code position).length

/-- Where a position of the code is in the document, in UTF-16 columns, when the code begins at `start`. -/
def documentPosition (code : String) (start position : DiagnosticPosition) : DiagnosticPosition :=
  start.advance ⟨position.line, unitsBefore (codeLine code position) position.column + 1⟩

/-- Within the limits a position is translated exactly when the code has it, to its position in the document. -/
theorem translate_eq_some_iff {code : String} {start relative place : DiagnosticPosition} (hstart : Bounded start)
    (hrelative : Bounded relative) :
    translateDiagnosticPosition (lines isNewline code.toList) start relative = some place ↔
      InCode code relative ∧ place = documentPosition code start relative := by
  have hline := hstart.line_le
  have hline' := hrelative.line_le
  have hcolumn := hstart.column_le
  have hpos := hrelative.line_pos
  unfold translateDiagnosticPosition InCode documentPosition codeLine checkedSub
  rw [if_pos (show 1 ≤ relative.line from hpos)]
  simp only [Option.bind_eq_bind, Option.bind_some]
  cases hget : (lines isNewline code.toList)[relative.line - 1]? with
  | none =>
    have hout := List.getElem?_eq_none_iff.mp hget
    constructor
    · intro h
      cases h
    · rintro ⟨⟨hin, -⟩, -⟩
      omega
  | some line =>
    obtain ⟨hin, -⟩ := List.getElem?_eq_some_iff.mp hget
    have hunits := unitsBefore_lt hrelative.column_le line
    unfold maxDiagnosticLine at hline hline'
    unfold maxDiagnosticColumn at hcolumn
    simp only [Option.bind_some, Option.getD_some, utf16Column_eq hrelative.column_pos hrelative.column_le]
    split
    next hshort =>
      constructor
      · intro h
        cases h
      · rintro ⟨⟨-, hlong⟩, -⟩
        omega
    next hlong =>
      have hadd : checkedAdd start.line (relative.line - 1) = some (start.line + (relative.line - 1)) := if_pos (by omega)
      simp only [Option.bind_some, hadd, advance, Nat.add_sub_cancel]
      have hwhole : relative.line - 1 < (lines isNewline code.toList).length ∧ relative.column - 1 ≤ line.length := ⟨hin, by omega⟩
      simp only [hwhole, and_self, true_and]
      split
      next hfirst =>
        have hsub : (if 1 ≤ unitsBefore line relative.column + 1 then some (unitsBefore line relative.column) else none) =
            some (unitsBefore line relative.column) := if_pos (by omega)
        have hadd' : checkedAdd start.column (unitsBefore line relative.column) = some (start.column + unitsBefore line relative.column) :=
          if_pos (by omega)
        simp only [hsub, Option.bind_some, hadd']
        exact ⟨fun h => (Option.some.inj h).symm, fun h => congrArg some h.symm⟩
      next => exact ⟨fun h => (Option.some.inj h).symm, fun h => congrArg some h.symm⟩

/-- A position that the code has is a place of it, in characters and in UTF-16 units. -/
theorem exists_place_of_inCode {code : String} (hposition : Bounded position) (h : InCode code position) :
    ∃ x, x <+: code.toList ∧ behind isNewline (fun _ => 1) x = position ∧
      ∀ start, documentPosition code start position = start.advance (behind isNewline lenUtf16 x) := by
  obtain ⟨hin, hlong⟩ := h
  obtain ⟨line, hget⟩ : ∃ line, (lines isNewline code.toList)[position.line - 1]? = some line :=
    ⟨_, List.getElem?_eq_getElem hin⟩
  have hline : codeLine code position = line := by rw [codeLine, hget, Option.getD_some]
  rw [hline] at hlong
  obtain ⟨x, hx, hbehind⟩ := exists_place hget hlong
  have hpos := hposition.line_pos
  have hpos' := hposition.column_pos
  have hnumber : position.line - 1 + 1 = position.line := by omega
  refine ⟨x, hx, ?_, fun start => ?_⟩
  · have hcolumn : ((line.take (position.column - 1)).map fun _ => 1).sum + 1 = position.column := by
      rw [List.map_const', List.sum_replicate_nat, Nat.mul_one, List.length_take, Nat.min_eq_left hlong]
      omega
    rw [hbehind, hnumber, hcolumn]
  · rw [documentPosition, hline, hbehind, hnumber, unitsBefore]

/-! ## The translated range -/

/-- What the coordinator reads: the selection, the range that R reports of the code, and its kind. -/
structure Reported (arguments result : Json) (source relative : DiagnosticRangeInput) (code rangeKind : String) : Prop where
  path : projectRelativeDiagnosticSource arguments = true
  source : (arguments.get "source_range").bind decodeDiagnosticRange = some source
  error : ∃ error, result.get "error" = some error ∧ rangeKindOf error = some rangeKind ∧
    (error.get "source_range").bind decodeDiagnosticRange = some relative
  code : (arguments.get "code").bind Json.asStr = some code

namespace Reported

variable {arguments result : Json} {source relative : DiagnosticRangeInput} {code rangeKind : String}

theorem decoded_source (h : Reported arguments result source relative code rangeKind) : ∃ value, decodeDiagnosticRange value = some source := by
  obtain ⟨value, -, hvalue⟩ := Option.bind_eq_some_iff.mp h.source
  exact ⟨value, hvalue⟩

theorem decoded_relative (h : Reported arguments result source relative code rangeKind) :
    ∃ value, decodeDiagnosticRange value = some relative := by
  obtain ⟨error, -, -, hrange⟩ := h.error
  obtain ⟨value, -, hvalue⟩ := Option.bind_eq_some_iff.mp hrange
  exact ⟨value, hvalue⟩

/-- The two ends of a range that the code has: a part of it, with its places in the document. -/
theorem exists_part (h : Reported arguments result source relative code rangeKind) (hstart : InCode code relative.start)
    (hstop : InCode code relative.stop) :
    ∃ x y z, y ≠ [] ∧ Selects isNewline (fun _ => 1) code.toList relative.start relative.stop x y z ∧
      ∀ start, documentPosition code start relative.start = start.advance (behind isNewline lenUtf16 x) ∧
        documentPosition code start relative.stop = start.advance (behind isNewline lenUtf16 (x ++ y)) := by
  obtain ⟨value, hvalue⟩ := h.decoded_relative
  obtain ⟨hbounded, hbounded', hle, hne⟩ := decode_some hvalue
  obtain ⟨x, hx, hbehind, hplace⟩ := exists_place_of_inCode hbounded hstart
  obtain ⟨x', hx', hbehind', hplace'⟩ := exists_place_of_inCode hbounded' hstop
  obtain ⟨y, rfl⟩ := prefix_of_behind_le (fun _ => Nat.one_pos) hx hx' (by rw [hbehind, hbehind']; exact hle)
  obtain ⟨z, hz⟩ := hx'
  refine ⟨x, y, z, ?_, ⟨hz.symm, hbehind, hbehind'⟩, fun start => ⟨hplace start, hplace' start⟩⟩
  rintro rfl
  rw [List.append_nil, hbehind] at hbehind'
  exact hne hbehind'

/-- In the document the range begins no earlier than the selection, and is not empty either. -/
theorem documentPosition_le (h : Reported arguments result source relative code rangeKind) (hstart : InCode code relative.start)
    (hstop : InCode code relative.stop) : source.start ≤ documentPosition code source.start relative.start ∧
      documentPosition code source.start relative.start ≤ documentPosition code source.start relative.stop ∧
      documentPosition code source.start relative.start ≠ documentPosition code source.start relative.stop := by
  obtain ⟨x, y, z, hne, -, hplaces⟩ := h.exists_part hstart hstop
  obtain ⟨hplace, hplace'⟩ := hplaces source.start
  have hx := one_le_behind isNewline lenUtf16 x
  rw [hplace, hplace']
  refine ⟨le_advance hx.1, advance_mono hx.1 (behind_le_append lenUtf16_pos x y), fun heq => ?_⟩
  exact not_advance_le hx.1 hx.2 (not_behind_append_le lenUtf16_pos hne) (le_of_eq heq.symm)

end Reported

/-- What is translated: a range that the code has and that ends in the selection, to its positions in the document. -/
theorem translatedRunErrorRange_eq_some_iff {arguments result : Json} {range : RunErrorRange} :
    translatedRunErrorRange arguments result = some range ↔
      ∃ source relative code rangeKind, Reported arguments result source relative code rangeKind ∧
        InCode code relative.start ∧ InCode code relative.stop ∧
        documentPosition code source.start relative.stop ≤ source.stop ∧
        range = ⟨(documentPosition code source.start relative.start).line, (documentPosition code source.start relative.start).column,
          (documentPosition code source.start relative.stop).line, (documentPosition code source.start relative.stop).column, rangeKind⟩ := by
  unfold translatedRunErrorRange
  constructor
  · intro h
    split at h
    · cases h
    next hpath =>
      simp only [Option.bind_eq_bind, Option.bind_eq_some_iff] at h
      obtain ⟨source, hsource, error, herror, rangeKind, hkind, relative, hrelative, code, hcode, start, hstart, stop, hstop, h⟩ := h
      have hreported : Reported arguments result source relative code rangeKind :=
        ⟨(Bool.not_eq_false _).mp hpath, Option.bind_eq_some_iff.mpr hsource, ⟨error, herror, hkind, Option.bind_eq_some_iff.mpr hrelative⟩,
          Option.bind_eq_some_iff.mpr hcode⟩
      obtain ⟨_, hsource'⟩ := hreported.decoded_source
      obtain ⟨_, hrelative'⟩ := hreported.decoded_relative
      obtain ⟨hbounded, -⟩ := decode_some hsource'
      obtain ⟨hboundedStart, hboundedStop, -⟩ := decode_some hrelative'
      obtain ⟨hin, rfl⟩ := (translate_eq_some_iff hbounded hboundedStart).mp hstart
      obtain ⟨hin', rfl⟩ := (translate_eq_some_iff hbounded hboundedStop).mp hstop
      split at h
      · cases h
      next hchecks =>
        cases h
        simp only [not_or, Bool.not_eq_false, before_or_equal_iff] at hchecks
        exact ⟨source, relative, code, rangeKind, hreported, hin, hin', hchecks.2.2.2, rfl⟩
  · rintro ⟨source, relative, code, rangeKind, hreported, hin, hin', hstop, rfl⟩
    obtain ⟨_, hsource'⟩ := hreported.decoded_source
    obtain ⟨_, hrelative'⟩ := hreported.decoded_relative
    obtain ⟨hbounded, -⟩ := decode_some hsource'
    obtain ⟨hboundedStart, hboundedStop, -⟩ := decode_some hrelative'
    obtain ⟨error, herror, hkind, hrange⟩ := hreported.error
    obtain ⟨hfirst, hordered, hne⟩ := hreported.documentPosition_le hin hin'
    have htranslate := (translate_eq_some_iff hbounded hboundedStart).mpr ⟨hin, rfl⟩
    have htranslate' := (translate_eq_some_iff hbounded hboundedStop).mpr ⟨hin', rfl⟩
    rw [if_neg (by rw [hreported.path]; exact Bool.noConfusion), hreported.source]
    simp only [Option.bind_eq_bind, Option.bind_some, herror, hkind, hrange, hreported.code, htranslate, htranslate']
    rw [if_neg]
    rintro (h | h | h | h)
    · exact before_or_equal_false_iff.mp h hfirst
    · exact before_or_equal_false_iff.mp h hordered
    · exact hne h
    · exact before_or_equal_false_iff.mp h hstop

/-! ## The characters that are selected -/

/-- The start of an error range. -/
def rangeStart (range : RunErrorRange) : DiagnosticPosition := ⟨range.startLine, range.startColumn⟩

def rangeStop (range : RunErrorRange) : DiagnosticPosition := ⟨range.endLine, range.endColumn⟩

/-- When the code is what a range of the document selects, a translated error range selects in the document, in UTF-16 columns, exactly
the characters that R's range selects in the code, in characters: some, and within the selection. -/
theorem translated_run_error_range_selects {document before after : List Char} {arguments result : Json} {source : DiagnosticRangeInput}
    {code : String} {range : RunErrorRange} (hsource : (arguments.get "source_range").bind decodeDiagnosticRange = some source)
    (hcode : (arguments.get "code").bind Json.asStr = some code)
    (hselects : Selects isNewline lenUtf16 document source.start source.stop before code.toList after)
    (h : translatedRunErrorRange arguments result = some range) : ∃ relative x y z,
      (result.get "error").bind (fun error => (error.get "source_range").bind decodeDiagnosticRange) = some relative ∧
      Selects isNewline (fun _ => 1) code.toList relative.start relative.stop x y z ∧
      Selects isNewline lenUtf16 document (rangeStart range) (rangeStop range) (before ++ x) y (z ++ after) ∧
      (∀ x' y' z', Selects isNewline lenUtf16 document (rangeStart range) (rangeStop range) x' y' z' →
        x' = before ++ x ∧ y' = y ∧ z' = z ++ after) ∧
      y ≠ [] ∧ source.start ≤ rangeStart range ∧ rangeStop range ≤ source.stop := by
  obtain ⟨source', relative, code', rangeKind, hreported, hin, hin', hstop, rfl⟩ := translatedRunErrorRange_eq_some_iff.mp h
  cases hsource.symm.trans hreported.source
  cases hcode.symm.trans hreported.code
  obtain ⟨error, herror, -, hrange⟩ := hreported.error
  obtain ⟨x, y, z, hne, hpart, hplaces⟩ := hreported.exists_part hin hin'
  have hwithin := hselects.within hpart.text
  rw [← (hplaces source.start).1, ← (hplaces source.start).2] at hwithin
  refine ⟨relative, x, y, z, ?_, hpart, hwithin, fun x' y' z' h' => h'.unique lenUtf16_pos hwithin, hne,
    (hreported.documentPosition_le hin hin').1, hstop⟩
  rw [herror, Option.bind_some, hrange]

/-! ## What the store takes -/

/-- No end of a range that is translated is further on than the last column that the store takes. -/
def WithinColumns (arguments result : Json) : Prop :=
  ∀ source relative code rangeKind, Reported arguments result source relative code rangeKind → InCode code relative.start →
    InCode code relative.stop → documentPosition code source.start relative.stop ≤ source.stop →
      (documentPosition code source.start relative.start).column ≤ maxDiagnosticColumn ∧
        (documentPosition code source.start relative.stop).column ≤ maxDiagnosticColumn

theorem rangeKindOf_mem {error : Json} {rangeKind : String} (h : rangeKindOf error = some rangeKind) :
    ["r_expression", "r_parse_token"].contains rangeKind = true := by
  unfold rangeKindOf at h
  split at h
  · cases h
    decide
  · cases h
    decide
  · cases h

theorem documentPosition_column_pos {code : String} {start position : DiagnosticPosition} (h : 0 < start.column) :
    0 < (documentPosition code start position).column := by
  unfold documentPosition advance
  simp only
  split
  · exact Nat.lt_of_lt_of_le h (Nat.le_add_right _ _)
  · exact Nat.succ_pos _

/-- What the store checks of a range whose lines are within the limits, which is not empty and of a known kind. -/
theorem validate_eq_ok_iff {start stop : DiagnosticPosition} {rangeKind : String} (hkind : ["r_expression", "r_parse_token"].contains rangeKind = true)
    (hline : 0 < start.line) (hline' : stop.line ≤ maxDiagnosticLine) (hcolumn : 0 < start.column) (hcolumn' : 0 < stop.column)
    (hle : start ≤ stop) (hne : start ≠ stop) :
    validateRunErrorRange ⟨start.line, start.column, stop.line, stop.column, rangeKind⟩ = .ok () ↔
      start.column ≤ maxDiagnosticColumn ∧ stop.column ≤ maxDiagnosticColumn := by
  have hordered : stop.line > start.line ∨ stop.line = start.line ∧ stop.column > start.column := by
    rcases hle with hlt | ⟨heq, hle⟩
    · exact Or.inl hlt
    · have hcolumns : start.column ≠ stop.column := fun h => hne (by cases start; cases stop; cases heq; cases h; rfl)
      exact Or.inr ⟨heq.symm, by omega⟩
  have hlines : start.line ≤ stop.line := by omega
  have hlimit : RunErrorRange.maxDiagnosticLine = maxDiagnosticLine := rfl
  have hlimit' : RunErrorRange.maxDiagnosticColumn = maxDiagnosticColumn := rfl
  unfold validateRunErrorRange
  simp only [hkind, hlimit, hlimit', Bool.or_eq_false_iff, Bool.and_eq_false_iff, decide_eq_false_iff_not, Bool.true_eq_false, or_false]
  split
  next hrefused =>
    refine ⟨nofun, fun h => ?_⟩
    omega
  next htaken =>
    refine ⟨fun _ => ?_, fun _ => rfl⟩
    omega

/-- The store takes a translated range exactly when its columns are within the limit. -/
theorem validate_translated_iff {arguments result : Json} {range : RunErrorRange} (h : translatedRunErrorRange arguments result = some range) :
    validateRunErrorRange range = .ok () ↔ range.startColumn ≤ maxDiagnosticColumn ∧ range.endColumn ≤ maxDiagnosticColumn := by
  obtain ⟨source, relative, code, rangeKind, hreported, hin, hin', hstop, rfl⟩ := translatedRunErrorRange_eq_some_iff.mp h
  obtain ⟨_, hsource⟩ := hreported.decoded_source
  obtain ⟨hbounded, hboundedStop, -⟩ := decode_some hsource
  obtain ⟨hfirst, hordered, hne⟩ := hreported.documentPosition_le hin hin'
  obtain ⟨error, -, hkind, -⟩ := hreported.error
  have hline := hbounded.line_pos
  have hline' := hboundedStop.line_le
  refine validate_eq_ok_iff (rangeKindOf_mem hkind) ?_ ?_ (documentPosition_column_pos hbounded.column_pos)
    (documentPosition_column_pos hbounded.column_pos) hordered hne
  · rw [le_def] at hfirst
    omega
  · rw [le_def] at hstop
    omega

/-- Every translated range is taken exactly when the columns are within the limit. -/
theorem validate_all_iff {arguments result : Json} :
    (∀ range, translatedRunErrorRange arguments result = some range → validateRunErrorRange range = .ok ()) ↔
      WithinColumns arguments result := by
  constructor
  · intro h source relative code rangeKind hreported hin hin' hstop
    have htranslated := translatedRunErrorRange_eq_some_iff.mpr ⟨source, relative, code, rangeKind, hreported, hin, hin', hstop, rfl⟩
    exact (validate_translated_iff htranslated).mp (h _ htranslated)
  · intro h range htranslated
    refine (validate_translated_iff htranslated).mpr ?_
    obtain ⟨source, relative, code, rangeKind, hreported, hin, hin', hstop, rfl⟩ := translatedRunErrorRange_eq_some_iff.mp htranslated
    exact h source relative code rangeKind hreported hin hin' hstop

/-! ## The end of the run -/

/-- The store refuses to finish a run exactly for what is wrong with its range. -/
theorem finishRunWithErrorRange_eq (s : Store) (finish : RunFinish) (arguments result : Json) :
    s.finishRunWithErrorRange finish (translatedRunErrorRange arguments result) =
      match rangeFault arguments result with
      | none => .ok (s.finishRun finish)
      | some message => .error message := by
  unfold Store.finishRunWithErrorRange rangeFault
  cases translatedRunErrorRange arguments result with
  | none => rfl
  | some range =>
    cases hvalid : validateRunErrorRange range with
    | error message => simp [hvalid, bind, Except.bind]
    | ok u => simp [hvalid, bind, Except.bind, pure, Except.pure]

theorem rangeFault_eq_none_iff {arguments result : Json} : rangeFault arguments result = none ↔
      ∀ range, translatedRunErrorRange arguments result = some range → validateRunErrorRange range = .ok () := by
  unfold rangeFault
  cases translatedRunErrorRange arguments result with
  | none => exact ⟨fun _ _ => nofun, fun _ => rfl⟩
  | some range =>
    constructor
    · intro h other hother
      cases hother
      cases hvalid : validateRunErrorRange range with
      | ok u => rfl
      | error message =>
        simp only [hvalid] at h
        cases h
    · intro h
      simp only [h range rfl]

theorem keeps_runs_finishOperation (h : Handover) (o : ConcludeOutcome) (status : EnvironmentOperationStatus) (terminalOutcome : String) :
    Keeps (fun c => c.store.runs) (finishOperation h o status terminalOutcome) := by
  unfold finishOperation
  cases h.environmentOperation with
  | none => exact keeps_pure _ _
  | some requestId => exact keeps_bind (keeps_attempt _ _) fun _ => keeps_modify fun _ => rfl

/-- The status that a run has once its result is in, when nothing but its range can go wrong. -/
def statusAfter (arguments result : Json) (before : RunStatus) : RunStatus :=
  match rangeFault arguments result with
  | none => if workspaceResultFailed result then .failed else .completed
  | some _ => before

/-- A run whose range is refused stays as it was, and any other ends. -/
theorem status_concludeDispatch {h : Handover} {o : ConcludeOutcome} {c : Coordinator} {row : RunRecord} {result : Json}
    (hkernel : o.kernel = .finished result) (hsave : o.fault .saveIdentity = none) (hfinish : o.fault .finishRun = none)
    (hrow : c.store.runs.get h.executionId = some row) :
    ∃ row', (final (concludeDispatch h o c)).store.runs.get h.executionId = some row' ∧
      row'.status = statusAfter h.arguments result row.status := by
  let P : Coordinator → Prop := fun c' =>
    ∃ row', c'.store.runs.get h.executionId = some row' ∧ row'.status = statusAfter h.arguments result row.status
  have hfault : (withErrorRange h o).fault .saveIdentity = none ∧ (withErrorRange h o).fault .finishRun = rangeFault h.arguments result ∧
      (withErrorRange h o).kernel = .finished result := by
    unfold withErrorRange
    rw [hkernel]
    refine ⟨hsave, ?_, rfl⟩
    simp only [hfinish, Option.or_none]
  obtain ⟨hsave', hrange, hkernel'⟩ := hfault
  suffices hends : Ends (fun _ => P) (fun _ => P) (concludeDispatch h o c) from final_of_ends hends
  unfold concludeDispatch Rho.concludeDispatch
  rw [hkernel']
  refine ends_bind (P := fun _ c' => c'.store.runs = c.store.runs) ?_ fun _ c₁ h₁ => ?_
  · exact rfl
  unfold concludeWith
  refine ends_attempt_bind (fun e he => by rw [hsave'] at he; cases he) fun _ => ?_
  refine ends_bind (P := fun _ c' => c'.store.runs = c.store.runs) ?_ fun _ c₂ h₂ => ?_
  · exact h₁
  refine ends_get ?_
  refine ends_bind (P := fun _ c' => c₂ = c' ∧ rangeFault h.arguments result = none)
    (ends_attempt (fun hnone => ⟨rfl, hrange.symm.trans hnone⟩) fun message hmessage => ?_) ?_
  · refine ⟨row, by rw [h₂]; exact hrow, ?_⟩
    rw [statusAfter, hrange.symm.trans hmessage]
  rintro _ _ ⟨rfl, hnone⟩
  refine ends_bind (P := fun _ => P) ?_ fun _ c₃ h₃ => ?_
  · obtain ⟨f, hf, hget⟩ := runEnded_finishRun h₂ ⟨h.executionId, _, _, _, _, _⟩
    refine ⟨f row, ?_, ?_⟩
    · exact (hget h.executionId).trans (by rw [runsWith, if_pos rfl, hrow, Option.map_some])
    · rw [(hf row).1, statusAfter, hnone]
  have hrest : ∀ c' : Coordinator, c'.store.runs = c₃.store.runs → P c' := by
    intro c' hruns
    obtain ⟨row', hrow', hstatus⟩ := h₃
    exact ⟨row', hruns ▸ hrow', hstatus⟩
  refine (ends_of_keeps (keeps_bind (keeps_runs_finishOperation _ _ _ _) fun _ => ?_) c₃).mono (fun _ => hrest) fun _ => hrest
  refine keeps_bind (keeps_attempt _ _) fun _ => ?_
  refine keeps_bind (keeps_attempt _ _) fun _ => ?_
  exact keeps_bind (keeps_attempt _ _) fun _ => keeps_pure _ _

/-- The end of a run is never held up by the range of its error: the store takes a translated range, so it finishes the run, and a run
whose result is in has ended unless something else goes wrong. -/
structure Finishes (arguments result : Json) : Prop where
  valid : ∀ range, translatedRunErrorRange arguments result = some range → validateRunErrorRange range = .ok ()
  finish : ∀ (s : Store) (finish : RunFinish),
    s.finishRunWithErrorRange finish (translatedRunErrorRange arguments result) = .ok (s.finishRun finish)
  ended : ∀ (h : Handover) (o : ConcludeOutcome) (c : Coordinator) (row : RunRecord), h.arguments = arguments →
    o.kernel = .finished result → o.fault .saveIdentity = none → o.fault .finishRun = none →
    c.store.runs.get h.executionId = some row →
    ∃ row', (final (concludeDispatch h o c)).store.runs.get h.executionId = some row' ∧ row'.status.isActive = false

/-- A run is finished whatever the range of its error exactly when no translated range reaches beyond the last column. -/
theorem finish_run_with_error_range_iff (arguments result : Json) : Finishes arguments result ↔ WithinColumns arguments result := by
  constructor
  · exact fun h => validate_all_iff.mp h.valid
  · intro h
    have hvalid := validate_all_iff.mpr h
    have hnone := rangeFault_eq_none_iff.mpr hvalid
    refine ⟨hvalid, fun s finish => ?_, fun handover o c row harguments hkernel hsave hfinish hrow => ?_⟩
    · rw [finishRunWithErrorRange_eq, hnone]
    · subst harguments
      obtain ⟨row', hrow', hstatus⟩ := status_concludeDispatch hkernel hsave hfinish hrow
      refine ⟨row', hrow', ?_⟩
      rw [hstatus, statusAfter, hnone]
      simp only
      split
      · rfl
      · rfl

section Inputs

/-- A source range as it is passed in JSON. -/
def rangeJson (startLine startColumn endLine endColumn : Int) : Json :=
  .obj [("end_column", .int endColumn), ("end_line", .int endLine), ("start_column", .int startColumn), ("start_line", .int startLine)]

def argumentsJson (code : String) (sourceRange : Json) : Json :=
  .obj [("code", .str code), ("source_path", .str "analysis.R"), ("source_range", sourceRange)]

def resultJson (sourceRange : Json) : Json :=
  .obj [("error", .obj [("range_kind", .str "r_expression"), ("source_range", sourceRange), ("stage", .str "evaluation")]),
    ("ok", .bool false)]

/-- In a document with an emoji before the selection and one in it, the call that fails on the second line is selected. -/
theorem translated_run_error_range_selects_call : ∃ relative x y z,
    ((resultJson (rangeJson 2 3 2 6)).get "error").bind (fun error => (error.get "source_range").bind decodeDiagnosticRange) = some relative ∧
    Selects isNewline (fun _ => 1) "x\n😀;f()".toList relative.start relative.stop x y z ∧
    Selects isNewline lenUtf16 "😀 x\n😀;f()\ny".toList ⟨2, 4⟩ ⟨2, 7⟩ ("😀 ".toList ++ x) y (z ++ "\ny".toList) ∧
    (∀ x' y' z', Selects isNewline lenUtf16 "😀 x\n😀;f()\ny".toList ⟨2, 4⟩ ⟨2, 7⟩ x' y' z' →
      x' = "😀 ".toList ++ x ∧ y' = y ∧ z' = z ++ "\ny".toList) ∧
    y ≠ [] ∧ (⟨1, 4⟩ : Position) ≤ ⟨2, 4⟩ ∧ (⟨2, 7⟩ : Position) ≤ ⟨2, 7⟩ := by
  have hsource : ((argumentsJson "x\n😀;f()" (rangeJson 1 4 2 7)).get "source_range").bind decodeDiagnosticRange = some ⟨⟨1, 4⟩, ⟨2, 7⟩⟩ := by
    decide +kernel
  have hcode : ((argumentsJson "x\n😀;f()" (rangeJson 1 4 2 7)).get "code").bind Json.asStr = some "x\n😀;f()" := by decide +kernel
  have hrange : translatedRunErrorRange (argumentsJson "x\n😀;f()" (rangeJson 1 4 2 7)) (resultJson (rangeJson 2 3 2 6)) =
      some ⟨2, 4, 2, 7, "r_expression"⟩ := by decide +kernel
  exact translated_run_error_range_selects hsource hcode ⟨by decide, by decide, by decide⟩ hrange

/-- A selection that begins at the last column and goes on to the next line: the range is translated, refused, and the run is never
finished. -/
theorem selection_at_last_column_unfinished : ¬ ∀ arguments result, Finishes arguments result := by
  intro h
  have hvalid := (h (argumentsJson "stop(1)\nx" (rangeJson 1 1000000 2 2)) (resultJson (rangeJson 1 1 1 8))).valid
    ⟨1, 1000000, 1, 1000007, "r_expression"⟩ (by decide +kernel)
  exact absurd hvalid (by decide)

end Inputs

end Rho.ErrorRange
