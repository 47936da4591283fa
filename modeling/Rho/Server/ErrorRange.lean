import Rho.Lib.TextPosition
import Rho.Server.Dispatch
import Rho.Store.ErrorRange

/-!
# The range of an error in the document

`translated_run_error_range` (`coordinator.rs`): R reports where in the submitted code a run has failed, in lines and characters. The
coordinator turns this into a range of the document that the code was selected from, in lines and UTF-16 columns, and finishes the run
with it. A position's numbers are `u32` in the code, so every sum is checked.
-/

namespace Rho.ErrorRange

open TextPosition Effect

def maxDiagnosticLine : Nat := 10_000_000

def maxDiagnosticColumn : Nat := 1_000_000

abbrev DiagnosticPosition := Position

structure DiagnosticRangeInput where
  start : DiagnosticPosition
  stop : DiagnosticPosition
  deriving DecidableEq, Repr

/-- A sum of two `u32`. -/
def checkedAdd (a b : Nat) : Option Nat := if a + b < 2 ^ 32 then some (a + b) else none

def checkedSub (a b : Nat) : Option Nat := if b ≤ a then some (a - b) else none

def toU32 (n : Nat) : Option Nat := if n < 2 ^ 32 then some n else none

def diagnosticPositionBeforeOrEqual (left right : DiagnosticPosition) : Bool :=
  decide (left.line < right.line) || (decide (left.line = right.line) && decide (left.column ≤ right.column))

/-- A position within the limits. -/
def bounded (position : DiagnosticPosition) : Bool :=
  decide (0 < position.line) && decide (position.line ≤ maxDiagnosticLine) && decide (0 < position.column) &&
    decide (position.column ≤ maxDiagnosticColumn)

def decodeDiagnosticRange (value : Json) : Option DiagnosticRangeInput := do
  let integer (name : String) : Option Nat := ((value.get name).bind Json.asU64).bind toU32
  let range : DiagnosticRangeInput :=
    { start := { line := ← integer "start_line", column := ← integer "start_column" }
      stop := { line := ← integer "end_line", column := ← integer "end_column" } }
  if bounded range.start && bounded range.stop && diagnosticPositionBeforeOrEqual range.start range.stop &&
      decide (range.start ≠ range.stop) then
    some range
  else none

def projectRelativeDiagnosticSource (arguments : Json) : Bool :=
  match (arguments.get "source_path").bind Json.asStr with
  | none => false
  | some path =>
    let chars := path.toList
    if chars.isEmpty || chars.head? == some '/' || chars.head? == some '\\' || chars.head? == some '<' ||
        path.toUTF8.data[1]? == some 58 then
      false
    else !((chars.map fun c => if c = '\\' then '/' else c).splitOn '/').any fun component =>
      component.isEmpty || component == ['.'] || component == ['.', '.']

def lenUtf16 (c : Char) : Nat := if 0x10000 ≤ c.toNat then 2 else 1

/-- A line is given by its characters. -/
def utf16ColumnAtCharacterBoundary (line : List Char) (oneBasedColumn : Nat) : Option Nat := do
  let characterOffset ← checkedSub oneBasedColumn 1
  if line.length < characterOffset then none
  else
    let utf16Offset := ((line.take characterOffset).map lenUtf16).sum
    checkedAdd (← toU32 utf16Offset) 1

def translateDiagnosticPosition (codeLines : List (List Char)) (sourceStart relative : DiagnosticPosition) :
    Option DiagnosticPosition := do
  let lineIndex ← checkedSub relative.line 1
  let codeLine ← (codeLines)[lineIndex]?
  let relativeUtf16Column ← utf16ColumnAtCharacterBoundary codeLine relative.column
  let line ← checkedAdd sourceStart.line (← checkedSub relative.line 1)
  let column ← if relative.line = 1 then do checkedAdd sourceStart.column (← checkedSub relativeUtf16Column 1)
    else some relativeUtf16Column
  return { line, column }

/-- The kind of range that R reports for an error of a stage. -/
def rangeKindOf (error : Json) : Option String :=
  match (error.get "stage").bind Json.asStr, (error.get "range_kind").bind Json.asStr with
  | some "evaluation", some "r_expression" => some "r_expression"
  | some "parse", some "r_parse_token" => some "r_parse_token"
  | _, _ => none

def isNewline (c : Char) : Bool := c == '\n'

def translatedRunErrorRange (arguments result : Json) : Option RunErrorRange := do
  if projectRelativeDiagnosticSource arguments = false then none
  else
    let sourceRange ← (arguments.get "source_range").bind decodeDiagnosticRange
    let error ← result.get "error"
    let rangeKind ← rangeKindOf error
    let relativeRange ← (error.get "source_range").bind decodeDiagnosticRange
    let code ← (arguments.get "code").bind Json.asStr
    let codeLines := lines isNewline code.toList
    let start ← translateDiagnosticPosition codeLines sourceRange.start relativeRange.start
    let stop ← translateDiagnosticPosition codeLines sourceRange.start relativeRange.stop
    if diagnosticPositionBeforeOrEqual sourceRange.start start = false ∨ diagnosticPositionBeforeOrEqual start stop = false ∨
        start = stop ∨ diagnosticPositionBeforeOrEqual stop sourceRange.stop = false then
      none
    else
      some
        { startLine := start.line
          startColumn := start.column
          endLine := stop.line
          endColumn := stop.column
          rangeKind }

/-! ## The end of a run -/

/-- What is wrong with the range of a run's error, for the store. -/
def rangeFault (arguments result : Json) : Option String :=
  match translatedRunErrorRange arguments result with
  | none => none
  | some range =>
    match validateRunErrorRange range with
    | .ok () => none
    | .error message => some message

/-- What can go wrong at the end of a run, with the range of its error: it is checked before the run's row is written. -/
def withErrorRange (h : Handover) (o : ConcludeOutcome) : ConcludeOutcome :=
  match o.kernel with
  | .finished result =>
    { o with fault := fun
        | .finishRun => (rangeFault h.arguments result).or (o.fault .finishRun)
        | step => o.fault step }
  | .error | .unreadable _ => o

/-- The dispatch from the kernel's answer on, where the run is finished with the range of its error. -/
def concludeDispatch (h : Handover) (o : ConcludeOutcome) : CoordinatorM DispatchResponse := Rho.concludeDispatch h (withErrorRange h o)

end Rho.ErrorRange
