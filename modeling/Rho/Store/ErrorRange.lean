import Rho.Store.Store

/-!
# The range of an error in the store

`rho-store`: a run is finished with the range of its error, which is checked before the run's row is written.
-/

namespace Rho

structure RunErrorRange where
  startLine : Nat
  startColumn : Nat
  endLine : Nat
  endColumn : Nat
  rangeKind : String
  deriving DecidableEq, Repr

namespace RunErrorRange

def maxDiagnosticLine : Nat := 10_000_000

def maxDiagnosticColumn : Nat := 1_000_000

end RunErrorRange

open RunErrorRange in
def validateRunErrorRange (range : RunErrorRange) : Except String Unit :=
  let ordered := decide (range.endLine > range.startLine) ||
    (decide (range.endLine = range.startLine) && decide (range.endColumn > range.startColumn))
  if range.startLine = 0 ∨ range.startColumn = 0 ∨ range.endLine = 0 ∨ range.endColumn = 0 ∨
      range.startLine > maxDiagnosticLine ∨ range.endLine > maxDiagnosticLine ∨
      range.startColumn > maxDiagnosticColumn ∨ range.endColumn > maxDiagnosticColumn ∨
      ordered = false ∨ ["r_expression", "r_parse_token"].contains range.rangeKind = false then
    .error "run error range is incomplete, out of bounds, or unsupported"
  else .ok ()

/-- `finish_run_with_error_range`: a range that is refused leaves the run as it is. -/
def Store.finishRunWithErrorRange (s : Store) (result : RunFinish) (errorRange : Option RunErrorRange) : Except String Store := do
  if let some range := errorRange then validateRunErrorRange range
  return s.finishRun result

end Rho
