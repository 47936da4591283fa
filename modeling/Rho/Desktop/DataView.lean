import Rho.Lib.Csv
import Rho.Lib.Json

/-!
# The text of a data view

`main.rs`: a page of a data view, as R answers it, is written as delimited text with a header.
-/

namespace Rho

/-- Text is quoted when something in it is special to the delimiter. -/
def quoteDelimitedCell (value : Option String) (delimiter : Char) : List Char :=
  let text := (value.getD "").toList
  if !text.contains '"' && !text.contains '\n' && !text.contains '\r' && !text.contains delimiter then text
  else '"' :: (text.flatMap (fun c => if c = '"' then ['"', '"'] else [c]) ++ ['"'])

/-- The label of a column, or its name. -/
def columnLabel (column : Json) : Option String :=
  ((column.get "label").bind Json.asStr).or ((column.get "name").bind Json.asStr)

def cellText : Json → String
  | .null => ""
  | .str text => text
  | other => other.toText

def rowLine (delimiter : Char) (row : Json) : Except String (List Char) :=
  match (row.get "cells").bind Json.asArray with
  | none => .error "Data view row is missing cells"
  | some cells =>
    .ok ([delimiter].intercalate (quoteDelimitedCell ((row.get "row_name").bind Json.asStr) delimiter ::
      cells.map (fun cell => quoteDelimitedCell (some (cellText cell)) delimiter)))

def dataViewDelimitedText (page : Json) (delimiter : Char) : Except String String :=
  match (page.get "columns").bind Json.asArray with
  | none => .error "Data view page is missing columns"
  | some columns =>
    match (page.get "rows").bind Json.asArray with
    | none => .error "Data view page is missing rows"
    | some rows => do
      let header := [delimiter].intercalate (quoteDelimitedCell (some "row_name") delimiter ::
        columns.map (fun column => quoteDelimitedCell (columnLabel column) delimiter))
      let lines ← rows.mapM (rowLine delimiter)
      return String.ofList (['\r', '\n'].intercalate (header :: lines) ++ ['\r', '\n'])

/-- The delimiter of an export; a format other than `csv` and `tsv` is refused before. -/
def exportDelimiter (format : String) : Char := if format = "tsv" then '\t' else ','

end Rho
