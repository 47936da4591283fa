import Rho.Desktop.DataView
import Rho.Lib.Fallible

/-!
# The text of a data view is read back

A reader of RFC 4180 finds in an exported page the header and one record for each row, with the texts of the cells.
-/

namespace Rho

/-- A page with its columns and its rows, and the cells of each. -/
structure IsDataViewPage (page : Json) (columns : List Json) (rows : List (Json × List Json)) : Prop where
  pageColumns : (page.get "columns").bind Json.asArray = some columns
  pageRows : (page.get "rows").bind Json.asArray = some (rows.map (·.1))
  rowCells : ∀ row ∈ rows, (row.1.get "cells").bind Json.asArray = some row.2

/-- The record of the header. -/
def headerRecord (columns : List Json) : List (List Char) :=
  "row_name".toList :: columns.map (fun column => ((columnLabel column).getD "").toList)

/-- The record of a row. -/
def rowRecord (row : Json × List Json) : List (List Char) :=
  (((row.1.get "row_name").bind Json.asStr).getD "").toList :: row.2.map (fun cell => (cellText cell).toList)

namespace DataViewAux

variable {d : Char}

/-- The cells of a record, quoted. -/
def headerCells (d : Char) (columns : List Json) : List (List Char) :=
  quoteDelimitedCell (some "row_name") d :: columns.map (fun column => quoteDelimitedCell (columnLabel column) d)

def rowCells (d : Char) (row : Json × List Json) : List (List Char) :=
  quoteDelimitedCell ((row.1.get "row_name").bind Json.asStr) d ::
    row.2.map (fun cell => quoteDelimitedCell (some (cellText cell)) d)

theorem written_quoteDelimitedCell (value : Option String) (d : Char) :
    Csv.Written d (value.getD "").toList (quoteDelimitedCell value d) := by
  unfold quoteDelimitedCell
  extract_lets
  split
  · rename_i hplain
    refine .inr ⟨rfl, ?_⟩
    simp only [Bool.and_eq_true, Bool.not_eq_true', List.contains_eq_mem, decide_eq_false_iff_not] at hplain
    obtain ⟨⟨⟨hquote, hfeed⟩, hreturn⟩, hdelimiter⟩ := hplain
    rintro c hc (rfl | rfl | rfl | rfl)
    · exact hquote hc
    · exact hfeed hc
    · exact hreturn hc
    · exact hdelimiter hc
  · exact .inl rfl

theorem written_map {α : Type} (value : α → Option String) (l : List α) :
    List.Forall₂ (Csv.Written d) (l.map (fun a => ((value a).getD "").toList))
      (l.map (fun a => quoteDelimitedCell (value a) d)) := by
  rw [List.forall₂_map_left_iff, List.forall₂_map_right_iff]
  exact List.forall₂_same.mpr (fun a _ => written_quoteDelimitedCell (value a) d)

theorem written_header (columns : List Json) : List.Forall₂ (Csv.Written d) (headerRecord columns) (headerCells d columns) :=
  .cons (written_quoteDelimitedCell (some "row_name") d) (written_map columnLabel columns)

theorem written_row (row : Json × List Json) : List.Forall₂ (Csv.Written d) (rowRecord row) (rowCells d row) :=
  .cons (written_quoteDelimitedCell _ d) (written_map (fun cell => some (cellText cell)) row.2)

/-- Lines joined and ended by CR LF are lines that each end so. -/
theorem intercalate_lines (records : List (List (List Char))) (first : List (List Char)) :
    ['\r', '\n'].intercalate ((first :: records).map [d].intercalate) ++ ['\r', '\n'] = (first :: records).flatMap (Csv.line d) := by
  induction records generalizing first with
  | nil => simp [List.intercalate, Csv.line]
  | cons second records ih =>
    rw [List.flatMap_cons, ← ih second]
    simp [List.intercalate, Csv.line]

/-- A page is written as the lines of its records. -/
theorem dataViewDelimitedText_eq {page : Json} {columns : List Json} {rows : List (Json × List Json)}
    (hpage : IsDataViewPage page columns rows) (d : Char) :
    dataViewDelimitedText page d = .ok (String.ofList ((headerCells d columns :: rows.map (rowCells d)).flatMap (Csv.line d))) := by
  have hlines : ∀ l : List (Json × List Json), (∀ row ∈ l, (row.1.get "cells").bind Json.asArray = some row.2) →
      (l.map (·.1)).mapM (rowLine d) = .ok ((l.map (rowCells d)).map [d].intercalate) := by
    intro l hcells
    induction l with
    | nil => rfl
    | cons row l ih =>
      obtain ⟨hrow, hl⟩ := List.forall_mem_cons.mp hcells
      rw [List.map_cons, List.mapM_cons, rowLine, hrow, ih hl]
      rfl
  rw [dataViewDelimitedText, hpage.pageColumns]
  dsimp only
  rw [hpage.pageRows]
  dsimp only
  rw [hlines rows hpage.rowCells, ← intercalate_lines]
  rfl

end DataViewAux

open DataViewAux

/-- Read by the rules of RFC 4180, the text of a page is the header and one record for each row, in order. -/
theorem data_view_text_read_back (page : Json) (columns : List Json) (rows : List (Json × List Json)) (format : String)
    (hpage : IsDataViewPage page columns rows) :
    ∃ text, dataViewDelimitedText page (exportDelimiter format) = .ok text ∧
      Csv.parse (exportDelimiter format) text.toList = some (headerRecord columns :: rows.map rowRecord) := by
  have hdelimiter : Csv.IsDelimiter (exportDelimiter format) := by
    unfold exportDelimiter
    split <;> exact ⟨by decide, by decide, by decide⟩
  refine ⟨_, dataViewDelimitedText_eq hpage _, ?_⟩
  rw [String.toList_ofList]
  refine Csv.parse_lines hdelimiter ?_ (.cons (written_header columns) ?_)
  · intro record hrecord
    rcases List.mem_cons.mp hrecord with rfl | hrecord
    · exact List.cons_ne_nil _ _
    · obtain ⟨row, -, rfl⟩ := List.mem_map.mp hrecord
      exact List.cons_ne_nil _ _
  · rw [List.forall₂_map_left_iff, List.forall₂_map_right_iff]
    exact List.forall₂_same.mpr (fun row _ => written_row row)

namespace SampleDataView

def row : Json := .obj [("row_name", .str "row,1"), ("cells", .arr [.str "He said \"hi\"", .null])]

def page : Json := .obj [("columns", .arr [.obj [("name", .str "note")], .obj [("label", .str "n")]]), ("rows", .arr [row])]

end SampleDataView

theorem data_view_text_read_back_sample : ∃ text, dataViewDelimitedText SampleDataView.page ',' = .ok text ∧
    Csv.parse ',' text.toList =
      some [["row_name".toList, "note".toList, "n".toList], ["row,1".toList, "He said \"hi\"".toList, []]] :=
  data_view_text_read_back SampleDataView.page [.obj [("name", .str "note")], .obj [("label", .str "n")]]
    [(SampleDataView.row, [.str "He said \"hi\"", .null])] "csv"
    ⟨rfl, rfl, List.forall_mem_singleton.mpr rfl⟩

end Rho
