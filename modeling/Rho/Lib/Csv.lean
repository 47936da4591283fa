import Mathlib.Data.List.Basic
import Mathlib.Tactic.Common

/-!
# Delimited text

A reader of RFC 4180 for any delimiter: records end with CR LF (the last one may do without), a field stands bare or between
quotes, and between quotes a quote is doubled. A text that does not follow the grammar is refused.
-/

namespace Csv

/-- Where the reader stands: at the start of a field, inside a bare or a quoted one, after a quote inside a quoted one, or after
a CR that ends a record. -/
inductive State where
  | start
  | bare
  | quoted
  | closed
  | cr
  deriving DecidableEq, Repr

/-- What is left of the field, of the record and of the text. -/
structure Rest where
  field : List Char
  record : List (List Char)
  records : List (List (List Char))
  deriving DecidableEq, Repr

namespace Rest

def push (c : Char) (r : Rest) : Rest := { r with field := c :: r.field }

/-- The field ends, and a further one follows. -/
def nextField (r : Rest) : Rest := ⟨[], r.field :: r.record, r.records⟩

/-- The record ends, and a further one follows. -/
def nextRecord (r : Rest) : Rest := ⟨[], [], (r.field :: r.record) :: r.records⟩

def prepend (text : List Char) (r : Rest) : Rest := { r with field := text ++ r.field }

theorem map_prepend_nil (r : Option Rest) : r.map (prepend []) = r := congrFun Option.map_id r

theorem map_push_prepend (c : Char) (text : List Char) (r : Option Rest) :
    (r.map (prepend text)).map (push c) = r.map (prepend (c :: text)) := by
  rw [Option.map_map]
  rfl

end Rest

/-- Reads on after a field that cannot go on: a delimiter, a CR or the end. -/
def afterField (d : Char) (next : State → Option Rest) (c : Char) : Option Rest :=
  if c = d then (next .start).map Rest.nextField else if c = '\r' then next .cr else none

def read (d : Char) : State → List Char → Option Rest
  | .quoted, [] => none
  | .cr, [] => none
  | _, [] => some ⟨[], [], []⟩
  | .start, c :: s =>
    if c = '"' then read d .quoted s
    else if c = '\n' then none
    else if c = d ∨ c = '\r' then afterField d (fun state => read d state s) c
    else (read d .bare s).map (Rest.push c)
  | .bare, c :: s =>
    if c = '"' ∨ c = '\n' then none
    else if c = d ∨ c = '\r' then afterField d (fun state => read d state s) c
    else (read d .bare s).map (Rest.push c)
  | .quoted, c :: s => if c = '"' then read d .closed s else (read d .quoted s).map (Rest.push c)
  | .closed, c :: s =>
    if c = '"' then (read d .quoted s).map (Rest.push c) else afterField d (fun state => read d state s) c
  | .cr, c :: s =>
    if c ≠ '\n' then none else if s = [] then some ⟨[], [], []⟩ else (read d .start s).map Rest.nextRecord

/-- The records of a text. -/
def parse (d : Char) (text : List Char) : Option (List (List (List Char))) :=
  if text = [] then some [] else (read d .start text).map (fun r => (r.field :: r.record) :: r.records)

example : parse ',' "a,\"b\"\"\r\n\"\r\n,\r\n".toList = some [["a".toList, "b\"\r\n".toList], [[], []]] := by decide

example : parse ',' "a\"b\"".toList = none := by decide

/-! ## Writing -/

/-- What a bare field cannot hold. -/
def Special (d c : Char) : Prop := c = '"' ∨ c = '\n' ∨ c = '\r' ∨ c = d

/-- Every quote doubled. -/
def escape (text : List Char) : List Char := text.flatMap (fun c => if c = '"' then ['"', '"'] else [c])

/-- A cell holds a text: between quotes, or bare when nothing in it is special. -/
def Written (d : Char) (text cell : List Char) : Prop :=
  cell = '"' :: (escape text ++ ['"']) ∨ cell = text ∧ ∀ c ∈ text, ¬ Special d c

/-- A record is its cells with a delimiter between them, ended by CR LF. -/
def line (d : Char) (cells : List (List Char)) : List Char := [d].intercalate cells ++ ['\r', '\n']

/-- The delimiter is none of the characters with another meaning. -/
def IsDelimiter (d : Char) : Prop := d ≠ '"' ∧ d ≠ '\n' ∧ d ≠ '\r'

section Reading

variable {d : Char}

theorem read_start_cons (c : Char) (s : List Char) : read d .start (c :: s) =
    if c = '"' then read d .quoted s
    else if c = '\n' then none
    else if c = d ∨ c = '\r' then afterField d (fun state => read d state s) c
    else (read d .bare s).map (Rest.push c) := rfl

theorem read_bare_cons (c : Char) (s : List Char) : read d .bare (c :: s) =
    if c = '"' ∨ c = '\n' then none
    else if c = d ∨ c = '\r' then afterField d (fun state => read d state s) c
    else (read d .bare s).map (Rest.push c) := rfl

theorem read_quoted_cons (c : Char) (s : List Char) :
    read d .quoted (c :: s) = if c = '"' then read d .closed s else (read d .quoted s).map (Rest.push c) := rfl

theorem read_closed_cons (c : Char) (s : List Char) : read d .closed (c :: s) =
    if c = '"' then (read d .quoted s).map (Rest.push c) else afterField d (fun state => read d state s) c := rfl

theorem read_cr_cons (c : Char) (s : List Char) : read d .cr (c :: s) =
    if c ≠ '\n' then none else if s = [] then some ⟨[], [], []⟩ else (read d .start s).map Rest.nextRecord := rfl

variable {text s cell : List Char}

theorem read_bare (hplain : ∀ c ∈ text, ¬ Special d c) (s : List Char) :
    read d .bare (text ++ s) = (read d .bare s).map (Rest.prepend text) := by
  induction text with
  | nil => exact (Rest.map_prepend_nil _).symm
  | cons c text ih =>
    obtain ⟨hc, htext⟩ := List.forall_mem_cons.mp hplain
    simp only [Special, not_or] at hc
    rw [List.cons_append, read_bare_cons, if_neg (by simp [hc]), if_neg (by simp [hc]), ih htext, Rest.map_push_prepend]

theorem read_quoted (text s : List Char) :
    read d .quoted (escape text ++ '"' :: s) = (read d .closed s).map (Rest.prepend text) := by
  induction text with
  | nil => exact (Rest.map_prepend_nil _).symm
  | cons c text ih =>
    rw [escape, List.flatMap_cons, List.append_assoc]
    by_cases hc : c = '"'
    · rw [if_pos hc, List.cons_append, List.cons_append, List.nil_append, read_quoted_cons, if_pos rfl, read_closed_cons,
        if_pos rfl]
      refine (congrArg (Option.map _) ih).trans ?_
      rw [Rest.map_push_prepend, hc]
    · rw [if_neg hc, List.cons_append, List.nil_append, read_quoted_cons, if_neg hc]
      exact (congrArg (Option.map _) ih).trans (Rest.map_push_prepend c text _)

/-- What may stand after a cell. -/
def EndsCell (d : Char) (s : List Char) : Prop := ∃ c s', s = c :: s' ∧ (c = d ∨ c = '\r')

theorem read_closed (hd : IsDelimiter d) (hs : EndsCell d s) : read d .closed s = read d .bare s := by
  obtain ⟨c, s, rfl, hc⟩ := hs
  have hquote : c ≠ '"' := by
    rintro rfl
    exact hc.elim (fun h => hd.1 h.symm) (by decide)
  have hfeed : c ≠ '\n' := by
    rintro rfl
    exact hc.elim (fun h => hd.2.1 h.symm) (by decide)
  rw [read_closed_cons, read_bare_cons, if_neg hquote, if_neg (by simp [hquote, hfeed]), if_pos hc]

theorem read_start_end (hd : IsDelimiter d) (hs : EndsCell d s) : read d .start s = read d .bare s := by
  obtain ⟨c, s, rfl, hc⟩ := hs
  have hquote : c ≠ '"' := by
    rintro rfl
    exact hc.elim (fun h => hd.1 h.symm) (by decide)
  have hfeed : c ≠ '\n' := by
    rintro rfl
    exact hc.elim (fun h => hd.2.1 h.symm) (by decide)
  rw [read_start_cons, read_bare_cons, if_neg hquote, if_neg hfeed, if_pos hc, if_neg (by simp [hquote, hfeed])]

/-- A cell is read as its text. -/
theorem read_cell (hd : IsDelimiter d) (hcell : Written d text cell) (hs : EndsCell d s) :
    read d .start (cell ++ s) = (read d .bare s).map (Rest.prepend text) := by
  rcases hcell with rfl | ⟨rfl, hplain⟩
  · rw [List.cons_append, read_start_cons, if_pos rfl, List.append_assoc, List.singleton_append, read_quoted, read_closed hd hs]
  · cases cell with
    | nil => rw [List.nil_append, read_start_end hd hs, Rest.map_prepend_nil]
    | cons c text =>
      obtain ⟨hc, htext⟩ := List.forall_mem_cons.mp hplain
      simp only [Special, not_or] at hc
      rw [List.cons_append, read_start_cons, if_neg hc.1, if_neg hc.2.1, if_neg (by simp [hc]), read_bare htext,
        Rest.map_push_prepend]

theorem read_end (hd : IsDelimiter d) (s : List Char) :
    read d .bare ('\r' :: '\n' :: s) = (parse d s).map (fun records => ⟨[], [], records⟩) := by
  have hcr : '\r' ≠ d := fun h => hd.2.2 h.symm
  rw [read_bare_cons, if_neg (by decide), if_pos (.inr rfl), afterField, if_neg hcr, if_pos rfl, read_cr_cons, if_neg (by simp),
    parse]
  split
  · rfl
  · rw [Option.map_map]
    rfl

/-- A record is read cell by cell. -/
theorem read_line (hd : IsDelimiter d) {texts cells : List (List Char)} (hcells : List.Forall₂ (Written d) texts cells)
    (hcell : Written d text cell) (s : List Char) :
    read d .start (line d (cell :: cells) ++ s) = (parse d s).map (fun records => ⟨text, texts, records⟩) := by
  rw [line, List.append_assoc]
  induction hcells generalizing text cell with
  | nil =>
    rw [show [d].intercalate [cell] = cell from by simp [List.intercalate], List.cons_append, List.cons_append,
      List.nil_append, read_cell hd hcell ⟨_, _, rfl, .inr rfl⟩, read_end hd, Option.map_map]
    congr 1
    funext records
    exact congrArg (fun field => Rest.mk field [] records) (List.append_nil text)
  | @cons text' cell' texts cells hcell' _ ih =>
    rw [show [d].intercalate (cell :: cell' :: cells) = cell ++ d :: [d].intercalate (cell' :: cells) from by
      simp [List.intercalate], List.append_assoc, List.cons_append, read_cell hd hcell ⟨_, _, rfl, .inl rfl⟩]
    rw [read_bare_cons, if_neg (by simp [hd.1, hd.2.1]), if_pos (.inl rfl), afterField, if_pos rfl, ih hcell', Option.map_map,
      Option.map_map]
    congr 1
    funext records
    exact congrArg (fun field => Rest.mk field (text' :: texts) records) (List.append_nil text)

/-- A text of lines is read as the records that were written. -/
theorem parse_lines (hd : IsDelimiter d) {records cells : List (List (List Char))} (hne : ∀ r ∈ records, r ≠ [])
    (hwritten : List.Forall₂ (List.Forall₂ (Written d)) records cells) :
    parse d (cells.flatMap (line d)) = some records := by
  induction hwritten with
  | nil => rfl
  | @cons record row records rows hrow _ ih =>
    obtain ⟨hrecord, hrecords⟩ := List.forall_mem_cons.mp hne
    cases hrow with
    | nil => exact absurd rfl hrecord
    | @cons text cell texts cells hcell hcells =>
      have htext : line d (cell :: cells) ++ rows.flatMap (line d) ≠ [] := by simp [line]
      rw [List.flatMap_cons, parse, if_neg htext, read_line hd hcells hcell, ih hrecords]
      rfl

end Reading

end Csv
