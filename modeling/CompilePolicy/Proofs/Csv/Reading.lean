import CompilePolicy.Csv
import Mathlib.Data.List.Basic

/-!
# Reading comma-separated values

A reader takes a text character by character. A comma ends a field and a line feed ends a
record, unless they stand between quotes. A quote at the beginning of a field opens a quoted
part; between quotes two quotes stand for one, and a single one closes the part.

Main statement: `records?_table`, a table is read as its header and its records.
-/

namespace CompilePolicy.Csv

/-- Where a reader stands in a field. -/
inductive Place where
  | start
  | bare
  | quoted
  /-- Behind a quote that stands between quotes. -/
  | closed
deriving DecidableEq, Repr

/-- What was read: the records that ended, the fields of the next record that ended, and the
characters of the next field. -/
structure Reader where
  records : List (List String) := []
  fields : List String := []
  text : List Char := []
  place : Place := .start
deriving DecidableEq, Repr

namespace Reader

/-- Takes a character into the field. -/
def take (reader : Reader) (c : Char) (place : Place) : Reader :=
  { reader with text := reader.text ++ [c], place }

/-- Ends the field. -/
def endField (reader : Reader) : Reader :=
  { records := reader.records, fields := reader.fields ++ [String.ofList reader.text] }

/-- Ends the record with its last field. -/
def endRecord (reader : Reader) : Reader :=
  { records := reader.records ++ [reader.endField.fields] }

/-- Reads a character that does not stand between quotes and opens none. -/
def stepBare (reader : Reader) (c : Char) : Reader :=
  if c = ',' then reader.endField
  else if c = '\n' then reader.endRecord
  else reader.take c .bare

/-- Reads a character. -/
def step (reader : Reader) (c : Char) : Reader :=
  match reader.place with
  | .start => if c = '\x22' then { reader with place := .quoted } else reader.stepBare c
  | .bare => reader.stepBare c
  | .quoted => if c = '\x22' then { reader with place := .closed } else reader.take c .quoted
  | .closed => if c = '\x22' then reader.take c .quoted else reader.stepBare c

/-- Reads characters. -/
def run (reader : Reader) (chars : List Char) : Reader :=
  chars.foldl step reader

end Reader

/-- The records of a text, if the last one ends. -/
def records? (text : String) : Option (List (List String)) :=
  let last := Reader.run {} text.toList
  if last = { records := last.records } then some last.records else none

namespace Reader

/-! ## Fields -/

theorem run_append (reader : Reader) (first second : List Char) :
    reader.run (first ++ second) = (reader.run first).run second :=
  List.foldl_append

theorem step_comma {reader : Reader} (outside : reader.place ≠ .quoted) :
    reader.step ',' = reader.endField := by
  unfold step
  cases place : reader.place with
  | quoted => exact absurd place outside
  | start | bare | closed => rfl

theorem step_lineFeed {reader : Reader} (outside : reader.place ≠ .quoted) :
    reader.step '\n' = reader.endRecord := by
  unfold step
  cases place : reader.place with
  | quoted => exact absurd place outside
  | start | bare | closed => rfl

/-- A character that needs no quotes goes into the field as it is. -/
theorem step_of_not_needsQuotes {reader : Reader} {c : Char}
    (outside : reader.place = .start ∨ reader.place = .bare) (plain : needsQuotes c = false) :
    reader.step c = reader.take c .bare := by
  simp only [needsQuotes, Bool.or_eq_false_iff, beq_eq_false_iff_ne] at plain
  rcases plain with ⟨⟨notComma, notQuote⟩, notLineFeed⟩
  have bare : reader.stepBare c = reader.take c .bare := by
    rw [stepBare, if_neg notComma, if_neg notLineFeed]
  unfold step
  rcases outside with start | inside
  · simp [start, notQuote, bare]
  · simp [inside, bare]

/-- Characters that need no quotes are read as they are. -/
theorem run_of_not_needsQuotes {reader : Reader} {chars : List Char}
    (outside : reader.place = .start ∨ reader.place = .bare)
    (plain : ∀ c ∈ chars, needsQuotes c = false) :
    ∃ place ≠ .quoted, reader.run chars = { reader with text := reader.text ++ chars, place } := by
  induction chars generalizing reader with
  | nil =>
      refine ⟨reader.place, ?_, by simp [run]⟩
      rcases outside with start | inside
      · rw [start]
        decide
      · rw [inside]
        decide
  | cons c rest ih =>
      rw [List.forall_mem_cons] at plain
      rcases @ih (reader.take c .bare) (.inr rfl) plain.2 with ⟨place, apart, same⟩
      refine ⟨place, apart, ?_⟩
      rw [run, List.foldl_cons, step_of_not_needsQuotes outside plain.1, ← run, same]
      simp [take]

/-- Between quotes everything is read as it is, and two quotes as one. -/
theorem run_quotedChar {reader : Reader} (inside : reader.place = .quoted) (c : Char) :
    reader.run (quotedChar c) = reader.take c .quoted := by
  unfold quotedChar
  by_cases quote : c = '\x22'
  · simp [run, step, inside, quote, take]
  · simp [run, step, inside, quote]

theorem run_quotedChars {reader : Reader} (inside : reader.place = .quoted) (chars : List Char) :
    reader.run (chars.flatMap quotedChar) = { reader with text := reader.text ++ chars } := by
  induction chars generalizing reader with
  | nil => simp [run]
  | cons c rest ih =>
      rw [List.flatMap_cons, run_append, run_quotedChar inside, ih rfl]
      simp [take, inside]

/-- A field is read as its text. -/
theorem run_field {reader : Reader} (start : reader.place = .start) (empty : reader.text = [])
    (text : String) :
    ∃ place ≠ .quoted,
      reader.run (field text).toList = { reader with text := text.toList, place } := by
  unfold field
  split
  · refine ⟨.closed, by decide, ?_⟩
    have opened : reader.step '\x22' = { reader with place := .quoted } := by
      simp [step, start]
    rw [String.toList_ofList, run, List.foldl_cons, opened, ← run, run_append,
      run_quotedChars rfl]
    simp [run, step, empty]
  · rename_i none
    have plain : ∀ c ∈ text.toList, needsQuotes c = false := by
      simpa using none
    rcases run_of_not_needsQuotes (.inl start) plain with ⟨place, apart, same⟩
    refine ⟨place, apart, ?_⟩
    rw [same, empty, List.nil_append]

/-! ## Records -/

/-- The fields of a record are read one after the other, and its line feed ends it. -/
theorem run_record {records : List (List String)} {read fields : List String}
    (some : fields ≠ []) :
    run { records, fields := read } (record fields).toList =
      { records := records ++ [read ++ fields] } := by
  induction fields generalizing read with
  | nil => exact absurd rfl some
  | cons first rest ih =>
      rcases @run_field { records, fields := read } rfl rfl first with ⟨place, apart, same⟩
      cases rest with
      | nil =>
          rw [record, List.map_singleton, String.intercalate_singleton, String.toList_append,
            run_append, same]
          change step _ '\n' = _
          rw [step_lineFeed apart]
          simp [endRecord, endField]
      | cons second rest =>
          have cut : (record (first :: second :: rest)).toList =
              (field first).toList ++ (',' :: (record (second :: rest)).toList) := by
            simp [record, String.intercalate_cons_cons]
          rw [cut, run_append, same, run, List.foldl_cons, step_comma apart, ← run]
          simp only [endField, String.ofList_toList]
          rw [ih (List.cons_ne_nil _ _)]
          simp

/-- Records are read one after the other. -/
theorem run_records {read records : List (List String)} (full : ∀ fields ∈ records, fields ≠ []) :
    run { records := read } (String.join (records.map record)).toList =
      { records := read ++ records } := by
  induction records generalizing read with
  | nil => simp [run]
  | cons fields rest ih =>
      rw [List.forall_mem_cons] at full
      rw [List.map_cons, String.join_cons, String.toList_append, run_append,
        run_record full.1, ih full.2]
      simp

end Reader

/-- A table is read as its header and its records, whatever texts their fields are. -/
theorem records?_table {header : List String} {rows : List (List String)} (titled : header ≠ [])
    (full : ∀ row ∈ rows, row ≠ []) : records? (table header rows) = some (header :: rows) := by
  have all : ∀ fields ∈ header :: rows, fields ≠ [] := List.forall_mem_cons.mpr ⟨titled, full⟩
  have read : Reader.run {} (table header rows).toList = { records := header :: rows } :=
    Reader.run_records all
  rw [records?, read]
  simp

example : records? "a,\"b,\n\"\n\"\"\"\",\n" = some [["a", "b,\n"], ["\"", ""]] := by decide

end CompilePolicy.Csv
