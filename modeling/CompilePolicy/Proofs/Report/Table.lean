import CompilePolicy.Engine.Walk
import CompilePolicy.Proofs.Csv.Reading
import CompilePolicy.Proofs.Report.Export
import CompilePolicy.Proofs.Rule.Attribution
import Mathlib.Data.List.Induction

/-!
# The table of diagnostics as it is read

What the built-in rules emit carries nothing besides its six texts, or the extensions that were
rejected. So its table has the fixed columns, and behind them one for the rejected extensions
if some diagnostic carries any, and a reader finds in it every diagnostic in its place.
-/

namespace CompilePolicy.Report

open CompilePolicy.Document CompilePolicy.FileSystem CompilePolicy.Text

/-! ## What built-in rules emit -/

/-- The rejected extensions that a diagnostic carries. -/
def rejectedBy (diagnostic : Diagnostic) : List String :=
  match diagnostic.metadata.lookup rejectedColumn with
  | some (.list items) => items.filterMap Value.string?
  | _ => []

/-- A built-in rule emits a diagnostic, under some configuration and at some node of some class
in some unit. -/
def IsEmitted (diagnostic : Diagnostic) : Prop :=
  ∃ config unitName owner node, ∃ rule ∈ builtInRules, ∃ given,
    checkRule config unitName owner node rule = .ok given ∧ diagnostic ∈ given

/-- Named values that are none, or some rejected extensions. -/
def AreRejected (metadata : List (String × Value)) : Prop :=
  metadata = [] ∨ ∃ rejected ≠ [], metadata = [(rejectedColumn, .strings rejected)]

theorem IsEmitted.areRejected {diagnostic : Diagnostic} (emitted : IsEmitted diagnostic) :
    AreRejected diagnostic.metadata := by
  rcases emitted with ⟨config, unitName, owner, node, rule, builtIn, given, reports, listed⟩
  unfold checkRule at reports
  split at reports
  · rename_i own found
    cases reports
    rcases List.mem_map.mp listed with ⟨made, isOwn, rfl⟩
    obtain ⟨message, metadata, rfl, rejected⟩ := eq_attributed_of_builtIn builtIn found isOwn
    exact rejected
  · cases reports

/-! ## Rows -/

/-- The six texts of a diagnostic. -/
def textsOf (diagnostic : Diagnostic) : List String :=
  [diagnostic.unit, diagnostic.owner, diagnostic.subject.kind, diagnostic.subject.name,
   diagnostic.ruleId, diagnostic.message]

/-- The row of a diagnostic that carries at most rejected extensions. -/
def rowOf (diagnostic : Diagnostic) : Row :=
  fixedColumns.zip ((textsOf diagnostic).map .string) ++
    if rejectedBy diagnostic = [] then []
    else [(rejectedColumn, .string (";".intercalate (rejectedBy diagnostic)))]

theorem filterMap_string? (texts : List String) :
    (texts.map Value.string).filterMap Value.string? = texts := by
  rw [List.filterMap_map]
  exact List.filterMap_some

theorem textsFrom_strings (position : Nat) (texts : List String) :
    textsFrom position (texts.map .string) = .ok texts := by
  induction texts generalizing position with
  | nil => rfl
  | cons text rest ih =>
      rw [List.map_cons, textsFrom, ih]
      rfl

/-- Rows are joined one by one. -/
theorem joinedRows_eq {α : Type} {fields row : α → Row} {items : List α}
    (each : ∀ item ∈ items, joinedRow (fields item) = .ok (row item)) :
    joinedRows (items.map fields) = .ok (items.map row) := by
  induction items with
  | nil => rfl
  | cons item rest ih =>
      rw [List.forall_mem_cons] at each
      rw [List.map_cons, joinedRows, each.1, ih each.2]
      rfl

/-- Texts stay as they are in a row. -/
theorem joinedRow_texts (names texts : List String) (rest : Row) :
    joinedRow (names.zip (texts.map .string) ++ rest) =
      (joinedRow rest).map (names.zip (texts.map .string) ++ ·) := by
  have none : joinedRow rest = (joinedRow rest).map fun row => row := by
    cases joinedRow rest <;> rfl
  induction names generalizing texts with
  | nil => exact none
  | cons name names ih =>
      cases texts with
      | nil => exact none
      | cons text texts =>
          rw [List.map_cons, List.zip_cons_cons, List.cons_append, joinedRow, ih]
          cases joinedRow rest <;> rfl

/-- The row of what a built-in rule emits. -/
theorem joinedRow_fields {diagnostic : Diagnostic} (plain : AreRejected diagnostic.metadata) :
    joinedRow diagnostic.fields = .ok (rowOf diagnostic) := by
  rcases plain with none | ⟨rejected, some, attached⟩
  · have nothing : rejectedBy diagnostic = [] := by
      rw [rejectedBy, none]
      rfl
    rw [Diagnostic.fields, none, rowOf, if_pos nothing]
    rfl
  · have own : rejectedBy diagnostic = rejected := by
      rw [rejectedBy, attached]
      exact filterMap_string? rejected
    have fields : diagnostic.fields = fixedColumns.zip ((textsOf diagnostic).map .string) ++
        [(rejectedColumn, .strings rejected)] := by
      have new : rejectedColumn ∉ fixedColumns := by decide
      rw [Diagnostic.fields, attached]
      exact setField_of_not_mem new _
    have joined : joinedValue rejectedColumn (.strings rejected) =
        .ok (.string (";".intercalate rejected)) := by
      rw [Value.strings, joinedValue, if_pos rfl, textsFrom_strings]
      rfl
    rw [fields, rowOf, own, if_neg some, joinedRow_texts, joinedRow, joined]
    rfl

/-! ## Columns -/

/-- The columns of a table with or without rejected extensions. -/
def columnsWith (rejects : Bool) : List String :=
  fixedColumns ++ if rejects then [rejectedColumn] else []

/-- Whether a diagnostic carries rejected extensions. -/
def carries (diagnostic : Diagnostic) : Bool :=
  !(rejectedBy diagnostic).isEmpty

theorem columns_rowOf (diagnostic : Diagnostic) :
    (rowOf diagnostic).map (·.1) = columnsWith (carries diagnostic) := by
  unfold rowOf columnsWith carries
  cases rejectedBy diagnostic <;> rfl

theorem addColumns_columnsWith (known added : Bool) :
    addColumns (columnsWith known) (columnsWith added) = columnsWith (known || added) := by
  cases known <;> cases added <;> decide

/-- The columns of rows are the fixed ones, and the one of rejected extensions if some row has
it. -/
theorem columnsOf_rows (diagnostics : List Diagnostic) :
    columnsOf (diagnostics.map rowOf) = columnsWith (diagnostics.any carries) := by
  have later : ∀ known (rest : List Diagnostic),
      (rest.map rowOf).foldl (fun columns row => addColumns columns (row.map (·.1)))
        (columnsWith known) = columnsWith (known || rest.any carries) := by
    intro known rest
    induction rest generalizing known with
    | nil => simp
    | cons diagnostic rest ih =>
        rw [List.map_cons, List.foldl_cons, columns_rowOf, addColumns_columnsWith, ih,
          List.any_cons, Bool.or_assoc]
  cases diagnostics with
  | nil => rfl
  | cons diagnostic rest =>
      have first : ∀ rejects, addColumns [] (columnsWith rejects) = columnsWith rejects := by
        decide
      rw [columnsOf, if_neg (by simp), List.map_cons, List.foldl_cons, columns_rowOf, first, later,
        List.any_cons]

/-- The cells of a row are its texts and the rejected extensions. -/
theorem cells_rowOf (diagnostic : Diagnostic) {rejects : Bool}
    (sees : carries diagnostic = true → rejects = true) (isStyled : String → Bool) :
    ((columnsWith rejects).map fun column =>
      cellText (isStyled column) (valueIn column (rowOf diagnostic))) =
      textsOf diagnostic ++ if rejects then [";".intercalate (rejectedBy diagnostic)] else [] := by
  unfold carries at sees
  unfold rowOf
  generalize rejectedBy diagnostic = rejected at sees ⊢
  cases rejected with
  | nil => cases rejects <;> rfl
  | cons first rest =>
      rw [sees rfl]
      rfl

/-! ## The table -/

/-- The table of rows has the texts of all diagnostics, whatever the styles of its columns. -/
theorem tableOf_rows (diagnostics : List Diagnostic) :
    let rejects := diagnostics.any carries
    tableOf (diagnostics.map rowOf) =
      Csv.table (columnsWith rejects) (diagnostics.map fun diagnostic =>
        textsOf diagnostic ++
          if rejects then [";".intercalate (rejectedBy diagnostic)] else []) := by
  intro rejects
  rw [tableOf, styledColumns, columnsOf_rows, List.map_map, List.map_map]
  congr 1
  · exact List.map_id' _
  · refine List.map_congr_left fun diagnostic listed => ?_
    have sees : carries diagnostic = true → rejects = true := fun own =>
      List.any_eq_true.mpr ⟨diagnostic, listed, own⟩
    rw [← cells_rowOf diagnostic sees fun column =>
      isFractional ((diagnostics.map rowOf).map (valueIn column))]
    simp [Function.comp_def, rejects]

theorem table_eq {diagnostics : List Diagnostic}
    (plain : ∀ diagnostic ∈ diagnostics, AreRejected diagnostic.metadata) :
    table diagnostics = .ok (tableOf (diagnostics.map rowOf)) := by
  have joined : joinedRows (diagnostics.map Diagnostic.fields) = .ok (diagnostics.map rowOf) :=
    joinedRows_eq fun diagnostic listed => joinedRow_fields (plain diagnostic listed)
  rw [table, joined]
  rfl

/-! ## Writing -/

/-- A file can be written: its directory is there or can be made, and so can the file in it. -/
def CanWrite (files : Files) (path : Path) : Prop :=
  ∃ prepared, files.makeDirectories path.parent = .ok prepared ∧
    ∃ place, prepared.writable path = .ok place

/-- A report with a text is written exactly if its file can be written and the text has bytes,
and the file has these bytes then. -/
theorem exportOne_spec (files : Files) (path : Path) {content : Content} {format : Format}
    {text : String} (worded : content.text format = .ok text) :
    ((∃ after, exportOne files content format path = .ok after) ↔
      CanWrite files path ∧ Encodes text) ∧
    ∀ after, exportOne files content format path = .ok after →
      ∃ bytes, encode text = .ok bytes ∧ after.content path = .ok bytes := by
  simp only [exportOne, bind_eq_ok_iff, mapError_eq_ok_iff, worded, Except.ok.injEq,
    exists_eq_left', Files.write_eq_ok_iff]
  refine ⟨⟨?_, ?_⟩, ?_⟩
  · rintro ⟨_, prepared, made, bytes, coded, place, able, -⟩
    exact ⟨⟨prepared, made, place, able⟩, bytes, coded⟩
  · rintro ⟨⟨prepared, made, place, able⟩, bytes, coded⟩
    exact ⟨_, prepared, made, bytes, coded, place, able, rfl⟩
  · rintro after ⟨prepared, made, bytes, coded, place, able, rfl⟩
    exact ⟨bytes, coded, (Files.write_of_writable able bytes).2.2⟩

/-- The table of diagnostics that built-in rules emit is read as a header and one record for
each diagnostic, in their order. The header has the fixed columns, and behind them one for
rejected extensions exactly if some diagnostic carries any. A record has the texts of its
diagnostic as they are, and in that further column the extensions that were rejected, joined,
or nothing. An export puts this text into the file that it is asked to write, if the text has
bytes and the file can be written. -/
theorem table_is_read_back {diagnostics : List Diagnostic}
    (emitted : ∀ diagnostic ∈ diagnostics, IsEmitted diagnostic) :
    ∃ text, table diagnostics = .ok text ∧
      Csv.records? text = some (
        (["unit", "owner", "node_kind", "node_name", "rule_id", "message"] ++
          if ∃ diagnostic ∈ diagnostics, rejectedBy diagnostic ≠ [] then ["rejected"] else []) ::
        diagnostics.map fun diagnostic =>
          [diagnostic.unit, diagnostic.owner, diagnostic.subject.kind, diagnostic.subject.name,
            diagnostic.ruleId, diagnostic.message] ++
          if ∃ diagnostic ∈ diagnostics, rejectedBy diagnostic ≠ [] then
            [";".intercalate (rejectedBy diagnostic)] else []) ∧
      ∀ files path content, content.outcome.diagnostics = diagnostics →
        ((∃ after, exportOne files content .csv path = .ok after) ↔
          CanWrite files path ∧ Encodes text) ∧
        ∀ after, exportOne files content .csv path = .ok after →
          ∃ bytes, encode text = .ok bytes ∧ after.content path = .ok bytes := by
  have rejects : diagnostics.any carries = true ↔
      ∃ diagnostic ∈ diagnostics, rejectedBy diagnostic ≠ [] := by
    simp [carries]
  have worded := table_eq fun diagnostic listed => (emitted diagnostic listed).areRejected
  refine ⟨_, worded, ?_, fun files path content own => exportOne_spec files path (own ▸ worded)⟩
  simp only [← rejects]
  rw [tableOf_rows]
  exact Csv.records?_table (by simp [columnsWith, fixedColumns]) (by simp [textsOf])

/-- A dynamic field in a class with a comma and quotes in its name, whose own name ends in a line
feed, and the class with two extensions that are not allowed. -/
theorem table_is_read_back_at_quoted_names :
    let owner : ClassDecl := { name := "a,\x22A\x22" }
    let field : Node := .ofField { name := "x\n", isDynamic := true }
    let decl : Node := .ofClass { name := "a,\x22A\x22", annotations :=
      [{ name := compileStatic, members := [(extensionsMember, .list ["p", "q,r"])] }] }
    let diagnostics : List Diagnostic :=
      [{ message := "def is not allowed for variables.", subject := .node field,
         ruleId := "DEF_FIELD", owner := owner.name, unit := "" },
       { message := "Compile Static extensions are limited to: []", subject := .node decl,
         ruleId := "EXTENSION_LIMIT_CLASS", owner := owner.name, unit := "u",
         metadata := [("rejected", .strings ["p", "q,r"])] }]
    (∀ diagnostic ∈ diagnostics, IsEmitted diagnostic) ∧
      (table diagnostics).toOption.bind Csv.records? = some
        [["unit", "owner", "node_kind", "node_name", "rule_id", "message", "rejected"],
         ["", "a,\x22A\x22", "field", "x\n", "DEF_FIELD", "def is not allowed for variables.", ""],
         ["u", "a,\x22A\x22", "class", "a,\x22A\x22", "EXTENSION_LIMIT_CLASS",
          "Compile Static extensions are limited to: []", "p;q,r"]] := by
  intro owner field decl diagnostics
  have emitted : ∀ diagnostic ∈ diagnostics, IsEmitted diagnostic := by
    simp only [diagnostics, List.forall_mem_cons]
    refine ⟨⟨{ dynamicTypingAllowed := false }, "", owner, field,
        dynamicTypeRule "DEF_FIELD" .ofField "def is not allowed for variables.", ?_,
        _, rfl, .head _⟩,
      ⟨{ limitExtensions := true }, "u", owner, decl,
        extensionRule "EXTENSION_LIMIT_CLASS" .ofClass 20, ?_, _, rfl, .head _⟩,
      List.forall_mem_nil _⟩
    · exact .tail _ (.tail _ (.tail _ (.tail _ (.head _))))
    · exact .tail _ (.tail _ (.head _))
  refine ⟨emitted, ?_⟩
  rcases table_is_read_back emitted with ⟨text, made, read, _⟩
  rw [made]
  refine read.trans ?_
  rfl

end CompilePolicy.Report
