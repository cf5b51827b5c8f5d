import CompilePolicy.Proofs.Text.Plain
import CompilePolicy.Report.Export

/-!
# Reports and their bytes

JSON is plain, whatever is written, so the structured reports always have bytes. Of
the report for readers only the diagnostics can keep it from having bytes, and the
table holds nothing else.
-/

namespace CompilePolicy

open CompilePolicy.Calendar CompilePolicy.Decimal CompilePolicy.Document CompilePolicy.Text

/-! ## JSON -/

namespace Json

theorem arePlain_unitEscape (unit : Nat) : ArePlain (unitEscape unit) := by
  simp only [unitEscape, arePlain_cons]
  exact ⟨by decide, by decide, arePlain_padded (arePlain_digits_sixteen unit) 4⟩

theorem arePlain_codedChar (code : Nat) : ArePlain (codedChar code) := by
  unfold codedChar
  split
  · exact arePlain_unitEscape code
  · exact arePlain_append.mpr ⟨arePlain_unitEscape _, arePlain_unitEscape _⟩

theorem arePlain_writtenChar (c : Char) : ArePlain (writtenChar c) := by
  unfold writtenChar
  split
  case h_8 =>
    split
    · rename_i printable
      exact arePlain_cons.mpr ⟨.inr printable, arePlain_nil⟩
    · exact arePlain_codedChar c.toNat
  all_goals decide

theorem arePlain_writtenCode (code : Nat) : ArePlain (writtenCode code) := by
  unfold writtenCode
  split
  · exact arePlain_unitEscape code
  · exact arePlain_writtenChar (Char.ofNat code)

/-- A text between quotes is plain. -/
theorem isPlain_writtenText (text : String) : IsPlain (writtenText text) := by
  have inside : ArePlain ((codes text.toList).flatMap writtenCode) := by
    intro c listed
    rcases List.mem_flatMap.mp listed with ⟨code, _, own⟩
    exact arePlain_writtenCode code c own
  simp only [writtenText, isPlain_ofList, arePlain_cons, arePlain_append]
  exact ⟨by decide, inside, by decide⟩

theorem isPlain_lineBreak (level : Nat) : IsPlain (lineBreak level) := by
  rw [lineBreak, isPlain_ofList, arePlain_cons]
  exact ⟨by decide, arePlain_replicate (by decide) _⟩

theorem isPlain_bracketed {opening closing : String} {level : Nat} {members : List String}
    (opens : IsPlain opening) (closes : IsPlain closing)
    (each : ∀ member ∈ members, IsPlain member) :
    IsPlain (bracketed opening closing level members) := by
  unfold bracketed
  split
  · exact isPlain_append.mpr ⟨opens, closes⟩
  · have between : IsPlain ("," ++ lineBreak (level + 1)) :=
      isPlain_append.mpr ⟨by decide, isPlain_lineBreak _⟩
    simp only [isPlain_append]
    exact ⟨⟨⟨⟨opens, isPlain_lineBreak _⟩, isPlain_intercalate between each⟩,
      isPlain_lineBreak _⟩, closes⟩

mutual

/-- A value is written in plain characters. -/
theorem isPlain_written (level : Nat) (value : Value) : IsPlain (written level value) := by
  cases value with
  | null =>
      unfold written
      decide
  | bool flag => cases flag <;> unfold written <;> decide
  | int number =>
      unfold written
      exact isPlain_intText number
  | float number =>
      unfold written
      exact isPlain_floatText (by decide) (by decide) number
  | list items =>
      unfold written
      exact isPlain_bracketed (by decide) (by decide) (isPlain_writtenItems (level + 1) items)
  | pair first second =>
      unfold written
      refine isPlain_bracketed (by decide) (by decide) ?_
      simp only [List.forall_mem_cons]
      exact ⟨isPlain_written (level + 1) first, isPlain_written (level + 1) second,
        List.forall_mem_nil _⟩
  | map entries =>
      unfold written
      exact isPlain_bracketed (by decide) (by decide) (isPlain_writtenEntries (level + 1) entries)
  | string text | bytes content | date day | moment instant | set members | knot label body
  | again label shape =>
      unfold written
      exact isPlain_writtenText _

theorem isPlain_writtenItems (level : Nat) (items : List Value) :
    ∀ member ∈ writtenItems level items, IsPlain member := by
  cases items with
  | nil =>
      unfold writtenItems
      exact List.forall_mem_nil _
  | cons item rest =>
      unfold writtenItems
      exact List.forall_mem_cons.mpr ⟨isPlain_written level item, isPlain_writtenItems level rest⟩

theorem isPlain_writtenEntries (level : Nat) (entries : List (Value × Value)) :
    ∀ member ∈ writtenEntries level entries, IsPlain member := by
  cases entries with
  | nil =>
      unfold writtenEntries
      exact List.forall_mem_nil _
  | cons entry rest =>
      rcases entry with ⟨key, value⟩
      unfold writtenEntries
      refine List.forall_mem_cons.mpr ⟨?_, isPlain_writtenEntries level rest⟩
      simp only [isPlain_append]
      exact ⟨⟨isPlain_writtenText _, by decide⟩, isPlain_written level value⟩

end

end Json

/-! ## Reports -/

namespace Report

theorem encodes_full (now : Moment) (config : Option Configuration) (outcome : Outcome) :
    Encodes (full now config outcome) :=
  encodes_of_isPlain (Json.isPlain_written 0 _)

theorem encodes_trail (now : Moment) (config : Option Configuration) (tree : Option String)
    (outcome : Outcome) : Encodes (trail now config tree outcome) :=
  encodes_of_isPlain (Json.isPlain_written 0 _)

/-- The section of the report for readers that names the diagnostics. -/
def diagnosticSection (diagnostics : List Diagnostic) : String :=
  "\n".intercalate ("## Diagnostics" :: "" :: diagnosticLines diagnostics)

theorem isPlain_summaryRow {name : String} (plain : IsPlain name) (count : Nat) :
    IsPlain (summaryRow name count) := by
  simp only [summaryRow, isPlain_append]
  exact ⟨⟨⟨⟨by decide, plain⟩, by decide⟩, isPlain_natText count⟩, by decide⟩

theorem isPlain_of_mem_summaryLines (now : Moment) (outcome : Outcome) :
    ∀ line ∈ summaryLines now outcome, IsPlain line := by
  have time : IsPlain ("**Generated**: " ++ now.readable) :=
    isPlain_append.mpr ⟨by decide, isPlain_readable now⟩
  have span : IsPlain ("**Execution Time**: " ++ fixedText 2 outcome.seconds ++ "s") := by
    simp only [isPlain_append]
    exact ⟨⟨by decide, isPlain_fixedText 2 _⟩, by decide⟩
  have rows : ∀ name, IsPlain name → ∀ count, IsPlain (summaryRow name count) :=
    fun _ plain count => isPlain_summaryRow plain count
  simp only [summaryLines, List.forall_mem_cons]
  exact ⟨by decide, by decide, time, span, by decide, by decide, by decide, by decide, by decide,
    rows _ (by decide) _, rows _ (by decide) _, rows _ (by decide) _, rows _ (by decide) _,
    rows _ (by decide) _, rows _ (by decide) _, by decide, List.forall_mem_nil _⟩

theorem isPlain_of_mem_ruleLines {outcome : Outcome}
    (named : ∀ id ∈ outcome.rulesRun, IsPlain id) :
    ∀ line ∈ ruleLines outcome, IsPlain line := by
  unfold ruleLines
  split
  · exact List.forall_mem_nil _
  · have rules : IsPlain ("**Active rules**: " ++ ", ".intercalate outcome.rulesRun) :=
      isPlain_append.mpr ⟨by decide, isPlain_intercalate (by decide) named⟩
    exact List.forall_mem_cons.mpr ⟨rules, by decide⟩

/-- Whether the report for readers has bytes is up to its diagnostics. -/
theorem encodes_markdown_iff {outcome : Outcome} (named : ∀ id ∈ outcome.rulesRun, IsPlain id)
    (now : Moment) :
    Encodes (markdown now outcome) ↔ Encodes (diagnosticSection outcome.diagnostics) := by
  have above : IsPlain ("\n".intercalate (summaryLines now outcome ++ ruleLines outcome)) := by
    refine isPlain_intercalate (by decide) fun line listed => ?_
    rcases List.mem_append.mp listed with summary | rules
    · exact isPlain_of_mem_summaryLines now outcome line summary
    · exact isPlain_of_mem_ruleLines named line rules
  have cut : markdown now outcome =
      "\n".intercalate (summaryLines now outcome ++ ruleLines outcome) ++ "\n" ++
        diagnosticSection outcome.diagnostics :=
    String.intercalate_append_of_ne_nil (by simp [summaryLines]) (List.cons_ne_nil _ _)
  rw [cut]
  exact encodes_append_iff (isPlain_append.mpr ⟨above, by decide⟩)

/-- Diagnostics have bytes: their table has, and so has the section that names them. -/
structure CanEncode (diagnostics : List Diagnostic) : Prop where
  asTable : ∃ text, table diagnostics = .ok text ∧ Encodes text
  asSection : Encodes (diagnosticSection diagnostics)

/-- Where there are no diagnostics nothing keeps reports from having bytes. -/
theorem canEncode_nil : CanEncode [] := by
  constructor
  · exact ⟨tableOf [], rfl, encodes_of_isPlain (by decide)⟩
  · exact encodes_of_isPlain (by decide)

/-- A report has some bytes. -/
def Content.HasBytes (content : Content) (format : Format) (bytes : ByteArray) : Prop :=
  ∃ text, content.text format = .ok text ∧ encode text = .ok bytes

theorem Content.exists_hasBytes_iff {content : Content} {format : Format} :
    (∃ bytes, content.HasBytes format bytes) ↔
      ∃ text, content.text format = .ok text ∧ Encodes text := by
  constructor
  · rintro ⟨bytes, text, worded, coded⟩
    exact ⟨text, worded, bytes, coded⟩
  · rintro ⟨text, worded, bytes, coded⟩
    exact ⟨bytes, text, worded, coded⟩

/-- The reports all have bytes exactly if the diagnostics have. -/
theorem canEncode_iff {content : Content} (named : ∀ id ∈ content.outcome.rulesRun, IsPlain id) :
    CanEncode content.outcome.diagnostics ↔ ∀ format, ∃ bytes, content.HasBytes format bytes := by
  simp only [Content.exists_hasBytes_iff]
  constructor
  · rintro ⟨asTable, asSection⟩ format
    cases format with
    | json => exact ⟨_, rfl, encodes_full ..⟩
    | csv => exact asTable
    | markdown => exact ⟨_, rfl, (encodes_markdown_iff named content.now).mpr asSection⟩
    | provenance => exact ⟨_, rfl, encodes_trail ..⟩
  · intro each
    refine ⟨each .csv, ?_⟩
    rcases each .markdown with ⟨text, same, encodes⟩
    cases same
    exact (encodes_markdown_iff named content.now).mp encodes

end Report

end CompilePolicy
