import CompilePolicy.Proofs.Policy.Delivery
import CompilePolicy.Proofs.Policy.SourceFile

/-!
# Layers of configuration

Three layers can give the configuration: a console session, a source of conventions, and
the defaults. The first one that there is gives all of it, and the layers behind it have no
part in it, however broken they are. A source that cannot be used gives nothing, so what
the defaults give is never mixed with something else.
-/

namespace CompilePolicy

open Conventions Document FileSystem Journal

/-! ## What there is -/

/-- A property is given a text that is not empty. -/
def Properties.IsGiven (properties : Properties) (name : String) : Prop :=
  ∃ text, properties.lookup name = some text ∧ text ≠ ""

theorem Properties.isGiven_iff {properties : Properties} {name : String} :
    properties.IsGiven name ↔ (properties.textOf? name).isSome = true := by
  rw [Option.isSome_iff_exists]
  exact exists_congr fun _ => textOf?_eq_some_iff.symm

theorem Properties.textOf?_eq_none_iff {properties : Properties} {name : String} :
    properties.textOf? name = none ↔ ¬properties.IsGiven name := by
  rw [isGiven_iff, Bool.not_eq_true, Option.isSome_eq_false_iff, Option.isNone_iff_eq_none]

/-- A source of conventions can be used: it leads to a text, the text is a document, and
all entries of the conventions in it fit. -/
def Conventions.IsUsable (files : Files) (source : String) : Prop :=
  ∃ text document entries, sourceText files source = .ok text ∧ Yaml.read text = .ok document ∧
    blockOf document = .ok entries ∧ ∀ entry ∈ entries, Fits entry.1 entry.2

theorem Conventions.parseSource_succeeds_iff {files : Files} {source : String} :
    (∃ parsed, parseSource files source = .ok parsed) ↔ IsUsable files source := by
  constructor
  · rintro ⟨parsed, read⟩
    cases held : sourceText files source with
    | error unheld => simp [parseSource_of_unheld held] at read
    | ok text =>
        cases document : Yaml.read text with
        | error unread => simp [parseSource_of_unread held document] at read
        | ok value =>
            rw [parseSource_of_read held document] at read
            cases block : blockOf value with
            | error refused => simp [block] at read
            | ok entries =>
                simp only [block] at read
                refine ⟨text, value, entries, held, document, block, ?_⟩
                rw [← parseEntries_succeeds_iff]
                cases all : parseEntries entries with
                | ok whole => exact ⟨whole, rfl⟩
                | error stop => simp [all, Except.mapError] at read
  · rintro ⟨text, document, entries, held, read, block, fit⟩
    obtain ⟨parsed, all⟩ := parseEntries_succeeds_iff.mpr fit
    refine ⟨parsed, ?_⟩
    rw [parseSource_of_read held read, block]
    simp only [all, Except.mapError]

/-! ## What each layer gives -/

section

variable {files : Files} {properties : Properties} {config : Configuration}
variable {records : List Record}

/-- In a console session the configuration is that of the session. -/
theorem resolveConfiguration_of_console (session : properties.IsGiven Properties.console)
    (files : Files) :
    resolveConfiguration files properties =
      .ok (consoleConfiguration properties, [(consoleConfiguration properties).record]) := by
  unfold resolveConfiguration
  rw [if_pos (Properties.isGiven_iff.mp session)]

/-- The configuration of a console session depends on three flags. -/
theorem consoleConfiguration_congr {left right : Properties}
    (flags : ∀ name ∈ [Properties.disable, Properties.disableDynamicCompile,
      Properties.defAllowed], left.lookup name = right.lookup name) :
    consoleConfiguration left = consoleConfiguration right := by
  simp only [List.forall_mem_cons] at flags
  obtain ⟨disable, disableDynamicCompile, defAllowed, -⟩ := flags
  unfold consoleConfiguration
  rw [Properties.flag_congr disable, Properties.flag_congr disableDynamicCompile,
    Properties.flag_congr defAllowed]

/-- Outside a console session only the source of conventions counts. -/
theorem resolveConfiguration_outside_congr {left right : Properties}
    (outside : left.textOf? Properties.console = none)
    (otherOutside : right.textOf? Properties.console = none)
    (source : left.textOf? Properties.conventions = right.textOf? Properties.conventions)
    (files : Files) : resolveConfiguration files left = resolveConfiguration files right := by
  unfold resolveConfiguration
  rw [outside, otherOutside, source]
  rfl

/-- What is resolved outside a console session is what the source of conventions says, or
the defaults. -/
theorem resolved_outside_console (outside : ¬properties.IsGiven Properties.console)
    (resolved : resolveConfiguration files properties = .ok (config, records)) :
    (∃ source parsed, properties.lookup Properties.conventions = some source ∧ source ≠ "" ∧
      parseSource files source = .ok parsed ∧ config = parsed.configuration) ∨ config = {} := by
  rw [← Properties.textOf?_eq_none_iff] at outside
  cases led : properties.source? with
  | none =>
      unfold Properties.source? at led
      rw [outside, Option.isSome_none, if_neg Bool.false_ne_true] at led
      simp only [resolveConfiguration, outside, led] at resolved
      cases resolved
      exact .inr rfl
  | some source =>
      obtain ⟨-, set, filled⟩ := Properties.source?_eq_some_iff.mp led
      rw [resolveConfiguration_of_source led] at resolved
      unfold resolveSource at resolved
      cases read : parseSource files source with
      | ok parsed =>
          simp only [read, Except.map, Except.ok.injEq, Prod.mk.injEq] at resolved
          exact .inl ⟨source, parsed, set, filled, read, resolved.1.symm⟩
      | error fault =>
          rw [read] at resolved
          cases replaced : fault.isReplaced with
          | true =>
              simp only [replaced, if_true, Except.map, Except.ok.injEq, Prod.mk.injEq] at resolved
              exact .inr resolved.1.symm
          | false => simp [replaced, Except.map] at resolved

/-- A configuration comes from conventions exactly if there is no console session and a
source that can be used. -/
theorem source_eq_conventions_iff :
    (∃ config records, resolveConfiguration files properties = .ok (config, records) ∧
      config.source = "conventions") ↔
    ¬properties.IsGiven Properties.console ∧
      ∃ source, properties.lookup Properties.conventions = some source ∧ source ≠ "" ∧
        IsUsable files source := by
  constructor
  · rintro ⟨config, records, resolved, layer⟩
    have outside : ¬properties.IsGiven Properties.console := by
      intro session
      rw [resolveConfiguration_of_console session files] at resolved
      cases resolved
      have same : "console" = "conventions" := layer
      exact absurd same (by decide)
    refine ⟨outside, ?_⟩
    rcases resolved_outside_console outside resolved with
      ⟨source, parsed, set, filled, read, -⟩ | rfl
    · exact ⟨source, set, filled, parseSource_succeeds_iff.mp ⟨parsed, read⟩⟩
    · have same : "defaults" = "conventions" := layer
      exact absurd same (by decide)
  · rintro ⟨outside, source, set, filled, usable⟩
    obtain ⟨parsed, read⟩ := parseSource_succeeds_iff.mpr usable
    have led : properties.source? = some source :=
      Properties.source?_eq_some_iff.mpr
        ⟨Properties.textOf?_eq_none_iff.mpr outside, set, filled⟩
    have resolved : resolveConfiguration files properties =
        .ok (parsed.configuration, parsed.records ++ [parsed.configuration.record]) := by
      rw [resolveConfiguration_of_source led, resolveSource_of_parsed read]
      rfl
    exact ⟨_, _, resolved, parseSource_source read⟩

/-- A configuration that comes from the defaults is all of the defaults. -/
theorem eq_default_of_source
    (resolved : resolveConfiguration files properties = .ok (config, records))
    (layer : config.source = "defaults") : config = {} := by
  by_cases session : properties.IsGiven Properties.console
  · rw [resolveConfiguration_of_console session files] at resolved
    cases resolved
    have same : "console" = "defaults" := layer
    exact absurd same (by decide)
  · rcases resolved_outside_console session resolved with ⟨source, parsed, -, -, read, rfl⟩ | same
    · rw [parseSource_source read] at layer
      exact absurd layer (by decide)
    · exact same

end

/-! ## Layers do not leak -/

open Properties in
/-- Two resolutions, from any properties and any files.

In two console sessions with the same flags they give the same configuration, which comes
from the session, and no warning, whatever the source of conventions and the files are.
Outside of console sessions, with the same source of conventions and, if the source is a
file, the same content of it, they end the same, in failures and in records too, whatever
the flags are. A configuration comes from conventions exactly if there is no console session
and a source that can be used. One that comes from the defaults is all of the defaults. -/
theorem layers_do_not_leak (files others : Files) (left right : Properties) :
    (left.IsGiven console → right.IsGiven console →
      (∀ name ∈ [disable, disableDynamicCompile, defAllowed],
        left.lookup name = right.lookup name) →
      ∃ config records,
        resolveConfiguration files left = .ok (config, records) ∧
        resolveConfiguration others right = .ok (config, records) ∧
        config.source = "console" ∧ ∀ record ∈ records, record.level ≠ .warning) ∧
    (¬left.IsGiven console → ¬right.IsGiven console →
      left.lookup conventions = right.lookup conventions →
      (∀ source, left.lookup conventions = some source → source ≠ "" →
        HoldsSame (.ofText source) files others) →
      resolveConfiguration files left = resolveConfiguration others right) ∧
    ((∃ config records, resolveConfiguration files left = .ok (config, records) ∧
        config.source = "conventions") ↔
      ¬left.IsGiven console ∧ ∃ source, left.lookup conventions = some source ∧ source ≠ "" ∧
        IsUsable files source) ∧
    ∀ config records, resolveConfiguration files left = .ok (config, records) →
      config.source = "defaults" → config = {} := by
  refine ⟨?_, ?_, source_eq_conventions_iff, fun config records => eq_default_of_source⟩
  · intro session otherSession flags
    refine ⟨_, _, resolveConfiguration_of_console session files, ?_, rfl, ?_⟩
    · rw [resolveConfiguration_of_console otherSession others, consoleConfiguration_congr flags]
    · intro record listed
      rw [List.mem_singleton.mp listed]
      exact nofun
  · intro outside otherOutside sameSource sameFile
    rw [← textOf?_eq_none_iff] at outside otherOutside
    calc
      resolveConfiguration files left = resolveConfiguration others left := by
        refine (resolveConfiguration_congr_files fun source led => ?_).symm
        obtain ⟨-, set, filled⟩ := source?_eq_some_iff.mp led
        exact sameFile source set filled
      _ = resolveConfiguration others right :=
        resolveConfiguration_outside_congr outside otherOutside (textOf?_congr sameSource) others

open Properties in
/-- A source of conventions that ends the resolution has no part in a console session, and
outside of one it ends the resolution whatever the flags and other files are. -/
theorem layers_do_not_leak_at_impossible_date :
    let source := "when: 2001-99-99"
    let files := Files.empty.withFile (.ofText "when") "disable: true".toUTF8
    (resolveConfiguration .empty [(console, "x"), (defAllowed, " True "), (conventions, source)] =
      resolveConfiguration files [(defAllowed, " True "), (console, "no")]) ∧
    (resolveConfiguration .empty [(disable, "true"), (conventions, source)] =
      resolveConfiguration files
        [(conventions, source), (console, ""), (defAllowed, "false")]) := by
  intro source files
  constructor
  · obtain ⟨sessions, -⟩ := layers_do_not_leak .empty files
      [(console, "x"), (defAllowed, " True "), (conventions, source)]
      [(defAllowed, " True "), (console, "no")]
    obtain ⟨config, records, resolved, resolvedToo, -⟩ :=
      sessions ⟨"x", by decide⟩ ⟨"no", by decide⟩ (by decide)
    rw [resolved, resolvedToo]
  · obtain ⟨-, outside, -⟩ := layers_do_not_leak .empty files
      [(disable, "true"), (conventions, source)]
      [(conventions, source), (console, ""), (defAllowed, "false")]
    refine outside ?_ ?_ rfl ?_
    · rw [← textOf?_eq_none_iff]
      decide
    · rw [← textOf?_eq_none_iff]
      decide
    · intro path set _
      cases set
      have free : Files.empty.entry (.ofText source) = .error .notFound := by decide
      have freeToo : files.entry (.ofText source) = .error .notFound := by decide
      intro bytes
      rw [free, freeToo]

end CompilePolicy
