import CompilePolicy.Policy.Resolver
import CompilePolicy.Proofs.Policy.Conventions
import Mathlib.Control.Monad.Basic

/-!
# When resolution fails

Resolution replaces a source of conventions that it cannot use by the defaults and
says so, with two exceptions. A document with a scalar that has no value ends it, and
so do conventions that ask for the text of a whole number with too many digits.
-/

namespace CompilePolicy

open Conventions Document FileSystem Journal

/-- A source that ends the resolution: a scalar of its document has no value, or its
conventions hold an entry that is too long, after entries that fit. -/
inductive Conventions.EndsResolution (files : Files) (source : String) : Prop
  | scalar {text : String} {fault : Yaml.Fault} (held : sourceText files source = .ok text)
      (unread : Yaml.read text = .error fault) (isScalar : fault ≠ .malformed)
  | number {text : String} {document key value : Value} {before after : Entries}
      (held : sourceText files source = .ok text) (read : Yaml.read text = .ok document)
      (block : blockOf document = .ok (before ++ (key, value) :: after))
      (fit : ∀ entry ∈ before, Fits entry.1 entry.2) (tooLong : IsTooLong key value)

/-- The source of conventions that properties lead to. A console session reads
none. -/
def Properties.source? (properties : Properties) : Option String :=
  if (properties.textOf? console).isSome then none else properties.textOf? conventions

/-! ## Sources -/

/-- A document that is read has entries or is refused. -/
theorem Conventions.blockOf_eq_error {document : Value} {fault : SourceFault}
    (failed : blockOf document = .error fault) : ∃ reason, fault = .refused reason := by
  unfold blockOf at failed
  split at failed
  · cases failed
  · split at failed
    · cases failed
      exact ⟨_, rfl⟩
    · split at failed
      · cases failed
      · cases failed
      · split at failed
        · cases failed
        · cases failed
          exact ⟨_, rfl⟩

/-- A source that gives no text gives way to the defaults. -/
theorem Conventions.sourceText_eq_error {files : Files} {source : String} {fault : SourceFault}
    (failed : sourceText files source = .error fault) : fault.isReplaced = true := by
  simp only [sourceText] at failed
  split at failed
  · split at failed
    · cases failed
      rfl
    · split at failed
      · cases failed
      · cases failed
        rfl
  · cases failed

/-- The faults of documents that end the resolution are those of scalars. -/
theorem Conventions.isReplaced_document_iff {fault : Yaml.Fault} :
    (SourceFault.document fault).isReplaced = true ↔ fault = .malformed := by
  cases fault <;> simp [SourceFault.isReplaced]

/-- A source without a text has the fault of the text. -/
theorem Conventions.parseSource_of_unheld {files : Files} {source : String} {fault : SourceFault}
    (unheld : sourceText files source = .error fault) :
    parseSource files source = .error fault := by
  unfold parseSource load
  rw [unheld]

/-- A source whose text is no document has the fault of the document. -/
theorem Conventions.parseSource_of_unread {files : Files} {source text : String}
    {fault : Yaml.Fault} (held : sourceText files source = .ok text)
    (unread : Yaml.read text = .error fault) :
    parseSource files source = .error (.document fault) := by
  unfold parseSource load
  rw [held]
  simp only
  rw [unread]

/-- A source whose text is a document is parsed from the entries in it. -/
theorem Conventions.parseSource_of_read {files : Files} {source text : String} {document : Value}
    (held : sourceText files source = .ok text) (read : Yaml.read text = .ok document) :
    parseSource files source =
      match blockOf document with
      | .error fault => .error fault
      | .ok entries => (parseEntries entries).mapError Stop.sourceFault := by
  unfold parseSource load
  rw [held]
  simp only
  rewrite [read]
  rfl

/-- A source has a fault that is not replaced exactly if it ends the resolution. -/
theorem Conventions.parseSource_unreplaced_iff {files : Files} {source : String} :
    (∃ fault, parseSource files source = .error fault ∧ fault.isReplaced = false) ↔
      EndsResolution files source := by
  constructor
  · rintro ⟨fault, failed, kept⟩
    cases held : sourceText files source with
    | error unheld =>
        rw [parseSource_of_unheld held] at failed
        cases failed
        rw [sourceText_eq_error held] at kept
        cases kept
    | ok text =>
        cases read : Yaml.read text with
        | error unread =>
            rw [parseSource_of_unread held read] at failed
            cases failed
            refine .scalar held read fun malformed => ?_
            rw [isReplaced_document_iff.mpr malformed] at kept
            cases kept
        | ok document =>
            rw [parseSource_of_read held read] at failed
            cases block : blockOf document with
            | error refused =>
                rcases blockOf_eq_error block with ⟨reason, rfl⟩
                simp only [block] at failed
                cases failed
                cases kept
            | ok entries =>
                simp only [block] at failed
                cases parsed : parseEntries entries with
                | ok all => simp [parsed, Except.mapError] at failed
                | error stop =>
                    simp only [parsed, Except.mapError] at failed
                    cases failed
                    cases stop with
                    | refused reason => cases kept
                    | tooManyDigits =>
                        rcases parseEntries_eq_tooManyDigits_iff.mp parsed with
                          ⟨before, key, value, after, rfl, fit, tooLong⟩
                        exact .number held read block fit tooLong
  · rintro (⟨held, unread, isScalar⟩ | ⟨held, read, block, fit, tooLong⟩)
    · refine ⟨_, parseSource_of_unread held unread, ?_⟩
      exact Bool.eq_false_iff.mpr (mt isReplaced_document_iff.mp isScalar)
    · refine ⟨.tooManyDigits, ?_, rfl⟩
      rw [parseSource_of_read held read, block]
      simp only
      rw [parseEntries_eq_tooManyDigits_iff.mpr ⟨_, _, _, _, rfl, fit, tooLong⟩]
      rfl

/-- A fault that is not replaced is the fault of the source. -/
theorem resolveSource_of_unreplaced {files : Files} {source : String} {fault : SourceFault}
    (failed : parseSource files source = .error fault) (kept : fault.isReplaced = false) :
    resolveSource files source = .error fault := by
  unfold resolveSource
  rw [failed]
  simp [kept]

theorem resolveSource_of_ends {files : Files} {source : String}
    (ends : EndsResolution files source) : ∃ fault, resolveSource files source = .error fault := by
  rcases parseSource_unreplaced_iff.mpr ends with ⟨fault, failed, kept⟩
  exact ⟨fault, resolveSource_of_unreplaced failed kept⟩

/-- The defaults take the place of any other source that cannot be used, and the
record says so. -/
theorem resolveSource_of_fault {files : Files} {source : String} {fault : SourceFault}
    (lasts : ¬EndsResolution files source) (failed : parseSource files source = .error fault) :
    resolveSource files source = .ok ({ configuration := {} }, [fault.record]) := by
  have replaced : fault.isReplaced = true := by
    cases kept : fault.isReplaced with
    | true => rfl
    | false => exact absurd (parseSource_unreplaced_iff.mp ⟨fault, failed, kept⟩) lasts
  unfold resolveSource
  rw [failed]
  simp [replaced]

/-- A source that can be used is, and the records say which names it knows. -/
theorem resolveSource_of_parsed {files : Files} {source : String} {parsed : Parsed}
    (read : parseSource files source = .ok parsed) :
    resolveSource files source = .ok (parsed, parsed.records) := by
  unfold resolveSource
  rw [read]

/-! ## Properties -/

theorem Properties.textOf?_eq_some_iff {properties : Properties} {name text : String} :
    properties.textOf? name = some text ↔ properties.lookup name = some text ∧ text ≠ "" := by
  unfold Properties.textOf?
  cases properties.lookup name with
  | none => simp
  | some other =>
      by_cases empty : other = ""
      · simp only [empty, if_true, Option.some.injEq]
        constructor
        · intro impossible
          cases impossible
        · rintro ⟨rfl, filled⟩
          exact absurd rfl filled
      · simp only [empty, if_false, Option.some.injEq]
        exact ⟨fun same => ⟨same, same ▸ empty⟩, fun both => both.1⟩

theorem Properties.source?_eq_some_iff {properties : Properties} {source : String} :
    properties.source? = some source ↔ properties.textOf? Properties.console = none ∧
      properties.lookup Properties.conventions = some source ∧ source ≠ "" := by
  unfold Properties.source?
  rw [← textOf?_eq_some_iff]
  cases properties.textOf? Properties.console <;> simp

theorem resolveConfiguration_of_source {properties : Properties} {source : String}
    (led : properties.source? = some source) (files : Files) :
    resolveConfiguration files properties =
      (resolveSource files source).map fun (parsed, records) =>
        (parsed.configuration, records ++ [parsed.configuration.record]) := by
  unfold Properties.source? at led
  unfold resolveConfiguration
  split at led
  · contradiction
  · rename_i other
    rw [if_neg other, led]

theorem resolveConfiguration_of_no_source {properties : Properties}
    (unled : properties.source? = none) (files : Files) :
    ∃ config : Configuration,
      resolveConfiguration files properties = .ok (config, [config.record]) := by
  unfold Properties.source? at unled
  unfold resolveConfiguration
  split at unled
  · rename_i isConsole
    exact ⟨consoleConfiguration properties, by rw [if_pos isConsole]⟩
  · rename_i other
    exact ⟨{}, by rw [if_neg other, unled]⟩

/-- The first request to a resolver, or the first one after a reset, gives what the
properties give. -/
theorem Resolver.get_of_unresolved (found reads : Nat) (files : Files) (properties : Properties) :
    let request := Resolver.get { found, reads } files properties
    request.result =
        (resolveConfiguration files properties).map (fun resolution => ⟨found, resolution.1⟩) ∧
      request.records = ((resolveConfiguration files properties).toOption.map (·.2)).getD [] := by
  unfold Resolver.get
  cases resolveConfiguration files properties <;> exact ⟨rfl, rfl⟩

/-- Resolution fails exactly where the properties lead to a source that ends it, and
the first request to a resolver fails with it. Everywhere else both give one
configuration, and it is that of the defaults, with a warning, if the source cannot be
used. -/
theorem resolution_fails_iff_source_ends (files : Files) (properties : Properties)
    (found reads : Nat) :
    let request := Resolver.get { found, reads } files properties
    let Ends := ∃ source, properties.source? = some source ∧ EndsResolution files source
    (Ends ∧ ∃ fault, resolveConfiguration files properties = .error fault ∧
      request.result = .error fault) ∨
    (¬Ends ∧ ∃ config records, resolveConfiguration files properties = .ok (config, records) ∧
      request.result = .ok ⟨found, config⟩ ∧ request.records = records ∧
      ∀ source fault, properties.source? = some source →
        parseSource files source = .error fault →
          config = { source := "defaults" } ∧
            fault.record ∈ records ∧ fault.record.level = .warning) := by
  intro request Ends
  rcases Resolver.get_of_unresolved found reads files properties with ⟨result, records⟩
  by_cases ends : Ends
  · rcases ends with ⟨source, led, sourceEnds⟩
    rcases resolveSource_of_ends sourceEnds with ⟨fault, failed⟩
    have resolution : resolveConfiguration files properties = .error fault := by
      rw [resolveConfiguration_of_source led, failed]
      rfl
    rw [resolution] at result
    exact .inl ⟨⟨source, led, sourceEnds⟩, fault, resolution, result⟩
  · refine .inr ⟨ends, ?_⟩
    cases led : properties.source? with
    | none =>
        rcases resolveConfiguration_of_no_source led files with ⟨config, resolution⟩
        rw [resolution] at result records
        exact ⟨config, _, resolution, result, records, by simp⟩
    | some source =>
        have lasts : ¬EndsResolution files source := fun sourceEnds =>
          ends ⟨source, led, sourceEnds⟩
        have resolution := resolveConfiguration_of_source led files
        cases read : parseSource files source with
        | ok parsed =>
            rw [resolveSource_of_parsed read] at resolution
            rw [resolution] at result records
            refine ⟨_, _, resolution, result, records, ?_⟩
            intro other fault same failed
            cases same
            rw [read] at failed
            cases failed
        | error fault =>
            rw [resolveSource_of_fault lasts read] at resolution
            rw [resolution] at result records
            refine ⟨_, _, resolution, result, records, ?_⟩
            intro other fault' same failed
            cases same
            rw [read] at failed
            cases failed
            exact ⟨rfl, List.mem_append_left _ (List.mem_singleton_self _), rfl⟩

/-- An impossible date ends the resolution, though the source is a text on the spot and
the date is under a name that means nothing. -/
theorem resolution_fails_at_impossible_date :
    resolveConfiguration .empty [(Properties.conventions, "when: 2001-99-99")] =
      .error (.document (.calendar .month)) := by
  have failed : parseSource .empty "when: 2001-99-99" = .error (.document (.calendar .month)) := by
    decide +kernel
  have led : Properties.source? [(Properties.conventions, "when: 2001-99-99")] =
      some "when: 2001-99-99" := by
    decide
  rw [resolveConfiguration_of_source led, resolveSource_of_unreplaced failed rfl]
  rfl

end CompilePolicy
