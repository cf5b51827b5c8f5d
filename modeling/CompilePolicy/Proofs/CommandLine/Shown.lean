import CompilePolicy.Proofs.CommandLine.Exporting
import CompilePolicy.Proofs.Policy.Delivery
import CompilePolicy.Proofs.Yaml.Printing

/-!
# The configuration that is shown

The configuration is shown by a command that chooses between the ways to find it on its
own, and reads the source of conventions on its own, since it also shows which names the
source uses. It shows what a check with the same options goes by, and the rules that such
a check runs.
-/

namespace CompilePolicy.CommandLine

open CompilePolicy.Conventions CompilePolicy.Descriptor CompilePolicy.Document
open CompilePolicy.FileSystem CompilePolicy.Journal

/-! ## What is shown -/

/-- The recognized and the ignored names of a source. -/
structure Names where
  recognized : List String := []
  ignored : List String := []
deriving DecidableEq, Repr

/-- The names as fields of a document. -/
def Names.fields (names : Names) : Entries :=
  [(.string "recognized", .strings names.recognized), (.string "ignored", .strings names.ignored)]

/-- What is shown: a configuration, the names of its source if one is read, and the rules,
of which some are active. -/
def shownDocument (config : Configuration) (names : Option Names) (active : List String) :
    Value :=
  .map ([(.string "configuration", config.toRecord)] ++ (names.map Names.fields).getD [] ++
    [(.string "rules", .record
      [("available", .record (Registry.builtIn.summary.map fun (scope, ids) =>
          (scope.name, .strings ids))),
       ("active", .strings active)])])

/-- The names that are shown: there are some exactly if the configuration does not come
from a console session and there is a source. If the source can be used they are those of
its entries, each in one of the two lists, and otherwise there are none. -/
structure AreShown (files : Files) (properties : Properties) (config : Configuration)
    (names : Option Names) : Prop where
  isSome_iff : names.isSome = true ↔ config.source ≠ "console" ∧
    ∃ source, properties.lookup Properties.conventions = some source ∧ source ≠ ""
  parsed : ∀ shown source parsed, names = some shown →
    properties.lookup Properties.conventions = some source →
    parseSource files source = .ok parsed → ∃ entries, load files source = .ok entries ∧
      shown.recognized.map some =
        (entries.filter fun entry => (conventionOf? entry.1).isSome).map (·.1.text?) ∧
      shown.ignored.map some =
        (entries.filter fun entry => (conventionOf? entry.1).isNone).map (·.1.text?)
  unparsed : ∀ shown source fault, names = some shown →
    properties.lookup Properties.conventions = some source →
    parseSource files source = .error fault → shown = {}

/-! ## Sources -/

/-- The names of a source that can be used are those of its entries, each in one of two
lists. -/
theorem parseSource_names {files : Files} {source : String} {parsed : Parsed}
    (ok : parseSource files source = .ok parsed) : ∃ entries, load files source = .ok entries ∧
      parsed.recognized.map some =
        (entries.filter fun entry => (conventionOf? entry.1).isSome).map (·.1.text?) ∧
      parsed.ignored.map some =
        (entries.filter fun entry => (conventionOf? entry.1).isNone).map (·.1.text?) := by
  unfold parseSource at ok
  cases loaded : load files source with
  | error fault => simp [loaded] at ok
  | ok entries =>
      cases all : parseEntries entries with
      | error stop => simp [loaded, all, Except.mapError] at ok
      | ok last =>
          simp only [loaded, all, Except.mapError, Except.ok.injEq] at ok
          subst ok
          exact ⟨entries, rfl, takeAll_names all⟩

/-- The names of a source that can be used are shown as it has them. -/
theorem AreShown.eq_of_parsed {files : Files} {properties : Properties}
    {config : Configuration} {names : Option Names} (shown : AreShown files properties config names)
    {source : String} {parsed : Parsed} (outside : config.source ≠ "console")
    (set : properties.lookup Properties.conventions = some source) (filled : source ≠ "")
    (ok : parseSource files source = .ok parsed) :
    names = some ⟨parsed.recognized, parsed.ignored⟩ := by
  obtain ⟨⟨recognized, ignored⟩, rfl⟩ := Option.isSome_iff_exists.mp
    (shown.isSome_iff.mpr ⟨outside, source, set, filled⟩)
  obtain ⟨entries, loaded, known, unknown⟩ := shown.parsed _ _ _ rfl set ok
  obtain ⟨_, same, knownToo, unknownToo⟩ := parseSource_names ok
  cases loaded.symm.trans same
  have injective : Function.Injective (List.map (some : String → Option String)) :=
    List.map_injective_iff.mpr fun _ _ => Option.some.inj
  have first : recognized = parsed.recognized := injective (known.trans knownToo.symm)
  have second : ignored = parsed.ignored := injective (unknown.trans unknownToo.symm)
  rw [first, second]

/-- The names of a source that is read. -/
theorem areShown_of_source {files : Files} {properties : Properties} {source : String}
    {parsed : Parsed} {config : Configuration} {found records : List Record}
    (led : properties.source? = some source)
    (resolved : resolveConfiguration files properties = .ok (config, records))
    (read : resolveSource files source = .ok (parsed, found)) :
    AreShown files properties config (some ⟨parsed.recognized, parsed.ignored⟩) := by
  obtain ⟨outside, set, filled⟩ := Properties.source?_eq_some_iff.mp led
  have same : ∀ {other}, properties.lookup Properties.conventions = some other →
      source = other := by
    intro other given
    exact Option.some.inj (set.symm.trans given)
  constructor
  · rw [ne_eq, source_eq_console_iff resolved]
    simpa [outside] using ⟨source, set, filled⟩
  · rintro _ other whole ⟨⟩ given ok
    cases same given
    rw [resolveSource_of_parsed ok] at read
    cases read
    exact parseSource_names ok
  · rintro _ other fault ⟨⟩ given failed
    cases same given
    unfold resolveSource at read
    simp only [failed] at read
    split at read
    · cases read
      rfl
    · cases read

theorem areShown_of_no_source {files : Files} {properties : Properties} {config : Configuration}
    {records : List Record} (unled : properties.source? = none)
    (resolved : resolveConfiguration files properties = .ok (config, records)) :
    AreShown files properties config none := by
  constructor
  · simp only [Option.isSome_none, Bool.false_eq_true, false_iff]
    rintro ⟨outside, source, set, filled⟩
    rw [ne_eq, source_eq_console_iff resolved, not_ne_iff] at outside
    rw [Properties.source?_eq_some_iff.mpr ⟨outside, set, filled⟩] at unled
    cases unled
  · rintro _ _ _ ⟨⟩
  · rintro _ _ _ ⟨⟩

/-! ## Showing -/

section

variable {files : Files} {console : Console} {properties : Properties} {config : Configuration}
variable {records : List Record} {Stopped : Stop → Console → Prop}

/-- The command finds the configuration that the properties resolve to. -/
theorem IsQuiet.ends_configurationFields (quiet : IsQuiet files "" console) (setting : Setting)
    (resolved : resolveConfiguration files properties = .ok (config, records)) :
    Console.Ends console setting (configurationFields properties)
      (fun found after => IsQuiet files "" after ∧ ∃ names,
        found = (config, (.string "configuration", config.toRecord) ::
          (names.map Names.fields).getD []) ∧
        AreShown files properties config names) Stopped := by
  have chosen : ((properties.textOf? Properties.conventions).filter fun _ =>
      !(properties.textOf? Properties.console).isSome) = properties.source? := by
    unfold Properties.source?
    cases properties.textOf? Properties.console <;>
      cases properties.textOf? Properties.conventions <;> rfl
  unfold configurationFields
  simp only [chosen]
  cases led : properties.source? with
  | none =>
      refine (quiet.ends_resolvedFor setting resolved).bind ?_
      rintro _ after ⟨rfl, quiet⟩
      exact Console.ends_pure ⟨quiet, none, rfl, areShown_of_no_source led resolved⟩
  | some source =>
      have resolution := resolved
      rw [resolveConfiguration_of_source led] at resolution
      cases read : resolveSource files source with
      | error fault =>
          rw [read] at resolution
          cases resolution
      | ok result =>
          obtain ⟨parsed, found⟩ := result
          rw [read] at resolution
          cases resolution
          refine Console.ends_bind_of_ok (Console.run_get console setting) ?_
          rw [quiet.files, read]
          refine Console.ends_bind_of_ok (Console.run_pure console setting _) ?_
          refine (quiet.ends_logAll setting found).bind fun _ after quiet => ?_
          exact Console.ends_pure ⟨quiet, some ⟨parsed.recognized, parsed.ignored⟩, rfl,
            areShown_of_source led resolved read⟩

/-- The command prints a document with the configuration. -/
theorem IsQuiet.ends_showConfiguration (quiet : IsQuiet files "" console) {setting : Setting}
    {options : Properties.Options}
    (built : Properties.build setting.vars options = .ok properties)
    (resolved : resolveConfiguration files properties = .ok (config, records)) :
    Console.Ends console setting (showConfiguration options)
      (fun _ after => ∃ names,
        after.output = Yaml.printTrimmed (shownDocument config names
          (activeIds config (Registry.builtIn.activeRules config []))) ++ "\n" ∧
        AreShown files properties config names) (fun _ _ => False) := by
  unfold showConfiguration
  refine (quiet.ends_propertiesFor setting built).bind ?_
  rintro _ _ ⟨rfl, quiet⟩
  refine (quiet.ends_configurationFields setting resolved).bind ?_
  rintro _ before ⟨quiet, names, rfl, shown⟩
  let document := shownDocument config names
    (activeIds config (Registry.builtIn.activeRules config []))
  have plain := Yaml.isPlain_printTrimmed document
  refine (quiet.ends_printLine setting (Yaml.printTrimmed document)).mono ?_ ?_
  · rintro _ after ⟨-, quiet⟩
    refine ⟨names, ?_, shown⟩
    rw [quiet.output]
    simp [printed, Text.plainText_of_isPlain plain, document]
  · rintro stop after ⟨unprintable, -⟩
    exact unprintable (isPrintable_of_isPlain plain)

end

/-- The rules that a check runs are the active ones, if it leaves out none and walks some
unit. -/
theorem rulesRun_eq_activeIds {config : Configuration} {units : List CompilationUnit}
    (walks : ∃ unit ∈ units, ¬Policy.IsSkipped config unit) :
    (Policy.total config [] units).rulesRun =
      activeIds config (Registry.builtIn.activeRules config []) := by
  obtain ⟨unit, listed, walked⟩ := walks
  have nonempty : Policy.walked config units ≠ [] :=
    List.ne_nil_of_mem (List.mem_filter.mpr ⟨listed, decide_eq_true walked⟩)
  rw [Policy.rulesRun_total, if_neg nonempty, Policy.activeIds_builtIn]

/-- A check of units runs the rules that the policy gives for them. -/
theorem rulesRun_outcomeFor (console : Console) (setting : Setting) {config : Configuration}
    {skipped : List String} {units : List CompilationUnit} {ids : List String}
    (run : (Policy.total config skipped units).rulesRun = ids) :
    (console.run setting (outcomeFor config skipped units)).1.map (·.rulesRun) = .ok ids := by
  have ends := @ends_outcomeFor (fun _ => True) console setting (fun _ _ => False)
    (fun record before _ => .value (Console.run_log before setting record) trivial) trivial
    config skipped units
  rcases ends with ⟨ran, ⟨seconds, rfl⟩, -⟩ | ⟨-, impossible⟩
  · rw [ran]
    exact congrArg Except.ok run
  · exact impossible.elim

/-- What is shown of a configuration that can be resolved is what a check with the same
options goes by, if it gets as far as that: from where its log file is open, if it has one,
and the records of the resolution have been made, it goes on under this configuration and
reads its descriptor as it was at the start. All reports that it leaves hold the
configuration, and the active rules that are shown are the rules that it runs if it leaves
out none and walks some unit. -/
theorem shown_configuration_is_checked {setting : Setting} {files : Files}
    {words : List String} {level : Level} {options : Properties.Options}
    {properties : Properties} {config : Configuration} {records : List Record}
    (asked : readInvocation files words = .ok ⟨level, .showConfig options⟩)
    (built : Properties.build setting.vars options = .ok properties)
    (resolved : resolveConfiguration files properties = .ok (config, records)) :
    let shown := follow setting files words
    let active := activeIds config (Registry.builtIn.activeRules config [])
    (shown.stop = none ∧ ∃ names,
      shown.console.output =
        Yaml.printTrimmed (shownDocument config names active) ++ "\n" ∧
      AreShown files properties config names) ∧
    ∀ checkWords checkLevel (request : CheckRequest),
      readInvocation files checkWords = .ok ⟨checkLevel, .check request⟩ →
      request.properties = options →
      Reaches setting files checkLevel request properties →
      let checked := follow setting files checkWords
      (∃ begun, Begins setting files checkLevel request begun ∧
        let after := (begun.run setting (Console.logAll records)).2
        (∀ path, IsRead request properties path → HoldsSame path files after.files) ∧
          Console.run { files, logging := freshLogging checkLevel } setting (check request) =
            after.run setting (checkUnder request config)) ∧
      (checked.stop = none ∨ checked.stop = some .violations →
        LeavesReports setting files request config checked.console) ∧
      ∀ units, request.skipped = [] → (∃ unit ∈ units, ¬Policy.IsSkipped config unit) →
        (∀ console : Console,
          (console.run setting (outcomeFor config request.skipped units)).1.map (·.rulesRun) =
            .ok active) ∧
        ∀ seconds,
          (checkContent setting request config units seconds).outcome.rulesRun = active := by
  intro shown active
  constructor
  · have quiet : IsQuiet files "" { files, logging := freshLogging level } := ⟨rfl, rfl, rfl⟩
    have ends := follow_stop_of_ends asked (quiet.ends_showConfiguration built resolved)
    rcases ends with ⟨-, unstopped, names, output, areShown⟩ | ⟨_, -, impossible⟩
    · exact ⟨unstopped, names, output, areShown⟩
    · exact impossible.elim
  · intro checkWords checkLevel request askedCheck same reaches checked
    have builtCheck : Properties.build setting.vars request.properties = .ok properties :=
      same ▸ built
    obtain ⟨goesOn, leaves⟩ := reaches.goes_by askedCheck builtCheck resolved
    refine ⟨goesOn, leaves, fun units all walks => ?_⟩
    have run : (Policy.total config request.skipped units).rulesRun = active := by
      rw [all]
      exact rulesRun_eq_activeIds walks
    exact ⟨fun console => rulesRun_outcomeFor console setting run, fun _ => run⟩

/-- A source with a name that is no convention: the name is shown as ignored, and a check
with the same source leaves reports with the configuration and the active rules. -/
theorem shown_configuration_is_checked_at_unknown_convention :
    let text := "\x7b\"name\": \"u\", \"target_directory\": \"o\", \"classes\": " ++
      "[\x7b\"name\": \"A\"\x7d]\x7d"
    let files := Files.empty.withFile (.ofText "t.json") text.toUTF8
    let setting : Setting := { now := ⟨⟨2001, 2, 3⟩, 4, 5, 6, 0, none⟩, lineTime := "" }
    let source := "defAllowed: false\nfoo: 1"
    let words := ["show-config", "-c", source]
    let checkWords := ["check", "t.json", "-c", source, "--out", "out"]
    let config : Configuration := { dynamicTypingAllowed := false, source := "conventions" }
    let active := ["DEF_FIELD", "DEF_METHOD", "DEF_PARAMETER"]
    (follow setting files words).console.output =
        Yaml.printTrimmed (shownDocument config (some ⟨["defAllowed"], ["foo"]⟩) active) ++
          "\n" ∧
      ∃ content : Report.Content,
        content.configuration = some config ∧ content.outcome.rulesRun = active ∧
        ∀ format, content.StandsIn (follow setting files checkWords).console.files
          (.ofText "out") format := by
  intro text files setting source words checkWords config active
  rw [show files = oneFile text from rfl]
  let given := [(CommandOption.conventions, source), (.out, "out")]
  let request := checkAsked "t.json" given
  let properties : Properties := [(Properties.conventions, source)]
  let units : List CompilationUnit :=
    [{ name := "u", targetDirectory := some "o", classes := [{ name := "A" }] }]
  have asked : readInvocation (oneFile text) words =
      .ok ⟨.warning, .showConfig request.properties⟩ := by
    decide +kernel
  have askedCheck : readInvocation (oneFile text) checkWords = .ok ⟨.warning, .check request⟩ :=
    @readInvocation_oneFile text .warning (by decide) given (by decide) (by decide +kernel)
  have built : Properties.build setting.vars request.properties = .ok properties := by
    decide +kernel
  have parsed : parseSource (oneFile text) source = .ok ⟨config, ["defAllowed"], ["foo"]⟩ := by
    decide +kernel
  obtain ⟨records, resolved⟩ : ∃ records,
      resolveConfiguration (oneFile text) properties = .ok (config, records) := by
    rw [@resolveConfiguration_of_source properties source rfl, resolveSource_of_parsed parsed]
    exact ⟨_, rfl⟩
  have ids : activeIds config (Registry.builtIn.activeRules config []) = active := by
    decide +kernel
  have loaded : loadUnits (oneFile text) (.ofText request.tree) = .ok units := by
    decide +kernel
  have walks : ∃ unit ∈ units, ¬Policy.IsSkipped config unit := by
    decide +kernel
  have reaches : Reaches setting (oneFile text) .warning request properties :=
    ⟨List.forall_mem_nil _, fun _ logged => by cases logged⟩
  have clean : ¬Policy.HasViolation config request.skipped units := by
    rw [← Policy.found_ne_nil_iff]
    decide +kernel
  have completes : Completes (oneFile text) request config units := by
    rw [completes_iff_of_not_hasViolation clean]
    rintro _ ⟨⟩
    decide +kernel
  have unstopped : (follow setting (oneFile text) checkWords).stop = none :=
    follow_stop_eq_none askedCheck rfl reaches.registered built resolved loaded clean completes
  obtain ⟨⟨-, names, output, shown⟩, checks⟩ :=
    shown_configuration_is_checked asked built resolved
  obtain ⟨-, leaves, runs⟩ := checks _ _ request askedCheck rfl reaches
  have named : names = some ⟨["defAllowed"], ["foo"]⟩ :=
    shown.eq_of_parsed (by decide) rfl (by decide) parsed
  obtain ⟨others, seconds, same, stands⟩ := leaves (.inl unstopped)
  cases loaded.symm.trans same
  constructor
  · rw [output, named, ids]
  · exact ⟨checkContent setting request config units seconds, rfl,
      ((runs units rfl walks).2 seconds).trans ids, stands "out" rfl⟩

end CompilePolicy.CommandLine
