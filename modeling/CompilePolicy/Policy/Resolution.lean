import CompilePolicy.Journal.Record
import CompilePolicy.Policy.Property
import CompilePolicy.Policy.Source

/-!
# Resolution of the configuration

A console session overrides everything else; without one a source of conventions
is read if there is one, and the defaults hold otherwise. A source that cannot
be read is reported and replaced by the defaults. A document whose scalars ask
for values that do not exist is not replaced: its fault ends the resolution.
-/

namespace CompilePolicy

open Conventions FileSystem Journal

/-- The logger of the resolution. -/
def resolutionLogger : String := childLogger "config.resolver"

/-- Whether the defaults take the place of a source with this fault. -/
def Conventions.SourceFault.isReplaced : SourceFault → Bool
  | .file _ => true
  | .notText => true
  | .document .malformed => true
  | .document _ => false
  | .refused _ => true
  | .tooManyDigits => false

/-- The record of a source that the defaults take the place of. -/
def Conventions.SourceFault.record (fault : SourceFault) : Record :=
  ⟨resolutionLogger, .warning,
    "Conventions can't be parsed, falling back to defaults:" ++
      match fault with
      | .refused inner => " " ++ inner.message
      | _ => ""⟩

/-- The records of a source that is read: the names that mean nothing, and those
that do. -/
def Conventions.Parsed.records (parsed : Parsed) : List Record :=
  (if parsed.ignored.isEmpty then []
    else [⟨resolutionLogger, .warning,
      "Ignoring unknown conventions: " ++ ", ".intercalate parsed.ignored⟩]) ++
    [⟨resolutionLogger, .debug,
      "Recognized conventions: " ++
        (if parsed.recognized.isEmpty then "none" else ", ".intercalate parsed.recognized)⟩]

/-- What a source of conventions says, or the defaults in its place, with the
records of reading it. -/
def resolveSource (files : Files) (source : String) :
    Except SourceFault (Parsed × List Record) :=
  match parseSource files source with
  | .ok parsed => .ok (parsed, parsed.records)
  | .error fault =>
    if fault.isReplaced then .ok ({ configuration := {} }, [fault.record]) else .error fault

/-- A property that stands for something: one that is set to a text. -/
def Properties.textOf? (properties : Properties) (name : String) : Option String :=
  match properties.lookup name with
  | some text => if text = "" then none else some text
  | none => none

/-- A property as a flag: whether it says `true`, or the default if it is not
set. -/
def Properties.flag (properties : Properties) (name : String) (default : Bool) : Bool :=
  match properties.lookup name with
  | some text => Text.lower (Text.trim text) == "true"
  | none => default

/-- The configuration of a console session. -/
def consoleConfiguration (properties : Properties) : Configuration where
  globalDisable := properties.flag Properties.disable false
  scriptsExempt := false
  disableDynamicCompile := properties.flag Properties.disableDynamicCompile false
  dynamicTypingAllowed := properties.flag Properties.defAllowed true
  source := "console"

/-- The record of a resolved configuration. -/
def Configuration.record (config : Configuration) : Record :=
  ⟨resolutionLogger, .info, "Enforcement configuration resolved from " ++ config.source⟩

/-- The configuration that properties give, with the records of finding it. -/
def resolveConfiguration (files : Files) (properties : Properties) :
    Except SourceFault (Configuration × List Record) :=
  if (properties.textOf? Properties.console).isSome then
    let config := consoleConfiguration properties
    .ok (config, [config.record])
  else
    match properties.textOf? Properties.conventions with
    | some source =>
      (resolveSource files source).map fun (parsed, records) =>
        (parsed.configuration, records ++ [parsed.configuration.record])
    | none =>
      let config : Configuration := {}
      .ok (config, [config.record])

end CompilePolicy
