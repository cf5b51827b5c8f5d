import CompilePolicy.FileSystem.Basic
import CompilePolicy.Policy.Conventions
import CompilePolicy.Yaml.Reader

/-!
# Sources of conventions

A source is the path of a file or a YAML text. What names an existing file is
read from it, and anything else is a text itself. The document is a mapping; the
block under `conventions` in it holds the conventions if there is one, and the
whole document holds them otherwise.
-/

namespace CompilePolicy.Conventions

open CompilePolicy.Document CompilePolicy.FileSystem

/-- Why a source gives no configuration. -/
inductive SourceFault where
  | file (fault : FileSystem.Fault)
  /-- The file does not hold a text. -/
  | notText
  | document (fault : Yaml.Fault)
  | refused (fault : Fault)
  /-- A whole number has too many digits to become a text. -/
  | tooManyDigits
deriving DecidableEq, Repr

/-- What a fault says, if it says anything. -/
def SourceFault.message? : SourceFault → Option String
  | .file inner => some inner.message
  | .notText => none
  | .document inner => inner.message?
  | .refused inner => some inner.message
  | .tooManyDigits => some unshownMessage

/-- The key of the block that holds the conventions. -/
def blockKey : String := "conventions"

/-- The text that a source leads to. -/
def sourceText (files : Files) (source : String) : Except SourceFault String :=
  let path := Path.ofText source
  if files.isFile path then
    match files.content path with
    | .error fault => .error (.file fault)
    | .ok content =>
      match textOf? content with
      | some text => .ok text
      | none => .error .notText
  else .ok source

/-- The entries of the conventions in a document. -/
def blockOf (document : Value) : Except SourceFault Entries :=
  match document with
  | .null => .ok []
  | _ =>
    match document.entries? with
    | none => .error (.refused (.documentNotMapping document.typeName))
    | some entries =>
      match entries.get? blockKey with
      | none => .ok entries
      | some .null => .ok []
      | some block =>
        match block.entries? with
        | some inner => .ok inner
        | none => .error (.refused .blockNotMapping)

/-- The entries of the conventions that a source leads to. -/
def load (files : Files) (source : String) : Except SourceFault Entries :=
  match sourceText files source with
  | .error fault => .error fault
  | .ok text =>
    match Yaml.read text with
    | .error fault => .error (.document fault)
    | .ok document => blockOf document

/-- Why reading stops, as a fault of the source. -/
def Stop.sourceFault : Stop → SourceFault
  | .refused fault => .refused fault
  | .tooManyDigits => .tooManyDigits

/-- What the conventions that a source leads to say. -/
def parseSource (files : Files) (source : String) : Except SourceFault Parsed :=
  match load files source with
  | .error fault => .error fault
  | .ok entries => (parseEntries entries).mapError Stop.sourceFault

end CompilePolicy.Conventions
