import CompilePolicy.FileSystem.Basic
import CompilePolicy.Journal.Record
import CompilePolicy.Json.Reader
import CompilePolicy.Tree.Descriptor
import CompilePolicy.Yaml.Reader

/-!
# Loading descriptor files

A descriptor is kept in a file: JSON if its name ends in `.json` in any case, and
YAML otherwise. A file that does not hold a document is a fault of the file, and
a document that is no descriptor has the faults of descriptors. A scalar that
asks for a value that does not exist is a fault of its own.
-/

namespace CompilePolicy.Descriptor

open CompilePolicy.Document CompilePolicy.FileSystem CompilePolicy.Journal

/-- Why a file gives no units. -/
inductive LoadFault where
  | notFound (path : String)
  | file (fault : FileSystem.Fault)
  /-- The file holds no document. -/
  | notParsed (path : String)
  /-- A scalar of the document has no value. -/
  | scalar (fault : Yaml.Fault)
  /-- A whole number of the document has too many digits. -/
  | tooManyDigits (count : Nat)
  | descriptor (fault : Fault)
deriving DecidableEq, Repr

/-- The message of a fault, if it has one. -/
def LoadFault.message? : LoadFault → Option String
  | .notFound path => some ("Tree descriptor not found: " ++ path)
  | .file inner => some inner.message
  | .notParsed path => some ("Can't parse " ++ path)
  | .scalar inner => inner.message?
  | .tooManyDigits count => some (tooManyDigitsMessage count)
  | .descriptor inner => some (inner.message unitsLocation)

/-- Whether the file is there but its document is not a descriptor. -/
def LoadFault.isFormat : LoadFault → Bool
  | .notParsed _ => true
  | .descriptor inner =>
    match inner.problem with
    | .tooManyDigits => false
    | _ => true
  | _ => false

/-- The logger of the loading. -/
def loadingLogger : String := childLogger "io.tree"

/-- Whether a file holds JSON. -/
def isJson (path : Path) : Bool :=
  Text.lower path.suffix == ".json"

/-- The document in the text of a JSON file, which is read as a whole. -/
def jsonDocument (path : Path) (text : Option String) : Except LoadFault Value :=
  match text.map Json.read with
  | none => .error (.notParsed path.text)
  | some (.ok value) => .ok value
  | some (.error .malformed) => .error (.notParsed path.text)
  | some (.error (.tooManyDigits count)) => .error (.tooManyDigits count)

/-- The document in a YAML file, which is read in pieces. -/
def yamlDocument (path : Path) (text : String) (isWhole : Bool) : Except LoadFault Value :=
  match Yaml.readPieces text isWhole with
  | .ok value => .ok value
  | .error .malformed => .error (.notParsed path.text)
  | .error fault => .error (.scalar fault)

/-- The document in the content of a file. -/
def documentOf (path : Path) (content : ByteArray) : Except LoadFault Value :=
  if isJson path then jsonDocument path (textOf? content)
  else
    match textOf? content with
    | some text => yamlDocument path text true
    | none => yamlDocument path (soundTextOf content) false

/-- The document in a file. -/
def readDocument (files : Files) (path : Path) : Except LoadFault Value :=
  match files.isThere path with
  | .error fault => .error (.file fault)
  | .ok false => .error (.notFound path.text)
  | .ok true =>
    match files.content path with
    | .error fault => .error (.file fault)
    | .ok content => documentOf path content

/-- The record of loaded units. -/
def loadedRecord (path : Path) (units : List CompilationUnit) : Record :=
  ⟨loadingLogger, .info,
    "Loaded " ++ Decimal.natText units.length ++ " units (" ++
      Decimal.natText (units.flatMap (·.classes)).length ++ " classes) from " ++ path.text⟩

/-- The units that a file describes. -/
def loadUnits (files : Files) (path : Path) : Except LoadFault (List CompilationUnit) :=
  match readDocument files path with
  | .error fault => .error fault
  | .ok document => (readUnits document).mapError .descriptor

end CompilePolicy.Descriptor
