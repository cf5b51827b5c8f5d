import CompilePolicy.Decimal.Digits
import CompilePolicy.FileSystem.Path
import CompilePolicy.Text.Quoted

/-!
# A tree of files

Files as a map from places to contents. A place is the list of names that leads
to it from the current directory, or from the root after a slash of its own.
Every file's directories exist with it. Operations fail with the error that the
operating system gives, and the fault names the path as it was asked for.
-/

namespace CompilePolicy.FileSystem

open CompilePolicy.Decimal

/-- The names that lead from the current directory to a file or directory. Double
dots stand only at the start, and a single slash there stands for the root. -/
abbrev Place := List String

/-- The root. -/
def rootPlace : Place := ["/"]

/-- Whether a place is the current directory or one above it. -/
def isAbove (place : Place) : Bool :=
  place.all (· = "..")

/-- What stands at a place. -/
inductive Entry where
  | file (content : ByteArray)
  | directory

instance : DecidableEq Entry
  | .file first, .file second =>
    decidable_of_decidable_of_iff (p := first.data = second.data) (by simp [ByteArray.ext_iff])
  | .file _, .directory => isFalse (by simp)
  | .directory, .file _ => isFalse (by simp)
  | .directory, .directory => isTrue rfl

/-- Files and directories by place. The root, the current directory and the ones
above it are not listed. -/
structure Files where
  entries : List (Place × Entry)
deriving DecidableEq

/-- Why an operation on a path fails. -/
inductive Cause where
  | notFound
  | exists
  | notDirectory
  | isDirectory
  | nameTooLong
  /-- The path contains the character zero, so that it is not even asked for. -/
  | zeroCharacter
deriving DecidableEq, Repr

/-- A failed operation with its path. -/
structure Fault where
  cause : Cause
  path : String
deriving DecidableEq, Repr

/-- The number that the operating system has for a cause. -/
def Cause.number? : Cause → Option Nat
  | .notFound => some 2
  | .exists => some 17
  | .notDirectory => some 20
  | .isDirectory => some 21
  | .nameTooLong => some 36
  | .zeroCharacter => none

/-- The words for a cause. -/
def Cause.words : Cause → String
  | .notFound => "No such file or directory"
  | .exists => "File exists"
  | .notDirectory => "Not a directory"
  | .isDirectory => "Is a directory"
  | .nameTooLong => "File name too long"
  | .zeroCharacter => "embedded null byte"

/-- The message of a failed operation. What the operating system refuses has a number
and names the path. -/
def Fault.message (fault : Fault) : String :=
  match fault.cause.number? with
  | some number =>
    "[Errno " ++ natText number ++ "] " ++ fault.cause.words ++ ": " ++ Text.quoted fault.path
  | none => fault.cause.words

/-- The text in a file as it is held, with its line ends brought to one form. -/
def heldText (text : String) : String :=
  Text.held (String.ofList (Text.unifyLineEnds text.toList))

/-- The text in a file, if its bytes are a text. -/
def textOf? (content : ByteArray) : Option String :=
  (String.fromUTF8? content).map heldText

/-- The number of bytes that are read from a file at once. -/
def blockLength : Nat := 8192

/-- The number of bytes of a character that begins with a byte, or zero. -/
def encodedLength (first : UInt8) : Nat :=
  if first < 0x80 then 1
  else if first < 0xC2 then 0
  else if first < 0xE0 then 2
  else if first < 0xF0 then 3
  else if first < 0xF5 then 4
  else 0

/-- Whether some bytes are the beginning of a character. -/
def isUnfinished : List UInt8 → Bool
  | [] => true
  | first :: rest =>
    decide (rest.length + 1 < encodedLength first) &&
      rest.all fun byte => 0x80 ≤ byte && byte < 0xC0

/-- The text in some bytes, where the last character can be unfinished. -/
def beginningOf? (content : ByteArray) : Option String :=
  [0, 1, 2, 3].findSome? fun left =>
    let cut := content.size - left
    if isUnfinished (content.extract cut content.size).toList then
      String.fromUTF8? (content.extract 0 cut)
    else none

/-- The text in as many blocks of a file as are a text, of a number of blocks. -/
def soundBlocks (content : ByteArray) : Nat → String
  | 0 => ""
  | count + 1 =>
    match beginningOf? (content.extract 0 ((count + 1) * blockLength)) with
    | some text => text
    | none => soundBlocks content count

/-- The text in front of the first block of a file that is no text. -/
def soundTextOf (content : ByteArray) : String :=
  heldText (soundBlocks content (content.size / blockLength))

namespace Files

/-- No files. -/
def empty : Files :=
  ⟨[]⟩

/-- What stands at a place. -/
def at? (files : Files) (place : Place) : Option Entry :=
  if place = rootPlace ∨ isAbove place then some .directory
  else (files.entries.find? (·.1 = place)).map (·.2)

/-- Puts an entry at a place, in its old position if something stands there. -/
def put (files : Files) (place : Place) (entry : Entry) : Files :=
  if files.entries.any (·.1 = place) then
    ⟨files.entries.map fun old => if old.1 = place then (place, entry) else old⟩
  else ⟨files.entries ++ [(place, entry)]⟩

/-- Takes away what stands at a place. -/
def removeAt (files : Files) (place : Place) : Files :=
  ⟨files.entries.filter (·.1 ≠ place)⟩

/-- The place one name further, or above for a double dot. -/
def stepFrom (place : Place) (name : String) : Place :=
  if name = ".." then
    if place = rootPlace then rootPlace
    else if isAbove place then place ++ [name]
    else place.dropLast
  else place ++ [name]

/-- Follows names from a place. Every place before the last name has to be a
directory. -/
def follow (files : Files) (start : Place) : List String → Except Cause Place
  | [] => .ok start
  | name :: rest =>
    match files.at? start with
    | none => .error .notFound
    | some (.file _) => .error .notDirectory
    | some .directory =>
      if 255 < name.utf8ByteSize then .error .nameTooLong
      else follow files (stepFrom start name) rest

/-- The most bytes that a path can have. -/
def maxPathBytes : Nat := 4095

/-- Whether a text can be a path at all: the character zero is in no path. -/
def isPossible (text : String) : Bool :=
  !text.toList.contains '\x00'

/-- The place a path leads to, whether or not something stands there. -/
def locate (files : Files) (path : Path) : Except Cause Place :=
  if !isPossible path.text then .error .zeroCharacter
  else if maxPathBytes < path.text.utf8ByteSize then .error .nameTooLong
  else files.follow (if path.root = "" then [] else rootPlace) path.parts

/-- What a path leads to. -/
def entry (files : Files) (path : Path) : Except Cause Entry :=
  match files.locate path with
  | .error cause => .error cause
  | .ok place =>
    match files.at? place with
    | some found => .ok found
    | none => .error .notFound

/-- Whether a path leads to a file. -/
def isFile (files : Files) (path : Path) : Bool :=
  match files.entry path with
  | .ok (.file _) => true
  | _ => false

/-- Whether a path leads to a directory. -/
def isDirectory (files : Files) (path : Path) : Bool :=
  match files.entry path with
  | .ok .directory => true
  | _ => false

/-- Whether something stands at a path. A name that is too long is a fault. -/
def isThere (files : Files) (path : Path) : Except Fault Bool :=
  match files.entry path with
  | .ok _ => .ok true
  | .error .nameTooLong => .error ⟨.nameTooLong, path.text⟩
  | .error _ => .ok false

/-- What a path as it is written leads to. Unlike the path in its normal form, the
empty text leads nowhere, a text that ends in a slash leads to no file, and the
text itself can be too long. -/
def found? (files : Files) (text : String) : Option Entry :=
  if text = "" ∨ maxPathBytes < text.utf8ByteSize then none
  else
    match files.entry (.ofText text), (Text.splitText '/' text).getLast? with
    | .ok (.file _), some "" => none
    | .ok (.file _), some "." => none
    | .ok entry, _ => some entry
    | .error _, _ => none

/-- The content of a file. -/
def content (files : Files) (path : Path) : Except Fault ByteArray :=
  match files.entry path with
  | .ok (.file bytes) => .ok bytes
  | .ok .directory => .error ⟨.isDirectory, path.text⟩
  | .error cause => .error ⟨cause, path.text⟩

/-- The place at which a file can be opened for writing: a file that is there,
or a free place in a directory. -/
def writable (files : Files) (path : Path) : Except Fault Place :=
  match files.locate path with
  | .error cause => .error ⟨cause, path.text⟩
  | .ok place =>
    match files.at? place with
    | some .directory => .error ⟨.isDirectory, path.text⟩
    | _ => .ok place

/-- Writes a whole file. -/
def write (files : Files) (path : Path) (bytes : ByteArray) : Except Fault Files :=
  (files.writable path).map fun place => files.put place (.file bytes)

/-- Adds to the end of the file at a place; a missing file starts empty. -/
def appendAt (files : Files) (place : Place) (bytes : ByteArray) : Files :=
  match files.at? place with
  | some (.file old) => files.put place (.file (old ++ bytes))
  | _ => files.put place (.file bytes)

/-- Takes a file away, if it is there. -/
def unlink (files : Files) (path : Path) : Except Fault Files :=
  match files.locate path with
  | .error .notFound => .ok files
  | .error cause => .error ⟨cause, path.text⟩
  | .ok place =>
    match files.at? place with
    | none => .ok files
    | some .directory => .error ⟨.isDirectory, path.text⟩
    | some (.file _) => .ok (files.removeAt place)

/-- Makes one directory in a directory that is there. -/
def makeDirectory (files : Files) (path : Path) : Except Cause Files :=
  match files.locate path with
  | .error cause => .error cause
  | .ok place =>
    match files.at? place with
    | some _ => .error .exists
    | none => .ok (files.put place .directory)

/-- Makes the directory named by parts in reverse order, and first the ones it
lies in where they are missing. A directory that is there is left alone. -/
def makeDirectoriesFrom (files : Files) (root : String) : List String → Except Fault Files
  | [] =>
    let path : Path := ⟨root, []⟩
    if files.isDirectory path then .ok files else .error ⟨.exists, path.text⟩
  | name :: above =>
    let path : Path := ⟨root, (name :: above).reverse⟩
    match files.makeDirectory path with
    | .ok made => .ok made
    | .error .notFound =>
      match makeDirectoriesFrom files root above with
      | .error fault => .error fault
      | .ok inside =>
        match inside.makeDirectory path with
        | .ok made => .ok made
        | .error cause =>
          if inside.isDirectory path then .ok inside else .error ⟨cause, path.text⟩
    | .error cause => if files.isDirectory path then .ok files else .error ⟨cause, path.text⟩

/-- Makes a directory and the ones it lies in, where they are missing. -/
def makeDirectories (files : Files) (path : Path) : Except Fault Files :=
  files.makeDirectoriesFrom path.root path.parts.reverse

/-- Puts a file and the directories it lies in. -/
def withFile (files : Files) (path : Path) (bytes : ByteArray) : Files :=
  let above := (List.range (path.parts.length - 1)).map fun count => path.parts.take (count + 1)
  (above.foldl (fun made place => made.put place .directory) files).put path.parts (.file bytes)

/-- All files with their contents, in the order in which they were made. -/
def contents (files : Files) : List (Place × ByteArray) :=
  files.entries.filterMap fun
    | (place, .file bytes) => some (place, bytes)
    | (_, .directory) => none

end Files

end CompilePolicy.FileSystem
