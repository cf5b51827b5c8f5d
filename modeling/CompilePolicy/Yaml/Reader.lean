import CompilePolicy.Yaml.Node.Composition
import CompilePolicy.Yaml.Node.Value
import CompilePolicy.Yaml.Token.Lexer

/-!
# Reading YAML

The value of a text: its tokens describe nodes, and the nodes stand for a value. A
text without a document stands for null.

Nodes may be nested to any depth. An interpreter that reads them by recursion gives up
at some depth, which depends on how deep it stands itself; this limit is left out.
-/

namespace CompilePolicy.Yaml

open CompilePolicy.Document

/-- The value of a text that holds one document. -/
def read (text : String) : Except Fault Value :=
  match NodeGraph.ofTokens? (tokens text) with
  | .error fault => .error fault
  | .ok none => .ok .null
  | .ok (some graph) => graph.value

/-- The number of characters in a piece of a file. -/
def pieceLength : Nat := 4096

/-- How many characters are read before a defect at a position shows: the pieces in
front of the one it is in. The first two pieces are read together. -/
def readableLength (defect : Nat) : Nat :=
  let length := defect / pieceLength * pieceLength
  if length < 2 * pieceLength then 0 else length

/-- The value of a file that is read in pieces. The file ends after the text or cannot
be read any further. A fault of a scalar in front of the piece with the first
defect comes before the defect. -/
def readPieces (text : String) (isWhole : Bool) : Except Fault Value :=
  let chars := text.toList
  let sound := chars.takeWhile isContent
  if isWhole && sound.length == chars.length then read text
  else
    let readable := String.ofList (sound.take (readableLength sound.length))
    match NodeGraph.ofTokens? (tokens readable) with
    | .error fault => .error fault
    | .ok _ => .error .malformed

end CompilePolicy.Yaml
