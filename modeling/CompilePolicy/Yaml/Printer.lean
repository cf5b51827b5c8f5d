import CompilePolicy.Document.Value
import CompilePolicy.Yaml.Printer.Scalar

/-!
# Printing YAML

A value as a document in block style. Empty collections are written in brackets.
A sequence inside a mapping is not indented further. A key is written on the line
of its value if it is short and has no line breaks, and after a mark of its own
otherwise.
-/

namespace CompilePolicy.Yaml

open CompilePolicy.Document

/-- The length from which a key is written after a mark of its own. -/
def shortKeyLimit : Nat := 128

/-- Whether a key is written on the line of its value. -/
def isShortKey (key : Value) : Bool :=
  match key with
  | .list items => items.isEmpty
  | .map entries => entries.isEmpty
  | _ =>
    let scalar := scalarOf key
    decide (scalar.tagLength + (Text.codes scalar.text.toList).length < shortKeyLimit) &&
      !scalar.text.isEmpty && !scalar.text.toList.any isWrittenBreak

/-- The indentation of what stands inside a node. -/
def deeper : Option Nat → Nat
  | none => 0
  | some indent => indent + indentWidth

/-- The indentation of the further lines of a scalar. -/
def scalarIndent (indent : Option Nat) : Nat :=
  (indent.getD 0) + indentWidth

/-- Where a node stands. -/
inductive NodePlace where
  | whole
  | item
  | shortKey
  | entry
deriving DecidableEq

/-- The indentation of a sequence: inside a mapping it is not indented further,
unless it begins right after a mark. -/
def sequenceIndent (indent : Option Nat) (place : NodePlace) (pen : Pen) : Nat :=
  if place = .entry ∧ !pen.isAtIndent then indent.getD 0 else deeper indent

mutual

/-- Writes a node in a collection of some indentation. -/
def writeNode (indent : Option Nat) (place : NodePlace) : Value → Pen → Pen
  | .list items, pen =>
    if items.isEmpty then pen.spacedMark ['[', ']']
    else writeItems (sequenceIndent indent place pen) items pen
  | .map entries, pen =>
    if entries.isEmpty then pen.spacedMark ['\x7b', '\x7d']
    else writeEntries (deeper indent) entries pen
  | value, pen => writeScalar (scalarIndent indent) (place == .shortKey) (scalarOf value) pen

/-- Writes the items of a sequence. -/
def writeItems (indent : Nat) : List Value → Pen → Pen
  | [], pen => pen
  | item :: rest, pen =>
    writeItems indent rest
      (writeNode (some indent) .item item ((pen.indentTo indent).itemMark '-'))

/-- Writes the entries of a mapping. -/
def writeEntries (indent : Nat) : List (Value × Value) → Pen → Pen
  | [], pen => pen
  | (key, value) :: rest, pen =>
    let begun := pen.indentTo indent
    if isShortKey key then
      let keyed := (writeNode (some indent) .shortKey key begun).mark [':']
      writeEntries indent rest (writeNode (some indent) .entry value keyed)
    else
      let keyed := writeNode (some indent) .entry key (begun.itemMark '?')
      writeEntries indent rest
        (writeNode (some indent) .entry value ((keyed.indentTo indent).itemMark ':'))

end

/-- Whether a document is a plain scalar, after which its end is marked. -/
def isOpenEnded (value : Value) : Bool :=
  match value with
  | .list _ => false
  | .map _ => false
  | _ => (scalarOf value).style false == .plain

/-- A value as a document. -/
def print (value : Value) : String :=
  let body := (writeNode none .whole value {}).indentTo 0
  if isOpenEnded value then ((body.spacedMark ['.', '.', '.']).indentTo 0).text else body.text

/-- A document without the line feeds at its end. -/
def printTrimmed (value : Value) : String :=
  String.ofList (((print value).toList.reverse.dropWhile (· == '\n')).reverse)

example : print (.record [("a", .int 1), ("b", .strings ["x", "true"])]) =
    "a: 1\nb:\n- x\n- 'true'\n" := by decide
example : print .null = "null\n...\n" := by decide

end CompilePolicy.Yaml
