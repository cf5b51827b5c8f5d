import CompilePolicy.Decimal.Digits
import CompilePolicy.Text.Half
import CompilePolicy.Text.Printable

/-!
# Quoted texts

A text inside a message is quoted: single quotes unless the text holds a single
quote and no double quote. The quote and the backslash are escaped by a
backslash, tab and line ends have letters, and every other character that is
not printable is written by its code point.
-/

namespace CompilePolicy.Text

open CompilePolicy.Decimal

/-- The quote that a text is written in. -/
def quoteFor (chars : List Char) : Char :=
  if chars.contains '\x27' && !chars.contains '\x22' then '\x22' else '\x27'

/-- The code point of a character that is not printable. -/
def escapedCode (code : Nat) : List Char :=
  if code < 0x100 then '\\' :: 'x' :: padded 2 (digits 16 code)
  else if code < 0x10000 then '\\' :: 'u' :: padded 4 (digits 16 code)
  else '\\' :: 'U' :: padded 8 (digits 16 code)

/-- One character between quotes. -/
def quotedChar (quote c : Char) : List Char :=
  if c = quote ∨ c = '\\' then ['\\', c]
  else if c = '\t' then ['\\', 't']
  else if c = '\n' then ['\\', 'n']
  else if c = '\r' then ['\\', 'r']
  else if isPrintable c then [c]
  else escapedCode c.toNat

/-- One code between quotes. A half of a pair is never printable. -/
def quotedCode (quote : Char) (code : Nat) : List Char :=
  if isHalf code then escapedCode code else quotedChar quote (Char.ofNat code)

/-- A text between quotes. -/
def quoted (text : String) : String :=
  let quote := quoteFor text.toList
  String.ofList (quote :: ((codes text.toList).flatMap (quotedCode quote) ++ [quote]))

/-- One byte between quotes: bytes beyond ASCII are written by their number. -/
def quotedByte (quote : Char) (byte : UInt8) : List Char :=
  if byte.toNat < 0x80 then quotedChar quote (Char.ofNat byte.toNat)
  else escapedCode byte.toNat

/-- Bytes between quotes, marked as bytes. -/
def quotedBytes (bytes : List UInt8) : String :=
  let quote := quoteFor (bytes.map fun byte => Char.ofNat byte.toNat)
  String.ofList ('b' :: quote :: (bytes.flatMap (quotedByte quote) ++ [quote]))

example : quoted "it's" = "\"it's\"" := by decide
example : quoted "a\\b\n" = "'a\\\\b\\n'" := by decide
example : quotedBytes [104, 105, 0, 200] = "b'hi\\x00\\xc8'" := by decide

end CompilePolicy.Text
