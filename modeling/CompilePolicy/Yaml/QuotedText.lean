import CompilePolicy.Decimal.Reading
import CompilePolicy.Text.Half
import CompilePolicy.Yaml.Cursor
import CompilePolicy.Yaml.Fault

/-!
# Quoted texts

Texts between quotes. Between single quotes only a doubled quote is special;
between double quotes a backslash begins an escape. Lines are folded, and a
document cannot begin or end inside.
-/

namespace CompilePolicy.Yaml

open CompilePolicy.Decimal

/-- The character that an escape of one letter stands for. -/
def escaped? (letter : Char) : Option Char :=
  match letter with
  | '0' => some '\x00'
  | 'a' => some '\x07'
  | 'b' => some '\x08'
  | 't' => some '\t'
  | '\t' => some '\t'
  | 'n' => some '\n'
  | 'v' => some '\x0B'
  | 'f' => some '\x0C'
  | 'r' => some '\r'
  | 'e' => some '\x1B'
  | ' ' => some ' '
  | '\x22' => some '\x22'
  | '\\' => some '\\'
  | '/' => some '/'
  | 'N' => some '\x85'
  | '_' => some '\xA0'
  | 'L' => some '\u2028'
  | 'P' => some '\u2029'
  | _ => none

/-- The number of hexadecimal digits after an escape letter. -/
def codeLength? (letter : Char) : Option Nat :=
  match letter with
  | 'x' => some 2
  | 'u' => some 4
  | 'U' => some 8
  | _ => none

/-- What a code point stands for, which can be one half of a pair. -/
def heldCode (code : Nat) : Except Fault (List Char) :=
  if 0x7FFFFFFF < code then .error .codeTooLarge
  else if 0x10FFFF < code then .error .noCharacter
  else .ok (Text.holdCode code)

/-- The line breaks and the blanks around them. -/
def quotedBreaks : Nat → List Char → Cursor → Except Fault (List Char × Cursor)
  | 0, _, _ => .error .malformed
  | bound + 1, breaks, cursor =>
    if cursor.atDocumentMarker then .error .malformed
    else
      let afterBlanks := cursor.skipWhile isSpaceOrTab
      match afterBlanks.lineBreak? with
      | some (lineBreak, after) => quotedBreaks bound (breaks ++ [lineBreak]) after
      | none => .ok (breaks, afterBlanks)

/-- The blanks and line breaks at the cursor. -/
def quotedGap (cursor : Cursor) : Except Fault (List Char × Cursor) :=
  let (blanks, afterBlanks) := cursor.takeWhile isSpaceOrTab
  match afterBlanks.next? with
  | none => .error .malformed
  | some _ =>
    match afterBlanks.lineBreak? with
    | some (lineBreak, after) =>
      (quotedBreaks (after.bound + 1) [] after).map fun (breaks, last) =>
        (foldBreaks lineBreak breaks, last)
    | none => .ok (blanks, afterBlanks)

/-- What an escape stands for, from the character after the backslash on. An
escaped line break stands for nothing but the further breaks after it. -/
def readEscape (cursor : Cursor) : Except Fault (List Char × Cursor) :=
  match cursor.next? with
  | none => .error .malformed
  | some letter =>
    match escaped? letter with
    | some meant => .ok ([meant], cursor.advance)
    | none =>
      match codeLength? letter with
      | some length =>
        match (cursor.rest.drop 1).take length |>.mapM hexValue? with
        | some digits =>
          if digits.length = length then
            (heldCode (digitsValue 16 digits)).map fun held =>
              (held, cursor.advanceBy (length + 1))
          else .error .malformed
        | none => .error .malformed
      | none =>
        match cursor.lineBreak? with
        | some (_, after) => quotedBreaks (after.bound + 1) [] after
        | none => .error .malformed

/-- The text up to the closing quote, after `taken`. -/
def quotedFrom (quote : Char) : Nat → List Char → Cursor → Except Fault (String × Cursor)
  | 0, _, _ => .error .malformed
  | bound + 1, taken, cursor =>
    match cursor.next? with
    | none => .error .malformed
    | some c =>
      if c == quote then
        if quote == '\x27' && cursor.second? == some '\x27' then
          quotedFrom quote bound ('\x27' :: taken) (cursor.advanceBy 2)
        else .ok (String.ofList taken.reverse, cursor.advance)
      else if c == '\\' && quote == '\x22' then
        match readEscape cursor.advance with
        | .ok (meant, after) => quotedFrom quote bound (meant.reverse ++ taken) after
        | .error fault => .error fault
      else if isSeparator c then
        match quotedGap cursor with
        | .ok (folded, after) => quotedFrom quote bound (folded.reverse ++ taken) after
        | .error fault => .error fault
      else quotedFrom quote bound (c :: taken) cursor.advance

/-- The text between quotes, from its opening quote on. -/
def readQuoted (quote : Char) (cursor : Cursor) : Except Fault (String × Cursor) :=
  quotedFrom quote (cursor.bound + 1) [] cursor.advance

end CompilePolicy.Yaml
