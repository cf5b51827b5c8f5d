import CompilePolicy.Yaml.Cursor
import CompilePolicy.Yaml.Fault

/-!
# Anchors and tags

What can stand in front of a node: an anchor that names it, and a tag that says
what it stands for. A tag is written out between angle brackets, or as a suffix
to a handle. Bytes in a tag can be given by two hexadecimal digits after a
percent sign.
-/

namespace CompilePolicy.Yaml

/-- A tag as it is written: the suffix belongs to the handle if there is one. -/
structure TagName where
  handle : Option String
  suffix : String
deriving DecidableEq, Repr

/-- Whether a character can follow an anchor. -/
def canFollowAnchor (next : Option Char) : Bool :=
  next.all fun c => isSeparator c || ['?', ':', ',', ']', '\x7d', '%', '@', '\x60'].contains c

/-- The name of an anchor, after its mark. -/
def readAnchorName (cursor : Cursor) : Except Fault (String × Cursor) :=
  let (name, after) := cursor.takeWhile isNameChar
  if name.isEmpty || !canFollowAnchor after.next? then .error .malformed
  else .ok (String.ofList name, after)

/-- The bytes in front that are given by their numbers. -/
def codedBytes : Nat → List UInt8 → Cursor → Except Fault (List UInt8 × Cursor)
  | 0, bytes, cursor => .ok (bytes, cursor)
  | bound + 1, bytes, cursor =>
    match cursor.rest with
    | '%' :: first :: second :: _ =>
      match hexValue? first, hexValue? second with
      | some high, some low =>
        codedBytes bound (bytes ++ [UInt8.ofNat (16 * high + low)]) (cursor.advanceBy 3)
      | _, _ => .error .malformed
    | '%' :: _ => .error .malformed
    | _ => .ok (bytes, cursor)

/-- The characters that the bytes in front encode. -/
def codedChars (cursor : Cursor) : Except Fault (List Char × Cursor) :=
  match codedBytes cursor.bound [] cursor with
  | .error fault => .error fault
  | .ok (bytes, after) =>
    match String.fromUTF8? ⟨bytes.toArray⟩ with
    | some text => .ok (text.toList, after)
    | none => .error .malformed

/-- The characters of a tag, after `taken`. -/
def tagCharsFrom : Nat → List Char → Cursor → Except Fault (List Char × Cursor)
  | 0, taken, cursor => .ok (taken, cursor)
  | bound + 1, taken, cursor =>
    match cursor.next? with
    | some '%' =>
      match codedChars cursor with
      | .ok (chars, after) => tagCharsFrom bound (taken ++ chars) after
      | .error fault => .error fault
    | some c =>
      if isTagChar c then tagCharsFrom bound (taken ++ [c]) cursor.advance else .ok (taken, cursor)
    | none => .ok (taken, cursor)

/-- The characters of a tag; there is at least one. -/
def readTagChars (cursor : Cursor) : Except Fault (String × Cursor) :=
  match tagCharsFrom cursor.bound [] cursor with
  | .error fault => .error fault
  | .ok (chars, after) =>
    if cursor.next?.any isTagChar then .ok (String.ofList chars, after) else .error .malformed

/-- A tag handle: an exclamation mark, or a name between two of them. -/
def readHandle (cursor : Cursor) : Except Fault (String × Cursor) :=
  if cursor.next? == some '!' then
    if cursor.second? == some ' ' then .ok ("!", cursor.advance)
    else
      let (name, afterName) := cursor.advance.takeWhile isNameChar
      if afterName.next? == some '!' then
        .ok (String.ofList ('!' :: name ++ ['!']), afterName.advance)
      else .error .malformed
  else .error .malformed

/-- A tag written out between angle brackets, after its exclamation mark. -/
def readWholeTag (cursor : Cursor) : Except Fault (TagName × Cursor) :=
  match readTagChars cursor.advance with
  | .error fault => .error fault
  | .ok (suffix, after) =>
    if after.next? == some '>' then .ok (⟨none, suffix⟩, after.advance) else .error .malformed

/-- Whether a tag has a handle with a name: a second exclamation mark stands in
its word. -/
def hasNamedHandle (cursor : Cursor) : Bool :=
  (cursor.advance.rest.takeWhile fun c => !(c == ' ' || isBreak c)).contains '!'

/-- A tag with a handle, from its exclamation mark on. -/
def readHandledTag (cursor : Cursor) : Except Fault (TagName × Cursor) :=
  match if hasNamedHandle cursor then readHandle cursor else .ok ("!", cursor.advance) with
  | .error fault => .error fault
  | .ok (handle, afterHandle) =>
    (readTagChars afterHandle).map fun (suffix, after) => (⟨some handle, suffix⟩, after)

/-- The tag at the cursor, from its exclamation mark on. -/
def readTag (cursor : Cursor) : Except Fault (TagName × Cursor) :=
  let result :=
    if cursor.second? == some '<' then readWholeTag cursor.advance
    else if endsWord cursor.second? then .ok (⟨none, "!"⟩, cursor.advance)
    else readHandledTag cursor
  match result with
  | .error fault => .error fault
  | .ok (tag, after) => if endsAtSpace after.next? then .ok (tag, after) else .error .malformed

end CompilePolicy.Yaml
