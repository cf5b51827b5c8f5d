/-!
# Comma-separated values

Records of fields. A field is quoted if it holds a comma, a quote or a line
feed, and a quote inside is written twice. A record ends with a line feed.
-/

namespace CompilePolicy.Csv

/-- Whether a character makes its field quoted. -/
def needsQuotes (c : Char) : Bool :=
  c == ',' || c == '\x22' || c == '\n'

/-- A character between quotes. -/
def quotedChar (c : Char) : List Char :=
  if c == '\x22' then ['\x22', '\x22'] else [c]

/-- A field as it is written. -/
def field (text : String) : String :=
  if text.toList.any needsQuotes then
    String.ofList ('\x22' :: (text.toList.flatMap quotedChar ++ ['\x22']))
  else text

/-- A record with its line feed. -/
def record (fields : List String) : String :=
  ",".intercalate (fields.map field) ++ "\n"

/-- A header and the records below it. -/
def table (header : List String) (rows : List (List String)) : String :=
  String.join ((header :: rows).map record)

example : field "a,\"b\"" = "\"a,\"\"b\"\"\"" := by decide
example : table ["a", "b"] [["1", ""]] = "a,b\n1,\n" := by decide

end CompilePolicy.Csv
