import CompilePolicy.Yaml.Directive

/-!
# Tokens of YAML

The marks and texts of a document. Collections in block style have no marks of
their own; tokens for their beginnings and ends are put where the indentation
changes.
-/

namespace CompilePolicy.Yaml

/-- A token. -/
inductive Token where
  | directive (directive : Directive)
  | documentStart
  | documentEnd
  | streamEnd
  | blockSequenceStart
  | blockMappingStart
  | blockEnd
  | flowSequenceStart
  | flowSequenceEnd
  | flowMappingStart
  | flowMappingEnd
  | blockEntry
  | flowEntry
  | key
  | value
  | alias (name : String)
  | anchor (name : String)
  | tag (name : TagName)
  | scalar (text : String) (isPlain : Bool)
  /-- The text from here on has no tokens. -/
  | broken (fault : Fault)
deriving DecidableEq, Repr

end CompilePolicy.Yaml
