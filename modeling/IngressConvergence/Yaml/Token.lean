/-!
# Tokens of YAML texts

A text is a list of tokens.  Some of them are written as marks.  Others are not: indentation tells
where the lists and the maps of a block start and end, and a key is usually known by the colon
behind it only.
-/

namespace IngressConvergence.Yaml

/-- A token. -/
inductive Token where
  | documentStart
  | documentEnd
  /-- The start of a list whose items are lines of a block. -/
  | blockList
  /-- The start of a map whose entries are lines of a block. -/
  | blockMap
  | blockEnd
  /-- The mark of an item of a list in a block. -/
  | item
  | key
  | value
  | listStart
  | listEnd
  | mapStart
  | mapEnd
  | separator
  | scalar (isPlain : Bool) (text : String)
deriving DecidableEq, Repr

end IngressConvergence.Yaml
