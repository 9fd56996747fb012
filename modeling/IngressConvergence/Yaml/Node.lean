/-!
# Nodes of YAML documents

A document is a node: a scalar, a list or a map.  A scalar keeps whether it was written plainly,
because only a plain scalar may stand for nothing or for a truth value.
-/

namespace IngressConvergence.Yaml

/-- A node of a document. -/
inductive Node where
  | scalar (isPlain : Bool) (text : String)
  | list (items : List Node)
  | map (entries : List (Node × Node))

namespace Node

/-- The node that stands for one that is left out. -/
def blank : Node := .scalar true ""

/-- The text of a scalar, however it was written. -/
def text? : Node → Option String
  | .scalar _ text => some text
  | _ => none

/-- Whether a node is a plain scalar without characters. -/
def isBlank : Node → Bool
  | .scalar true text => text = ""
  | _ => false

/-- Whether a plain scalar stands for the absence of a value. -/
def isNull : Node → Bool
  | .scalar true text => text = "" || text = "~" || text = "null" || text = "Null" || text = "NULL"
  | _ => false

/-- The truth value for which a plain scalar stands. -/
def truth? : Node → Option Bool
  | .scalar true text =>
    if text = "true" || text = "True" || text = "TRUE" then some true
    else if text = "false" || text = "False" || text = "FALSE" then some false
    else none
  | _ => none

/-- The texts of a list of scalars; an absent list is empty. -/
def texts? : Node → Option (List String)
  | .list items => items.mapM text?
  | node => if node.isBlank then some [] else none

end Node

end IngressConvergence.Yaml
