import IngressConvergence.Configuration.Basic
import IngressConvergence.Yaml.Structure

/-!
# The configuration from a document

The configuration may be written as a YAML map.  A field that is missing has its default, and a text
without a document has all of them.  No field may come twice; unknown fields are ignored.
-/

namespace IngressConvergence.Configuration

open Yaml (Node)

/-- The value of a field of a map with text keys, if it is there; it may not be there twice. -/
def field? (entries : List (String × Node)) (name : String) : Option (Option Node) :=
  match entries.filter fun entry => entry.1 = name with
  | [] => some none
  | [entry] => some (some entry.2)
  | _ => none

/-- Read a field of a map that has a default where it is missing. -/
def fieldOr? {Value : Type} (entries : List (String × Node)) (name : String) (default : Value)
    (read : Node → Option Value) : Option Value := do
  match ← field? entries name with
  | some node => read node
  | none => return default

/-- A text, or none where a plain scalar stands for the absence of a value. -/
def absentOrText? (node : Node) : Option (Option String) :=
  if node.isNull then some none else node.text?.map some

/-- The entries of a map by the texts of their keys, all of which have to be scalars. -/
def textEntries? (entries : List (Node × Node)) : Option (List (String × Node)) :=
  entries.mapM fun entry => entry.1.text?.map fun key => (key, entry.2)

/-- The allow-list: names by namespace, of which the last counts where one comes twice. -/
def allowList? : Node → Option (Table (List String))
  | .map entries => do
    let entries ← textEntries? entries
    let names ← entries.mapM fun entry => entry.2.texts?.map fun names => (entry.1, names)
    return Table.ofList names
  | node => if node.isBlank then some ∅ else none

/-- The configuration that a node describes. -/
def ofNode? : Node → Option Configuration
  | .map entries => do
    let entries ← textEntries? entries
    return {
      restrictScheme := ← fieldOr? entries "restrictScheme" false Node.truth?
      internetFacingIngresses := ← fieldOr? entries "internetFacingIngresses" ∅ allowList?
      albNamePrefix := ← fieldOr? entries "albNamePrefix" "k8s" Node.text?
      clusterName := ← fieldOr? entries "clusterName" none absentOrText? }
  | node => if node.isBlank then some {} else none

/-- The configuration that a text describes. -/
def ofText? (text : String) : Option Configuration :=
  match Yaml.read? text with
  | some (.document node) => ofNode? node
  | some .void => some {}
  | none => none

end IngressConvergence.Configuration
