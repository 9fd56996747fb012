import IngressConvergence.Configuration.Basic
import IngressConvergence.Text.Blank
import IngressConvergence.Text.Pieces

/-!
# The configuration from environment variables

Four variables make up a configuration.  A variable that is not set leaves the default.  Blanks
around a switch, around the pieces of the allow-list and around the start of names are dropped; the
name of the cluster is kept as it is, unless it is blank altogether.
-/

namespace IngressConvergence.Configuration

/-- A variable whose value cannot be used. -/
structure EnvironmentError where
  name : String
  reason : String
deriving DecidableEq, Repr

/-- The line in which it is told that a variable cannot be used. -/
def EnvironmentError.message (error : EnvironmentError) : String :=
  s!"Invalid value for {error.name}: {error.reason}"

/-- A set of variables, by name. -/
abbrev Environment := String → Option String

/-- The variable that restricts internet-facing load balancers. -/
def restrictVariable : String := "ALB_RESTRICT_SCHEME"

/-- The variable with the allow-list. -/
def allowListVariable : String := "ALB_INTERNET_FACING_INGRESSES"

/-- The variable with the start of names. -/
def namePrefixVariable : String := "ALB_NAME_PREFIX"

/-- The variable with the name of the cluster. -/
def clusterVariable : String := "CLUSTER_NAME"

/-- A switch is the word `true` or the word `false`. -/
def readSwitch (value : String) : Except EnvironmentError Bool :=
  let word := Text.trim value
  if word = "true" then .ok true
  else if word = "false" then .ok false
  else .error ⟨restrictVariable, s!"expected true or false, got '{value}'"⟩

/-- The pieces of an allow-list: what stands between commas, trimmed, without the empty ones. -/
def allowListPieces (value : String) : List String :=
  ((Text.pieces ',' value).map Text.trim).filter (· ≠ "")

/-- A piece of an allow-list is a namespace and a name around its first slash, neither empty. -/
def readAllowed (piece : String) : Except EnvironmentError (String × String) :=
  match Text.halves '/' piece with
  | some (namespaceName, name) =>
    if namespaceName = "" ∨ name = "" then
      .error ⟨allowListVariable, s!"expected namespace/name, got '{piece}'"⟩
    else .ok (namespaceName, name)
  | none => .error ⟨allowListVariable, s!"expected namespace/name, got '{piece}'"⟩

/-- Put the pieces of an allow-list on it one after the other. -/
def allowPieces (configuration : Configuration) :
    List String → Except EnvironmentError Configuration
  | [] => .ok configuration
  | piece :: rest =>
    match readAllowed piece with
    | .ok (namespaceName, name) => allowPieces (configuration.allow namespaceName name) rest
    | .error error => .error error

/-- Whether schemes are restricted; they are not where the variable is not set. -/
def environmentSwitch (environment : Environment) : Except EnvironmentError Bool :=
  match environment restrictVariable with
  | some value => readSwitch value
  | none => .ok false

/-- The start of names: the trimmed value, or the default where that is empty. -/
def environmentNamePrefix (environment : Environment) : String :=
  match environment namePrefixVariable with
  | some value => if Text.trim value = "" then "k8s" else Text.trim value
  | none => "k8s"

/-- The cluster: the value as it is, or none where it is blank. -/
def environmentCluster (environment : Environment) : Option String :=
  (environment clusterVariable).filter fun value => Text.trim value ≠ ""

/-- The configuration that the variables describe. -/
def ofEnvironment (environment : Environment) : Except EnvironmentError Configuration := do
  let restrictScheme ← environmentSwitch environment
  let allowed ← allowPieces {} (((environment allowListVariable).map allowListPieces).getD [])
  return {
    restrictScheme
    internetFacingIngresses := allowed.internetFacingIngresses
    albNamePrefix := environmentNamePrefix environment
    clusterName := environmentCluster environment }

end IngressConvergence.Configuration
