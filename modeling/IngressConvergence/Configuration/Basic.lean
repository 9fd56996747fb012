import IngressConvergence.IngressKey
import IngressConvergence.Table

/-!
# The configuration of the controller

The configuration says whether internet-facing load balancers are restricted to an allow-list, and
how load balancers are named and owned.
-/

namespace IngressConvergence

/-- The settings that hold for every ingress. -/
structure Configuration where
  /-- Whether only ingresses on the allow-list may face the internet. -/
  restrictScheme : Bool := false
  /-- The allow-list: for each namespace the names of its ingresses. -/
  internetFacingIngresses : Table (List String) := ∅
  /-- The start of the names of load balancers. -/
  albNamePrefix : String := "k8s"
  /-- The cluster that owns the load balancers. -/
  clusterName : Option String := none
deriving DecidableEq

namespace Configuration

/-- Whether an ingress is on the allow-list. -/
def allows (configuration : Configuration) (key : IngressKey) : Bool :=
  match configuration.internetFacingIngresses.lookup key.namespaceName with
  | some names => names.contains key.name
  | none => false

/-- The name of an ingress is listed under its own namespace. -/
def HasListed (configuration : Configuration) (key : IngressKey) : Prop :=
  ∃ names, configuration.internetFacingIngresses.lookup key.namespaceName = some names ∧
    key.name ∈ names

theorem allows_iff {configuration : Configuration} {key : IngressKey} :
    configuration.allows key = true ↔ configuration.HasListed key := by
  rw [allows, HasListed]
  cases configuration.internetFacingIngresses.lookup key.namespaceName with
  | none => simp
  | some names => simp

instance (configuration : Configuration) (key : IngressKey) :
    Decidable (configuration.HasListed key) :=
  decidable_of_iff _ allows_iff

/-- Put an ingress at the end of the allow-list of its namespace. -/
def allow (configuration : Configuration) (namespaceName name : String) : Configuration :=
  let names := (configuration.internetFacingIngresses.lookup namespaceName).getD []
  { configuration with
    internetFacingIngresses :=
      configuration.internetFacingIngresses.insert namespaceName (names ++ [name]) }

end Configuration

end IngressConvergence
