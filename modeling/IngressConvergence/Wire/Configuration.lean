import IngressConvergence.Configuration.Basic
import IngressConvergence.Wire.Document

/-!
# Keys and configurations as documents

How the key of an ingress and the configuration of the controller are written and read.
-/

namespace IngressConvergence

namespace IngressKey

/-- Write the key of an ingress. -/
def toDocument (key : IngressKey) : Document :=
  .record [("namespace", .text key.namespaceName), ("name", .text key.name)]

/-- Read the key of an ingress. -/
def ofDocument? (document : Document) : Option IngressKey := do
  let field ← document.fields? ["namespace", "name"]
  return {
    namespaceName := ← Document.required? Document.text? (field "namespace")
    name := ← Document.required? Document.text? (field "name") }

end IngressKey

namespace Configuration

/-- Write a configuration; a cluster that is not named is left out. -/
def toDocument (configuration : Configuration) : Document :=
  .record ([
    ("restrictScheme", .truth configuration.restrictScheme),
    ("internetFacingIngresses", .ofTable .ofTexts configuration.internetFacingIngresses),
    ("albNamePrefix", .text configuration.albNamePrefix)] ++
    Document.field? "clusterName" .text configuration.clusterName)

/-- Read a configuration, every field of which has a default. -/
def ofDocument? (document : Document) : Option Configuration := do
  let field ← document.fields? ["restrictScheme", "internetFacingIngresses", "albNamePrefix",
    "clusterName"]
  return {
    restrictScheme := ← Document.withDefault? Document.truth? false (field "restrictScheme")
    internetFacingIngresses :=
      ← Document.withDefault? (Document.tableOf? (Document.listOf? Document.text?)) ∅
        (field "internetFacingIngresses")
    albNamePrefix := ← Document.withDefault? Document.text? "k8s" (field "albNamePrefix")
    clusterName := ← Document.optional? Document.text? (field "clusterName") }

end Configuration

end IngressConvergence
