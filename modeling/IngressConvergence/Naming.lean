import IngressConvergence.Configuration.Basic
import IngressConvergence.Digest

/-!
# Names and tags of load balancers

The name of a load balancer is a function of the key of its ingress: it is the only handle by which
the load balancer is found again.  A name consists of the start that the configuration sets, the
namespace and the name of the ingress, cut to twenty-six characters, and four digits of a digest of
the uncut key.
-/

namespace IngressConvergence

/-- How load balancers are named and tagged. -/
structure NamingPolicy where
  namePrefix : String
  clusterName : Option String
deriving DecidableEq, Repr

namespace NamingPolicy

/-- The policy that a configuration sets. -/
def ofConfiguration (configuration : Configuration) : NamingPolicy :=
  ⟨configuration.albNamePrefix, configuration.clusterName⟩

/-- Names are cut to this many characters before the digest is added. -/
def longestBody : Nat := 26

/-- Whether a character may stand in the name of a load balancer; only ASCII characters may. -/
def isNameCharacter (character : Char) : Bool :=
  character.isAlphanum

/-- The characters of a text that may stand in a name. -/
def kept (text : String) : List Char :=
  text.toList.filter isNameCharacter

/-- The characters of a text, with a hyphen in place of each that may not stand in a name. -/
def hyphenated (text : String) : List Char :=
  text.toList.map fun character => if isNameCharacter character then character else '-'

/-- The name before it is cut: its start, the namespace and the name, with hyphens between them. -/
def uncutBody (policy : NamingPolicy) (key : IngressKey) : List Char :=
  hyphenated policy.namePrefix ++ '-' :: (kept key.namespaceName ++ '-' :: kept key.name)

/-- The text of which a name carries a digest: namespace and name, with nothing between them. -/
def digestSource (key : IngressKey) : String :=
  key.namespaceName ++ key.name

/-- The four digits of a digest with which a name ends. -/
def digestDigits (key : IngressKey) : List Char :=
  (Digest.ofText (digestSource key)).take 4

/-- The name of the load balancer of an ingress. -/
def loadBalancerName (policy : NamingPolicy) (key : IngressKey) : String :=
  String.ofList ((policy.uncutBody key).take longestBody ++ '-' :: digestDigits key)

/-- The tag with the namespace of the ingress. -/
def namespaceTag : String := "kubernetes.io/namespace"

/-- The tag with the name of the ingress. -/
def nameTag : String := "kubernetes.io/ingress-name"

/-- The tag by which a cluster owns a load balancer. -/
def clusterTag (clusterName : String) : String :=
  "kubernetes.io/cluster/" ++ clusterName

/-- The tags that the load balancer of an ingress always carries. -/
def loadBalancerTags (policy : NamingPolicy) (key : IngressKey) : Table String :=
  let identity := Table.ofList [(namespaceTag, key.namespaceName), (nameTag, key.name)]
  match policy.clusterName with
  | some clusterName => identity.insert (clusterTag clusterName) "owned"
  | none => identity

end NamingPolicy

end IngressConvergence
