/-!
# Ingresses and their keys

An ingress is known by its namespace and its name.  Keys are ordered by namespace and then by name,
each by code points, and are written `namespace/name`.
-/

namespace IngressConvergence

/-- What is known of an ingress: its namespace and its name, either of which may be absent. -/
structure Ingress where
  namespaceName? : Option String
  name? : Option String
deriving DecidableEq, Repr

/-- The namespace and the name that identify an ingress. -/
structure IngressKey where
  namespaceName : String
  name : String
deriving DecidableEq, Repr

namespace IngressKey

/-- The namespace of an ingress that names none. -/
def defaultNamespace : String := "default"

/-- The key of an ingress; there is none without a name. -/
def ofIngress? (ingress : Ingress) : Option IngressKey :=
  ingress.name?.map fun name => ⟨ingress.namespaceName?.getD defaultNamespace, name⟩

/-- A key as it is written. -/
def text (key : IngressKey) : String :=
  key.namespaceName ++ "/" ++ key.name

/-- Whether a key comes no later than another. -/
def notAfter (left right : IngressKey) : Bool :=
  left.namespaceName < right.namespaceName ||
    (left.namespaceName = right.namespaceName && left.name ≤ right.name)

/-- Keys in their order. -/
def sorted (keys : List IngressKey) : List IngressKey :=
  keys.mergeSort notAfter

end IngressKey

end IngressConvergence
