import IngressConvergence.Naming
import IngressConvergence.Program
import IngressConvergence.Reference

/-!
# The desired state of a load balancer

The desired state is computed anew in every cycle from the annotations, the naming policy and what
the cloud knows of subnets.  Its subnets are sorted and none comes twice, so that the order and the
form in which they are annotated make no difference.  Whether the state is allowed is decided by the
configuration alone.
-/

namespace IngressConvergence

/-- The load balancer that an ingress should have. -/
structure DesiredState where
  name : String
  tags : Table String
  kind : LoadBalancerKind := .application
  scheme : Scheme
  ipAddressType : IpAddressType
  subnets : List String
deriving DecidableEq

namespace DesiredState

/-- What the cloud is asked to create for a desired state. -/
def createRequest (desired : DesiredState) : CreateRequest where
  name := desired.name
  kind := desired.kind
  scheme := desired.scheme
  ipAddressType := desired.ipAddressType
  subnets := desired.subnets
  tags := desired.tags

/-- Tags of the policy under those of the annotations, which win. -/
def mergeTags (generated overrides : Table String) : Table String :=
  generated.overlay overrides

/-! ## Resolving references -/

/-- The security groups that an ingress annotates, by identifier. -/
def resolveSecurityGroups (items : List String) : Attempt ControllerError (List String) :=
  ExceptT.mk <| Reference.resolve .securityGroup items fun names =>
    (Attempt.cloud (.findSecurityGroups names) id).run.bind fun reply =>
      .done (reply.map fun groups =>
        (groups : List SecurityGroup).map fun group => ⟨group.groupId, some group.groupName⟩)

/-- The subnets that an ingress annotates, by identifier, as they are resolved. -/
def resolveAnnotatedSubnets (items : List String) : Attempt ControllerError (List String) :=
  ExceptT.mk <| Reference.resolve .subnet items fun names =>
    (Attempt.cloud (.findSubnets names) id).run.bind fun reply =>
      .done (reply.map fun ids => (ids : List String).map fun id => ⟨id, none⟩)

/-- The subnets of a load balancer in increasing order: those annotated or, where none is, those
that the cluster sets aside for the scheme. -/
def resolveSubnets (items : List String) (scheme : Scheme) :
    Attempt ControllerError (List String) := do
  let subnets ←
    if items.isEmpty then Attempt.cloud (.findClusterSubnets scheme) (.referenceLookup .subnet)
    else resolveAnnotatedSubnets items
  return (subnets : List String).mergeSort

/-! ## Building and validating -/

/-- The desired state of an ingress whose subnets are known, in increasing order. -/
def ofSubnets (policy : NamingPolicy) (key : IngressKey) (annotations : IngressAnnotations)
    (subnets : List String) : DesiredState where
  name := policy.loadBalancerName key
  tags := mergeTags (policy.loadBalancerTags key) annotations.tags.loadBalancer
  scheme := annotations.loadBalancer.scheme
  ipAddressType := annotations.loadBalancer.ipAddressType.getD .ipv4
  subnets := subnets.eraseReps

/-- Build the desired state of an ingress, for which its subnets have to be resolved. -/
def build (policy : NamingPolicy) (key : IngressKey) (annotations : IngressAnnotations) :
    Attempt ControllerError DesiredState := do
  let subnets ←
    (resolveSubnets annotations.loadBalancer.subnets annotations.loadBalancer.scheme).mapFailure
      (.configBuild key.text)
  return ofSubnets policy key annotations subnets

/-- Whether a configuration allows the desired state of an ingress: when schemes are restricted,
only ingresses on the allow-list may face the internet. -/
def isAllowed (configuration : Configuration) (key : IngressKey) (desired : DesiredState) : Bool :=
  !(configuration.restrictScheme && desired.scheme = .internetFacing && !configuration.allows key)

/-- The error of an ingress that may not face the internet. -/
def notAllowed (key : IngressKey) : ControllerError :=
  .policyViolation key.text ("ingress " ++ key.text ++ " is not in internetFacing whitelist")

/-- Refuse a desired state that the configuration does not allow. -/
def validate (configuration : Configuration) (key : IngressKey) (desired : DesiredState) :
    Except ControllerError Unit :=
  if isAllowed configuration key desired then .ok () else .error (notAllowed key)

end DesiredState

end IngressConvergence
