import IngressConvergence.LoadBalancer.Basic

/-!
# Annotations

What an ingress asks for, already read into values: how its load balancer is placed and protected,
on which ports it listens, and which tags and attributes it carries.
-/

namespace IngressConvergence

/-- The protocol of a listener. -/
inductive ListenProtocol where
  | http
  | https
deriving DecidableEq, Repr

namespace ListenProtocol

/-- The protocol as annotations spell it. -/
def label : ListenProtocol → String
  | .http => "HTTP"
  | .https => "HTTPS"

/-- The protocol that a word names. -/
def ofLabel? (label : String) : Option ListenProtocol :=
  if label = "HTTP" then some .http
  else if label = "HTTPS" then some .https
  else none

@[simp]
theorem ofLabel?_label (protocol : ListenProtocol) : ofLabel? protocol.label = some protocol := by
  cases protocol <;> rfl

end ListenProtocol

/-- A port on which the load balancer listens. -/
structure ListenPort where
  protocol : ListenProtocol := .http
  port : UInt16
deriving DecidableEq, Repr

/-- What an ingress asks of its load balancer. -/
structure LoadBalancerAnnotations where
  scheme : Scheme := .internal
  /-- The address type; without one it is `ipv4`. -/
  ipAddressType : Option IpAddressType := none
  /-- Subnets by identifier or by name; without any those of the cluster are used. -/
  subnets : List String := []
  /-- Security groups by identifier or by name. -/
  securityGroups : List String := []
  ports : List ListenPort := []
  inboundCidrs : List String := []
  /-- The firewall policy to associate; without one none is associated. -/
  webAclId : Option String := none
  attributes : Table String := ∅
deriving DecidableEq

namespace LoadBalancerAnnotations

/-- The numbers of the ports, in the order in which they are annotated. -/
def portNumbers (annotations : LoadBalancerAnnotations) : List UInt16 :=
  annotations.ports.map (·.port)

end LoadBalancerAnnotations

/-- Tags that an ingress adds to those of the policy. -/
structure TagAnnotations where
  loadBalancer : Table String := ∅
deriving DecidableEq

/-- The annotations of an ingress. -/
structure IngressAnnotations where
  loadBalancer : LoadBalancerAnnotations := {}
  tags : TagAnnotations := {}
deriving DecidableEq

end IngressConvergence
