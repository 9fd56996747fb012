import IngressConvergence.Table
import IngressConvergence.Timestamp

/-!
# Load balancers

A load balancer is attached to one subnet in each of its zones.  Its scheme is fixed when it is
created; its address type, subnets and attributes may change.  This module also holds what stands
around it in the cloud: the request that creates one, firewall policies and security groups.
-/

namespace IngressConvergence

/-! ## Schemes, address types and kinds -/

/-- From where a load balancer can be reached. -/
inductive Scheme where
  | internal
  | internetFacing
deriving DecidableEq, Repr

namespace Scheme

instance : Inhabited Scheme := ⟨.internal⟩

/-- The scheme as annotations and messages spell it. -/
def label : Scheme → String
  | .internal => "internal"
  | .internetFacing => "internet-facing"

/-- The scheme that a word names. -/
def ofLabel? (label : String) : Option Scheme :=
  if label = "internal" then some .internal
  else if label = "internet-facing" then some .internetFacing
  else none

@[simp]
theorem ofLabel?_label (scheme : Scheme) : ofLabel? scheme.label = some scheme := by
  cases scheme <;> rfl

end Scheme

/-- Which addresses a load balancer has. -/
inductive IpAddressType where
  | ipv4
  | dualstack
deriving DecidableEq, Repr

namespace IpAddressType

instance : Inhabited IpAddressType := ⟨.ipv4⟩

/-- The address type as annotations and messages spell it. -/
def label : IpAddressType → String
  | .ipv4 => "ipv4"
  | .dualstack => "dualstack"

/-- The address type that a word names. -/
def ofLabel? (label : String) : Option IpAddressType :=
  if label = "ipv4" then some .ipv4
  else if label = "dualstack" then some .dualstack
  else none

@[simp]
theorem ofLabel?_label (addressType : IpAddressType) :
    ofLabel? addressType.label = some addressType := by
  cases addressType <;> rfl

end IpAddressType

/-- The kind of a load balancer; only those that understand requests are managed here. -/
inductive LoadBalancerKind where
  | application
deriving DecidableEq, Repr

namespace LoadBalancerKind

/-- The kind as it is spelled. -/
def label : LoadBalancerKind → String
  | .application => "application"

/-- The kind that a word names. -/
def ofLabel? (label : String) : Option LoadBalancerKind :=
  if label = "application" then some .application else none

@[simp]
theorem ofLabel?_label (kind : LoadBalancerKind) : ofLabel? kind.label = some kind := by
  cases kind; rfl

end LoadBalancerKind

/-! ## Load balancers -/

/-- One zone of a load balancer and the subnet that it is attached to there. -/
structure AvailabilityZone where
  zoneName : String
  subnetId : String
deriving DecidableEq, Repr

/-- A load balancer as the cloud describes it. -/
structure LoadBalancer where
  arn : String
  name : String
  dnsName : String
  kind : LoadBalancerKind
  scheme : Scheme
  ipAddressType : IpAddressType
  zones : List AvailabilityZone
  createdTime : Option Timestamp
deriving DecidableEq, Repr

namespace LoadBalancer

/-- The subnets of a load balancer, in the order of its zones. -/
def subnets (balancer : LoadBalancer) : List String :=
  balancer.zones.map (·.subnetId)

end LoadBalancer

/-- What the cloud is asked to create. -/
structure CreateRequest where
  name : String
  kind : LoadBalancerKind
  scheme : Scheme
  ipAddressType : IpAddressType
  subnets : List String
  tags : Table String
deriving DecidableEq

/-! ## Around a load balancer -/

/-- The firewall policy that is associated with a load balancer. -/
structure WebAclSummary where
  webAclId : String
  name : Option String
deriving DecidableEq, Repr

/-- A security group of the network. -/
structure SecurityGroup where
  groupId : String
  groupName : String
deriving DecidableEq, Repr

end IngressConvergence
