import IngressConvergence.LoadBalancer.Basic

/-!
# Calls to the cloud

The controller reads and changes the cloud by fourteen kinds of calls.  A call carries its
arguments; its answer depends on its kind.
-/

namespace IngressConvergence

/-- A call to the cloud, with its arguments. -/
inductive CloudCall where
  | findLoadBalancer (name : String)
  | createLoadBalancer (request : CreateRequest)
  | deleteLoadBalancer (arn : String)
  | setIpAddressType (arn : String) (ipAddressType : IpAddressType)
  | setSubnets (arn : String) (subnets : List String)
  | readAttributes (arn : String)
  | modifyAttributes (arn : String) (attributes : Table String)
  /-- The firewall policy that is associated with a load balancer. -/
  | readWebAcl (arn : String)
  | checkWebAcl (webAclId : String)
  | associateWebAcl (arn webAclId : String)
  | disassociateWebAcl (arn : String)
  /-- The security groups that carry one of some names. -/
  | findSecurityGroups (names : List String)
  | findSubnets (names : List String)
  /-- The subnets that the cluster sets aside for a scheme. -/
  | findClusterSubnets (scheme : Scheme)
deriving DecidableEq

namespace CloudCall

/-- What the cloud answers to a call that succeeds. -/
def Answer : CloudCall → Type
  | .findLoadBalancer _ => Option LoadBalancer
  | .createLoadBalancer _ => LoadBalancer
  | .deleteLoadBalancer _ => Unit
  | .setIpAddressType _ _ => Unit
  | .setSubnets _ _ => Unit
  | .readAttributes _ => Table String
  | .modifyAttributes _ _ => Unit
  | .readWebAcl _ => Option WebAclSummary
  | .checkWebAcl _ => Bool
  | .associateWebAcl _ _ => Unit
  | .disassociateWebAcl _ => Unit
  | .findSecurityGroups _ => List SecurityGroup
  | .findSubnets _ => List String
  | .findClusterSubnets _ => List String

/-- The operation of the service that a call uses. -/
def operation : CloudCall → String
  | .findLoadBalancer _ => "DescribeLoadBalancers"
  | .createLoadBalancer _ => "CreateLoadBalancer"
  | .deleteLoadBalancer _ => "DeleteLoadBalancer"
  | .setIpAddressType _ _ => "SetIpAddressType"
  | .setSubnets _ _ => "SetSubnets"
  | .readAttributes _ => "DescribeLoadBalancerAttributes"
  | .modifyAttributes _ _ => "ModifyLoadBalancerAttributes"
  | .readWebAcl _ => "GetWebACLForResource"
  | .checkWebAcl _ => "GetWebACL"
  | .associateWebAcl _ _ => "AssociateWebACL"
  | .disassociateWebAcl _ => "DisassociateWebACL"
  | .findSecurityGroups _ => "DescribeSecurityGroups"
  | .findSubnets _ => "DescribeSubnets"
  | .findClusterSubnets _ => "DescribeClusterSubnets"

/-- Whether a call is one of those that change the cloud. -/
def isMutating : CloudCall → Bool
  | .createLoadBalancer _ => true
  | .deleteLoadBalancer _ => true
  | .setIpAddressType _ _ => true
  | .setSubnets _ _ => true
  | .modifyAttributes _ _ => true
  | .associateWebAcl _ _ => true
  | .disassociateWebAcl _ => true
  | _ => false

end CloudCall

end IngressConvergence
