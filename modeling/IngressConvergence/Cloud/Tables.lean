import IngressConvergence.Cloud.Call
import IngressConvergence.CloudError
import IngressConvergence.LoadBalancer.Description

/-!
# The tables of the cloud

The cloud keeps load balancers with their attributes and associations, and an inventory of firewall
policies, security groups and subnets.  `CloudTables.perform` says what each call answers and how it
changes the tables; a call that fails has no changed tables to give.
-/

namespace IngressConvergence

/-- All that the cloud keeps. -/
structure CloudTables where
  region : String
  loadBalancers : Table LoadBalancer
  /-- Attributes of load balancers by the handles of these. -/
  attributes : Table (Table String)
  /-- The firewall policies that are associated with load balancers, by the handles of these. -/
  associations : Table String
  webAcls : List String
  securityGroups : List SecurityGroup
  /-- Identifiers of subnets by the names of these. -/
  namedSubnets : Table String
  clusterSubnets : Scheme → List String
  /-- How many load balancers were built; the next one gets the next number. -/
  built : Nat

namespace CloudTables

/-- The cloud of a region, in which there is nothing yet. -/
def empty (region : String) : CloudTables where
  region := region
  loadBalancers := ∅
  attributes := ∅
  associations := ∅
  webAcls := []
  securityGroups := []
  namedSubnets := ∅
  clusterSubnets := fun _ => []
  built := 0

/-! ## Reading -/

/-- The load balancer with a name, if there is one. -/
def findByName (tables : CloudTables) (name : String) : Option LoadBalancer :=
  tables.loadBalancers.values.find? (·.name = name)

/-- The attributes of a load balancer; without an entry it has none. -/
def attributesOf (tables : CloudTables) (arn : String) : Table String :=
  (tables.attributes.lookup arn).getD ∅

/-- The firewall policy that is associated with a load balancer. -/
def associationOf (tables : CloudTables) (arn : String) : Option String :=
  tables.associations.lookup arn

/-- The security groups that carry one of some names, in the order of the inventory. -/
def securityGroupsNamed (tables : CloudTables) (names : List String) : List SecurityGroup :=
  tables.securityGroups.filter fun group => names.contains group.groupName

/-- The subnets of some names, in the order of the names; unknown names are left out. -/
def subnetsNamed (tables : CloudTables) (names : List String) : List String :=
  names.filterMap tables.namedSubnets.lookup

/-! ## Filling the inventory -/

/-- Build a load balancer and store it under its handle.  Its number takes the place of the random
identifier that a cloud would draw: what is used of either is that no handle comes twice, and where a
statement needs that, it says so of the handles and not of the numbers. -/
def build (tables : CloudTables) (name : String) (scheme : Scheme)
    (ipAddressType : IpAddressType) (subnets : List String) : LoadBalancer × CloudTables :=
  let balancer :=
    LoadBalancer.describe tables.region (tables.built + 1) name scheme ipAddressType subnets
  (balancer, { tables with
    loadBalancers := tables.loadBalancers.insert balancer.arn balancer
    built := tables.built + 1 })

/-- Store a load balancer under its handle. -/
def addLoadBalancer (tables : CloudTables) (balancer : LoadBalancer) : CloudTables :=
  { tables with loadBalancers := tables.loadBalancers.insert balancer.arn balancer }

/-- Replace the attributes of a load balancer. -/
def setAttributes (tables : CloudTables) (arn : String) (attributes : Table String) :
    CloudTables :=
  { tables with attributes := tables.attributes.insert arn attributes }

/-- Register a firewall policy, unless it is registered already. -/
def addWebAcl (tables : CloudTables) (webAclId : String) : CloudTables :=
  { tables with
    webAcls :=
      if tables.webAcls.contains webAclId then tables.webAcls else webAclId :: tables.webAcls }

/-- Register a firewall policy and associate it with a load balancer. -/
def setAssociation (tables : CloudTables) (arn webAclId : String) : CloudTables :=
  { tables.addWebAcl webAclId with associations := tables.associations.insert arn webAclId }

/-- Put a security group at the end of the inventory. -/
def addSecurityGroup (tables : CloudTables) (group : SecurityGroup) : CloudTables :=
  { tables with securityGroups := tables.securityGroups ++ [group] }

/-- Register a subnet under a name. -/
def addNamedSubnet (tables : CloudTables) (name subnetId : String) : CloudTables :=
  { tables with namedSubnets := tables.namedSubnets.insert name subnetId }

/-- Set the subnets that the cluster sets aside for a scheme. -/
def setClusterSubnets (tables : CloudTables) (scheme : Scheme) (subnets : List String) :
    CloudTables :=
  { tables with
    clusterSubnets := fun other =>
      if other = scheme then subnets else tables.clusterSubnets other }

/-! ## Calls -/

/-- The failure of a call on a load balancer that does not exist. -/
def noLoadBalancer (arn : String) : CloudError :=
  .notFound s!"load balancer {arn} not found"

/-- Change a load balancer that has to exist. -/
def changeLoadBalancer (tables : CloudTables) (arn : String)
    (change : LoadBalancer → LoadBalancer) : Except CloudError CloudTables :=
  match tables.loadBalancers.lookup arn with
  | some balancer =>
    .ok { tables with loadBalancers := tables.loadBalancers.insert arn (change balancer) }
  | none => .error (noLoadBalancer arn)

/-- Create a load balancer, which needs a subnet and a name that is not taken. -/
def create (tables : CloudTables) (request : CreateRequest) :
    Except CloudError (LoadBalancer × CloudTables) :=
  if request.subnets.isEmpty then
    .error (.invalidRequest "at least one subnet must be specified")
  else if (tables.findByName request.name).isSome then
    .error (.api "CreateLoadBalancer"
      ("a load balancer with the name '" ++ request.name ++ "' already exists"))
  else
    .ok (tables.build request.name request.scheme request.ipAddressType request.subnets)

/-- Delete a load balancer with its attributes and its association; there need not be one. -/
def delete (tables : CloudTables) (arn : String) : CloudTables :=
  { tables with
    loadBalancers := tables.loadBalancers.erase arn
    attributes := tables.attributes.erase arn
    associations := tables.associations.erase arn }

/-- Add attributes to those of a load balancer, which has to exist. -/
def modifyAttributes (tables : CloudTables) (arn : String) (attributes : Table String) :
    Except CloudError CloudTables :=
  if tables.loadBalancers.contains arn then
    .ok (tables.setAttributes arn ((tables.attributesOf arn).overlay attributes))
  else .error (noLoadBalancer arn)

/-- Associate a firewall policy, which has to exist. -/
def associate (tables : CloudTables) (arn webAclId : String) : Except CloudError CloudTables :=
  if tables.webAcls.contains webAclId then
    .ok { tables with associations := tables.associations.insert arn webAclId }
  else .error (.notFound s!"web acl {webAclId} not found")

/-- The subnets that the cluster sets aside for a scheme; there has to be one. -/
def clusterSubnetsFor (tables : CloudTables) (scheme : Scheme) :
    Except CloudError (List String) :=
  match tables.clusterSubnets scheme with
  | [] =>
    .error (.notFound ("no cluster subnets tagged for " ++ scheme.label ++ " load balancers"))
  | subnets => .ok subnets

/-- What a call answers, and the tables after it.  A call that fails gives no tables, because it leaves
them as they are: every operation checks all that it needs before it writes, and writes nothing that
could still be refused. -/
def perform (tables : CloudTables) :
    (call : CloudCall) → Except CloudError (call.Answer × CloudTables)
  | .findLoadBalancer name => .ok (tables.findByName name, tables)
  | .createLoadBalancer request => tables.create request
  | .deleteLoadBalancer arn => .ok ((), tables.delete arn)
  | .setIpAddressType arn ipAddressType =>
    (tables.changeLoadBalancer arn ({ · with ipAddressType })).map fun after => ((), after)
  | .setSubnets arn subnets =>
    (tables.changeLoadBalancer arn
      ({ · with zones := LoadBalancer.zonesOf tables.region subnets })).map fun after => ((), after)
  | .readAttributes arn =>
    if tables.loadBalancers.contains arn then .ok (tables.attributesOf arn, tables)
    else .error (noLoadBalancer arn)
  | .modifyAttributes arn attributes =>
    (tables.modifyAttributes arn attributes).map fun after => ((), after)
  | .readWebAcl arn =>
    .ok ((tables.associationOf arn).map fun webAclId => ⟨webAclId, none⟩, tables)
  | .checkWebAcl webAclId => .ok (tables.webAcls.contains webAclId, tables)
  | .associateWebAcl arn webAclId =>
    (tables.associate arn webAclId).map fun after => ((), after)
  | .disassociateWebAcl arn =>
    .ok ((), { tables with associations := tables.associations.erase arn })
  | .findSecurityGroups names => .ok (tables.securityGroupsNamed names, tables)
  | .findSubnets names => .ok (tables.subnetsNamed names, tables)
  | .findClusterSubnets scheme =>
    (tables.clusterSubnetsFor scheme).map fun subnets => (subnets, tables)

end CloudTables

end IngressConvergence
