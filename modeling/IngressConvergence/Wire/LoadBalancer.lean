import IngressConvergence.LoadBalancer.Basic
import IngressConvergence.Wire.Document

/-!
# Load balancers as documents

How load balancers, requests to create them, and what stands around them are written and read.
-/

namespace IngressConvergence

namespace Scheme

/-- A scheme is written as its word. -/
def toDocument (scheme : Scheme) : Document := .text scheme.label

/-- Read the word of a scheme. -/
def ofDocument? : Document → Option Scheme := Document.choice? ofLabel?

end Scheme

namespace IpAddressType

/-- An address type is written as its word. -/
def toDocument (addressType : IpAddressType) : Document := .text addressType.label

/-- Read the word of an address type. -/
def ofDocument? : Document → Option IpAddressType := Document.choice? ofLabel?

end IpAddressType

namespace LoadBalancerKind

/-- A kind is written as its word. -/
def toDocument (kind : LoadBalancerKind) : Document := .text kind.label

/-- Read the word of a kind. -/
def ofDocument? : Document → Option LoadBalancerKind := Document.choice? ofLabel?

end LoadBalancerKind

namespace Timestamp

/-- A point in time is written as its text. -/
def toDocument (time : Timestamp) : Document := .text time.text

/-- Read the text of a point in time. -/
def ofDocument? (document : Document) : Option Timestamp := document.text?.bind ofText?

end Timestamp

namespace AvailabilityZone

/-- Write a zone with the subnet there. -/
def toDocument (zone : AvailabilityZone) : Document :=
  .record [("zoneName", .text zone.zoneName), ("subnetId", .text zone.subnetId)]

/-- Read a zone with the subnet there. -/
def ofDocument? (document : Document) : Option AvailabilityZone := do
  let field ← document.fields? ["zoneName", "subnetId"]
  return {
    zoneName := ← Document.required? Document.text? (field "zoneName")
    subnetId := ← Document.required? Document.text? (field "subnetId") }

end AvailabilityZone

namespace LoadBalancer

/-- Write a load balancer; a time of creation that is not known is left out. -/
def toDocument (balancer : LoadBalancer) : Document :=
  .record ([
    ("arn", .text balancer.arn),
    ("name", .text balancer.name),
    ("dnsName", .text balancer.dnsName),
    ("type", balancer.kind.toDocument),
    ("scheme", balancer.scheme.toDocument),
    ("ipAddressType", balancer.ipAddressType.toDocument),
    ("availabilityZones", .list (balancer.zones.map AvailabilityZone.toDocument))] ++
    Document.field? "createdTime" Timestamp.toDocument balancer.createdTime)

/-- Read a load balancer. -/
def ofDocument? (document : Document) : Option LoadBalancer := do
  let field ← document.fields? ["arn", "name", "dnsName", "type", "scheme", "ipAddressType",
    "availabilityZones", "createdTime"]
  return {
    arn := ← Document.required? Document.text? (field "arn")
    name := ← Document.required? Document.text? (field "name")
    dnsName := ← Document.required? Document.text? (field "dnsName")
    kind := ← Document.required? LoadBalancerKind.ofDocument? (field "type")
    scheme := ← Document.required? Scheme.ofDocument? (field "scheme")
    ipAddressType := ← Document.required? IpAddressType.ofDocument? (field "ipAddressType")
    zones := ← Document.required? (Document.listOf? AvailabilityZone.ofDocument?)
      (field "availabilityZones")
    createdTime := ← Document.optional? Timestamp.ofDocument? (field "createdTime") }

end LoadBalancer

namespace CreateRequest

/-- Write what the cloud is asked to create. -/
def toDocument (request : CreateRequest) : Document :=
  .record [
    ("name", .text request.name),
    ("type", request.kind.toDocument),
    ("scheme", request.scheme.toDocument),
    ("ipAddressType", request.ipAddressType.toDocument),
    ("subnets", .ofTexts request.subnets),
    ("tags", .ofTable .text request.tags)]

/-- Read what the cloud is asked to create; tags may be missing. -/
def ofDocument? (document : Document) : Option CreateRequest := do
  let field ← document.fields? ["name", "type", "scheme", "ipAddressType", "subnets", "tags"]
  return {
    name := ← Document.required? Document.text? (field "name")
    kind := ← Document.required? LoadBalancerKind.ofDocument? (field "type")
    scheme := ← Document.required? Scheme.ofDocument? (field "scheme")
    ipAddressType := ← Document.required? IpAddressType.ofDocument? (field "ipAddressType")
    subnets := ← Document.required? (Document.listOf? Document.text?) (field "subnets")
    tags := ← Document.withDefault? (Document.tableOf? Document.text?) ∅ (field "tags") }

end CreateRequest

namespace WebAclSummary

/-- Write an associated firewall policy; a name that is not known is left out. -/
def toDocument (summary : WebAclSummary) : Document :=
  .record ([("webAclId", .text summary.webAclId)] ++ Document.field? "name" .text summary.name)

/-- Read an associated firewall policy. -/
def ofDocument? (document : Document) : Option WebAclSummary := do
  let field ← document.fields? ["webAclId", "name"]
  return {
    webAclId := ← Document.required? Document.text? (field "webAclId")
    name := ← Document.optional? Document.text? (field "name") }

end WebAclSummary

namespace SecurityGroup

/-- Write a security group. -/
def toDocument (group : SecurityGroup) : Document :=
  .record [("groupId", .text group.groupId), ("groupName", .text group.groupName)]

/-- Read a security group. -/
def ofDocument? (document : Document) : Option SecurityGroup := do
  let field ← document.fields? ["groupId", "groupName"]
  return {
    groupId := ← Document.required? Document.text? (field "groupId")
    groupName := ← Document.required? Document.text? (field "groupName") }

end SecurityGroup

end IngressConvergence
