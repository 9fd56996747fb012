import IngressConvergence.Annotations
import IngressConvergence.Wire.LoadBalancer

/-!
# Annotations as documents

How the annotations of an ingress are written and read.  Every field of a group of annotations has a
default.
-/

namespace IngressConvergence

namespace ListenProtocol

/-- A protocol is written as its word. -/
def toDocument (protocol : ListenProtocol) : Document := .text protocol.label

/-- Read the word of a protocol. -/
def ofDocument? : Document → Option ListenProtocol := Document.choice? ofLabel?

end ListenProtocol

namespace ListenPort

/-- Write a port to listen on. -/
def toDocument (listen : ListenPort) : Document :=
  .record [("protocol", listen.protocol.toDocument), ("port", .ofPort listen.port)]

/-- Read a port to listen on; its protocol may be missing. -/
def ofDocument? (document : Document) : Option ListenPort := do
  let field ← document.fields? ["protocol", "port"]
  return {
    protocol := ← Document.withDefault? ListenProtocol.ofDocument? .http (field "protocol")
    port := ← Document.required? Document.port? (field "port") }

end ListenPort

namespace TagAnnotations

/-- Write the annotated tags. -/
def toDocument (tags : TagAnnotations) : Document :=
  .record [("loadBalancer", .ofTable .text tags.loadBalancer)]

/-- Read the annotated tags. -/
def ofDocument? (document : Document) : Option TagAnnotations := do
  let field ← document.fields? ["loadBalancer"]
  return {
    loadBalancer :=
      ← Document.withDefault? (Document.tableOf? Document.text?) ∅ (field "loadBalancer") }

end TagAnnotations

namespace LoadBalancerAnnotations

/-- Write what an ingress asks of its load balancer. -/
def toDocument (annotations : LoadBalancerAnnotations) : Document :=
  .record (
    [("scheme", annotations.scheme.toDocument)] ++
    Document.field? "ipAddressType" IpAddressType.toDocument annotations.ipAddressType ++
    [("subnets", .ofTexts annotations.subnets),
      ("securityGroups", .ofTexts annotations.securityGroups),
      ("ports", .list (annotations.ports.map ListenPort.toDocument)),
      ("inboundCidrs", .ofTexts annotations.inboundCidrs)] ++
    Document.field? "webAclId" .text annotations.webAclId ++
    [("attributes", .ofTable .text annotations.attributes)])

/-- Read what an ingress asks of its load balancer. -/
def ofDocument? (document : Document) : Option LoadBalancerAnnotations := do
  let field ← document.fields? ["scheme", "ipAddressType", "subnets", "securityGroups", "ports",
    "inboundCidrs", "webAclId", "attributes"]
  let texts? := Document.listOf? Document.text?
  return {
    scheme := ← Document.withDefault? Scheme.ofDocument? .internal (field "scheme")
    ipAddressType := ← Document.optional? IpAddressType.ofDocument? (field "ipAddressType")
    subnets := ← Document.withDefault? texts? [] (field "subnets")
    securityGroups := ← Document.withDefault? texts? [] (field "securityGroups")
    ports := ← Document.withDefault? (Document.listOf? ListenPort.ofDocument?) [] (field "ports")
    inboundCidrs := ← Document.withDefault? texts? [] (field "inboundCidrs")
    webAclId := ← Document.optional? Document.text? (field "webAclId")
    attributes :=
      ← Document.withDefault? (Document.tableOf? Document.text?) ∅ (field "attributes") }

end LoadBalancerAnnotations

namespace IngressAnnotations

/-- Write the annotations of an ingress. -/
def toDocument (annotations : IngressAnnotations) : Document :=
  .record [
    ("loadBalancer", annotations.loadBalancer.toDocument),
    ("tags", annotations.tags.toDocument)]

/-- Read the annotations of an ingress; either group may be missing. -/
def ofDocument? (document : Document) : Option IngressAnnotations := do
  let field ← document.fields? ["loadBalancer", "tags"]
  return {
    loadBalancer :=
      ← Document.withDefault? LoadBalancerAnnotations.ofDocument? {} (field "loadBalancer")
    tags := ← Document.withDefault? TagAnnotations.ofDocument? {} (field "tags") }

end IngressAnnotations

end IngressConvergence
