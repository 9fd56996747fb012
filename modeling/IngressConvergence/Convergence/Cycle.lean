import IngressConvergence.Convergence.Attributes
import IngressConvergence.Convergence.Firewall
import IngressConvergence.Convergence.LoadBalancer

/-!
# A cycle of convergence

A cycle takes an ingress from its annotations to a load balancer that is as they ask for.  It builds
the desired state, validates it, converges the load balancer, and then takes six steps in order:
attributes, firewall policy, target groups, listeners, collection of unused target groups, security
groups.  It stops at the first failure.  Before each step it asks whether the step may still start.
-/

namespace IngressConvergence

/-- Who converges the attributes of load balancers. -/
inductive AttributeRoute where
  /-- The controller itself, by calls to the cloud. -/
  | direct
  | delegated
deriving DecidableEq, Repr

/-- A controller: its naming policy and who converges attributes.  It keeps nothing between
cycles. -/
structure Controller where
  naming : NamingPolicy
  attributeRoute : AttributeRoute

/-- What a cycle that succeeded tells of the load balancer. -/
structure LoadBalancerStatus where
  arn : String
  dnsName : String
deriving DecidableEq, Repr

namespace Controller

/-- Take a step if it may start; its failure is that of the step. -/
def takeStep {Failure Value : Type} (step : DependentStep) (toCause : Failure → Cause)
    (attempt : Attempt Failure Value) : Attempt ControllerError Value := do
  Attempt.checkpoint step.label fun error => .dependentResource step (.cloud error)
  attempt.mapFailure fun failure => .dependentResource step (toCause failure)

/-- Converge the attributes of a load balancer. -/
def attributesStep (controller : Controller) (arn : String) (desired : Table String) :
    Attempt Cause Unit :=
  match controller.attributeRoute with
  | .direct => Convergence.convergeAttributes arn desired
  | .delegated => Attempt.collaborator (.convergeAttributes arn desired) id

/-- What is handed over to attach security groups. -/
def associationOf (key : IngressKey) (annotations : LoadBalancerAnnotations)
    (balancer : LoadBalancer) (externalGroupIds : List String) (targetGroups : TargetGroupSet) :
    SecurityGroupAssociation where
  ingressKey := key
  loadBalancerName := balancer.name
  loadBalancerArn := balancer.arn
  ports := annotations.portNumbers
  inboundCidrs := annotations.inboundCidrs
  externalGroupIds := externalGroupIds
  targetGroups := targetGroups

/-- Resolve the annotated security groups and attach them. -/
def securityGroupsStep (key : IngressKey) (annotations : LoadBalancerAnnotations)
    (balancer : LoadBalancer) (targetGroups : TargetGroupSet) : Attempt Cause Unit := do
  let externalGroupIds ←
    (DesiredState.resolveSecurityGroups annotations.securityGroups).mapFailure .controller
  Attempt.collaborator (.convergeSecurityGroups
    (associationOf key annotations balancer externalGroupIds targetGroups)) id

/-- The six steps that follow the load balancer. -/
def convergeDependents (controller : Controller) (key : IngressKey) (ingress : Ingress)
    (annotations : LoadBalancerAnnotations) (balancer : LoadBalancer) :
    Attempt ControllerError Unit := do
  takeStep .attributes id (controller.attributesStep balancer.arn annotations.attributes)
  takeStep .webAcl .controller (Convergence.convergeWebAcl balancer.arn annotations.webAclId)
  let targetGroups : TargetGroupSet ← takeStep .targetGroups id
    (Attempt.collaborator (.convergeTargetGroups ingress) id)
  let _ ← takeStep .listeners id
    (Attempt.collaborator (.convergeListeners balancer.arn ingress targetGroups) id)
  let _ ← takeStep .targetGroupCollection id
    (Attempt.collaborator (.collectTargetGroups targetGroups) id)
  takeStep .securityGroups id (securityGroupsStep key annotations balancer targetGroups)

/-- Refuse a desired state that the configuration in force does not allow. -/
def requireAllowed (key : IngressKey) (desired : DesiredState) : Attempt ControllerError Unit := do
  let configuration ← Attempt.configuration
  ExceptT.mk (.done (DesiredState.validate configuration key desired))

/-- A cycle for a key, without the reports of its start and its end. -/
def converge (controller : Controller) (key : IngressKey) (ingress : Ingress) :
    Attempt ControllerError LoadBalancerStatus := do
  let annotations ← Attempt.annotationsOf key (.store key.text)
  let desired ← DesiredState.build controller.naming key annotations
  requireAllowed key desired
  let balancer ← Convergence.ensureInstance desired
  controller.convergeDependents key ingress annotations.loadBalancer balancer
  return ⟨balancer.arn, balancer.dnsName⟩

/-- How the end of a cycle is reported. -/
def cycleReport (key : IngressKey) : Except ControllerError LoadBalancerStatus → Option Event
  | .ok status => some (.cycleSucceeded status.arn status.dnsName)
  | .error error => some (.cycleFailed key error)

/-- A cycle for an ingress; one without a name is refused before anything is reported. -/
def reconcile (controller : Controller) (ingress : Ingress) :
    Attempt ControllerError LoadBalancerStatus :=
  match IngressKey.ofIngress? ingress with
  | none => throw (.invalidIngress "ingress has no name")
  | some key => do
    Attempt.report (.cycleStarted key)
    (controller.converge key ingress).reporting (cycleReport key)

end Controller

end IngressConvergence
