import IngressConvergence.Convergence.Cycle

/-!
# Removing a load balancer

A load balancer is removed against the order in which it was built: security groups, listeners,
target groups, and last the load balancer itself.  A removal stops at the first failure and can be
repeated, because every step accepts that there is nothing left to do.
-/

namespace IngressConvergence.Controller

/-- Remove what depends on a load balancer, and then the load balancer. -/
def teardown (key : IngressKey) (balancer : LoadBalancer) : Attempt ControllerError Unit := do
  let _ ← Attempt.collaborator
    (.deleteSecurityGroups (.forDeletion key balancer.name balancer.arn))
    (.teardown .securityGroups)
  let _ ← Attempt.collaborator (.deleteListeners balancer.arn) (.teardown .listeners)
  let _ ← Attempt.collaborator (.deleteTargetGroups key) (.teardown .targetGroups)
  Attempt.report (.deleting balancer.name balancer.arn)
  let _ ← Attempt.cloud (.deleteLoadBalancer balancer.arn)
    fun error => .teardown .loadBalancer (.cloud error)
  Attempt.report (.deleted balancer.name balancer.arn)

/-- How the removal of a load balancer is reported. -/
def removalReport (name : String) (key : IngressKey) : Except ControllerError Unit → Option Event
  | .ok () => none
  | .error error => some (.deletionFailed name key error)

/-- Remove the load balancer of an ingress; it is enough that there is none. -/
def delete (controller : Controller) (key : IngressKey) : Attempt ControllerError Unit := do
  let name := controller.naming.loadBalancerName key
  let existing : Option LoadBalancer ← Attempt.cloud (.findLoadBalancer name) (.lookup name)
  match existing with
  | none => Attempt.report (.nothingToDelete name key)
  | some balancer => (teardown key balancer).reporting (removalReport name key)

end IngressConvergence.Controller
