import IngressConvergence.Proofs.Cloud.Ownership
import IngressConvergence.Proofs.Likeness.Cycle
import IngressConvergence.Simulation.Run

/-!
# Operations

A controller is told to reconcile an ingress or to delete the load balancer of one.  What holds of
both is stated for operations; in particular both go on alike, which is `Controller.alike_attempt`.
A history is a run of operations one after the other, with whatever happens to the world between them.
-/

namespace IngressConvergence

/-- What a controller can be told to do. -/
inductive Operation where
  | reconcile (ingress : Ingress)
  | delete (key : IngressKey)
deriving DecidableEq

namespace Operation

/-- What an operation that succeeds comes to. -/
def Outcome : Operation → Type
  | .reconcile _ => LoadBalancerStatus
  | .delete _ => Unit

/-- The key of the ingress that an operation is about; there is none for an ingress without a name. -/
def key? : Operation → Option IngressKey
  | .reconcile ingress => IngressKey.ofIngress? ingress
  | .delete key => some key

/-- Outcomes that are the same but for identities, which correspond. -/
def SameOutcome
    (same : LoadBalancerStatus → LoadBalancerStatus → Prop) :
    (operation : Operation) → operation.Outcome → operation.Outcome → Prop
  | .reconcile _, status, status' => same status status'
  | .delete _, _, _ => True

end Operation

namespace Controller

/-- The attempt that an operation is. -/
def attempt (controller : Controller) :
    (operation : Operation) → Attempt ControllerError operation.Outcome
  | .reconcile ingress => controller.reconcile ingress
  | .delete key => controller.delete key

/-- Operations go on alike for load balancers that are the same but for their identities. -/
theorem alike_attempt
    {likeness : Likeness}
    {controller : Controller}
    {operation : Operation}
    (named : ∀ key, operation.key? = some key →
      likeness.name = controller.naming.loadBalancerName key)
    (permits : ∀ key, operation.key? = some key → likeness.Permits key) :
    (controller.attempt operation).Alike likeness likeness.errors
      (operation.SameOutcome likeness.same) (controller.attempt operation) := by
  cases operation with
  | reconcile ingress => exact alike_reconcile named permits
  | delete key => exact alike_delete (named key rfl)

/-- An operation makes calls about handles of one name only. -/
theorem alike_attempt_ofOwner
    (controller : Controller)
    {operation : Operation}
    {key : IngressKey}
    (about : operation.key? = some key)
    (origin : CloudTables)
    (same : LoadBalancerStatus → LoadBalancerStatus → Prop) :
    (controller.attempt operation).Alike
      (.ofOwner origin (controller.naming.loadBalancerName key) same)
      (Likeness.ofOwner origin (controller.naming.loadBalancerName key) same).errors
      (operation.SameOutcome same) (controller.attempt operation) := by
  apply alike_attempt
  · intro other aboutToo
    cases about.symm.trans aboutToo
    rfl
  · intro other aboutToo configuration desired inForce allowed named
    exact named

/-- Runs of operations one after the other, each with the world in which it began; between them the
world may change as it is said to. -/
inductive History
    (controller : Controller)
    (meanwhile : World → World → Prop)
    (start : World) :
    List (World × Operation) → World → Prop where
  | start : History controller meanwhile start [] start
  | operate
      {history : List (World × Operation)}
      {world : World}
      (earlier : History controller meanwhile start history world)
      (operation : Operation) :
      History controller meanwhile start (history ++ [(world, operation)])
        (world.run (controller.attempt operation)).2
  | meanwhile
      {history : List (World × Operation)}
      {world later : World}
      (earlier : History controller meanwhile start history world)
      (changed : meanwhile world later) :
      History controller meanwhile start history later

end Controller

end IngressConvergence
