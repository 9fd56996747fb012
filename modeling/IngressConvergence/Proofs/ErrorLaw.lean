import IngressConvergence.Proofs.Attribution.Cycle
import IngressConvergence.Proofs.Operation
import IngressConvergence.Proofs.SelfHealing

/-!
# Errors tell what failed

Whatever request of an operation is the first to be refused, and for whatever cause, the operation fails
with the one error that is owed to it: the error says at which place of the cycle or of the removal the
request was made, and following its sources leads to the cause.  This is
`Controller.fails_with_owed_error`.
-/

namespace IngressConvergence

open Controller (CycleError RemovalError)

/-- The error that an operation owes to a request that is refused for a cause, after all that was
answered. -/
def Operation.Owes : Operation → List Answered → Request → Cause → ControllerError → Prop
  | .reconcile ingress, past, asked, cause, error =>
      ∃ key, IngressKey.ofIngress? ingress = some key ∧ CycleError key past asked cause error
  | .delete _, _, asked, cause, error => RemovalError asked cause error

/-- An error traces to a cause: its sources lead there, it is a cancellation exactly if the cause goes
back to a failure of the cloud that is one, and its message ends with that of the cause. -/
structure ControllerError.TracesTo
    (error : ControllerError)
    (cause : Cause) : Prop where
  leadsTo : (Cause.controller error).LeadsTo cause
  isCancellation_eq : error.isCancellation = cause.isCancellation
  isCancellation_iff :
    error.isCancellation = true ↔
      ∃ found : CloudError, cause.LeadsTo (.cloud found) ∧ found.isCancellation = true
  message : ∃ front, error.message = front ++ cause.message

theorem ControllerError.Wraps.tracesTo
    {error : ControllerError}
    {cause : Cause}
    (wraps : error.Wraps cause) :
    error.TracesTo cause := by
  have same : (Cause.controller error).isCancellation = cause.isCancellation :=
    wraps.leadsTo.isCancellation_eq
  refine ⟨wraps.leadsTo, same, ?_, wraps.exists_message⟩
  rw [← cause.isCancellation_iff, ← same]
  rfl

namespace Controller

variable {State : Type} {controller : Controller} {operation : Operation} {state : State}
  {earlier later : List (Exchange State)} {refused : Exchange State} {cause : Cause}

/-- An operation in which a request is refused fails with the one error that is owed to the request, and
the error traces to the cause of the refusal. -/
theorem fails_with_owed_error
    (answer : (asked : Request) → State → asked.Reply × State)
    (split :
      (ExceptT.run (controller.attempt operation)).transcript answer state =
        earlier ++ refused :: later)
    (refusal : refused.refusal? = some cause) :
    ∃ error,
      (Program.run answer (ExceptT.run (controller.attempt operation)) state).1 = .error error ∧
        operation.Owes (earlier.map Exchange.answered) refused.asked cause error ∧
        (∀ other, operation.Owes (earlier.map Exchange.answered) refused.asked cause other →
          other = error) ∧
        error.TracesTo cause := by
  cases operation with
  | delete key =>
      have attributes : (controller.delete key).Attributes (fun _ => RemovalError) [] :=
        controller.attributes_delete key
      rcases attributes.stops_at answer state split refusal with ⟨error, fails, owed⟩
      exact ⟨error, fails, owed, fun other owedToo => owedToo.unique owed, owed.wraps.tracesTo⟩
  | reconcile ingress =>
      cases named : IngressKey.ofIngress? ingress with
      | none =>
          have silent : (ExceptT.run (controller.reconcile ingress)).transcript answer state = [] := by
            rw [reconcile, named]
            rfl
          exact absurd (silent.symm.trans split) (by simp)
      | some key =>
          have attributes : (controller.reconcile ingress).Attributes (CycleError key) [] :=
            controller.attributes_reconcile named
          rcases attributes.stops_at answer state split refusal with ⟨error, fails, owed⟩
          refine ⟨error, fails, ⟨key, named, owed⟩, ?_, owed.wraps.tracesTo⟩
          rintro other ⟨otherKey, namedToo, owedToo⟩
          cases named.symm.trans namedToo
          exact owedToo.unique owed

end Controller

/-! ## A cloud that throttles creations -/

namespace ThrottlingCloud

/-- Load balancers are found and deleted there, but not created. -/
def answer : (asked : Request) → Unit → asked.Reply × Unit
  | .annotationsOf _, _ => (.ok { loadBalancer := { scheme := .internetFacing } }, ())
  | .configuration, _ => ({}, ())
  | .checkpoint _, _ => (.ok (), ())
  | .cloud (.findClusterSubnets _), _ => (.ok ["subnet-1"], ())
  | .cloud (.findLoadBalancer _), _ => (.ok (some StaleCloud.balancer), ())
  | .cloud (.deleteLoadBalancer _), _ => (.ok (), ())
  | .cloud call, _ => (.error (.throttled call.operation), ())
  | .collaborator call, _ => (.error (.text call.point), ())
  | .report _, _ => ((), ())

/-- The error of a cycle that deletes the stale load balancer there. -/
def error : ControllerError :=
  .recreation (StaleCloud.controller.naming.loadBalancerName StaleCloud.key) StaleCloud.balancer.arn
    (.throttled "CreateLoadBalancer")

end ThrottlingCloud

/-- A load balancer that was deleted and cannot be created anew is told of as such. -/
theorem Controller.fails_with_owed_error_throttlingCloud :
    (Program.run ThrottlingCloud.answer (ExceptT.run StaleCloud.cycle) ()).1 =
        .error ThrottlingCloud.error ∧
      ThrottlingCloud.error.TracesTo (.cloud (.throttled "CreateLoadBalancer")) := by
  let operation : Operation := .reconcile StaleCloud.ingress
  have split :
      (ExceptT.run (StaleCloud.controller.attempt operation)).transcript ThrottlingCloud.answer () =
        [_, _, _, _, _, _, _, _] ++ _ :: _ :=
    rfl
  rcases fails_with_owed_error ThrottlingCloud.answer split rfl with
    ⟨error, fails, -, unique, traces⟩
  cases unique ThrottlingCloud.error ⟨_, StaleCloud.named, .recreation rfl _ _⟩
  exact ⟨fails, traces⟩

end IngressConvergence
