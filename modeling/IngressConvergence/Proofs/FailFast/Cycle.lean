import IngressConvergence.Proofs.Attribution.Cycle

/-!
# Cycles fail fast

A cycle and a removal as a whole stop at the first refused request, and the error leads to the cause of
the refusal, because whatever error is owed to a refusal does.  The main statements are
`Controller.failsFast_reconcile` and `Controller.failsFast_delete`.
-/

namespace IngressConvergence

/-- The error with which a refused request ends a cycle: among its causes is that of the refusal. -/
def ControllerError.GoesBackTo
    (_asked : Request)
    (cause : Cause)
    (error : ControllerError) : Prop :=
  (Cause.controller error).LeadsTo cause

namespace Controller

/-- A cycle stops at the first refused request, with an error that goes back to its cause. -/
theorem failsFast_reconcile
    (controller : Controller)
    (ingress : Ingress) :
    (controller.reconcile ingress).FailsFast ControllerError.GoesBackTo := by
  cases named : IngressKey.ofIngress? ingress with
  | none =>
      rw [reconcile, named]
      exact .done _
  | some key =>
      have attributes : (controller.reconcile ingress).Attributes (CycleError key) [] :=
        controller.attributes_reconcile named
      exact attributes.failsFast fun past asked cause error owed => owed.wraps.leadsTo

/-- A removal stops at the first refused request, with an error that goes back to its cause. -/
theorem failsFast_delete
    (controller : Controller)
    (key : IngressKey) :
    (controller.delete key).FailsFast ControllerError.GoesBackTo := by
  have attributes : (controller.delete key).Attributes (fun _ => RemovalError) [] :=
    controller.attributes_delete key
  exact attributes.failsFast fun past asked cause error owed => owed.wraps.leadsTo

end Controller

end IngressConvergence
