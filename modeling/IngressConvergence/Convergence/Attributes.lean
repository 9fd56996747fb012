import IngressConvergence.Program

/-!
# Converging attributes

Only the attributes that are missing or different are sent, and nothing is asked of the cloud when
no attribute is desired.
-/

namespace IngressConvergence.Convergence

/-- The desired attributes that a load balancer lacks or has with another value. -/
def changedAttributes (current desired : Table String) : Table String :=
  desired.filter fun key value => current.lookup key ≠ some value

/-- Converge the attributes of a load balancer. -/
def convergeAttributes (arn : String) (desired : Table String) : Attempt Cause Unit := do
  if !desired.isEmpty then
    let current : Table String ← Attempt.cloud (.readAttributes arn) .cloud
    let changes := changedAttributes current desired
    if !changes.isEmpty then
      Attempt.report (.changingAttributes arn changes.keys)
      Attempt.cloud (.modifyAttributes arn changes) .cloud

end IngressConvergence.Convergence
