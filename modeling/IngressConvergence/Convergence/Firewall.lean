import IngressConvergence.Program

/-!
# Converging the firewall policy

A load balancer is associated with at most one firewall policy.  A desired policy has to exist
before anything is changed.
-/

namespace IngressConvergence.Convergence

/-- What has to be done about the firewall policy of a load balancer. -/
inductive WebAclPlan where
  | keep
  /-- Associate a policy in place of the one there may be. -/
  | associate (webAclId : String)
  | disassociate
deriving DecidableEq, Repr

/-- The plan that leads from the current policy to the desired one. -/
def planWebAcl (current : Option WebAclSummary) (desired : Option String) : WebAclPlan :=
  match desired with
  | none => if current.isNone then .keep else .disassociate
  | some webAclId =>
    if current.map (·.webAclId) = some webAclId then .keep else .associate webAclId

/-- Make the one call that a plan takes, or none. -/
def carryOut (arn : String) : WebAclPlan → Attempt ControllerError Unit
  | .keep => return
  | .associate webAclId => do
    Attempt.report (.associatingWebAcl arn webAclId)
    Attempt.cloud (.associateWebAcl arn webAclId) (.webAcl arn .associate)
  | .disassociate => do
    Attempt.report (.disassociatingWebAcl arn)
    Attempt.cloud (.disassociateWebAcl arn) (.webAcl arn .disassociate)

/-- Refuse a firewall policy that does not exist. -/
def requireWebAcl (arn webAclId : String) : Attempt ControllerError Unit := do
  let known : Bool ← Attempt.cloud (.checkWebAcl webAclId) (.webAcl arn .check)
  if !known then throw (.invalidReference arn webAclId)

/-- Converge the firewall policy of a load balancer. -/
def convergeWebAcl (arn : String) (desired : Option String) : Attempt ControllerError Unit := do
  let current : Option WebAclSummary ← Attempt.cloud (.readWebAcl arn) (.webAcl arn .get)
  match desired with
  | some webAclId => requireWebAcl arn webAclId
  | none => pure ()
  carryOut arn (planWebAcl current desired)

end IngressConvergence.Convergence
