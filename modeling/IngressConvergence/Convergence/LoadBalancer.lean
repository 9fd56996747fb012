import IngressConvergence.DesiredState

/-!
# Converging the load balancer itself

The load balancer of a name is created where there is none.  One with another scheme is deleted and
created anew, because the scheme of a load balancer cannot change; all else is changed in place, and
only where it differs.
-/

namespace IngressConvergence.Convergence

/-- Whether a load balancer has to be replaced: its scheme is not the desired one. -/
def needsRecreation (current : LoadBalancer) (desired : DesiredState) : Bool :=
  current.scheme ≠ desired.scheme

/-- Whether two lists of subnets differ as sets. -/
def subnetsDiffer (current desired : List String) : Bool :=
  !(current.all desired.contains && desired.all current.contains)

/-- Create the desired load balancer where there is none. -/
def createInstance (desired : DesiredState) : Attempt ControllerError LoadBalancer := do
  Attempt.report (.creating desired.name desired.scheme)
  let created : LoadBalancer ←
    Attempt.cloud (.createLoadBalancer desired.createRequest) (.provision desired.name .create)
  Attempt.report (.created created.name created.arn)
  return created

/-- Delete a load balancer and create the desired one in its place. -/
def recreateInstance (current : LoadBalancer) (desired : DesiredState) :
    Attempt ControllerError LoadBalancer := do
  Attempt.report (.recreating current.name current.scheme desired.scheme)
  let _ ← Attempt.cloud (.deleteLoadBalancer current.arn)
    (.provision current.name .deleteForRecreation)
  Attempt.report (.deletedForRecreation current.name current.arn)
  let creation := (Attempt.cloud (.createLoadBalancer desired.createRequest) id).reporting
    fun result : Except CloudError LoadBalancer =>
      match result with
      | .ok created => some (.recreated created.name created.arn)
      | .error error => some (.recreationFailed desired.name error)
  creation.mapFailure (.recreation desired.name current.arn)

/-- Change the address type in place where it differs. -/
def patchIpAddressType (current : LoadBalancer) (desired : DesiredState) :
    Attempt ControllerError Unit := do
  if current.ipAddressType ≠ desired.ipAddressType then
    Attempt.report (.changingIpAddressType current.arn current.ipAddressType desired.ipAddressType)
    Attempt.cloud (.setIpAddressType current.arn desired.ipAddressType)
      (.attributeUpdate current.arn .ipAddressType)

/-- Change the subnets in place where they differ. -/
def patchSubnets (current : LoadBalancer) (desired : DesiredState) :
    Attempt ControllerError Unit := do
  if subnetsDiffer current.subnets desired.subnets then
    Attempt.report (.changingSubnets current.arn current.subnets desired.subnets)
    Attempt.cloud (.setSubnets current.arn desired.subnets) (.attributeUpdate current.arn .subnets)

/-- Find the load balancer and create, replace or change it.  A load balancer that is changed in
place is given as it was found. -/
def ensureInstance (desired : DesiredState) : Attempt ControllerError LoadBalancer := do
  let existing : Option LoadBalancer ←
    Attempt.cloud (.findLoadBalancer desired.name) (.lookup desired.name)
  match existing with
  | none => createInstance desired
  | some current =>
    if needsRecreation current desired then recreateInstance current desired
    else
      patchIpAddressType current desired
      patchSubnets current desired
      return current

end IngressConvergence.Convergence
