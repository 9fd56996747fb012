import IngressConvergence.LoadBalancer.Basic

/-!
# How the cloud describes a new load balancer

A new load balancer is described by its region, its name and a serial number: the number is part of
its handle and of its host name, so that both are new whenever the number is.  Its zones are named
by the region and a letter, one for each subnet in order; after `z` the letters start again at `a`.
The description is a function of these alone: where a cloud draws a random identifier there is the
serial number, and the instant of creation, which a cloud reads from its clock, is left out.
-/

namespace IngressConvergence.LoadBalancer

/-- The letter of the zone at a position. -/
def zoneLetter (position : Nat) : Char :=
  Char.ofNat ('a'.toNat + position % 26)

/-- The zones of a list of subnets, the first of them at a given position. -/
def zonesFrom (region : String) (position : Nat) : List String → List AvailabilityZone
  | [] => []
  | subnet :: rest =>
    ⟨region.push (zoneLetter position), subnet⟩ :: zonesFrom region (position + 1) rest

/-- The zones of a list of subnets. -/
def zonesOf (region : String) (subnets : List String) : List AvailabilityZone :=
  zonesFrom region 0 subnets

/-- A serial number as it stands in handles and host names.  A cloud puts a random identifier there;
numbers are enough here, because all that counts of an identifier is that no other load balancer has
it. -/
def serialText (serial : Nat) : String :=
  Text.padded 16 serial

/-- The handle of the load balancer with a name and a serial number. -/
def arnOf (region name : String) (serial : Nat) : String :=
  s!"arn:aws:elasticloadbalancing:{region}:000000000000:loadbalancer/app/{name}/" ++
    serialText serial

/-- The host name; that of an internal load balancer says so. -/
def dnsNameOf (region name : String) (scheme : Scheme) (serial : Nat) : String :=
  let host :=
    match scheme with
    | .internal => "internal-" ++ name
    | .internetFacing => name
  host ++ "-" ++ serialText serial ++ "." ++ region ++ ".elb.amazonaws.com"

/-- A new load balancer.  The cloud would also tell when it was created; that time is left out,
because nothing depends on it. -/
def describe (region : String) (serial : Nat) (name : String) (scheme : Scheme)
    (ipAddressType : IpAddressType) (subnets : List String) : LoadBalancer where
  arn := arnOf region name serial
  name := name
  dnsName := dnsNameOf region name scheme serial
  kind := .application
  scheme := scheme
  ipAddressType := ipAddressType
  zones := zonesOf region subnets
  createdTime := none

/-- No subnet is lost or moved when zones are named. -/
theorem map_subnetId_zonesFrom (region : String) (position : Nat) (subnets : List String) :
    (zonesFrom region position subnets).map (·.subnetId) = subnets := by
  induction subnets generalizing position with
  | nil => rfl
  | cons subnet rest ih => simp [zonesFrom, ih]

@[simp]
theorem map_subnetId_zonesOf (region : String) (subnets : List String) :
    (zonesOf region subnets).map (·.subnetId) = subnets :=
  map_subnetId_zonesFrom region 0 subnets

end IngressConvergence.LoadBalancer
