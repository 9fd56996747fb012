import IngressConvergence.Proofs.Course.Ending

/-!
# What a failure leaves behind

The attempt to ensure a load balancer can fail at any of its calls.  Its result alone tells which tables it
leaves: those before, those before with another address type, or those without the load balancer that was
to be replaced.  The last is the only gap, and an error of its own reports it.  Where the attempt succeeds,
the load balancer that it gives is the one that is stored, which is as desired.  This is
`Convergence.leaves_ensureInstance`.
-/

namespace IngressConvergence

open CloudTables (IsContinued)

/-- Tables in which a load balancer has another address type. -/
def CloudTables.retyped
    (tables : CloudTables)
    (balancer : LoadBalancer)
    (ipAddressType : IpAddressType) : CloudTables :=
  { tables with
    loadBalancers := tables.loadBalancers.insert balancer.arn { balancer with ipAddressType } }

namespace Convergence

variable {desired : DesiredState} {current balancer : LoadBalancer} {tables after : CloudTables}
  {calls : List CloudCall} {world : World}

/-! ## What patches leave -/

/-- The call that is needed for the address type leaves the tables with the desired one. -/
theorem eq_retyped_of_performs
    (stored : tables.loadBalancers.lookup current.arn = some current)
    (retypes : tables.PerformsAll (typeCalls current desired) after) :
    after = tables.retyped current desired.ipAddressType := by
  rw [typeCalls] at retypes
  split at retypes
  next same =>
    rw [CloudTables.PerformsAll.nil_iff.mp retypes, CloudTables.retyped, ← same,
      Table.insert_of_lookup stored]
  next differs =>
    rcases CloudTables.PerformsAll.singleton_iff.mp retypes with ⟨done, performed⟩
    rcases CloudTables.setIpAddressType_eq_ok_iff.mp performed with ⟨before, storedBefore, rfl⟩
    cases stored.symm.trans storedBefore
    rfl

/-- The call that is needed for the subnets leaves the load balancer with the desired ones. -/
theorem lookup_of_performs_subnetCalls
    {stored : LoadBalancer}
    (isStored : tables.loadBalancers.lookup current.arn = some stored)
    (sameSubnets : stored.subnets = current.subnets)
    (moves : tables.PerformsAll (subnetCalls current desired) after) :
    ∃ zones,
      after.loadBalancers.lookup current.arn = some { stored with zones } ∧
        SameSubnets (zones.map (·.subnetId)) desired.subnets := by
  rw [subnetCalls] at moves
  split at moves
  next same =>
    rw [← sameSubnets] at same
    rw [CloudTables.PerformsAll.nil_iff.mp moves]
    exact ⟨stored.zones, isStored, same⟩
  next differs =>
    rcases CloudTables.PerformsAll.singleton_iff.mp moves with ⟨done, performed⟩
    rcases CloudTables.setSubnets_eq_ok_iff.mp performed with ⟨before, storedBefore, rfl⟩
    cases isStored.symm.trans storedBefore
    refine ⟨_, (Table.lookup_insert _ _ _ _).trans (if_pos rfl), ?_⟩
    rw [LoadBalancer.map_subnetId_zonesOf]
    exact fun _ => Iff.rfl

/-! ## Results and the tables that they tell of -/

/-- A load balancer that was given is stored under the desired name, and is as desired. -/
structure IsStored
    (desired : DesiredState)
    (after : CloudTables)
    (given stored : LoadBalancer) : Prop where
  found : after.findByName desired.name = some stored
  continued : IsContinued given stored
  scheme : stored.scheme = desired.scheme
  ipAddressType : stored.ipAddressType = desired.ipAddressType
  subnets : SameSubnets stored.subnets desired.subnets

/-- The tables after the attempt are those that its result tells of.  All other errors are those of other
stages. -/
def Leaves
    (desired : DesiredState)
    (tables after : CloudTables) :
    Except ControllerError LoadBalancer → Prop
  | .ok given => ∃ stored, IsStored desired after given stored
  | .error (.lookup name _) => name = desired.name ∧ after = tables
  | .error (.provision name _ _) => name = desired.name ∧ after = tables
  | .error (.attributeUpdate arn .ipAddressType _) =>
      ∃ current, tables.findByName desired.name = some current ∧ arn = current.arn ∧ after = tables
  | .error (.attributeUpdate arn .subnets _) =>
      ∃ current, tables.findByName desired.name = some current ∧ arn = current.arn ∧
        after = tables.retyped current desired.ipAddressType
  | .error (.recreation name previousArn _) =>
      name = desired.name ∧
        ∃ previous, tables.findByName desired.name = some previous ∧ previousArn = previous.arn ∧
          previous.scheme ≠ desired.scheme ∧ after = tables.delete previousArn ∧
          after.findByName desired.name = none
  | .error _ => False

/-- What was created is stored as it was desired. -/
theorem isStored_of_created
    {before : CloudTables}
    (consistent : after.IsConsistent)
    (created :
      before.perform (.createLoadBalancer desired.createRequest) = .ok (balancer, after)) :
    IsStored desired after balancer balancer := by
  have ensures := ensures_of_created consistent created
  exact
    { found := ensures.found
      continued := .refl balancer
      scheme := ensures.realizes.scheme
      ipAddressType := ensures.realizes.ipAddressType
      subnets := (subnetsDiffer_eq_false_iff _ _).mp ensures.realizes.subnets }

/-- A load balancer that was patched is given as it was found, and is stored as desired. -/
theorem isStored_of_patched
    {middle : CloudTables}
    (stored : tables.loadBalancers.lookup current.arn = some current)
    (named : current.name = desired.name)
    (sameScheme : current.scheme = desired.scheme)
    (consistent : after.IsConsistent)
    (retypes : tables.PerformsAll (typeCalls current desired) middle)
    (moves : middle.PerformsAll (subnetCalls current desired) after) :
    ∃ patched, IsStored desired after current patched := by
  cases eq_retyped_of_performs stored retypes
  have typed :
      (tables.retyped current desired.ipAddressType).loadBalancers.lookup current.arn =
        some { current with ipAddressType := desired.ipAddressType } :=
    (Table.lookup_insert _ _ _ _).trans (if_pos rfl)
  rcases lookup_of_performs_subnetCalls typed rfl moves with ⟨zones, placed, sameSubnets⟩
  refine ⟨{ current with ipAddressType := desired.ipAddressType, zones }, ?_⟩
  exact
    { found := (consistent.findByName_eq_some_iff desired.name _).mpr ⟨placed, named⟩
      continued := ⟨rfl, rfl, rfl, rfl⟩
      scheme := sameScheme
      ipAddressType := rfl
      subnets := sameSubnets }

/-- However the attempt ends, its result tells which tables it leaves. -/
theorem InstanceEnding.leaves
    {result : Except ControllerError LoadBalancer}
    (consistent : tables.IsConsistent)
    (afterConsistent : after.IsConsistent)
    (ending : InstanceEnding desired tables calls result after) :
    Leaves desired tables after result := by
  cases ending with
  | notLookedUp error => exact ⟨rfl, rfl⟩
  | notCreated absent tried error => exact ⟨rfl, rfl⟩
  | created absent performed => exact ⟨_, isStored_of_created afterConsistent performed⟩
  | notDeleted found differs tried error =>
      exact ⟨(CloudTables.lookup_of_findByName found).2, rfl⟩
  | notRecreated found differs tried error =>
      exact ⟨rfl, _, found, rfl, differs, rfl, findByName_delete_eq_none consistent found⟩
  | recreated found differs performed => exact ⟨_, isStored_of_created afterConsistent performed⟩
  | notRetyped found sameScheme tried error => exact ⟨_, found, rfl, rfl⟩
  | notMoved found sameScheme retyped tried error =>
      have stored := ((consistent.findByName_eq_some_iff _ _).mp found).1
      exact ⟨_, found, rfl, eq_retyped_of_performs stored retyped⟩
  | patched found sameScheme retyped moved =>
      rcases (consistent.findByName_eq_some_iff _ _).mp found with ⟨stored, named⟩
      exact isStored_of_patched stored named sameScheme afterConsistent retyped moved

/-- Whatever faults the attempt meets, its result tells which tables it leaves. -/
theorem leaves_ensureInstance
    (arises : world.cloud.tables.Arises)
    (uniqueNames : world.cloud.tables.HasUniqueNames)
    (desired : DesiredState) :
    Leaves desired world.cloud.tables (world.run (ensureInstance desired)).2.cloud.tables
      (world.run (ensureInstance desired)).1 := by
  have consistent : world.cloud.tables.IsConsistent := ⟨arises.isKeyedByArn, uniqueNames⟩
  have afterConsistent := World.isConsistent_run (ensureInstance desired) consistent
  rcases (ensureInstance desired).course_of_run world with ⟨calls, -, course⟩
  exact (instanceEnding_of_course course).leaves consistent afterConsistent

end Convergence

/-! ## A replacement that stops half-way -/

namespace Interrupted

/-- The load balancer that the cloud has already. -/
def balancer : LoadBalancer :=
  .describe "eu-west-1" 3 "web" .internal .ipv4 ["subnet-1"]

/-- A cloud with one load balancer, in which the next creation of another fails. -/
def world : World :=
  { World.start "eu-west-1" {} with
    cloud :=
      { CloudService.empty "eu-west-1" with
        tables := (CloudTables.empty "eu-west-1").addLoadBalancer balancer
        failures := .ofList [("CreateLoadBalancer", "quota exceeded")] } }

/-- The load balancer, but with the other scheme. -/
def desired : DesiredState :=
  { name := "web", tags := ∅, scheme := .internetFacing, ipAddressType := .ipv4,
    subnets := ["subnet-1"] }

end Interrupted

/-- The old load balancer is gone, the new one is not there, and the error says so. -/
theorem Convergence.leaves_ensureInstance_interrupted :
    (Interrupted.world.run (ensureInstance Interrupted.desired)).1 =
        .error (.recreation "web" Interrupted.balancer.arn
          (.api "CreateLoadBalancer" "quota exceeded")) ∧
      (Interrupted.world.run (ensureInstance Interrupted.desired)).2.cloud.tables.findByName "web" =
        none := by
  have arises : Interrupted.world.cloud.tables.Arises :=
    .loadBalancer (.empty "eu-west-1") Interrupted.balancer
  have uniqueNames : Interrupted.world.cloud.tables.HasUniqueNames :=
    ((CloudTables.isConsistent_empty "eu-west-1").insert rfl fun _ _ stored =>
      nomatch stored).uniqueNames
  have law := leaves_ensureInstance arises uniqueNames Interrupted.desired
  have result :
      (Interrupted.world.run (ensureInstance Interrupted.desired)).1 =
        .error (.recreation "web" Interrupted.balancer.arn
          (.api "CreateLoadBalancer" "quota exceeded")) := by
    rfl
  rw [result] at law
  rcases law with ⟨-, previous, -, -, -, -, absent⟩
  exact ⟨result, absent⟩

end IngressConvergence
