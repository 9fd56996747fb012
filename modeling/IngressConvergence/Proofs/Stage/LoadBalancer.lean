import IngressConvergence.Convergence.LoadBalancer
import IngressConvergence.Proofs.World.Success

/-!
# Converging the load balancer itself

A load balancer realizes a desired state if it has its name, its scheme, its address type and, as a
set, its subnets.  In consistent tables `Convergence.ensureInstance` always succeeds when a subnet is
desired, whatever load balancer it finds; it leaves one that realizes the desired state, and it
changes nothing when there was one already.
-/

namespace IngressConvergence

/-- A load balancer is as a desired state asks for. -/
structure LoadBalancer.Realizes
    (balancer : LoadBalancer)
    (desired : DesiredState) : Prop where
  name : balancer.name = desired.name
  scheme : balancer.scheme = desired.scheme
  ipAddressType : balancer.ipAddressType = desired.ipAddressType
  subnets : Convergence.subnetsDiffer balancer.subnets desired.subnets = false

namespace Convergence

variable {calm after : CalmWorld} {desired : DesiredState} {current balancer : LoadBalancer}

/-! ## What differs -/

theorem needsRecreation_eq_false_iff
    (current : LoadBalancer)
    (desired : DesiredState) :
    needsRecreation current desired = false ↔ current.scheme = desired.scheme := by
  simp [needsRecreation]

theorem subnetsDiffer_eq_false_iff
    (current desired : List String) :
    subnetsDiffer current desired = false ↔
      ∀ subnet, subnet ∈ current ↔ subnet ∈ desired := by
  rw [subnetsDiffer]
  rw [Bool.not_eq_false', Bool.and_eq_true, List.all_eq_true, List.all_eq_true]
  simp only [List.contains_iff_mem]
  constructor
  · rintro ⟨forth, back⟩ subnet
    exact ⟨forth subnet, back subnet⟩
  · intro same
    exact ⟨fun subnet => (same subnet).mp, fun subnet => (same subnet).mpr⟩

theorem subnetsDiffer_self
    (subnets : List String) :
    subnetsDiffer subnets subnets = false :=
  (subnetsDiffer_eq_false_iff subnets subnets).mpr fun _ => Iff.rfl

/-! ## Creating -/

theorem yields_createInstance_iff :
    calm.Yields (createInstance desired) balancer after ↔
      ∃ tables,
        calm.tables.perform (.createLoadBalancer desired.createRequest) = .ok (balancer, tables) ∧
          after = calm.served (.createLoadBalancer desired.createRequest) tables := by
  rw [createInstance]
  apply CalmWorld.yields_report_bind_iff.trans
  apply CalmWorld.yields_cloud_bind_iff.trans
  constructor
  · rintro ⟨created, tables, performed, reports⟩
    rcases CalmWorld.yields_pure_iff.mp (CalmWorld.yields_report_bind_iff.mp reports) with
      ⟨rfl, rfl⟩
    exact ⟨tables, performed, rfl⟩
  · rintro ⟨tables, performed, rfl⟩
    refine ⟨balancer, tables, performed, CalmWorld.yields_report_bind_iff.mpr ?_⟩
    exact CalmWorld.yields_pure_iff.mpr ⟨rfl, rfl⟩

/-- The world after a load balancer was deleted. -/
def deleted
    (calm : CalmWorld)
    (arn : String) : CalmWorld :=
  calm.served (.deleteLoadBalancer arn) (calm.tables.delete arn)

theorem yields_recreateInstance_iff :
    calm.Yields (recreateInstance current desired) balancer after ↔
      ∃ tables,
        (calm.tables.delete current.arn).perform (.createLoadBalancer desired.createRequest) =
            .ok (balancer, tables) ∧
          after =
            (deleted calm current.arn).served (.createLoadBalancer desired.createRequest)
              tables := by
  rw [recreateInstance]
  apply CalmWorld.yields_report_bind_iff.trans
  apply CalmWorld.yields_cloud_bind_iff.trans
  constructor
  · rintro ⟨done, tables, performed, creates⟩
    cases performed
    have reported := CalmWorld.yields_mapFailure_iff.mp (CalmWorld.yields_report_bind_iff.mp creates)
    exact CalmWorld.yields_cloud_iff.mp (CalmWorld.yields_reporting_iff.mp reported)
  · rintro ⟨tables, performed, rfl⟩
    refine ⟨(), calm.tables.delete current.arn, rfl, CalmWorld.yields_report_bind_iff.mpr ?_⟩
    refine CalmWorld.yields_mapFailure_iff.mpr (CalmWorld.yields_reporting_iff.mpr ?_)
    exact CalmWorld.yields_cloud_iff.mpr ⟨tables, performed, rfl⟩

/-- A load balancer that is created realizes the desired state and is stored under its handle. -/
theorem realizes_of_created
    {tables changed : CloudTables}
    (created :
      tables.perform (.createLoadBalancer desired.createRequest) = .ok (balancer, changed)) :
    balancer.Realizes desired ∧ changed.loadBalancers.lookup balancer.arn = some balancer := by
  rcases CloudTables.create_eq_ok_iff.mp created with ⟨-, -, built⟩
  cases built
  refine ⟨⟨rfl, rfl, rfl, ?_⟩, ?_⟩
  · have subnets :
        (LoadBalancer.zonesOf tables.region desired.subnets).map (·.subnetId) = desired.subnets :=
      LoadBalancer.map_subnetId_zonesOf tables.region desired.subnets
    show subnetsDiffer ((LoadBalancer.zonesOf tables.region desired.subnets).map (·.subnetId))
      desired.subnets = false
    rw [subnets]
    exact subnetsDiffer_self desired.subnets
  · exact (Table.lookup_insert _ _ _ _).trans (if_pos rfl)

theorem createLoadBalancer_of_absent
    {tables : CloudTables}
    (someSubnet : desired.subnets ≠ [])
    (absent : tables.findByName desired.name = none) :
    ∃ balancer changed,
      tables.perform (.createLoadBalancer desired.createRequest) = .ok (balancer, changed) :=
  ⟨_, _, CloudTables.create_eq_ok_iff.mpr ⟨someSubnet, absent, rfl⟩⟩

/-- Once a load balancer is deleted, none has its name. -/
theorem findByName_delete_eq_none
    {tables : CloudTables}
    {name : String}
    (consistent : tables.IsConsistent)
    (found : tables.findByName name = some current) :
    (tables.delete current.arn).findByName name = none := by
  rcases (consistent.findByName_eq_some_iff name current).mp found with ⟨stored, named⟩
  apply (CloudTables.findByName_eq_none_iff name).mpr
  intro arn other otherStored sameName
  rw [CloudTables.delete, Table.lookup_erase] at otherStored
  split at otherStored
  · cases otherStored
  next different =>
    exact different
      (consistent.uniqueNames arn current.arn other current otherStored stored
        (sameName.trans named.symm))

/-! ## Changing in place -/

/-- After the address type is converged, the load balancer is stored with it. -/
theorem lookup_of_yields_patchIpAddressType
    {done : Unit}
    (stored : calm.tables.loadBalancers.lookup current.arn = some current)
    (yields : calm.Yields (patchIpAddressType current desired) done after) :
    after.tables.loadBalancers.lookup current.arn =
      some { current with ipAddressType := desired.ipAddressType } := by
  rcases CalmWorld.yields_ite_iff.mp yields with ⟨-, patches⟩ | ⟨same, keeps⟩
  · rcases CalmWorld.yields_cloud_iff.mp (CalmWorld.yields_report_bind_iff.mp patches) with
      ⟨tables, performed, rfl⟩
    rcases CloudTables.setIpAddressType_eq_ok_iff.mp performed with ⟨found, foundStored, rfl⟩
    rw [stored] at foundStored
    cases foundStored
    exact (Table.lookup_insert _ _ _ _).trans (if_pos rfl)
  · rcases CalmWorld.yields_pure_iff.mp keeps with ⟨-, rfl⟩
    rw [stored, ← Decidable.not_not.mp same]

/-- After the subnets are converged, the load balancer is stored with the desired ones. -/
theorem lookup_of_yields_patchSubnets
    {done : Unit}
    {stored : LoadBalancer}
    (isStored : calm.tables.loadBalancers.lookup current.arn = some stored)
    (sameSubnets : stored.subnets = current.subnets)
    (yields : calm.Yields (patchSubnets current desired) done after) :
    ∃ zones,
      after.tables.loadBalancers.lookup current.arn = some { stored with zones } ∧
        subnetsDiffer (zones.map (·.subnetId)) desired.subnets = false := by
  rcases CalmWorld.yields_ite_iff.mp yields with ⟨-, patches⟩ | ⟨same, keeps⟩
  · rcases CalmWorld.yields_cloud_iff.mp (CalmWorld.yields_report_bind_iff.mp patches) with
      ⟨tables, performed, rfl⟩
    rcases CloudTables.setSubnets_eq_ok_iff.mp performed with ⟨found, foundStored, rfl⟩
    rw [isStored] at foundStored
    cases foundStored
    refine ⟨_, (Table.lookup_insert _ _ _ _).trans (if_pos rfl), ?_⟩
    rw [LoadBalancer.map_subnetId_zonesOf]
    exact subnetsDiffer_self desired.subnets
  · rcases CalmWorld.yields_pure_iff.mp keeps with ⟨-, rfl⟩
    refine ⟨stored.zones, isStored, ?_⟩
    have kept : stored.zones.map (·.subnetId) = current.subnets := sameSubnets
    rw [kept]
    simpa using same

theorem yields_patchIpAddressType_of_eq
    (same : current.ipAddressType = desired.ipAddressType) :
    calm.Yields (patchIpAddressType current desired) () calm := by
  refine CalmWorld.yields_ite_iff.mpr (.inr ⟨?_, CalmWorld.yields_pure_iff.mpr ⟨rfl, rfl⟩⟩)
  exact Decidable.not_not.mpr same

theorem yields_patchSubnets_of_same
    (same : subnetsDiffer current.subnets desired.subnets = false) :
    calm.Yields (patchSubnets current desired) () calm := by
  refine CalmWorld.yields_ite_iff.mpr (.inr ⟨?_, CalmWorld.yields_pure_iff.mpr ⟨rfl, rfl⟩⟩)
  simp [same]

/-- The address type of a load balancer that is stored can be converged. -/
theorem yields_patchIpAddressType
    (stored : calm.tables.loadBalancers.lookup current.arn = some current)
    (desired : DesiredState) :
    ∃ after, calm.Yields (patchIpAddressType current desired) () after := by
  by_cases different : current.ipAddressType ≠ desired.ipAddressType
  · obtain ⟨tables, performed⟩ :
        ∃ tables,
          calm.tables.perform (.setIpAddressType current.arn desired.ipAddressType) =
            .ok ((), tables) :=
      ⟨_, CloudTables.setIpAddressType_eq_ok_iff.mpr ⟨current, stored, rfl⟩⟩
    exact ⟨_, CalmWorld.yields_ite_iff.mpr (.inl ⟨different,
      CalmWorld.yields_report_bind_iff.mpr
        (CalmWorld.yields_cloud_iff.mpr ⟨tables, performed, rfl⟩)⟩)⟩
  · exact ⟨calm, yields_patchIpAddressType_of_eq (Decidable.not_not.mp different)⟩

theorem yields_patchSubnets
    {stored : LoadBalancer}
    (isStored : calm.tables.loadBalancers.lookup current.arn = some stored)
    (desired : DesiredState) :
    ∃ after, calm.Yields (patchSubnets current desired) () after := by
  by_cases differ : subnetsDiffer current.subnets desired.subnets = true
  · obtain ⟨tables, performed⟩ :
        ∃ tables,
          calm.tables.perform (.setSubnets current.arn desired.subnets) = .ok ((), tables) :=
      ⟨_, CloudTables.setSubnets_eq_ok_iff.mpr ⟨stored, isStored, rfl⟩⟩
    exact ⟨_, CalmWorld.yields_ite_iff.mpr (.inl ⟨differ,
      CalmWorld.yields_report_bind_iff.mpr
        (CalmWorld.yields_cloud_iff.mpr ⟨tables, performed, rfl⟩)⟩)⟩
  · exact ⟨calm, yields_patchSubnets_of_same (by simpa using differ)⟩

/-! ## Ensuring the load balancer -/

/-- A load balancer is found that realizes the desired state, with the handle and the host name of the
one that was given. -/
structure Ensures
    (tables : CloudTables)
    (desired : DesiredState)
    (given stored : LoadBalancer) : Prop where
  found : tables.findByName desired.name = some stored
  realizes : stored.Realizes desired
  arn : stored.arn = given.arn
  dnsName : stored.dnsName = given.dnsName

/-- The world after a load balancer was looked up. -/
def lookedUp
    (calm : CalmWorld)
    (desired : DesiredState) : CalmWorld :=
  calm.recording (.cloud (.findLoadBalancer desired.name))

theorem untouched_lookedUp
    (calm : CalmWorld)
    (desired : DesiredState) :
    calm.Untouched (lookedUp calm desired) :=
  .recording calm rfl

/-- What is done about a load balancer that was found. -/
def convergeInstance
    (current : LoadBalancer)
    (desired : DesiredState) : Attempt ControllerError LoadBalancer :=
  if needsRecreation current desired then recreateInstance current desired
  else
    patchIpAddressType current desired >>= fun _ =>
      patchSubnets current desired >>= fun _ => pure current

theorem yields_ensureInstance_iff_of_absent
    (absent : calm.tables.findByName desired.name = none) :
    calm.Yields (ensureInstance desired) balancer after ↔
      (lookedUp calm desired).Yields (createInstance desired) balancer after := by
  apply CalmWorld.yields_cloud_bind_iff.trans
  constructor
  · rintro ⟨existing, tables, performed, goesOn⟩
    cases performed
    rw [absent] at goesOn
    exact goesOn
  · intro goesOn
    refine ⟨none, calm.tables, ?_, goesOn⟩
    rw [← absent]
    rfl

theorem yields_ensureInstance_iff_of_found
    (found : calm.tables.findByName desired.name = some current) :
    calm.Yields (ensureInstance desired) balancer after ↔
      (lookedUp calm desired).Yields (convergeInstance current desired) balancer after := by
  apply CalmWorld.yields_cloud_bind_iff.trans
  constructor
  · rintro ⟨existing, tables, performed, goesOn⟩
    cases performed
    rw [found] at goesOn
    exact goesOn
  · intro goesOn
    refine ⟨some current, calm.tables, ?_, goesOn⟩
    rw [← found]
    rfl

/-- A load balancer that was created is the one that is found by its name. -/
theorem ensures_of_created
    {tables changed : CloudTables}
    (consistent : changed.IsConsistent)
    (created :
      tables.perform (.createLoadBalancer desired.createRequest) = .ok (balancer, changed)) :
    Ensures changed desired balancer balancer := by
  rcases realizes_of_created created with ⟨realizes, stored⟩
  refine ⟨?_, realizes, rfl, rfl⟩
  exact (consistent.findByName_eq_some_iff desired.name balancer).mpr ⟨stored, realizes.name⟩

/-- A load balancer that was found is converged to the desired one. -/
theorem ensures_of_yields_convergeInstance
    (consistent : calm.tables.IsConsistent)
    (stored : calm.tables.loadBalancers.lookup current.arn = some current)
    (named : current.name = desired.name)
    (yields : calm.Yields (convergeInstance current desired) balancer after) :
    ∃ stored, Ensures after.tables desired balancer stored := by
  have afterConsistent := yields.keeps.consistent consistent
  rcases CalmWorld.yields_ite_iff.mp yields with ⟨-, recreates⟩ | ⟨sameScheme, patches⟩
  · rcases yields_recreateInstance_iff.mp recreates with ⟨tables, created, rfl⟩
    exact ⟨balancer, ensures_of_created afterConsistent created⟩
  · rcases CalmWorld.yields_bind_iff.mp patches with ⟨done, middle, first, rest⟩
    rcases CalmWorld.yields_bind_iff.mp rest with ⟨done', last, second, gives⟩
    rcases CalmWorld.yields_pure_iff.mp gives with ⟨rfl, rfl⟩
    have typed := lookup_of_yields_patchIpAddressType stored first
    rcases lookup_of_yields_patchSubnets typed rfl second with ⟨zones, placed, sameSubnets⟩
    have scheme := (needsRecreation_eq_false_iff balancer desired).mp (by simpa using sameScheme)
    let changed := { balancer with ipAddressType := desired.ipAddressType, zones }
    have found : after.tables.findByName desired.name = some changed :=
      (afterConsistent.findByName_eq_some_iff desired.name changed).mpr ⟨placed, named⟩
    exact ⟨changed, found, ⟨named, scheme, rfl, sameSubnets⟩, rfl, rfl⟩

/-- In consistent tables the load balancer is as desired once it is ensured. -/
theorem ensures_of_yields
    (consistent : calm.tables.IsConsistent)
    (yields : calm.Yields (ensureInstance desired) balancer after) :
    ∃ stored, Ensures after.tables desired balancer stored := by
  cases found : calm.tables.findByName desired.name with
  | none =>
      have creates := (yields_ensureInstance_iff_of_absent found).mp yields
      rcases yields_createInstance_iff.mp creates with ⟨tables, created, rfl⟩
      exact ⟨balancer, ensures_of_created (yields.keeps.consistent consistent) created⟩
  | some current =>
      rcases (consistent.findByName_eq_some_iff desired.name current).mp found with ⟨stored, named⟩
      have isConsistent : (lookedUp calm desired).tables.IsConsistent := consistent
      have converges := (yields_ensureInstance_iff_of_found found).mp yields
      exact ensures_of_yields_convergeInstance isConsistent stored named converges

/-- A load balancer that was found can be converged, whatever it is like. -/
theorem yields_convergeInstance
    (consistent : calm.tables.IsConsistent)
    (someSubnet : desired.subnets ≠ [])
    (found : calm.tables.findByName desired.name = some current) :
    ∃ balancer after, calm.Yields (convergeInstance current desired) balancer after := by
  by_cases otherScheme : needsRecreation current desired = true
  · rcases createLoadBalancer_of_absent someSubnet (findByName_delete_eq_none consistent found) with
      ⟨balancer, tables, created⟩
    have recreates := yields_recreateInstance_iff.mpr ⟨tables, created, rfl⟩
    exact ⟨balancer, _, CalmWorld.yields_ite_iff.mpr (.inl ⟨otherScheme, recreates⟩)⟩
  · rcases (consistent.findByName_eq_some_iff desired.name current).mp found with ⟨stored, -⟩
    rcases yields_patchIpAddressType stored desired with ⟨middle, first⟩
    have typed := lookup_of_yields_patchIpAddressType stored first
    rcases yields_patchSubnets typed desired with ⟨after, second⟩
    refine ⟨current, after, CalmWorld.yields_ite_iff.mpr (.inr ⟨otherScheme, ?_⟩)⟩
    refine CalmWorld.yields_bind_iff.mpr ⟨(), middle, first, ?_⟩
    refine CalmWorld.yields_bind_iff.mpr ⟨(), after, second, ?_⟩
    exact CalmWorld.yields_pure_iff.mpr ⟨rfl, rfl⟩

/-- In consistent tables a load balancer can always be ensured, if a subnet is desired. -/
theorem yields_ensureInstance
    (consistent : calm.tables.IsConsistent)
    (someSubnet : desired.subnets ≠ []) :
    ∃ balancer after, calm.Yields (ensureInstance desired) balancer after := by
  cases found : calm.tables.findByName desired.name with
  | none =>
      have absent : (lookedUp calm desired).tables.findByName desired.name = none := found
      rcases createLoadBalancer_of_absent someSubnet absent with ⟨balancer, tables, created⟩
      have creates := yields_createInstance_iff.mpr ⟨tables, created, rfl⟩
      exact ⟨balancer, _, (yields_ensureInstance_iff_of_absent found).mpr creates⟩
  | some current =>
      have isConsistent : (lookedUp calm desired).tables.IsConsistent := consistent
      rcases yields_convergeInstance isConsistent someSubnet found with ⟨balancer, after, converges⟩
      exact ⟨balancer, after, (yields_ensureInstance_iff_of_found found).mpr converges⟩

/-- A load balancer that is as desired stays, after one lookup. -/
theorem yields_ensureInstance_of_realizes
    (found : calm.tables.findByName desired.name = some current)
    (realizes : current.Realizes desired) :
    calm.Yields (ensureInstance desired) current (lookedUp calm desired) := by
  have sameScheme := (needsRecreation_eq_false_iff current desired).mpr realizes.scheme
  apply (yields_ensureInstance_iff_of_found found).mpr
  refine CalmWorld.yields_ite_iff.mpr (.inr ⟨by simp [sameScheme], ?_⟩)
  have first : (lookedUp calm desired).Yields (patchIpAddressType current desired) ()
      (lookedUp calm desired) :=
    yields_patchIpAddressType_of_eq realizes.ipAddressType
  have second : (lookedUp calm desired).Yields (patchSubnets current desired) ()
      (lookedUp calm desired) :=
    yields_patchSubnets_of_same realizes.subnets
  refine CalmWorld.yields_bind_iff.mpr ⟨(), _, first, ?_⟩
  refine CalmWorld.yields_bind_iff.mpr ⟨(), _, second, ?_⟩
  exact CalmWorld.yields_pure_iff.mpr ⟨rfl, rfl⟩

end Convergence

end IngressConvergence
