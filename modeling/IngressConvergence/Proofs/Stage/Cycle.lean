import IngressConvergence.Proofs.Stage.Dependents
import IngressConvergence.Proofs.Stage.LoadBalancer

/-!
# Cycles in a calm world

A cycle is admitted by a calm world if it finds annotations, its references are resolved and its
desired state is allowed.  In consistent tables it then succeeds, if its firewall policy is known; the
tables are converged whenever a cycle has succeeded, and a cycle on converged tables changes nothing.
-/

namespace IngressConvergence

/-- The load balancer of a desired state is as it should be, and so is what is attached to it. -/
structure CloudTables.IsConverged
    (tables : CloudTables)
    (route : AttributeRoute)
    (desired : DesiredState)
    (annotations : LoadBalancerAnnotations)
    (stored : LoadBalancer) : Prop where
  found : tables.findByName desired.name = some stored
  realizes : stored.Realizes desired
  attached : tables.HasAttachments route annotations stored.arn

/-- A calm world lets a cycle through to the point where it changes something. -/
structure CalmWorld.Admits
    (calm : CalmWorld)
    (controller : Controller)
    (key : IngressKey)
    (annotations : IngressAnnotations)
    (subnets : List String) : Prop where
  cached : calm.store.annotations key = some annotations
  resolved :
    ∃ after,
      calm.Yields
        (DesiredState.resolveSubnets annotations.loadBalancer.subnets
          annotations.loadBalancer.scheme) subnets after
  securityGroups :
    ∃ groups after,
      calm.Yields (DesiredState.resolveSecurityGroups annotations.loadBalancer.securityGroups)
        groups after
  allowed :
    DesiredState.isAllowed calm.store.configuration key
      (.ofSubnets controller.naming key annotations subnets) = true

/-- A calm world admits a cycle with one set of annotations and one list of subnets at most. -/
theorem CalmWorld.Admits.unique
    {calm : CalmWorld}
    {controller : Controller}
    {key : IngressKey}
    {annotations found : IngressAnnotations}
    {subnets resolved : List String}
    (admits : calm.Admits controller key annotations subnets)
    (admitsFound : calm.Admits controller key found resolved) :
    found = annotations ∧ resolved = subnets := by
  have same : found = annotations :=
    Option.some.inj (admitsFound.cached.symm.trans admits.cached)
  subst same
  rcases admits.resolved with ⟨after, resolves⟩
  rcases admitsFound.resolved with ⟨later, resolvesFound⟩
  exact ⟨rfl, resolves.value_eq resolvesFound⟩

/-- What a world admits depends on its store and its inventory alone. -/
theorem CalmWorld.Admits.transport
    {calm other : CalmWorld}
    {controller : Controller}
    {key : IngressKey}
    {annotations : IngressAnnotations}
    {subnets : List String}
    (admits : calm.Admits controller key annotations subnets)
    (sameStore : other.store = calm.store)
    (sameInventory : CloudTables.SameInventory calm.tables other.tables) :
    other.Admits controller key annotations subnets where
  cached := by
    rw [sameStore]
    exact admits.cached
  resolved := by
    rcases admits.resolved with ⟨after, resolves⟩
    exact (DesiredState.readsInventory_resolveSubnets _ _).transport other sameInventory resolves
  securityGroups := by
    rcases admits.securityGroups with ⟨groups, after, resolves⟩
    have reads :=
      DesiredState.readsInventory_resolveSecurityGroups annotations.loadBalancer.securityGroups
    exact ⟨groups, reads.transport other sameInventory resolves⟩
  allowed := by
    rw [sameStore]
    exact admits.allowed

namespace Controller

variable {calm after : CalmWorld} {controller : Controller} {key : IngressKey} {ingress : Ingress}
  {annotations : IngressAnnotations} {status : LoadBalancerStatus}

/-! ## The parts of a cycle -/

theorem yields_requireAllowed_iff
    {desired : DesiredState}
    {done : Unit} :
    calm.Yields (requireAllowed key desired) done after ↔
      DesiredState.isAllowed calm.store.configuration key desired = true ∧ after = calm := by
  apply CalmWorld.yields_bind_iff.trans
  constructor
  · rintro ⟨configuration, middle, reads, validates⟩
    rcases CalmWorld.yields_configuration_iff.mp reads with ⟨rfl, rfl⟩
    rcases CalmWorld.yields_ofExcept_iff.mp validates with ⟨allowed, rfl⟩
    rw [DesiredState.validate] at allowed
    split at allowed
    next isAllowed => exact ⟨isAllowed, rfl⟩
    · cases allowed
  · rintro ⟨isAllowed, rfl⟩
    refine ⟨_, _, CalmWorld.yields_configuration_iff.mpr ⟨rfl, rfl⟩, ?_⟩
    exact CalmWorld.yields_ofExcept_iff.mpr ⟨if_pos isAllowed, rfl⟩

/-- A cycle succeeds exactly if the subnets are resolved, the desired state is allowed, its load
balancer is ensured and the steps that follow are taken. -/
theorem yields_converge_iff :
    calm.Yields (controller.converge key ingress) status after ↔
      ∃ annotations subnets prepared balancer middle,
        calm.store.annotations key = some annotations ∧
        calm.Yields
            (DesiredState.resolveSubnets annotations.loadBalancer.subnets
              annotations.loadBalancer.scheme) subnets prepared ∧
        DesiredState.isAllowed prepared.store.configuration key
            (.ofSubnets controller.naming key annotations subnets) = true ∧
        prepared.Yields
            (Convergence.ensureInstance (.ofSubnets controller.naming key annotations subnets))
            balancer middle ∧
        middle.Yields
            (controller.convergeDependents key ingress annotations.loadBalancer balancer) () after ∧
        status = ⟨balancer.arn, balancer.dnsName⟩ := by
  apply CalmWorld.yields_bind_iff.trans
  constructor
  · rintro ⟨annotations, first, asks, fromDesired⟩
    rcases CalmWorld.yields_annotationsOf_iff.mp asks with ⟨cached, rfl⟩
    rcases CalmWorld.yields_bind_iff.mp fromDesired with ⟨desired, prepared, builds, fromPolicy⟩
    rcases DesiredState.yields_build_iff.mp builds with ⟨subnets, resolves, rfl⟩
    rcases CalmWorld.yields_bind_iff.mp fromPolicy with ⟨done, second, requires, fromBalancer⟩
    rcases yields_requireAllowed_iff.mp requires with ⟨allowed, rfl⟩
    rcases CalmWorld.yields_bind_iff.mp fromBalancer with ⟨balancer, middle, ensures, fromSteps⟩
    rcases CalmWorld.yields_bind_iff.mp fromSteps with ⟨done', last, depends, gives⟩
    rcases CalmWorld.yields_pure_iff.mp gives with ⟨rfl, rfl⟩
    exact ⟨annotations, subnets, second, balancer, middle, cached, resolves, allowed, ensures,
      depends, rfl⟩
  · rintro ⟨annotations, subnets, prepared, balancer, middle, cached, resolves, allowed, ensures,
      depends, rfl⟩
    refine ⟨annotations, calm, CalmWorld.yields_annotationsOf_iff.mpr ⟨cached, rfl⟩, ?_⟩
    refine CalmWorld.yields_bind_iff.mpr
      ⟨_, prepared, DesiredState.yields_build_iff.mpr ⟨subnets, resolves, rfl⟩, ?_⟩
    refine CalmWorld.yields_bind_iff.mpr
      ⟨(), prepared, yields_requireAllowed_iff.mpr ⟨allowed, rfl⟩, ?_⟩
    refine CalmWorld.yields_bind_iff.mpr ⟨balancer, middle, ensures, ?_⟩
    refine CalmWorld.yields_bind_iff.mpr ⟨(), after, depends, ?_⟩
    exact CalmWorld.yields_pure_iff.mpr ⟨rfl, rfl⟩

theorem yields_reconcile_iff :
    calm.Yields (controller.reconcile ingress) status after ↔
      ∃ key, IngressKey.ofIngress? ingress = some key ∧
        calm.Yields (controller.converge key ingress) status after := by
  rw [reconcile]
  cases named : IngressKey.ofIngress? ingress with
  | none =>
      constructor
      · intro refused
        exact absurd refused CalmWorld.not_yields_throw
      · rintro ⟨key, none, -⟩
        cases none
  | some key =>
      refine CalmWorld.yields_report_bind_iff.trans (CalmWorld.yields_reporting_iff.trans ?_)
      constructor
      · intro yields
        exact ⟨key, rfl, yields⟩
      · rintro ⟨other, same, yields⟩
        cases same
        exact yields

/-! ## Cycles that succeed -/

/-- A cycle that succeeded was admitted, and it leaves converged tables. -/
theorem isConverged_of_yields
    (consistent : calm.tables.IsConsistent)
    (yields : calm.Yields (controller.converge key ingress) status after) :
    ∃ annotations subnets stored,
      calm.Admits controller key annotations subnets ∧
      Convergence.IsKnown calm.tables annotations.loadBalancer.webAclId ∧
      after.tables.IsConverged controller.attributeRoute
        (.ofSubnets controller.naming key annotations subnets) annotations.loadBalancer stored ∧
      status = ⟨stored.arn, stored.dnsName⟩ := by
  have afterConsistent := yields.keeps.consistent consistent
  rcases
      yields_converge_iff.mp yields with
    ⟨annotations, subnets, prepared, balancer, middle, cached, resolves, allowed, ensures,
     depends, rfl⟩
  have preparedConsistent := resolves.keeps.consistent consistent
  have inventory := resolves.keeps.inventory.trans ensures.keeps.inventory
  rcases Convergence.ensures_of_yields preparedConsistent ensures with ⟨stored, ensured⟩
  rcases hasAttachments_of_yields depends with
    ⟨attached, sameBalancers, isKnown, groups, last, resolvesGroups⟩
  have reads :=
    DesiredState.readsInventory_resolveSecurityGroups annotations.loadBalancer.securityGroups
  refine ⟨annotations, subnets, stored, ⟨cached, ⟨prepared, resolves⟩, ?_, ?_⟩, ?_, ?_, ?_⟩
  · exact ⟨groups, reads.transport calm inventory.symm resolvesGroups⟩
  · rw [← resolves.keeps.store]
    exact allowed
  · exact isKnown.transport inventory.symm
  · refine ⟨?_, ensured.realizes, ?_⟩
    · rw [CloudTables.findByName, sameBalancers]
      exact ensured.found
    · rw [ensured.arn]
      exact attached
  · rw [ensured.arn, ensured.dnsName]

/-- A cycle that is admitted goes through, once its load balancer is ensured: the steps that follow are
taken, and they change nothing if the load balancer has already what is attached to it. -/
theorem yields_converge_of_ensures
    {subnets : List String}
    {prepared middle : CalmWorld}
    {balancer stored : LoadBalancer}
    (consistent : calm.tables.IsConsistent)
    (admits : calm.Admits controller key annotations subnets)
    (isKnown : Convergence.IsKnown calm.tables annotations.loadBalancer.webAclId)
    (resolves :
      calm.Yields
        (DesiredState.resolveSubnets annotations.loadBalancer.subnets
          annotations.loadBalancer.scheme) subnets prepared)
    (ensures :
      prepared.Yields
        (Convergence.ensureInstance (.ofSubnets controller.naming key annotations subnets))
        balancer middle)
    (ensured :
      Convergence.Ensures middle.tables (.ofSubnets controller.naming key annotations subnets)
        balancer stored)
    (ingress : Ingress) :
    ∃ after,
      calm.Yields (controller.converge key ingress) ⟨balancer.arn, balancer.dnsName⟩ after ∧
        (middle.tables.HasAttachments controller.attributeRoute annotations.loadBalancer
            balancer.arn → middle.Untouched after) := by
  have kept := resolves.keeps.trans ensures.keeps
  rcases ((kept.consistent consistent).findByName_eq_some_iff _ stored).mp ensured.found with
    ⟨stillStored, -⟩
  have exist : middle.tables.loadBalancers.contains balancer.arn = true := by
    rw [← ensured.arn, Table.contains, stillStored]
    rfl
  have stillKnown := isKnown.transport kept.inventory
  rcases admits.securityGroups with ⟨groups, last, resolvesGroups⟩
  have reads :=
    DesiredState.readsInventory_resolveSecurityGroups annotations.loadBalancer.securityGroups
  rcases reads.transport middle kept.inventory resolvesGroups with ⟨resolved, resolvesAgain⟩
  rcases yields_convergeDependents exist stillKnown resolvesAgain with ⟨after, depends, spared⟩
  have allowed :
      DesiredState.isAllowed prepared.store.configuration key
        (.ofSubnets controller.naming key annotations subnets) = true := by
    rw [resolves.keeps.store]
    exact admits.allowed
  exact ⟨after, yields_converge_iff.mpr ⟨annotations, subnets, prepared, balancer, middle,
    admits.cached, resolves, allowed, ensures, depends, rfl⟩, spared⟩

/-- In consistent tables a cycle that is admitted succeeds, if its firewall policy is known. -/
theorem yields_converge
    {subnets : List String}
    (consistent : calm.tables.IsConsistent)
    (admits : calm.Admits controller key annotations subnets)
    (isKnown : Convergence.IsKnown calm.tables annotations.loadBalancer.webAclId)
    (ingress : Ingress) :
    ∃ status after, calm.Yields (controller.converge key ingress) status after := by
  rcases admits.resolved with ⟨prepared, resolves⟩
  have preparedConsistent := resolves.keeps.consistent consistent
  have someSubnet := DesiredState.subnets_ne_nil_of_resolves controller.naming key resolves
  rcases Convergence.yields_ensureInstance preparedConsistent someSubnet with
    ⟨balancer, middle, ensures⟩
  rcases Convergence.ensures_of_yields preparedConsistent ensures with ⟨stored, ensured⟩
  rcases yields_converge_of_ensures consistent admits isKnown resolves ensures ensured ingress with
    ⟨after, yields, -⟩
  exact ⟨_, after, yields⟩

/-- A cycle that is admitted changes nothing in converged tables and tells of the same load
balancer. -/
theorem yields_converge_of_isConverged
    {subnets : List String}
    {stored : LoadBalancer}
    (consistent : calm.tables.IsConsistent)
    (admits : calm.Admits controller key annotations subnets)
    (isKnown : Convergence.IsKnown calm.tables annotations.loadBalancer.webAclId)
    (converged :
      calm.tables.IsConverged controller.attributeRoute
        (.ofSubnets controller.naming key annotations subnets) annotations.loadBalancer stored)
    (ingress : Ingress) :
    ∃ after,
      calm.Yields (controller.converge key ingress) ⟨stored.arn, stored.dnsName⟩ after ∧
        calm.Untouched after := by
  rcases admits.resolved with ⟨prepared, resolves⟩
  have reads :=
    DesiredState.readsInventory_resolveSubnets annotations.loadBalancer.subnets
      annotations.loadBalancer.scheme
  have untouched := reads.untouched resolves
  have found := converged.found
  rw [← untouched.tables] at found
  have ensures := Convergence.yields_ensureInstance_of_realizes found converged.realizes
  have spared :=
    untouched.trans
      (Convergence.untouched_lookedUp prepared
        (.ofSubnets controller.naming key annotations subnets))
  have ensured :
      Convergence.Ensures
        (Convergence.lookedUp prepared
          (.ofSubnets controller.naming key annotations subnets)).tables
        (.ofSubnets controller.naming key annotations subnets) stored stored :=
    ⟨found, converged.realizes, rfl, rfl⟩
  rcases yields_converge_of_ensures consistent admits isKnown resolves ensures ensured ingress with
    ⟨after, yields, sparedLast⟩
  refine ⟨after, yields, spared.trans (sparedLast ?_)⟩
  rw [spared.tables]
  exact converged.attached

end Controller

end IngressConvergence
