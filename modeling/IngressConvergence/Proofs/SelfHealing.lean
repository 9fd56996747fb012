import IngressConvergence.Proofs.Stage.Cycle
import IngressConvergence.Proofs.World.Faultless

/-!
# Self-healing

Whatever earlier cycles left in the cloud, one cycle that nothing disturbs repairs it: if the tables are
consistent and what the ingress annotates can be had at all, the cycle succeeds, and one load balancer
alone has the name of the ingress and is as annotated.  This is `Controller.reconcile_heals`.
-/

namespace IngressConvergence

/-- What a cycle for a key cannot do without: annotations whose subnets and security groups are
resolved if there are no faults, a desired state that is allowed, and the firewall policy, if one is
annotated. -/
structure World.Supports
    (world : World)
    (controller : Controller)
    (key : IngressKey)
    (annotations : IngressAnnotations)
    (subnets : List String) : Prop where
  cached : world.store.annotations key = some annotations
  resolved :
    (world.withoutFaults.run
      (DesiredState.resolveSubnets annotations.loadBalancer.subnets
        annotations.loadBalancer.scheme)).1 = .ok subnets
  securityGroups :
    ∃ groups,
      (world.withoutFaults.run
        (DesiredState.resolveSecurityGroups annotations.loadBalancer.securityGroups)).1 =
          .ok groups
  allowed :
    DesiredState.isAllowed world.store.configuration key
      (.ofSubnets controller.naming key annotations subnets) = true
  webAclExists :
    ∀ webAclId, annotations.loadBalancer.webAclId = some webAclId →
      world.cloud.tables.webAcls.contains webAclId = true

/-- One load balancer alone has a name, and it is as annotated, with the given subnets. -/
structure CloudTables.Provides
    (tables : CloudTables)
    (name : String)
    (annotations : LoadBalancerAnnotations)
    (subnets : List String)
    (balancer : LoadBalancer) : Prop where
  only :
    ∀ arn other,
      tables.loadBalancers.lookup arn = some other ∧ other.name = name ↔
        arn = balancer.arn ∧ other = balancer
  scheme : balancer.scheme = annotations.scheme
  ipAddressType : balancer.ipAddressType = annotations.ipAddressType.getD .ipv4
  subnets : ∀ subnet, subnet ∈ balancer.subnets ↔ subnet ∈ subnets
  webAcl : tables.associationOf balancer.arn = annotations.webAclId
  attributes :
    ∀ name value, annotations.attributes.lookup name = some value →
      (tables.attributesOf balancer.arn).lookup name = some value

/-- In consistent tables no other load balancer has the name of one that is found by it. -/
theorem CloudTables.IsConsistent.only_of_findByName
    {tables : CloudTables}
    {name : String}
    {balancer : LoadBalancer}
    (consistent : tables.IsConsistent)
    (found : tables.findByName name = some balancer)
    (arn : String)
    (other : LoadBalancer) :
    tables.loadBalancers.lookup arn = some other ∧ other.name = name ↔
      arn = balancer.arn ∧ other = balancer := by
  rcases (consistent.findByName_eq_some_iff name balancer).mp found with ⟨stored, named⟩
  constructor
  · rintro ⟨otherStored, otherNamed⟩
    have same :=
      consistent.uniqueNames arn balancer.arn other balancer otherStored stored
        (otherNamed.trans named.symm)
    rw [same, stored] at otherStored
    exact ⟨same, (Option.some.inj otherStored).symm⟩
  · rintro ⟨rfl, rfl⟩
    exact ⟨stored, named⟩

/-- Converged tables provide what is annotated, if the controller converges attributes itself. -/
theorem CloudTables.IsConverged.provides
    {tables : CloudTables}
    {policy : NamingPolicy}
    {key : IngressKey}
    {annotations : IngressAnnotations}
    {subnets : List String}
    {balancer : LoadBalancer}
    (converged :
      tables.IsConverged .direct (.ofSubnets policy key annotations subnets)
        annotations.loadBalancer balancer)
    (consistent : tables.IsConsistent) :
    tables.Provides (policy.loadBalancerName key) annotations.loadBalancer subnets balancer where
  only := consistent.only_of_findByName converged.found
  scheme := converged.realizes.scheme
  ipAddressType := converged.realizes.ipAddressType
  subnets := by
    intro subnet
    have same := (Convergence.subnetsDiffer_eq_false_iff _ _).mp converged.realizes.subnets subnet
    exact same.trans (DesiredState.mem_eraseReps subnets subnet)
  webAcl := converged.attached.webAcl
  attributes := converged.attached.attributes rfl

/-- A world that supports a cycle agrees with a calm world that admits it. -/
theorem World.Supports.admits
    {world : World}
    {controller : Controller}
    {key : IngressKey}
    {annotations : IngressAnnotations}
    {subnets : List String}
    (supports : world.Supports controller key annotations subnets) :
    world.calm.Admits controller key annotations subnets where
  cached := supports.cached
  resolved := by
    have undisturbed := world.isFaultless_withoutFaults.undisturbed
      (DesiredState.resolveSubnets annotations.loadBalancer.subnets
        annotations.loadBalancer.scheme)
    have runsAs := undisturbed.runsAs world.matches_calm.withoutFaults
    exact ⟨_, runsAs.yields_of_eq_ok supports.resolved⟩
  securityGroups := by
    rcases supports.securityGroups with ⟨groups, resolved⟩
    have undisturbed := world.isFaultless_withoutFaults.undisturbed
      (DesiredState.resolveSecurityGroups annotations.loadBalancer.securityGroups)
    have runsAs := undisturbed.runsAs world.matches_calm.withoutFaults
    exact ⟨groups, _, runsAs.yields_of_eq_ok resolved⟩
  allowed := supports.allowed

/-!
## A stale cloud

In this world the load balancer of an ingress is out of date: it is internal, has another subnet and
other addresses than are annotated, and neither the attribute nor the firewall policy.
-/

namespace StaleCloud

/-- A controller that converges attributes itself. -/
def controller : Controller := ⟨.ofConfiguration {}, .direct⟩

/-- An ingress in the default namespace. -/
def ingress : Ingress := ⟨none, some "shop"⟩

/-- The key of the ingress. -/
def key : IngressKey := ⟨IngressKey.defaultNamespace, "shop"⟩

theorem named : IngressKey.ofIngress? ingress = some key := rfl

/-- One subnet is annotated by its identifier and one by its name. -/
def annotations : IngressAnnotations where
  loadBalancer :=
    { scheme := .internetFacing
      subnets := ["subnet-2", "blue"]
      webAclId := some "guard"
      attributes := .ofList [("idle_timeout.timeout_seconds", "60")] }

/-- What stands under the name of the ingress: scheme, address type and subnets are not the annotated ones. -/
def balancer : LoadBalancer :=
  .describe "eu-west-1" 7 (controller.naming.loadBalancerName key) .internal .dualstack
    ["subnet-3"]

/-- A cloud with the balancer, a subnet that has a name, and the annotated firewall policy. -/
def tables : CloudTables :=
  (((CloudTables.empty "eu-west-1").addNamedSubnet "blue" "subnet-1").addWebAcl
    "guard").addLoadBalancer balancer

/-- A world with this cloud and the annotations of the ingress. -/
def world : World :=
  { World.start "eu-west-1" {} with
    cloud := { CloudService.empty "eu-west-1" with tables }
    store := (Store.empty {}).setAnnotations key annotations }

theorem isFaultless : world.IsFaultless := ⟨rfl, rfl, rfl, rfl⟩

theorem arises : world.cloud.tables.Arises :=
  .loadBalancer (.webAcl (.namedSubnet (.empty "eu-west-1") "blue" "subnet-1") "guard") balancer

theorem isConsistent : world.cloud.tables.IsConsistent :=
  ((CloudTables.isConsistent_empty "eu-west-1").insert rfl fun _ _ stored => nomatch stored).congr
    rfl

theorem found :
    world.cloud.tables.findByName (controller.naming.loadBalancerName key) = some balancer :=
  (isConsistent.findByName_eq_some_iff _ balancer).mpr
    ⟨(Table.lookup_insert _ _ _ _).trans (if_pos rfl), rfl⟩

/-- The annotated subnets are resolved and put in order. -/
theorem supports : world.Supports controller key annotations ["subnet-1", "subnet-2"] where
  cached := rfl
  resolved := by
    have sorted : List.mergeSort ["subnet-2", "subnet-1"] = ["subnet-1", "subnet-2"] := by
      simp [List.mergeSort, List.MergeSort.Internal.splitInTwo]
    exact congrArg Except.ok sorted
  securityGroups := ⟨[], rfl⟩
  allowed := rfl
  webAclExists := by
    intro webAclId annotated
    cases annotated
    rfl

/-- The cycle that heals the load balancer. -/
def cycle : Attempt ControllerError LoadBalancerStatus :=
  controller.reconcile ingress

end StaleCloud

namespace Controller

variable {world : World} {controller : Controller} {ingress : Ingress} {key : IngressKey}
  {annotations : IngressAnnotations} {subnets : List String}

/-- A cycle that a world supports succeeds in a calm world that agrees with it. -/
theorem yields_reconcile_of_supports
    (consistent : world.cloud.tables.IsConsistent)
    (named : IngressKey.ofIngress? ingress = some key)
    (supports : world.Supports controller key annotations subnets) :
    ∃ status after, world.calm.Yields (controller.reconcile ingress) status after := by
  rcases yields_converge consistent supports.admits supports.webAclExists ingress with
    ⟨status, after, converges⟩
  exact ⟨status, after, yields_reconcile_iff.mpr ⟨key, named, converges⟩⟩

theorem eq_ok_of_supports
    (consistent : world.cloud.tables.IsConsistent)
    (named : IngressKey.ofIngress? ingress = some key)
    (supports : world.Supports controller key annotations subnets)
    (undisturbed : world.Undisturbed (controller.reconcile ingress)) :
    ∃ status, (world.run (controller.reconcile ingress)).1 = .ok status := by
  rcases yields_reconcile_of_supports consistent named supports with ⟨status, after, yields⟩
  exact ⟨status, (undisturbed.runsAs world.matches_calm).eq_ok_of_yields yields⟩

/-- A cycle that nothing disturbs succeeds in every cloud with consistent tables, and one load
balancer alone then has the name of the ingress, is as annotated and is the one that is told of. -/
theorem reconcile_heals
    (direct : controller.attributeRoute = .direct)
    (consistent : world.cloud.tables.IsConsistent)
    (named : IngressKey.ofIngress? ingress = some key)
    (supports : world.Supports controller key annotations subnets)
    (undisturbed : world.Undisturbed (controller.reconcile ingress)) :
    ∃ balancer,
      (world.run (controller.reconcile ingress)).1 = .ok ⟨balancer.arn, balancer.dnsName⟩ ∧
        (world.run (controller.reconcile ingress)).2.cloud.tables.Provides
          (controller.naming.loadBalancerName key) annotations.loadBalancer subnets balancer := by
  rcases yields_reconcile_of_supports consistent named supports with ⟨status, after, yields⟩
  rcases yields_reconcile_iff.mp yields with ⟨sameKey, sameNamed, converges⟩
  cases named.symm.trans sameNamed
  rcases isConverged_of_yields consistent converges with
    ⟨found, resolved, balancer, admitsFound, -, converged, rfl⟩
  rcases supports.admits.unique admitsFound with ⟨rfl, rfl⟩
  rw [direct] at converged
  have runsAs := undisturbed.runsAs world.matches_calm
  refine ⟨balancer, runsAs.eq_ok_of_yields yields, ?_⟩
  rw [(runsAs.matches_of_yields yields).tables]
  exact converged.provides (yields.keeps.consistent consistent)

/-- One cycle brings a load balancer that is out of date to what is annotated. -/
theorem reconcile_heals_staleCloud :
    ∃ balancer,
      (StaleCloud.world.run StaleCloud.cycle).1 = .ok ⟨balancer.arn, balancer.dnsName⟩ ∧
        (StaleCloud.world.run StaleCloud.cycle).2.cloud.tables.Provides
          (StaleCloud.controller.naming.loadBalancerName StaleCloud.key)
          StaleCloud.annotations.loadBalancer ["subnet-1", "subnet-2"] balancer :=
  reconcile_heals rfl StaleCloud.isConsistent StaleCloud.named StaleCloud.supports
    (StaleCloud.isFaultless.undisturbed StaleCloud.cycle)

end Controller

end IngressConvergence
