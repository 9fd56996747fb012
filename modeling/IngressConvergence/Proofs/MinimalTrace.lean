import IngressConvergence.Proofs.Course.Exact
import IngressConvergence.Proofs.CrashConsistency
import IngressConvergence.Proofs.SelfHealing

/-!
# No needless changes

A cycle that succeeds has made exactly the calls that were needed, in a fixed order: those for the load
balancer are read off the tables before the cycle, and those for its attributes and its firewall policy off
the tables with the load balancer in place.  All of them are made under the handle of the load balancer that
is there in the end, except that the one it replaces is deleted under its own.  This is
`Controller.callsMinimally_of_reconcile`.
-/

namespace IngressConvergence

open Convergence (instanceCalls attributeCalls webAclCalls)

/-- A call is made under a handle: it changes the load balancer of the handle or what is attached to it. -/
def CloudCall.IsUnder
    (arn : String)
    (call : CloudCall) : Prop :=
  call.Patches arn ∨ call.AttachesTo arn

namespace Convergence

variable {desired : DesiredState} {balancer : LoadBalancer} {tables after : CloudTables}
  {calls : List CloudCall} {call : CloudCall} {arn : String}

/-- A load balancer is ensured by calls under its own handle, unless they create or delete one. -/
theorem InstanceEnding.isUnder_of_mem
    (ending : InstanceEnding desired tables calls (.ok balancer) after)
    (member : call ∈ calls) :
    call.IsUnder balancer.arn ∨ call = .createLoadBalancer desired.createRequest ∨
      ∃ arn, call = .deleteLoadBalancer arn := by
  cases ending with
  | created absent performed => exact .inr (.inl (List.mem_singleton.mp member))
  | recreated found differs performed =>
      rcases List.mem_cons.mp member with rfl | later
      · exact .inr (.inr ⟨_, rfl⟩)
      · exact .inr (.inl (List.mem_singleton.mp later))
  | patched found sameScheme retyped moved =>
      rcases List.mem_append.mp member with earlier | later
      · exact .inl (.inl (patches_of_mem_typeCalls earlier))
      · exact .inl (.inl (patches_of_mem_subnetCalls later))

theorem attachesTo_of_mem_attributeCalls
    {held annotated : Table String}
    (member : call ∈ attributeCalls arn held annotated) :
    call.AttachesTo arn := by
  rw [attributeCalls_eq] at member
  split at member
  · cases member
  · cases List.mem_singleton.mp member
    rfl

theorem attachesTo_of_mem_webAclCalls
    {associated annotated : Option String}
    (member : call ∈ webAclCalls arn associated annotated) :
    call.AttachesTo arn := by
  cases annotated with
  | some webAclId =>
      rw [webAclCalls] at member
      split at member
      · cases member
      · cases List.mem_singleton.mp member
        rfl
  | none =>
      rw [webAclCalls] at member
      split at member
      · cases member
      · cases List.mem_singleton.mp member
        rfl

end Convergence

namespace Controller

variable {world : World} {controller : Controller} {key : IngressKey} {ingress : Ingress}
  {annotations : LoadBalancerAnnotations} {desired : DesiredState} {status : LoadBalancerStatus}
  {tables after : CloudTables} {calls : List CloudCall}

/-- Some calls are those that lead from the tables to a desired load balancer, and then those that attach
to it what is annotated and not attached to it in between. -/
structure CallsMinimally
    (controller : Controller)
    (annotations : LoadBalancerAnnotations)
    (desired : DesiredState)
    (tables between : CloudTables)
    (stored : LoadBalancer)
    (calls : List CloudCall) : Prop where
  placed : tables.PerformsAll (instanceCalls tables desired) between
  found : between.findByName desired.name = some stored
  made :
    calls =
      instanceCalls tables desired ++
        (controller.attributeStepCalls stored.arn (between.attributesOf stored.arn)
            annotations.attributes ++
          webAclCalls stored.arn (between.associationOf stored.arn) annotations.webAclId)
  isUnder :
    ∀ call ∈ calls,
      call.IsUnder stored.arn ∨ call = .createLoadBalancer desired.createRequest ∨
        ∃ arn, call = .deleteLoadBalancer arn

theorem attachesTo_of_mem_attributeStepCalls
    {arn : String}
    {held annotated : Table String}
    {call : CloudCall}
    (member : call ∈ controller.attributeStepCalls arn held annotated) :
    call.AttachesTo arn := by
  rw [attributeStepCalls] at member
  split at member
  · exact Convergence.attachesTo_of_mem_attributeCalls member
  · cases member

/-- What follows an allowed desired state, where it succeeds, makes the fewest calls and tells of the load
balancer that is there in the end. -/
theorem callsMinimally_of_course
    (consistent : tables.IsConsistent)
    (course :
      (controller.provide key ingress annotations desired).Course tables calls (.ok status) after) :
    ∃ between stored,
      controller.CallsMinimally annotations desired tables between stored calls ∧
        after.findByName desired.name = some stored ∧ status = ⟨stored.arn, stored.dnsName⟩ := by
  rcases course.bind_of_ok with ⟨balancer, earlier, between, later, rfl, ensures, rest⟩
  rcases rest.bind_of_ok with ⟨done, attaching, last, none, rfl, attaches, ends⟩
  rcases ends.pure with ⟨told, rfl, rfl⟩
  rcases Convergence.makesExactly_ensureInstance tables desired _ _ _ ensures with ⟨rfl, placed⟩
  rcases makesExactly_convergeDependents _ _ _ attaches with ⟨rfl, -⟩
  have ending := Convergence.instanceEnding_of_course ensures
  rcases ending.leaves consistent (placed.isConsistent consistent) with ⟨stored, isStored⟩
  have sameArn : stored.arn = balancer.arn := isStored.continued.arn
  rcases attaches.of_asksOnly asksOnly_convergeDependents with ⟨attached, -⟩
  have kept : after.findByName desired.name = between.findByName desired.name := by
    rw [CloudTables.findByName, attached.loadBalancers_eq]
    rfl
  refine ⟨between, stored, ⟨placed, isStored.found, ?_, ?_⟩, kept.trans isStored.found, ?_⟩
  · rw [sameArn, List.append_nil]
  · rw [sameArn, List.append_nil]
    intro call member
    rcases List.mem_append.mp member with forInstance | forDependents
    · exact ending.isUnder_of_mem forInstance
    rcases List.mem_append.mp forDependents with forAttributes | forWebAcl
    · exact .inl (.inr (attachesTo_of_mem_attributeStepCalls forAttributes))
    · exact .inl (.inr (Convergence.attachesTo_of_mem_webAclCalls forWebAcl))
  · rw [sameArn, isStored.continued.dnsName]
    exact Except.ok.inj told

/-- A cycle that succeeds has made the fewest calls that lead to what is annotated. -/
theorem callsMinimally_of_reconcile
    (arises : world.cloud.tables.Arises)
    (uniqueNames : world.cloud.tables.HasUniqueNames)
    (succeeds : (world.run (controller.reconcile ingress)).1 = .ok status) :
    ∃ key annotations subnets between stored calls,
      IngressKey.ofIngress? ingress = some key ∧
        world.store.annotations key = some annotations ∧
        ((world.started key).run (DesiredState.resolveSubnets annotations.loadBalancer.subnets
          annotations.loadBalancer.scheme)).1 = .ok subnets ∧
        (world.run (controller.reconcile ingress)).2.cloud.mutatingCalls =
          world.cloud.mutatingCalls ++ calls ∧
        controller.CallsMinimally annotations.loadBalancer
          (.ofSubnets controller.naming key annotations subnets) world.cloud.tables between stored
          calls ∧
        (world.run (controller.reconcile ingress)).2.cloud.tables.findByName
          (controller.naming.loadBalancerName key) = some stored ∧
        status = ⟨stored.arn, stored.dnsName⟩ := by
  have consistent : world.cloud.tables.IsConsistent := ⟨arises.isKeyedByArn, uniqueNames⟩
  rcases world.run_reconcile_course controller ingress with
    ⟨error, fails, -⟩ | ⟨key, annotations, subnets, calls, named, ⟨prepared, begun⟩, added, course⟩
  · rw [succeeds] at fails
    cases fails
  · rw [succeeds] at course
    rcases callsMinimally_of_course consistent course with ⟨between, stored, minimal, kept, told⟩
    exact ⟨key, annotations, subnets, between, stored, calls, named, begun.cached, begun.resolved,
      added, minimal, kept, told⟩

/-- The cycle that repairs a load balancer with another scheme begins its changes by replacing it. -/
theorem callsMinimally_of_reconcile_staleCloud :
    ∃ status subnets between stored later,
      (StaleCloud.world.run StaleCloud.cycle).1 = .ok status ∧
        StaleCloud.controller.CallsMinimally StaleCloud.annotations.loadBalancer
          (.ofSubnets StaleCloud.controller.naming StaleCloud.key StaleCloud.annotations subnets)
          StaleCloud.tables between stored
          (.deleteLoadBalancer StaleCloud.balancer.arn ::
            .createLoadBalancer (DesiredState.ofSubnets StaleCloud.controller.naming StaleCloud.key
              StaleCloud.annotations subnets).createRequest :: later) := by
  rcases
      eq_ok_of_supports StaleCloud.isConsistent StaleCloud.named StaleCloud.supports
        (StaleCloud.isFaultless.undisturbed StaleCloud.cycle) with
    ⟨status, succeeds⟩
  rcases
      callsMinimally_of_reconcile StaleCloud.arises StaleCloud.isConsistent.uniqueNames succeeds with
    ⟨key, annotations, subnets, between, stored, calls, named, cached, -, -, minimal, -, -⟩
  cases StaleCloud.named.symm.trans named
  cases StaleCloud.supports.cached.symm.trans cached
  have differs : StaleCloud.balancer.scheme ≠ StaleCloud.annotations.loadBalancer.scheme := by
    decide
  have made := minimal.made
  rw [Convergence.instanceCalls_of_differs StaleCloud.found differs] at made
  rw [made] at minimal
  exact ⟨status, subnets, between, stored, _, succeeds, minimal⟩

end Controller

end IngressConvergence
