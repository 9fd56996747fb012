import IngressConvergence.Proofs.Course.Cycle
import IngressConvergence.Proofs.SelfHealing

/-!
# No needless replacement

To replace a load balancer is an outage for its ingress.  Whatever faults a cycle meets, the load
balancer that it finds is still there afterwards, under the same handle and host name, unless another
scheme is annotated, can be had and is allowed; then the cycle deletes it before it changes anything
else, and it patches nothing.  This is `Controller.replaces_for_scheme_only`.
-/

namespace IngressConvergence

open CloudTables (IsContinued)

/-! ## What is kept and what is replaced -/

/-- A load balancer is still there: it is found by its name and stored under its handle, with the same
host name and scheme. -/
def CloudTables.Continues
    (tables : CloudTables)
    (balancer : LoadBalancer) : Prop :=
  ∃ kept,
    tables.loadBalancers.lookup balancer.arn = some kept ∧
      tables.findByName balancer.name = some kept ∧ IsContinued balancer kept

/-- A cycle replaces a load balancer: another scheme is annotated, the subnets are resolved, what is
desired is allowed, and the first call that may change the cloud deletes the load balancer. -/
structure World.Replaces
    (world : World)
    (controller : Controller)
    (ingress : Ingress)
    (key : IngressKey)
    (balancer : LoadBalancer)
    (annotations : IngressAnnotations)
    (subnets : List String) : Prop where
  cached : world.store.annotations key = some annotations
  differs : annotations.loadBalancer.scheme ≠ balancer.scheme
  resolved :
    ((world.started key).run (DesiredState.resolveSubnets annotations.loadBalancer.subnets
      annotations.loadBalancer.scheme)).1 = .ok subnets
  allowed :
    DesiredState.isAllowed world.store.configuration key
      (.ofSubnets controller.naming key annotations subnets) = true
  deletesFirst :
    ∃ later,
      (world.run (controller.reconcile ingress)).2.cloud.mutatingCalls =
        world.cloud.mutatingCalls ++ .deleteLoadBalancer balancer.arn :: later

/-- Whether a call changes a load balancer in place. -/
def CloudCall.isPatch : CloudCall → Bool
  | .setIpAddressType _ _ => true
  | .setSubnets _ _ => true
  | _ => false

theorem CloudCall.AttachesTo.isPatch_eq_false
    {arn : String}
    {call : CloudCall}
    (attaches : call.AttachesTo arn) :
    call.isPatch = false := by
  cases call with
  | setIpAddressType target ipAddressType => cases attaches
  | setSubnets target subnets => cases attaches
  | _ => rfl

theorem CloudCall.AttachesTo.ne_delete
    {arn other : String}
    {call : CloudCall}
    (attaches : call.AttachesTo arn) :
    call ≠ .deleteLoadBalancer other := by
  rintro rfl
  cases attaches

/-! ## The load balancer of a cycle -/

namespace Convergence.InstanceCourse

variable {desired : DesiredState} {current balancer : LoadBalancer} {tables after : CloudTables}
  {calls : List CloudCall} {result : Except ControllerError LoadBalancer}

/-- A load balancer that is found is continued, or it has another scheme and is deleted first. -/
theorem continued_or_deleted
    (course : InstanceCourse desired tables calls result after)
    (found : tables.findByName desired.name = some current)
    (stored : tables.loadBalancers.lookup current.arn = some current) :
    (∃ kept, after.loadBalancers.lookup current.arn = some kept ∧ IsContinued current kept) ∨
      current.scheme ≠ desired.scheme ∧
        ∃ later, calls = .deleteLoadBalancer current.arn :: later := by
  cases course with
  | notLookedUp error => exact .inl ⟨current, stored, .refl current⟩
  | notCreated absent tried error => exact .inl ⟨current, stored, .refl current⟩
  | created absent performed =>
      rw [absent] at found
      cases found
  | notDeleted foundToo differs tried error => exact .inl ⟨current, stored, .refl current⟩
  | notRecreated foundToo differs tried error =>
      cases found.symm.trans foundToo
      exact .inr ⟨differs, _, rfl⟩
  | recreated foundToo differs performed =>
      cases found.symm.trans foundToo
      exact .inr ⟨differs, _, rfl⟩
  | patched foundToo sameScheme patches patched asFound => exact .inl (patched.exists_continued stored)

/-- A load balancer that has the desired scheme is given as it was found. -/
theorem eq_of_sameScheme
    (course : InstanceCourse desired tables calls (.ok balancer) after)
    (found : tables.findByName desired.name = some current)
    (sameScheme : current.scheme = desired.scheme) :
    balancer = current := by
  cases course with
  | created absent performed =>
      rw [absent] at found
      cases found
  | recreated foundToo differs performed =>
      cases found.symm.trans foundToo
      exact absurd sameScheme differs
  | patched foundToo sameSchemeToo patches patched asFound =>
      cases found.symm.trans foundToo
      exact asFound balancer rfl

/-- Nothing is patched on a course on which a load balancer is deleted. -/
theorem isPatch_eq_false
    (course : InstanceCourse desired tables calls result after)
    {arn : String}
    (deletes : .deleteLoadBalancer arn ∈ calls) :
    ∀ call ∈ calls, call.isPatch = false := by
  have only (request : CreateRequest) (others : List CloudCall)
      (tried : others <+: [.createLoadBalancer request]) :
      ∀ call ∈ others, call.isPatch = false := by
    intro call member
    rw [List.mem_singleton.mp (tried.subset member)]
    rfl
  cases course with
  | notLookedUp error => cases deletes
  | notCreated absent tried error => exact only _ _ tried
  | created absent performed => exact only _ _ (List.prefix_refl _)
  | notDeleted found differs tried error =>
      intro call member
      rw [List.mem_singleton.mp (tried.subset member)]
      rfl
  | notRecreated found differs tried error =>
      intro call member
      rcases List.mem_cons.mp member with rfl | later
      · rfl
      · exact only _ _ tried call later
  | recreated found differs performed =>
      intro call member
      rcases List.mem_cons.mp member with rfl | later
      · rfl
      · exact only _ _ (List.prefix_refl _) call later
  | patched found sameScheme patches patched asFound =>
      have impossible := patches _ deletes
      cases impossible

end Convergence.InstanceCourse

namespace Controller.ProvideCourse

variable {desired : DesiredState} {current : LoadBalancer} {tables after : CloudTables}
  {calls : List CloudCall} {result : Except ControllerError LoadBalancerStatus}

/-- A load balancer continues through a cycle, or it is deleted first, for its scheme. -/
theorem continued_or_deleted
    (course : ProvideCourse desired tables calls result after)
    (found : tables.findByName desired.name = some current)
    (stored : tables.loadBalancers.lookup current.arn = some current) :
    (∃ kept, after.loadBalancers.lookup current.arn = some kept ∧ IsContinued current kept) ∨
      current.scheme ≠ desired.scheme ∧
        ∃ later, calls = .deleteLoadBalancer current.arn :: later := by
  cases course with
  | stopped instances => exact instances.continued_or_deleted found stored
  | wentOn instances attaches attached told =>
      rw [attached.loadBalancers_eq]
      rcases instances.continued_or_deleted found stored with kept | ⟨differs, later, rfl⟩
      · exact .inl kept
      · exact .inr ⟨differs, _, rfl⟩

theorem status_eq_of_sameScheme
    {status : LoadBalancerStatus}
    (course : ProvideCourse desired tables calls (.ok status) after)
    (found : tables.findByName desired.name = some current)
    (sameScheme : current.scheme = desired.scheme) :
    status = ⟨current.arn, current.dnsName⟩ := by
  cases course with
  | wentOn instances attaches attached told =>
      cases instances.eq_of_sameScheme found sameScheme
      exact told status rfl

/-- A cycle that deletes changes nothing in place. -/
theorem isPatch_eq_false
    (course : ProvideCourse desired tables calls result after)
    {arn : String}
    (deletes : .deleteLoadBalancer arn ∈ calls) :
    ∀ call ∈ calls, call.isPatch = false := by
  cases course with
  | stopped instances => exact instances.isPatch_eq_false deletes
  | wentOn instances attaches attached told =>
      intro call member
      rcases List.mem_append.mp deletes with deletesEarlier | deletesLater
      · rcases List.mem_append.mp member with earlier | later
        · exact instances.isPatch_eq_false deletesEarlier call earlier
        · exact (attaches call later).isPatch_eq_false
      · exact absurd rfl (attaches _ deletesLater).ne_delete

end Controller.ProvideCourse

/-! ## Cycles -/

theorem CloudTables.IsConsistent.continues
    {tables : CloudTables}
    {balancer kept : LoadBalancer}
    (consistent : tables.IsConsistent)
    (stored : tables.loadBalancers.lookup balancer.arn = some kept)
    (continued : IsContinued balancer kept) :
    tables.Continues balancer := by
  refine ⟨kept, stored, ?_, continued⟩
  apply (consistent.findByName_eq_some_iff balancer.name kept).mpr
  exact ⟨continued.arn ▸ stored, continued.name⟩

namespace Controller

variable {world : World} {controller : Controller} {ingress : Ingress} {key : IngressKey}
  {balancer : LoadBalancer} {annotations : IngressAnnotations}

/-- A cycle leaves the load balancer that it finds where it is, or replaces it. -/
theorem continues_or_replaces
    (consistent : world.cloud.tables.IsConsistent)
    (named : IngressKey.ofIngress? ingress = some key)
    (found :
      world.cloud.tables.findByName (controller.naming.loadBalancerName key) = some balancer) :
    (world.run (controller.reconcile ingress)).2.cloud.tables.Continues balancer ∨
      ∃ annotations subnets,
        world.Replaces controller ingress key balancer annotations subnets := by
  rcases (consistent.findByName_eq_some_iff _ balancer).mp found with ⟨stored, -⟩
  have after := World.isConsistent_run (controller.reconcile ingress) consistent
  rcases world.run_reconcile_cases controller ingress with
    ⟨error, -, unchanged⟩ | ⟨other, annotations, subnets, calls, proceeds⟩
  · rw [unchanged.tables]
    exact .inl (consistent.continues stored (.refl balancer))
  · cases named.symm.trans proceeds.named
    rcases proceeds.begins with ⟨prepared, begun⟩
    rcases proceeds.course.continued_or_deleted found stored with
      ⟨kept, storedKept, continued⟩ | ⟨differs, later, rfl⟩
    · exact .inl (after.continues storedKept continued)
    · exact .inr ⟨annotations, subnets,
        { cached := begun.cached
          differs := differs.symm
          resolved := begun.resolved
          allowed := begun.allowed
          deletesFirst := ⟨later, proceeds.added⟩ }⟩

/-- A cycle that finds a load balancer with the annotated scheme tells of no other. -/
theorem status_eq_of_sameScheme
    {status : LoadBalancerStatus}
    (named : IngressKey.ofIngress? ingress = some key)
    (found :
      world.cloud.tables.findByName (controller.naming.loadBalancerName key) = some balancer)
    (cached : world.store.annotations key = some annotations)
    (sameScheme : annotations.loadBalancer.scheme = balancer.scheme)
    (succeeds : (world.run (controller.reconcile ingress)).1 = .ok status) :
    status = ⟨balancer.arn, balancer.dnsName⟩ := by
  rcases world.run_reconcile_cases controller ingress with
    ⟨error, fails, -⟩ | ⟨other, given, subnets, calls, proceeds⟩
  · rw [succeeds] at fails
    cases fails
  · cases named.symm.trans proceeds.named
    rcases proceeds.begins with ⟨prepared, begun⟩
    cases cached.symm.trans begun.cached
    have course := proceeds.course
    rw [succeeds] at course
    exact course.status_eq_of_sameScheme found sameScheme.symm

/-- No cycle patches anything if it deletes a load balancer. -/
theorem exists_calls_without_patch
    (world : World)
    (controller : Controller)
    (ingress : Ingress) :
    ∃ calls,
      (world.run (controller.reconcile ingress)).2.cloud.mutatingCalls =
          world.cloud.mutatingCalls ++ calls ∧
        ∀ arn, .deleteLoadBalancer arn ∈ calls → ∀ call ∈ calls, call.isPatch = false := by
  rcases world.run_reconcile_cases controller ingress with
    ⟨error, -, unchanged⟩ | ⟨key, annotations, subnets, calls, proceeds⟩
  · exact ⟨[], by rw [unchanged.mutatingCalls, List.append_nil], fun arn deletes => nomatch deletes⟩
  · exact ⟨calls, proceeds.added, fun arn deletes => proceeds.course.isPatch_eq_false deletes⟩

/-- A load balancer is replaced for the sake of its scheme only: a cycle leaves the one that it finds
under its handle and host name, or the annotated scheme differs, can be had and is allowed, and the cycle
begins its changes by deleting that load balancer.  Whatever else is annotated, the load balancer stays
and is the one that is told of.  A cycle that deletes a load balancer patches none. -/
theorem replaces_for_scheme_only
    (arises : world.cloud.tables.Arises)
    (uniqueNames : world.cloud.tables.HasUniqueNames)
    (controller : Controller)
    (ingress : Ingress) :
    (∀ key balancer,
      IngressKey.ofIngress? ingress = some key →
      world.cloud.tables.findByName (controller.naming.loadBalancerName key) = some balancer →
        ((world.run (controller.reconcile ingress)).2.cloud.tables.Continues balancer ∨
          ∃ annotations subnets,
            world.Replaces controller ingress key balancer annotations subnets) ∧
        ∀ annotations,
          world.store.annotations key = some annotations →
          annotations.loadBalancer.scheme = balancer.scheme →
            (world.run (controller.reconcile ingress)).2.cloud.tables.Continues balancer ∧
              ∀ status, (world.run (controller.reconcile ingress)).1 = .ok status →
                status = ⟨balancer.arn, balancer.dnsName⟩) ∧
      ∃ calls,
        (world.run (controller.reconcile ingress)).2.cloud.mutatingCalls =
            world.cloud.mutatingCalls ++ calls ∧
          ∀ arn, .deleteLoadBalancer arn ∈ calls → ∀ call ∈ calls, call.isPatch = false := by
  have consistent : world.cloud.tables.IsConsistent := ⟨arises.isKeyedByArn, uniqueNames⟩
  refine ⟨?_, controller.exists_calls_without_patch world ingress⟩
  intro key balancer named found
  have either := continues_or_replaces consistent named found
  refine ⟨either, ?_⟩
  intro annotations cached sameScheme
  refine ⟨?_, fun status => status_eq_of_sameScheme named found cached sameScheme⟩
  rcases either with continues | ⟨others, subnets, replaces⟩
  · exact continues
  · cases cached.symm.trans replaces.cached
    exact absurd sameScheme replaces.differs

end Controller

/-! ## A stale cloud whose scheme is as annotated -/

namespace StaleCloud

/-- The annotations, but with the scheme that the load balancer has. -/
def sameScheme : IngressAnnotations :=
  { annotations with loadBalancer := { annotations.loadBalancer with scheme := .internal } }

/-- The stale cloud with these annotations: all but the scheme is out of date. -/
def outOfDate : World :=
  { world with store := world.store.setAnnotations key sameScheme }

end StaleCloud

/-- A load balancer of which all but the scheme is out of date stays where it is. -/
theorem Controller.replaces_for_scheme_only_staleCloud :
    (StaleCloud.outOfDate.run StaleCloud.cycle).2.cloud.tables.Continues StaleCloud.balancer := by
  have arises : StaleCloud.outOfDate.cloud.tables.Arises := StaleCloud.arises
  have law :=
    replaces_for_scheme_only arises StaleCloud.isConsistent.uniqueNames StaleCloud.controller
      StaleCloud.ingress
  have kept := (law.1 StaleCloud.key StaleCloud.balancer StaleCloud.named StaleCloud.found).2
  exact (kept StaleCloud.sameScheme rfl rfl).1

end IngressConvergence
