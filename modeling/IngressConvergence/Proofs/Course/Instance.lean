import IngressConvergence.Proofs.Cloud.Intact
import IngressConvergence.Proofs.Course.Ending

/-!
# The courses of a load balancer

A load balancer is found and created, replaced or patched in one of a few ways, whatever faults are met:
`Convergence.InstanceCourse` lists them, with the calls that are made and the tables that are left.  To
patch a load balancer keeps it where it is, and what is attached to it does not touch it.
-/

namespace IngressConvergence

/-! ## Calls that patch and calls that attach -/

/-- A call to the cloud that only reads, or changes the load balancer of a handle in place. -/
def CloudCall.Patches
    (arn : String) : CloudCall → Prop
  | .setIpAddressType target _ => target = arn
  | .setSubnets target _ => target = arn
  | call => call.isMutating = false

/-- A call to the cloud that only reads, or changes what is attached to a handle. -/
def CloudCall.AttachesTo
    (arn : String) : CloudCall → Prop
  | .modifyAttributes target _ => target = arn
  | .associateWebAcl target _ => target = arn
  | .disassociateWebAcl target => target = arn
  | call => call.isMutating = false

namespace CloudTables

variable {tables after : CloudTables} {arn : String} {balancer : LoadBalancer} {call : CloudCall}
  {answer : call.Answer}

/-- A call that patches keeps every load balancer. -/
theorem exists_continued_of_perform
    (patches : call.Patches arn)
    (performed : tables.perform call = .ok (answer, after))
    {other : String}
    (stored : tables.loadBalancers.lookup other = some balancer) :
    ∃ kept, after.loadBalancers.lookup other = some kept ∧ IsContinued balancer kept := by
  by_cases targeted : call.target? tables = some other
  case neg =>
    have same := (sameSlot_of_perform performed targeted).loadBalancer
    exact ⟨balancer, same.trans stored, .refl balancer⟩
  cases call with
  | setIpAddressType target ipAddressType =>
      cases targeted
      rcases setIpAddressType_eq_ok_iff.mp performed with ⟨before, storedBefore, rfl⟩
      cases stored.symm.trans storedBefore
      exact ⟨_, (Table.lookup_insert _ _ _ _).trans (if_pos rfl), rfl, rfl, rfl, rfl⟩
  | setSubnets target subnets =>
      cases targeted
      rcases setSubnets_eq_ok_iff.mp performed with ⟨before, storedBefore, rfl⟩
      cases stored.symm.trans storedBefore
      exact ⟨_, (Table.lookup_insert _ _ _ _).trans (if_pos rfl), rfl, rfl, rfl, rfl⟩
  | _ =>
      cases eq_of_perform_of_not_isMutating patches performed
      exact ⟨balancer, stored, .refl balancer⟩

/-- A load balancer that is patched any number of times is continued. -/
theorem Becomes.exists_continued
    (becomes : tables.Becomes (CloudCall.Patches arn) after)
    {other : String}
    (stored : tables.loadBalancers.lookup other = some balancer) :
    ∃ kept, after.loadBalancers.lookup other = some kept ∧ IsContinued balancer kept := by
  induction becomes with
  | start => exact ⟨balancer, stored, .refl balancer⟩
  | call earlier patches performed ih =>
      rcases ih with ⟨between, storedBetween, continued⟩
      rcases exists_continued_of_perform patches performed storedBetween with
        ⟨kept, storedKept, continuedKept⟩
      exact ⟨kept, storedKept, continued.trans continuedKept⟩

theorem Becomes.isOrderly_of_patches
    (becomes : tables.Becomes (CloudCall.Patches arn) after)
    (orderly : tables.IsOrderly) :
    after.IsOrderly := by
  induction becomes with
  | start => exact orderly
  | call earlier patches performed ih =>
      refine ih.perform ?_ performed
      rintro target webAclId rfl
      cases patches

/-- A call that attaches something leaves the load balancers as they are. -/
theorem loadBalancers_of_attachesTo
    (attaches : call.AttachesTo arn)
    (performed : tables.perform call = .ok (answer, after)) :
    after.loadBalancers = tables.loadBalancers := by
  cases call with
  | modifyAttributes target attributes =>
      rcases modifyAttributes_eq_ok_iff.mp performed with ⟨-, rfl⟩
      rfl
  | associateWebAcl target webAclId =>
      rcases associateWebAcl_eq_ok_iff.mp performed with ⟨-, rfl⟩
      rfl
  | disassociateWebAcl target =>
      cases performed
      rfl
  | _ => exact congrArg loadBalancers (eq_of_perform_of_not_isMutating attaches performed)

theorem Becomes.loadBalancers_eq
    (becomes : tables.Becomes (CloudCall.AttachesTo arn) after) :
    after.loadBalancers = tables.loadBalancers := by
  induction becomes with
  | start => rfl
  | call earlier attaches performed ih => exact (loadBalancers_of_attachesTo attaches performed).trans ih

/-- What is attached to a load balancer that exists is no orphan. -/
theorem Becomes.isOrderly_of_attachesTo
    (becomes : tables.Becomes (CloudCall.AttachesTo arn) after)
    (exist : tables.loadBalancers.contains arn = true)
    (orderly : tables.IsOrderly) :
    after.IsOrderly := by
  induction becomes with
  | start => exact orderly
  | call earlier attaches performed ih =>
      refine ih.perform ?_ performed
      rintro target webAclId rfl
      cases attaches
      rw [earlier.loadBalancers_eq]
      exact exist

end CloudTables

/-! ## The load balancer itself -/

namespace Convergence

variable {desired : DesiredState} {current : LoadBalancer} {tables after : CloudTables}
  {calls : List CloudCall}

/-- The ways in which a load balancer is found and created, replaced or patched.  Only a load balancer
with another scheme is deleted, before anything else is changed, and none that is deleted is patched. -/
inductive InstanceCourse
    (desired : DesiredState)
    (tables : CloudTables) :
    List CloudCall → Except ControllerError LoadBalancer → CloudTables → Prop where
  | notLookedUp
      (error : ControllerError) :
      InstanceCourse desired tables [] (.error error) tables
  | notCreated
      {calls : List CloudCall}
      (absent : tables.findByName desired.name = none)
      (tried : calls <+: [.createLoadBalancer desired.createRequest])
      (error : ControllerError) :
      InstanceCourse desired tables calls (.error error) tables
  | created
      {balancer : LoadBalancer}
      {after : CloudTables}
      (absent : tables.findByName desired.name = none)
      (performed :
        tables.perform (.createLoadBalancer desired.createRequest) = .ok (balancer, after)) :
      InstanceCourse desired tables [.createLoadBalancer desired.createRequest] (.ok balancer) after
  | notDeleted
      {current : LoadBalancer}
      {calls : List CloudCall}
      (found : tables.findByName desired.name = some current)
      (differs : current.scheme ≠ desired.scheme)
      (tried : calls <+: [.deleteLoadBalancer current.arn])
      (error : ControllerError) :
      InstanceCourse desired tables calls (.error error) tables
  | notRecreated
      {current : LoadBalancer}
      {calls : List CloudCall}
      (found : tables.findByName desired.name = some current)
      (differs : current.scheme ≠ desired.scheme)
      (tried : calls <+: [.createLoadBalancer desired.createRequest])
      (error : ControllerError) :
      InstanceCourse desired tables (.deleteLoadBalancer current.arn :: calls) (.error error)
        (tables.delete current.arn)
  | recreated
      {current balancer : LoadBalancer}
      {after : CloudTables}
      (found : tables.findByName desired.name = some current)
      (differs : current.scheme ≠ desired.scheme)
      (performed :
        (tables.delete current.arn).perform (.createLoadBalancer desired.createRequest) =
          .ok (balancer, after)) :
      InstanceCourse desired tables
        [.deleteLoadBalancer current.arn, .createLoadBalancer desired.createRequest]
        (.ok balancer) after
  | patched
      {current : LoadBalancer}
      {calls : List CloudCall}
      {result : Except ControllerError LoadBalancer}
      {after : CloudTables}
      (found : tables.findByName desired.name = some current)
      (sameScheme : current.scheme = desired.scheme)
      (patches : ∀ call ∈ calls, call.Patches current.arn)
      (patched : tables.Becomes (CloudCall.Patches current.arn) after)
      (asFound : ∀ balancer, result = .ok balancer → balancer = current) :
      InstanceCourse desired tables calls result after

theorem patches_of_mem_typeCalls
    {call : CloudCall}
    (member : call ∈ typeCalls current desired) :
    call.Patches current.arn := by
  rw [typeCalls] at member
  split at member
  · cases member
  · cases List.mem_singleton.mp member
    rfl

theorem patches_of_mem_subnetCalls
    {call : CloudCall}
    (member : call ∈ subnetCalls current desired) :
    call.Patches current.arn := by
  rw [subnetCalls] at member
  split at member
  · cases member
  · cases List.mem_singleton.mp member
    rfl

/-- However the attempt ends, it has taken one of the courses. -/
theorem InstanceEnding.instanceCourse
    {result : Except ControllerError LoadBalancer}
    (ending : InstanceEnding desired tables calls result after) :
    InstanceCourse desired tables calls result after := by
  cases ending with
  | notLookedUp error => exact .notLookedUp _
  | notCreated absent tried error => exact .notCreated absent tried _
  | created absent performed => exact .created absent performed
  | notDeleted found differs tried error => exact .notDeleted found differs tried _
  | notRecreated found differs tried error => exact .notRecreated found differs tried _
  | recreated found differs performed => exact .recreated found differs performed
  | notRetyped found sameScheme tried error =>
      refine .patched found sameScheme ?_ .start nofun
      intro call member
      exact patches_of_mem_typeCalls (tried.subset member)
  | notMoved found sameScheme retyped tried error =>
      have patched := retyped.becomes (fun _ => patches_of_mem_typeCalls) .start
      refine .patched found sameScheme ?_ patched nofun
      intro call member
      rcases List.mem_append.mp member with earlier | later
      · exact patches_of_mem_typeCalls earlier
      · exact patches_of_mem_subnetCalls (tried.subset later)
  | patched found sameScheme retyped moved =>
      have patched :=
        moved.becomes (fun _ => patches_of_mem_subnetCalls)
          (retyped.becomes (fun _ => patches_of_mem_typeCalls) .start)
      refine .patched found sameScheme ?_ patched ?_
      · intro call member
        rcases List.mem_append.mp member with earlier | later
        · exact patches_of_mem_typeCalls earlier
        · exact patches_of_mem_subnetCalls later
      · rintro balancer ⟨⟩
        rfl

theorem instanceCourse_of_course
    {result : Except ControllerError LoadBalancer}
    (course : (ensureInstance desired).Course tables calls result after) :
    InstanceCourse desired tables calls result after :=
  (instanceEnding_of_course course).instanceCourse

end Convergence

end IngressConvergence
