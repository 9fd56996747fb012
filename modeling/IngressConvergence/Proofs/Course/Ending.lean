import IngressConvergence.Proofs.Course
import IngressConvergence.Proofs.Stage.LoadBalancer

/-!
# How the attempt for a load balancer ends

The attempt to ensure a load balancer makes at most two calls that may change the cloud, and each of its
errors says which of them failed.  `Convergence.InstanceEnding` lists the endings with their results, the
calls that were made and the tables that are left.  On those that succeed, the calls are the ones that
`Convergence.instanceCalls` reads off the tables before, and they were performed one after the other.
-/

namespace IngressConvergence

/-- Calls succeed one after the other. -/
inductive CloudTables.PerformsAll : CloudTables → List CloudCall → CloudTables → Prop where
  | done
      (tables : CloudTables) :
      PerformsAll tables [] tables
  | call
      {tables middle after : CloudTables}
      {call : CloudCall}
      {calls : List CloudCall}
      {answer : call.Answer}
      (performed : tables.perform call = .ok (answer, middle))
      (rest : PerformsAll middle calls after) :
      PerformsAll tables (call :: calls) after

namespace CloudTables.PerformsAll

variable {tables middle after : CloudTables} {call : CloudCall} {calls earlier later : List CloudCall}

theorem nil_iff :
    tables.PerformsAll [] after ↔ after = tables := by
  constructor
  · rintro ⟨⟩
    rfl
  · rintro rfl
    exact .done after

theorem singleton_iff :
    tables.PerformsAll [call] after ↔ ∃ answer, tables.perform call = .ok (answer, after) := by
  constructor
  · intro performs
    cases performs with
    | call performed rest =>
        cases nil_iff.mp rest
        exact ⟨_, performed⟩
  · rintro ⟨answer, performed⟩
    exact .call performed (.done after)

theorem append
    (performs : tables.PerformsAll earlier middle)
    (goesOn : middle.PerformsAll later after) :
    tables.PerformsAll (earlier ++ later) after := by
  induction performs with
  | done tables => exact goesOn
  | call performed rest ih => exact .call performed (ih goesOn)

theorem isConsistent
    (performs : tables.PerformsAll calls after)
    (consistent : tables.IsConsistent) :
    after.IsConsistent := by
  induction performs with
  | done tables => exact consistent
  | call performed rest ih => exact ih ((change_of_perform performed).isConsistent consistent)

/-- Calls of some kind that succeed change the tables by such calls alone. -/
theorem becomes
    {kind : CloudCall → Prop}
    {start : CloudTables}
    (performs : tables.PerformsAll calls after)
    (ofKind : ∀ call ∈ calls, kind call)
    (reached : start.Becomes kind tables) :
    start.Becomes kind after := by
  induction performs with
  | done tables => exact reached
  | call performed rest ih =>
      have ⟨isOfKind, othersOfKind⟩ := List.forall_mem_cons.mp ofKind
      exact ih othersOfKind (reached.call isOfKind performed)

end CloudTables.PerformsAll

namespace Convergence

variable {desired : DesiredState} {current balancer : LoadBalancer} {tables middle after : CloudTables}
  {calls : List CloudCall}

/-! ## The calls that are needed -/

/-- Two lists hold the same subnets. -/
def SameSubnets
    (left right : List String) : Prop :=
  ∀ subnet, subnet ∈ left ↔ subnet ∈ right

instance (left right : List String) : Decidable (SameSubnets left right) :=
  decidable_of_iff _ (subnetsDiffer_eq_false_iff left right)

/-- The call that gives a load balancer the desired address type, if it has another. -/
def typeCalls
    (current : LoadBalancer)
    (desired : DesiredState) : List CloudCall :=
  if current.ipAddressType = desired.ipAddressType then []
  else [.setIpAddressType current.arn desired.ipAddressType]

/-- The call that gives a load balancer the desired subnets, if it has others. -/
def subnetCalls
    (current : LoadBalancer)
    (desired : DesiredState) : List CloudCall :=
  if SameSubnets current.subnets desired.subnets then []
  else [.setSubnets current.arn desired.subnets]

/-- The calls that lead from some tables to the desired load balancer. -/
def instanceCalls
    (tables : CloudTables)
    (desired : DesiredState) : List CloudCall :=
  match tables.findByName desired.name with
  | none => [.createLoadBalancer desired.createRequest]
  | some current =>
      if current.scheme = desired.scheme then typeCalls current desired ++ subnetCalls current desired
      else [.deleteLoadBalancer current.arn, .createLoadBalancer desired.createRequest]

theorem instanceCalls_of_absent
    (absent : tables.findByName desired.name = none) :
    instanceCalls tables desired = [.createLoadBalancer desired.createRequest] := by
  rw [instanceCalls, absent]

theorem instanceCalls_of_sameScheme
    (found : tables.findByName desired.name = some current)
    (sameScheme : current.scheme = desired.scheme) :
    instanceCalls tables desired = typeCalls current desired ++ subnetCalls current desired := by
  rw [instanceCalls, found]
  exact if_pos sameScheme

theorem instanceCalls_of_differs
    (found : tables.findByName desired.name = some current)
    (differs : current.scheme ≠ desired.scheme) :
    instanceCalls tables desired =
      [.deleteLoadBalancer current.arn, .createLoadBalancer desired.createRequest] := by
  rw [instanceCalls, found]
  exact if_neg differs

/-! ## Endings -/

/-- The endings of the attempt for a load balancer.  Where it fails, the call that failed may or may not
have reached the cloud. -/
inductive InstanceEnding
    (desired : DesiredState)
    (tables : CloudTables) :
    List CloudCall → Except ControllerError LoadBalancer → CloudTables → Prop where
  | notLookedUp
      (error : CloudError) :
      InstanceEnding desired tables [] (.error (.lookup desired.name error)) tables
  | notCreated
      {calls : List CloudCall}
      (absent : tables.findByName desired.name = none)
      (tried : calls <+: [.createLoadBalancer desired.createRequest])
      (error : CloudError) :
      InstanceEnding desired tables calls (.error (.provision desired.name .create error)) tables
  | created
      {balancer : LoadBalancer}
      {after : CloudTables}
      (absent : tables.findByName desired.name = none)
      (performed :
        tables.perform (.createLoadBalancer desired.createRequest) = .ok (balancer, after)) :
      InstanceEnding desired tables [.createLoadBalancer desired.createRequest] (.ok balancer) after
  | notDeleted
      {current : LoadBalancer}
      {calls : List CloudCall}
      (found : tables.findByName desired.name = some current)
      (differs : current.scheme ≠ desired.scheme)
      (tried : calls <+: [.deleteLoadBalancer current.arn])
      (error : CloudError) :
      InstanceEnding desired tables calls
        (.error (.provision current.name .deleteForRecreation error)) tables
  | notRecreated
      {current : LoadBalancer}
      {calls : List CloudCall}
      (found : tables.findByName desired.name = some current)
      (differs : current.scheme ≠ desired.scheme)
      (tried : calls <+: [.createLoadBalancer desired.createRequest])
      (error : CloudError) :
      InstanceEnding desired tables (.deleteLoadBalancer current.arn :: calls)
        (.error (.recreation desired.name current.arn error)) (tables.delete current.arn)
  | recreated
      {current balancer : LoadBalancer}
      {after : CloudTables}
      (found : tables.findByName desired.name = some current)
      (differs : current.scheme ≠ desired.scheme)
      (performed :
        (tables.delete current.arn).perform (.createLoadBalancer desired.createRequest) =
          .ok (balancer, after)) :
      InstanceEnding desired tables
        [.deleteLoadBalancer current.arn, .createLoadBalancer desired.createRequest]
        (.ok balancer) after
  | notRetyped
      {current : LoadBalancer}
      {calls : List CloudCall}
      (found : tables.findByName desired.name = some current)
      (sameScheme : current.scheme = desired.scheme)
      (tried : calls <+: typeCalls current desired)
      (error : CloudError) :
      InstanceEnding desired tables calls
        (.error (.attributeUpdate current.arn .ipAddressType error)) tables
  | notMoved
      {current : LoadBalancer}
      {calls : List CloudCall}
      {after : CloudTables}
      (found : tables.findByName desired.name = some current)
      (sameScheme : current.scheme = desired.scheme)
      (retyped : tables.PerformsAll (typeCalls current desired) after)
      (tried : calls <+: subnetCalls current desired)
      (error : CloudError) :
      InstanceEnding desired tables (typeCalls current desired ++ calls)
        (.error (.attributeUpdate current.arn .subnets error)) after
  | patched
      {current : LoadBalancer}
      {middle after : CloudTables}
      (found : tables.findByName desired.name = some current)
      (sameScheme : current.scheme = desired.scheme)
      (retyped : tables.PerformsAll (typeCalls current desired) middle)
      (moved : middle.PerformsAll (subnetCalls current desired) after) :
      InstanceEnding desired tables (typeCalls current desired ++ subnetCalls current desired)
        (.ok current) after

/-- The address type is left as it is by a failure, or the call that it needs is performed. -/
theorem patchIpAddressType_cases
    {result : Except ControllerError Unit}
    (course : (patchIpAddressType current desired).Course tables calls result after) :
    (∃ error, result = .error (.attributeUpdate current.arn .ipAddressType error) ∧
        calls <+: typeCalls current desired ∧ after = tables) ∨
      result = .ok () ∧ calls = typeCalls current desired ∧
        tables.PerformsAll (typeCalls current desired) after := by
  rcases Attempt.Course.ite course with ⟨differs, patches⟩ | ⟨same, keeps⟩
  · rw [typeCalls, if_neg differs]
    rcases patches.report_bind.cloud with ⟨error, rfl, tried, rfl⟩ | ⟨done, rfl, rfl, performed⟩
    · exact .inl ⟨error, rfl, tried, rfl⟩
    · exact .inr ⟨rfl, rfl, CloudTables.PerformsAll.singleton_iff.mpr ⟨done, performed⟩⟩
  · rcases keeps.pure with ⟨rfl, rfl, rfl⟩
    rw [typeCalls, if_pos (Decidable.not_not.mp same)]
    exact .inr ⟨rfl, rfl, .done after⟩

/-- The subnets are left as they are by a failure, or the call that they need is performed. -/
theorem patchSubnets_cases
    {result : Except ControllerError Unit}
    (course : (patchSubnets current desired).Course tables calls result after) :
    (∃ error, result = .error (.attributeUpdate current.arn .subnets error) ∧
        calls <+: subnetCalls current desired ∧ after = tables) ∨
      result = .ok () ∧ calls = subnetCalls current desired ∧
        tables.PerformsAll (subnetCalls current desired) after := by
  have differ_iff :
      subnetsDiffer current.subnets desired.subnets = true ↔
        ¬ SameSubnets current.subnets desired.subnets := by
    rw [← Bool.not_eq_false, subnetsDiffer_eq_false_iff]
    rfl
  rcases Attempt.Course.ite course with ⟨differ, patches⟩ | ⟨same, keeps⟩
  · rw [subnetCalls, if_neg (differ_iff.mp differ)]
    rcases patches.report_bind.cloud with ⟨error, rfl, tried, rfl⟩ | ⟨done, rfl, rfl, performed⟩
    · exact .inl ⟨error, rfl, tried, rfl⟩
    · exact .inr ⟨rfl, rfl, CloudTables.PerformsAll.singleton_iff.mpr ⟨done, performed⟩⟩
  · rcases keeps.pure with ⟨rfl, rfl, rfl⟩
    rw [subnetCalls, if_pos (Decidable.not_not.mp (mt differ_iff.mpr same))]
    exact .inr ⟨rfl, rfl, .done after⟩

theorem instanceEnding_of_createInstance
    {result : Except ControllerError LoadBalancer}
    (absent : tables.findByName desired.name = none)
    (course : (createInstance desired).Course tables calls result after) :
    InstanceEnding desired tables calls result after := by
  rcases course.report_bind.cloud_bind with
    ⟨error, rfl, tried, rfl⟩ | ⟨created, middle, later, rfl, performed, reports⟩
  · exact .notCreated absent tried error
  · rcases reports.report_bind.pure with ⟨rfl, rfl, rfl⟩
    exact .created absent performed

/-- A replacement ends with the old load balancer, with none, or with the new one. -/
theorem instanceEnding_of_recreateInstance
    {result : Except ControllerError LoadBalancer}
    (found : tables.findByName desired.name = some current)
    (differs : current.scheme ≠ desired.scheme)
    (course : (recreateInstance current desired).Course tables calls result after) :
    InstanceEnding desired tables calls result after := by
  rcases course.report_bind.cloud_bind with
    ⟨error, rfl, tried, rfl⟩ | ⟨deleted, middle, later, rfl, performed, rest⟩
  · exact .notDeleted found differs tried error
  · cases performed
    rcases rest.report_bind.mapFailure with ⟨inner, rfl, creation⟩
    rcases creation.reporting.cloud with
      ⟨error, rfl, tried, rfl⟩ | ⟨balancer, rfl, rfl, performed⟩
    · exact .notRecreated found differs tried error
    · exact .recreated found differs performed

/-- Changes in place end with one of the load balancers between the old one and the desired one. -/
theorem instanceEnding_of_patches
    {result : Except ControllerError LoadBalancer}
    (found : tables.findByName desired.name = some current)
    (sameScheme : current.scheme = desired.scheme)
    (course :
      Attempt.Course
        (do
          patchIpAddressType current desired
          patchSubnets current desired
          return current)
        tables calls result after) :
    InstanceEnding desired tables calls result after := by
  rcases course.bind with
    ⟨failure, rfl, types⟩ | ⟨retyped, earlier, middle, later, rfl, types, rest⟩
  · rcases patchIpAddressType_cases types with ⟨error, same, tried, rfl⟩ | ⟨same, -⟩
    · cases same
      exact .notRetyped found sameScheme tried error
    · cases same
  rcases patchIpAddressType_cases types with ⟨error, same, -⟩ | ⟨-, rfl, retypes⟩
  · cases same
  rcases rest.bind with
    ⟨failure, rfl, moves⟩ | ⟨moved, second, last, none, rfl, moves, ends⟩
  · rcases patchSubnets_cases moves with ⟨error, same, tried, rfl⟩ | ⟨same, -⟩
    · cases same
      exact .notMoved found sameScheme retypes tried error
    · cases same
  rcases patchSubnets_cases moves with ⟨error, same, -⟩ | ⟨-, rfl, places⟩
  · cases same
  rcases ends.pure with ⟨rfl, rfl, rfl⟩
  rw [List.append_nil]
  exact .patched found sameScheme retypes places

/-- Every course that provides a load balancer has one of the listed endings. -/
theorem instanceEnding_of_course
    {result : Except ControllerError LoadBalancer}
    (course : (ensureInstance desired).Course tables calls result after) :
    InstanceEnding desired tables calls result after := by
  rcases course.cloud_bind with
    ⟨error, rfl, tried, rfl⟩ | ⟨existing, middle, later, rfl, performed, rest⟩
  · cases List.prefix_nil.mp tried
    exact .notLookedUp error
  · cases performed
    cases found : tables.findByName desired.name with
    | none =>
        rw [found] at rest
        exact instanceEnding_of_createInstance found rest
    | some current =>
        rw [found] at rest
        by_cases differs : needsRecreation current desired = true
        · simp only [differs, if_true] at rest
          have schemes : current.scheme ≠ desired.scheme := by
            simpa [needsRecreation] using differs
          exact instanceEnding_of_recreateInstance found schemes rest
        · simp only [differs] at rest
          have schemes : current.scheme = desired.scheme := by
            simpa [needsRecreation] using differs
          exact instanceEnding_of_patches found schemes rest

end Convergence

end IngressConvergence
