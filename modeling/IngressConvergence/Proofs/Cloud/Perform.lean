import IngressConvergence.Cloud.Tables
import IngressConvergence.Table.Lemmas

/-!
# When calls succeed

Calls that read a table always succeed.  For every other kind of call one statement says when it
succeeds, what it answers and how the tables are afterwards.
-/

namespace IngressConvergence.CloudTables

variable {tables after : CloudTables}

/-- A call that only changes tables succeeds exactly if the change does. -/
theorem map_unit_eq_ok_iff
    {Failure : Type}
    {result : Except Failure CloudTables}
    {answer : Unit} :
    (result.map fun changed => ((), changed)) = .ok (answer, after) ↔ result = .ok after := by
  cases result with
  | error failure => simp [Except.map]
  | ok changed => simp [Except.map]

/-- What is built is stored under its handle. -/
theorem lookup_build
    (tables : CloudTables)
    (name : String)
    (scheme : Scheme)
    (ipAddressType : IpAddressType)
    (subnets : List String) :
    (tables.build name scheme ipAddressType subnets).2.loadBalancers.lookup
        (LoadBalancer.arnOf tables.region name (tables.built + 1)) =
      some (tables.build name scheme ipAddressType subnets).1 :=
  (Table.lookup_insert _ _ _ _).trans (if_pos rfl)

/-- A load balancer is created where there is none of its name, and in a subnet at least. -/
theorem create_eq_ok_iff
    {request : CreateRequest}
    {balancer : LoadBalancer} :
    tables.perform (.createLoadBalancer request) = .ok (balancer, after) ↔
      request.subnets ≠ [] ∧ tables.findByName request.name = none ∧
        (balancer, after) =
          tables.build request.name request.scheme request.ipAddressType request.subnets := by
  show tables.create request = .ok (balancer, after) ↔ _
  rw [create]
  by_cases noSubnets : request.subnets = []
  · simp [noSubnets]
  · cases found : tables.findByName request.name with
    | none =>
        simp only [List.isEmpty_iff, noSubnets, if_false, Option.isSome_none, Except.ok.injEq,
          ne_eq, not_false_eq_true, true_and, Bool.false_eq_true]
        exact eq_comm
    | some other => simp [noSubnets]

theorem changeLoadBalancer_eq_ok_iff
    {arn : String}
    {change : LoadBalancer → LoadBalancer} :
    tables.changeLoadBalancer arn change = .ok after ↔
      ∃ balancer, tables.loadBalancers.lookup arn = some balancer ∧
        after =
          { tables with loadBalancers := tables.loadBalancers.insert arn (change balancer) } := by
  rw [changeLoadBalancer]
  cases tables.loadBalancers.lookup arn with
  | none => simp
  | some balancer => simp [eq_comm]

theorem setIpAddressType_eq_ok_iff
    {arn : String}
    {ipAddressType : IpAddressType}
    {answer : Unit} :
    tables.perform (.setIpAddressType arn ipAddressType) = .ok (answer, after) ↔
      ∃ balancer, tables.loadBalancers.lookup arn = some balancer ∧
        after =
          { tables with
            loadBalancers := tables.loadBalancers.insert arn { balancer with ipAddressType } } := by
  apply map_unit_eq_ok_iff.trans
  exact changeLoadBalancer_eq_ok_iff

theorem setSubnets_eq_ok_iff
    {arn : String}
    {subnets : List String}
    {answer : Unit} :
    tables.perform (.setSubnets arn subnets) = .ok (answer, after) ↔
      ∃ balancer, tables.loadBalancers.lookup arn = some balancer ∧
        after =
          { tables with
            loadBalancers :=
              tables.loadBalancers.insert arn
                { balancer with zones := LoadBalancer.zonesOf tables.region subnets } } := by
  apply map_unit_eq_ok_iff.trans
  exact changeLoadBalancer_eq_ok_iff

theorem readAttributes_eq_ok_iff
    {arn : String}
    {answer : Table String} :
    tables.perform (.readAttributes arn) = .ok (answer, after) ↔
      tables.loadBalancers.contains arn = true ∧ answer = tables.attributesOf arn ∧
        after = tables := by
  show (if tables.loadBalancers.contains arn then .ok (tables.attributesOf arn, tables)
    else .error (noLoadBalancer arn) : Except CloudError (Table String × CloudTables)) =
      .ok (answer, after) ↔ _
  cases tables.loadBalancers.contains arn with
  | true => simp [eq_comm]
  | false => simp

theorem modifyAttributes_eq_ok_iff
    {arn : String}
    {attributes : Table String}
    {answer : Unit} :
    tables.perform (.modifyAttributes arn attributes) = .ok (answer, after) ↔
      tables.loadBalancers.contains arn = true ∧
        after = tables.setAttributes arn ((tables.attributesOf arn).overlay attributes) := by
  apply map_unit_eq_ok_iff.trans
  rw [modifyAttributes]
  cases tables.loadBalancers.contains arn with
  | true => simp [eq_comm]
  | false => simp

theorem associateWebAcl_eq_ok_iff
    {arn webAclId : String}
    {answer : Unit} :
    tables.perform (.associateWebAcl arn webAclId) = .ok (answer, after) ↔
      tables.webAcls.contains webAclId = true ∧
        after = { tables with associations := tables.associations.insert arn webAclId } := by
  apply map_unit_eq_ok_iff.trans
  rw [associate]
  cases tables.webAcls.contains webAclId with
  | true => simp [eq_comm]
  | false => simp

/-- The subnets of the cluster for a scheme are found if there are any. -/
theorem findClusterSubnets_eq_ok_iff
    {scheme : Scheme}
    {answer : List String} :
    tables.perform (.findClusterSubnets scheme) = .ok (answer, after) ↔
      tables.clusterSubnetsFor scheme = .ok answer ∧ after = tables := by
  show (tables.clusterSubnetsFor scheme).map (fun subnets => (subnets, tables)) =
    .ok (answer, after) ↔ _
  cases tables.clusterSubnetsFor scheme with
  | error error => simp [Except.map]
  | ok subnets => simp [Except.map, eq_comm]

theorem ne_nil_of_clusterSubnetsFor
    {scheme : Scheme}
    {subnets : List String}
    (found : tables.clusterSubnetsFor scheme = .ok subnets) :
    subnets ≠ [] := by
  rw [clusterSubnetsFor] at found
  split at found
  · cases found
  next others notEmpty =>
    cases found
    exact notEmpty

end IngressConvergence.CloudTables
