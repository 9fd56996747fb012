import IngressConvergence.Proofs.Cloud.Slots

/-!
# Intact tables

Attributes and associations are kept in tables of their own, by the handles of load balancers.  The
tables have no orphans if these handles are of load balancers that exist.  Every call keeps this but
one: the association of a firewall policy is stored whether or not there is such a load balancer, which
is the one condition of `CloudTables.HasNoOrphans.perform`.  Tables are intact if moreover they are
consistent and every associated firewall policy is registered.
-/

namespace IngressConvergence

/-- The keys of a table are among those of another. -/
def Table.IsWithin
    {Value Other : Type}
    (inner : Table Value)
    (outer : Table Other) : Prop :=
  ∀ key, inner.contains key = true → outer.contains key = true

namespace Table.IsWithin

variable {Value Other : Type} {inner : Table Value} {outer : Table Other}

theorem insert_outer
    (within : inner.IsWithin outer)
    (key : String)
    (value : Other) :
    inner.IsWithin (outer.insert key value) := by
  intro other present
  exact (contains_insert _ _ _ _).mpr (.inr (within other present))

theorem insert_inner
    (within : inner.IsWithin outer)
    {key : String}
    (value : Value)
    (present : outer.contains key = true) :
    (inner.insert key value).IsWithin outer := by
  intro other presentInner
  rcases (contains_insert _ _ _ _).mp presentInner with rfl | before
  · exact present
  · exact within other before

theorem erase_inner
    (within : inner.IsWithin outer)
    (key : String) :
    (inner.erase key).IsWithin outer := by
  intro other present
  exact within other ((contains_erase _ _ _).mp present).2

theorem erase_both
    (within : inner.IsWithin outer)
    (key : String) :
    (inner.erase key).IsWithin (outer.erase key) := by
  intro other present
  rcases (contains_erase _ _ _).mp present with ⟨differs, before⟩
  exact (contains_erase _ _ _).mpr ⟨differs, within other before⟩

end Table.IsWithin

namespace CloudTables

variable {tables after : CloudTables}

/-! ## No orphans -/

/-- Attributes and associations are kept for load balancers that exist. -/
structure HasNoOrphans (tables : CloudTables) : Prop where
  attributes : tables.attributes.IsWithin tables.loadBalancers
  associations : tables.associations.IsWithin tables.loadBalancers

theorem hasNoOrphans_empty
    (region : String) :
    (empty region).HasNoOrphans where
  attributes := fun _ present => nomatch present
  associations := fun _ present => nomatch present

/-- To store a load balancer orphans nothing. -/
theorem HasNoOrphans.store
    (noOrphans : tables.HasNoOrphans)
    (arn : String)
    (balancer : LoadBalancer) :
    HasNoOrphans { tables with loadBalancers := tables.loadBalancers.insert arn balancer } where
  attributes := noOrphans.attributes.insert_outer arn balancer
  associations := noOrphans.associations.insert_outer arn balancer

theorem HasNoOrphans.setAttributes
    (noOrphans : tables.HasNoOrphans)
    {arn : String}
    (exist : tables.loadBalancers.contains arn = true)
    (attributes : Table String) :
    (tables.setAttributes arn attributes).HasNoOrphans where
  attributes := noOrphans.attributes.insert_inner attributes exist
  associations := noOrphans.associations

theorem HasNoOrphans.associate
    (noOrphans : tables.HasNoOrphans)
    {arn : String}
    (exist : tables.loadBalancers.contains arn = true)
    (webAclId : String) :
    HasNoOrphans { tables with associations := tables.associations.insert arn webAclId } where
  attributes := noOrphans.attributes
  associations := noOrphans.associations.insert_inner webAclId exist

/-- What was kept for a load balancer goes with it. -/
theorem HasNoOrphans.delete
    (noOrphans : tables.HasNoOrphans)
    (arn : String) :
    (tables.delete arn).HasNoOrphans where
  attributes := noOrphans.attributes.erase_both arn
  associations := noOrphans.associations.erase_both arn

/-- Calls orphan nothing, if firewall policies are associated only with load balancers that exist. -/
theorem HasNoOrphans.perform
    {call : CloudCall}
    {answer : call.Answer}
    (noOrphans : tables.HasNoOrphans)
    (exist :
      ∀ arn webAclId, call = .associateWebAcl arn webAclId →
        tables.loadBalancers.contains arn = true)
    (performed : tables.perform call = .ok (answer, after)) :
    after.HasNoOrphans := by
  cases call with
  | createLoadBalancer request =>
      rcases create_eq_ok_iff.mp performed with ⟨-, -, built⟩
      cases built
      exact { noOrphans.store _ _ with }
  | deleteLoadBalancer arn =>
      cases performed
      exact noOrphans.delete arn
  | setIpAddressType arn ipAddressType =>
      rcases setIpAddressType_eq_ok_iff.mp performed with ⟨balancer, -, rfl⟩
      exact noOrphans.store _ _
  | setSubnets arn subnets =>
      rcases setSubnets_eq_ok_iff.mp performed with ⟨balancer, -, rfl⟩
      exact noOrphans.store _ _
  | modifyAttributes arn attributes =>
      rcases modifyAttributes_eq_ok_iff.mp performed with ⟨present, rfl⟩
      exact noOrphans.setAttributes present _
  | associateWebAcl arn webAclId =>
      rcases associateWebAcl_eq_ok_iff.mp performed with ⟨-, rfl⟩
      exact noOrphans.associate (exist arn webAclId rfl) webAclId
  | disassociateWebAcl arn =>
      cases performed
      exact { noOrphans with associations := noOrphans.associations.erase_inner arn }
  | findClusterSubnets scheme =>
      rcases findClusterSubnets_eq_ok_iff.mp performed with ⟨-, rfl⟩
      exact noOrphans
  | readAttributes arn =>
      rcases readAttributes_eq_ok_iff.mp performed with ⟨-, -, rfl⟩
      exact noOrphans
  | _ =>
      cases performed
      exact noOrphans

/-! ## Associated firewall policies -/

/-- Every associated firewall policy is registered. -/
def HasKnownWebAcls (tables : CloudTables) : Prop :=
  ∀ arn webAclId, tables.associations.lookup arn = some webAclId →
    tables.webAcls.contains webAclId = true

/-- Associations that are taken away leave registered firewall policies only. -/
theorem HasKnownWebAcls.disassociate
    (known : tables.HasKnownWebAcls)
    (arn : String) :
    HasKnownWebAcls { tables with associations := tables.associations.erase arn } := by
  intro other webAclId associated
  rw [Table.lookup_erase] at associated
  split at associated
  · cases associated
  · exact known other webAclId associated

/-- A registered firewall policy may be associated. -/
theorem HasKnownWebAcls.associate
    (known : tables.HasKnownWebAcls)
    {webAclId : String}
    (registered : tables.webAcls.contains webAclId = true)
    (arn : String) :
    HasKnownWebAcls
      { tables with associations := tables.associations.insert arn webAclId } := by
  intro other found associated
  rw [Table.lookup_insert] at associated
  split at associated
  · cases associated
    exact registered
  · exact known other found associated

/-- Calls associate registered firewall policies only. -/
theorem HasKnownWebAcls.perform
    {call : CloudCall}
    {answer : call.Answer}
    (known : tables.HasKnownWebAcls)
    (performed : tables.perform call = .ok (answer, after)) :
    after.HasKnownWebAcls := by
  cases call with
  | createLoadBalancer request =>
      rcases create_eq_ok_iff.mp performed with ⟨-, -, built⟩
      cases built
      exact known
  | deleteLoadBalancer arn =>
      cases performed
      exact known.disassociate arn
  | setIpAddressType arn ipAddressType =>
      rcases setIpAddressType_eq_ok_iff.mp performed with ⟨balancer, -, rfl⟩
      exact known
  | setSubnets arn subnets =>
      rcases setSubnets_eq_ok_iff.mp performed with ⟨balancer, -, rfl⟩
      exact known
  | modifyAttributes arn attributes =>
      rcases modifyAttributes_eq_ok_iff.mp performed with ⟨-, rfl⟩
      exact known
  | associateWebAcl arn webAclId =>
      rcases associateWebAcl_eq_ok_iff.mp performed with ⟨registered, rfl⟩
      exact known.associate registered arn
  | disassociateWebAcl arn =>
      cases performed
      exact known.disassociate arn
  | findClusterSubnets scheme =>
      rcases findClusterSubnets_eq_ok_iff.mp performed with ⟨-, rfl⟩
      exact known
  | readAttributes arn =>
      rcases readAttributes_eq_ok_iff.mp performed with ⟨-, -, rfl⟩
      exact known
  | _ =>
      cases performed
      exact known

/-! ## Intact tables -/

/-- Consistent tables without orphans. -/
structure IsOrderly (tables : CloudTables) : Prop extends IsConsistent tables, HasNoOrphans tables

/-- Load balancers have names of their own and are stored under their own handles, attributes and
associations are kept for them alone, and associated firewall policies are registered. -/
structure IsIntact (tables : CloudTables) : Prop extends IsOrderly tables where
  knownWebAcls : tables.HasKnownWebAcls

theorem isIntact_empty
    (region : String) :
    (empty region).IsIntact where
  toIsConsistent := isConsistent_empty region
  toHasNoOrphans := hasNoOrphans_empty region
  knownWebAcls := fun _ _ associated => nomatch associated

/-- To store a load balancer keeps tables orderly, if its name is used under no other handle. -/
theorem IsOrderly.store
    (orderly : tables.IsOrderly)
    {arn : String}
    {balancer : LoadBalancer}
    (sameArn : balancer.arn = arn)
    (unused :
      ∀ other found, tables.loadBalancers.lookup other = some found →
        found.name = balancer.name → other = arn) :
    IsOrderly { tables with loadBalancers := tables.loadBalancers.insert arn balancer } where
  toIsConsistent := orderly.toIsConsistent.insert sameArn unused
  toHasNoOrphans := orderly.toHasNoOrphans.store arn balancer

theorem IsOrderly.perform
    {call : CloudCall}
    {answer : call.Answer}
    (orderly : tables.IsOrderly)
    (exist :
      ∀ arn webAclId, call = .associateWebAcl arn webAclId →
        tables.loadBalancers.contains arn = true)
    (performed : tables.perform call = .ok (answer, after)) :
    after.IsOrderly where
  toIsConsistent := (change_of_perform performed).isConsistent orderly.toIsConsistent
  toHasNoOrphans := orderly.toHasNoOrphans.perform exist performed

/-! ## Filling the inventory -/

/-- One step of filling the cloud: load balancers get names that no other has, and attributes and
associations are set on load balancers that exist. -/
inductive Filled (tables : CloudTables) : CloudTables → Prop where
  | nothing : Filled tables tables
  | built
      {name : String}
      (absent : tables.findByName name = none)
      (scheme : Scheme)
      (ipAddressType : IpAddressType)
      (subnets : List String) :
      Filled tables (tables.build name scheme ipAddressType subnets).2
  | loadBalancer
      {balancer : LoadBalancer}
      (unused :
        ∀ arn other, tables.loadBalancers.lookup arn = some other →
          other.name = balancer.name → arn = balancer.arn) :
      Filled tables (tables.addLoadBalancer balancer)
  | attributes
      {arn : String}
      (exist : tables.loadBalancers.contains arn = true)
      (attributes : Table String) :
      Filled tables (tables.setAttributes arn attributes)
  | association
      {arn : String}
      (exist : tables.loadBalancers.contains arn = true)
      (webAclId : String) :
      Filled tables (tables.setAssociation arn webAclId)
  | webAcl
      (webAclId : String) :
      Filled tables (tables.addWebAcl webAclId)
  | securityGroup
      (group : SecurityGroup) :
      Filled tables (tables.addSecurityGroup group)
  | namedSubnet
      (name subnetId : String) :
      Filled tables (tables.addNamedSubnet name subnetId)
  | clusterSubnets
      (scheme : Scheme)
      (subnets : List String) :
      Filled tables (tables.setClusterSubnets scheme subnets)

theorem mem_webAcls_addWebAcl
    (tables : CloudTables)
    (webAclId other : String) :
    (tables.addWebAcl webAclId).webAcls.contains other = true ↔
      other = webAclId ∨ tables.webAcls.contains other = true := by
  rw [addWebAcl]
  split <;> simp_all

/-- More firewall policies are registered. -/
theorem HasKnownWebAcls.addWebAcl
    (known : tables.HasKnownWebAcls)
    (webAclId : String) :
    (tables.addWebAcl webAclId).HasKnownWebAcls := by
  intro arn other associated
  exact (mem_webAcls_addWebAcl tables webAclId other).mpr (.inr (known arn other associated))

/-- Filling the cloud keeps its tables intact. -/
theorem Filled.isIntact
    (filled : tables.Filled after)
    (intact : tables.IsIntact) :
    after.IsIntact := by
  cases filled with
  | nothing => exact intact
  | @built name absent scheme ipAddressType subnets =>
      have unused := (findByName_eq_none_iff name).mp absent
      have stored :
          IsOrderly (tables.addLoadBalancer
            (.describe tables.region (tables.built + 1) name scheme ipAddressType subnets)) :=
        intact.toIsOrderly.store rfl fun arn other stored sameName =>
          absurd sameName (unused arn other stored)
      exact { stored with knownWebAcls := intact.knownWebAcls }
  | loadBalancer unused =>
      exact { intact.toIsOrderly.store rfl unused with knownWebAcls := intact.knownWebAcls }
  | attributes exist attributes =>
      exact { intact.toHasNoOrphans.setAttributes exist attributes, intact with }
  | @association arn exist webAclId =>
      have registered := (mem_webAcls_addWebAcl tables webAclId webAclId).mpr (.inl rfl)
      exact { intact.toHasNoOrphans.associate exist webAclId, intact with
        knownWebAcls := (intact.knownWebAcls.addWebAcl webAclId).associate registered arn }
  | webAcl webAclId =>
      exact { intact with knownWebAcls := intact.knownWebAcls.addWebAcl webAclId }
  | securityGroup group => exact { intact with }
  | namedSubnet name subnetId => exact { intact with }
  | clusterSubnets scheme subnets => exact { intact with }

end CloudTables

end IngressConvergence
