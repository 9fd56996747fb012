import IngressConvergence.Proofs.Cloud.Perform
import IngressConvergence.Table.Lemmas

/-!
# Consistent tables

The tables of the cloud are consistent if every load balancer is stored under its own handle and no
two have one name.  A load balancer is then found by its name exactly if it is stored under its
handle.  `CloudTables.Change` lists what a call can do to the tables; from it follows that calls keep
the tables consistent and never touch the inventory.
-/

namespace IngressConvergence.CloudTables

variable {tables after : CloudTables}

/-! ## Consistency -/

/-- Every load balancer is stored under its own handle. -/
def IsKeyedByArn (tables : CloudTables) : Prop :=
  ∀ arn balancer, tables.loadBalancers.lookup arn = some balancer → balancer.arn = arn

/-- No two load balancers have one name. -/
def HasUniqueNames (tables : CloudTables) : Prop :=
  ∀ arn arn' balancer balancer',
    tables.loadBalancers.lookup arn = some balancer →
    tables.loadBalancers.lookup arn' = some balancer' →
    balancer.name = balancer'.name → arn = arn'

/-- Load balancers are stored under their own handles and have names of their own. -/
structure IsConsistent (tables : CloudTables) : Prop where
  keyedByArn : tables.IsKeyedByArn
  uniqueNames : tables.HasUniqueNames

/-- A load balancer is found by a name only if one with that name is stored. -/
theorem findByName_eq_none_iff
    (name : String) :
    tables.findByName name = none ↔
      ∀ arn balancer, tables.loadBalancers.lookup arn = some balancer → balancer.name ≠ name := by
  rw [findByName, List.find?_eq_none]
  constructor
  · intro absent arn balancer stored
    have member := (tables.loadBalancers.mem_values_iff balancer).mpr ⟨arn, stored⟩
    simpa using absent balancer member
  · intro absent balancer member
    rcases (tables.loadBalancers.mem_values_iff balancer).mp member with ⟨arn, stored⟩
    simpa using absent arn balancer stored

theorem lookup_of_findByName
    {name : String}
    {balancer : LoadBalancer}
    (found : tables.findByName name = some balancer) :
    (∃ arn, tables.loadBalancers.lookup arn = some balancer) ∧ balancer.name = name := by
  refine ⟨?_, by simpa using List.find?_some found⟩
  exact (tables.loadBalancers.mem_values_iff balancer).mp (List.mem_of_find?_eq_some found)

/-- In consistent tables a load balancer is found by a name exactly if it has the name and is stored
under its handle. -/
theorem IsConsistent.findByName_eq_some_iff
    (consistent : tables.IsConsistent)
    (name : String)
    (balancer : LoadBalancer) :
    tables.findByName name = some balancer ↔
      tables.loadBalancers.lookup balancer.arn = some balancer ∧ balancer.name = name := by
  constructor
  · intro found
    rcases lookup_of_findByName found with ⟨⟨arn, stored⟩, named⟩
    rw [consistent.keyedByArn arn balancer stored]
    exact ⟨stored, named⟩
  · rintro ⟨stored, named⟩
    cases found : tables.findByName name with
    | none => exact absurd named ((findByName_eq_none_iff name).mp found _ _ stored)
    | some other =>
        rcases lookup_of_findByName found with ⟨⟨arn, otherStored⟩, otherNamed⟩
        have same :=
          consistent.uniqueNames arn balancer.arn other balancer otherStored stored
            (otherNamed.trans named.symm)
        rw [same, stored] at otherStored
        exact otherStored.symm

/-- Whether tables are consistent is decided by the load balancers alone. -/
theorem IsConsistent.congr
    (consistent : tables.IsConsistent)
    (same : after.loadBalancers = tables.loadBalancers) :
    after.IsConsistent := by
  constructor
  · intro arn balancer stored
    rw [same] at stored
    exact consistent.keyedByArn arn balancer stored
  · intro arn arn' balancer balancer' stored stored' sameName
    rw [same] at stored stored'
    exact consistent.uniqueNames arn arn' balancer balancer' stored stored' sameName

theorem isConsistent_empty
    (region : String) :
    (empty region).IsConsistent where
  keyedByArn := by
    intro arn balancer stored
    cases stored
  uniqueNames := by
    intro arn arn' balancer balancer' stored
    cases stored

theorem IsKeyedByArn.insert
    (keyed : tables.IsKeyedByArn)
    {balancer : LoadBalancer}
    {arn : String}
    (sameArn : balancer.arn = arn) :
    IsKeyedByArn { tables with loadBalancers := tables.loadBalancers.insert arn balancer } := by
  intro other found stored
  rw [Table.lookup_insert] at stored
  split at stored
  next same =>
    cases stored
    exact sameArn.trans same.symm
  next different => exact keyed other found stored

/-- A load balancer is stored consistently if its name is used under no other handle. -/
theorem IsConsistent.insert
    (consistent : tables.IsConsistent)
    {balancer : LoadBalancer}
    {arn : String}
    (sameArn : balancer.arn = arn)
    (unused :
      ∀ other found, tables.loadBalancers.lookup other = some found →
        found.name = balancer.name → other = arn) :
    IsConsistent { tables with loadBalancers := tables.loadBalancers.insert arn balancer } := by
  refine ⟨consistent.keyedByArn.insert sameArn, ?_⟩
  intro first second found found' stored stored' sameName
  rw [Table.lookup_insert] at stored stored'
  split at stored
  next isFirst =>
    cases stored
    split at stored'
    next isSecond => exact isFirst.trans isSecond.symm
    next different => exact absurd (unused second found' stored' sameName.symm) different
  next different =>
    split at stored'
    next isSecond =>
      cases stored'
      exact absurd (unused first found stored sameName) different
    next different' =>
      exact consistent.uniqueNames first second found found' stored stored' sameName

theorem IsKeyedByArn.erase
    (keyed : tables.IsKeyedByArn)
    (arn : String) :
    (tables.delete arn).IsKeyedByArn := by
  intro other found stored
  rw [delete, Table.lookup_erase] at stored
  split at stored
  · cases stored
  · exact keyed other found stored

theorem IsConsistent.erase
    (consistent : tables.IsConsistent)
    (arn : String) :
    (tables.delete arn).IsConsistent := by
  refine ⟨consistent.keyedByArn.erase arn, ?_⟩
  intro first second found found' stored stored' sameName
  rw [delete, Table.lookup_erase] at stored stored'
  split at stored
  · cases stored
  · split at stored'
    · cases stored'
    · exact consistent.uniqueNames first second found found' stored stored' sameName

/-! ## What a call can do to the tables -/

/-- What a call can do to the tables. -/
inductive Change (tables : CloudTables) : CloudTables → Prop where
  | nothing : Change tables tables
  /-- A load balancer with a name that is not taken is built. -/
  | built
      {request : CreateRequest}
      (absent : tables.findByName request.name = none) :
      Change tables
        (tables.build request.name request.scheme request.ipAddressType request.subnets).2
  | deleted
      (arn : String) :
      Change tables (tables.delete arn)
  /-- A load balancer is changed and keeps its handle and its name. -/
  | changed
      {arn : String}
      {balancer changed : LoadBalancer}
      (stored : tables.loadBalancers.lookup arn = some balancer)
      (sameArn : changed.arn = balancer.arn)
      (sameName : changed.name = balancer.name) :
      Change tables { tables with loadBalancers := tables.loadBalancers.insert arn changed }
  | attributes
      (attributes : Table (Table String)) :
      Change tables { tables with attributes }
  | associations
      (associations : Table String) :
      Change tables { tables with associations }

/-- A call that succeeds makes one change to the tables, of those that are listed here. -/
theorem change_of_perform
    {call : CloudCall}
    {answer : call.Answer}
    (performed : tables.perform call = .ok (answer, after)) :
    tables.Change after := by
  cases call with
  | findLoadBalancer name =>
      cases performed
      exact .nothing
  | readWebAcl arn =>
      cases performed
      exact .nothing
  | checkWebAcl webAclId =>
      cases performed
      exact .nothing
  | findSecurityGroups names =>
      cases performed
      exact .nothing
  | findSubnets names =>
      cases performed
      exact .nothing
  | findClusterSubnets scheme =>
      rcases findClusterSubnets_eq_ok_iff.mp performed with ⟨-, rfl⟩
      exact .nothing
  | readAttributes arn =>
      rcases readAttributes_eq_ok_iff.mp performed with ⟨-, -, rfl⟩
      exact .nothing
  | deleteLoadBalancer arn =>
      cases performed
      exact .deleted arn
  | disassociateWebAcl arn =>
      cases performed
      exact .associations _
  | createLoadBalancer request =>
      rcases create_eq_ok_iff.mp performed with ⟨-, absent, built⟩
      cases built
      exact .built absent
  | setIpAddressType arn ipAddressType =>
      rcases setIpAddressType_eq_ok_iff.mp performed with ⟨balancer, stored, rfl⟩
      exact .changed stored rfl rfl
  | setSubnets arn subnets =>
      rcases setSubnets_eq_ok_iff.mp performed with ⟨balancer, stored, rfl⟩
      exact .changed stored rfl rfl
  | modifyAttributes arn attributes =>
      rcases modifyAttributes_eq_ok_iff.mp performed with ⟨-, rfl⟩
      exact .attributes _
  | associateWebAcl arn webAclId =>
      rcases associateWebAcl_eq_ok_iff.mp performed with ⟨-, rfl⟩
      exact .associations _

theorem Change.isKeyedByArn
    (change : tables.Change after)
    (keyed : tables.IsKeyedByArn) :
    after.IsKeyedByArn := by
  cases change with
  | nothing => exact keyed
  | built absent => exact keyed.insert rfl
  | deleted arn => exact keyed.erase arn
  | changed stored sameArn sameName => exact keyed.insert (sameArn.trans (keyed _ _ stored))
  | attributes attributes => exact keyed
  | associations associations => exact keyed

/-- Calls keep the tables consistent. -/
theorem Change.isConsistent
    (change : tables.Change after)
    (consistent : tables.IsConsistent) :
    after.IsConsistent := by
  cases change with
  | nothing => exact consistent
  | @built request absent =>
      refine (consistent.insert rfl ?_).congr rfl
      intro arn found stored sameName
      exact absurd sameName ((findByName_eq_none_iff request.name).mp absent arn found stored)
  | deleted arn => exact consistent.erase arn
  | changed stored sameArn sameName =>
      apply consistent.insert (sameArn.trans (consistent.keyedByArn _ _ stored))
      intro arn found foundStored foundName
      exact consistent.uniqueNames _ _ _ _ foundStored stored (foundName.trans sameName)
  | attributes attributes => exact consistent.congr rfl
  | associations associations => exact consistent.congr rfl

/-! ## The inventory -/

/-- Tables with the same region and the same inventory. -/
structure SameInventory
    (tables after : CloudTables) : Prop where
  region : after.region = tables.region
  webAcls : after.webAcls = tables.webAcls
  securityGroups : after.securityGroups = tables.securityGroups
  namedSubnets : after.namedSubnets = tables.namedSubnets
  clusterSubnets : after.clusterSubnets = tables.clusterSubnets

theorem SameInventory.refl (tables : CloudTables) : SameInventory tables tables :=
  ⟨rfl, rfl, rfl, rfl, rfl⟩

theorem SameInventory.symm
    (same : SameInventory tables after) :
    SameInventory after tables where
  region := same.region.symm
  webAcls := same.webAcls.symm
  securityGroups := same.securityGroups.symm
  namedSubnets := same.namedSubnets.symm
  clusterSubnets := same.clusterSubnets.symm

theorem SameInventory.trans
    {middle : CloudTables}
    (first : SameInventory tables middle)
    (second : SameInventory middle after) :
    SameInventory tables after where
  region := second.region.trans first.region
  webAcls := second.webAcls.trans first.webAcls
  securityGroups := second.securityGroups.trans first.securityGroups
  namedSubnets := second.namedSubnets.trans first.namedSubnets
  clusterSubnets := second.clusterSubnets.trans first.clusterSubnets

theorem Change.sameInventory
    (change : tables.Change after) :
    SameInventory tables after := by
  cases change with
  | nothing => exact .refl tables
  | built absent => exact ⟨rfl, rfl, rfl, rfl, rfl⟩
  | deleted arn => exact ⟨rfl, rfl, rfl, rfl, rfl⟩
  | changed stored sameArn sameName => exact ⟨rfl, rfl, rfl, rfl, rfl⟩
  | attributes attributes => exact ⟨rfl, rfl, rfl, rfl, rfl⟩
  | associations associations => exact ⟨rfl, rfl, rfl, rfl, rfl⟩

/-! ## Tables that can arise -/

/-- Tables that are filled and changed by the operations on them. -/
inductive Arises : CloudTables → Prop where
  | empty
      (region : String) :
      Arises (.empty region)
  | built
      {tables : CloudTables}
      (arises : Arises tables)
      (name : String)
      (scheme : Scheme)
      (ipAddressType : IpAddressType)
      (subnets : List String) :
      Arises (tables.build name scheme ipAddressType subnets).2
  | loadBalancer
      {tables : CloudTables}
      (arises : Arises tables)
      (balancer : LoadBalancer) :
      Arises (tables.addLoadBalancer balancer)
  | attributes
      {tables : CloudTables}
      (arises : Arises tables)
      (arn : String)
      (attributes : Table String) :
      Arises (tables.setAttributes arn attributes)
  | webAcl
      {tables : CloudTables}
      (arises : Arises tables)
      (webAclId : String) :
      Arises (tables.addWebAcl webAclId)
  | association
      {tables : CloudTables}
      (arises : Arises tables)
      (arn webAclId : String) :
      Arises (tables.setAssociation arn webAclId)
  | securityGroup
      {tables : CloudTables}
      (arises : Arises tables)
      (group : SecurityGroup) :
      Arises (tables.addSecurityGroup group)
  | namedSubnet
      {tables : CloudTables}
      (arises : Arises tables)
      (name subnetId : String) :
      Arises (tables.addNamedSubnet name subnetId)
  | clusterSubnets
      {tables : CloudTables}
      (arises : Arises tables)
      (scheme : Scheme)
      (subnets : List String) :
      Arises (tables.setClusterSubnets scheme subnets)
  | call
      {tables after : CloudTables}
      (arises : Arises tables)
      {call : CloudCall}
      {answer : call.Answer}
      (performed : tables.perform call = .ok (answer, after)) :
      Arises after

/-- However tables arise, every load balancer is stored under its own handle. -/
theorem Arises.isKeyedByArn
    (arises : tables.Arises) :
    tables.IsKeyedByArn := by
  induction arises with
  | empty region => exact (isConsistent_empty region).keyedByArn
  | built arises name scheme ipAddressType subnets ih => exact ih.insert rfl
  | loadBalancer arises balancer ih => exact ih.insert rfl
  | attributes arises arn attributes ih => exact ih
  | webAcl arises webAclId ih => exact ih
  | association arises arn webAclId ih => exact ih
  | securityGroup arises group ih => exact ih
  | namedSubnet arises name subnetId ih => exact ih
  | clusterSubnets arises scheme subnets ih => exact ih
  | call arises performed ih => exact (change_of_perform performed).isKeyedByArn ih

end IngressConvergence.CloudTables
