import IngressConvergence.Proofs.Cloud.Consistency

/-!
# What is kept under a handle

Under its handle the cloud keeps a load balancer, its attributes and its association: the slot of the
handle.  A call changes the slot of one handle at most, which `CloudCall.target?` names; this is
`CloudTables.sameSlot_of_perform`.  The handle of a load balancer that is built tells its name and its
serial number apart from all others, which is `LoadBalancer.arnOf_inj`.
-/

namespace IngressConvergence

/-! ## Handles of new load balancers -/

theorem Text.padded_injective
    (width : Nat) :
    Function.Injective (Text.padded width) := by
  intro number other same
  have value (number : Nat) :
      Nat.ofDigitChars 10 (Text.padded width number).toList 0 = number := by
    simp [Text.padded, Nat.ofDigitChars_append]
  rw [← value number, same, value other]

theorem LoadBalancer.slash_not_mem_serialText
    (serial : Nat) :
    '/' ∉ (serialText serial).toList := by
  intro member
  simp only [serialText, Text.padded, String.toList_ofList, List.mem_append] at member
  rcases member with inPadding | inDigits
  · have same := (List.mem_replicate.mp inPadding).2
    cases same
  · have isDigit := Nat.isDigit_of_mem_toDigits (by decide) (by decide) inDigits
    revert isDigit
    decide

/-- What follows the last separator, and what stands before it, are told by the whole. -/
theorem eq_of_append_separator_eq
    {front other rest otherRest : List Char}
    {separator : Char}
    (absent : separator ∉ rest)
    (otherAbsent : separator ∉ otherRest)
    (same : front ++ separator :: rest = other ++ separator :: otherRest) :
    front = other ∧ rest = otherRest := by
  rcases List.append_eq_append_iff.mp same with ⟨between, longer, shorter⟩ | ⟨between, longer, shorter⟩
  · cases between with
    | nil => simp_all
    | cons first others =>
        rcases List.cons.inj shorter with ⟨-, tail⟩
        exact absurd (tail ▸ by simp) absent
  · cases between with
    | nil => simp_all
    | cons first others =>
        rcases List.cons.inj shorter with ⟨-, tail⟩
        exact absurd (tail ▸ by simp) otherAbsent

/-- The handle of a load balancer begins alike for all in a region, and ends in the name and the
serial number. -/
theorem LoadBalancer.toList_arnOf
    (region name : String)
    (serial : Nat) :
    (arnOf region name serial).toList =
      ("arn:aws:elasticloadbalancing:" ++ region ++ ":000000000000:loadbalancer/app/").toList ++
        (name.toList ++ '/' :: (serialText serial).toList) := by
  have parts :
      arnOf region name serial =
        "arn:aws:elasticloadbalancing:" ++ region ++ ":000000000000:loadbalancer/app/" ++
          name ++ "/" ++ serialText serial :=
    rfl
  simp [parts, String.toList_append]

/-- Load balancers that differ in their name or in their serial number have handles of their own. -/
theorem LoadBalancer.arnOf_inj
    {region name other : String}
    {serial otherSerial : Nat} :
    arnOf region name serial = arnOf region other otherSerial ↔
      name = other ∧ serial = otherSerial := by
  constructor
  · intro same
    have sameLists := congrArg String.toList same
    rw [toList_arnOf, toList_arnOf, List.append_right_inj] at sameLists
    rcases
        eq_of_append_separator_eq (slash_not_mem_serialText serial)
          (slash_not_mem_serialText otherSerial) sameLists with
      ⟨sameName, sameSerial⟩
    exact ⟨String.toList_inj.mp sameName,
      Text.padded_injective 16 (String.toList_inj.mp sameSerial)⟩
  · rintro ⟨rfl, rfl⟩
    rfl

/-! ## Slots -/

namespace CloudTables

variable {tables middle after : CloudTables} {arn : String}

/-- The same is kept under a handle before and after. -/
structure SameSlot
    (tables after : CloudTables)
    (arn : String) : Prop where
  loadBalancer : after.loadBalancers.lookup arn = tables.loadBalancers.lookup arn
  attributes : after.attributes.lookup arn = tables.attributes.lookup arn
  association : after.associations.lookup arn = tables.associations.lookup arn

theorem SameSlot.refl
    (tables : CloudTables)
    (arn : String) :
    SameSlot tables tables arn := ⟨rfl, rfl, rfl⟩

theorem SameSlot.trans
    (first : SameSlot tables middle arn)
    (second : SameSlot middle after arn) :
    SameSlot tables after arn where
  loadBalancer := second.loadBalancer.trans first.loadBalancer
  attributes := second.attributes.trans first.attributes
  association := second.association.trans first.association

/-- Nothing is kept under a handle. -/
structure IsUnused
    (tables : CloudTables)
    (arn : String) : Prop where
  loadBalancer : tables.loadBalancers.lookup arn = none
  attributes : tables.attributes.lookup arn = none
  association : tables.associations.lookup arn = none

theorem IsUnused.of_sameSlot
    (unused : tables.IsUnused arn)
    (same : SameSlot tables after arn) :
    after.IsUnused arn where
  loadBalancer := same.loadBalancer.trans unused.loadBalancer
  attributes := same.attributes.trans unused.attributes
  association := same.association.trans unused.association

end CloudTables

/-- The handle whose slot a call may change; calls that only read have none. -/
def CloudCall.target? (tables : CloudTables) : CloudCall → Option String
  | .createLoadBalancer request =>
      some (LoadBalancer.arnOf tables.region request.name (tables.built + 1))
  | .deleteLoadBalancer arn => some arn
  | .setIpAddressType arn _ => some arn
  | .setSubnets arn _ => some arn
  | .modifyAttributes arn _ => some arn
  | .associateWebAcl arn _ => some arn
  | .disassociateWebAcl arn => some arn
  | _ => none

namespace CloudTables

variable {tables after : CloudTables} {arn : String} {call : CloudCall} {answer : call.Answer}

/-- A call leaves every slot as it is but the one of its target. -/
theorem sameSlot_of_perform
    (performed : tables.perform call = .ok (answer, after))
    (elsewhere : call.target? tables ≠ some arn) :
    SameSlot tables after arn := by
  cases call with
  | findLoadBalancer name =>
      cases performed
      exact .refl tables arn
  | readWebAcl target =>
      cases performed
      exact .refl tables arn
  | checkWebAcl webAclId =>
      cases performed
      exact .refl tables arn
  | findSecurityGroups names =>
      cases performed
      exact .refl tables arn
  | findSubnets names =>
      cases performed
      exact .refl tables arn
  | findClusterSubnets scheme =>
      rcases findClusterSubnets_eq_ok_iff.mp performed with ⟨-, rfl⟩
      exact .refl after arn
  | readAttributes target =>
      rcases readAttributes_eq_ok_iff.mp performed with ⟨-, -, rfl⟩
      exact .refl after arn
  | createLoadBalancer request =>
      have other : arn ≠ LoadBalancer.arnOf tables.region request.name (tables.built + 1) :=
        fun same => elsewhere (congrArg some same.symm)
      rcases create_eq_ok_iff.mp performed with ⟨-, -, built⟩
      cases built
      exact ⟨by simp [LoadBalancer.describe, other], rfl, rfl⟩
  | deleteLoadBalancer target =>
      have other : arn ≠ target := fun same => elsewhere (congrArg some same.symm)
      cases performed
      constructor <;> simp [delete, other]
  | setIpAddressType target ipAddressType =>
      have other : arn ≠ target := fun same => elsewhere (congrArg some same.symm)
      rcases setIpAddressType_eq_ok_iff.mp performed with ⟨balancer, -, rfl⟩
      exact ⟨by simp [other], rfl, rfl⟩
  | setSubnets target subnets =>
      have other : arn ≠ target := fun same => elsewhere (congrArg some same.symm)
      rcases setSubnets_eq_ok_iff.mp performed with ⟨balancer, -, rfl⟩
      exact ⟨by simp [other], rfl, rfl⟩
  | modifyAttributes target attributes =>
      have other : arn ≠ target := fun same => elsewhere (congrArg some same.symm)
      rcases modifyAttributes_eq_ok_iff.mp performed with ⟨-, rfl⟩
      exact ⟨rfl, by simp [setAttributes, other], rfl⟩
  | associateWebAcl target webAclId =>
      have other : arn ≠ target := fun same => elsewhere (congrArg some same.symm)
      rcases associateWebAcl_eq_ok_iff.mp performed with ⟨-, rfl⟩
      exact ⟨rfl, rfl, by simp [other]⟩
  | disassociateWebAcl target =>
      have other : arn ≠ target := fun same => elsewhere (congrArg some same.symm)
      cases performed
      exact ⟨rfl, rfl, by simp [other]⟩

/-! ## Where stored load balancers come from -/

/-- A load balancer is one that was there before: no call changes these of its fields. -/
structure IsContinued
    (before balancer : LoadBalancer) : Prop where
  arn : balancer.arn = before.arn
  name : balancer.name = before.name
  dnsName : balancer.dnsName = before.dnsName
  scheme : balancer.scheme = before.scheme

theorem IsContinued.refl
    (balancer : LoadBalancer) :
    IsContinued balancer balancer := ⟨rfl, rfl, rfl, rfl⟩

theorem IsContinued.trans
    {before between balancer : LoadBalancer}
    (first : IsContinued before between)
    (second : IsContinued between balancer) :
    IsContinued before balancer where
  arn := second.arn.trans first.arn
  name := second.name.trans first.name
  dnsName := second.dnsName.trans first.dnsName
  scheme := second.scheme.trans first.scheme

/-- A load balancer that is stored after a call was stored under its handle before, or the call
created it. -/
theorem stored_of_perform
    {balancer : LoadBalancer}
    (performed : tables.perform call = .ok (answer, after))
    (stored : after.loadBalancers.lookup arn = some balancer) :
    (∃ before, tables.loadBalancers.lookup arn = some before ∧ IsContinued before balancer) ∨
      ∃ request, call = .createLoadBalancer request ∧ call.target? tables = some arn ∧
        balancer =
          .describe tables.region (tables.built + 1) request.name request.scheme
            request.ipAddressType request.subnets := by
  by_cases targeted : call.target? tables = some arn
  case neg =>
    left
    rw [(sameSlot_of_perform performed targeted).loadBalancer] at stored
    exact ⟨balancer, stored, .refl balancer⟩
  cases call with
  | createLoadBalancer request =>
      right
      rcases create_eq_ok_iff.mp performed with ⟨-, -, built⟩
      cases built
      cases targeted
      refine ⟨request, rfl, rfl, ?_⟩
      simpa [LoadBalancer.describe, eq_comm] using stored
  | deleteLoadBalancer target =>
      cases performed
      cases targeted
      simp [delete] at stored
  | setIpAddressType target ipAddressType =>
      left
      cases targeted
      rcases setIpAddressType_eq_ok_iff.mp performed with ⟨before, found, rfl⟩
      rw [Table.lookup_insert, if_pos rfl] at stored
      cases stored
      exact ⟨before, found, rfl, rfl, rfl, rfl⟩
  | setSubnets target subnets =>
      left
      cases targeted
      rcases setSubnets_eq_ok_iff.mp performed with ⟨before, found, rfl⟩
      rw [Table.lookup_insert, if_pos rfl] at stored
      cases stored
      exact ⟨before, found, rfl, rfl, rfl, rfl⟩
  | modifyAttributes target attributes =>
      left
      rcases modifyAttributes_eq_ok_iff.mp performed with ⟨-, rfl⟩
      exact ⟨balancer, stored, .refl balancer⟩
  | associateWebAcl target webAclId =>
      left
      rcases associateWebAcl_eq_ok_iff.mp performed with ⟨-, rfl⟩
      exact ⟨balancer, stored, .refl balancer⟩
  | disassociateWebAcl target =>
      left
      cases performed
      exact ⟨balancer, stored, .refl balancer⟩
  | _ => cases targeted

theorem Change.built_le
    (change : tables.Change after) :
    tables.built ≤ after.built := by
  cases change with
  | built absent => exact Nat.le_succ _
  | _ => exact Nat.le_refl _

end CloudTables

end IngressConvergence
