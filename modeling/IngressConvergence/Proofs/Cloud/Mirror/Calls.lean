import IngressConvergence.Proofs.Cloud.Mirror

/-!
# Corresponding calls to clouds that mirror each other

A call for the name of the mirror, made to the shared cloud, and the corresponding call made to the
cloud that is not shared either both fail, alike, or both succeed.  Then they answer alike, and the
tables mirror each other again; if they built a load balancer, its serial numbers correspond from then
on.  The main statement is `Mirrors.performs`.
-/

namespace IngressConvergence

open LoadBalancer (arnOf)

variable {origin tables alone after after' : CloudTables} {name arn arn' : String}
  {renamed renamed' wider : Nat → Nat → Prop} {call call' : CloudCall}

namespace CloudTables

/-- The likeness of two runs for a name that differ in serial numbers. -/
abbrev likenessFor
    (origin : CloudTables)
    (name : String)
    (renamed : Nat → Nat → Prop) : Likeness :=
  .ofOwner origin name (origin.Renames renamed)

/-- Two calls fail alike, or they succeed, answer alike and leave tables that mirror each other. -/
inductive Performs
    (origin : CloudTables)
    (name : String)
    (renamed : Nat → Nat → Prop)
    (tables alone : CloudTables)
    (call call' : CloudCall) : Prop where
  | fails
      {error error' : CloudError}
      (failed : tables.perform call = .error error)
      (failed' : alone.perform call' = .error error')
      (alike : error.Alike (origin.RenamesHandle renamed) error')
  | succeeds
      {answer : call.Answer}
      {answer' : call'.Answer}
      {after after' : CloudTables}
      (renamed' : Nat → Nat → Prop)
      (performed : tables.perform call = .ok (answer, after))
      (performed' : alone.perform call' = .ok (answer', after'))
      (included : renamed ≤ renamed')
      (fresh :
        ∀ serial serial', renamed' serial serial' →
          renamed serial serial' ∨ tables.built < serial)
      (mirrors : origin.Mirrors name renamed' after after')
      (counted : after.built + alone.built = tables.built + after'.built)
      (answered :
        ∀ wider answers, renamed' ≤ wider →
          call.Alike (origin.likenessFor name wider) call' answers → answers answer answer')

/-! ## Slots -/

/-- Under corresponding handles nothing is stored, or corresponding load balancers are. -/
theorem RenamesSlot.stored
    (slot : origin.RenamesSlot renamed tables alone arn arn') :
    tables.loadBalancers.lookup arn = none ∧ alone.loadBalancers.lookup arn' = none ∨
      ∃ balancer balancer', tables.loadBalancers.lookup arn = some balancer ∧
        alone.loadBalancers.lookup arn' = some balancer' ∧
        origin.RenamesBalancer renamed balancer balancer' := by
  have rel := slot.loadBalancer
  generalize tables.loadBalancers.lookup arn = first at rel
  generalize alone.loadBalancers.lookup arn' = second at rel
  cases rel with
  | none => exact .inl ⟨rfl, rfl⟩
  | some renames => exact .inr ⟨_, _, rfl, rfl, renames⟩

theorem contains_of_stored
    {balancer : LoadBalancer}
    (stored : tables.loadBalancers.lookup arn = some balancer) :
    tables.loadBalancers.contains arn = true := by
  rw [Table.contains, stored]
  rfl

theorem RenamesSlot.attributesOf_eq
    (slot : origin.RenamesSlot renamed tables alone arn arn') :
    tables.attributesOf arn = alone.attributesOf arn' := by
  rw [attributesOf, attributesOf, slot.attributes]

/-- Of a load balancer all but its identity may change. -/
theorem RenamesSlot.changed
    (slot : origin.RenamesSlot renamed tables alone arn arn')
    {balancer balancer' : LoadBalancer}
    (renames : origin.RenamesBalancer renamed balancer balancer') :
    origin.RenamesSlot renamed
      { tables with loadBalancers := tables.loadBalancers.insert arn balancer }
      { alone with loadBalancers := alone.loadBalancers.insert arn' balancer' } arn arn' where
  loadBalancer := by
    rw [Table.lookup_insert, Table.lookup_insert, if_pos rfl, if_pos rfl]
    exact .some renames
  attributes := slot.attributes
  association := slot.association

/-! ## Failures -/

theorem notFound_ne_noLoadBalancer
    {message : String}
    (differs : message.toList.head? ≠ some 'l')
    (arn : String) :
    .notFound message ≠ noLoadBalancer arn := by
  intro same
  cases same
  exact differs (by simp [toString, String.toList_append])

end CloudTables

/-- The handle under which a load balancer has to be stored for a call to succeed. -/
def CloudCall.needs? : CloudCall → Option String
  | .setIpAddressType arn _ => some arn
  | .setSubnets arn _ => some arn
  | .readAttributes arn => some arn
  | .modifyAttributes arn _ => some arn
  | _ => none

namespace CloudTables

theorem perform_of_absent
    (needs : call.needs? = some arn)
    (absent : tables.loadBalancers.lookup arn = none) :
    tables.perform call = .error (noLoadBalancer arn) := by
  have notContained : tables.loadBalancers.contains arn = false := by
    rw [Table.contains, absent]
    rfl
  cases call with
  | setIpAddressType target ipAddressType =>
      cases needs
      simp only [perform, changeLoadBalancer, absent, Except.map]
  | setSubnets target subnets =>
      cases needs
      simp only [perform, changeLoadBalancer, absent, Except.map]
  | readAttributes target =>
      cases needs
      simp only [perform, notContained, Bool.false_eq_true, if_false]
  | modifyAttributes target attributes =>
      cases needs
      simp only [perform, modifyAttributes, notContained, Bool.false_eq_true, if_false, Except.map]
  | _ => cases needs

/-- Where one of two corresponding load balancers is missing, both are, and both calls say so. -/
theorem performs_of_absent
    (handle : origin.RenamesHandle renamed arn arn')
    (needs : call.needs? = some arn)
    (needs' : call'.needs? = some arn')
    (absent : tables.loadBalancers.lookup arn = none)
    (absent' : alone.loadBalancers.lookup arn' = none) :
    origin.Performs name renamed tables alone call call' :=
  .fails (perform_of_absent needs absent) (perform_of_absent needs' absent')
    (.noLoadBalancer handle)

/-! ## Calls that only read -/

variable {answers : call.Answer → call'.Answer → Prop}

/-- Calls that leave the tables as they are, and that answer alike. -/
theorem Mirrors.performs_of_read
    (mirrors : origin.Mirrors name renamed tables alone)
    {answer : call.Answer}
    {answer' : call'.Answer}
    (performed : tables.perform call = .ok (answer, tables))
    (performed' : alone.perform call' = .ok (answer', alone))
    (answered :
      ∀ wider answers, renamed ≤ wider →
        call.Alike (origin.likenessFor name wider) call' answers → answers answer answer') :
    origin.Performs name renamed tables alone call call' :=
  .succeeds renamed performed performed' (le_refl renamed) (fun _ _ related => .inl related) mirrors
    rfl answered

/-! ## Calls about a load balancer -/

end CloudTables

/-- Calls that only change a load balancer do not tell what they did. -/
theorem CloudCall.Alike.answered
    {likeness : Likeness}
    {call call' : CloudCall}
    {answers : call.Answer → call'.Answer → Prop}
    (alike : call.Alike likeness call' answers)
    (mutating : call.isMutating = true)
    (creates : ∀ request, call ≠ .createLoadBalancer request)
    (answer : call.Answer)
    (answer' : call'.Answer) :
    answers answer answer' := by
  cases alike with
  | createLoadBalancer mayCreate => exact absurd rfl (creates _)
  | findLoadBalancer => cases mutating
  | readAttributes own => cases mutating
  | readWebAcl own => cases mutating
  | checkWebAcl webAclId => cases mutating
  | findSecurityGroups names => cases mutating
  | findSubnets names => cases mutating
  | findClusterSubnets scheme => cases mutating
  | _ => trivial

namespace CloudTables

/-- Corresponding calls that change what is kept under corresponding handles, and keep it alike. -/
theorem Mirrors.performs_of_target
    (mirrors : origin.Mirrors name renamed tables alone)
    (unused : origin.HasUnusedHandles)
    (handle : origin.RenamesHandle renamed arn arn')
    (concerns : call.Concerns origin name)
    (concerns' : call'.Concerns origin name)
    (target : call.target? tables = some arn)
    (target' : call'.target? alone = some arn')
    (mutating : call.isMutating = true)
    (creates : ∀ request, call ≠ .createLoadBalancer request)
    (answer : call.Answer)
    (answer' : call'.Answer)
    (slot : origin.RenamesSlot renamed after after' arn arn')
    (performed : tables.perform call = .ok (answer, after))
    (performed' : alone.perform call' = .ok (answer', after'))
    (built : after.built = tables.built)
    (built' : after'.built = alone.built) :
    origin.Performs name renamed tables alone call call' := by
  have updates : origin.Updates name renamed renamed after after' arn arn' :=
    { isRenaming := mirrors.isRenaming
      included := le_refl renamed
      built := by
        rw [built, built']
        exact mirrors.built
      handle := handle
      others := fun _ _ _ related _ => related
      slot := slot }
  apply Performs.succeeds renamed performed performed' (le_refl renamed)
  · exact fun _ _ related => .inl related
  · exact mirrors.update unused concerns concerns' performed performed' target target' updates
  · rw [built, built']
  · exact fun wider answers included alike => alike.answered mutating creates answer answer'

/-- What is known of a call about a handle of the name and its counterpart. -/
theorem Mirrors.slot
    (mirrors : origin.Mirrors name renamed tables alone)
    (unused : origin.HasUnusedHandles)
    (own : (origin.likenessFor name renamed).OwnHandle arn arn') :
    origin.RenamesHandle renamed arn arn' ∧ origin.Owns name arn' ∧
      origin.RenamesSlot renamed tables alone arn arn' := by
  have handle : origin.RenamesHandle renamed arn arn' := renamesHandle_iff.mpr own.same
  exact ⟨handle, handle.owns unused mirrors.isRenaming own.isOwn,
    mirrors.own.slots arn arn' own.isOwn handle⟩

theorem Mirrors.region_eq
    (mirrors : origin.Mirrors name renamed tables alone) :
    alone.region = tables.region :=
  mirrors.right.region_eq.trans mirrors.left.region_eq.symm

theorem Mirrors.sameInventory
    (mirrors : origin.Mirrors name renamed tables alone) :
    SameInventory tables alone :=
  mirrors.left.inventory.symm.trans mirrors.right.inventory

theorem Mirrors.performs_deleteLoadBalancer
    (mirrors : origin.Mirrors name renamed tables alone)
    (unused : origin.HasUnusedHandles)
    (own : (origin.likenessFor name renamed).OwnHandle arn arn') :
    origin.Performs name renamed tables alone (.deleteLoadBalancer arn)
      (.deleteLoadBalancer arn') := by
  rcases mirrors.slot unused own with ⟨handle, owns', -⟩
  have deleted : origin.RenamesSlot renamed (tables.delete arn) (alone.delete arn') arn arn' := by
    constructor
    · simp only [delete, Table.lookup_erase, if_pos]
      exact .none
    · simp [delete]
    · simp [delete]
  exact mirrors.performs_of_target unused handle own.isOwn owns' rfl rfl rfl (by simp) () () deleted
    rfl rfl rfl rfl

theorem Mirrors.performs_setIpAddressType
    (mirrors : origin.Mirrors name renamed tables alone)
    (unused : origin.HasUnusedHandles)
    (own : (origin.likenessFor name renamed).OwnHandle arn arn')
    (ipAddressType : IpAddressType) :
    origin.Performs name renamed tables alone (.setIpAddressType arn ipAddressType)
      (.setIpAddressType arn' ipAddressType) := by
  rcases mirrors.slot unused own with ⟨handle, owns', slot⟩
  rcases slot.stored with ⟨absent, absent'⟩ | ⟨balancer, balancer', stored, stored', renames⟩
  · exact performs_of_absent handle rfl rfl absent absent'
  · have changed : origin.RenamesBalancer renamed { balancer with ipAddressType }
        { balancer' with ipAddressType } :=
      ⟨renames.identity, by rw [renames.rest]⟩
    exact mirrors.performs_of_target unused handle own.isOwn owns' rfl rfl rfl (by simp) () ()
      (slot.changed changed) (setIpAddressType_eq_ok_iff.mpr ⟨balancer, stored, rfl⟩)
      (setIpAddressType_eq_ok_iff.mpr ⟨balancer', stored', rfl⟩) rfl rfl

theorem Mirrors.performs_setSubnets
    (mirrors : origin.Mirrors name renamed tables alone)
    (unused : origin.HasUnusedHandles)
    (own : (origin.likenessFor name renamed).OwnHandle arn arn')
    (subnets : List String) :
    origin.Performs name renamed tables alone (.setSubnets arn subnets)
      (.setSubnets arn' subnets) := by
  rcases mirrors.slot unused own with ⟨handle, owns', slot⟩
  rcases slot.stored with ⟨absent, absent'⟩ | ⟨balancer, balancer', stored, stored', renames⟩
  · exact performs_of_absent handle rfl rfl absent absent'
  · have changed :
        origin.RenamesBalancer renamed
          { balancer with zones := LoadBalancer.zonesOf tables.region subnets }
          { balancer' with zones := LoadBalancer.zonesOf alone.region subnets } :=
      ⟨renames.identity, by rw [renames.rest, mirrors.region_eq]⟩
    exact mirrors.performs_of_target unused handle own.isOwn owns' rfl rfl rfl (by simp) () ()
      (slot.changed changed) (setSubnets_eq_ok_iff.mpr ⟨balancer, stored, rfl⟩)
      (setSubnets_eq_ok_iff.mpr ⟨balancer', stored', rfl⟩) rfl rfl

theorem Mirrors.performs_readAttributes
    (mirrors : origin.Mirrors name renamed tables alone)
    (unused : origin.HasUnusedHandles)
    (own : (origin.likenessFor name renamed).OwnHandle arn arn') :
    origin.Performs name renamed tables alone (.readAttributes arn) (.readAttributes arn') := by
  rcases mirrors.slot unused own with ⟨handle, -, slot⟩
  rcases slot.stored with ⟨absent, absent'⟩ | ⟨balancer, balancer', stored, stored', -⟩
  · exact performs_of_absent handle rfl rfl absent absent'
  · refine mirrors.performs_of_read
      (readAttributes_eq_ok_iff.mpr ⟨contains_of_stored stored, rfl, rfl⟩)
      (readAttributes_eq_ok_iff.mpr ⟨contains_of_stored stored', rfl, rfl⟩) ?_
    intro wider answers included alike
    cases alike
    exact slot.attributesOf_eq

theorem Mirrors.performs_modifyAttributes
    (mirrors : origin.Mirrors name renamed tables alone)
    (unused : origin.HasUnusedHandles)
    (own : (origin.likenessFor name renamed).OwnHandle arn arn')
    (attributes : Table String) :
    origin.Performs name renamed tables alone (.modifyAttributes arn attributes)
      (.modifyAttributes arn' attributes) := by
  rcases mirrors.slot unused own with ⟨handle, owns', slot⟩
  rcases slot.stored with ⟨absent, absent'⟩ | ⟨balancer, balancer', stored, stored', -⟩
  · exact performs_of_absent handle rfl rfl absent absent'
  · have modified :
        origin.RenamesSlot renamed
          (tables.setAttributes arn ((tables.attributesOf arn).overlay attributes))
          (alone.setAttributes arn' ((alone.attributesOf arn').overlay attributes)) arn arn' :=
      { loadBalancer := slot.loadBalancer
        attributes := by simp [setAttributes, slot.attributesOf_eq]
        association := slot.association }
    exact mirrors.performs_of_target unused handle own.isOwn owns' rfl rfl rfl (by simp) () ()
      modified
      (modifyAttributes_eq_ok_iff.mpr ⟨contains_of_stored stored, rfl⟩)
      (modifyAttributes_eq_ok_iff.mpr ⟨contains_of_stored stored', rfl⟩) rfl rfl

theorem Mirrors.performs_readWebAcl
    (mirrors : origin.Mirrors name renamed tables alone)
    (unused : origin.HasUnusedHandles)
    (own : (origin.likenessFor name renamed).OwnHandle arn arn') :
    origin.Performs name renamed tables alone (.readWebAcl arn) (.readWebAcl arn') := by
  rcases mirrors.slot unused own with ⟨-, -, slot⟩
  refine mirrors.performs_of_read rfl rfl ?_
  intro wider answers included alike
  cases alike
  simp only [associationOf, slot.association]

theorem Mirrors.performs_associateWebAcl
    (mirrors : origin.Mirrors name renamed tables alone)
    (unused : origin.HasUnusedHandles)
    (own : (origin.likenessFor name renamed).OwnHandle arn arn')
    (webAclId : String) :
    origin.Performs name renamed tables alone (.associateWebAcl arn webAclId)
      (.associateWebAcl arn' webAclId) := by
  rcases mirrors.slot unused own with ⟨handle, owns', slot⟩
  have sameAcls := mirrors.sameInventory.webAcls
  cases known : tables.webAcls.contains webAclId with
  | false =>
      have failed : tables.perform (.associateWebAcl arn webAclId) =
          .error (.notFound s!"web acl {webAclId} not found") := by
        simp only [perform, associate, known, Bool.false_eq_true, if_false, Except.map]
      have failed' : alone.perform (.associateWebAcl arn' webAclId) =
          .error (.notFound s!"web acl {webAclId} not found") := by
        simp only [perform, associate, sameAcls, known, Bool.false_eq_true, if_false, Except.map]
      apply Performs.fails failed failed'
      apply CloudError.Alike.same
      exact notFound_ne_noLoadBalancer (by simp [toString, String.toList_append])
  | true =>
      have known' : alone.webAcls.contains webAclId = true := by rw [sameAcls, known]
      have associated :
          origin.RenamesSlot renamed
            { tables with associations := tables.associations.insert arn webAclId }
            { alone with associations := alone.associations.insert arn' webAclId } arn arn' :=
        { loadBalancer := slot.loadBalancer
          attributes := slot.attributes
          association := by simp }
      exact mirrors.performs_of_target unused handle own.isOwn owns' rfl rfl rfl (by simp) () ()
        associated (associateWebAcl_eq_ok_iff.mpr ⟨known, rfl⟩)
        (associateWebAcl_eq_ok_iff.mpr ⟨known', rfl⟩) rfl rfl

theorem Mirrors.performs_disassociateWebAcl
    (mirrors : origin.Mirrors name renamed tables alone)
    (unused : origin.HasUnusedHandles)
    (own : (origin.likenessFor name renamed).OwnHandle arn arn') :
    origin.Performs name renamed tables alone (.disassociateWebAcl arn)
      (.disassociateWebAcl arn') := by
  rcases mirrors.slot unused own with ⟨handle, owns', slot⟩
  have disassociated :
      origin.RenamesSlot renamed
        { tables with associations := tables.associations.erase arn }
        { alone with associations := alone.associations.erase arn' } arn arn' :=
    { loadBalancer := slot.loadBalancer
      attributes := slot.attributes
      association := by simp }
  exact mirrors.performs_of_target unused handle own.isOwn owns' rfl rfl rfl (by simp) () ()
    disassociated rfl rfl rfl rfl

/-! ## Finding and creating -/

theorem RenamesBalancer.sameBalancer
    (included : renamed ≤ wider)
    {balancer balancer' : LoadBalancer}
    (renames : origin.RenamesBalancer renamed balancer balancer')
    (owns : origin.Owns name balancer.arn) :
    (origin.likenessFor name wider).SameBalancer balancer balancer' :=
  ⟨renames.identity.mono included, owns, renames.rest⟩

theorem Mirrors.performs_findLoadBalancer
    (mirrors : origin.Mirrors name renamed tables alone)
    (unused : origin.HasUnusedHandles) :
    origin.Performs name renamed tables alone (.findLoadBalancer name)
      (.findLoadBalancer name) := by
  refine mirrors.performs_of_read rfl rfl ?_
  intro wider answers included alike
  cases alike
  have found := mirrors.findByName unused
  have owns (balancer : LoadBalancer) (isFound : tables.findByName name = some balancer) :=
    mirrors.left.owns_of_findByName isFound
  generalize tables.findByName name = first at found owns
  generalize alone.findByName name = second at found
  cases found with
  | none => exact .none
  | some renames => exact .some (renames.sameBalancer included (owns _ rfl))

/-- The serial numbers of two load balancers that are built correspond from then on. -/
def Extended
    (renamed : Nat → Nat → Prop)
    (last last' serial serial' : Nat) : Prop :=
  renamed serial serial' ∨ serial = last ∧ serial' = last'

theorem Mirrors.isRenaming_extended
    (mirrors : origin.Mirrors name renamed tables alone) :
    origin.IsRenaming (Extended renamed (tables.built + 1) (alone.built + 1)) where
  biUnique := by
    constructor
    · rintro serial serial' other (related | ⟨isLast, isLast'⟩) (relatedToo | ⟨isToo, isToo'⟩)
      · exact mirrors.isRenaming.biUnique.1 related relatedToo
      · exact absurd (isToo' ▸ (mirrors.built _ _ related).2) (Nat.not_succ_le_self _)
      · exact absurd (isLast' ▸ (mirrors.built _ _ relatedToo).2) (Nat.not_succ_le_self _)
      · exact isLast.trans isToo.symm
    · rintro serial serial' other (related | ⟨isLast, isLast'⟩) (relatedToo | ⟨isToo, isToo'⟩)
      · exact mirrors.isRenaming.biUnique.2 related relatedToo
      · exact absurd (isToo ▸ (mirrors.built _ _ related).1) (Nat.not_succ_le_self _)
      · exact absurd (isLast ▸ (mirrors.built _ _ relatedToo).1) (Nat.not_succ_le_self _)
      · exact isLast'.trans isToo'.symm
  left := by
    rintro serial serial' (related | ⟨rfl, rfl⟩)
    · exact mirrors.isRenaming.left serial serial' related
    · exact Nat.lt_succ_of_le mirrors.left.built_le
  right := by
    rintro serial serial' (related | ⟨rfl, rfl⟩)
    · exact mirrors.isRenaming.right serial serial' related
    · exact Nat.lt_succ_of_le mirrors.right.built_le

/-- Load balancers that are built in both clouds differ in their serial numbers only. -/
theorem Mirrors.renamesBalancer_build
    (mirrors : origin.Mirrors name renamed tables alone)
    (scheme : Scheme)
    (ipAddressType : IpAddressType)
    (subnets : List String) :
    origin.RenamesBalancer (Extended renamed (tables.built + 1) (alone.built + 1))
      (tables.build name scheme ipAddressType subnets).1
      (alone.build name scheme ipAddressType subnets).1 := by
  simp only [build, mirrors.left.region_eq, mirrors.right.region_eq]
  exact ⟨.new name scheme (.inr ⟨rfl, rfl⟩), rfl⟩

/-- Nothing is kept under the handle that the next load balancer of the name gets. -/
theorem Mirrors.isUnused_next
    (mirrors : origin.Mirrors name renamed tables alone) :
    tables.IsUnused (arnOf origin.region name (tables.built + 1)) := by
  have ahead : origin.built < tables.built + 1 := Nat.lt_succ_of_le mirrors.left.built_le
  apply mirrors.own.left _ (owns_arnOf ahead)
  intro arn' handle
  -- Only the serial numbers of load balancers that were built correspond to any.
  rcases handle.exists_serial ahead with ⟨serial', related, -⟩
  exact Nat.not_succ_le_self _ (mirrors.built _ _ related).1

/-- What is built in both clouds is kept alike under its two handles, and nothing else is kept
there. -/
theorem Mirrors.renamesSlot_build
    (mirrors : origin.Mirrors name renamed tables alone)
    (unused : origin.HasUnusedHandles)
    (scheme : Scheme)
    (ipAddressType : IpAddressType)
    (subnets : List String) :
    origin.RenamesSlot (Extended renamed (tables.built + 1) (alone.built + 1))
      (tables.build name scheme ipAddressType subnets).2
      (alone.build name scheme ipAddressType subnets).2
      (arnOf tables.region name (tables.built + 1))
      (arnOf alone.region name (alone.built + 1)) := by
  have nothing := mirrors.isUnused_next
  have nothing' := (mirrors.symm unused).isUnused_next
  rw [← mirrors.left.region_eq] at nothing
  rw [← mirrors.right.region_eq] at nothing'
  constructor
  · rw [lookup_build, lookup_build]
    exact .some (mirrors.renamesBalancer_build scheme ipAddressType subnets)
  · exact nothing.attributes.trans nothing'.attributes.symm
  · exact nothing.association.trans nothing'.association.symm

/-- Building a load balancer of the name in both clouds changes corresponding slots alike. -/
theorem Mirrors.updates_build
    (mirrors : origin.Mirrors name renamed tables alone)
    (unused : origin.HasUnusedHandles)
    (scheme : Scheme)
    (ipAddressType : IpAddressType)
    (subnets : List String) :
    origin.Updates name renamed (Extended renamed (tables.built + 1) (alone.built + 1))
      (tables.build name scheme ipAddressType subnets).2
      (alone.build name scheme ipAddressType subnets).2
      (arnOf tables.region name (tables.built + 1))
      (arnOf alone.region name (alone.built + 1)) where
  isRenaming := mirrors.isRenaming_extended
  included := fun _ _ related => .inl related
  built := by
    rintro serial serial' (related | ⟨rfl, rfl⟩)
    · exact ⟨Nat.le_succ_of_le (mirrors.built _ _ related).1,
        Nat.le_succ_of_le (mirrors.built _ _ related).2⟩
    · exact ⟨Nat.le_refl _, Nat.le_refl _⟩
  handle := by
    rw [mirrors.left.region_eq, mirrors.right.region_eq]
    exact .new name (.inr ⟨rfl, rfl⟩)
  others := by
    intro found found' owns handle differs
    cases handle with
    | old isOld => exact .old isOld
    | new other related =>
        rcases related with related | ⟨rfl, rfl⟩
        · exact .new other related
        · have ahead : origin.built < tables.built + 1 := Nat.lt_succ_of_le mirrors.left.built_le
          have same := owns.eq_of_arnOf (unused.hasNewHandles other) ahead
          rw [same, mirrors.left.region_eq] at differs
          exact absurd rfl differs
  slot := mirrors.renamesSlot_build unused scheme ipAddressType subnets

section Creation

variable {request : CreateRequest}

theorem perform_create_of_noSubnets
    (noSubnets : request.subnets = []) :
    tables.perform (.createLoadBalancer request) =
      .error (.invalidRequest "at least one subnet must be specified") := by
  simp only [perform, create, noSubnets, List.isEmpty_nil, if_true]
  rfl

theorem perform_create_of_taken
    {balancer : LoadBalancer}
    (hasSubnets : request.subnets ≠ [])
    (taken : tables.findByName request.name = some balancer) :
    tables.perform (.createLoadBalancer request) =
      .error (.api "CreateLoadBalancer"
        ("a load balancer with the name '" ++ request.name ++ "' already exists")) := by
  simp only [perform, create, List.isEmpty_iff, hasSubnets, if_false, taken, Option.isSome_some,
    if_true]
  rfl

/-- A load balancer that is created in both clouds. -/
theorem Mirrors.performs_build
    (mirrors : origin.Mirrors request.name renamed tables alone)
    (unused : origin.HasUnusedHandles)
    (hasSubnets : request.subnets ≠ [])
    (absent : tables.findByName request.name = none)
    (absent' : alone.findByName request.name = none) :
    origin.Performs request.name renamed tables alone (.createLoadBalancer request)
      (.createLoadBalancer request) := by
  have performed := create_eq_ok_iff.mpr ⟨hasSubnets, absent, rfl⟩
  have performed' := create_eq_ok_iff.mpr ⟨hasSubnets, absent', rfl⟩
  have concerns : (CloudCall.createLoadBalancer request).Concerns origin request.name := rfl
  have updates := mirrors.updates_build unused request.scheme request.ipAddressType request.subnets
  have renames := mirrors.renamesBalancer_build request.scheme request.ipAddressType request.subnets
  apply Performs.succeeds _ performed performed' updates.included
  · rintro serial serial' (related | ⟨rfl, rfl⟩)
    · exact .inl related
    · exact .inr (Nat.lt_succ_self _)
  · exact mirrors.update unused concerns concerns performed performed' rfl rfl updates
  · show tables.built + 1 + alone.built = tables.built + (alone.built + 1)
    omega
  · intro wider answers included alike
    cases alike
    exact renames.sameBalancer included mirrors.left.owns_next

theorem Mirrors.performs_createLoadBalancer
    (mirrors : origin.Mirrors name renamed tables alone)
    (unused : origin.HasUnusedHandles)
    (named : request.name = name) :
    origin.Performs name renamed tables alone (.createLoadBalancer request)
      (.createLoadBalancer request) := by
  subst named
  by_cases noSubnets : request.subnets = []
  · apply Performs.fails (perform_create_of_noSubnets noSubnets)
      (perform_create_of_noSubnets noSubnets)
    exact .same nofun
  · have found := mirrors.findByName unused
    generalize existing : tables.findByName request.name = first at found
    generalize existing' : alone.findByName request.name = second at found
    cases found with
    | none => exact mirrors.performs_build unused noSubnets existing existing'
    | some renames =>
        apply Performs.fails (perform_create_of_taken noSubnets existing)
          (perform_create_of_taken noSubnets existing')
        exact .same nofun

end Creation

/-! ## Reading the inventory -/

theorem Mirrors.performs_checkWebAcl
    (mirrors : origin.Mirrors name renamed tables alone)
    (webAclId : String) :
    origin.Performs name renamed tables alone (.checkWebAcl webAclId) (.checkWebAcl webAclId) := by
  refine mirrors.performs_of_read rfl rfl ?_
  intro wider answers included alike
  cases alike
  rw [mirrors.sameInventory.webAcls]

theorem Mirrors.performs_findSecurityGroups
    (mirrors : origin.Mirrors name renamed tables alone)
    (names : List String) :
    origin.Performs name renamed tables alone (.findSecurityGroups names)
      (.findSecurityGroups names) := by
  refine mirrors.performs_of_read rfl rfl ?_
  intro wider answers included alike
  cases alike
  rw [securityGroupsNamed, securityGroupsNamed, mirrors.sameInventory.securityGroups]

theorem Mirrors.performs_findSubnets
    (mirrors : origin.Mirrors name renamed tables alone)
    (names : List String) :
    origin.Performs name renamed tables alone (.findSubnets names) (.findSubnets names) := by
  refine mirrors.performs_of_read rfl rfl ?_
  intro wider answers included alike
  cases alike
  rw [subnetsNamed, subnetsNamed, mirrors.sameInventory.namedSubnets]

theorem Mirrors.performs_findClusterSubnets
    (mirrors : origin.Mirrors name renamed tables alone)
    (scheme : Scheme) :
    origin.Performs name renamed tables alone (.findClusterSubnets scheme)
      (.findClusterSubnets scheme) := by
  have same : alone.clusterSubnetsFor scheme = tables.clusterSubnetsFor scheme := by
    rw [clusterSubnetsFor, clusterSubnetsFor, mirrors.sameInventory.clusterSubnets]
  cases found : tables.clusterSubnetsFor scheme with
  | ok subnets =>
      refine mirrors.performs_of_read (findClusterSubnets_eq_ok_iff.mpr ⟨found, rfl⟩)
        (findClusterSubnets_eq_ok_iff.mpr ⟨same.trans found, rfl⟩) ?_
      intro wider answers included alike
      cases alike
      rfl
  | error error =>
      have failed : tables.perform (.findClusterSubnets scheme) = .error error := by
        simp only [perform, found, Except.map]
      have failed' : alone.perform (.findClusterSubnets scheme) = .error error := by
        simp only [perform, same, found, Except.map]
      apply Performs.fails failed failed'
      apply CloudError.Alike.same
      rw [clusterSubnetsFor] at found
      split at found
      · cases found
        exact notFound_ne_noLoadBalancer (by simp [String.toList_append])
      · cases found

/-! ## All calls -/

/-- Corresponding calls fail alike, or they succeed, answer alike and keep the mirror. -/
theorem Mirrors.performs
    (mirrors : origin.Mirrors name renamed tables alone)
    (unused : origin.HasUnusedHandles)
    {answers : call.Answer → call'.Answer → Prop}
    (alike : call.Alike (origin.likenessFor name renamed) call' answers) :
    origin.Performs name renamed tables alone call call' := by
  cases alike with
  | findLoadBalancer => exact mirrors.performs_findLoadBalancer unused
  | createLoadBalancer mayCreate => exact mirrors.performs_createLoadBalancer unused mayCreate
  | deleteLoadBalancer own => exact mirrors.performs_deleteLoadBalancer unused own
  | setIpAddressType own ipAddressType =>
      exact mirrors.performs_setIpAddressType unused own ipAddressType
  | setSubnets own subnets => exact mirrors.performs_setSubnets unused own subnets
  | readAttributes own => exact mirrors.performs_readAttributes unused own
  | modifyAttributes own attributes =>
      exact mirrors.performs_modifyAttributes unused own attributes
  | readWebAcl own => exact mirrors.performs_readWebAcl unused own
  | associateWebAcl own webAclId => exact mirrors.performs_associateWebAcl unused own webAclId
  | disassociateWebAcl own => exact mirrors.performs_disassociateWebAcl unused own
  | checkWebAcl webAclId => exact mirrors.performs_checkWebAcl webAclId
  | findSecurityGroups names => exact mirrors.performs_findSecurityGroups names
  | findSubnets names => exact mirrors.performs_findSubnets names
  | findClusterSubnets scheme => exact mirrors.performs_findClusterSubnets scheme

end CloudTables

end IngressConvergence
