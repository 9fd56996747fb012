import IngressConvergence.Proofs.Cloud.Slots
import IngressConvergence.Proofs.Likeness

/-!
# The handles that belong to a name

Calls name load balancers by handles, but a load balancer belongs to an ingress by its name.  The
handles of a name, as seen from some origin, are those under which the origin keeps a load balancer of
that name, and all those that the cloud will give to load balancers of that name.  Tables descend from
an origin if the load balancers of a name are found under the handles of the name and nowhere else;
calls that concern one name keep this for every name, which is `CloudTables.Descends.perform`.
-/

namespace IngressConvergence

namespace CloudTables

variable {origin tables after : CloudTables} {name other arn : String}

/-! ## Handles of a name -/

/-- A handle belongs to a name: a load balancer of the name is kept under it, or one of the name
that is still to be built gets it. -/
def Owns
    (origin : CloudTables)
    (name arn : String) : Prop :=
  (∃ balancer, origin.loadBalancers.lookup arn = some balancer ∧ balancer.name = name) ∨
    ∃ serial, origin.built < serial ∧ arn = LoadBalancer.arnOf origin.region name serial

/-- Load balancers of a name that are still to be built get handles that no load balancer has. -/
def HasNewHandles
    (tables : CloudTables)
    (name : String) : Prop :=
  ∀ serial, tables.built < serial →
    tables.loadBalancers.lookup (LoadBalancer.arnOf tables.region name serial) = none

/-- Nothing is kept under the handles of load balancers that are still to be built. -/
def HasUnusedHandles
    (tables : CloudTables) : Prop :=
  ∀ name serial, tables.built < serial → tables.IsUnused (LoadBalancer.arnOf tables.region name serial)

theorem HasUnusedHandles.hasNewHandles
    (unused : tables.HasUnusedHandles)
    (name : String) :
    tables.HasNewHandles name :=
  fun serial ahead => (unused name serial ahead).loadBalancer

theorem owns_arnOf
    {serial : Nat}
    (ahead : origin.built < serial) :
    origin.Owns name (LoadBalancer.arnOf origin.region name serial) :=
  .inr ⟨serial, ahead, rfl⟩

/-- Under a handle that belongs to a name no load balancer of another name is kept. -/
theorem Owns.name_eq
    (owns : origin.Owns name arn)
    (new : origin.HasNewHandles name)
    {balancer : LoadBalancer}
    (stored : origin.loadBalancers.lookup arn = some balancer) :
    balancer.name = name := by
  rcases owns with ⟨known, knownStored, named⟩ | ⟨serial, ahead, rfl⟩
  · rw [knownStored] at stored
    exact Option.some.inj stored ▸ named
  · rw [new serial ahead] at stored
    cases stored

/-- A handle that is still to be given to a load balancer of a name belongs to no other name. -/
theorem Owns.eq_of_arnOf
    {serial : Nat}
    (owns : origin.Owns name (LoadBalancer.arnOf origin.region other serial))
    (new : origin.HasNewHandles other)
    (ahead : origin.built < serial) :
    name = other := by
  rcases owns with ⟨balancer, stored, -⟩ | ⟨otherSerial, -, same⟩
  · rw [new serial ahead] at stored
    cases stored
  · exact (LoadBalancer.arnOf_inj.mp same).1.symm

/-- No handle belongs to two names. -/
theorem Owns.unique
    (owns : origin.Owns name arn)
    (ownsOther : origin.Owns other arn)
    (new : origin.HasNewHandles name)
    (newOther : origin.HasNewHandles other) :
    name = other := by
  rcases ownsOther with ⟨balancer, stored, named⟩ | ⟨serial, ahead, rfl⟩
  · exact (owns.name_eq new stored).symm.trans named
  · exact owns.eq_of_arnOf newOther ahead

/-! ## Tables that descend from an origin -/

/-- Tables that came from an origin, in which the load balancers of a name are kept under the handles
of the name. -/
structure Descends
    (origin tables : CloudTables)
    (name : String) : Prop where
  consistent : tables.IsConsistent
  inventory : SameInventory origin tables
  built_le : origin.built ≤ tables.built
  named :
    ∀ arn balancer, tables.loadBalancers.lookup arn = some balancer →
      (balancer.name = name ↔ origin.Owns name arn)

theorem IsConsistent.descends
    (consistent : origin.IsConsistent)
    (new : origin.HasNewHandles name) :
    origin.Descends origin name where
  consistent := consistent
  inventory := .refl origin
  built_le := Nat.le_refl _
  named := fun _ balancer stored =>
    ⟨fun named => .inl ⟨balancer, stored, named⟩, fun owns => owns.name_eq new stored⟩

theorem Descends.region_eq
    (descends : origin.Descends tables name) :
    tables.region = origin.region :=
  descends.inventory.region

/-- A load balancer that is found by the name is kept under a handle of the name. -/
theorem Descends.owns_of_findByName
    (descends : origin.Descends tables name)
    {balancer : LoadBalancer}
    (found : tables.findByName name = some balancer) :
    origin.Owns name balancer.arn := by
  rcases (descends.consistent.findByName_eq_some_iff name balancer).mp found with ⟨stored, named⟩
  exact (descends.named _ _ stored).mp named

/-- The handle that the next load balancer of the name gets belongs to the name. -/
theorem Descends.owns_next
    (descends : origin.Descends tables other) :
    origin.Owns name (LoadBalancer.arnOf tables.region name (tables.built + 1)) := by
  rw [descends.region_eq]
  exact owns_arnOf (Nat.lt_succ_of_le descends.built_le)

end CloudTables

/-! ## Calls that concern one name -/

/-- A call concerns a name: it creates a load balancer of the name, is about a handle of the name, or
only reads. -/
def CloudCall.Concerns
    (origin : CloudTables)
    (name : String) : CloudCall → Prop
  | .createLoadBalancer request => request.name = name
  | .deleteLoadBalancer arn => origin.Owns name arn
  | .setIpAddressType arn _ => origin.Owns name arn
  | .setSubnets arn _ => origin.Owns name arn
  | .modifyAttributes arn _ => origin.Owns name arn
  | .associateWebAcl arn _ => origin.Owns name arn
  | .disassociateWebAcl arn => origin.Owns name arn
  | _ => True

/-- The likeness in which all calls are about handles of one name. -/
def Likeness.ofOwner
    (origin : CloudTables)
    (name : String)
    (same : LoadBalancerStatus → LoadBalancerStatus → Prop) : Likeness where
  name := name
  same := same
  isOwn := origin.Owns name
  mayCreate := fun request => request.name = name
  inForce := fun _ => True

/-- A call that is about handles of one name concerns the name. -/
theorem CloudCall.Alike.concerns
    {origin : CloudTables}
    {name : String}
    {same : LoadBalancerStatus → LoadBalancerStatus → Prop}
    {call call' : CloudCall}
    {answers : call.Answer → call'.Answer → Prop}
    (alike : call.Alike (.ofOwner origin name same) call' answers) :
    call.Concerns origin name := by
  cases alike with
  | createLoadBalancer mayCreate => exact mayCreate
  | deleteLoadBalancer own => exact own.isOwn
  | setIpAddressType own ipAddressType => exact own.isOwn
  | setSubnets own subnets => exact own.isOwn
  | modifyAttributes own attributes => exact own.isOwn
  | associateWebAcl own webAclId => exact own.isOwn
  | disassociateWebAcl own => exact own.isOwn
  | _ => trivial

namespace CloudTables

variable {origin tables after : CloudTables} {name other : String} {call : CloudCall}
  {answer : call.Answer}

/-- The slot that a call may change belongs to the name that the call concerns. -/
theorem Descends.owns_target
    (descends : origin.Descends tables name)
    (concerns : call.Concerns origin other)
    {arn : String}
    (targeted : call.target? tables = some arn) :
    origin.Owns other arn := by
  cases call with
  | createLoadBalancer request =>
      cases targeted
      cases concerns
      exact descends.owns_next
  | deleteLoadBalancer target =>
      cases targeted
      exact concerns
  | setIpAddressType target ipAddressType =>
      cases targeted
      exact concerns
  | setSubnets target subnets =>
      cases targeted
      exact concerns
  | modifyAttributes target attributes =>
      cases targeted
      exact concerns
  | associateWebAcl target webAclId =>
      cases targeted
      exact concerns
  | disassociateWebAcl target =>
      cases targeted
      exact concerns
  | _ => cases targeted

/-- A call that concerns some name leaves the slots of all other handles as they are. -/
theorem Descends.sameSlot
    (descends : origin.Descends tables name)
    (concerns : call.Concerns origin other)
    (performed : tables.perform call = .ok (answer, after))
    {arn : String}
    (foreign : ¬ origin.Owns other arn) :
    SameSlot tables after arn :=
  sameSlot_of_perform performed fun targeted => foreign (descends.owns_target concerns targeted)

/-- Calls that concern some name keep the load balancers of every name under its handles. -/
theorem Descends.perform
    (descends : origin.Descends tables name)
    (concerns : call.Concerns origin other)
    (new : origin.HasNewHandles other)
    (performed : tables.perform call = .ok (answer, after)) :
    origin.Descends after name where
  consistent := (change_of_perform performed).isConsistent descends.consistent
  inventory := descends.inventory.trans (change_of_perform performed).sameInventory
  built_le := Nat.le_trans descends.built_le (change_of_perform performed).built_le
  named := by
    intro arn balancer stored
    rcases stored_of_perform performed stored with
      ⟨before, storedBefore, continued⟩ | ⟨request, rfl, targeted, rfl⟩
    · rw [continued.name]
      exact descends.named arn before storedBefore
    · cases targeted
      cases concerns
      show request.name = name ↔ _
      rw [descends.region_eq]
      have ahead : origin.built < tables.built + 1 := Nat.lt_succ_of_le descends.built_le
      constructor
      · rintro rfl
        exact owns_arnOf ahead
      · intro owns
        exact (owns.eq_of_arnOf new ahead).symm

/-! ## Tables that changed for one name only -/

/-- Tables that came from an origin by changes to the slots of one name. -/
structure ChangedOnly
    (origin tables : CloudTables)
    (name : String) : Prop extends Descends origin tables name where
  foreign : ∀ arn, ¬ origin.Owns name arn → SameSlot origin tables arn

theorem IsConsistent.changedOnly
    (consistent : origin.IsConsistent)
    (new : origin.HasNewHandles name) :
    origin.ChangedOnly origin name where
  toDescends := consistent.descends new
  foreign := fun arn _ => .refl origin arn

theorem ChangedOnly.perform
    (changed : origin.ChangedOnly tables name)
    (concerns : call.Concerns origin name)
    (new : origin.HasNewHandles name)
    (performed : tables.perform call = .ok (answer, after)) :
    origin.ChangedOnly after name where
  toDescends := changed.toDescends.perform concerns new performed
  foreign := fun arn isForeign =>
    (changed.foreign arn isForeign).trans (changed.sameSlot concerns performed isForeign)

/-- All that belongs to load balancers of other names is as it was. -/
structure SparesOthers
    (tables after : CloudTables)
    (name : String) : Prop where
  loadBalancers :
    ∀ arn balancer, balancer.name ≠ name →
      (after.loadBalancers.lookup arn = some balancer ↔
        tables.loadBalancers.lookup arn = some balancer)
  attributes :
    ∀ arn balancer, tables.loadBalancers.lookup arn = some balancer → balancer.name ≠ name →
      after.attributes.lookup arn = tables.attributes.lookup arn
  associations :
    ∀ arn balancer, tables.loadBalancers.lookup arn = some balancer → balancer.name ≠ name →
      after.associations.lookup arn = tables.associations.lookup arn
  inventory : SameInventory tables after

/-- Where handles are new, what changed belongs to the name, and all else was spared. -/
theorem ChangedOnly.sparesOthers
    (changed : origin.ChangedOnly tables name)
    (new : origin.HasNewHandles name) :
    origin.SparesOthers tables name := by
  have isForeign (arn : String) (balancer : LoadBalancer) (differs : balancer.name ≠ name)
      (stored : origin.loadBalancers.lookup arn = some balancer) : ¬ origin.Owns name arn :=
    fun owns => differs (owns.name_eq new stored)
  constructor
  · intro arn balancer differs
    constructor
    · intro stored
      have notOwn : ¬ origin.Owns name arn :=
        fun owns => differs ((changed.named arn balancer stored).mpr owns)
      exact (changed.foreign arn notOwn).loadBalancer ▸ stored
    · intro stored
      exact (changed.foreign arn (isForeign arn balancer differs stored)).loadBalancer.trans stored
  · intro arn balancer stored differs
    exact (changed.foreign arn (isForeign arn balancer differs stored)).attributes
  · intro arn balancer stored differs
    exact (changed.foreign arn (isForeign arn balancer differs stored)).association
  · exact changed.inventory

end CloudTables

end IngressConvergence
