import IngressConvergence.Proofs.Cloud.Ownership
import IngressConvergence.Proofs.Likeness
import Mathlib.Logic.Relator
import Mathlib.Order.Basic

/-!
# Serial numbers that are given out in another order

Two runs that begin with the same tables may build load balancers in another order.  What they build
then differs in serial numbers, and through these in handles and in host names.  Given which serial
numbers correspond, this module says which identities and handles do, and when tables are the same but
for the renaming: what is kept under corresponding handles is the same but for corresponding
identities, and nothing is kept under a handle without a counterpart.
-/

namespace IngressConvergence

/-! ## Identities of new load balancers -/

namespace LoadBalancer

variable {region name other : String} {scheme scheme' : Scheme} {serial serial' : Nat}

/-- The identity that the cloud gives to the load balancer with a name, a scheme and a serial
number. -/
def identityOf
    (region name : String)
    (scheme : Scheme)
    (serial : Nat) : LoadBalancerStatus :=
  ⟨arnOf region name serial, dnsNameOf region name scheme serial⟩

/-- The host name tells the scheme. -/
theorem dnsNameOf_scheme_inj
    (same : dnsNameOf region name scheme serial = dnsNameOf region name scheme' serial) :
    scheme = scheme' := by
  have sameLength := congrArg String.length same
  cases scheme with
  | internal =>
      cases scheme' with
      | internal => rfl
      | internetFacing => simp [dnsNameOf, String.length_append] at sameLength
  | internetFacing =>
      cases scheme' with
      | internal => simp [dnsNameOf, String.length_append] at sameLength
      | internetFacing => rfl

theorem identityOf_inj :
    identityOf region name scheme serial = identityOf region other scheme' serial' ↔
      name = other ∧ scheme = scheme' ∧ serial = serial' := by
  constructor
  · intro same
    rcases arnOf_inj.mp (congrArg LoadBalancerStatus.arn same) with ⟨rfl, rfl⟩
    exact ⟨rfl, dnsNameOf_scheme_inj (congrArg LoadBalancerStatus.dnsName same), rfl⟩
  · rintro ⟨rfl, rfl, rfl⟩
    rfl

end LoadBalancer

namespace CloudTables

open LoadBalancer (arnOf identityOf)

variable {origin tables tables' : CloudTables} {renamed renamed' wider : Nat → Nat → Prop}
  {name arn arn' : String} {identity identity' : LoadBalancerStatus}

/-! ## Handles that are still to be given -/

/-- No load balancer that is still to be built gets a handle. -/
def IsOld
    (origin : CloudTables)
    (arn : String) : Prop :=
  ∀ name serial, origin.built < serial → arn ≠ arnOf origin.region name serial

/-- A handle that is not old is still to be given. -/
theorem exists_eq_arnOf
    (notOld : ¬ origin.IsOld arn) :
    ∃ name serial, origin.built < serial ∧ arn = arnOf origin.region name serial := by
  simpa [IsOld] using notOld

/-! ## Renamings -/

/-- Serial numbers that were given out since an origin correspond one to one. -/
structure IsRenaming
    (origin : CloudTables)
    (renamed : Nat → Nat → Prop) : Prop where
  biUnique : Relator.BiUnique renamed
  left : ∀ serial serial', renamed serial serial' → origin.built < serial
  right : ∀ serial serial', renamed serial serial' → origin.built < serial'

/-- Identities that are the same but for their serial numbers, which correspond. -/
inductive Renames
    (origin : CloudTables)
    (renamed : Nat → Nat → Prop) :
    LoadBalancerStatus → LoadBalancerStatus → Prop where
  | old
      {identity : LoadBalancerStatus}
      (isOld : origin.IsOld identity.arn) :
      Renames origin renamed identity identity
  | new
      (name : String)
      (scheme : Scheme)
      {serial serial' : Nat}
      (related : renamed serial serial') :
      Renames origin renamed (identityOf origin.region name scheme serial)
        (identityOf origin.region name scheme serial')

/-- Handles that are the same but for their serial numbers, which correspond. -/
inductive RenamesHandle
    (origin : CloudTables)
    (renamed : Nat → Nat → Prop) :
    String → String → Prop where
  | old
      {arn : String}
      (isOld : origin.IsOld arn) :
      RenamesHandle origin renamed arn arn
  | new
      (name : String)
      {serial serial' : Nat}
      (related : renamed serial serial') :
      RenamesHandle origin renamed (arnOf origin.region name serial)
        (arnOf origin.region name serial')

/-- Handles are renamed exactly if identities with these handles are. -/
theorem renamesHandle_iff :
    origin.RenamesHandle renamed arn arn' ↔
      ∃ host host', origin.Renames renamed ⟨arn, host⟩ ⟨arn', host'⟩ := by
  constructor
  · intro handle
    cases handle with
    | old isOld => exact ⟨"", "", .old isOld⟩
    | new name related => exact ⟨_, _, .new name .internal related⟩
  · rintro ⟨host, host', renames⟩
    generalize first : LoadBalancerStatus.mk arn host = identity at renames
    generalize second : LoadBalancerStatus.mk arn' host' = identity' at renames
    cases renames with
    | old isOld =>
        cases first
        cases second
        exact .old isOld
    | new name scheme related =>
        cases first
        cases second
        exact .new name related

theorem Renames.mono
    (included : renamed ≤ wider)
    (renames : origin.Renames renamed identity identity') :
    origin.Renames wider identity identity' := by
  cases renames with
  | old isOld => exact .old isOld
  | new name scheme related => exact .new name scheme (included _ _ related)

theorem RenamesHandle.mono
    (included : renamed ≤ wider)
    (handle : origin.RenamesHandle renamed arn arn') :
    origin.RenamesHandle wider arn arn' := by
  cases handle with
  | old isOld => exact .old isOld
  | new name related => exact .new name (included _ _ related)

/-! ### The other way round -/

theorem IsRenaming.symm
    (isRenaming : origin.IsRenaming renamed) :
    origin.IsRenaming (Function.swap renamed) where
  biUnique :=
    ⟨fun _ _ _ first second => isRenaming.biUnique.2 first second,
      fun _ _ _ first second => isRenaming.biUnique.1 first second⟩
  left := fun serial serial' related => isRenaming.right serial' serial related
  right := fun serial serial' related => isRenaming.left serial' serial related

theorem Renames.symm
    (renames : origin.Renames renamed identity identity') :
    origin.Renames (Function.swap renamed) identity' identity := by
  cases renames with
  | old isOld => exact .old isOld
  | new name scheme related => exact .new name scheme related

theorem RenamesHandle.symm
    (handle : origin.RenamesHandle renamed arn arn') :
    origin.RenamesHandle (Function.swap renamed) arn' arn := by
  cases handle with
  | old isOld => exact .old isOld
  | new name related => exact .new name related

/-- The handle of a load balancer that was built since corresponds only by its serial number. -/
theorem RenamesHandle.exists_serial
    {serial : Nat}
    (handle : origin.RenamesHandle renamed (arnOf origin.region name serial) arn')
    (ahead : origin.built < serial) :
    ∃ serial', renamed serial serial' ∧ arn' = arnOf origin.region name serial' := by
  generalize same : arnOf origin.region name serial = arn at handle
  cases handle with
  | old isOld => exact absurd same.symm (isOld name serial ahead)
  | new other related =>
      rcases LoadBalancer.arnOf_inj.mp same with ⟨rfl, rfl⟩
      exact ⟨_, related, rfl⟩

/-! ### One to one -/

/-- A handle has one new name. -/
theorem RenamesHandle.eq_right
    (isRenaming : origin.IsRenaming renamed)
    {other : String}
    (handle : origin.RenamesHandle renamed arn arn')
    (handleToo : origin.RenamesHandle renamed arn other) :
    arn' = other := by
  cases handle with
  | old isOld =>
      cases handleToo with
      | old isOldToo => rfl
      | new name related => exact absurd rfl (isOld name _ (isRenaming.left _ _ related))
  | new name related =>
      rcases handleToo.exists_serial (isRenaming.left _ _ related) with ⟨serial, relatedToo, rfl⟩
      rw [isRenaming.biUnique.2 related relatedToo]

theorem RenamesHandle.eq_left
    (isRenaming : origin.IsRenaming renamed)
    {other : String}
    (handle : origin.RenamesHandle renamed arn arn')
    (handleToo : origin.RenamesHandle renamed other arn') :
    arn = other :=
  handle.symm.eq_right isRenaming.symm handleToo.symm

/-! ### Identities that correspond to the same identity -/

/-- Serial numbers that correspond to the same serial number. -/
def Common
    (renamed renamed' : Nat → Nat → Prop)
    (serial serial' : Nat) : Prop :=
  ∃ common, renamed serial common ∧ renamed' serial' common

theorem swap_common :
    Function.swap (Common renamed renamed') = Common renamed' renamed := by
  funext serial serial'
  exact propext (exists_congr fun common => and_comm)

theorem IsRenaming.common
    (isRenaming : origin.IsRenaming renamed)
    (isRenaming' : origin.IsRenaming renamed') :
    origin.IsRenaming (Common renamed renamed') where
  biUnique := by
    constructor
    · rintro serial other common ⟨middle, related, related'⟩ ⟨middle', relatedToo, relatedToo'⟩
      cases isRenaming'.biUnique.2 related' relatedToo'
      exact isRenaming.biUnique.1 related relatedToo
    · rintro serial common other ⟨middle, related, related'⟩ ⟨middle', relatedToo, relatedToo'⟩
      cases isRenaming.biUnique.2 related relatedToo
      exact isRenaming'.biUnique.1 related' relatedToo'
  left := fun serial _ ⟨middle, related, _⟩ => isRenaming.left serial middle related
  right := fun _ serial' ⟨middle, _, related'⟩ => isRenaming'.left serial' middle related'

theorem RenamesHandle.exists_common
    (handle : origin.RenamesHandle (Common renamed renamed') arn arn') :
    ∃ common, origin.RenamesHandle renamed arn common ∧
      origin.RenamesHandle renamed' arn' common := by
  cases handle with
  | old isOld => exact ⟨arn, .old isOld, .old isOld⟩
  | new name related =>
      rcases related with ⟨common, related, related'⟩
      exact ⟨_, .new name related, .new name related'⟩

theorem Renames.comp
    (isRenaming : origin.IsRenaming renamed)
    (isRenaming' : origin.IsRenaming renamed')
    {common : LoadBalancerStatus}
    (renames : origin.Renames renamed identity common)
    (renames' : origin.Renames renamed' identity' common) :
    origin.Renames (Common renamed renamed') identity identity' := by
  cases renames with
  | old isOld =>
      cases renames' with
      | old isOldToo => exact .old isOld
      | new name scheme related => exact absurd rfl (isOld name _ (isRenaming'.right _ _ related))
  | new name scheme related =>
      generalize same : identityOf origin.region name scheme _ = found at renames'
      cases renames' with
      | old isOld =>
          exact absurd (congrArg LoadBalancerStatus.arn same.symm)
            (isOld name _ (isRenaming.right _ _ related))
      | new otherName otherScheme related' =>
          rcases LoadBalancer.identityOf_inj.mp same with ⟨rfl, rfl, rfl⟩
          exact .new name scheme ⟨_, related, related'⟩

theorem RenamesHandle.comp
    (isRenaming : origin.IsRenaming renamed)
    (isRenaming' : origin.IsRenaming renamed')
    {common : String}
    (handle : origin.RenamesHandle renamed arn common)
    (handle' : origin.RenamesHandle renamed' arn' common) :
    origin.RenamesHandle (Common renamed renamed') arn arn' := by
  cases handle with
  | old isOld =>
      cases handle' with
      | old isOldToo => exact .old isOld
      | new name related => exact absurd rfl (isOld name _ (isRenaming'.right _ _ related))
  | new name related =>
      rcases handle'.symm.exists_serial (isRenaming.right _ _ related) with
        ⟨serial', related', rfl⟩
      exact .new name ⟨_, related, related'⟩

/-! ### Handles of a name -/

/-- A handle and its counterpart belong to the same name. -/
theorem RenamesHandle.owns
    (unused : origin.HasUnusedHandles)
    (isRenaming : origin.IsRenaming renamed)
    (handle : origin.RenamesHandle renamed arn arn')
    (owns : origin.Owns name arn) :
    origin.Owns name arn' := by
  cases handle with
  | old isOld => exact owns
  | new other related =>
      rw [owns.eq_of_arnOf (unused.hasNewHandles other) (isRenaming.left _ _ related)]
      exact owns_arnOf (isRenaming.right _ _ related)

/-! ## Tables that are the same but for a renaming -/

/-- Load balancers that are the same but for their identities, which correspond. -/
structure RenamesBalancer
    (origin : CloudTables)
    (renamed : Nat → Nat → Prop)
    (balancer balancer' : LoadBalancer) : Prop where
  identity : origin.Renames renamed balancer.identity balancer'.identity
  rest : balancer' = { balancer with arn := balancer'.arn, dnsName := balancer'.dnsName }

theorem RenamesBalancer.mono
    (included : renamed ≤ wider)
    {balancer balancer' : LoadBalancer}
    (renames : origin.RenamesBalancer renamed balancer balancer') :
    origin.RenamesBalancer wider balancer balancer' where
  identity := renames.identity.mono included
  rest := renames.rest

theorem RenamesBalancer.symm
    {balancer balancer' : LoadBalancer}
    (renames : origin.RenamesBalancer renamed balancer balancer') :
    origin.RenamesBalancer (Function.swap renamed) balancer' balancer where
  identity := renames.identity.symm
  rest := by rw [renames.rest]

theorem RenamesBalancer.comp
    (isRenaming : origin.IsRenaming renamed)
    (isRenaming' : origin.IsRenaming renamed')
    {balancer balancer' common : LoadBalancer}
    (renames : origin.RenamesBalancer renamed balancer common)
    (renames' : origin.RenamesBalancer renamed' balancer' common) :
    origin.RenamesBalancer (Common renamed renamed') balancer balancer' where
  identity := renames.identity.comp isRenaming isRenaming' renames'.identity
  rest := by
    have back := renames'.symm.rest
    rw [renames.rest] at back
    rw [back]

/-- What is kept under two handles is the same but for corresponding identities. -/
structure RenamesSlot
    (origin : CloudTables)
    (renamed : Nat → Nat → Prop)
    (tables tables' : CloudTables)
    (arn arn' : String) : Prop where
  loadBalancer :
    Option.Rel (origin.RenamesBalancer renamed) (tables.loadBalancers.lookup arn)
      (tables'.loadBalancers.lookup arn')
  attributes : tables.attributes.lookup arn = tables'.attributes.lookup arn'
  association : tables.associations.lookup arn = tables'.associations.lookup arn'

section Slots

theorem RenamesSlot.of_isOld
    (keyed : tables.IsKeyedByArn)
    (isOld : origin.IsOld arn) :
    origin.RenamesSlot renamed tables tables arn arn where
  loadBalancer := by
    cases stored : tables.loadBalancers.lookup arn with
    | none => exact .none
    | some balancer =>
        have same : balancer.identity.arn = arn := keyed arn balancer stored
        exact .some ⟨.old (same ▸ isOld), rfl⟩
  attributes := rfl
  association := rfl

theorem RenamesSlot.symm
    (slot : origin.RenamesSlot renamed tables tables' arn arn') :
    origin.RenamesSlot (Function.swap renamed) tables' tables arn' arn where
  loadBalancer := by
    have stored := slot.loadBalancer
    generalize tables.loadBalancers.lookup arn = first at stored
    generalize tables'.loadBalancers.lookup arn' = second at stored
    cases stored with
    | none => exact .none
    | some renames => exact .some renames.symm
  attributes := slot.attributes.symm
  association := slot.association.symm

theorem RenamesSlot.mono
    (included : renamed ≤ wider)
    (slot : origin.RenamesSlot renamed tables tables' arn arn') :
    origin.RenamesSlot wider tables tables' arn arn' where
  loadBalancer := by
    have stored := slot.loadBalancer
    generalize tables.loadBalancers.lookup arn = first at stored ⊢
    generalize tables'.loadBalancers.lookup arn' = second at stored ⊢
    cases stored with
    | none => exact .none
    | some renames => exact .some (renames.mono included)
  attributes := slot.attributes
  association := slot.association

theorem RenamesSlot.of_sameSlot
    {after after' : CloudTables}
    (slot : origin.RenamesSlot renamed tables tables' arn arn')
    (same : SameSlot tables after arn)
    (same' : SameSlot tables' after' arn') :
    origin.RenamesSlot renamed after after' arn arn' where
  loadBalancer := by
    rw [same.loadBalancer, same'.loadBalancer]
    exact slot.loadBalancer
  attributes := by
    rw [same.attributes, same'.attributes]
    exact slot.attributes
  association := by
    rw [same.association, same'.association]
    exact slot.association

theorem RenamesSlot.comp
    (isRenaming : origin.IsRenaming renamed)
    (isRenaming' : origin.IsRenaming renamed')
    {middle : CloudTables}
    {common : String}
    (slot : origin.RenamesSlot renamed tables middle arn common)
    (slot' : origin.RenamesSlot renamed' tables' middle arn' common) :
    origin.RenamesSlot (Common renamed renamed') tables tables' arn arn' where
  loadBalancer := by
    have stored := slot.loadBalancer
    have stored' := slot'.loadBalancer
    generalize tables.loadBalancers.lookup arn = first at stored
    generalize tables'.loadBalancers.lookup arn' = second at stored'
    generalize middle.loadBalancers.lookup common = third at stored stored'
    cases stored with
    | none =>
        cases stored'
        exact .none
    | some renames =>
        cases stored' with
        | some renames' => exact .some (renames.comp isRenaming isRenaming' renames')
  attributes := slot.attributes.trans slot'.attributes.symm
  association := slot.association.trans slot'.association.symm

theorem RenamesSlot.of_isUnused
    (nothing : tables.IsUnused arn)
    (nothing' : tables'.IsUnused arn') :
    origin.RenamesSlot renamed tables tables' arn arn' where
  loadBalancer := by
    rw [nothing.loadBalancer, nothing'.loadBalancer]
    exact .none
  attributes := nothing.attributes.trans nothing'.attributes.symm
  association := nothing.association.trans nothing'.association.symm

/-- Where nothing is kept under a handle, nothing is kept under its counterpart. -/
theorem RenamesSlot.isUnused
    (slot : origin.RenamesSlot renamed tables tables' arn arn')
    (nothing' : tables'.IsUnused arn') :
    tables.IsUnused arn where
  loadBalancer := by
    have stored := slot.loadBalancer
    rw [nothing'.loadBalancer] at stored
    generalize tables.loadBalancers.lookup arn = first at stored ⊢
    cases stored
    rfl
  attributes := slot.attributes.trans nothing'.attributes
  association := slot.association.trans nothing'.association

end Slots

/-- Among the handles of a scope, corresponding ones keep the same but for corresponding identities,
and all others keep nothing. -/
structure RenamesWithin
    (origin : CloudTables)
    (renamed : Nat → Nat → Prop)
    (scope : String → Prop)
    (tables tables' : CloudTables) : Prop where
  slots :
    ∀ arn arn', scope arn → origin.RenamesHandle renamed arn arn' →
      origin.RenamesSlot renamed tables tables' arn arn'
  left :
    ∀ arn, scope arn → (∀ arn', ¬ origin.RenamesHandle renamed arn arn') → tables.IsUnused arn
  right :
    ∀ arn', scope arn' → (∀ arn, ¬ origin.RenamesHandle renamed arn arn') → tables'.IsUnused arn'

/-! ### Tables that are alike to the same tables -/

/-- A handle that no common one stands for is not in use. -/
theorem RenamesWithin.left_of_comp
    (unused : origin.HasUnusedHandles)
    (isRenaming : origin.IsRenaming renamed)
    (isRenaming' : origin.IsRenaming renamed')
    {middle : CloudTables}
    (within : origin.RenamesWithin renamed (origin.Owns name) tables middle)
    (within' : origin.RenamesWithin renamed' (origin.Owns name) tables' middle)
    (owns : origin.Owns name arn)
    (absent : ∀ arn', ¬ origin.RenamesHandle (Common renamed renamed') arn arn') :
    tables.IsUnused arn := by
  by_cases related : ∃ common, origin.RenamesHandle renamed arn common
  · rcases related with ⟨common, handle⟩
    apply (within.slots arn common owns handle).isUnused
    apply within'.right common (handle.owns unused isRenaming owns)
    exact fun arn' handle' => absent arn' (handle.comp isRenaming isRenaming' handle')
  · exact within.left arn owns (not_exists.mp related)

/-- Tables that are the same as common tables, but for a renaming each, are the same but for a
renaming. -/
theorem RenamesWithin.comp
    (unused : origin.HasUnusedHandles)
    (isRenaming : origin.IsRenaming renamed)
    (isRenaming' : origin.IsRenaming renamed')
    {middle : CloudTables}
    (within : origin.RenamesWithin renamed (origin.Owns name) tables middle)
    (within' : origin.RenamesWithin renamed' (origin.Owns name) tables' middle) :
    origin.RenamesWithin (Common renamed renamed') (origin.Owns name) tables tables' where
  slots := by
    intro arn arn' owns handle
    rcases handle.exists_common with ⟨common, first, second⟩
    have owns' := second.symm.owns unused isRenaming'.symm (first.owns unused isRenaming owns)
    exact (within.slots arn common owns first).comp isRenaming isRenaming'
      (within'.slots arn' common owns' second)
  left := fun arn owns absent =>
    within.left_of_comp unused isRenaming isRenaming' within' owns absent
  right := by
    intro arn' owns absent
    apply within'.left_of_comp unused isRenaming' isRenaming within owns
    intro arn handle
    have back := handle.symm
    rw [swap_common] at back
    exact absent arn back

/-- Serial numbers of other names may correspond besides. -/
theorem RenamesWithin.widen
    (unused : origin.HasUnusedHandles)
    (within : origin.RenamesWithin renamed (origin.Owns name) tables tables')
    (isWider : origin.IsRenaming wider)
    (included : renamed ≤ wider)
    (besides :
      ∀ serial serial', wider serial serial' →
        renamed serial serial' ∨ ∀ other, ¬ renamed serial other ∧ ¬ renamed other serial') :
    origin.RenamesWithin wider (origin.Owns name) tables tables' where
  slots := by
    intro arn arn' owns handle
    have owns' := handle.owns unused isWider owns
    cases handle with
    | old isOld => exact (within.slots arn arn owns (.old isOld)).mono included
    | @new other serial serial' related =>
        rcases besides serial serial' related with before | unrelated
        · exact (within.slots _ _ owns (.new other before)).mono included
        · apply RenamesSlot.of_isUnused
          · apply within.left _ owns
            intro arn' handle
            rcases handle.exists_serial (isWider.left _ _ related) with ⟨found, before, -⟩
            exact (unrelated found).1 before
          · apply within.right _ owns'
            intro arn handle
            rcases handle.symm.exists_serial (isWider.right _ _ related) with ⟨found, before, -⟩
            exact (unrelated found).2 before
  left := fun arn owns absent =>
    within.left arn owns fun arn' handle => absent arn' (handle.mono included)
  right := fun arn' owns absent =>
    within.right arn' owns fun arn handle => absent arn (handle.mono included)

/-- Scopes that cover all handles. -/
theorem RenamesWithin.everywhere
    {scope scope' : String → Prop}
    (within : origin.RenamesWithin renamed scope tables tables')
    (within' : origin.RenamesWithin renamed scope' tables tables')
    (outside :
      origin.RenamesWithin renamed (fun arn => ¬ scope arn ∧ ¬ scope' arn) tables tables') :
    origin.RenamesWithin renamed (fun _ => True) tables tables' where
  slots := by
    intro arn arn' _ handle
    by_cases inside : scope arn
    · exact within.slots arn arn' inside handle
    by_cases inside' : scope' arn
    · exact within'.slots arn arn' inside' handle
    exact outside.slots arn arn' ⟨inside, inside'⟩ handle
  left := by
    intro arn _ absent
    by_cases inside : scope arn
    · exact within.left arn inside absent
    by_cases inside' : scope' arn
    · exact within'.left arn inside' absent
    exact outside.left arn ⟨inside, inside'⟩ absent
  right := by
    intro arn' _ absent
    by_cases inside : scope arn'
    · exact within.right arn' inside absent
    by_cases inside' : scope' arn'
    · exact within'.right arn' inside' absent
    exact outside.right arn' ⟨inside, inside'⟩ absent

/-- Tables that came from an origin and are the same but for the serial numbers of what was built
since. -/
structure SameButRenamed
    (origin : CloudTables)
    (renamed : Nat → Nat → Prop)
    (tables tables' : CloudTables) : Prop where
  inventory : SameInventory tables tables'
  built : tables'.built = tables.built
  everywhere : origin.RenamesWithin renamed (fun _ => True) tables tables'

end CloudTables

end IngressConvergence
