import IngressConvergence.Proofs.References
import IngressConvergence.Proofs.World.Faultless
import IngressConvergence.Proofs.World.Success

/-!
# Resolution is exact where names are distinct

A resolution only compares how many matches a lookup found and whether each name is among those that it
reports.  Where no name is listed twice this is enough: the lookup then reports the names one for one, or
the resolution fails.  Over the inventory of the cloud it means that every name is carried by exactly one
security group.  Neither the order in which items are listed nor the order in which groups are registered
makes a difference, except for the order of what is resolved.  The main statement is
`DesiredState.resolution_exact`.
-/

namespace IngressConvergence

/-! ## Results up to order -/

/-- Errors that differ at most in the order of what was requested and resolved. -/
inductive ControllerError.SameUpToOrder : ControllerError → ControllerError → Prop where
  | refl
      (error : ControllerError) :
      SameUpToOrder error error
  | unresolved
      {kind : ReferenceKind}
      {requested requested' resolved resolved' : List String}
      (sameRequested : requested.Perm requested')
      (sameResolved : resolved.Perm resolved') :
      SameUpToOrder (.unresolvedReference kind requested resolved)
        (.unresolvedReference kind requested' resolved')
  | configBuild
      {key : String}
      {source source' : ControllerError}
      (same : SameUpToOrder source source') :
      SameUpToOrder (.configBuild key source) (.configBuild key source')

/-- Both results are values that are related, or errors that differ at most in their order. -/
inductive AgreeUpToOrder
    {Value : Type}
    (related : Value → Value → Prop) :
    Except ControllerError Value → Except ControllerError Value → Prop where
  | ok
      {value value' : Value}
      (same : related value value') :
      AgreeUpToOrder related (.ok value) (.ok value')
  | error
      {error error' : ControllerError}
      (same : error.SameUpToOrder error') :
      AgreeUpToOrder related (.error error) (.error error')

namespace Reference

variable {kind : ReferenceKind} {items items' requested : List String}
  {found found' : List ReferenceMatch}

/-! ## Lookups that report a name with every match -/

/-- Distinct names are covered by as many matches exactly if these report them one for one. -/
theorem covers_iff_perm
    (distinct : requested.Nodup)
    (named : ∀ each ∈ found, each.name.isSome) :
    coversNames requested found = true ∧ found.length = requested.length ↔
      (reportedNames found).Perm requested := by
  have asManyNames : (reportedNames found).length = found.length :=
    List.filterMap_length_eq_length.mpr named
  constructor
  · rintro ⟨covers, asMany⟩
    -- The requested names are distinct and all reported, and no more names are reported than requested.
    have within : requested.Subperm (reportedNames found) :=
      distinct.subperm (subset_reportedNames_of_coversNames named asMany covers)
    exact (within.perm_of_length_le (Nat.le_of_eq (asManyNames.trans asMany))).symm
  · intro permuted
    refine ⟨?_, asManyNames.symm.trans permuted.length_eq⟩
    rw [coversNames, Bool.or_eq_true]
    refine .inr (List.all_eq_true.mpr fun name isRequested => ?_)
    exact List.contains_iff_mem.mpr (permuted.mem_iff.mpr isRequested)

/-- Distinct names are settled exactly if they are reported one for one, under distinct identifiers. -/
theorem settles_iff_perm
    (distinct : (names kind items).Nodup)
    (named : ∀ each ∈ found, each.name.isSome) :
    (∃ resolved, settle kind items found = .ok resolved) ↔
      (reportedNames found).Perm (names kind items) ∧ (found.map (·.id)).Nodup := by
  rw [← covers_iff_perm distinct named]
  constructor
  · rintro ⟨resolved, settles⟩
    rcases settle_eq_ok_iff.mp settles with ⟨-, covers, distinctIds, asMany⟩
    exact ⟨⟨covers, asMany⟩, distinctIds⟩
  · rintro ⟨⟨covers, asMany⟩, distinctIds⟩
    exact ⟨_, settle_eq_ok_iff.mpr ⟨rfl, covers, distinctIds, asMany⟩⟩

/-- What is not settled fails with all that was requested and all that was resolved. -/
theorem settle_eq_error
    (fails : ¬ ∃ resolved, settle kind items found = .ok resolved) :
    settle kind items found =
      .error (.unresolvedReference kind items (identifiers kind items ++ found.map (·.id))) := by
  rw [settle] at fails ⊢
  split at fails
  · exact absurd ⟨_, rfl⟩ fails
  next refused => exact if_neg refused

/-! ## Lookups that are put on record -/

/-- A lookup that puts on record what it is asked for. -/
def noting
    {Effect : Type → Type}
    [Monad Effect]
    (lookup : List String → Effect (Except CloudError (List ReferenceMatch)))
    (requested : List String) :
    StateT (List (List String)) Effect (Except CloudError (List ReferenceMatch)) := do
  modify (· ++ [requested])
  lookup requested

/-- What a resolution comes to once its lookup has answered. -/
def afterLookup
    (kind : ReferenceKind)
    (items : List String) :
    Except CloudError (List ReferenceMatch) → Except ControllerError (List String)
  | .ok found => settle kind items found
  | .error error => .error (.referenceLookup kind error)

/-- A resolution asks once, for all names in their order, or it asks nothing because there are no names. -/
theorem run_resolve_noting
    {Effect : Type → Type}
    [Monad Effect]
    [LawfulMonad Effect]
    (kind : ReferenceKind)
    (items : List String)
    (lookup : List String → Effect (Except CloudError (List ReferenceMatch)))
    (asked : List (List String)) :
    (resolve kind items (noting lookup)).run asked =
      if names kind items = [] then pure (.ok items, asked)
      else
        (fun answer => (afterLookup kind items answer, asked ++ [names kind items])) <$>
          lookup (names kind items) := by
  rw [resolve]
  by_cases noNames : names kind items = []
  · simp [noNames]
  · simp only [List.isEmpty_iff, noNames, if_false, noting, StateT.run_bind, StateT.run_modify,
      StateT.run_monadLift, pure_bind, bind_assoc, map_eq_pure_bind]
    refine congrArg _ (funext fun answer => ?_)
    cases answer with
    | ok found => rfl
    | error error => rfl

/-- The resolution of a list is exact: it asks at most once, it succeeds if every name is reported exactly
once and no identifier comes twice, and it fails on every other answer in which all matches have names. -/
structure IsExact
    (kind : ReferenceKind)
    (items : List String) : Prop where
  asksOnce :
    ∀ (Effect : Type → Type) [Monad Effect] [LawfulMonad Effect]
      (lookup : List String → Effect (Except CloudError (List ReferenceMatch)))
      (asked : List (List String)),
      (resolve kind items (noting lookup)).run asked =
        if names kind items = [] then pure (.ok items, asked)
        else
          (fun answer => (afterLookup kind items answer, asked ++ [names kind items])) <$>
            lookup (names kind items)
  succeeds_iff :
    ∀ found : List ReferenceMatch, (∀ each ∈ found, each.name.isSome) →
      ((∃ resolved, afterLookup kind items (.ok found) = .ok resolved) ↔
        (reportedNames found).Perm (names kind items) ∧ (found.map (·.id)).Nodup)
  resolved :
    ∀ (found : List ReferenceMatch) (resolved : List String),
      afterLookup kind items (.ok found) = .ok resolved →
        resolved = identifiers kind items ++ found.map (·.id) ∧ resolved.length = items.length
  unresolved :
    ∀ found : List ReferenceMatch,
      (¬ ∃ resolved, afterLookup kind items (.ok found) = .ok resolved) →
        afterLookup kind items (.ok found) =
          .error (.unresolvedReference kind items (identifiers kind items ++ found.map (·.id)))

theorem isExact_of_nodup
    (distinct : (names kind items).Nodup) :
    IsExact kind items where
  asksOnce := fun _ _ _ lookup asked => run_resolve_noting kind items lookup asked
  succeeds_iff := fun _ named => settles_iff_perm distinct named
  resolved := fun _ _ settles => eq_and_length_of_settle settles
  unresolved := fun _ fails => settle_eq_error fails

/-! ## The order of items and matches -/

theorem coversNames_eq_of_perm
    {requested' : List String}
    (sameRequested : requested.Perm requested')
    (sameFound : found.Perm found') :
    coversNames requested found = coversNames requested' found' := by
  have sameReported : (reportedNames found).Perm (reportedNames found') := sameFound.filterMap _
  have sameTest : (reportedNames found).contains = (reportedNames found').contains :=
    funext fun _ => sameReported.contains_eq
  rw [coversNames, coversNames, sameFound.all_eq, sameRequested.all_eq, sameTest]

/-- The order of items and of matches makes no difference but to the order of what is resolved. -/
theorem settle_agrees_of_perm
    (sameItems : items.Perm items')
    (sameFound : found.Perm found') :
    AgreeUpToOrder List.Perm (settle kind items found) (settle kind items' found') := by
  have sameNames : (names kind items).Perm (names kind items') := sameItems.filter _
  have sameIds : (found.map (·.id)).Perm (found'.map (·.id)) := sameFound.map _
  have sameResolved :
      (identifiers kind items ++ found.map (·.id)).Perm
        (identifiers kind items' ++ found'.map (·.id)) :=
    (sameItems.filter _).append sameIds
  have sameSettled :
      (∃ resolved, settle kind items found = .ok resolved) ↔
        ∃ resolved, settle kind items' found' = .ok resolved := by
    simp only [settle_eq_ok_iff, exists_eq_left, coversNames_eq_of_perm sameNames sameFound,
      sameIds.nodup_iff, sameFound.length_eq, sameNames.length_eq]
  by_cases settles : ∃ resolved, settle kind items found = .ok resolved
  · rcases sameSettled.mp settles with ⟨resolved', settles'⟩
    rcases settles with ⟨resolved, settles⟩
    rw [settles, settles', (eq_and_length_of_settle settles).1, (eq_and_length_of_settle settles').1]
    exact .ok sameResolved
  · rw [settle_eq_error settles, settle_eq_error (mt sameSettled.mpr settles)]
    exact .error (.unresolved sameItems sameResolved)

end Reference

/-! ## Security groups -/

namespace DesiredState

open Reference (names identifiers)

variable {world : World} {items items' : List String} {groups groups' : List SecurityGroup}

/-- The groups of an inventory that carry one of some names. -/
def carrying
    (groups : List SecurityGroup)
    (requested : List String) : List SecurityGroup :=
  groups.filter fun group => requested.contains group.groupName

/-- Among the groups that carry one of some names, each name is carried as often as in the inventory. -/
theorem count_carrying
    (groups : List SecurityGroup)
    (requested : List String)
    (name : String) :
    ((carrying groups requested).map (·.groupName)).count name =
      if name ∈ requested then carriers groups name else 0 := by
  have commutes :
      (carrying groups requested).map (·.groupName) =
        (groups.map (·.groupName)).filter requested.contains := by
    rw [carrying, List.filter_map]
    rfl
  rw [commutes]
  split
  next isRequested => exact List.count_filter (List.contains_iff_mem.mpr isRequested)
  next notRequested =>
    refine List.count_eq_zero.mpr fun member => notRequested ?_
    exact List.contains_iff_mem.mp (List.mem_filter.mp member).2

/-- Distinct names come one for one among the groups that carry them if each is carried exactly once. -/
theorem perm_carrying_iff
    {requested : List String}
    (distinct : requested.Nodup) :
    ((carrying groups requested).map (·.groupName)).Perm requested ↔
      ∀ name ∈ requested, carriers groups name = 1 := by
  rw [List.perm_iff_count]
  constructor
  · intro sameCounts name isRequested
    have same := sameCounts name
    rwa [count_carrying, distinct.count, if_pos isRequested, if_pos isRequested] at same
  · intro carriedOnce name
    rw [count_carrying, distinct.count]
    split
    next isRequested => exact carriedOnce name isRequested
    next => rfl

/-- Without faults a resolution comes to what the inventory settles. -/
theorem run_resolveSecurityGroups
    (undisturbed : world.Undisturbed (resolveSecurityGroups items)) :
    (world.run (resolveSecurityGroups items)).1 =
      Reference.settle .securityGroup items
        (matchesOf (carrying world.cloud.tables.securityGroups (names .securityGroup items))) := by
  refine (undisturbed.runsAs world.matches_calm).result.trans ?_
  rw [resolveSecurityGroups_eq]
  split
  next noNames =>
    have noNames := List.isEmpty_iff.mp noNames
    refine (Reference.settle_eq_ok_iff.mpr ?_).symm
    simp [noNames, Reference.identifiers_eq_self noNames, matchesOf, carrying, Reference.coversNames]
  next => rfl

/-- Groups in another order carry names in another order. -/
theorem matchesOf_carrying_perm
    (sameGroups : groups.Perm groups')
    (sameItems : items.Perm items') :
    (matchesOf (carrying groups (names .securityGroup items))).Perm
      (matchesOf (carrying groups' (names .securityGroup items'))) := by
  have sameNames : (names .securityGroup items).Perm (names .securityGroup items') :=
    sameItems.filter _
  have sameTest :
      (fun group : SecurityGroup => (names .securityGroup items).contains group.groupName) =
        fun group => (names .securityGroup items').contains group.groupName :=
    funext fun _ => sameNames.contains_eq
  rw [carrying, carrying, sameTest]
  exact (sameGroups.filter _).map _

/-- The security groups of a list are resolved exactly, from the inventory of a world without faults. -/
structure ResolvesExactly
    (world : World)
    (items : List String) : Prop where
  succeeds_iff :
    (∃ resolved, (world.run (resolveSecurityGroups items)).1 = .ok resolved) ↔
      (∀ name ∈ names .securityGroup items,
          carriers world.cloud.tables.securityGroups name = 1) ∧
        ((carrying world.cloud.tables.securityGroups (names .securityGroup items)).map
          (·.groupId)).Nodup
  resolved :
    ∀ resolved, (world.run (resolveSecurityGroups items)).1 = .ok resolved →
      resolved =
          identifiers .securityGroup items ++
            (carrying world.cloud.tables.securityGroups (names .securityGroup items)).map
              (·.groupId) ∧
        resolved.length = items.length
  sameInEveryOrder :
    ∀ (other : World) (items' : List String),
      items.Perm items' →
      world.cloud.tables.securityGroups.Perm other.cloud.tables.securityGroups →
      other.Undisturbed (resolveSecurityGroups items') →
        AgreeUpToOrder List.Perm (world.run (resolveSecurityGroups items)).1
          (other.run (resolveSecurityGroups items')).1

/-- A list in which no name comes twice is resolved exactly, whatever a lookup that names its matches
answers, and so it is from the inventory of every world without faults. -/
theorem resolution_exact
    (kind : ReferenceKind)
    (distinct : (names kind items).Nodup) :
    Reference.IsExact kind items ∧
      (kind = .securityGroup → ∀ world : World,
        world.Undisturbed (resolveSecurityGroups items) → ResolvesExactly world items) := by
  refine ⟨Reference.isExact_of_nodup distinct, ?_⟩
  rintro rfl world undisturbed
  have run := run_resolveSecurityGroups undisturbed
  constructor
  · have named := named_of_mem_matchesOf
      (carrying world.cloud.tables.securityGroups (names .securityGroup items))
    rw [run, Reference.settles_iff_perm distinct named, reportedNames_matchesOf, map_id_matchesOf,
      perm_carrying_iff distinct]
  · intro resolved succeeds
    rw [run] at succeeds
    have settled := Reference.eq_and_length_of_settle succeeds
    rwa [map_id_matchesOf] at settled
  · intro other items' sameItems sameGroups otherUndisturbed
    rw [run, run_resolveSecurityGroups otherUndisturbed]
    exact Reference.settle_agrees_of_perm sameItems (matchesOf_carrying_perm sameGroups sameItems)

theorem isFaultless_webDbCloud : webDbCloud.IsFaultless := ⟨rfl, rfl, rfl, rfl⟩

/-- One group is called `web`, so that the name can be resolved, and two are called `db`, so that no list
with that name can. -/
theorem resolution_exact_webDbCloud :
    (webDbCloud.run (resolveSecurityGroups ["web", "sg-9"])).1 = .ok ["sg-9", "sg-1"] ∧
      ¬ ∃ resolved, (webDbCloud.run (resolveSecurityGroups ["db", "web"])).1 = .ok resolved := by
  have distinct : (names .securityGroup ["web", "sg-9"]).Nodup := by decide
  have distinctToo : (names .securityGroup ["db", "web"]).Nodup := by decide
  have resolves := (resolution_exact .securityGroup distinct).2 rfl webDbCloud
    (isFaultless_webDbCloud.undisturbed _)
  have fails := (resolution_exact .securityGroup distinctToo).2 rfl webDbCloud
    (isFaultless_webDbCloud.undisturbed _)
  constructor
  · rcases resolves.succeeds_iff.mpr (by decide) with ⟨resolved, succeeds⟩
    rw [succeeds, (resolves.resolved resolved succeeds).1]
    rfl
  · rw [fails.succeeds_iff]
    decide

end DesiredState

end IngressConvergence
