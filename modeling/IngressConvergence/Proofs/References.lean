import IngressConvergence.Proofs.Attribution.Cycle
import IngressConvergence.Proofs.Course
import Mathlib.Data.List.Perm.Subperm

/-!
# Names that stand for security groups

Names of security groups are resolved by one lookup for all of them.  It succeeds if there are as many
groups as names, if every name is carried by a group, and if no identifier comes twice.  Together these
do not make names and groups stand for each other one for one: where a name is annotated more often than
it is carried, groups of another name can fill the gap.  `DesiredState.standsFor_of_resolveSecurityGroups`
says that this is the only way in which it fails, so that names which are annotated once each stand for
one group each; `DesiredState.webDbCloud_not_isOneForOne` is a list on which it does fail.
-/

namespace IngressConvergence

namespace Reference

variable {kind : ReferenceKind} {items : List String}

/-- Of two lists of one length, where every name of the one is in the other, all names come as often in
both, or one comes less often and another more often. -/
theorem count_eq_or_shifted
    {requested found : List String}
    (sameLength : found.length = requested.length)
    (known : ∀ name ∈ found, name ∈ requested) :
    (∀ name, found.count name = requested.count name) ∨
      ∃ short ∈ requested, ∃ long ∈ requested,
        found.count short < requested.count short ∧ requested.count long < found.count long := by
  by_cases noMore : ∀ name ∈ found, found.count name ≤ requested.count name
  · have permuted : found.Perm requested :=
      (List.subperm_ext_iff.mpr noMore).perm_of_length_le (Nat.le_of_eq sameLength.symm)
    exact .inl fun name => permuted.count_eq name
  by_cases noFewer : ∀ name ∈ requested, requested.count name ≤ found.count name
  · have permuted : requested.Perm found :=
      (List.subperm_ext_iff.mpr noFewer).perm_of_length_le (Nat.le_of_eq sameLength)
    exact .inl fun name => (permuted.count_eq name).symm
  · simp only [not_forall, Nat.not_le] at noMore noFewer
    rcases noMore with ⟨long, longFound, more⟩
    rcases noFewer with ⟨short, isRequested, fewer⟩
    exact .inr ⟨short, isRequested, long, known long longFound, fewer, more⟩

theorem length_identifiers_add_length_names
    (kind : ReferenceKind)
    (items : List String) :
    (identifiers kind items).length + (names kind items).length = items.length :=
  (List.length_eq_length_filter_add _).symm

theorem mem_names_iff
    {name : String} :
    name ∈ names kind items ↔ name ∈ items ∧ isIdentifier kind name = false := by
  simp [names]

/-- A name comes as often among the names of a list as in the list. -/
theorem count_names
    {name : String}
    (isName : name ∈ names kind items) :
    (names kind items).count name = items.count name :=
  List.count_filter (by simp [(mem_names_iff.mp isName).2])

/-- Without names, all items are identifiers. -/
theorem identifiers_eq_self
    (noNames : names kind items = []) :
    identifiers kind items = items := by
  refine List.filter_eq_self.mpr fun item member => ?_
  have notName := List.filter_eq_nil_iff.mp noNames item member
  simpa using notName

theorem hasDistinctIds_iff
    (found : List ReferenceMatch) :
    hasDistinctIds found = true ↔ (found.map (·.id)).Nodup :=
  decide_eq_true_iff

/-- What a lookup found settles a list if it covers the names, with distinct identifiers and as many
of them as there are names. -/
theorem settle_eq_ok_iff
    {found : List ReferenceMatch}
    {resolved : List String} :
    settle kind items found = .ok resolved ↔
      resolved = identifiers kind items ++ found.map (·.id) ∧
        coversNames (names kind items) found = true ∧ (found.map (·.id)).Nodup ∧
          found.length = (names kind items).length := by
  have sameLength :
      (identifiers kind items ++ found.map (·.id)).length = items.length ↔
        found.length = (names kind items).length := by
    have whole := length_identifiers_add_length_names kind items
    rw [List.length_append, List.length_map]
    omega
  rw [settle]
  split
  next holds =>
    simp only [Bool.and_eq_true, decide_eq_true_eq, hasDistinctIds_iff, sameLength] at holds
    simp [holds, eq_comm]
  next fails =>
    simp only [Bool.and_eq_true, decide_eq_true_eq, hasDistinctIds_iff, sameLength] at fails
    constructor
    · exact nofun
    · rintro ⟨-, covers, distinct, asMany⟩
      exact absurd ⟨⟨covers, distinct⟩, asMany⟩ fails

/-- What is settled are the identifiers of a list and then those of the matches, as many as items. -/
theorem eq_and_length_of_settle
    {found : List ReferenceMatch}
    {resolved : List String}
    (settles : settle kind items found = .ok resolved) :
    resolved = identifiers kind items ++ found.map (·.id) ∧ resolved.length = items.length := by
  rcases settle_eq_ok_iff.mp settles with ⟨rfl, -, -, asMany⟩
  refine ⟨rfl, ?_⟩
  rw [List.length_append, List.length_map, asMany, length_identifiers_add_length_names]

/-- As many matches as there are names cover these, if every match has a name, only if they report each
of them. -/
theorem subset_reportedNames_of_coversNames
    {requested : List String}
    {found : List ReferenceMatch}
    (named : ∀ each ∈ found, each.name.isSome)
    (asMany : found.length = requested.length)
    (covers : coversNames requested found = true) :
    requested ⊆ reportedNames found := by
  rw [coversNames, Bool.or_eq_true] at covers
  rcases covers with noneNamed | allReported
  · -- Every match has a name and none has one, so there are no matches and thus no names.
    cases found with
    | nil =>
        rw [List.eq_nil_of_length_eq_zero asMany.symm]
        exact List.nil_subset _
    | cons first others =>
        have isNamed := named first List.mem_cons_self
        have notNamed := List.all_eq_true.mp noneNamed first List.mem_cons_self
        simp [Option.isNone_iff_eq_none.mp notNamed] at isNamed
  · intro name isRequested
    exact List.contains_iff_mem.mp (List.all_eq_true.mp allReported name isRequested)

end Reference

/-! ## Security groups -/

namespace DesiredState

/-- The matches that a lookup of security groups reports. -/
def matchesOf
    (groups : List SecurityGroup) : List ReferenceMatch :=
  groups.map fun group => ⟨group.groupId, some group.groupName⟩

theorem named_of_mem_matchesOf
    (groups : List SecurityGroup) :
    ∀ each ∈ matchesOf groups, each.name.isSome := by
  intro each member
  rcases List.mem_map.mp member with ⟨group, -, rfl⟩
  rfl

theorem reportedNames_matchesOf
    (groups : List SecurityGroup) :
    Reference.reportedNames (matchesOf groups) = groups.map (·.groupName) := by
  simp [Reference.reportedNames, matchesOf, List.filterMap_map]

theorem map_id_matchesOf
    (groups : List SecurityGroup) :
    (matchesOf groups).map (·.id) = groups.map (·.groupId) := by
  simp [matchesOf]

/-- How many security groups carry a name. -/
def carriers
    (groups : List SecurityGroup)
    (name : String) : Nat :=
  (groups.map (·.groupName)).count name

/-- Each name of a list is carried by as many groups as it comes in the list. -/
def IsOneForOne
    (items : List String)
    (groups : List SecurityGroup) : Prop :=
  ∀ name ∈ Reference.names .securityGroup items, carriers groups name = items.count name

/-- Groups of one name fill the gap that another leaves, which is annotated more than once. -/
structure FillsGap
    (items : List String)
    (groups : List SecurityGroup)
    (long short : String) : Prop where
  names : long ∈ Reference.names .securityGroup items ∧ short ∈ Reference.names .securityGroup items
  isCarried : 0 < carriers groups short
  isShort : carriers groups short < items.count short
  isLong : items.count long < carriers groups long

theorem FillsGap.isRepeated
    {items : List String}
    {groups : List SecurityGroup}
    {long short : String}
    (fills : FillsGap items groups long short) :
    1 < items.count short :=
  Nat.lt_of_le_of_lt fills.isCarried fills.isShort

/-- A resolution that succeeds takes the groups of the inventory that carry the names. -/
theorem settle_eq_ok_of_resolveSecurityGroups
    {world : World}
    {items resolved : List String}
    (succeeds : (world.run (resolveSecurityGroups items)).1 = .ok resolved) :
    Reference.settle .securityGroup items
        (matchesOf
          (world.cloud.tables.securityGroupsNamed (Reference.names .securityGroup items))) =
      .ok resolved := by
  rcases (resolveSecurityGroups items).course_of_run world with ⟨calls, -, course⟩
  rw [succeeds, resolveSecurityGroups_eq] at course
  split at course
  next noNames =>
    have noNames := List.isEmpty_iff.mp noNames
    cases course.ofExcept.1
    apply Reference.settle_eq_ok_iff.mpr
    simp [noNames, Reference.identifiers_eq_self noNames, matchesOf,
      CloudTables.securityGroupsNamed, Reference.coversNames]
  next =>
    rcases course.cloud_bind with ⟨error, failed, -⟩ | ⟨groups, middle, later, -, answered, rest⟩
    · cases failed
    · cases answered
      exact rest.ofExcept.1.symm

/-- Groups that carry every name of a list, and are as many, do so one for one, or some fill a gap. -/
theorem isOneForOne_or_fillsGap
    {items : List String}
    {groups : List SecurityGroup}
    (asMany : groups.length = (Reference.names .securityGroup items).length)
    (carried : ∀ name ∈ Reference.names .securityGroup items, 0 < carriers groups name)
    (asked : ∀ group ∈ groups, group.groupName ∈ Reference.names .securityGroup items) :
    IsOneForOne items groups ∨ ∃ long short, FillsGap items groups long short := by
  have sameLength :
      (groups.map (·.groupName)).length = (Reference.names .securityGroup items).length := by
    rw [List.length_map, asMany]
  have known :
      ∀ name ∈ groups.map (·.groupName), name ∈ Reference.names .securityGroup items := by
    intro name member
    rcases List.mem_map.mp member with ⟨group, isFound, rfl⟩
    exact asked group isFound
  rcases Reference.count_eq_or_shifted sameLength known with
    same | ⟨short, isShort, long, isLong, fewer, more⟩
  · left
    intro name isName
    rw [carriers, same, Reference.count_names isName]
  · rw [Reference.count_names isShort] at fewer
    rw [Reference.count_names isLong] at more
    exact .inr ⟨long, short, ⟨isLong, isShort⟩, carried short isShort, fewer, more⟩

/-- Security groups that are resolved are the identifiers of the list and then those of the groups that
carry its names.  Names and groups stand for each other one for one, unless groups of one name fill the
gap of another that is annotated more than once. -/
theorem standsFor_of_resolveSecurityGroups
    {world : World}
    {items resolved : List String}
    (succeeds : (world.run (resolveSecurityGroups items)).1 = .ok resolved) :
    ∃ groups,
      groups = world.cloud.tables.securityGroupsNamed (Reference.names .securityGroup items) ∧
        resolved = Reference.identifiers .securityGroup items ++ groups.map (·.groupId) ∧
        resolved.length = items.length ∧ (groups.map (·.groupId)).Nodup ∧
        (∀ name ∈ Reference.names .securityGroup items, 0 < carriers groups name) ∧
        (IsOneForOne items groups ∨
          ∃ long short, FillsGap items groups long short ∧ 1 < items.count short) := by
  have settles := settle_eq_ok_of_resolveSecurityGroups succeeds
  rcases Reference.eq_and_length_of_settle settles with ⟨resolves, sameLength⟩
  rcases Reference.settle_eq_ok_iff.mp settles with ⟨-, covers, distinct, asMany⟩
  have reported :=
    Reference.subset_reportedNames_of_coversNames (named_of_mem_matchesOf _) asMany covers
  rw [map_id_matchesOf] at resolves distinct
  rw [matchesOf, List.length_map] at asMany
  rw [reportedNames_matchesOf] at reported
  have carried :
      ∀ name ∈ Reference.names .securityGroup items, 0 < carriers _ name :=
    fun name isName => List.count_pos_iff.mpr (reported isName)
  have asked :
      ∀ group ∈ world.cloud.tables.securityGroupsNamed (Reference.names .securityGroup items),
        group.groupName ∈ Reference.names .securityGroup items :=
    fun group isFound => List.contains_iff_mem.mp (List.mem_filter.mp isFound).2
  refine ⟨_, rfl, resolves, sameLength, distinct, carried, ?_⟩
  rcases isOneForOne_or_fillsGap asMany carried asked with
    oneForOne | ⟨long, short, fills⟩
  · exact .inl oneForOne
  · exact .inr ⟨long, short, fills, fills.isRepeated⟩

/-- A cloud with one group that is called `web` and two that are called `db`. -/
def webDbCloud : World :=
  (World.start "eu-west-1" {}).changeTables fun tables =>
    { tables with securityGroups := [⟨"sg-1", "web"⟩, ⟨"sg-2", "db"⟩, ⟨"sg-3", "db"⟩] }

theorem run_webDbCloud :
    (webDbCloud.run (resolveSecurityGroups ["web", "web", "db"])).1 =
      .ok ["sg-1", "sg-2", "sg-3"] := by
  rfl

/-- The second group that is called `db` fills the gap of the name `web`, which is annotated twice. -/
theorem standsFor_webDbCloud :
    (webDbCloud.run (resolveSecurityGroups ["web", "web", "db"])).1 =
        .ok ["sg-1", "sg-2", "sg-3"] ∧
      ∃ groups,
        groups = webDbCloud.cloud.tables.securityGroupsNamed
            (Reference.names .securityGroup ["web", "web", "db"]) ∧
          ["sg-1", "sg-2", "sg-3"] =
            Reference.identifiers .securityGroup ["web", "web", "db"] ++ groups.map (·.groupId) ∧
          ["sg-1", "sg-2", "sg-3"].length = ["web", "web", "db"].length ∧
          (groups.map (·.groupId)).Nodup ∧
          (∀ name ∈ Reference.names .securityGroup ["web", "web", "db"],
            0 < carriers groups name) ∧
          (IsOneForOne ["web", "web", "db"] groups ∨
            ∃ long short, FillsGap ["web", "web", "db"] groups long short ∧
              1 < ["web", "web", "db"].count short) :=
  ⟨run_webDbCloud, standsFor_of_resolveSecurityGroups run_webDbCloud⟩

/-- A list can be resolved although one of its names is carried by more groups than it comes in the
list, and another by fewer. -/
theorem webDbCloud_not_isOneForOne :
    ¬ ∀ (world : World) (items resolved : List String),
      (world.run (resolveSecurityGroups items)).1 = .ok resolved →
        IsOneForOne items
          (world.cloud.tables.securityGroupsNamed (Reference.names .securityGroup items)) := by
  intro oneForOne
  have same := oneForOne _ _ _ run_webDbCloud "db" (by decide)
  exact absurd same (by decide)

end DesiredState

end IngressConvergence
