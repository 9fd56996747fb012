import IngressConvergence.Collaboration
import IngressConvergence.Proofs.Cloud.Slots

/-!
# The keys of target groups

Target groups are kept under the text of their service and port, and those that are not among the kept
ones are taken for garbage.  A service may have any name, also one that looks like a service with a port;
since a port is written without a colon, the last colon of a key always tells where the service ends.  So
no two backends share a key, and none of them is lost.

The main statement is `TargetGroupSet.keepsLatest`: the set of a list has one entry for each backend, with
the last group of the list for it.
-/

namespace IngressConvergence

namespace TargetGroup

variable {group other : TargetGroup}

/-- What a target group is for: a service and one of its ports. -/
def backend (group : TargetGroup) : String × UInt16 :=
  (group.serviceName, group.servicePort)

theorem toList_key
    (group : TargetGroup) :
    group.key.toList = group.serviceName.toList ++ ':' :: Nat.toDigits 10 group.servicePort.toNat := by
  simp [key]

theorem colon_not_mem_toDigits
    (number : Nat) :
    ':' ∉ Nat.toDigits 10 number := by
  intro member
  have isDigit := Nat.isDigit_of_mem_toDigits (by decide) (by decide) member
  revert isDigit
  decide

/-- No two backends share a key. -/
theorem key_eq_iff :
    group.key = other.key ↔ group.backend = other.backend := by
  constructor
  · intro sameKey
    have sameCharacters := congrArg String.toList sameKey
    rw [toList_key, toList_key] at sameCharacters
    rcases eq_of_append_separator_eq (colon_not_mem_toDigits _) (colon_not_mem_toDigits _)
      sameCharacters with ⟨sameService, sameDigits⟩
    have value (number : Nat) : Nat.ofDigitChars 10 (Nat.toDigits 10 number) 0 = number :=
      Nat.ofDigitChars_ten_toDigits
    have samePort : group.servicePort.toNat = other.servicePort.toNat := by
      rw [← value group.servicePort.toNat, sameDigits, value]
    exact Prod.ext (String.toList_inj.mp sameService) (UInt16.toNat_inj.mp samePort)
  · intro sameBackend
    rcases Prod.mk.inj sameBackend with ⟨sameService, samePort⟩
    rw [key, key, sameService, samePort]

end TargetGroup

namespace TargetGroupSet

variable {groups : List TargetGroup} {group : TargetGroup} {key : String}

/-! ## What a set holds -/

/-- A target group is the last of its backend in a list. -/
def IsLatest (groups : List TargetGroup) (group : TargetGroup) : Prop :=
  ∃ before after, groups = before ++ group :: after ∧
    ∀ later ∈ after, later.backend ≠ group.backend

theorem lookup_ofList
    (groups : List TargetGroup)
    (key : String) :
    (ofList groups).groups.lookup key =
      (groups.reverse.map fun group => (group.key, group)).lookup key := by
  rw [ofList, Table.lookup_ofList, List.map_reverse]

/-- Under its key a set holds the last group of each backend, and nothing else. -/
theorem lookup_ofList_eq_some_iff :
    (ofList groups).groups.lookup key = some group ↔ key = group.key ∧ IsLatest groups group := by
  rw [lookup_ofList, List.lookup_eq_some_iff]
  constructor
  · rintro ⟨after, before, entries, elsewhere⟩
    rcases List.map_eq_append_iff.mp entries with ⟨later, rest, reversed, rfl, restEntries⟩
    rcases List.map_eq_cons_iff.mp restEntries with ⟨stored, earlier, rfl, same, rfl⟩
    rcases Prod.mk.inj same with ⟨rfl, rfl⟩
    refine ⟨rfl, earlier.reverse, later.reverse, ?_, ?_⟩
    · rw [← List.reverse_reverse groups, reversed]
      simp
    · intro other member sameBackend
      have differs := elsewhere _ (List.mem_map_of_mem (List.mem_reverse.mp member))
      simp [TargetGroup.key_eq_iff.mpr sameBackend] at differs
  · rintro ⟨rfl, before, after, rfl, elsewhere⟩
    refine ⟨after.reverse.map fun later => (later.key, later),
      before.reverse.map fun earlier => (earlier.key, earlier), by simp, ?_⟩
    intro entry member
    rcases List.mem_map.mp member with ⟨later, inAfter, rfl⟩
    have differs := elsewhere later (List.mem_reverse.mp inAfter)
    simpa using fun same => differs (TargetGroup.key_eq_iff.mp same).symm

/-- Every backend of a list has a last group. -/
theorem exists_isLatest
    (member : group ∈ groups) :
    ∃ latest, IsLatest groups latest ∧ latest.backend = group.backend := by
  cases found : (ofList groups).groups.lookup group.key with
  | some latest =>
      rcases lookup_ofList_eq_some_iff.mp found with ⟨sameKey, isLatest⟩
      exact ⟨latest, isLatest, (TargetGroup.key_eq_iff.mp sameKey).symm⟩
  | none =>
      rw [lookup_ofList, List.lookup_eq_none_iff] at found
      have differs := found _ (List.mem_map_of_mem (List.mem_reverse.mpr member))
      simp at differs

theorem IsLatest.mem
    (latest : IsLatest groups group) :
    group ∈ groups := by
  rcases latest with ⟨before, after, rfl, -⟩
  simp

theorem mem_values_ofList_iff :
    group ∈ (ofList groups).groups.values ↔ IsLatest groups group := by
  rw [Table.mem_values_iff]
  constructor
  · rintro ⟨key, found⟩
    exact (lookup_ofList_eq_some_iff.mp found).2
  · intro latest
    exact ⟨group.key, lookup_ofList_eq_some_iff.mpr ⟨rfl, latest⟩⟩

/-- No backend has two entries in a set. -/
theorem nodup_backends
    (groups : List TargetGroup) :
    ((ofList groups).groups.values.map TargetGroup.backend).Nodup := by
  have underKey : ∀ entry ∈ (ofList groups).groups.entries, entry.1 = entry.2.key := by
    intro entry member
    exact (lookup_ofList_eq_some_iff.mp ((Table.lookup_eq_some_iff _ _ _).mpr member)).1
  rw [Table.values, List.map_map, List.Nodup, List.pairwise_map]
  refine (ofList groups).groups.increasing.imp_of_mem ?_
  intro earlier later inSet alsoInSet below sameBackend
  have sameKey := TargetGroup.key_eq_iff.mpr sameBackend
  rw [← underKey earlier inSet, ← underKey later alsoInSet] at sameKey
  exact String.lt_irrefl _ (sameKey ▸ below)

/-! ## One entry for each backend -/

/-- The set of a list keeps the last group of each backend, under its key. -/
structure KeepsLatest (groups : List TargetGroup) : Prop where
  /-- Keys tell backends apart, whatever characters there are in the name of the service. -/
  key_eq_iff :
    ∀ group other : TargetGroup, group.key = other.key ↔
      group.serviceName = other.serviceName ∧ group.servicePort = other.servicePort
  holds_iff :
    ∀ key group, (ofList groups).groups.lookup key = some group ↔
      key = group.key ∧ IsLatest groups group
  /-- The backends of the set are those of the list. -/
  backends :
    ∀ backend, backend ∈ (ofList groups).groups.values.map TargetGroup.backend ↔
      backend ∈ groups.map TargetGroup.backend
  once : ((ofList groups).groups.values.map TargetGroup.backend).Nodup
  isEmpty_iff : (ofList groups).isEmpty = true ↔ groups = []

theorem mem_backends_iff
    (groups : List TargetGroup)
    (backend : String × UInt16) :
    backend ∈ (ofList groups).groups.values.map TargetGroup.backend ↔
      backend ∈ groups.map TargetGroup.backend := by
  rw [List.mem_map, List.mem_map]
  constructor
  · rintro ⟨group, inSet, rfl⟩
    exact ⟨group, (mem_values_ofList_iff.mp inSet).mem, rfl⟩
  · rintro ⟨group, member, rfl⟩
    rcases exists_isLatest member with ⟨latest, isLatest, same⟩
    exact ⟨latest, mem_values_ofList_iff.mpr isLatest, same⟩

/-- No target group of a list is lost but for a later one of the same backend. -/
theorem keepsLatest
    (groups : List TargetGroup) :
    KeepsLatest groups := by
  constructor
  case key_eq_iff => exact fun group other => TargetGroup.key_eq_iff.trans Prod.ext_iff
  case holds_iff => exact fun key group => lookup_ofList_eq_some_iff
  case backends => exact mem_backends_iff groups
  case once => exact nodup_backends groups
  case isEmpty_iff =>
    rw [isEmpty, Table.isEmpty_iff]
    constructor
    · intro absent
      refine List.eq_nil_iff_forall_not_mem.mpr fun group member => ?_
      rcases exists_isLatest member with ⟨latest, isLatest, -⟩
      cases (absent latest.key).symm.trans (lookup_ofList_eq_some_iff.mpr ⟨rfl, isLatest⟩)
    · rintro rfl key
      rfl

end TargetGroupSet

end IngressConvergence
