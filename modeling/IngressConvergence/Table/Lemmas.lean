import IngressConvergence.Table

/-!
# What tables answer

Every operation on tables is described by the lookups of its result.  The main statements are
`Table.lookup_insert`, `Table.lookup_erase`, `Table.lookup_filter` and `Table.lookup_overlay`, one
for each operation, and `Table.ext_lookup`: tables that answer every lookup alike are equal, so that
these descriptions are complete.
-/

namespace IngressConvergence.Table

variable {Value : Type}

/-! ## Entries and lookups -/

/-- The first of several entries answers for its key. -/
theorem lookup_entries_cons (head : String × Value) (rest : List (String × Value)) (key : String) :
    (head :: rest).lookup key = if key = head.1 then some head.2 else rest.lookup key := by
  rw [List.lookup_cons]
  by_cases same : key = head.1
  · simp [same]
  · rw [beq_false_of_ne same, if_neg same]

/-- A key that differs from every key among entries has no value there. -/
theorem lookup_entries_eq_none {entries : List (String × Value)} {key : String}
    (absent : ∀ entry ∈ entries, entry.1 ≠ key) : entries.lookup key = none := by
  induction entries with
  | nil => rfl
  | cons head rest ih =>
    rw [lookup_entries_cons, if_neg (absent head (List.mem_cons_self ..)).symm]
    exact ih fun entry member => absent entry (List.mem_cons_of_mem _ member)

/-- Among increasing entries, a lookup finds the entries and nothing else. -/
theorem lookup_entries_eq_some_iff {entries : List (String × Value)}
    (increasing : entries.Pairwise fun earlier later => earlier.1 < later.1)
    (key : String) (value : Value) :
    entries.lookup key = some value ↔ (key, value) ∈ entries := by
  induction entries with
  | nil => simp
  | cons head rest ih =>
    obtain ⟨headBelow, restIncreasing⟩ := List.pairwise_cons.mp increasing
    obtain ⟨headKey, headValue⟩ := head
    rw [lookup_entries_cons, List.mem_cons]
    by_cases same : key = headKey
    · subst same
      constructor
      · intro found
        exact .inl (by simpa using found.symm)
      · rintro (equal | later)
        · simp [(Prod.mk.inj equal).2]
        · exact absurd (headBelow _ later) (String.lt_irrefl key)
    · rw [if_neg same]
      constructor
      · intro found
        exact .inr ((ih restIncreasing).mp found)
      · rintro (equal | later)
        · exact absurd (Prod.mk.inj equal).1 same
        · exact (ih restIncreasing).mpr later

/-- A lookup finds the entries of a table and nothing else. -/
theorem lookup_eq_some_iff (table : Table Value) (key : String) (value : Value) :
    table.lookup key = some value ↔ (key, value) ∈ table.entries :=
  lookup_entries_eq_some_iff table.increasing key value

/-- The values of a table are those that its keys have. -/
theorem mem_values_iff (table : Table Value) (value : Value) :
    value ∈ table.values ↔ ∃ key, table.lookup key = some value := by
  rw [values, List.mem_map]
  constructor
  · rintro ⟨entry, member, rfl⟩
    exact ⟨entry.1, (table.lookup_eq_some_iff _ _).mpr member⟩
  · rintro ⟨key, found⟩
    exact ⟨(key, value), (table.lookup_eq_some_iff _ _).mp found, rfl⟩

/-- A table without entries is one in which no key has a value. -/
theorem isEmpty_iff (table : Table Value) :
    table.isEmpty = true ↔ ∀ key, table.lookup key = none := by
  rw [isEmpty, List.isEmpty_iff]
  constructor
  · intro empty key
    rw [lookup, empty]
    rfl
  · intro absent
    refine List.eq_nil_iff_forall_not_mem.mpr ?_
    intro entry member
    have found := (table.lookup_eq_some_iff entry.1 entry.2).mpr member
    rw [absent] at found
    cases found

theorem nodup_of_increasing {entries : List (String × Value)}
    (increasing : entries.Pairwise fun earlier later => earlier.1 < later.1) : entries.Nodup := by
  refine List.Pairwise.imp ?_ increasing
  rintro earlier later below rfl
  exact String.lt_irrefl _ below

/-- Increasing entries that answer every lookup alike are the same entries. -/
theorem entries_eq_of_lookup_eq {left right : List (String × Value)}
    (leftIncreasing : left.Pairwise fun earlier later => earlier.1 < later.1)
    (rightIncreasing : right.Pairwise fun earlier later => earlier.1 < later.1)
    (alike : ∀ key, left.lookup key = right.lookup key) : left = right := by
  have sameMembers (key : String) (value : Value) : (key, value) ∈ left ↔ (key, value) ∈ right := by
    rw [← lookup_entries_eq_some_iff leftIncreasing, alike,
      lookup_entries_eq_some_iff rightIncreasing]
  have leftDistinct := nodup_of_increasing leftIncreasing
  have rightDistinct := nodup_of_increasing rightIncreasing
  have permuted : left.Perm right :=
    (List.perm_ext_iff_of_nodup leftDistinct rightDistinct).mpr fun entry =>
      sameMembers entry.1 entry.2
  refine permuted.eq_of_pairwise ?_ leftIncreasing rightIncreasing
  intro first second _ _ below above
  exact absurd (String.lt_trans below above) (String.lt_irrefl _)

/-- Tables that answer every lookup alike are equal. -/
theorem ext_lookup {left right : Table Value}
    (alike : ∀ key, left.lookup key = right.lookup key) : left = right := by
  have sameEntries := entries_eq_of_lookup_eq left.increasing right.increasing alike
  cases left
  cases right
  simp_all

/-- A table without entries is the empty one. -/
theorem isEmpty_iff_eq_empty (table : Table Value) : table.isEmpty = true ↔ table = ∅ := by
  rw [isEmpty_iff]
  constructor
  · exact fun absent => ext_lookup absent
  · rintro rfl key
    rfl

/-! ## One key -/

/-- Placing an entry changes the lookup of its key alone. -/
theorem lookup_placeEntry (key : String) (value : Value) (entries : List (String × Value))
    (other : String) :
    (placeEntry key value entries).lookup other =
      if other = key then some value else entries.lookup other := by
  induction entries with
  | nil => simp [placeEntry, lookup_entries_cons]
  | cons head rest ih =>
    unfold placeEntry
    split
    next below => rw [lookup_entries_cons]
    next notBelow =>
      split
      next equal =>
        by_cases same : other = key <;> simp_all [lookup_entries_cons]
      next different =>
        rw [lookup_entries_cons, ih, lookup_entries_cons]
        by_cases atHead : other = head.1
        · simp [atHead, Ne.symm different]
        · simp [atHead]

@[simp]
theorem lookup_insert (table : Table Value) (key : String) (value : Value) (other : String) :
    (table.insert key value).lookup other =
      if other = key then some value else table.lookup other :=
  lookup_placeEntry key value table.entries other

/-- To store what a key has already changes nothing. -/
theorem insert_of_lookup {table : Table Value} {key : String} {value : Value}
    (stored : table.lookup key = some value) : table.insert key value = table := by
  refine ext_lookup fun other => ?_
  rw [lookup_insert]
  split
  next same => rw [same, stored]
  next => rfl

/-- A lookup among the kept entries answers what it did, if that was kept. -/
@[simp]
theorem lookup_filter (table : Table Value) (keep : String → Value → Bool) (key : String) :
    (table.filter keep).lookup key = (table.lookup key).filter (keep key) := by
  refine Option.ext fun value => ?_
  rw [lookup_eq_some_iff, Option.filter_eq_some_iff, lookup_eq_some_iff]
  simp [filter]

@[simp]
theorem lookup_erase (table : Table Value) (key other : String) :
    (table.erase key).lookup other = if other = key then none else table.lookup other := by
  refine Option.ext fun value => ?_
  rw [lookup_eq_some_iff]
  by_cases same : other = key
  · simp [erase, same]
  · simp [erase, same, ← lookup_eq_some_iff]

theorem contains_iff (table : Table Value) (key : String) :
    table.contains key = true ↔ ∃ value, table.lookup key = some value :=
  Option.isSome_iff_exists

@[simp]
theorem contains_insert (table : Table Value) (key : String) (value : Value) (other : String) :
    (table.insert key value).contains other = true ↔ other = key ∨ table.contains other = true := by
  by_cases same : other = key <;> simp [contains, same]

@[simp]
theorem contains_erase (table : Table Value) (key other : String) :
    (table.erase key).contains other = true ↔ other ≠ key ∧ table.contains other = true := by
  by_cases same : other = key <;> simp [contains, same]

/-! ## One key after another -/

theorem insert_comm (table : Table Value) {key other : String} (differs : key ≠ other)
    (value otherValue : Value) :
    (table.insert key value).insert other otherValue =
      (table.insert other otherValue).insert key value := by
  refine ext_lookup fun asked => ?_
  by_cases isKey : asked = key <;> by_cases isOther : asked = other <;> simp_all

/-- Erasing a key forgets what was stored under it. -/
theorem erase_insert (table : Table Value) (key : String) (value : Value) :
    (table.insert key value).erase key = table.erase key := by
  refine ext_lookup fun asked => ?_
  by_cases same : asked = key <;> simp [same]

theorem erase_insert_of_ne (table : Table Value) {key other : String} (differs : key ≠ other)
    (value : Value) :
    (table.insert key value).erase other = (table.erase other).insert key value := by
  refine ext_lookup fun asked => ?_
  by_cases isKey : asked = key <;> by_cases isOther : asked = other <;> simp_all

/-! ## Several keys -/

/-- Entries that increase, stored one after the other, answer first. -/
theorem lookup_insertAll (table : Table Value) {entries : List (String × Value)}
    (increasing : entries.Pairwise fun earlier later => earlier.1 < later.1) (key : String) :
    (table.insertAll entries).lookup key = (entries.lookup key).or (table.lookup key) := by
  induction entries generalizing table with
  | nil => simp [insertAll]
  | cons head rest ih =>
    obtain ⟨headBelow, restIncreasing⟩ := List.pairwise_cons.mp increasing
    have step : table.insertAll (head :: rest) = (table.insert head.1 head.2).insertAll rest := rfl
    rw [step, ih (table.insert head.1 head.2) restIncreasing, lookup_insert, lookup_entries_cons]
    by_cases same : key = head.1
    · have absent : rest.lookup key = none :=
        lookup_entries_eq_none fun entry later equal =>
          String.lt_irrefl entry.1 (by simpa [equal, same] using headBelow entry later)
      rw [absent, if_pos same, if_pos same]
      rfl
    · simp [same]

/-- Of entries that are stored one after the other, the last one of a key answers for it. -/
theorem lookup_insertAll_reverse (table : Table Value) (entries : List (String × Value))
    (key : String) :
    (table.insertAll entries).lookup key =
      (entries.reverse.lookup key).or (table.lookup key) := by
  induction entries generalizing table with
  | nil => simp [insertAll]
  | cons head rest ih =>
    have step : table.insertAll (head :: rest) = (table.insert head.1 head.2).insertAll rest := rfl
    rw [step, ih, List.reverse_cons, List.lookup_append, lookup_insert, lookup_entries_cons,
      Option.or_assoc]
    by_cases same : key = head.1 <;> simp [same]

theorem lookup_ofList (entries : List (String × Value)) (key : String) :
    (ofList entries).lookup key = entries.reverse.lookup key := by
  rw [ofList, lookup_insertAll_reverse, lookup_empty, Option.or_none]

/-- The table of a table's own entries is that table. -/
@[simp]
theorem ofList_entries (table : Table Value) : ofList table.entries = table := by
  refine ext_lookup fun key => ?_
  rw [ofList, lookup_insertAll ∅ table.increasing, lookup_empty, Option.or_none]
  rfl

/-- Of two tables laid over each other, the upper one answers first. -/
@[simp]
theorem lookup_overlay (lower upper : Table Value) (key : String) :
    (lower.overlay upper).lookup key = (upper.lookup key).or (lower.lookup key) :=
  lookup_insertAll lower upper.increasing key

end IngressConvergence.Table
