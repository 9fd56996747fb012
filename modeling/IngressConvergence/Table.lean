/-!
# Tables keyed by text

Tags, attributes, allow-lists and the tables of the cloud are all finite maps from text to values.
A `Table` keeps its entries in strictly increasing order of their keys, and carries the proof, so
that a table has one representation only.  What each operation means for later lookups, and that
tables which answer every lookup alike are equal, is shown in `Table.Lemmas`.
-/

namespace IngressConvergence

/-- A finite map from text to values, its entries in strictly increasing order of their keys. -/
structure Table (Value : Type) where
  entries : List (String × Value)
  increasing : entries.Pairwise fun earlier later => earlier.1 < later.1

namespace Table

variable {Value : Type}

instance [DecidableEq Value] : DecidableEq (Table Value) := fun left right =>
  if same : left.entries = right.entries then
    .isTrue (by cases left; cases right; simp_all)
  else
    .isFalse fun equal => same (congrArg entries equal)

/-! ## Lookup -/

/-- The value that is stored under a key, if there is one. -/
def lookup (table : Table Value) (key : String) : Option Value :=
  table.entries.lookup key

/-- Whether a value is stored under a key. -/
def contains (table : Table Value) (key : String) : Bool :=
  (table.lookup key).isSome

/-- The keys, in increasing order. -/
def keys (table : Table Value) : List String :=
  table.entries.map (·.1)

/-- The values, in the order of their keys. -/
def values (table : Table Value) : List Value :=
  table.entries.map (·.2)

/-- Whether nothing is stored. -/
def isEmpty (table : Table Value) : Bool :=
  table.entries.isEmpty

/-! ## Building -/

/-- The table in which nothing is stored. -/
def empty : Table Value := ⟨[], .nil⟩

instance : EmptyCollection (Table Value) := ⟨empty⟩

instance : Inhabited (Table Value) := ⟨empty⟩

@[simp]
theorem lookup_empty (key : String) : (∅ : Table Value).lookup key = none := rfl

/-- Place an entry among entries that increase, replacing one of the same key. -/
def placeEntry (key : String) (value : Value) :
    List (String × Value) → List (String × Value)
  | [] => [(key, value)]
  | entry :: rest =>
    if key < entry.1 then (key, value) :: entry :: rest
    else if key = entry.1 then (key, value) :: rest
    else entry :: placeEntry key value rest

theorem mem_placeEntry {key : String} {value : Value} {entries : List (String × Value)}
    {entry : String × Value} (member : entry ∈ placeEntry key value entries) :
    entry = (key, value) ∨ entry ∈ entries := by
  induction entries with
  | nil => simpa [placeEntry] using member
  | cons head rest ih =>
    unfold placeEntry at member
    split at member
    · simpa using member
    · split at member
      · grind
      · grind

theorem lt_of_not_lt_of_ne {left right : String} (notLess : ¬ left < right)
    (different : left ≠ right) : right < left := by
  have below : right ≤ left := Std.not_lt.mp notLess
  exact Std.lt_of_le_of_ne below (Ne.symm different)

theorem increasing_placeEntry (key : String) (value : Value) {entries : List (String × Value)}
    (increasing : entries.Pairwise fun earlier later => earlier.1 < later.1) :
    (placeEntry key value entries).Pairwise fun earlier later => earlier.1 < later.1 := by
  induction entries with
  | nil => simp [placeEntry]
  | cons head rest ih =>
    obtain ⟨headBelow, restIncreasing⟩ := List.pairwise_cons.mp increasing
    unfold placeEntry
    split
    next below =>
      refine List.pairwise_cons.mpr ⟨?_, increasing⟩
      intro other member
      rcases List.mem_cons.mp member with rfl | later
      · exact below
      · exact String.lt_trans below (headBelow other later)
    next notBelow =>
      split
      next same =>
        refine List.pairwise_cons.mpr ⟨?_, restIncreasing⟩
        intro other later
        exact same ▸ headBelow other later
      next different =>
        refine List.pairwise_cons.mpr ⟨?_, ih restIncreasing⟩
        intro other member
        rcases mem_placeEntry member with rfl | later
        · exact lt_of_not_lt_of_ne notBelow different
        · exact headBelow other later

/-- Store a value under a key, replacing the one it had. -/
def insert (table : Table Value) (key : String) (value : Value) : Table Value :=
  ⟨placeEntry key value table.entries, increasing_placeEntry key value table.increasing⟩

/-- Remove what is stored under a key, if there is anything. -/
def erase (table : Table Value) (key : String) : Table Value :=
  ⟨table.entries.filter fun entry => entry.1 ≠ key, table.increasing.filter _⟩

/-- Keep the entries that pass a test. -/
def filter (table : Table Value) (keep : String → Value → Bool) : Table Value :=
  ⟨table.entries.filter fun entry => keep entry.1 entry.2, table.increasing.filter _⟩

/-- Store entries one after the other; of two with one key the later stays. -/
def insertAll (table : Table Value) (entries : List (String × Value)) : Table Value :=
  entries.foldl (fun built entry => built.insert entry.1 entry.2) table

/-- The table of a list of entries; of two with one key the later stays. -/
def ofList (entries : List (String × Value)) : Table Value :=
  (∅ : Table Value).insertAll entries

/-- One table laid over another: where both have a key, the upper one's value shows. -/
def overlay (lower upper : Table Value) : Table Value :=
  lower.insertAll upper.entries

end Table

end IngressConvergence
