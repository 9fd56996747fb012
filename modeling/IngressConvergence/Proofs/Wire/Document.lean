import IngressConvergence.Table.Lemmas
import IngressConvergence.Wire.Document

/-!
# Documents that are read back

What is written is read back if its parts are.  `Document.ReadsBack` says so of a function that writes
and one that reads, and there is one law for each way in which documents are put together: labels, lists,
tables, and the fields of a record, of which some may be left out.
-/

namespace IngressConvergence.Document

variable {Value : Type} {write : Value → Document} {read? : Document → Option Value}

/-- Everything that is written is read back. -/
def ReadsBack
    (write : Value → Document)
    (read? : Document → Option Value) :
    Prop :=
  ∀ value, read? (write value) = some value

/-! ## Plain values -/

theorem readsBack_truth :
    ReadsBack .truth truth? :=
  fun _ => rfl

theorem readsBack_text :
    ReadsBack .text text? :=
  fun _ => rfl

theorem readsBack_port :
    ReadsBack ofPort port? := by
  intro port
  have fits : (0 : Int) ≤ port.toNat ∧ (port.toNat : Int) < 65536 := by
    have below := port.toNat_lt
    omega
  rw [ofPort, port?, if_pos fits, Int.toNat_natCast, UInt16.ofNat_toNat]

/-- Words that are known are read back. -/
theorem readsBack_label
    {label : Value → String}
    {ofLabel? : String → Option Value}
    (known : ∀ value, ofLabel? (label value) = some value) :
    ReadsBack (fun value => .text (label value)) (choice? ofLabel?) :=
  known

/-! ## Lists and tables -/

theorem ReadsBack.list
    (readsBack : ReadsBack write read?) :
    ReadsBack (fun values => .list (values.map write)) (listOf? read?) := by
  intro values
  show (values.map write).mapM read? = some values
  induction values with
  | nil => rfl
  | cons value others ih => simp [readsBack value, ih]

theorem ReadsBack.table
    (readsBack : ReadsBack write read?) :
    ReadsBack (ofTable write) (tableOf? read?) := by
  intro table
  have entries :
      (table.entries.map fun entry => (entry.1, write entry.2)).mapM
          (fun field => (read? field.2).map fun value => (field.1, value)) =
        some table.entries := by
    induction table.entries with
    | nil => rfl
    | cons entry others ih => simp [readsBack entry.2, ih]
  rw [ofTable, tableOf?, entries, Option.map_some, Table.ofList_entries]

theorem readsBack_texts :
    ReadsBack ofTexts (listOf? text?) :=
  readsBack_text.list

/-! ## Records -/

/-- A field that may be left out answers for its own name alone. -/
theorem lookup_field?
    (name : String)
    (write : Value → Document)
    (value : Option Value)
    (key : String) :
    (field? name write value).lookup key = if key = name then value.map write else none := by
  cases value with
  | none => simp [field?]
  | some value =>
      rw [field?, Table.lookup_entries_cons]
      rfl

theorem required?_some
    (readsBack : ReadsBack write read?)
    (value : Value) :
    required? read? (some (write value)) = some value :=
  readsBack value

theorem withDefault?_some
    (readsBack : ReadsBack write read?)
    (default value : Value) :
    withDefault? read? default (some (write value)) = some value :=
  readsBack value

/-- A field that may be left out is read back if what it holds is, which must not be nothing. -/
theorem optional?_map
    {value : Option Value}
    (something : ∀ value, write value ≠ .nothing)
    (readsBack : ∀ held ∈ value, read? (write held) = some held) :
    optional? read? (value.map write) = some value := by
  cases value with
  | none => rfl
  | some held =>
      rw [Option.map_some, optional?]
      · rw [readsBack held rfl, Option.map_some]
      · exact something held

theorem optional?_text
    (value : Option String) :
    optional? text? (value.map .text) = some value :=
  optional?_map (fun _ => Document.noConfusion) fun held _ => readsBack_text held

/-- What a field holds that may be left out was read from a document. -/
theorem exists_of_optional?
    {field : Option Document}
    {value : Value}
    (read : optional? read? field = some (some value)) :
    ∃ document, read? document = some value := by
  unfold optional? at read
  split at read
  next => cases read
  next => cases read
  next document _ =>
    rcases Option.map_eq_some_iff.mp read with ⟨_, read, ⟨⟩⟩
    exact ⟨document, read⟩

end IngressConvergence.Document
