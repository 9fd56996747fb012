import IngressConvergence.Table

/-!
# Documents

Values travel as documents: nothing, truth values, numbers, texts, lists and records.  Every type
that travels has a function that writes it and one that reads it; reading refuses what does not fit
and never converts between kinds.

A record may be given by its field names, where unknown names are ignored, or as the list of its
fields in their order, where fields at the end may be missing but there may be none too many.  A
choice among words may be given as the word or as a record with the word as its only field and
nothing in it.
-/

namespace IngressConvergence

/-- A value that travels. -/
inductive Document where
  | nothing
  | truth (value : Bool)
  | integer (value : Int)
  /-- A number that is not written as an integer: `digits` divided by a power of ten. -/
  | decimal (digits : Int) (places : Nat)
  | text (value : String)
  | list (items : List Document)
  | record (fields : List (String × Document))

namespace Document

/-! ## Reading plain values -/

/-- A truth value. -/
def truth? : Document → Option Bool
  | .truth value => some value
  | _ => none

/-- A text. -/
def text? : Document → Option String
  | .text value => some value
  | _ => none

/-- An integer of sixteen bits without a sign. -/
def port? : Document → Option UInt16
  | .integer value =>
    if 0 ≤ value ∧ value < 65536 then some (UInt16.ofNat value.toNat) else none
  | _ => none

/-- A list, all of whose items fit. -/
def listOf? {Value : Type} (read : Document → Option Value) : Document → Option (List Value)
  | .list items => items.mapM read
  | _ => none

/-- A record with any field names, whose fields all fit; of two with one name the later stays. -/
def tableOf? {Value : Type} (read : Document → Option Value) : Document → Option (Table Value)
  | .record fields =>
    (fields.mapM fun field => (read field.2).map fun value => (field.1, value)).map Table.ofList
  | _ => none

/-- A word among those that `ofLabel?` knows. -/
def choice? {Value : Type} (ofLabel? : String → Option Value) : Document → Option Value
  | .text label => ofLabel? label
  | .record [(label, .nothing)] => ofLabel? label
  | _ => none

/-! ## Reading records -/

/-- The fields of a record by name, given the names in their order. -/
def fields? (names : List String) : Document → Option (String → Option Document)
  | .record fields => some fun name => fields.lookup name
  | .list items =>
    if items.length ≤ names.length then some fun name => (names.zip items).lookup name else none
  | _ => none

/-- A field that may not be missing. -/
def required? {Value : Type} (read : Document → Option Value) (field : Option Document) :
    Option Value :=
  field.bind read

/-- A field that has a default where it is missing; one that is there has to fit. -/
def withDefault? {Value : Type} (read : Document → Option Value) (default : Value)
    (field : Option Document) : Option Value :=
  match field with
  | some document => read document
  | none => some default

/-- A field that may be missing or hold nothing. -/
def optional? {Value : Type} (read : Document → Option Value) (field : Option Document) :
    Option (Option Value) :=
  match field with
  | none => some none
  | some .nothing => some none
  | some document => (read document).map some

/-! ## Writing -/

/-- Write a list of texts. -/
def ofTexts (texts : List String) : Document :=
  .list (texts.map .text)

/-- Write a number of sixteen bits. -/
def ofPort (port : UInt16) : Document :=
  .integer port.toNat

/-- Write a table as a record with its keys for field names. -/
def ofTable {Value : Type} (write : Value → Document) (table : Table Value) : Document :=
  .record (table.entries.map fun entry => (entry.1, write entry.2))

/-- A field that is left out where there is no value. -/
def field? {Value : Type} (name : String) (write : Value → Document) :
    Option Value → List (String × Document)
  | some value => [(name, write value)]
  | none => []

end Document

end IngressConvergence
