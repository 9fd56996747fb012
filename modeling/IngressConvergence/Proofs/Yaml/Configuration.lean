import IngressConvergence.Configuration.Document
import IngressConvergence.Proofs.Yaml.Writing
import IngressConvergence.Table.Lemmas
import Mathlib.Data.List.Perm.Basic
import Mathlib.Tactic.MkIffOfInductiveProp

/-!
# Configurations as documents

A map describes a configuration if each field of the configuration is what the entries of the map say
of it, or has its default where they say nothing; this is `ofNode?_map_eq_some_iff`.  So it does not
matter how the entries are arranged: their order does not count, fields that mean nothing are ignored,
and a field that is missing counts as it does in the default configuration.  But a field that means
something may not be there twice.

`ofText?_text` says that every configuration has a text that is read back as the configuration,
whatever the namespaces, the names and the cluster are.
-/

namespace IngressConvergence.Configuration

open Yaml (Node)

/-! ## Writing -/

/-- A word as a plain scalar. -/
def word (text : String) : Node :=
  .scalar true text

/-- A text between quotation marks. -/
def quoted (text : String) : Node :=
  .scalar false text

/-- A truth value as a plain scalar. -/
def truthNode (value : Bool) : Node :=
  word (if value then "true" else "false")

/-- A text that may be absent, as a plain scalar if it is. -/
def absentOrQuoted : Option String → Node
  | some text => quoted text
  | none => word "null"

/-- An allow-list, by namespace. -/
def allowListNode (allowList : Table (List String)) : Node :=
  .map (allowList.entries.map fun entry => (quoted entry.1, .list (entry.2.map quoted)))

/-- The fields of a configuration, none of which is missing. -/
def nodeEntries (configuration : Configuration) : List (Node × Node) :=
  [(word "restrictScheme", truthNode configuration.restrictScheme),
    (word "internetFacingIngresses", allowListNode configuration.internetFacingIngresses),
    (word "albNamePrefix", quoted configuration.albNamePrefix),
    (word "clusterName", absentOrQuoted configuration.clusterName)]

/-- The node of a configuration. -/
def toNode (configuration : Configuration) : Node :=
  .map configuration.nodeEntries

/-! ## The entries of a map -/

variable {entries others : List (Node × Node)} {named renamed : List (String × Node)} {name : String}
  {configuration : Configuration}

/-- A field of a map with text keys is an entry of the map. -/
structure IsEntry
    (entry : Node × Node)
    (field : String × Node) :
    Prop where
  key : entry.1.text? = some field.1
  value : entry.2 = field.2

/-- The entries of a map are read as fields one by one. -/
theorem textEntries?_eq_some_iff :
    textEntries? entries = some named ↔ List.Forall₂ IsEntry entries named := by
  rw [textEntries?]
  induction entries generalizing named with
  | nil => simp [eq_comm]
  | cons entry entries ih =>
    rw [List.mapM_cons, List.forall₂_cons_left_iff]
    simp only [Option.bind_eq_bind, Option.bind_eq_some_iff, Option.map_eq_some_iff]
    constructor
    · rintro ⟨field, ⟨key, isKey, rfl⟩, fields, reads, ⟨⟩⟩
      exact ⟨_, _, ⟨isKey, rfl⟩, ih.mp reads, rfl⟩
    · rintro ⟨field, fields, isEntry, areEntries, rfl⟩
      exact ⟨field, ⟨_, isEntry.key, by rw [isEntry.value]⟩, fields, ih.mpr areEntries, rfl⟩

/-- Entries in another order are fields in another order. -/
theorem exists_textEntries?_of_perm
    (perm : entries.Perm others)
    (reads : textEntries? entries = some named) :
    ∃ renamed, textEntries? others = some renamed ∧ named.Perm renamed := by
  rcases List.perm_comp_forall₂ perm.symm (textEntries?_eq_some_iff.mp reads) with
    ⟨renamed, areEntries, perm⟩
  exact ⟨renamed, textEntries?_eq_some_iff.mpr areEntries, perm.symm⟩

theorem exists_entry
    (reads : textEntries? entries = some named)
    {field : String × Node}
    (isField : field ∈ named) :
    ∃ entry ∈ entries, IsEntry entry field := by
  induction textEntries?_eq_some_iff.mp reads with
  | nil => cases isField
  | cons isEntry areEntries ih =>
    rcases List.mem_cons.mp isField with rfl | isField
    · exact ⟨_, List.mem_cons_self, isEntry⟩
    · rcases ih (textEntries?_eq_some_iff.mpr areEntries) isField with ⟨entry, member, isEntry⟩
      exact ⟨entry, List.mem_cons_of_mem _ member, isEntry⟩

theorem textEntries?_cons
    {entry : Node × Node}
    (isKey : entry.1.text? = some name)
    (entries : List (Node × Node)) :
    textEntries? (entry :: entries) = (textEntries? entries).map ((name, entry.2) :: ·) := by
  rw [textEntries?, List.mapM_cons, isKey, ← textEntries?]
  cases textEntries? entries with
  | none => rfl
  | some named => rfl

/-! ## Values -/

theorem text?_quoted
    (text : String) :
    (quoted text).text? = some text :=
  rfl

theorem truth?_truthNode
    (value : Bool) :
    (truthNode value).truth? = some value := by
  cases value with
  | true => rfl
  | false => rfl

theorem absentOrText?_absentOrQuoted
    (text : Option String) :
    absentOrText? (absentOrQuoted text) = some text := by
  cases text with
  | none => rfl
  | some text => rfl

theorem texts?_map_quoted
    (texts : List String) :
    (Node.list (texts.map quoted)).texts? = some texts := by
  show (texts.map quoted).mapM Node.text? = some texts
  induction texts with
  | nil => rfl
  | cons text texts ih => simp [text?_quoted, ih]

/-- An allow-list is read back, as its namespaces differ. -/
theorem allowList?_allowListNode
    (allowList : Table (List String)) :
    allowList? (allowListNode allowList) = some allowList := by
  have named :
      textEntries? (allowList.entries.map fun entry => (quoted entry.1, .list (entry.2.map quoted))) =
        some (allowList.entries.map fun entry => (entry.1, .list (entry.2.map quoted))) := by
    rw [textEntries?_eq_some_iff, List.forall₂_map_left_iff, List.forall₂_map_right_iff]
    exact List.forall₂_same.mpr fun entry _ => ⟨rfl, rfl⟩
  have read :
      (allowList.entries.map fun entry => (entry.1, Node.list (entry.2.map quoted))).mapM
          (fun entry => entry.2.texts?.map fun names => (entry.1, names)) =
        some allowList.entries := by
    induction allowList.entries with
    | nil => rfl
    | cons entry others ih => simp [texts?_map_quoted, ih]
  simp only [allowListNode, allowList?, named, Option.bind_eq_bind, Option.bind_some, read,
    Table.ofList_entries]
  rfl

/-! ## The fields of a configuration -/

/-- The fields that mean something. -/
def fieldNames : List String :=
  ["restrictScheme", "internetFacingIngresses", "albNamePrefix", "clusterName"]

/-- Each field of a configuration is what the entries of a map say of it, or has its default. -/
@[mk_iff]
structure IsDescribed
    (named : List (String × Node))
    (configuration : Configuration) :
    Prop where
  restrictScheme :
    fieldOr? named "restrictScheme" false Node.truth? = some configuration.restrictScheme
  internetFacingIngresses :
    fieldOr? named "internetFacingIngresses" ∅ allowList? = some configuration.internetFacingIngresses
  albNamePrefix :
    fieldOr? named "albNamePrefix" "k8s" Node.text? = some configuration.albNamePrefix
  clusterName :
    fieldOr? named "clusterName" none absentOrText? = some configuration.clusterName

/-- A map is read as a configuration just if its entries are fields that describe it. -/
theorem ofNode?_map_eq_some_iff :
    ofNode? (.map entries) = some configuration ↔
      ∃ named, textEntries? entries = some named ∧ IsDescribed named configuration := by
  simp only [ofNode?, Option.bind_eq_bind, Option.bind_eq_some_iff]
  constructor
  · rintro ⟨named, reads, _, scheme, _, allowList, _, namePrefix, _, cluster, ⟨⟩⟩
    exact ⟨named, reads, scheme, allowList, namePrefix, cluster⟩
  · rintro ⟨named, reads, described⟩
    exact ⟨named, reads, _, described.restrictScheme, _, described.internetFacingIngresses, _,
      described.albNamePrefix, _, described.clusterName, rfl⟩

/-- Only the fields that mean something count. -/
theorem IsDescribed.congr
    (described : IsDescribed named configuration)
    (same : ∀ name ∈ fieldNames, field? named name = field? renamed name) :
    IsDescribed renamed configuration := by
  simp only [fieldNames, List.forall_mem_cons] at same
  rcases same with ⟨scheme, allowList, namePrefix, cluster, _⟩
  constructor
  · rw [fieldOr?, ← scheme]
    exact described.restrictScheme
  · rw [fieldOr?, ← allowList]
    exact described.internetFacingIngresses
  · rw [fieldOr?, ← namePrefix]
    exact described.albNamePrefix
  · rw [fieldOr?, ← cluster]
    exact described.clusterName

/-- No field that means something is there twice. -/
theorem IsDescribed.field?_isSome
    (described : IsDescribed named configuration)
    (isField : name ∈ fieldNames) :
    (field? named name).isSome = true := by
  have isSome {Value : Type} {name : String} {default value : Value} {read : Node → Option Value}
      (reads : fieldOr? named name default read = some value) :
      (field? named name).isSome = true := by
    rw [fieldOr?] at reads
    cases found : field? named name with
    | none => simp [found] at reads
    | some _ => rfl
  simp only [fieldNames, List.mem_cons, List.not_mem_nil, or_false] at isField
  rcases isField with rfl | rfl | rfl | rfl
  · exact isSome described.restrictScheme
  · exact isSome described.internetFacingIngresses
  · exact isSome described.albNamePrefix
  · exact isSome described.clusterName

/-! ## What does not matter -/

/-- A field is looked up among all entries, so their order does not count. -/
theorem field?_perm
    (perm : named.Perm renamed)
    (name : String) :
    field? named name = field? renamed name := by
  have kept := perm.filter fun entry => entry.1 = name
  rw [field?, field?]
  generalize named.filter (fun entry => entry.1 = name) = first at kept ⊢
  generalize renamed.filter (fun entry => entry.1 = name) = second at kept ⊢
  match first, second with
  | [], second => rw [List.nil_perm.mp kept]
  | [entry], second => rw [List.singleton_perm.mp kept]
  | entry :: other :: more, [] => exact absurd kept.length_eq (by simp)
  | entry :: other :: more, [_] => exact absurd kept.length_eq (by simp)
  | entry :: other :: more, _ :: _ :: _ => rfl

theorem ofNode?_map_of_perm
    (perm : entries.Perm others)
    (reads : ofNode? (.map entries) = some configuration) :
    ofNode? (.map others) = some configuration := by
  rw [ofNode?_map_eq_some_iff] at reads ⊢
  rcases reads with ⟨named, reads, described⟩
  rcases exists_textEntries?_of_perm perm reads with ⟨renamed, reads, perm⟩
  exact ⟨renamed, reads, described.congr fun name _ => field?_perm perm name⟩

/-- The order of the entries of a map does not matter. -/
theorem ofNode?_perm
    (perm : entries.Perm others) :
    ofNode? (.map entries) = ofNode? (.map others) :=
  Option.ext fun _ => ⟨ofNode?_map_of_perm perm, ofNode?_map_of_perm perm.symm⟩

/-- An entry does not matter if it leaves the meaning of all fields as it is. -/
theorem ofNode?_cons_eq
    {entry : Node × Node}
    (isKey : entry.1.text? = some name)
    (same : ∀ named, textEntries? entries = some named → ∀ configuration,
      IsDescribed ((name, entry.2) :: named) configuration ↔ IsDescribed named configuration) :
    ofNode? (.map (entry :: entries)) = ofNode? (.map entries) := by
  refine Option.ext fun configuration => ?_
  rw [ofNode?_map_eq_some_iff, ofNode?_map_eq_some_iff, textEntries?_cons isKey]
  simp only [Option.map_eq_some_iff]
  constructor
  · rintro ⟨_, ⟨named, reads, rfl⟩, described⟩
    exact ⟨named, reads, (same named reads configuration).mp described⟩
  · rintro ⟨named, reads, described⟩
    exact ⟨_, ⟨named, reads, rfl⟩, (same named reads configuration).mpr described⟩

theorem field?_cons_of_ne
    {other : String}
    (differs : name ≠ other)
    (node : Node)
    (named : List (String × Node)) :
    field? ((name, node) :: named) other = field? named other := by
  simp [field?, differs]

/-- Fields that mean nothing are ignored, whatever they hold. -/
theorem ofNode?_cons_of_unknown
    {entry : Node × Node}
    (isKey : entry.1.text? = some name)
    (unknown : name ∉ fieldNames)
    (entries : List (Node × Node)) :
    ofNode? (.map (entry :: entries)) = ofNode? (.map entries) := by
  refine ofNode?_cons_eq isKey fun named _ configuration => ?_
  have same : ∀ known ∈ fieldNames, field? ((name, entry.2) :: named) known = field? named known :=
    fun known isField => field?_cons_of_ne (ne_of_mem_of_not_mem isField unknown).symm entry.2 named
  exact ⟨fun described => described.congr same,
    fun described => described.congr fun known isField => (same known isField).symm⟩

section Default

variable {Value : Type} {default : Value} {read : Node → Option Value} {node : Node}

theorem fieldOr?_cons_of_ne
    {other : String}
    (differs : name ≠ other) :
    fieldOr? ((name, node) :: named) other default read = fieldOr? named other default read := by
  rw [fieldOr?, fieldOr?, field?_cons_of_ne differs]

/-- A field that holds its default may be left out. -/
theorem fieldOr?_cons_of_missing
    (isMissing : ∀ field ∈ named, field.1 ≠ name)
    (isDefault : read node = some default) :
    fieldOr? ((name, node) :: named) name default read = fieldOr? named name default read := by
  have noOther : named.filter (fun entry => entry.1 = name) = [] :=
    List.filter_eq_nil_iff.mpr fun field isField => by simpa using isMissing field isField
  simp [fieldOr?, field?, noOther, isDefault]

end Default

/-- A field that is missing counts as it does in the default configuration. -/
theorem ofNode?_cons_of_default
    {entry : Node × Node}
    (isDefault : entry ∈ nodeEntries {})
    (isMissing : ∀ other ∈ entries, other.1.text? ≠ entry.1.text?) :
    ofNode? (.map (entry :: entries)) = ofNode? (.map entries) := by
  have missing {name : String} (isKey : entry.1.text? = some name) (named : List (String × Node))
      (reads : textEntries? entries = some named) : ∀ field ∈ named, field.1 ≠ name := by
    rintro field isField rfl
    rcases exists_entry reads isField with ⟨other, member, isEntry⟩
    exact isMissing other member (isEntry.key.trans isKey.symm)
  simp only [nodeEntries, List.mem_cons, List.not_mem_nil, or_false] at isDefault
  rcases isDefault with rfl | rfl | rfl | rfl
  all_goals
    refine ofNode?_cons_eq rfl fun named reads configuration => ?_
    have isMissing := missing rfl named reads
    rw [isDescribed_iff, isDescribed_iff]
  · simp [fieldOr?_cons_of_ne, fieldOr?_cons_of_missing isMissing (truth?_truthNode _)]
  · simp [fieldOr?_cons_of_ne, fieldOr?_cons_of_missing isMissing (allowList?_allowListNode _)]
  · simp [fieldOr?_cons_of_ne, fieldOr?_cons_of_missing isMissing (text?_quoted _)]
  · simp [fieldOr?_cons_of_ne, fieldOr?_cons_of_missing isMissing (absentOrText?_absentOrQuoted _)]

/-- A field that means something may not be there twice. -/
theorem ofNode?_eq_none_of_twice
    {first second : Node × Node}
    (isFirst : first.1.text? = some name)
    (isSecond : second.1.text? = some name)
    (isField : name ∈ fieldNames)
    (entries : List (Node × Node)) :
    ofNode? (.map (first :: second :: entries)) = none := by
  refine Option.eq_none_iff_forall_ne_some.mpr fun configuration reads => ?_
  rcases ofNode?_map_eq_some_iff.mp reads with ⟨_, reads, described⟩
  rw [textEntries?_cons isFirst, textEntries?_cons isSecond, Option.map_map] at reads
  rcases Option.map_eq_some_iff.mp reads with ⟨named, _, rfl⟩
  have found := described.field?_isSome isField
  simp [field?] at found

/-! ## Reading back -/

/-- A configuration is read from its node. -/
theorem ofNode?_toNode
    (configuration : Configuration) :
    ofNode? configuration.toNode = some configuration := by
  rw [toNode, ofNode?_map_eq_some_iff]
  exact ⟨_, rfl, truth?_truthNode _, allowList?_allowListNode _, text?_quoted _,
    absentOrText?_absentOrQuoted _⟩

theorem isWritable_truthNode
    (value : Bool) :
    (truthNode value).IsWritable := by
  cases value with
  | true => exact .plain ⟨by decide, by decide⟩
  | false => exact .plain ⟨by decide, by decide⟩

theorem isWritable_absentOrQuoted
    (text : Option String) :
    (absentOrQuoted text).IsWritable := by
  cases text with
  | none => exact .plain ⟨by decide, by decide⟩
  | some text => exact .quoted text

theorem isWritable_allowListNode
    (allowList : Table (List String)) :
    (allowListNode allowList).IsWritable := by
  refine .map (List.forall_mem_map.mpr ?_) (List.forall_mem_map.mpr ?_)
  · exact fun entry _ => .quoted entry.1
  · exact fun entry _ => .list (List.forall_mem_map.mpr fun name _ => .quoted name)

/-- The plain scalars of a configuration are the names of its fields and a few more words. -/
theorem isWritable_toNode
    (configuration : Configuration) :
    configuration.toNode.IsWritable := by
  refine .map ?_ ?_
  · simp only [nodeEntries, List.forall_mem_cons]
    refine ⟨.plain ?_, .plain ?_, .plain ?_, .plain ?_, fun _ member => nomatch member⟩
    all_goals exact ⟨by decide, by decide⟩
  · simp only [nodeEntries, List.forall_mem_cons]
    exact ⟨isWritable_truthNode _, isWritable_allowListNode _, .quoted _, isWritable_absentOrQuoted _,
      fun _ member => nomatch member⟩

/-- A configuration is read from its text, whatever its names are. -/
theorem ofText?_text
    (configuration : Configuration) :
    ofText? configuration.toNode.text = some configuration := by
  rw [ofText?, Yaml.read?_text configuration.isWritable_toNode]
  exact configuration.ofNode?_toNode

end IngressConvergence.Configuration
