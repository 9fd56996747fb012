import IngressConvergence.Yaml.Structure

/-!
# Nodes from their tokens

A node written between brackets has tokens of its own: those of its parts, with the mark of a key in
front of every key and a separator behind every part.  `Node.isReadBack` says that `node?` makes the
node of them again and leaves what follows, whatever the node is, and `Node.content?_tokens` that they
hold the node as the only document.

Nodes are nested in lists of nodes and of pairs, so statements about all of them are proved by
`Node.induction`, in which the parts of a node are its members.
-/

namespace IngressConvergence.Yaml

namespace Node

/-! ## Induction -/

/-- What holds of scalars, and of lists and maps as soon as it holds of their parts, holds of every node. -/
@[induction_eliminator]
theorem induction
    {motive : Node → Prop}
    (scalar : ∀ isPlain text, motive (.scalar isPlain text))
    (list : ∀ items, (∀ item ∈ items, motive item) → motive (.list items))
    (map : ∀ entries, (∀ entry ∈ entries, motive entry.1 ∧ motive entry.2) → motive (.map entries))
    (node : Node) :
    motive node := by
  apply @Node.rec motive (fun items => ∀ item ∈ items, motive item)
    (fun entries => ∀ entry ∈ entries, motive entry.1 ∧ motive entry.2)
    (fun entry => motive entry.1 ∧ motive entry.2) scalar list map
  · exact fun _ member => nomatch member
  · exact fun _ _ ofItem ofItems => List.forall_mem_cons.mpr ⟨ofItem, ofItems⟩
  · exact fun _ member => nomatch member
  · exact fun _ _ ofEntry ofEntries => List.forall_mem_cons.mpr ⟨ofEntry, ofEntries⟩
  · exact fun _ _ ofKey ofValue => ⟨ofKey, ofValue⟩

/-! ## Tokens -/

mutual

/-- The tokens of a node between brackets. -/
def tokens : Node → List Token
  | .scalar isPlain text => [.scalar isPlain text]
  | .list items => .listStart :: itemTokens items ++ [.listEnd]
  | .map entries => .mapStart :: entryTokens entries ++ [.mapEnd]

/-- The tokens of the items of a list, each with a separator behind it. -/
def itemTokens : List Node → List Token
  | [] => []
  | item :: items => item.tokens ++ .separator :: itemTokens items

/-- The tokens of the entries of a map, each with a separator behind it. -/
def entryTokens : List (Node × Node) → List Token
  | [] => []
  | (key, value) :: entries =>
    .key :: key.tokens ++ .value :: value.tokens ++ .separator :: entryTokens entries

end

/-! ## Reading back -/

/-- The tokens of a node are read as the node, wherever it stands and whatever follows. -/
def IsReadBack
    (node : Node) :
    Prop :=
  ∀ steps place rest, 4 * (node.tokens ++ rest).length + 2 ≤ steps →
    node? steps place (node.tokens ++ rest) = some ⟨node, rest⟩

/-- An item of a list is read as a node, since no node starts with the end of a list or the mark of a key. -/
theorem listItems?_node
    (item : Node)
    (steps : Nat)
    (read : List Node)
    (rest : List Token) :
    listItems? (steps + 1) read (item.tokens ++ rest) =
      match node? steps .brackets (item.tokens ++ rest) with
      | some item => nextListItem? steps (item.node :: read) item.rest
      | none => none := by
  cases item with
  | scalar isPlain text => rfl
  | list items => rfl
  | map entries => rfl

/-- Items that are read back one by one are read back as a list. -/
theorem listItems?_tokens
    {items : List Node}
    (readBack : ∀ item ∈ items, item.IsReadBack)
    (steps : Nat)
    (read : List Node)
    (rest : List Token)
    (enough : 4 * (itemTokens items ++ .listEnd :: rest).length + 3 ≤ steps) :
    listItems? steps read (itemTokens items ++ .listEnd :: rest) =
      some ⟨.list (read.reverse ++ items), rest⟩ := by
  induction items generalizing steps read with
  | nil =>
    cases steps with
    | zero => simp at enough
    | succ steps => rw [List.append_nil]; rfl
  | cons item items ih =>
    simp only [itemTokens, List.append_assoc, List.length_append, List.cons_append, List.length_cons]
      at enough ih ⊢
    obtain ⟨steps, rfl⟩ := Nat.exists_eq_add_of_le' (show 2 ≤ steps by omega)
    rw [listItems?_node, readBack item List.mem_cons_self]
    · show listItems? steps (item :: read) (itemTokens items ++ .listEnd :: rest) = _
      rw [ih (fun item member => readBack item (List.mem_cons_of_mem _ member)) steps _ (by omega),
        List.reverse_cons, List.append_assoc]
      rfl
    · simp only [List.length_append, List.length_cons]
      omega

/-- A key or a value is read as a node, since no node starts with what would make it blank. -/
theorem nodeOrBlank?_node
    {ends : List Token}
    (marks : ∀ token ∈ ends, token ∈ [.value, .separator, .mapEnd])
    (node : Node)
    (steps : Nat)
    (place : Place)
    (rest : List Token) :
    nodeOrBlank? (steps + 1) place ends (node.tokens ++ rest) =
      node? steps place (node.tokens ++ rest) := by
  have noMark : startsWithOneOf ends (node.tokens ++ rest) = false := by
    have notMark {token : Token} (other : token ∉ [.value, .separator, .mapEnd]) :
        ends.contains token = false := by
      simpa using mt (marks token) other
    cases node with
    | scalar isPlain text => exact notMark (by simp)
    | list items => exact notMark (by simp)
    | map entries => exact notMark (by simp)
  rw [nodeOrBlank?, noMark]
  rfl

/-- Entries whose keys and values are read back one by one are read back as a map. -/
theorem mapEntries?_tokens
    {entries : List (Node × Node)}
    (readBack : ∀ entry ∈ entries, entry.1.IsReadBack ∧ entry.2.IsReadBack)
    (steps : Nat)
    (read : List (Node × Node))
    (rest : List Token)
    (enough : 4 * (entryTokens entries ++ .mapEnd :: rest).length + 3 ≤ steps) :
    mapEntries? steps read (entryTokens entries ++ .mapEnd :: rest) =
      some ⟨.map (read.reverse ++ entries), rest⟩ := by
  induction entries generalizing steps read with
  | nil =>
    cases steps with
    | zero => simp at enough
    | succ steps => rw [List.append_nil]; rfl
  | cons entry entries ih =>
    rcases entry with ⟨key, value⟩
    have readBackEntry := readBack (key, value) List.mem_cons_self
    simp only [entryTokens, List.append_assoc, List.length_append, List.cons_append, List.length_cons]
      at enough ih ⊢
    obtain ⟨steps, rfl⟩ := Nat.exists_eq_add_of_le' (show 4 ≤ steps by omega)
    rw [mapEntries?, nodeOrBlank?_node (by decide), readBackEntry.1]
    · dsimp only
      rw [valueOrBlank?, nodeOrBlank?_node (by decide), readBackEntry.2]
      · show mapEntries? (steps + 2) ((key, value) :: read) (entryTokens entries ++ .mapEnd :: rest) = _
        rw [ih (fun entry member => readBack entry (List.mem_cons_of_mem _ member)) _ _ (by omega),
          List.reverse_cons, List.append_assoc]
        rfl
      · simp only [List.length_append, List.length_cons]
        omega
    · simp only [List.length_append, List.length_cons]
      omega

/-- Every node is read back from its tokens. -/
theorem isReadBack
    (node : Node) :
    node.IsReadBack := by
  induction node with
  | scalar isPlain text =>
    intro steps place rest enough
    cases steps with
    | zero => omega
    | succ steps => rfl
  | list items ih =>
    intro steps place rest enough
    simp only [tokens, List.append_assoc, List.cons_append, List.nil_append, List.length_cons] at enough ⊢
    obtain ⟨steps, rfl⟩ := Nat.exists_eq_add_of_le' (show 1 ≤ steps by omega)
    exact listItems?_tokens ih steps [] rest (by omega)
  | map entries ih =>
    intro steps place rest enough
    simp only [tokens, List.append_assoc, List.cons_append, List.nil_append, List.length_cons] at enough ⊢
    obtain ⟨steps, rfl⟩ := Nat.exists_eq_add_of_le' (show 1 ≤ steps by omega)
    exact mapEntries?_tokens ih steps [] rest (by omega)

/-- The tokens of a node hold the node as the only document. -/
theorem content?_tokens
    (node : Node) :
    content? node.tokens = some (.document node) := by
  have reads := node.isReadBack (8 * node.tokens.length + 8) .block []
    (by simp only [List.append_nil]; omega)
  rw [List.append_nil] at reads
  have isDocument (steps : Nat) : documentNode? steps node.tokens = node? steps .block node.tokens := by
    cases node with
    | scalar isPlain text => rfl
    | list items => rfl
    | map entries => rfl
  have isSomething : node.tokens.isEmpty = false := by
    cases node with
    | scalar isPlain text => rfl
    | list items => rfl
    | map entries => rfl
  rw [content?, isSomething, isDocument, reads]
  rfl

end Node

end IngressConvergence.Yaml
