import IngressConvergence.Proofs.Yaml.Outline
import IngressConvergence.Proofs.Yaml.Rounds
import IngressConvergence.Proofs.Yaml.Tokens
import IngressConvergence.Proofs.Yaml.Words

/-!
# Nodes from their texts

A node is written on one line: lists and maps between brackets, keys behind their mark, texts between
quotation marks, and plain scalars as they are, if they are words.  The mark of a key frees keys from
the limit on how far behind the colon may be.

`read?_text` says that such a node is read back from its text.  `Node.isScanned` gives its tokens, by
induction on the node and for any outline around, and `Node.content?_tokens` makes the node of them.
That the rounds of reading last to the end of the text follows from `Layout.tokens?_of_le` and need
not be counted.
-/

namespace IngressConvergence.Yaml

/-! ## Writing -/

/-- A node whose plain scalars are words. -/
inductive Node.IsWritable : Node → Prop where
  | quoted (text : String) : IsWritable (.scalar false text)
  | plain {text : String} (isWord : IsWord text) : IsWritable (.scalar true text)
  | list {items : List Node} (writable : ∀ item ∈ items, item.IsWritable) : IsWritable (.list items)
  | map {entries : List (Node × Node)} (keys : ∀ entry ∈ entries, entry.1.IsWritable)
      (values : ∀ entry ∈ entries, entry.2.IsWritable) : IsWritable (.map entries)

namespace Node

mutual

/-- The characters of a node on one line, with lists and maps between brackets. -/
def characters : Node → List Char
  | .scalar true text => text.toList
  | .scalar false text => quoted text
  | .list items => '[' :: itemCharacters items ++ [']']
  | .map entries => '{' :: entryCharacters entries ++ ['}']

/-- The characters of the items of a list, each with a comma and a blank behind it. -/
def itemCharacters : List Node → List Char
  | [] => []
  | item :: items => item.characters ++ ',' :: ' ' :: itemCharacters items

/-- The characters of the entries of a map, each with a comma and a blank behind it. -/
def entryCharacters : List (Node × Node) → List Char
  | [] => []
  | (key, value) :: entries =>
    '?' :: ' ' :: key.characters ++ ':' :: ' ' :: value.characters ++ ',' :: ' ' :: entryCharacters entries

end

/-- A node as a text. -/
def text (node : Node) : String :=
  String.ofList node.characters

end Node

/-! ## Scalars -/

theorem startsToken_of_isAlphanum
    {character : Char}
    (isAlphanum : character.isAlphanum = true) :
    startsToken character = true := by
  simp [startsToken, isBreak_of_isAlphanum isAlphanum, isSpace_of_isAlphanum isAlphanum,
    ne_of_isAlphanum isAlphanum]

/-- The characters with which the tokens start that are written as marks. -/
def markStarts : List Char :=
  ['-', '.', '?', ':', ',', '[', ']', '{', '}']

namespace Reads

/-- A scalar is a token if no mark starts with its first character. -/
theorem scalar
    {outline : Outline}
    {character : Char}
    {characters rest : List Char}
    {isPlain : Bool}
    {text : String}
    (starts : startsToken character = true)
    (noMark : character ∉ markStarts)
    (reads : ∀ least position, ∃ behind : Position,
      scalar? (!outline.outer.isEmpty) least ⟨character :: characters, position⟩ =
        some ⟨⟨text, ⟨rest, behind⟩, false⟩, isPlain⟩) :
    Reads outline (character :: characters) (outline.behind [.scalar isPlain text]) rest := by
  refine token starts fun layout position fits => ?_
  rcases fits.exists_noteKey? position with ⟨noted, notes, fitsNoted⟩
  rcases reads noted.least position with ⟨behind, reads⟩
  refine ⟨noted.push (.scalar isPlain text) false, behind, ?_, ?_⟩
  · have isScalar :
        layout.token? ⟨character :: characters, position⟩ =
          layout.scalar? ⟨character :: characters, position⟩ := by
      simp only [markStarts, List.mem_cons, List.not_mem_nil, or_false, not_or] at noMark
      have noDash : '-' ≠ character := Ne.symm noMark.1
      have noDot : '.' ≠ character := Ne.symm noMark.2.1
      simp [Layout.token?, Cursor.atDocumentStart, Cursor.atDocumentEnd, Cursor.atMark, noMark, noDash, noDot]
    rw [isScalar, Layout.scalar?, notes]
    dsimp only [Option.bind_eq_bind, Option.bind_some]
    rw [fitsNoted.inBrackets]
    dsimp only [Outline.noted]
    rw [reads]
    rfl
  · exact ⟨congrArg (Token.scalar isPlain text :: ·) fitsNoted.tokens, fitsNoted.columns, fitsNoted.outer,
      fitsNoted.key, rfl⟩

theorem quotedText
    (text : String)
    (outline : Outline)
    (rest : List Char) :
    Reads outline (quoted text ++ rest) (outline.behind [.scalar false text]) rest :=
  scalar (by decide) (by decide) fun least position => scalar?_quoted text _ least rest position

theorem plainWord
    {text : String}
    (isWord : IsWord text)
    {outline : Outline}
    {rest : List Char}
    (ends : EndsNode (!outline.outer.isEmpty) rest) :
    Reads outline (text.toList ++ rest) (outline.behind [.scalar true text]) rest := by
  have reads := fun least position => scalar?_word isWord ends least position
  cases characters : text.toList with
  | nil => exact absurd (String.toList_eq_nil_iff.mp characters) isWord.1
  | cons character others =>
    have isAlphanum : character.isAlphanum = true :=
      List.all_eq_true.mp isWord.2 character (by rw [characters]; exact List.mem_cons_self)
    rw [characters] at reads
    refine scalar (startsToken_of_isAlphanum isAlphanum) ?_ reads
    simp [markStarts, ne_of_isAlphanum isAlphanum]

end Reads

/-! ## Nodes -/

namespace Node

/-- Wherever a node stands, its characters are read as its tokens. -/
def IsScanned
    (node : Node) :
    Prop :=
  ∀ (outline : Outline) (rest : List Char), EndsNode (!outline.outer.isEmpty) rest →
    Reads outline (node.characters ++ rest) (outline.behind node.tokens) rest

variable {outer : List Bool}

/-- The items of a list are read one after the other, each with what is behind it. -/
theorem reads_itemCharacters
    {items : List Node}
    (isScanned : ∀ item ∈ items, item.IsScanned)
    (inBrackets : outer ≠ [])
    (tokens : List Token)
    (rest : List Char) :
    Reads ⟨tokens, outer, false, true⟩ (itemCharacters items ++ rest)
      ⟨(itemTokens items).reverse ++ tokens, outer, false, true⟩ rest := by
  induction items generalizing tokens with
  | nil => exact .refl _ rest
  | cons item items ih =>
    have isInside : (!outer.isEmpty) = true := by
      simpa using inBrackets
    have readsItem :=
      isScanned item List.mem_cons_self ⟨tokens, outer, false, true⟩ _
        (.separator isInside (' ' :: (itemCharacters items ++ rest)))
    have readsOthers :=
      ih (fun item member => isScanned item (List.mem_cons_of_mem _ member))
        (.separator :: (item.tokens.reverse ++ tokens))
    have reads := readsItem.trans <| (Reads.separator _ _).trans <| (Reads.blank _ _).trans readsOthers
    simpa [itemCharacters, itemTokens] using reads

/-- The entries of a map are read one after the other, the key of each by its mark. -/
theorem reads_entryCharacters
    {entries : List (Node × Node)}
    (isScanned : ∀ entry ∈ entries, entry.1.IsScanned ∧ entry.2.IsScanned)
    (inBrackets : outer ≠ [])
    (tokens : List Token)
    (rest : List Char) :
    Reads ⟨tokens, outer, false, true⟩ (entryCharacters entries ++ rest)
      ⟨(entryTokens entries).reverse ++ tokens, outer, false, true⟩ rest := by
  induction entries generalizing tokens with
  | nil => exact .refl _ rest
  | cons entry entries ih =>
    rcases entry with ⟨key, value⟩
    have isInside : (!outer.isEmpty) = true := by
      simpa using inBrackets
    have isScannedEntry := isScanned (key, value) List.mem_cons_self
    have readsKey :=
      isScannedEntry.1 ⟨.key :: tokens, outer, false, false⟩ _
        (.value (value.characters ++ ',' :: ' ' :: (entryCharacters entries ++ rest)))
    have readsValue :=
      isScannedEntry.2 ⟨.value :: (key.tokens.reverse ++ .key :: tokens), outer, false, false⟩ _
        (.separator isInside (' ' :: (entryCharacters entries ++ rest)))
    have readsOthers :=
      ih (fun entry member => isScanned entry (List.mem_cons_of_mem _ member))
        (.separator :: (value.tokens.reverse ++ .value :: (key.tokens.reverse ++ .key :: tokens)))
    -- No key may start behind the mark of a key, so that the colon meets no other possible key.
    have reads :=
      (Reads.keyMark ⟨tokens, outer, false, true⟩ inBrackets _).trans <| (Reads.blank _ _).trans <|
        readsKey.trans <| (Reads.valueMark _ inBrackets rfl _).trans <| (Reads.blank _ _).trans <|
        readsValue.trans <| (Reads.separator _ _).trans <| (Reads.blank _ _).trans readsOthers
    simpa [entryCharacters, entryTokens] using reads

/-- A node whose plain scalars are words is read wherever it stands. -/
theorem isScanned
    {node : Node}
    (writable : node.IsWritable) :
    node.IsScanned := by
  induction writable with
  | quoted text => exact fun outline rest _ => .quotedText text outline rest
  | plain isWord => exact fun outline rest ends => .plainWord isWord ends
  | list _ ih =>
    intro outline rest _
    have reads :=
      (Reads.opening (.inl ⟨rfl, rfl⟩) outline _).trans <|
        (reads_itemCharacters ih (List.cons_ne_nil _ _) (.listStart :: outline.tokens) _).trans <|
        Reads.closing (.inl ⟨rfl, rfl⟩) _ rfl rest
    simpa [characters, tokens, Outline.closed, Outline.behind, Outline.noted] using reads
  | map _ _ keys values =>
    intro outline rest _
    have reads :=
      (Reads.opening (.inr ⟨rfl, rfl⟩) outline _).trans <|
        (reads_entryCharacters (fun entry member => ⟨keys entry member, values entry member⟩)
          (List.cons_ne_nil _ _) (.mapStart :: outline.tokens) _).trans <|
        Reads.closing (.inr ⟨rfl, rfl⟩) _ rfl rest
    simpa [characters, tokens, Outline.closed, Outline.behind, Outline.noted] using reads

/-! ## Texts -/

theorem isStable_itemCharacters
    {items : List Node}
    (stable : ∀ item ∈ items, ∀ character ∈ item.characters, isStable character = true) :
    ∀ character ∈ itemCharacters items, isStable character = true := by
  induction items with
  | nil => exact fun _ member => nomatch member
  | cons item items ih =>
    rw [List.forall_mem_cons] at stable
    simp only [itemCharacters, List.forall_mem_append, List.forall_mem_cons]
    exact ⟨stable.1, rfl, rfl, ih stable.2⟩

theorem isStable_entryCharacters
    {entries : List (Node × Node)}
    (stableKeys : ∀ entry ∈ entries, ∀ character ∈ entry.1.characters, isStable character = true)
    (stableValues : ∀ entry ∈ entries, ∀ character ∈ entry.2.characters, isStable character = true) :
    ∀ character ∈ entryCharacters entries, isStable character = true := by
  induction entries with
  | nil => exact fun _ member => nomatch member
  | cons entry entries ih =>
    rw [List.forall_mem_cons] at stableKeys stableValues
    simp only [entryCharacters, List.forall_mem_append, List.forall_mem_cons]
    exact ⟨⟨⟨rfl, rfl, stableKeys.1⟩, rfl, rfl, stableValues.1⟩, rfl, rfl,
      ih stableKeys.2 stableValues.2⟩

theorem isStable_characters
    {node : Node}
    (writable : node.IsWritable) :
    ∀ character ∈ node.characters, isStable character = true := by
  induction writable with
  | quoted text => exact isStable_quoted text
  | plain isWord =>
    intro character member
    exact isStable_of_isAlphanum (List.all_eq_true.mp isWord.2 character member)
  | list _ ih =>
    rw [characters, List.forall_mem_append, List.forall_mem_cons, List.forall_mem_singleton]
    exact ⟨⟨rfl, isStable_itemCharacters ih⟩, rfl⟩
  | map _ _ ihKeys ihValues =>
    rw [characters, List.forall_mem_append, List.forall_mem_cons, List.forall_mem_singleton]
    exact ⟨⟨rfl, isStable_entryCharacters ihKeys ihValues⟩, rfl⟩

end Node

/-- The text of a node is read as its tokens. -/
theorem tokens?_text
    {node : Node}
    (writable : node.IsWritable) :
    tokens? node.text = some node.tokens := by
  have stable := Node.isStable_characters writable
  have allowed : node.characters.all isAllowed = true := by
    rw [List.all_eq_true]
    intro character member
    have isStable := stable character member
    simp only [Yaml.isStable, Bool.and_eq_true] at isStable
    exact isStable.1.1
  rcases Node.isScanned writable _ [] .nothing Layout.start .start Layout.fits_start
    with ⟨count, next, behind, fits, reads⟩
  rw [List.append_nil] at reads
  have enough :
      Layout.start.tokens? (node.characters.length + 1 + count) ⟨node.characters, .start⟩ =
        Layout.start.tokens? (node.characters.length + 1) ⟨node.characters, .start⟩ :=
    Layout.tokens?_of_le (Nat.lt_succ_self _) (Nat.le_add_right _ count)
  rw [tokens?, Node.text, String.toList_ofList, if_pos allowed, normalized_eq_self stable, Cursor.start,
    ← enough, reads, fits.tokens?_nil]
  simp [Outline.behind]

example :
    tokens? "[\"a: b\", c, ]" =
      some [.listStart, .scalar false "a: b", .separator, .scalar true "c", .separator, .listEnd] := by
  decide

/-- A node is read from its text, if its plain scalars are words. -/
theorem read?_text
    {node : Node}
    (writable : node.IsWritable) :
    read? node.text = some (.document node) := by
  rw [read?, tokens?_text writable, Option.bind_some, Node.content?_tokens]

end IngressConvergence.Yaml
