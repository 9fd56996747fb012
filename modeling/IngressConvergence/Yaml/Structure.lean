import IngressConvergence.Yaml.Layout
import IngressConvergence.Yaml.Node

/-!
# The structure of YAML documents

The tokens of a text make up nodes.  Maps and lists are written as blocks or between brackets, and a
node that is left out counts as the blank one.  Reading goes down the structure; every step but a
bounded number between two of them passes a token, so a number of steps that exceeds the number of
tokens several times over always suffices.
-/

namespace IngressConvergence.Yaml

/-- A node as it is read, with the tokens behind it. -/
structure Reading where
  node : Node
  rest : List Token

/-- Where a node stands, which tells how it may be written. -/
inductive Place where
  /-- Between brackets, where no block starts. -/
  | brackets
  /-- In the place of a document or of an item of a list in a block. -/
  | block
  /-- In an entry of a map in a block, where the items of a list need not be indented. -/
  | entry
deriving DecidableEq, Repr

/-- The tokens before which an item of a list in a block is blank. -/
def itemEnds : List Token := [.item, .blockEnd]

/-- The tokens before which an item is blank if the items are not indented. -/
def looseItemEnds : List Token := [.item, .key, .value, .blockEnd]

/-- The tokens before which a key or a value in a block is blank. -/
def entryEnds : List Token := [.key, .value, .blockEnd]

/-- The tokens before which a value in a list between brackets is blank. -/
def listEntryEnds : List Token := [.separator, .listEnd]

/-- The tokens before which a value in a map between brackets is blank. -/
def mapEntryEnds : List Token := [.separator, .mapEnd]

/-- Whether the first token is one of some tokens. -/
def startsWithOneOf (ends : List Token) (tokens : List Token) : Bool :=
  tokens.head?.any ends.contains

mutual

/-- Read a node; its first token tells how it is written. -/
def node? : (steps : Nat) → Place → List Token → Option Reading
  | 0, _, _ => none
  | _ + 1, _, .scalar isPlain text :: rest => some ⟨.scalar isPlain text, rest⟩
  | steps + 1, _, .listStart :: rest => listItems? steps [] rest
  | steps + 1, _, .mapStart :: rest => mapEntries? steps [] rest
  | steps + 1, place, .blockList :: rest =>
    if place = .brackets then none else blockItems? steps [] rest
  | steps + 1, place, .blockMap :: rest =>
    if place = .brackets then none else blockEntries? steps [] rest
  | steps + 1, place, .item :: rest =>
    if place = .entry then looseItems? steps [] (.item :: rest) else none
  | _ + 1, _, _ => none

/-- Read a node that may be missing, in front of certain tokens. -/
def nodeOrBlank? : (steps : Nat) → Place → (ends : List Token) → List Token → Option Reading
  | 0, _, _, _ => none
  | steps + 1, place, ends, tokens =>
    if startsWithOneOf ends tokens then some ⟨.blank, tokens⟩ else node? steps place tokens

/-- Read the value of a key, which may be missing together with its colon. -/
def valueOrBlank? : (steps : Nat) → Place → (ends : List Token) → List Token → Option Reading
  | 0, _, _, _ => none
  | steps + 1, place, ends, .value :: rest => nodeOrBlank? steps place ends rest
  | _ + 1, _, _, tokens => some ⟨.blank, tokens⟩

/-- Read the items of a list in a block; `read` are those read so far, the last one first. -/
def blockItems? : (steps : Nat) → (read : List Node) → List Token → Option Reading
  | steps + 1, read, .item :: rest =>
    match nodeOrBlank? steps .block itemEnds rest with
    | some item => blockItems? steps (item.node :: read) item.rest
    | none => none
  | _ + 1, read, .blockEnd :: rest => some ⟨.list read.reverse, rest⟩
  | _, _, _ => none

/-- Read the items of a list that are not indented, up to anything else. -/
def looseItems? : (steps : Nat) → (read : List Node) → List Token → Option Reading
  | 0, _, _ => none
  | steps + 1, read, .item :: rest =>
    match nodeOrBlank? steps .block looseItemEnds rest with
    | some item => looseItems? steps (item.node :: read) item.rest
    | none => none
  | _ + 1, read, tokens => some ⟨.list read.reverse, tokens⟩

/-- Read the entries of a map in a block; `read` are those read so far, the last one first. -/
def blockEntries? : (steps : Nat) → (read : List (Node × Node)) → List Token → Option Reading
  | steps + 1, read, .key :: rest =>
    match nodeOrBlank? steps .entry entryEnds rest with
    | some key =>
      match valueOrBlank? steps .entry entryEnds key.rest with
      | some value => blockEntries? steps ((key.node, value.node) :: read) value.rest
      | none => none
    | none => none
  | _ + 1, read, .blockEnd :: rest => some ⟨.map read.reverse, rest⟩
  | _, _, _ => none

/-- Read the items of a list between brackets.  An item with a key is a map of one entry; the token
behind the mark of a blank key is passed. -/
def listItems? : (steps : Nat) → (read : List Node) → List Token → Option Reading
  | 0, _, _ => none
  | _ + 1, read, .listEnd :: rest => some ⟨.list read.reverse, rest⟩
  | steps + 1, read, .key :: rest =>
    let key? :=
      if startsWithOneOf (.value :: listEntryEnds) rest then some ⟨.blank, rest.tail⟩
      else node? steps .brackets rest
    match key? with
    | some key =>
      match valueOrBlank? steps .brackets listEntryEnds key.rest with
      | some value => nextListItem? steps (.map [(key.node, value.node)] :: read) value.rest
      | none => none
    | none => none
  | steps + 1, read, tokens =>
    match node? steps .brackets tokens with
    | some item => nextListItem? steps (item.node :: read) item.rest
    | none => none

/-- Go on behind an item of a list between brackets. -/
def nextListItem? : (steps : Nat) → (read : List Node) → List Token → Option Reading
  | _ + 1, read, .listEnd :: rest => some ⟨.list read.reverse, rest⟩
  | steps + 1, read, .separator :: rest => listItems? steps read rest
  | _, _, _ => none

/-- Read the entries of a map between brackets. -/
def mapEntries? : (steps : Nat) → (read : List (Node × Node)) → List Token → Option Reading
  | 0, _, _ => none
  | _ + 1, read, .mapEnd :: rest => some ⟨.map read.reverse, rest⟩
  | steps + 1, read, .key :: rest =>
    match nodeOrBlank? steps .brackets (.value :: mapEntryEnds) rest with
    | some key =>
      match valueOrBlank? steps .brackets mapEntryEnds key.rest with
      | some value => nextMapEntry? steps ((key.node, value.node) :: read) value.rest
      | none => none
    | none => none
  | steps + 1, read, tokens =>
    match node? steps .brackets tokens with
    | some key => nextMapEntry? steps ((key.node, .blank) :: read) key.rest
    | none => none

/-- Go on behind an entry of a map between brackets. -/
def nextMapEntry? : (steps : Nat) → (read : List (Node × Node)) → List Token → Option Reading
  | _ + 1, read, .mapEnd :: rest => some ⟨.map read.reverse, rest⟩
  | steps + 1, read, .separator :: rest => mapEntries? steps read rest
  | _, _, _ => none

end

/-! ## Documents -/

/-- What a text holds. -/
inductive Content where
  | void
  | document (node : Node)

/-- Read the node of the first document.  Behind the mark of a document nothing need follow. -/
def documentNode? (steps : Nat) (tokens : List Token) : Option Reading :=
  match tokens with
  | .documentStart :: rest =>
    if rest.isEmpty || startsWithOneOf [.documentStart, .documentEnd] rest then some ⟨.blank, rest⟩
    else node? steps .block rest
  | tokens => node? steps .block tokens

/-- What the tokens of a text hold.  Behind the node of a document there may be nothing but marks of
its end. -/
def content? (tokens : List Token) : Option Content :=
  if tokens.isEmpty then some .void
  else
    match documentNode? (8 * tokens.length + 8) tokens with
    | some reading =>
      if reading.rest.all (· = .documentEnd) then some (.document reading.node) else none
    | none => none

/-- Read a text that holds at most one document. -/
def read? (text : String) : Option Content :=
  (tokens? text).bind content?

end IngressConvergence.Yaml
