import IngressConvergence.Yaml.Scalar
import IngressConvergence.Yaml.Token

/-!
# From YAML texts to tokens

Reading goes through a text once.  On the way it keeps the columns at which the blocks around stand,
and the brackets around.  Blocks end where something stands to the left of their column.

A scalar, a list or a map between brackets is the key of an entry if a colon follows on the same
line and not too far behind.  So each of them is kept as a possible key; once the colon is there,
the tokens that announce the key go in front of the tokens read since.
-/

namespace IngressConvergence.Yaml

/-! ## Possible keys -/

/-- What may turn out to be a key: the number of tokens in front of it, and its position.  It is
required to be one if nothing else can stand there. -/
structure PossibleKey where
  place : Nat
  position : Position
  isRequired : Bool
deriving DecidableEq, Repr

/-- The number of bytes by which a colon may be behind the start of its key. -/
def longestKey : Nat := 1024

/-- Whether a colon at a position comes too late for a key. -/
def PossibleKey.isPast (key : PossibleKey) (position : Position) : Bool :=
  key.position.line < position.line || key.position.offset + longestKey < position.offset

/-! ## The state of reading -/

/-- What is known of a text up to a position. -/
structure Layout where
  /-- The tokens read, the last one first. -/
  tokens : List Token
  /-- The columns of the blocks around, the innermost first. -/
  columns : List Nat
  /-- The possible keys in front of the brackets around, the innermost first; one for each pair of
  brackets. -/
  outer : List (Option PossibleKey)
  /-- The possible key inside the innermost brackets. -/
  key : Option PossibleKey
  /-- Whether a key may start here: in a block it may at the start of a line and behind the mark of
  an item, but not behind a value on the same line. -/
  keyAllowed : Bool
deriving DecidableEq, Repr

namespace Layout

/-- Nothing is read yet, and a key may start. -/
def start : Layout := ⟨[], [], [], none, true⟩

/-- Whether there are brackets around. -/
def inBrackets (layout : Layout) : Bool := !layout.outer.isEmpty

/-- The first column that belongs to the innermost block. -/
def least (layout : Layout) : Nat :=
  match layout.columns with
  | [] => 0
  | column :: _ => column + 1

/-- Read a token, and tell whether a key may follow. -/
def push (layout : Layout) (token : Token) (keyAllowed : Bool) : Layout :=
  { layout with tokens := token :: layout.tokens, keyAllowed }

/-- End the blocks whose column is to the right of a column.  Inside brackets columns do not
matter. -/
def endBlocks (layout : Layout) (column : Nat) : Layout :=
  if layout.inBrackets then layout
  else
    let ended := layout.columns.takeWhile (column < ·)
    { layout with
      tokens := List.replicate ended.length .blockEnd ++ layout.tokens
      columns := layout.columns.drop ended.length }

/-- End all blocks, whatever their columns. -/
def endAllBlocks (layout : Layout) : Layout :=
  if layout.inBrackets then layout
  else
    { layout with
      tokens := List.replicate layout.columns.length .blockEnd ++ layout.tokens
      columns := [] }

/-- Start a block at a column that is to the right of the blocks around. -/
def startBlock (layout : Layout) (token : Token) (column : Nat) : Layout :=
  if !layout.inBrackets && layout.least ≤ column then
    { layout with tokens := token :: layout.tokens, columns := column :: layout.columns }
  else layout

/-- Give up the possible key inside the innermost brackets, unless it is required. -/
def dropKey? (layout : Layout) : Option Layout :=
  if layout.key.any (·.isRequired) then none else some { layout with key := none }

/-- Give up the possible keys that a colon would come too late for. -/
def dropPastKeys? (layout : Layout) (position : Position) : Option Layout :=
  if (layout.key :: layout.outer).any (·.any fun key => key.isRequired && key.isPast position) then
    none
  else
    let current (key : Option PossibleKey) := key.filter fun key => !key.isPast position
    some { layout with key := current layout.key, outer := layout.outer.map current }

/-- Note that what starts here may be a key. -/
def noteKey? (layout : Layout) (position : Position) : Option Layout :=
  if layout.keyAllowed then do
    let layout ← layout.dropKey?
    let isRequired := !layout.inBrackets && layout.columns.head? = some position.column
    return { layout with key := some ⟨layout.tokens.length, position, isRequired⟩ }
  else some layout

/-! ## Marks -/

/-- Read the mark of a document, at which all blocks have ended. -/
def documentMark? (layout : Layout) (token : Token) : Option Layout := do
  let layout ← layout.endAllBlocks.dropKey?
  return layout.push token false

/-- Read an opening bracket.  What it opens may be a key, about which the closing bracket
decides. -/
def openBracket? (layout : Layout) (token : Token) (position : Position) : Option Layout := do
  let layout ← layout.noteKey? position
  return { layout.push token true with outer := layout.key :: layout.outer, key := none }

/-- Read a closing bracket, and go back to the possible key in front of the pair. -/
def closeBracket? (layout : Layout) (token : Token) : Option Layout := do
  let layout ← layout.dropKey?
  let layout := layout.push token false
  match layout.outer with
  | [] => return layout
  | key :: outer => return { layout with key, outer }

/-- Read a separator, behind which a key may start. -/
def separator? (layout : Layout) : Option Layout := do
  let layout ← layout.dropKey?
  return layout.push .separator true

/-- Start a block, where a line of one may start; inside brackets there is nothing to start. -/
def startLine? (layout : Layout) (token : Token) (position : Position) : Option Layout :=
  if layout.inBrackets then some layout
  else if layout.keyAllowed then some (layout.startBlock token position.column)
  else none

/-- Read the mark of an item, which may be the first one of a block. -/
def item? (layout : Layout) (position : Position) : Option Layout := do
  let layout ← layout.startLine? .blockList position
  let layout ← layout.dropKey?
  return layout.push .item true

/-- Read the mark of a key, which may be the first one of a block. -/
def keyMark? (layout : Layout) (position : Position) : Option Layout := do
  let layout ← layout.startLine? .blockMap position
  let layout ← layout.dropKey?
  return layout.push .key (!layout.inBrackets)

/-- Read the colon in front of a value.  It makes the possible key a key, and this key may be the
first one of a block. -/
def value? (layout : Layout) (position : Position) : Option Layout :=
  match layout.key with
  | some key =>
    let count := layout.tokens.length - key.place
    let front : Layout := { layout with tokens := layout.tokens.drop count, key := none }
    let announced := (front.startBlock .blockMap key.position.column).push .key false
    some <|
      { announced with tokens := layout.tokens.take count ++ announced.tokens }.push .value false
  | none => do
    let layout ← layout.startLine? .blockMap position
    return layout.push .value (!layout.inBrackets)

/-- Read a scalar, which may be a key. -/
def scalar? (layout : Layout) (cursor : Cursor) : Option (Layout × Cursor) := do
  let layout ← layout.noteKey? cursor.position
  let scanned ← Yaml.scalar? layout.inBrackets layout.least cursor
  return (layout.push (.scalar scanned.isPlain scanned.text) scanned.endsLine, scanned.after)

/-! ## Texts -/

/-- Go over spaces, comments and ends of lines, and tell whether a key may start behind them.  Tabs
count as spaces inside brackets and behind a value, but not where a key may start.  A byte order mark
at the start of a line is passed like a space, and takes up a column. -/
def gapFrom (inBrackets : Bool) :
    List Char → Position → (keyAllowed inComment : Bool) → Cursor × Bool
  | [], position, keyAllowed, _ => (⟨[], position⟩, keyAllowed)
  | character :: rest, position, keyAllowed, inComment =>
    let next := position.behind character
    if isBreak character then gapFrom inBrackets rest next (keyAllowed || !inBrackets) false
    else if inComment || character = '#' then gapFrom inBrackets rest next keyAllowed true
    else if character = ' ' || (character = '\t' && (inBrackets || !keyAllowed)) ||
        (character = '\uFEFF' && position.column = 0) then
      gapFrom inBrackets rest next keyAllowed false
    else (⟨character :: rest, position⟩, keyAllowed)

/-- Go on to where the next token starts. -/
def gap (layout : Layout) (cursor : Cursor) : Layout × Cursor :=
  let (next, keyAllowed) :=
    gapFrom layout.inBrackets cursor.rest cursor.position layout.keyAllowed false
  ({ layout with keyAllowed }, next)

/-- Read the token that stands at a position. -/
def token? (layout : Layout) (cursor : Cursor) : Option (Layout × Cursor) :=
  let position := cursor.position
  let behindMark (layout : Layout) : Layout × Cursor := (layout, cursor.skip 1)
  if cursor.atDocumentStart then (layout.documentMark? .documentStart).map (·, cursor.skip 3)
  else if cursor.atDocumentEnd then (layout.documentMark? .documentEnd).map (·, cursor.skip 3)
  else
    match cursor.rest with
    | [] => none
    | character :: rest =>
      let standsAlone := startsBlank rest
      if character = '[' then (layout.openBracket? .listStart position).map behindMark
      else if character = '{' then (layout.openBracket? .mapStart position).map behindMark
      else if character = ']' then (layout.closeBracket? .listEnd).map behindMark
      else if character = '}' then (layout.closeBracket? .mapEnd).map behindMark
      else if character = ',' then layout.separator?.map behindMark
      else if character = '-' && standsAlone then (layout.item? position).map behindMark
      else if character = '?' && (layout.inBrackets || standsAlone) then
        (layout.keyMark? position).map behindMark
      else if character = ':' && (layout.inBrackets || standsAlone) then
        (layout.value? position).map behindMark
      else layout.scalar? cursor

/-- Read the tokens of a text, each round one of them, so that there are fewer rounds than
characters. -/
def tokens? : (rounds : Nat) → Layout → Cursor → Option (List Token)
  | 0, _, _ => none
  | rounds + 1, layout, cursor =>
    let (layout, cursor) := layout.gap cursor
    match layout.dropPastKeys? cursor.position with
    | none => none
    | some layout =>
      if cursor.rest.isEmpty then
        layout.endAllBlocks.dropKey?.map fun layout => layout.tokens.reverse
      else
        match (layout.endBlocks cursor.position.column).token? cursor with
        | none => none
        | some (layout, cursor) => tokens? rounds layout cursor

end Layout

/-- The tokens of a text, if all its characters may stand in a document. -/
def tokens? (text : String) : Option (List Token) :=
  let characters := text.toList
  if characters.all isAllowed then
    Layout.start.tokens? (characters.length + 1) (Cursor.start (normalized characters))
  else none

end IngressConvergence.Yaml
