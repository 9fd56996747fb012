import IngressConvergence.Yaml.Cursor

/-!
# Scalars of YAML documents

A scalar is written plainly or between quotation marks, possibly over several lines.  Where a scalar
goes over to the next line, the end of the line and the blanks around it count as one space; each
empty line in between counts as the end of a line.
-/

namespace IngressConvergence.Yaml

/-- A scalar as it is read, with the position behind it, and whether the end of a line was passed
behind its last word. -/
structure Scanned where
  text : String
  after : Cursor
  endsLine : Bool

/-! ## What stands between the words of a scalar -/

/-- What was passed since the last word. -/
inductive Between where
  /-- Blanks of one line, the last of them first. -/
  | blanks (passed : List Char)
  /-- Ends of lines: the first, unless it was escaped, and the others, the last of them first. -/
  | breaks (first : Option Char) (others : List Char)
deriving DecidableEq, Repr

namespace Between

/-- Nothing was passed. -/
def nothing : Between := .blanks []

/-- The end of a line was passed behind a backslash, with which it does not count. -/
def escapedBreak : Between := .breaks none []

/-- Pass a blank; behind the end of a line it does not count. -/
def addBlank (between : Between) (character : Char) : Between :=
  match between with
  | .blanks passed => .blanks (character :: passed)
  | other => other

/-- Pass the end of a line; blanks in front of it do not count. -/
def addBreak (between : Between) (character : Char) : Between :=
  match between with
  | .blanks _ => .breaks (some character) []
  | .breaks first others => .breaks first (character :: others)

/-- Whether the end of a line was passed. -/
def hasBreak : Between → Bool
  | .blanks _ => false
  | .breaks _ _ => true

/-- What counts of that which was passed, the last character first.  A first end of a line gives way
to the others, and to a space if there are none; separators of lines and paragraphs stay. -/
def folded : Between → List Char
  | .blanks passed => passed
  | .breaks (some '\n') [] => [' ']
  | .breaks (some '\n') others => others
  | .breaks first others => others ++ first.toList

end Between

/-! ## Plain scalars -/

/-- The characters that are marks inside brackets. -/
def isBracketMark (character : Char) : Bool :=
  character = ',' || character = '[' || character = ']' || character = '{' || character = '}'

/-- The characters with which no plain scalar starts. -/
def isIndicator (character : Char) : Bool :=
  isBracketMark character || character = '#' || character = '&' || character = '*' ||
    character = '!' || character = '|' || character = '>' || character = '\'' ||
    character = '"' || character = '%' || character = '@' || character.toNat = 0x60

/-- Whether a plain scalar starts here. -/
def startsPlain (inBrackets : Bool) : List Char → Bool
  | [] => false
  | character :: rest =>
    if character = '-' then !startsBlank rest
    else if character = '?' || character = ':' then !inBrackets && !startsBlank rest
    else !startsBlank (character :: rest) && !isIndicator character

/-- Read a plain scalar from some of its characters on.  `read` are the characters of the words read
so far, the last one first, and `passed` is what stands behind them.  Outside brackets the further
lines have to start at the column `least` or behind it, and a tab may not stand to the left of that
column.  Inside brackets a colon may not touch another mark. -/
def plainFrom? (inBrackets : Bool) (least : Nat) (read : List Char) (passed : Between) :
    List Char → Position → Option Scanned
  | [], position => some ⟨String.ofList read.reverse, ⟨[], position⟩, passed.hasBreak⟩
  | character :: rest, position =>
    let cursor : Cursor := ⟨character :: rest, position⟩
    let next := position.behind character
    if isBreak character then
      plainFrom? inBrackets least read (passed.addBreak character) rest next
    else if isSpace character then
      if passed.hasBreak && character = '\t' && position.column < least then none
      else plainFrom? inBrackets least read (passed.addBlank character) rest next
    else if (passed.hasBreak && !inBrackets && position.column < least) || cursor.atDocumentMark ||
        (character = '#' && passed ≠ .nothing) || (character = ':' && startsBlank rest) then
      some ⟨String.ofList read.reverse, cursor, passed.hasBreak⟩
    else if inBrackets && character = ':' &&
        rest.head?.any (fun next => isBracketMark next || next = '?') then none
    else if inBrackets && isBracketMark character then
      some ⟨String.ofList read.reverse, cursor, passed.hasBreak⟩
    else plainFrom? inBrackets least (character :: (passed.folded ++ read)) .nothing rest next

/-! ## Quoted scalars -/

/-- Read behind the first mark of a scalar between single quotation marks, in which the mark itself
is written twice. -/
def singleQuotedFrom? (read : List Char) (passed : Between) :
    List Char → Position → Option Scanned
  | [], _ => none
  | '\'' :: '\'' :: rest, position =>
    singleQuotedFrom? ('\'' :: (passed.folded ++ read)) .nothing rest (position.skip 2)
  | '\'' :: rest, position =>
    some ⟨String.ofList (passed.folded ++ read).reverse, ⟨rest, position.skip 1⟩, false⟩
  | character :: rest, position =>
    let next := position.behind character
    if (Cursor.mk (character :: rest) position).atDocumentMark then none
    else if isBreak character then singleQuotedFrom? read (passed.addBreak character) rest next
    else if isSpace character then singleQuotedFrom? read (passed.addBlank character) rest next
    else singleQuotedFrom? (character :: (passed.folded ++ read)) .nothing rest next

/-- What a backslash and one more character stand for between double quotation marks. -/
def escape? (character : Char) : Option Char :=
  match character with
  | '0' => some (Char.ofNat 0)
  | 'a' => some (Char.ofNat 7)
  | 'b' => some (Char.ofNat 8)
  | 't' => some '\t'
  | '\t' => some '\t'
  | 'n' => some '\n'
  | 'v' => some (Char.ofNat 0xB)
  | 'f' => some (Char.ofNat 0xC)
  | 'r' => some '\r'
  | 'e' => some (Char.ofNat 0x1B)
  | ' ' => some ' '
  | '"' => some '"'
  | '/' => some '/'
  | '\\' => some '\\'
  | 'N' => some (Char.ofNat 0x85)
  | '_' => some (Char.ofNat 0xA0)
  | 'L' => some (Char.ofNat 0x2028)
  | 'P' => some (Char.ofNat 0x2029)
  | _ => none

/-- The value of a hexadecimal digit. -/
def hexValue? (character : Char) : Option Nat :=
  if character.isDigit then some (character.toNat - '0'.toNat)
  else if 'a' ≤ character ∧ character ≤ 'f' then some (character.toNat - 'a'.toNat + 10)
  else if 'A' ≤ character ∧ character ≤ 'F' then some (character.toNat - 'A'.toNat + 10)
  else none

/-- The character whose code point a list of hexadecimal digits gives. -/
def codePoint? (digits : List Char) : Option Char := do
  let values ← digits.mapM hexValue?
  let code := values.foldl (fun value digit => value * 16 + digit) 0
  if code.isValidChar then some (Char.ofNat code) else none

/-- Read behind the first mark of a scalar between double quotation marks, in which a backslash
escapes the mark, ends of lines, and characters by letter or by code point. -/
def doubleQuotedFrom? (read : List Char) (passed : Between) :
    List Char → Position → Option Scanned
  | [], _ => none
  | '"' :: rest, position =>
    some ⟨String.ofList (passed.folded ++ read).reverse, ⟨rest, position.skip 1⟩, false⟩
  | '\\' :: 'x' :: a :: b :: rest, position =>
    match codePoint? [a, b] with
    | some character =>
      doubleQuotedFrom? (character :: (passed.folded ++ read)) .nothing rest (position.skip 4)
    | none => none
  | '\\' :: 'u' :: a :: b :: c :: d :: rest, position =>
    match codePoint? [a, b, c, d] with
    | some character =>
      doubleQuotedFrom? (character :: (passed.folded ++ read)) .nothing rest (position.skip 6)
    | none => none
  | '\\' :: 'U' :: a :: b :: c :: d :: e :: f :: g :: h :: rest, position =>
    match codePoint? [a, b, c, d, e, f, g, h] with
    | some character =>
      doubleQuotedFrom? (character :: (passed.folded ++ read)) .nothing rest (position.skip 10)
    | none => none
  | '\\' :: letter :: rest, position =>
    if isBreak letter then
      doubleQuotedFrom? (passed.folded ++ read) .escapedBreak rest
        ((position.skip 1).behind letter)
    else
      match escape? letter with
      | some character =>
        doubleQuotedFrom? (character :: (passed.folded ++ read)) .nothing rest (position.skip 2)
      | none => none
  | character :: rest, position =>
    let next := position.behind character
    if (Cursor.mk (character :: rest) position).atDocumentMark then none
    else if isBreak character then doubleQuotedFrom? read (passed.addBreak character) rest next
    else if isSpace character then doubleQuotedFrom? read (passed.addBlank character) rest next
    else doubleQuotedFrom? (character :: (passed.folded ++ read)) .nothing rest next

/-! ## Scalars of any form -/

/-- A scalar with the position behind it, and whether it was written plainly. -/
structure ScannedScalar extends Scanned where
  isPlain : Bool

/-- Read a scalar.  A plain one has to continue at the column `least` or behind it. -/
def scalar? (inBrackets : Bool) (least : Nat) (cursor : Cursor) : Option ScannedScalar :=
  match cursor.rest with
  | '\'' :: rest =>
    (singleQuotedFrom? [] .nothing rest (cursor.position.skip 1)).map (⟨·, false⟩)
  | '"' :: rest =>
    (doubleQuotedFrom? [] .nothing rest (cursor.position.skip 1)).map (⟨·, false⟩)
  | characters =>
    if startsPlain inBrackets characters then
      (plainFrom? inBrackets least [] .nothing characters cursor.position).map (⟨·, true⟩)
    else none

end IngressConvergence.Yaml
