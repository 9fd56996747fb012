/-!
# Positions in YAML texts

Indentation carries meaning, so a position in a text is kept with its line and its column, both
counted from zero.  Columns count characters; the distance between two positions counts the bytes of
the text in UTF-8.
-/

namespace IngressConvergence.Yaml

/-! ## Characters -/

/-- Whether a character is a space or a tab. -/
def isSpace (character : Char) : Bool :=
  character = ' ' || character = '\t'

/-- Whether a character ends a line, once ends of lines are in one form. -/
def isBreak (character : Char) : Bool :=
  character = '\n' || character = '\u2028' || character = '\u2029'

/-- Whether a list of characters starts with a space, a tab or the end of a line, or is empty. -/
def startsBlank : List Char → Bool
  | [] => true
  | character :: _ => isSpace character || isBreak character

/-- Ends of lines in one form, as far as they are not separators of lines or paragraphs. -/
def normalized : List Char → List Char
  | [] => []
  | '\r' :: '\n' :: rest => '\n' :: normalized rest
  | character :: rest =>
    (if character = '\r' || character.toNat = 0x85 then '\n' else character) :: normalized rest

/-- Whether a character may stand in a document at all. -/
def isAllowed (character : Char) : Bool :=
  let code := character.toNat
  code = 9 || code = 10 || code = 13 || (0x20 ≤ code && code ≤ 0x7E) || code = 0x85 ||
    (0xA0 ≤ code && code ≤ 0xFFFD) || 0x10000 ≤ code

/-! ## Positions -/

/-- A position in a text: its line, its column, and the number of bytes in front of it. -/
structure Position where
  line : Nat
  column : Nat
  offset : Nat
deriving DecidableEq, Repr

namespace Position

/-- The position in front of the first character. -/
def start : Position := ⟨0, 0, 0⟩

/-- The position behind a character. -/
def behind (position : Position) (character : Char) : Position :=
  if isBreak character then ⟨position.line + 1, 0, position.offset + character.utf8Size⟩
  else ⟨position.line, position.column + 1, position.offset + character.utf8Size⟩

/-- The position behind a number of ASCII characters of one line. -/
def skip (position : Position) (count : Nat) : Position :=
  ⟨position.line, position.column + count, position.offset + count⟩

end Position

/-- A position in a text with what is left of the text there. -/
structure Cursor where
  rest : List Char
  position : Position
deriving DecidableEq, Repr

namespace Cursor

/-- The whole of a text is left. -/
def start (characters : List Char) : Cursor := ⟨characters, .start⟩

/-- Go on behind a number of ASCII characters of one line. -/
def skip (cursor : Cursor) (count : Nat) : Cursor :=
  ⟨cursor.rest.drop count, cursor.position.skip count⟩

/-- Whether a mark of three characters stands here at the start of a line, on its own. -/
def atMark (cursor : Cursor) (mark : List Char) : Bool :=
  cursor.position.column = 0 && mark.isPrefixOf cursor.rest && startsBlank (cursor.rest.drop 3)

/-- Whether a document starts here by a mark of its own. -/
def atDocumentStart (cursor : Cursor) : Bool := cursor.atMark ['-', '-', '-']

/-- Whether a document ends here by a mark of its own. -/
def atDocumentEnd (cursor : Cursor) : Bool := cursor.atMark ['.', '.', '.']

/-- Whether a mark between documents stands here. -/
def atDocumentMark (cursor : Cursor) : Bool := cursor.atDocumentStart || cursor.atDocumentEnd

end Cursor

end IngressConvergence.Yaml
