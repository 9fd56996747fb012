/-!
# Blank characters

Values read from an environment or from timestamps may be surrounded by white space.  A character is
blank when it has the Unicode property `White_Space`, which holds of twenty-five code points.
-/

namespace IngressConvergence.Text

/-- Whether a character has the Unicode property `White_Space`. -/
def isBlank (character : Char) : Bool :=
  let code := character.toNat
  (9 ≤ code && code ≤ 13) || code == 0x20 || code == 0x85 || code == 0xA0 || code == 0x1680 ||
    (0x2000 ≤ code && code ≤ 0x200A) || code == 0x2028 || code == 0x2029 || code == 0x202F ||
    code == 0x205F || code == 0x3000

/-- What is left of a list of characters without the blanks at its start and at its end. -/
def trimList (characters : List Char) : List Char :=
  ((characters.dropWhile isBlank).reverse.dropWhile isBlank).reverse

/-- A text without the blanks at its start and at its end. -/
def trim (text : String) : String :=
  String.ofList (trimList text.toList)

end IngressConvergence.Text
