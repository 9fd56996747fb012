import IngressConvergence.Text.Combining
import IngressConvergence.Text.Graphic

/-!
# Lists of texts in messages

A message that shows a list of texts writes it as `["a", "b"]`.  Inside the quotation marks the mark
itself and the backslash are escaped, line breaks, tabs and the null character have short escapes,
and every other character that would not show by itself is written by its code point in hexadecimal.
-/

namespace IngressConvergence.Text

/-- The letters that fill an empty place in a Korean syllable and leave no trace. -/
def isFiller (character : Char) : Bool :=
  character = '\u115F' || character = '\u1160' || character = '\u3164' || character = '\uFFA0'

/-- Characters that are written by their code point, because they do not show by themselves.  Of the
characters of ASCII these are the controls. -/
def isHidden (character : Char) : Bool :=
  if character.toNat < 0x7F then character.toNat < 0x20
  else !isGraphic character || isCombining character || isFiller character

/-- The digits of a number in hexadecimal, without leading zeros. -/
def hexadecimal (number : Nat) : String :=
  String.ofList (Nat.toDigits 16 number)

/-- A character as it stands between quotation marks. -/
def escaped (character : Char) : String :=
  if character = '"' then "\\\""
  else if character = '\\' then "\\\\"
  else if character = '\n' then "\\n"
  else if character = '\r' then "\\r"
  else if character = '\t' then "\\t"
  else if character.toNat = 0 then "\\0"
  else if isHidden character then "\\u\x7b" ++ hexadecimal character.toNat ++ "\x7d"
  else String.singleton character

/-- A text between quotation marks. -/
def quoted (text : String) : String :=
  "\"" ++ String.join (text.toList.map escaped) ++ "\""

/-- A list of texts between brackets, each between quotation marks. -/
def quotedList (texts : List String) : String :=
  "[" ++ ", ".intercalate (texts.map quoted) ++ "]"

end IngressConvergence.Text
