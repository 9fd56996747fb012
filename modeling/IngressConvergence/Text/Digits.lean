/-!
# Decimal digits

Numbers of a fixed width are padded with zeros on the left.  Reading takes the longest run of digits
up to a given length.
-/

namespace IngressConvergence.Text

/-- A number in decimal, padded with zeros on the left to a width. -/
def padded (width : Nat) (number : Nat) : String :=
  let digits := Nat.toDigits 10 number
  String.ofList (List.replicate (width - digits.length) '0' ++ digits)

/-- The value of a decimal digit. -/
def digitValue (character : Char) : Nat :=
  character.toNat - '0'.toNat

/-- The number that a list of decimal digits denotes. -/
def numberOf (digits : List Char) : Nat :=
  digits.foldl (fun value digit => value * 10 + digitValue digit) 0

/-- The longest run of digits at the start, of at most the given length, and what follows it. -/
def digitRun (longest : Nat) (characters : List Char) : List Char × List Char :=
  let run := (characters.take longest).takeWhile Char.isDigit
  (run, characters.drop run.length)

/-- A number of at least one and at most the given count of digits, and what follows it. -/
def readNumber? (longest : Nat) (characters : List Char) : Option (Nat × List Char) :=
  match digitRun longest characters with
  | ([], _) => none
  | (digits, rest) => some (numberOf digits, rest)

end IngressConvergence.Text
