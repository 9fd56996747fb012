/-!
# Ranges of code points

A property of characters is kept as a list of closed ranges of code points, in ascending order and
apart from each other, so that a property has one such list only.
-/

namespace IngressConvergence.Text

/-- The first and the last code point of a range. -/
abbrev CodeRange : Type := Nat × Nat

namespace CodeRange

/-- Whether the code point of a character lies in a range. -/
def contains (range : CodeRange) (character : Char) : Bool :=
  range.1 ≤ character.toNat && character.toNat ≤ range.2

/-- Whether no range is empty and each one ends before the next one starts, with a gap in
between. -/
def areApart : List CodeRange → Bool
  | [] => true
  | [range] => range.1 ≤ range.2
  | range :: next :: rest =>
    range.1 ≤ range.2 && range.2 + 1 < next.1 && areApart (next :: rest)

end CodeRange

/-- A property of characters, by the ranges of code points that have it. -/
structure CodeRanges where
  ranges : List CodeRange
  areApart : CodeRange.areApart ranges = true := by decide +kernel

/-- Whether a character has a property. -/
def CodeRanges.contains (property : CodeRanges) (character : Char) : Bool :=
  property.ranges.any (CodeRange.contains · character)

end IngressConvergence.Text
