/-!
# Cutting texts at a separator

A list inside one value is written as pieces between separators (`"prod/web,prod/api"`); a pair is
written as two halves around the first separator (`"prod/web"`).
-/

namespace IngressConvergence.Text

/-- The pieces of a list of characters between the separators, one more than the separators. -/
def piecesList (separator : Char) : List Char → List (List Char)
  | [] => [[]]
  | character :: rest =>
    if character = separator then [] :: piecesList separator rest
    else
      match piecesList separator rest with
      | [] => [[character]]
      | piece :: others => (character :: piece) :: others

/-- The pieces of a text between the separators. -/
def pieces (separator : Char) (text : String) : List String :=
  (piecesList separator text.toList).map String.ofList

/-- The halves of a list of characters around the first separator, where there is one. -/
def halvesList (separator : Char) : List Char → Option (List Char × List Char)
  | [] => none
  | character :: rest =>
    if character = separator then some ([], rest)
    else (halvesList separator rest).map fun halves => (character :: halves.1, halves.2)

/-- The halves of a text around the first separator, where there is one. -/
def halves (separator : Char) (text : String) : Option (String × String) :=
  (halvesList separator text.toList).map fun parts =>
    (String.ofList parts.1, String.ofList parts.2)

/-- The halves are what stands around the first separator, and only they. -/
theorem halvesList_eq_some_iff {separator : Char} {characters left right : List Char} :
    halvesList separator characters = some (left, right) ↔
      characters = left ++ separator :: right ∧ separator ∉ left := by
  induction characters generalizing left with
  | nil => simp [halvesList]
  | cons character rest ih =>
    unfold halvesList
    split
    next same =>
      subst same
      cases left <;> grind
    next different =>
      cases left with
      | nil => simp [different]
      | cons head tail => simp [ih]; grind

end IngressConvergence.Text
