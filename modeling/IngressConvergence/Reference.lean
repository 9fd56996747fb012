import IngressConvergence.ControllerError

/-!
# Mixed lists of identifiers and names

Subnets and security groups are annotated by identifier or by name.  Identifiers are told by how
they start and stay as they are.  All other items are names, which one lookup has to turn into as
many identifiers: every name has to be among the names that the lookup reports, unless it reports
none, and no identifier may come twice.
-/

namespace IngressConvergence

/-- What a lookup found: an identifier and, where it is known, the name that it carries. -/
structure ReferenceMatch where
  id : String
  name : Option String
deriving DecidableEq, Repr

namespace Reference

/-- Whether an item is an identifier of its family. -/
def isIdentifier (kind : ReferenceKind) (item : String) : Bool :=
  kind.identifierStart.toList.isPrefixOf item.toList

theorem isIdentifier_iff {kind : ReferenceKind} {item : String} :
    isIdentifier kind item = true ↔ ∃ rest, item = kind.identifierStart ++ rest := by
  rw [isIdentifier, List.isPrefixOf_iff_prefix]
  constructor
  · rintro ⟨rest, whole⟩
    refine ⟨String.ofList rest, ?_⟩
    rw [← String.toList_inj, String.toList_append, String.toList_ofList, whole]
  · rintro ⟨rest, rfl⟩
    exact ⟨rest.toList, String.toList_append.symm⟩

/-- The items that are identifiers, in their order. -/
def identifiers (kind : ReferenceKind) (items : List String) : List String :=
  items.filter (isIdentifier kind)

/-- The items that are names, in their order. -/
def names (kind : ReferenceKind) (items : List String) : List String :=
  items.filter fun item => !isIdentifier kind item

/-- The names that a lookup reports, each as often as it is reported. -/
def reportedNames (found : List ReferenceMatch) : List String :=
  found.filterMap (·.name)

/-- Whether every name is reported; a lookup that reports no names at all is taken at its word. -/
def coversNames (names : List String) (found : List ReferenceMatch) : Bool :=
  found.all (·.name.isNone) || names.all (reportedNames found).contains

/-- Whether no identifier was found twice. -/
def hasDistinctIds (found : List ReferenceMatch) : Bool :=
  decide ((found.map (·.id)).Pairwise (· ≠ ·))

/-- The identifiers of a list of items, given what the lookup of its names found. -/
def settle (kind : ReferenceKind) (items : List String) (found : List ReferenceMatch) :
    Except ControllerError (List String) :=
  let resolved := identifiers kind items ++ found.map (·.id)
  if coversNames (names kind items) found && hasDistinctIds found &&
      resolved.length = items.length then
    .ok resolved
  else .error (.unresolvedReference kind items resolved)

/-- The identifiers of a list of items.  Where there are names, one lookup is made for all. -/
def resolve {Effect : Type → Type} [Monad Effect] (kind : ReferenceKind) (items : List String)
    (lookup : List String → Effect (Except CloudError (List ReferenceMatch))) :
    Effect (Except ControllerError (List String)) :=
  if (names kind items).isEmpty then pure (.ok items)
  else do
    match ← lookup (names kind items) with
    | .ok found => pure (settle kind items found)
    | .error error => pure (.error (.referenceLookup kind error))

end Reference

end IngressConvergence
