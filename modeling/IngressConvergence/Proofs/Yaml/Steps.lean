import IngressConvergence.Yaml.Structure

/-!
# The number of steps is no limit

`node?` and the functions around it go down a document by a number of steps, and where the steps are
used up they read nothing.  This module proves that the number is no limit: two numbers of steps that
are both large enough for the tokens at hand read the same, so that `content?` reads what any larger
number would read.

How many steps a function needs is a multiple of the tokens and a small constant, which orders the
functions that call one another without passing a token.  That a call leaves fewer tokens is part of
the statement, as the next call needs fewer steps only because of it.  `Agreement` says so of all the
functions at once; it goes over from some steps to one more, function by function.
-/

namespace IngressConvergence.Yaml

variable {steps more : Nat} {first second : Option Reading} {bound : Nat}

/-- Two ways to read come to the same, and what they leave is shorter than a bound. -/
structure ReadAlike
    (first second : Option Reading)
    (bound : Nat) :
    Prop where
  eq : first = second
  lt : ∀ reading ∈ first, reading.rest.length < bound

namespace ReadAlike

theorem none : ReadAlike none none bound :=
  ⟨rfl, fun _ read => nomatch read⟩

theorem some
    {reading : Reading}
    (lt : reading.rest.length < bound) :
    ReadAlike (some reading) (some reading) bound :=
  ⟨rfl, fun _ read => by cases read; exact lt⟩

/-- A bound may be widened. -/
theorem mono
    {wider : Nat}
    (alike : ReadAlike first second bound)
    (le : bound ≤ wider) :
    ReadAlike first second wider :=
  ⟨alike.eq, fun reading read => Nat.lt_of_lt_of_le (alike.lt reading read) le⟩

/-- Reading on from what was read alike. -/
theorem bind
    {wider : Nat}
    {next after : Reading → Option Reading} :
    ReadAlike first second bound →
    (∀ reading : Reading, reading.rest.length < bound →
      ReadAlike (next reading) (after reading) wider) →
    ReadAlike
      (match first with
        | .some reading => next reading
        | .none => .none)
      (match second with
        | .some reading => after reading
        | .none => .none)
      wider := by
  intro alike goesOn
  cases alike.eq
  cases read : first with
  | none => exact none
  | some reading => exact goesOn reading (alike.lt reading read)

end ReadAlike

/--
What one number of steps reads, another reads alike, of lists of tokens that are short enough for the first.
A node passes a token at least; what may be blank need not pass any.
-/
structure Agreement
    (steps more : Nat) :
    Prop where
  node : ∀ place tokens, 4 * tokens.length + 2 ≤ steps →
    ReadAlike (node? steps place tokens) (node? more place tokens) tokens.length
  nodeOrBlank : ∀ place ends tokens, 4 * tokens.length + 3 ≤ steps →
    ReadAlike (nodeOrBlank? steps place ends tokens) (nodeOrBlank? more place ends tokens)
      (tokens.length + 1)
  valueOrBlank : ∀ place ends tokens, 4 * tokens.length + 1 ≤ steps →
    ReadAlike (valueOrBlank? steps place ends tokens) (valueOrBlank? more place ends tokens)
      (tokens.length + 1)
  blockItems : ∀ read tokens, 4 * tokens.length + 1 ≤ steps →
    ReadAlike (blockItems? steps read tokens) (blockItems? more read tokens) tokens.length
  looseItems : ∀ read tokens, 4 * tokens.length + 1 ≤ steps →
    ReadAlike (looseItems? steps read tokens) (looseItems? more read tokens) (tokens.length + 1)
  looseItem : ∀ read rest, 4 * rest.length + 5 ≤ steps →
    ReadAlike (looseItems? steps read (.item :: rest)) (looseItems? more read (.item :: rest))
      (rest.length + 1)
  blockEntries : ∀ read tokens, 4 * tokens.length + 1 ≤ steps →
    ReadAlike (blockEntries? steps read tokens) (blockEntries? more read tokens) tokens.length
  listItems : ∀ read tokens, 4 * tokens.length + 3 ≤ steps →
    ReadAlike (listItems? steps read tokens) (listItems? more read tokens) tokens.length
  nextListItem : ∀ read tokens, 4 * tokens.length + 1 ≤ steps →
    ReadAlike (nextListItem? steps read tokens) (nextListItem? more read tokens) tokens.length
  mapEntries : ∀ read tokens, 4 * tokens.length + 3 ≤ steps →
    ReadAlike (mapEntries? steps read tokens) (mapEntries? more read tokens) tokens.length
  nextMapEntry : ∀ read tokens, 4 * tokens.length + 1 ≤ steps →
    ReadAlike ( nextMapEntry? steps read tokens) ( nextMapEntry? more read tokens) tokens.length

namespace Agreement

/-- The first token tells which function goes on, with the tokens behind it. -/
theorem node_succ
    (agreement : Agreement steps more)
    (place : Place)
    (tokens : List Token)
    (enough : 4 * tokens.length + 2 ≤ steps + 1) :
    ReadAlike (node? (steps + 1) place tokens) (node? (more + 1) place tokens) tokens.length := by
  cases tokens with
  | nil => exact .none
  | cons token rest =>
    rw [List.length_cons] at enough ⊢
    cases token with
    | scalar isPlain text => exact .some (Nat.lt_succ_self _)
    | listStart => exact (agreement.listItems [] rest (by omega)).mono (Nat.le_succ _)
    | mapStart => exact (agreement.mapEntries [] rest (by omega)).mono (Nat.le_succ _)
    | blockList =>
      rw [node?, node?]
      split
      next => exact .none
      next => exact (agreement.blockItems [] rest (by omega)).mono (Nat.le_succ _)
    | blockMap =>
      rw [node?, node?]
      split
      next => exact .none
      next => exact (agreement.blockEntries [] rest (by omega)).mono (Nat.le_succ _)
    | item =>
      -- The items that are not indented are read with their first mark, but pass it.
      rw [node?, node?]
      split
      next => exact agreement.looseItem [] rest (by omega)
      next => exact .none
    | _ => exact .none

theorem nodeOrBlank_succ
    (agreement : Agreement steps more)
    (place : Place)
    (ends tokens : List Token)
    (enough : 4 * tokens.length + 3 ≤ steps + 1) :
    ReadAlike (nodeOrBlank? (steps + 1) place ends tokens)
      (nodeOrBlank? (more + 1) place ends tokens) (tokens.length + 1) := by
  rw [nodeOrBlank?, nodeOrBlank?]
  split
  next => exact .some (Nat.lt_succ_self _)
  next => exact (agreement.node place tokens (by omega)).mono (Nat.le_succ _)

theorem valueOrBlank_succ
    (agreement : Agreement steps more)
    (place : Place)
    (ends tokens : List Token)
    (enough : 4 * tokens.length + 1 ≤ steps + 1) :
    ReadAlike (valueOrBlank? (steps + 1) place ends tokens)
      (valueOrBlank? (more + 1) place ends tokens) (tokens.length + 1) := by
  cases tokens with
  | nil => exact .some (Nat.lt_succ_self _)
  | cons token rest =>
    rw [List.length_cons] at enough ⊢
    cases token with
    | value => exact (agreement.nodeOrBlank place ends rest (by omega)).mono (Nat.le_succ _)
    | _ => exact .some (Nat.lt_succ_self _)

theorem blockItems_succ
    (agreement : Agreement steps more)
    (read : List Node)
    (tokens : List Token)
    (enough : 4 * tokens.length + 1 ≤ steps + 1) :
    ReadAlike (blockItems? (steps + 1) read tokens) (blockItems? (more + 1) read tokens)
      tokens.length := by
  cases tokens with
  | nil => exact .none
  | cons token rest =>
    rw [List.length_cons] at enough ⊢
    cases token with
    | item =>
      rw [blockItems?, blockItems?]
      refine (agreement.nodeOrBlank .block itemEnds rest (by omega)).bind fun item lt => ?_
      exact (agreement.blockItems (item.node :: read) item.rest (by omega)).mono (by omega)
    | blockEnd => exact .some (Nat.lt_succ_self _)
    | _ => exact .none

theorem looseItem_succ
    (agreement : Agreement steps more)
    (read : List Node)
    (rest : List Token)
    (enough : 4 * rest.length + 5 ≤ steps + 1) :
    ReadAlike (looseItems? (steps + 1) read (.item :: rest))
      (looseItems? (more + 1) read (.item :: rest)) (rest.length + 1) := by
  rw [looseItems?, looseItems?]
  refine (agreement.nodeOrBlank .block looseItemEnds rest (by omega)).bind fun item lt => ?_
  exact (agreement.looseItems (item.node :: read) item.rest (by omega)).mono lt

theorem looseItems_succ
    (agreement : Agreement steps more)
    (read : List Node)
    (tokens : List Token)
    (enough : 4 * tokens.length + 1 ≤ steps + 1) :
    ReadAlike (looseItems? (steps + 1) read tokens) (looseItems? (more + 1) read tokens)
      (tokens.length + 1) := by
  cases tokens with
  | nil => exact .some (Nat.lt_succ_self _)
  | cons token rest =>
    rw [List.length_cons] at enough ⊢
    cases token with
    | item => exact (agreement.looseItem_succ read rest enough).mono (Nat.le_succ _)
    | _ => exact .some (Nat.lt_succ_self _)

theorem blockEntries_succ
    (agreement : Agreement steps more)
    (read : List (Node × Node))
    (tokens : List Token)
    (enough : 4 * tokens.length + 1 ≤ steps + 1) :
    ReadAlike (blockEntries? (steps + 1) read tokens) (blockEntries? (more + 1) read tokens)
      tokens.length := by
  cases tokens with
  | nil => exact .none
  | cons token rest =>
    rw [List.length_cons] at enough ⊢
    cases token with
    | key =>
      rw [blockEntries?, blockEntries?]
      refine (agreement.nodeOrBlank .entry entryEnds rest (by omega)).bind fun key behindKey => ?_
      refine (agreement.valueOrBlank .entry entryEnds key.rest (by omega)).bind
        fun value behindValue => ?_
      exact (agreement.blockEntries _ value.rest (by omega)).mono (by omega)
    | blockEnd => exact .some (Nat.lt_succ_self _)
    | _ => exact .none

theorem nextListItem_succ
    (agreement : Agreement steps more)
    (read : List Node)
    (tokens : List Token)
    (enough : 4 * tokens.length + 1 ≤ steps + 1) :
    ReadAlike (nextListItem? (steps + 1) read tokens) (nextListItem? (more + 1) read tokens)
      tokens.length := by
  cases tokens with
  | nil => exact .none
  | cons token rest =>
    rw [List.length_cons] at enough ⊢
    cases token with
    | listEnd => exact .some (Nat.lt_succ_self _)
    | separator => exact (agreement.listItems read rest (by omega)).mono (Nat.le_succ _)
    | _ => exact .none

/-- An item without a key, which is where reading goes on with the same tokens. -/
theorem plainListItem_succ
    (agreement : Agreement steps more)
    (read : List Node)
    (tokens : List Token)
    (enough : 4 * tokens.length + 3 ≤ steps + 1) :
    ReadAlike
      (match node? steps .brackets tokens with
        | some item => nextListItem? steps (item.node :: read) item.rest
        | none => none)
      (match node? more .brackets tokens with
        | some item => nextListItem? more (item.node :: read) item.rest
        | none => none)
      tokens.length := by
  refine (agreement.node .brackets tokens (by omega)).bind fun item lt => ?_
  exact (agreement.nextListItem _ item.rest (by omega)).mono (Nat.le_of_lt lt)

theorem listItems_succ
    (agreement : Agreement steps more)
    (read : List Node)
    (tokens : List Token)
    (enough : 4 * tokens.length + 3 ≤ steps + 1) :
    ReadAlike (listItems? (steps + 1) read tokens) (listItems? (more + 1) read tokens)
      tokens.length := by
  cases tokens with
  | nil => exact agreement.plainListItem_succ read [] enough
  | cons token rest =>
    cases token with
    | listEnd => exact .some (Nat.lt_succ_self _)
    | key =>
      rw [List.length_cons] at enough ⊢
      rw [listItems?, listItems?]
      -- A blank key passes the token that shows it to be blank, if there is one.
      have keyAlike :
          ReadAlike
            (if startsWithOneOf (.value :: listEntryEnds) rest then some ⟨.blank, rest.tail⟩
              else node? steps .brackets rest)
            (if startsWithOneOf (.value :: listEntryEnds) rest then some ⟨.blank, rest.tail⟩
              else node? more .brackets rest)
            (rest.length + 1) := by
        split
        next => exact .some (by simp only [List.length_tail]; omega)
        next => exact (agreement.node .brackets rest (by omega)).mono (Nat.le_succ _)
      refine keyAlike.bind fun key behindKey => ?_
      refine (agreement.valueOrBlank .brackets listEntryEnds key.rest (by omega)).bind
        fun value behindValue => ?_
      exact (agreement.nextListItem _ value.rest (by omega)).mono (by omega)
    | _ => exact agreement.plainListItem_succ read (_ :: rest) enough

theorem nextMapEntry_succ
    (agreement : Agreement steps more)
    (read : List (Node × Node))
    (tokens : List Token)
    (enough : 4 * tokens.length + 1 ≤ steps + 1) :
    ReadAlike ( nextMapEntry? (steps + 1) read tokens) ( nextMapEntry? (more + 1) read tokens)
      tokens.length := by
  cases tokens with
  | nil => exact .none
  | cons token rest =>
    rw [List.length_cons] at enough ⊢
    cases token with
    | mapEnd => exact .some (Nat.lt_succ_self _)
    | separator => exact (agreement.mapEntries read rest (by omega)).mono (Nat.le_succ _)
    | _ => exact .none

/-- A key without a mark, which is where reading goes on with the same tokens. -/
theorem plainMapEntry_succ
    (agreement : Agreement steps more)
    (read : List (Node × Node))
    (tokens : List Token)
    (enough : 4 * tokens.length + 3 ≤ steps + 1) :
    ReadAlike
      (match node? steps .brackets tokens with
        | some key => nextMapEntry? steps ((key.node, .blank) :: read) key.rest
        | none => none)
      (match node? more .brackets tokens with
        | some key => nextMapEntry? more ((key.node, .blank) :: read) key.rest
        | none => none)
      tokens.length := by
  refine (agreement.node .brackets tokens (by omega)).bind fun key lt => ?_
  exact (agreement.nextMapEntry _ key.rest (by omega)).mono (Nat.le_of_lt lt)

theorem mapEntries_succ
    (agreement : Agreement steps more)
    (read : List (Node × Node))
    (tokens : List Token)
    (enough : 4 * tokens.length + 3 ≤ steps + 1) :
    ReadAlike (mapEntries? (steps + 1) read tokens) (mapEntries? (more + 1) read tokens)
      tokens.length := by
  cases tokens with
  | nil => exact agreement.plainMapEntry_succ read [] enough
  | cons token rest =>
    cases token with
    | mapEnd => exact .some (Nat.lt_succ_self _)
    | key =>
      rw [List.length_cons] at enough ⊢
      rw [mapEntries?, mapEntries?]
      refine (agreement.nodeOrBlank .brackets _ rest (by omega)).bind fun key behindKey => ?_
      refine (agreement.valueOrBlank .brackets mapEntryEnds key.rest (by omega)).bind
        fun value behindValue => ?_
      exact (agreement.nextMapEntry _ value.rest (by omega)).mono (by omega)
    | _ => exact agreement.plainMapEntry_succ read (_ :: rest) enough

/-- Agreement goes over to one step more. -/
theorem succ
    (agreement : Agreement steps more) :
    Agreement (steps + 1) (more + 1) where
  node := agreement.node_succ
  nodeOrBlank := agreement.nodeOrBlank_succ
  valueOrBlank := agreement.valueOrBlank_succ
  blockItems := agreement.blockItems_succ
  looseItems := agreement.looseItems_succ
  looseItem := agreement.looseItem_succ
  blockEntries := agreement.blockEntries_succ
  listItems := agreement.listItems_succ
  nextListItem := agreement.nextListItem_succ
  mapEntries := agreement.mapEntries_succ
  nextMapEntry := agreement.nextMapEntry_succ

/-- No list of tokens is short enough for no steps. -/
theorem zero : Agreement 0 more := by
  constructor
  all_goals
    intros
    omega

/-- More steps read the same as fewer, as far as the fewer are enough. -/
theorem of_le
    (le : steps ≤ more) :
    Agreement steps more := by
  induction steps generalizing more with
  | zero => exact zero
  | succ steps ih =>
    cases more with
    | zero => exact absurd le (Nat.not_succ_le_zero steps)
    | succ more => exact (ih (Nat.le_of_succ_le_succ le)).succ

end Agreement

/-- Any number of steps beyond the one with which a document is read reads the same. -/
theorem documentNode?_of_le
    {tokens : List Token}
    (enough : 8 * tokens.length + 8 ≤ steps) :
    documentNode? steps tokens = documentNode? (8 * tokens.length + 8) tokens := by
  have agreement := Agreement.of_le enough
  unfold documentNode?
  split
  next rest =>
    rw [List.length_cons] at agreement ⊢
    rw [(agreement.node .block rest (by omega)).eq]
  next => exact ((agreement.node .block _ (by omega)).eq).symm

end IngressConvergence.Yaml
