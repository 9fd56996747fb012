import IngressConvergence.Yaml.Layout

/-!
# The number of rounds is no limit

The tokens of a text are read by a number of rounds, and where the rounds are used up there are no
tokens.  This module proves that a token passes a character at least, so that more rounds than there
are characters read what any larger number would read.

Marks pass their own characters.  A scalar passes one because it starts with a character that is read
whatever it is: a quotation mark, or one that `startsPlain` lets through.
-/

namespace IngressConvergence.Yaml

/-! ## Scalars -/

/-- A scalar, if one is read, ends where fewer characters are left than a bound. -/
def EndsWithin
    (scanned? : Option Scanned)
    (bound : Nat) :
    Prop :=
  ∀ scanned ∈ scanned?, scanned.after.rest.length < bound

namespace EndsWithin

variable {bound : Nat} {scanned? : Option Scanned}

theorem none : EndsWithin none bound :=
  fun _ scans => nomatch scans

theorem some
    {scanned : Scanned}
    (lt : scanned.after.rest.length < bound) :
    EndsWithin (some scanned) bound :=
  fun _ scans => by cases scans; exact lt

theorem mono
    {wider : Nat}
    (within : EndsWithin scanned? bound)
    (le : bound ≤ wider) :
    EndsWithin scanned? wider :=
  fun scanned scans => Nat.lt_of_lt_of_le (within scanned scans) le

end EndsWithin

/-- A plain scalar may end at once. -/
theorem endsWithin_plainFrom?
    (inBrackets : Bool)
    (least : Nat)
    (read : List Char)
    (passed : Between)
    (characters : List Char)
    (position : Position) :
    EndsWithin (plainFrom? inBrackets least read passed characters position)
      (characters.length + 1) := by
  fun_induction plainFrom? inBrackets least read passed characters position
  -- A character is passed, ends the scalar, or is refused.
  all_goals first
    | exact .mono ‹_› (Nat.le_succ _)
    | exact .some (Nat.lt_succ_self _)
    | exact .none

/-- A scalar between quotation marks passes the last one of them. -/
theorem endsWithin_singleQuotedFrom?
    (read : List Char)
    (passed : Between)
    (characters : List Char)
    (position : Position) :
    EndsWithin (singleQuotedFrom? read passed characters position) characters.length := by
  fun_induction singleQuotedFrom? read passed characters position
  all_goals first
    | exact .mono ‹_› (by simp only [List.length_cons]; omega)
    | exact .some (Nat.lt_succ_self _)
    | exact .none

theorem endsWithin_doubleQuotedFrom?
    (read : List Char)
    (passed : Between)
    (characters : List Char)
    (position : Position) :
    EndsWithin (doubleQuotedFrom? read passed characters position) characters.length := by
  fun_induction doubleQuotedFrom? read passed characters position
  all_goals first
    | exact .mono ‹_› (by simp only [List.length_cons]; omega)
    | exact .some (Nat.lt_succ_self _)
    | exact .none

/-- The first character of a plain scalar is one of its text. -/
theorem plainFrom?_cons
    {inBrackets : Bool}
    {least : Nat}
    {character : Char}
    {rest : List Char}
    {position : Position}
    (starts : startsPlain inBrackets (character :: rest) = true)
    (noMark : (Cursor.mk (character :: rest) position).atDocumentMark = false) :
    plainFrom? inBrackets least [] .nothing (character :: rest) position =
      plainFrom? inBrackets least [character] .nothing rest (position.behind character) := by
  rw [plainFrom?]
  have noBreak : isBreak character = false := by
    grind [startsPlain, startsBlank, isBreak]
  have noSpace : isSpace character = false := by
    grind [startsPlain, startsBlank, isSpace]
  have noColon : (character = ':' && startsBlank rest) = false := by
    grind [startsPlain]
  have noBracketColon : (inBrackets && character = ':') = false := by
    grind [startsPlain]
  have noBracketMark : (inBrackets && isBracketMark character) = false := by
    grind [startsPlain, isIndicator, isBracketMark]
  simp [noBreak, noSpace, noColon, noBracketColon, noBracketMark, noMark, Between.nothing,
    Between.hasBreak, Between.folded]

/-- A scalar passes a character at least; it does not start at the mark of a document. -/
theorem length_scalar?_lt
    {inBrackets : Bool}
    {least : Nat}
    {cursor : Cursor}
    (noMark : cursor.atDocumentMark = false) :
    ∀ scanned ∈ scalar? inBrackets least cursor,
      scanned.after.rest.length < cursor.rest.length := by
  intro scanned scans
  rcases cursor with ⟨characters, position⟩
  unfold scalar? at scans
  split at scans
  next rest heq =>
    cases heq
    rcases Option.map_eq_some_iff.mp scans with ⟨quoted, quotes, rfl⟩
    exact Nat.lt_succ_of_lt (endsWithin_singleQuotedFrom? _ _ _ _ quoted quotes)
  next rest heq =>
    cases heq
    rcases Option.map_eq_some_iff.mp scans with ⟨quoted, quotes, rfl⟩
    exact Nat.lt_succ_of_lt (endsWithin_doubleQuotedFrom? _ _ _ _ quoted quotes)
  next =>
    split at scans
    next starts =>
      rcases Option.map_eq_some_iff.mp scans with ⟨plain, reads, rfl⟩
      cases characters with
      | nil => cases starts
      | cons character rest =>
        rw [plainFrom?_cons starts noMark] at reads
        exact endsWithin_plainFrom? _ _ _ _ _ _ plain reads
    next => cases scans

/-! ## Tokens -/

namespace Layout

variable {layout : Layout} {cursor : Cursor}

/-- What stands between tokens is passed, or nothing is. -/
theorem length_gapFrom_le
    (inBrackets : Bool)
    (characters : List Char)
    (position : Position)
    (keyAllowed inComment : Bool) :
    (gapFrom inBrackets characters position keyAllowed inComment).1.rest.length ≤
      characters.length := by
  fun_induction gapFrom inBrackets characters position keyAllowed inComment
  all_goals first
    | exact Nat.le_succ_of_le ‹_›
    | exact Nat.le_refl _

theorem length_gap_le
    (layout : Layout)
    (cursor : Cursor) :
    (layout.gap cursor).2.rest.length ≤ cursor.rest.length :=
  length_gapFrom_le _ _ _ _ _

/-- What is read here, if anything, leaves fewer characters. -/
def PassesFrom
    (cursor : Cursor)
    (read? : Option (Layout × Cursor)) :
    Prop :=
  ∀ read ∈ read?, read.2.rest.length < cursor.rest.length

namespace PassesFrom

theorem ite
    {condition : Prop}
    [Decidable condition]
    {first second : Option (Layout × Cursor)}
    (holds : condition → PassesFrom cursor first)
    (fails : ¬ condition → PassesFrom cursor second) :
    PassesFrom cursor (if condition then first else second) := by
  split
  next condition => exact holds condition
  next condition => exact fails condition

/-- A mark passes its characters. -/
theorem mark
    (count : Nat)
    (positive : 0 < count)
    (isLeft : cursor.rest ≠ [])
    (next? : Option Layout) :
    PassesFrom cursor (next?.map (·, cursor.skip count)) := by
  intro read reads
  rcases Option.map_eq_some_iff.mp reads with ⟨_, _, rfl⟩
  have := List.length_pos_iff.mpr isLeft
  simp only [Cursor.skip, List.length_drop]
  omega

theorem scalar
    (noMark : cursor.atDocumentMark = false) :
    PassesFrom cursor (layout.scalar? cursor) := by
  intro read reads
  simp only [Layout.scalar?, Option.bind_eq_bind, Option.mem_def, Option.bind_eq_some_iff] at reads
  rcases reads with ⟨_, _, scanned, scans, heq⟩
  cases heq
  exact length_scalar?_lt noMark scanned scans

end PassesFrom

/-- A token passes a character at least, whichever it is. -/
theorem passesFrom_token?
    (isLeft : cursor.rest ≠ []) :
    PassesFrom cursor (layout.token? cursor) := by
  have mark := fun next? => PassesFrom.mark 1 Nat.one_pos isLeft next?
  have documentMark := fun next? => PassesFrom.mark 3 (by decide) isLeft next?
  rw [token?]
  refine .ite (fun _ => documentMark _) fun noStart => .ite (fun _ => documentMark _) fun noEnd => ?_
  have noMark : cursor.atDocumentMark = false := by
    simp [Cursor.atDocumentMark, noStart, noEnd]
  split
  next => exact fun _ reads => nomatch reads
  next =>
    -- There are eight marks of one character; what is none of them is a scalar.
    iterate 8
      refine .ite (fun _ => mark _) fun _ => ?_
    exact .scalar noMark

/-- Any number of rounds beyond one for each character reads the same tokens. -/
theorem tokens?_of_le
    {rounds more : Nat}
    (enough : cursor.rest.length < rounds)
    (le : rounds ≤ more) :
    layout.tokens? more cursor = layout.tokens? rounds cursor := by
  induction rounds generalizing more layout cursor with
  | zero => exact absurd enough (Nat.not_lt_zero _)
  | succ rounds ih =>
    cases more with
    | zero => exact absurd le (Nat.not_succ_le_zero rounds)
    | succ more =>
      rw [tokens?, tokens?]
      have left := layout.length_gap_le cursor
      generalize layout.gap cursor = gapped at left ⊢
      rcases gapped with ⟨gapped, start⟩
      dsimp only at left ⊢
      cases gapped.dropPastKeys? start.position with
      | none => rfl
      | some kept =>
        dsimp only
        split
        next => rfl
        next isLeft =>
          cases reads : (kept.endBlocks start.position.column).token? start with
          | none => rfl
          | some behind =>
            have passes := passesFrom_token? (by simpa using isLeft) behind reads
            exact ih (by omega) (Nat.le_of_succ_le_succ le)

end Layout

end IngressConvergence.Yaml
