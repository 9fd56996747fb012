import IngressConvergence.Proofs.Yaml.Quoting
import IngressConvergence.Yaml.Layout
import Mathlib.Data.List.Forall2

/-!
# Outlines of layouts

While a text is read, a layout keeps possible keys with their places and positions, and gives them up
as soon as a colon would come too late for them.  Where nothing but brackets is around, the tokens do
not depend on these: no possible key is required to be one, and between brackets a colon behind the
mark of a key meets none.  An `Outline` keeps of a layout what the tokens do depend on, and
`Layout.Fits` relates the two.

`Reads` says that reading goes over some characters and takes every layout that fits one outline to a
layout that fits another, wherever the characters stand.  There is one such law for each mark that is
written between brackets, and laws may be chained by `Reads.trans`.
-/

namespace IngressConvergence.Yaml

/-! ## Outlines -/

/-- What counts of a layout where there are no blocks around. -/
structure Outline where
  /-- The tokens read, the last one first. -/
  tokens : List Token
  /-- Whether a key is possible in front of each of the brackets around, the innermost first. -/
  outer : List Bool
  /-- Whether a key is possible inside the innermost brackets. -/
  key : Bool
  /-- Whether a key may start here. -/
  keyAllowed : Bool

namespace Outline

/-- What starts here may be a key, if one may start. -/
def noted (outline : Outline) : Outline :=
  { outline with key := outline.key || outline.keyAllowed }

/-- Behind a token with which no key is possible any more. -/
def pushed (outline : Outline) (token : Token) (keyAllowed : Bool) : Outline :=
  { outline with tokens := token :: outline.tokens, key := false, keyAllowed }

/-- Behind an opening bracket. -/
def opened (outline : Outline) (token : Token) : Outline :=
  { tokens := token :: outline.tokens
    outer := outline.noted.key :: outline.outer
    key := false
    keyAllowed := true }

/-- Behind a closing bracket, where what was in front of the pair counts again. -/
def closed (outline : Outline) (token : Token) (outer : List Bool) (key : Bool) : Outline :=
  { tokens := token :: outline.tokens, outer, key, keyAllowed := false }

/-- Behind tokens that make up a node. -/
def behind (outline : Outline) (tokens : List Token) : Outline :=
  { outline.noted with tokens := tokens.reverse ++ outline.tokens, keyAllowed := false }

end Outline

/-- A possible key is there only where one may be, and it is not required to be one. -/
def MayBeKey
    (isPossible : Bool)
    (key : Option PossibleKey) :
    Prop :=
  ∀ held ∈ key, isPossible = true ∧ held.isRequired = false

/-- A layout has an outline, and there are no blocks around. -/
structure Layout.Fits
    (layout : Layout)
    (outline : Outline) :
    Prop where
  tokens : layout.tokens = outline.tokens
  columns : layout.columns = []
  outer : List.Forall₂ MayBeKey outline.outer layout.outer
  key : MayBeKey outline.key layout.key
  keyAllowed : layout.keyAllowed = outline.keyAllowed

namespace MayBeKey

variable {isPossible : Bool} {key : Option PossibleKey}

theorem none : MayBeKey isPossible none :=
  fun _ held => nomatch held

theorem some
    {held : PossibleKey}
    (possible : isPossible = true)
    (free : held.isRequired = false) :
    MayBeKey isPossible (some held) :=
  fun _ is => by cases is; exact ⟨possible, free⟩

theorem filter
    (mayBe : MayBeKey isPossible key)
    (keeps : PossibleKey → Bool) :
    MayBeKey isPossible (key.filter keeps) :=
  fun held is => mayBe held (Option.mem_filter_iff.mp is).1

/-- No possible key is required, so none is required too late. -/
theorem any_eq_false
    (mayBe : MayBeKey isPossible key)
    (isLate : PossibleKey → Bool) :
    (key.any fun held => held.isRequired && isLate held) = false := by
  cases key with
  | none => rfl
  | some held => simp [(mayBe held rfl).2]

theorem any_outer_eq_false
    {possible : List Bool}
    {keys : List (Option PossibleKey)}
    (mayBe : List.Forall₂ MayBeKey possible keys)
    (isLate : PossibleKey → Bool) :
    (keys.any (·.any fun held => held.isRequired && isLate held)) = false := by
  induction mayBe with
  | nil => rfl
  | cons mayBe _ ih => rw [List.any_cons, mayBe.any_eq_false, Bool.false_or, ih]

theorem eq_none
    (mayBe : MayBeKey false key) :
    key = .none := by
  cases key with
  | none => rfl
  | some held => exact absurd (mayBe held rfl).1 Bool.false_ne_true

end MayBeKey

namespace Layout.Fits

variable {layout : Layout} {outline : Outline}

theorem inBrackets
    (fits : layout.Fits outline) :
    layout.inBrackets = !outline.outer.isEmpty := by
  have length := fits.outer.length_eq
  rw [Layout.inBrackets, Bool.not_inj_iff, Bool.eq_iff_iff, List.isEmpty_iff_length_eq_zero,
    List.isEmpty_iff_length_eq_zero, length]

theorem inBrackets_eq_true
    (fits : layout.Fits outline)
    (inBrackets : outline.outer ≠ []) :
    layout.inBrackets = true := by
  rw [fits.inBrackets]
  simpa using inBrackets

/-- There are no blocks to end. -/
theorem endBlocks_eq
    (fits : layout.Fits outline)
    (column : Nat) :
    layout.endBlocks column = layout := by
  rcases layout with ⟨tokens, columns, outer, key, keyAllowed⟩
  cases fits.columns
  simp [endBlocks]

/-- Possible keys may be given up at any position, and the outline stays the same. -/
theorem exists_dropPastKeys?
    (fits : layout.Fits outline)
    (position : Position) :
    ∃ kept, layout.dropPastKeys? position = some kept ∧ kept.Fits outline := by
  let current (key : Option PossibleKey) := key.filter fun key => !key.isPast position
  refine ⟨{ layout with key := current layout.key, outer := layout.outer.map current }, ?_,
    fits.tokens, fits.columns, ?_, fits.key.filter _, fits.keyAllowed⟩
  · have noneLate :
        ((layout.key :: layout.outer).any
          (·.any fun key => key.isRequired && key.isPast position)) = false := by
      rw [List.any_cons, fits.key.any_eq_false, MayBeKey.any_outer_eq_false fits.outer, Bool.or_self]
    rw [dropPastKeys?, noneLate]
    rfl
  · exact List.forall₂_map_right_iff.mpr (fits.outer.imp fun _ _ mayBe => mayBe.filter _)

theorem dropKey?_eq
    (fits : layout.Fits outline) :
    layout.dropKey? = some { layout with key := none } := by
  have free : layout.key.any (·.isRequired) = false := by
    simpa using fits.key.any_eq_false fun _ => true
  rw [dropKey?, free]
  rfl

/-- A possible key outside blocks is never required. -/
theorem exists_noteKey?
    (fits : layout.Fits outline)
    (position : Position) :
    ∃ noted, layout.noteKey? position = some noted ∧ noted.Fits outline.noted := by
  rw [noteKey?, fits.keyAllowed]
  split
  next allowed =>
    -- A key is required at the column of a block, of which there are none.
    rw [fits.dropKey?_eq]
    refine ⟨_, rfl, fits.tokens, fits.columns, fits.outer, ?_, fits.keyAllowed⟩
    refine .some ?_ ?_
    · simp [Outline.noted, allowed]
    · simp [fits.columns]
  next allowed =>
    refine ⟨layout, rfl, fits.tokens, fits.columns, fits.outer, ?_, fits.keyAllowed⟩
    simpa [Outline.noted, allowed] using fits.key

end Layout.Fits

/-! ## Steps of reading -/

/-- Whether a token starts with a character, which is then not passed as what stands between tokens. -/
def startsToken (character : Char) : Bool :=
  !isBreak character && !isSpace character && character ≠ '#' && character ≠ '\uFEFF'

/--
Reading takes layouts that fit an outline in front of some characters to layouts that fit another outline in
front of the rest of them, in a number of rounds.
-/
def Reads
    (before : Outline)
    (characters : List Char)
    (after : Outline)
    (rest : List Char) :
    Prop :=
  ∀ (layout : Layout) (position : Position), layout.Fits before →
    ∃ (count : Nat) (next : Layout) (behind : Position),
      next.Fits after ∧
      ∀ rounds,
        layout.tokens? (rounds + count) ⟨characters, position⟩ = next.tokens? rounds ⟨rest, behind⟩

namespace Reads

variable {first second third : Outline} {characters rest others : List Char}

theorem refl
    (outline : Outline)
    (rest : List Char) :
    Reads outline rest outline rest :=
  fun layout position fits => ⟨0, layout, position, fits, fun _ => rfl⟩

theorem trans
    (reads : Reads first characters second rest)
    (readsOn : Reads second rest third others) :
    Reads first characters third others := by
  intro layout position fits
  rcases reads layout position fits with ⟨count, next, behind, fits, reads⟩
  rcases readsOn next behind fits with ⟨more, last, final, fits, readsOn⟩
  refine ⟨more + count, last, final, fits, fun rounds => ?_⟩
  rw [← Nat.add_assoc, reads, readsOn]

/-- Blanks between tokens are passed. -/
theorem blank
    (outline : Outline)
    (rest : List Char) :
    Reads outline (' ' :: rest) outline rest := by
  intro layout position fits
  refine ⟨0, layout, position.behind ' ', fits, fun rounds => ?_⟩
  cases rounds with
  | zero => rfl
  | succ rounds => rfl

/-- A round of reading passes a token. -/
theorem token
    {character : Char}
    (starts : startsToken character = true)
    (reads : ∀ (layout : Layout) (position : Position), layout.Fits first →
      ∃ (next : Layout) (behind : Position),
        layout.token? ⟨character :: characters, position⟩ = some (next, ⟨rest, behind⟩) ∧
        next.Fits second) :
    Reads first (character :: characters) second rest := by
  intro layout position fits
  have gap :
      layout.gap ⟨character :: characters, position⟩ =
        (layout, ⟨character :: characters, position⟩) := by
    simp only [startsToken, isSpace, Bool.and_eq_true, Bool.not_eq_true', decide_eq_true_eq,
      Bool.or_eq_false_iff, decide_eq_false_iff_not] at starts
    simp [Layout.gap, Layout.gapFrom, starts]
  rcases fits.exists_dropPastKeys? position with ⟨kept, drops, fits⟩
  rcases reads kept position fits with ⟨next, behind, reads, fitsNext⟩
  refine ⟨1, next, behind, fitsNext, fun rounds => ?_⟩
  simp only [Layout.tokens?, gap, drops, List.isEmpty_cons, Bool.false_eq_true, if_false,
    fits.endBlocks_eq, reads]

/-! ### Marks -/

/-- A token that is a mark of one character, given how a layout takes it. -/
theorem mark
    {mark : Char}
    (read? : Layout → Position → Option Layout)
    (starts : startsToken mark = true)
    (isRead : ∀ layout position, layout.Fits first →
      layout.token? ⟨mark :: rest, position⟩ =
        (read? layout position).map (·, ⟨rest, position.skip 1⟩))
    (reads : ∀ layout position, layout.Fits first →
      ∃ next, read? layout position = some next ∧ next.Fits second) :
    Reads first (mark :: rest) second rest := by
  refine token starts fun layout position fits => ?_
  rcases reads layout position fits with ⟨next, reads, fitsNext⟩
  exact ⟨next, position.skip 1, by rw [isRead layout position fits, reads]; rfl, fitsNext⟩

/-- Behind an opening bracket a key may start. -/
theorem opening
    {bracket : Char}
    {token : Token}
    (isOpening : bracket = '[' ∧ token = .listStart ∨ bracket = '{' ∧ token = .mapStart)
    (outline : Outline)
    (rest : List Char) :
    Reads outline (bracket :: rest) (outline.opened token) rest := by
  refine mark (fun layout => layout.openBracket? token) ?_ ?_ ?_
  · rcases isOpening with ⟨rfl, _⟩ | ⟨rfl, _⟩
    all_goals rfl
  · intro layout position _
    rcases isOpening with ⟨rfl, rfl⟩ | ⟨rfl, rfl⟩
    all_goals
      simp [Layout.token?, Cursor.atDocumentStart, Cursor.atDocumentEnd, Cursor.atMark, Cursor.skip]
  · intro layout position fits
    rcases fits.exists_noteKey? position with ⟨noted, notes, fits⟩
    refine ⟨{ noted.push token true with outer := noted.key :: noted.outer, key := none }, ?_, ?_⟩
    · dsimp only
      rw [Layout.openBracket?, notes]
      rfl
    · exact ⟨congrArg (token :: ·) fits.tokens, fits.columns, .cons fits.key fits.outer, .none, rfl⟩

/-- Behind a closing bracket a key is possible if one was in front of the pair. -/
theorem closing
    {bracket : Char}
    {token : Token}
    (isClosing : bracket = ']' ∧ token = .listEnd ∨ bracket = '}' ∧ token = .mapEnd)
    (outline : Outline)
    {key : Bool}
    {outer : List Bool}
    (around : outline.outer = key :: outer)
    (rest : List Char) :
    Reads outline (bracket :: rest) (outline.closed token outer key) rest := by
  refine mark (fun layout _ => layout.closeBracket? token) ?_ ?_ ?_
  · rcases isClosing with ⟨rfl, _⟩ | ⟨rfl, _⟩
    all_goals rfl
  · intro layout position _
    rcases isClosing with ⟨rfl, rfl⟩ | ⟨rfl, rfl⟩
    all_goals
      simp [Layout.token?, Cursor.atDocumentStart, Cursor.atDocumentEnd, Cursor.atMark, Cursor.skip]
  · intro layout position fits
    rcases layout with ⟨tokens, columns, layoutOuter, layoutKey, keyAllowed⟩
    have mayBe : List.Forall₂ MayBeKey (key :: outer) layoutOuter := around ▸ fits.outer
    cases mayBe with
    | cons mayBeKey mayBeOuter =>
      refine ⟨_, by simp only [Layout.closeBracket?, fits.dropKey?_eq]; rfl, ?_⟩
      exact ⟨congrArg (token :: ·) fits.tokens, fits.columns, mayBeOuter, mayBeKey, rfl⟩

/-- Behind a separator a key may start. -/
theorem separator
    (outline : Outline)
    (rest : List Char) :
    Reads outline (',' :: rest) (outline.pushed .separator true) rest := by
  refine mark (fun layout _ => layout.separator?) rfl ?_ ?_
  · intro layout position _
    simp [Layout.token?, Cursor.atDocumentStart, Cursor.atDocumentEnd, Cursor.atMark, Cursor.skip]
  · intro layout position fits
    refine ⟨_, by simp only [Layout.separator?, fits.dropKey?_eq]; rfl, ?_⟩
    exact ⟨congrArg (Token.separator :: ·) fits.tokens, fits.columns, fits.outer, .none, rfl⟩

/-- Behind the mark of a key between brackets no other key may start. -/
theorem keyMark
    (outline : Outline)
    (inBrackets : outline.outer ≠ [])
    (rest : List Char) :
    Reads outline ('?' :: rest) (outline.pushed .key false) rest := by
  have isInside (layout : Layout) (fits : layout.Fits outline) := fits.inBrackets_eq_true inBrackets
  refine mark (fun layout position => layout.keyMark? position) rfl ?_ ?_
  · intro layout position fits
    simp [Layout.token?, Cursor.atDocumentStart, Cursor.atDocumentEnd, Cursor.atMark, Cursor.skip,
      isInside layout fits]
  · intro layout position fits
    refine ⟨{ layout with key := none, tokens := .key :: layout.tokens, keyAllowed := false }, ?_, ?_⟩
    · have inside := isInside layout fits
      simp only [Layout.keyMark?, Layout.startLine?, inside, if_true, Option.bind_eq_bind,
        Option.bind_some, fits.dropKey?_eq]
      simp only [Layout.inBrackets] at inside
      simp [Layout.push, Layout.inBrackets, inside]
    · exact ⟨congrArg (Token.key :: ·) fits.tokens, fits.columns, fits.outer, .none, rfl⟩

/-- A colon between brackets where no key is possible but the one whose mark is in front of it. -/
theorem valueMark
    (outline : Outline)
    (inBrackets : outline.outer ≠ [])
    (noKey : outline.key = false)
    (rest : List Char) :
    Reads outline (':' :: rest) (outline.pushed .value false) rest := by
  have isInside (layout : Layout) (fits : layout.Fits outline) := fits.inBrackets_eq_true inBrackets
  refine mark (fun layout position => layout.value? position) rfl ?_ ?_
  · intro layout position fits
    simp [Layout.token?, Cursor.atDocumentStart, Cursor.atDocumentEnd, Cursor.atMark, Cursor.skip,
      isInside layout fits]
  · intro layout position fits
    have inside := isInside layout fits
    have noKey : layout.key = none := (noKey ▸ fits.key).eq_none
    refine ⟨{ layout with tokens := .value :: layout.tokens, keyAllowed := false }, ?_, ?_⟩
    · simp [Layout.value?, noKey, Layout.startLine?, inside, Layout.push]
    · exact ⟨congrArg (Token.value :: ·) fits.tokens, fits.columns, fits.outer, noKey ▸ .none, rfl⟩

end Reads

/-! ## Start and end of a text -/

/-- At the start of a text a key may start. -/
theorem Layout.fits_start :
    Layout.start.Fits ⟨[], [], false, true⟩ :=
  ⟨rfl, rfl, .nil, .none, rfl⟩

/-- At the end of a text nothing is added to the tokens, as there are no blocks to end. -/
theorem Layout.Fits.tokens?_nil
    {layout : Layout}
    {outline : Outline}
    (fits : layout.Fits outline)
    (rounds : Nat)
    (position : Position) :
    layout.tokens? (rounds + 1) ⟨[], position⟩ = some outline.tokens.reverse := by
  have gap : layout.gap ⟨[], position⟩ = (layout, ⟨[], position⟩) := rfl
  rcases fits.exists_dropPastKeys? position with ⟨kept, drops, fits⟩
  have ends : kept.endAllBlocks = kept := by
    rcases kept with ⟨tokens, columns, outer, key, keyAllowed⟩
    cases fits.columns
    simp [endAllBlocks]
  simp [Layout.tokens?, gap, drops, ends, fits.dropKey?_eq, fits.tokens]

end IngressConvergence.Yaml
