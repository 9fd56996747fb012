import IngressConvergence.Yaml.Scalar
import Mathlib.Algebra.Group.Nat.Defs

/-!
# Texts between quotation marks

Every text has a scalar between double quotation marks.  Characters that may stand in a document and
mean nothing there stand for themselves; the others are given by their code points.  `scalar?_quoted`
says that the scalar is read back as the text, whatever follows.

Blanks are the one difficulty: the reader keeps those behind the last word apart from what it has
read, because they count only if a word follows on the same line.  What is read here has no ends of
lines, so the two parts together are the characters so far.
-/

namespace IngressConvergence.Yaml

/-! ## Writing -/

/-- Whether a character may stand in a document and is not turned into another. -/
def isStable (character : Char) : Bool :=
  isAllowed character && character ≠ '\r' && character.toNat ≠ 0x85

/-- Whether a character stands for itself between double quotation marks. -/
def isOrdinary (character : Char) : Bool :=
  isStable character && !isBreak character && character ≠ '"' && character ≠ '\\'

/-- The hexadecimal digits of a number at its last places. -/
def hexDigits : (places : Nat) → (number : Nat) → List Char
  | 0, _ => []
  | places + 1, number => hexDigits places (number / 16) ++ [Nat.digitChar (number % 16)]

/-- A character between double quotation marks, by its code point unless it stands for itself. -/
def escaped (character : Char) : List Char :=
  if isOrdinary character then [character] else '\\' :: 'U' :: hexDigits 8 character.toNat

/-- A text between double quotation marks. -/
def quoted (text : String) : List Char :=
  '"' :: text.toList.flatMap escaped ++ ['"']

/-! ## Characters that stay as they are -/

/-- What holds of the sixteen digits holds of the digits of a number. -/
theorem forall_mem_hexDigits
    {isGood : Char → Prop}
    (good : ∀ digit < 16, isGood (Nat.digitChar digit))
    (places number : Nat) :
    ∀ character ∈ hexDigits places number, isGood character := by
  induction places generalizing number with
  | zero => exact fun _ member => nomatch member
  | succ places ih =>
    rw [hexDigits, List.forall_mem_append, List.forall_mem_singleton]
    exact ⟨ih _, good _ (Nat.mod_lt _ (by decide))⟩

theorem isStable_escaped
    (character : Char) :
    ∀ written ∈ escaped character, isStable written = true := by
  rw [escaped]
  split
  next ordinary =>
    rw [List.forall_mem_singleton]
    simp only [isOrdinary, Bool.and_eq_true] at ordinary
    exact ordinary.1.1.1
  next =>
    simp only [List.forall_mem_cons]
    exact ⟨by decide, by decide, forall_mem_hexDigits (by decide) _ _⟩

theorem isStable_quoted
    (text : String) :
    ∀ written ∈ quoted text, isStable written = true := by
  rw [quoted, List.forall_mem_append, List.forall_mem_cons, List.forall_mem_singleton]
  refine ⟨⟨by decide, ?_⟩, by decide⟩
  intro written member
  rcases List.mem_flatMap.mp member with ⟨character, _, member⟩
  exact isStable_escaped character written member

/-- Ends of lines are in one form where no character is turned into another. -/
theorem normalized_eq_self
    {characters : List Char}
    (stable : ∀ character ∈ characters, isStable character = true) :
    normalized characters = characters := by
  induction characters with
  | nil => rfl
  | cons character rest ih =>
    rw [List.forall_mem_cons] at stable
    rcases stable with ⟨isStable, stable⟩
    simp only [Yaml.isStable, Bool.and_eq_true, decide_eq_true_eq] at isStable
    rw [normalized, ih stable]
    · rw [if_neg (by simp [isStable])]
    · intro _ isReturn
      exact absurd isReturn isStable.1.2

/-! ## Reading a character -/

theorem hexValue?_digitChar :
    ∀ digit < 16, hexValue? (Nat.digitChar digit) = some digit := by
  decide

/-- Digits give back the number, as far as there are places for it. -/
theorem exists_mapM_hexDigits
    (places number : Nat) :
    ∃ values, (hexDigits places number).mapM hexValue? = some values ∧
      values.foldl (fun value digit => value * 16 + digit) 0 = number % 16 ^ places := by
  induction places generalizing number with
  | zero => exact ⟨[], rfl, (Nat.mod_one number).symm⟩
  | succ places ih =>
    rcases ih (number / 16) with ⟨values, reads, value⟩
    refine ⟨values ++ [number % 16], ?_, ?_⟩
    · have last := hexValue?_digitChar (number % 16) (Nat.mod_lt _ (by decide))
      simp [hexDigits, List.mapM_append, reads, last]
    · rw [List.foldl_append, value, List.foldl_cons, List.foldl_nil, Nat.pow_succ', Nat.mod_mul]
      omega

/-- A code point has places for the digits of any character. -/
theorem codePoint?_hexDigits
    (character : Char) :
    codePoint? (hexDigits 8 character.toNat) = some character := by
  have valid : character.toNat.isValidChar := character.valid
  rcases exists_mapM_hexDigits 8 character.toNat with ⟨values, reads, value⟩
  rw [Nat.mod_eq_of_lt (by omega)] at value
  simp [codePoint?, reads, value, valid, Char.ofNat_toNat]

/-! ## Reading a text -/

/-- The marks of documents stand at the start of a line only. -/
theorem Cursor.atDocumentMark_eq_false
    (cursor : Cursor)
    (inLine : cursor.position.column ≠ 0) :
    cursor.atDocumentMark = false := by
  simp [Cursor.atDocumentMark, Cursor.atDocumentStart, Cursor.atDocumentEnd, Cursor.atMark, inLine]

/-- A character that stands for itself is a blank or part of a word. -/
theorem doubleQuotedFrom?_ordinary
    {character : Char}
    (ordinary : isOrdinary character = true)
    (read blanks rest : List Char)
    (position : Position)
    (inLine : position.column ≠ 0) :
    doubleQuotedFrom? read (.blanks blanks) (character :: rest) position =
      if isSpace character then
        doubleQuotedFrom? read (.blanks (character :: blanks)) rest (position.behind character)
      else
        doubleQuotedFrom? (character :: (blanks ++ read)) .nothing rest (position.behind character) := by
  simp only [isOrdinary, Bool.and_eq_true, Bool.not_eq_true', decide_eq_true_eq, ne_eq] at ordinary
  rcases ordinary with ⟨⟨⟨_, noBreak⟩, noMark⟩, noEscape⟩
  rw [doubleQuotedFrom?]
  · simp [Cursor.atDocumentMark_eq_false ⟨character :: rest, position⟩ inLine, noBreak]
    rfl
  all_goals simp [noMark, noEscape]

/-- A character is read back, and is part of the words or of the blanks behind them. -/
theorem doubleQuotedFrom?_escaped
    (character : Char)
    (read blanks rest : List Char)
    (position : Position)
    (inLine : position.column ≠ 0) :
    ∃ (words passed : List Char) (behind : Position),
      passed ++ words = character :: (blanks ++ read) ∧
      behind.column ≠ 0 ∧
      doubleQuotedFrom? read (.blanks blanks) (escaped character ++ rest) position =
        doubleQuotedFrom? words (.blanks passed) rest behind := by
  rw [escaped]
  split
  next ordinary =>
    have sameLine : (position.behind character).column ≠ 0 := by
      have noBreak : isBreak character = false := by
        simp only [isOrdinary, Bool.and_eq_true, Bool.not_eq_true'] at ordinary
        exact ordinary.1.1.2
      simp [Position.behind, noBreak]
    rw [List.singleton_append, doubleQuotedFrom?_ordinary ordinary read blanks rest position inLine]
    split
    next => exact ⟨read, character :: blanks, _, rfl, sameLine, rfl⟩
    next => exact ⟨character :: (blanks ++ read), [], _, rfl, sameLine, rfl⟩
  next =>
    refine ⟨character :: (blanks ++ read), [], position.skip 10, rfl, Nat.succ_ne_zero _, ?_⟩
    have reads := codePoint?_hexDigits character
    simp only [hexDigits, List.nil_append, List.cons_append] at reads ⊢
    rw [doubleQuotedFrom?, reads]
    rfl

/-- What was read before and the characters up to the last quotation mark make up the scalar. -/
theorem doubleQuotedFrom?_flatMap
    (characters read blanks rest : List Char)
    (position : Position)
    (inLine : position.column ≠ 0) :
    ∃ behind : Position,
      doubleQuotedFrom? read (.blanks blanks) (characters.flatMap escaped ++ '"' :: rest) position =
        some ⟨String.ofList ((blanks ++ read).reverse ++ characters), ⟨rest, behind⟩, false⟩ := by
  induction characters generalizing read blanks position with
  | nil =>
    refine ⟨position.skip 1, ?_⟩
    rw [List.append_nil]
    rfl
  | cons character characters ih =>
    rcases doubleQuotedFrom?_escaped character read blanks (characters.flatMap escaped ++ '"' :: rest)
      position inLine with ⟨words, passed, next, seen, inLine, reads⟩
    rcases ih words passed next inLine with ⟨behind, readsOn⟩
    refine ⟨behind, ?_⟩
    rw [List.flatMap_cons, List.append_assoc, reads, readsOn, seen, List.reverse_cons,
      List.append_assoc, List.singleton_append]

/-- A text between quotation marks is read back, inside brackets and outside. -/
theorem scalar?_quoted
    (text : String)
    (inBrackets : Bool)
    (least : Nat)
    (rest : List Char)
    (position : Position) :
    ∃ behind : Position,
      scalar? inBrackets least ⟨quoted text ++ rest, position⟩ =
        some ⟨⟨text, ⟨rest, behind⟩, false⟩, false⟩ := by
  rcases doubleQuotedFrom?_flatMap text.toList [] [] rest (position.skip 1) (Nat.succ_ne_zero _)
    with ⟨behind, reads⟩
  refine ⟨behind, ?_⟩
  simp only [quoted, List.cons_append, List.append_assoc, List.nil_append, scalar?]
  rw [Between.nothing, reads]
  simp

end IngressConvergence.Yaml
