import IngressConvergence.Proofs.Yaml.Quoting

/-!
# Words

A word of letters and digits may be written plainly.  It means the same inside brackets and outside,
since none of its characters is a mark, a blank or the end of a line.  It ends only where something is
behind it that ends a plain scalar; `EndsNode` lists what may be behind a node that is written on one
line.  `scalar?_word` says that a word is read back there.
-/

namespace IngressConvergence.Yaml

/-- A text that may be written plainly whatever is around: letters and digits. -/
def IsWord
    (text : String) :
    Prop :=
  text ≠ "" ∧ text.toList.all Char.isAlphanum = true

/-- What may stand behind a node: nothing, the end of an item or an entry, or the mark of a value. -/
inductive EndsNode (inBrackets : Bool) : List Char → Prop where
  | nothing : EndsNode inBrackets []
  | separator (isInside : inBrackets = true) (rest : List Char) : EndsNode inBrackets (',' :: rest)
  | value (rest : List Char) : EndsNode inBrackets (':' :: ' ' :: rest)

/-! ## Letters and digits -/

section Alphanumeric

variable {character : Char} (isAlphanum : character.isAlphanum = true)

include isAlphanum

/-- No mark is a letter or a digit. -/
theorem ne_of_isAlphanum
    {mark : Char}
    (isMark : mark.isAlphanum = false) :
    character ≠ mark := by
  rintro rfl
  exact Bool.false_ne_true (isMark.symm.trans isAlphanum)

theorem isBreak_of_isAlphanum : isBreak character = false := by
  simp [isBreak, ne_of_isAlphanum isAlphanum]

theorem isSpace_of_isAlphanum : isSpace character = false := by
  simp [isSpace, ne_of_isAlphanum isAlphanum]

theorem isBracketMark_of_isAlphanum : isBracketMark character = false := by
  simp [isBracketMark, ne_of_isAlphanum isAlphanum]

theorem isIndicator_of_isAlphanum : isIndicator character = false := by
  have noGrave : character.toNat ≠ 0x60 := by
    intro isGrave
    have eq : character = Char.ofNat 0x60 := by rw [← isGrave, Char.ofNat_toNat]
    exact ne_of_isAlphanum isAlphanum (by decide) eq
  simp [isIndicator, isBracketMark_of_isAlphanum isAlphanum, ne_of_isAlphanum isAlphanum, noGrave]

theorem startsPlain_of_isAlphanum
    (inBrackets : Bool)
    (rest : List Char) :
    startsPlain inBrackets (character :: rest) = true := by
  simp [startsPlain, startsBlank, isBreak_of_isAlphanum isAlphanum, isSpace_of_isAlphanum isAlphanum,
    isIndicator_of_isAlphanum isAlphanum, ne_of_isAlphanum isAlphanum]

theorem atDocumentMark_of_isAlphanum
    (rest : List Char)
    (position : Position) :
    (Cursor.mk (character :: rest) position).atDocumentMark = false := by
  have noDash : '-' ≠ character := (ne_of_isAlphanum isAlphanum (by decide)).symm
  have noDot : '.' ≠ character := (ne_of_isAlphanum isAlphanum (by decide)).symm
  simp [Cursor.atDocumentMark, Cursor.atDocumentStart, Cursor.atDocumentEnd, Cursor.atMark, noDash, noDot]

/-- Letters and digits are characters of ASCII. -/
theorem isStable_of_isAlphanum : isStable character = true := by
  have ranges :
      character.isAlphanum =
        (decide (65 ≤ character.toNat ∧ character.toNat ≤ 90) ||
          (decide (97 ≤ character.toNat) && decide (character.toNat ≤ 122)) ||
            (decide (48 ≤ character.toNat) && decide (character.toNat ≤ 57))) := rfl
  have inRange : 48 ≤ character.toNat ∧ character.toNat ≤ 122 := by
    simp only [ranges, Bool.or_eq_true, Bool.and_eq_true, decide_eq_true_eq] at isAlphanum
    omega
  have allowed : isAllowed character = true := by
    simp [isAllowed]
    omega
  have noNextLine : character.toNat ≠ 0x85 := by
    omega
  simp [isStable, allowed, noNextLine, ne_of_isAlphanum isAlphanum]

end Alphanumeric

/-! ## Reading a word -/

/-- Letters and digits are read plainly up to what may stand behind a node. -/
theorem plainFrom?_word
    {inBrackets : Bool}
    {word rest : List Char}
    (isWord : ∀ character ∈ word, character.isAlphanum = true)
    (ends : EndsNode inBrackets rest)
    (least : Nat)
    (read : List Char)
    (position : Position) :
    ∃ behind : Position,
      plainFrom? inBrackets least read .nothing (word ++ rest) position =
        some ⟨String.ofList (read.reverse ++ word), ⟨rest, behind⟩, false⟩ := by
  induction word generalizing read position with
  | nil =>
    refine ⟨position, ?_⟩
    rw [List.nil_append, List.append_nil]
    cases ends with
    | nothing => rfl
    | separator isInside rest =>
      simp [plainFrom?, isInside, isBreak, isSpace, isBracketMark, Between.hasBreak, Between.nothing,
        Cursor.atDocumentMark, Cursor.atDocumentStart, Cursor.atDocumentEnd, Cursor.atMark]
    | value rest =>
      simp [plainFrom?, isBreak, isSpace, Between.hasBreak, Between.nothing, startsBlank]
  | cons character word ih =>
    have isAlphanum := isWord character List.mem_cons_self
    rcases ih (fun _ member => isWord _ (List.mem_cons_of_mem _ member)) (character :: read)
      (position.behind character) with ⟨behind, reads⟩
    refine ⟨behind, ?_⟩
    rw [List.cons_append, plainFrom?]
    simp only [isBreak_of_isAlphanum isAlphanum, isSpace_of_isAlphanum isAlphanum,
      isBracketMark_of_isAlphanum isAlphanum, atDocumentMark_of_isAlphanum isAlphanum, Between.hasBreak,
      Between.nothing]
    simpa [ne_of_isAlphanum isAlphanum, Between.folded, Between.nothing] using reads

/-- A word is read plainly where it stands in front of what may stand behind a node. -/
theorem scalar?_word
    {text : String}
    (isWord : IsWord text)
    {inBrackets : Bool}
    {rest : List Char}
    (ends : EndsNode inBrackets rest)
    (least : Nat)
    (position : Position) :
    ∃ behind : Position,
      scalar? inBrackets least ⟨text.toList ++ rest, position⟩ =
        some ⟨⟨text, ⟨rest, behind⟩, false⟩, true⟩ := by
  have alphanumeric := List.all_eq_true.mp isWord.2
  rcases plainFrom?_word alphanumeric ends least [] position with ⟨behind, reads⟩
  refine ⟨behind, ?_⟩
  rw [List.reverse_nil, List.nil_append, String.ofList_toList] at reads
  cases characters : text.toList with
  | nil => exact absurd (String.toList_eq_nil_iff.mp characters) isWord.1
  | cons character others =>
    have isAlphanum := alphanumeric character (by rw [characters]; exact List.mem_cons_self)
    rw [characters] at reads
    rw [List.cons_append] at reads ⊢
    rw [scalar?]
    dsimp only
    split
    next heq => exact absurd (List.cons.inj heq).1 (ne_of_isAlphanum isAlphanum rfl)
    next heq => exact absurd (List.cons.inj heq).1 (ne_of_isAlphanum isAlphanum rfl)
    next =>
      rw [if_pos (startsPlain_of_isAlphanum isAlphanum _ _), reads]
      rfl

end IngressConvergence.Yaml
