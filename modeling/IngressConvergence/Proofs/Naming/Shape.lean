import IngressConvergence.Proofs.Naming
import IngressConvergence.Text.Pieces
import Mathlib.Data.List.Forall2

/-!
# What names look like

A name is cut, and its digits are taken from a digest, by counting bytes, while texts of any characters
go into it.  A cut between the bytes of one character would leave no text; here cutting is defined so that
it can fail in this way.  All that is cut is made of ASCII characters, of one byte each, so that the name
is always there, and no longer than the service allows.

What a name is cut from is described by relations of their own: `NamingPolicy.Strips` for a text without
the characters that may not stand in names, `NamingPolicy.Hyphenates` for one with hyphens in their place.
The main statement is `NamingPolicy.namesProperly`.  Besides the form of a name it says what can be read
back from one that is not cut: given how names start, `NamingPolicy.shownKey?` finds the namespace and the
name of the ingress, as far as their characters may stand in names.
-/

namespace IngressConvergence

/-! ## Cutting between bytes -/

namespace Text

/-- A text cut after a number of bytes.  There is none where the cut falls inside a character, because
the bytes before it are no text then. -/
def cutBytes? (length : Nat) (text : String) : Option String :=
  String.fromUTF8? (text.toByteArray.extract 0 length)

example : cutBytes? 2 "né" = none := by decide

/-- The first bytes of a text, which has to have so many. -/
def firstBytes? (length : Nat) (text : String) : Option String :=
  if length ≤ text.utf8ByteSize then cutBytes? length text else none

/-- Every character takes up one byte. -/
def IsNarrow (characters : List Char) : Prop :=
  ∀ character ∈ characters, character.utf8Size = 1

variable {characters : List Char}

theorem fromUTF8?_toByteArray
    (text : String) :
    String.fromUTF8? text.toByteArray = some text := by
  simp [String.fromUTF8?, String.fromUTF8, text.isValidUTF8]

theorem IsNarrow.utf8ByteSize_eq
    (narrow : IsNarrow characters) :
    (String.ofList characters).utf8ByteSize = characters.length := by
  induction characters with
  | nil => rfl
  | cons first rest ih =>
      have firstNarrow := narrow first List.mem_cons_self
      have restNarrow := ih fun character later => narrow character (List.mem_cons_of_mem _ later)
      rw [String.ofList_cons, String.utf8ByteSize_append, String.utf8ByteSize_singleton, firstNarrow,
        restNarrow, List.length_cons, Nat.add_comm]

theorem IsNarrow.take
    (narrow : IsNarrow characters)
    (length : Nat) :
    IsNarrow (characters.take length) :=
  fun character member => narrow character (List.mem_of_mem_take member)

/-- Where every character is one byte, to cut after so many bytes is to cut after so many characters. -/
theorem IsNarrow.cutBytes?_eq
    (narrow : IsNarrow characters)
    (length : Nat) :
    cutBytes? length (String.ofList characters) = some (String.ofList (characters.take length)) := by
  rw [cutBytes?]
  rcases Nat.le_total length characters.length with inside | beyond
  · have bytes : (String.ofList characters).toByteArray =
        (String.ofList (characters.take length)).toByteArray ++
          (String.ofList (characters.drop length)).toByteArray := by
      rw [← String.toByteArray_append, ← String.ofList_append, List.take_append_drop]
    have size : length = (String.ofList (characters.take length)).toByteArray.size := by
      rw [String.size_toByteArray, (narrow.take length).utf8ByteSize_eq, List.length_take,
        Nat.min_eq_left inside]
    rw [bytes, ByteArray.extract_append_eq_left size, fromUTF8?_toByteArray]
  · have size : length = max length (String.ofList characters).toByteArray.size := by
      rw [String.size_toByteArray, narrow.utf8ByteSize_eq, Nat.max_eq_left beyond]
    rw [size, ByteArray.extract_zero_max_size, ← size, List.take_of_length_le beyond,
      fromUTF8?_toByteArray]

theorem IsNarrow.firstBytes?_eq
    (narrow : IsNarrow characters)
    {length : Nat}
    (enough : length ≤ characters.length) :
    firstBytes? length (String.ofList characters) =
      some (String.ofList (characters.take length)) := by
  rw [firstBytes?, narrow.utf8ByteSize_eq, if_pos enough, narrow.cutBytes?_eq]

end Text

namespace NamingPolicy

variable {policy : NamingPolicy} {key : IngressKey} {character : Char}

/-! ## The characters of a name -/

/-- A letter or a digit of ASCII. -/
def IsLetterOrDigit (character : Char) : Prop :=
  'a' ≤ character ∧ character ≤ 'z' ∨ 'A' ≤ character ∧ character ≤ 'Z' ∨
    '0' ≤ character ∧ character ≤ '9'

/-- A digit of a hexadecimal number in lower case. -/
def IsHexDigit (character : Char) : Prop :=
  '0' ≤ character ∧ character ≤ '9' ∨ 'a' ≤ character ∧ character ≤ 'f'

instance : Decidable (IsHexDigit character) := inferInstanceAs (Decidable (_ ∨ _))

theorem isNameCharacter_iff :
    isNameCharacter character = true ↔ IsLetterOrDigit character := by
  have ranges : isNameCharacter character =
      (decide ('A' ≤ character ∧ character ≤ 'Z') ||
        (decide ('a' ≤ character) && decide (character ≤ 'z')) ||
          (decide ('0' ≤ character) && decide (character ≤ '9'))) := rfl
  simp only [ranges, Bool.or_eq_true, Bool.and_eq_true, decide_eq_true_eq, IsLetterOrDigit]
  rw [or_assoc, or_left_comm]

theorem IsHexDigit.isLetterOrDigit
    (digit : IsHexDigit character) :
    IsLetterOrDigit character := by
  rcases digit with ⟨above, below⟩ | ⟨above, below⟩
  · exact .inr (.inr ⟨above, below⟩)
  · exact .inl ⟨above, Char.le_trans below (by decide)⟩

/-- Letters, digits and the hyphen are single bytes. -/
theorem utf8Size_eq_one
    (allowed : IsLetterOrDigit character ∨ character = '-') :
    character.utf8Size = 1 := by
  rw [Char.utf8Size_eq_one_iff]
  rcases allowed with (⟨-, below⟩ | ⟨-, below⟩ | ⟨-, below⟩) | rfl
  · exact UInt32.le_trans below (by decide)
  · exact UInt32.le_trans below (by decide)
  · exact UInt32.le_trans below (by decide)
  · decide

theorem isLetterOrDigit_of_mem_kept
    {text : String}
    (member : character ∈ kept text) :
    IsLetterOrDigit character :=
  isNameCharacter_iff.mp (List.mem_filter.mp member).2

theorem isLetterOrDigit_or_hyphen_of_mem_hyphenated
    {text : String}
    (member : character ∈ hyphenated text) :
    IsLetterOrDigit character ∨ character = '-' := by
  rcases List.mem_map.mp member with ⟨original, -, rfl⟩
  split
  next isKept => exact .inl (isNameCharacter_iff.mp isKept)
  next => exact .inr rfl

theorem isLetterOrDigit_or_hyphen_of_mem_uncutBody
    (member : character ∈ policy.uncutBody key) :
    IsLetterOrDigit character ∨ character = '-' := by
  simp only [uncutBody, List.mem_append, List.mem_cons] at member
  rcases member with inStart | rfl | inNamespace | rfl | inName
  · exact isLetterOrDigit_or_hyphen_of_mem_hyphenated inStart
  · exact .inr rfl
  · exact .inl (isLetterOrDigit_of_mem_kept inNamespace)
  · exact .inr rfl
  · exact .inl (isLetterOrDigit_of_mem_kept inName)

theorem isHexDigit_hexDigit
    (number : Nat) :
    IsHexDigit (Digest.hexDigit number) := by
  have everyDigit : ∀ digit < 16, IsHexDigit (Nat.digitChar digit) := by decide
  exact everyDigit _ (Nat.mod_lt _ (by decide))

theorem isHexDigit_of_mem_ofText
    {text : String}
    (member : character ∈ Digest.ofText text) :
    IsHexDigit character := by
  rcases List.mem_flatMap.mp member with ⟨byte, -, inByte⟩
  simp only [Digest.hexDigits, List.mem_cons, List.not_mem_nil, or_false] at inByte
  rcases inByte with rfl | rfl
  · exact isHexDigit_hexDigit _
  · exact isHexDigit_hexDigit _

theorem isNarrow_uncutBody
    (policy : NamingPolicy)
    (key : IngressKey) :
    Text.IsNarrow (policy.uncutBody key) :=
  fun _ member => utf8Size_eq_one (isLetterOrDigit_or_hyphen_of_mem_uncutBody member)

theorem isNarrow_ofText
    (text : String) :
    Text.IsNarrow (Digest.ofText text) :=
  fun _ member => utf8Size_eq_one (.inl (isHexDigit_of_mem_ofText member).isLetterOrDigit)

/-! ## What a name is cut from -/

/-- A list of characters without those that are neither letters nor digits. -/
inductive Strips : List Char → List Char → Prop where
  | nil : Strips [] []
  | keeps
      {first : Char}
      {rest stripped : List Char}
      (allowed : IsLetterOrDigit first)
      (others : Strips rest stripped) :
      Strips (first :: rest) (first :: stripped)
  | drops
      {first : Char}
      {rest stripped : List Char}
      (refused : ¬ IsLetterOrDigit first)
      (others : Strips rest stripped) :
      Strips (first :: rest) stripped

/-- A list of characters with a hyphen in place of each that is neither a letter nor a digit. -/
def Hyphenates : List Char → List Char → Prop :=
  List.Forall₂ fun original shown =>
    (IsLetterOrDigit original → shown = original) ∧ (¬ IsLetterOrDigit original → shown = '-')

/-- The start of names with hyphens, and the namespace and the name stripped, with hyphens between. -/
def IsUncut (policy : NamingPolicy) (key : IngressKey) (characters : List Char) : Prop :=
  ∃ start namespaceName name, Hyphenates policy.namePrefix.toList start ∧
    Strips key.namespaceName.toList namespaceName ∧ Strips key.name.toList name ∧
      characters = start ++ '-' :: (namespaceName ++ '-' :: name)

/-- A text can be stripped in one way only. -/
theorem strips_iff
    {text : String}
    {stripped : List Char} :
    Strips text.toList stripped ↔ stripped = kept text := by
  rw [kept]
  generalize text.toList = characters
  constructor
  · intro strips
    induction strips with
    | nil => rfl
    | keeps allowed _ ih => rw [List.filter_cons_of_pos (isNameCharacter_iff.mpr allowed), ih]
    | drops refused _ ih => rw [List.filter_cons_of_neg (mt isNameCharacter_iff.mp refused), ih]
  · rintro rfl
    induction characters with
    | nil => exact .nil
    | cons first rest ih =>
        by_cases allowed : isNameCharacter first = true
        · rw [List.filter_cons_of_pos allowed]
          exact .keeps (isNameCharacter_iff.mp allowed) ih
        · rw [List.filter_cons_of_neg allowed]
          exact .drops (mt isNameCharacter_iff.mpr allowed) ih

/-- In a text hyphens can be put in one way only. -/
theorem hyphenates_iff
    {text : String}
    {shown : List Char} :
    Hyphenates text.toList shown ↔ shown = hyphenated text := by
  have asFunction :
      (fun original shown : Char =>
        (IsLetterOrDigit original → shown = original) ∧
          (¬ IsLetterOrDigit original → shown = '-')) =
        fun original shown => (if isNameCharacter original then original else '-') = shown := by
    funext original shown
    rw [← isNameCharacter_iff]
    grind
  rw [Hyphenates, asFunction, ← List.forall₂_map_left_iff, List.forall₂_eq_eq_eq, hyphenated]
  exact eq_comm

theorem isUncut_iff
    {characters : List Char} :
    policy.IsUncut key characters ↔ characters = policy.uncutBody key := by
  simp only [IsUncut, hyphenates_iff, strips_iff]
  constructor
  · rintro ⟨_, _, _, rfl, rfl, rfl, rfl⟩
    rfl
  · rintro rfl
    exact ⟨_, _, _, rfl, rfl, rfl, rfl⟩

/-! ## Names on bytes -/

/-- The name of the load balancer of an ingress, as far as the body and the digest can be cut between
bytes. -/
def nameOnBytes? (policy : NamingPolicy) (key : IngressKey) : Option String := do
  let body ← Text.cutBytes? longestBody (String.ofList (policy.uncutBody key))
  let digits ← Text.firstBytes? 4 (String.ofList (Digest.ofText (digestSource key)))
  return body ++ "-" ++ digits

theorem nameOnBytes?_eq
    (policy : NamingPolicy)
    (key : IngressKey) :
    policy.nameOnBytes? key = some (policy.loadBalancerName key) := by
  have body := (isNarrow_uncutBody policy key).cutBytes?_eq longestBody
  have enough : 4 ≤ (Digest.ofText (digestSource key)).length := by simp [Digest.length_ofText]
  rw [nameOnBytes?, body, (isNarrow_ofText (digestSource key)).firstBytes?_eq enough]
  simp [loadBalancerName, digestDigits, ← String.toList_inj]

/-! ## Reading a name back -/

/-- The namespace and the name that the name of a load balancer shows, given how names start: what stands
between the start and the digits, around its first hyphen. -/
def shownKey? (namePrefix name : String) : Option (List Char × List Char) :=
  let body := name.toList.take (name.length - 5)
  Text.halvesList '-' (body.drop (namePrefix.length + 1))

theorem toList_loadBalancerName
    (policy : NamingPolicy)
    (key : IngressKey) :
    (policy.loadBalancerName key).toList =
      (policy.uncutBody key).take longestBody ++ '-' :: digestDigits key := by
  rw [loadBalancerName, String.toList_ofList]

theorem length_loadBalancerName
    (policy : NamingPolicy)
    (key : IngressKey) :
    (policy.loadBalancerName key).length = min longestBody (policy.uncutBody key).length + 5 := by
  rw [← String.length_toList, toList_loadBalancerName, List.length_append, List.length_take,
    List.length_cons, length_digestDigits]

/-- From a name that was not cut the namespace and the name can be read back, as far as their characters were
kept. -/
theorem shownKey?_loadBalancerName
    (uncut : (policy.uncutBody key).length ≤ longestBody) :
    shownKey? policy.namePrefix (policy.loadBalancerName key) =
      some (kept key.namespaceName, kept key.name) := by
  have body : (policy.loadBalancerName key).toList.take
      ((policy.loadBalancerName key).length - 5) = policy.uncutBody key := by
    rw [length_loadBalancerName, toList_loadBalancerName, List.take_of_length_le uncut]
    simp [Nat.min_eq_right uncut]
  have start : (hyphenated policy.namePrefix).length = policy.namePrefix.length := by
    rw [hyphenated, List.length_map, String.length_toList]
  have shown : (policy.uncutBody key).drop (policy.namePrefix.length + 1) =
      kept key.namespaceName ++ '-' :: kept key.name := by
    rw [uncutBody, ← start]
    simp
  rw [shownKey?, body, shown, Text.halvesList_eq_some_iff]
  exact ⟨rfl, hyphen_not_mem_kept _⟩

example : shownKey? "my_prefix" "my-prefix-teama-webapp-0a1b" =
    some ("teama".toList, "webapp".toList) := by decide

/-! ## What names look like -/

/-- The name of the load balancer of an ingress is as it should be. -/
structure NamesProperly (policy : NamingPolicy) (key : IngressKey) : Prop where
  uncut : ∀ characters, policy.IsUncut key characters ↔ characters = policy.uncutBody key
  /-- To cut between bytes gives the name, and no text is cut inside a character for it. -/
  onBytes : policy.nameOnBytes? key = some (policy.loadBalancerName key)
  /-- The body could be cut after any number of bytes. -/
  cutsAnywhere :
    ∀ length, ∃ cut, Text.cutBytes? length (String.ofList (policy.uncutBody key)) = some cut
  length_le : (policy.loadBalancerName key).length ≤ 31
  allowed : ∀ character ∈ (policy.loadBalancerName key).toList,
    IsLetterOrDigit character ∨ character = '-'
  /-- The name is the start of what it is cut from, of the length that the cut allows, and four digits. -/
  parts :
    ∃ body digits, (policy.loadBalancerName key).toList = body ++ '-' :: digits ∧
      body <+: policy.uncutBody key ∧ body.length = min 26 (policy.uncutBody key).length ∧
        digits.length = 4 ∧ ∀ digit ∈ digits, IsHexDigit digit
  /-- A name that is not cut shows the namespace and the name of the ingress, stripped. -/
  readsBack :
    (policy.uncutBody key).length ≤ 26 →
      ∃ namespaceName name,
        shownKey? policy.namePrefix (policy.loadBalancerName key) = some (namespaceName, name) ∧
          Strips key.namespaceName.toList namespaceName ∧ Strips key.name.toList name

/-- Whatever characters there are in the start of names, the namespace and the name of an ingress, its
load balancer is named properly. -/
theorem namesProperly
    (policy : NamingPolicy)
    (key : IngressKey) :
    policy.NamesProperly key := by
  have hexDigits : ∀ digit ∈ digestDigits key, IsHexDigit digit :=
    fun digit member => isHexDigit_of_mem_ofText (List.mem_of_mem_take member)
  constructor
  case uncut => exact fun characters => isUncut_iff
  case onBytes => exact nameOnBytes?_eq policy key
  case cutsAnywhere =>
    intro length
    exact ⟨_, (isNarrow_uncutBody policy key).cutBytes?_eq length⟩
  case length_le =>
    rw [length_loadBalancerName]
    exact Nat.add_le_add_right (Nat.min_le_left longestBody _) 5
  case allowed =>
    intro character member
    rw [toList_loadBalancerName, List.mem_append, List.mem_cons] at member
    rcases member with inBody | rfl | inDigits
    · exact isLetterOrDigit_or_hyphen_of_mem_uncutBody (List.mem_of_mem_take inBody)
    · exact .inr rfl
    · exact .inl (hexDigits character inDigits).isLetterOrDigit
  case parts =>
    exact ⟨_, _, toList_loadBalancerName policy key, List.take_prefix _ _, List.length_take,
      length_digestDigits key, hexDigits⟩
  case readsBack =>
    intro uncut
    exact ⟨_, _, shownKey?_loadBalancerName uncut, strips_iff.mpr rfl, strips_iff.mpr rfl⟩

end NamingPolicy

end IngressConvergence
