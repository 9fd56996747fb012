import IngressConvergence.Configuration.Environment
import IngressConvergence.Table.Lemmas
import Mathlib.Data.List.Forall2

/-!
# The allow-list in the environment

One variable lists the ingresses that may face the internet.  Its value is cut at commas, the pieces are
trimmed, and what is left of them are texts of keys.  Here cutting, trimming and the texts of keys are
described by relations of their own, each of which holds of just one result.  The main statement is
`Configuration.readsAllowList`: the value is refused exactly if some entry is no text of a key, and
otherwise the ingresses that are allowed are exactly those whose keys are listed.
-/

namespace IngressConvergence

/-! ## Cutting -/

namespace Text

/-- Some pieces make up a text: a separator stands between each two of them, and within none. -/
structure IsCut (separator : Char) (text : String) (cut : List String) : Prop where
  nonempty : cut ≠ []
  apart : ∀ piece ∈ cut, separator ∉ piece.toList
  joined : (String.singleton separator).intercalate cut = text

variable {separator : Char} {text left right : String} {cut : List String}

theorem piecesList_eq_splitOn
    (separator : Char)
    (characters : List Char) :
    piecesList separator characters = characters.splitOn separator := by
  induction characters with
  | nil => rfl
  | cons character rest ih =>
      rw [piecesList, ih, List.splitOn_cons_eq_if_modifyHead]
      by_cases same : character = separator
      · simp [same]
      · rw [if_neg same, if_neg (by simpa using same)]
        cases cutRest : rest.splitOn separator with
        | nil => exact absurd cutRest (List.splitOn_ne_nil separator rest)
        | cons piece others => rfl

/-- No piece holds a separator. -/
theorem not_mem_of_mem_piecesList
    {characters piece : List Char}
    (member : piece ∈ piecesList separator characters) :
    separator ∉ piece := by
  induction characters generalizing piece with
  | nil =>
      cases List.mem_singleton.mp member
      exact List.not_mem_nil
  | cons character rest ih =>
      rw [piecesList] at member
      split at member
      next =>
        rcases List.mem_cons.mp member with rfl | later
        · exact List.not_mem_nil
        · exact ih later
      next different =>
        cases cutRest : piecesList separator rest with
        | nil =>
            rw [cutRest] at member
            cases List.mem_singleton.mp member
            simpa using Ne.symm different
        | cons first others =>
            rw [cutRest] at member ih
            rcases List.mem_cons.mp member with rfl | later
            · simpa using ⟨Ne.symm different, ih List.mem_cons_self⟩
            · exact ih (List.mem_cons_of_mem _ later)

/-- A text is made up of its pieces, and of no others. -/
theorem isCut_iff :
    IsCut separator text cut ↔ cut = pieces separator text := by
  constructor
  · intro isCut
    have characters : text.toList = [separator].intercalate (cut.map String.toList) := by
      rw [← isCut.joined, String.toList_intercalate, String.toList_singleton]
    have nonempty : cut.map String.toList ≠ [] := by simpa using isCut.nonempty
    have apart : ∀ piece ∈ cut.map String.toList, separator ∉ piece := by
      simpa using isCut.apart
    rw [pieces, piecesList_eq_splitOn, characters, List.splitOn_intercalate separator apart nonempty]
    simp
  · rintro rfl
    refine ⟨?_, ?_, ?_⟩
    · simp [pieces, piecesList_eq_splitOn]
    · intro piece member
      rcases List.mem_map.mp member with ⟨characters, among, rfl⟩
      rw [String.toList_ofList]
      exact not_mem_of_mem_piecesList among
    · rw [← String.toList_inj, String.toList_intercalate, String.toList_singleton, pieces,
        piecesList_eq_splitOn]
      simp

/-! ## Trimming -/

/-- What is left of a text without the blanks around it. -/
structure IsTrimmed (text rest : String) : Prop where
  around :
    ∃ before after : List Char, text.toList = before ++ rest.toList ++ after ∧
      (∀ character ∈ before, isBlank character = true) ∧
        ∀ character ∈ after, isBlank character = true
  begins : ∀ character ∈ rest.toList.head?, isBlank character = false
  ends : ∀ character ∈ rest.toList.getLast?, isBlank character = false

/-- Dropping blanks drops those before a list that begins with none. -/
theorem dropWhile_isBlank_append
    {before characters : List Char}
    (blank : ∀ character ∈ before, isBlank character = true)
    (begins : ∀ character ∈ characters.head?, isBlank character = false) :
    (before ++ characters).dropWhile isBlank = characters := by
  rw [List.dropWhile_append_of_pos blank]
  cases characters with
  | nil => rfl
  | cons character rest => exact List.dropWhile_cons_of_neg (by simpa using begins)

/-- Trimming takes off blanks around characters that neither begin nor end with one, and no more. -/
theorem trimList_append
    {before characters after : List Char}
    (blankBefore : ∀ character ∈ before, isBlank character = true)
    (blankAfter : ∀ character ∈ after, isBlank character = true)
    (begins : ∀ character ∈ characters.head?, isBlank character = false)
    (ends : ∀ character ∈ characters.getLast?, isBlank character = false) :
    trimList (before ++ characters ++ after) = characters := by
  cases characters with
  | nil =>
      have blank : ∀ character ∈ before ++ after, isBlank character = true := by
        intro character member
        rcases List.mem_append.mp member with earlier | later
        · exact blankBefore character earlier
        · exact blankAfter character later
      have nothing : (before ++ after ++ []).dropWhile isBlank = [] :=
        dropWhile_isBlank_append blank begins
      rw [List.append_nil] at nothing
      rw [trimList, List.append_nil, nothing]
      rfl
  | cons character rest =>
      have beginsToo : ∀ first ∈ (character :: rest ++ after).head?, isBlank first = false := begins
      have endsToo : ∀ last ∈ (character :: rest).reverse.head?, isBlank last = false := by
        rwa [List.head?_reverse]
      have blankFromEnd : ∀ other ∈ after.reverse, isBlank other = true :=
        fun other member => blankAfter other (List.mem_reverse.mp member)
      rw [trimList, List.append_assoc, dropWhile_isBlank_append blankBefore beginsToo,
        List.reverse_append, dropWhile_isBlank_append blankFromEnd endsToo, List.reverse_reverse]

theorem isBlank_of_mem_takeWhile
    (characters : List Char) :
    ∀ character ∈ characters.takeWhile isBlank, isBlank character = true :=
  List.all_eq_true.mp List.all_takeWhile

theorem not_isBlank_head_dropWhile
    (characters : List Char) :
    ∀ character ∈ (characters.dropWhile isBlank).head?, isBlank character = false := by
  intro character first
  have notBlank := List.head?_dropWhile_not isBlank characters
  rwa [Option.mem_def.mp first] at notBlank

theorem isTrimmed_trim
    (text : String) :
    IsTrimmed text (trim text) := by
  have fromStart : text.toList.takeWhile isBlank ++ text.toList.dropWhile isBlank = text.toList :=
    List.takeWhile_append_dropWhile
  generalize blanks : text.toList.takeWhile isBlank = before at fromStart
  generalize left : text.toList.dropWhile isBlank = characters at fromStart
  have fromEnd :
      trimList text.toList ++ (characters.reverse.takeWhile isBlank).reverse = characters := by
    rw [trimList, left, ← List.reverse_append, List.takeWhile_append_dropWhile, List.reverse_reverse]
  refine ⟨⟨before, (characters.reverse.takeWhile isBlank).reverse, ?_, ?_, ?_⟩, ?_, ?_⟩
  · rw [trim, String.toList_ofList, List.append_assoc, fromEnd, fromStart]
  · rw [← blanks]
    exact isBlank_of_mem_takeWhile _
  · intro character member
    exact isBlank_of_mem_takeWhile _ character (List.mem_reverse.mp member)
  · intro character first
    rw [trim, String.toList_ofList] at first
    refine not_isBlank_head_dropWhile text.toList character ?_
    rw [left, ← fromEnd, List.head?_append, Option.mem_def.mp first]
    rfl
  · rw [trim, String.toList_ofList, trimList, List.getLast?_reverse]
    exact not_isBlank_head_dropWhile _

/-- A text has just one rest without the blanks around it. -/
theorem isTrimmed_iff
    {rest : String} :
    IsTrimmed text rest ↔ rest = trim text := by
  constructor
  · intro trimmed
    rcases trimmed.around with ⟨before, after, characters, blankBefore, blankAfter⟩
    rw [trim, characters, trimList_append blankBefore blankAfter trimmed.begins trimmed.ends,
      String.ofList_toList]
  · rintro rfl
    exact isTrimmed_trim text

/-! ## Halves -/

theorem halves_eq_some_iff :
    halves separator text = some (left, right) ↔
      text = left ++ String.singleton separator ++ right ∧ separator ∉ left.toList := by
  have characters :
      text = left ++ String.singleton separator ++ right ↔
        text.toList = left.toList ++ separator :: right.toList := by
    rw [← String.toList_inj]
    simp
  rw [characters, ← halvesList_eq_some_iff, halves]
  cases halvesList separator text.toList with
  | none => simp
  | some parts => simp [Prod.ext_iff, ← String.toList_inj]

/-- There are no halves only where there is no separator. -/
theorem halves_eq_none_iff :
    halves separator text = none ↔ separator ∉ text.toList := by
  constructor
  · intro none member
    rcases List.eq_append_cons_of_mem member with ⟨left, right, characters, first⟩
    rw [halves, halvesList_eq_some_iff.mpr ⟨characters, first⟩] at none
    cases none
  · intro absent
    cases cut : halves separator text with
    | none => rfl
    | some parts =>
        have together := (halves_eq_some_iff.mp cut).1
        rw [together] at absent
        simp at absent

end Text

/-! ## Entries -/

/-- A key whose text says where its namespace ends, and that has both a namespace and a name. -/
structure IngressKey.IsListable (key : IngressKey) : Prop where
  namespaceName : key.namespaceName ≠ ""
  noSlash : '/' ∉ key.namespaceName.toList
  name : key.name ≠ ""

namespace Configuration

/-- An entry that is no text of a key: there is no slash, or there is nothing before its first slash or
nothing after it. -/
inductive IsMalformed : String → Prop where
  | noSlash
      {entry : String}
      (absent : '/' ∉ entry.toList) :
      IsMalformed entry
  | noNamespace (name : String) : IsMalformed ("/" ++ name)
  | noName
      {namespaceName : String}
      (first : '/' ∉ namespaceName.toList) :
      IsMalformed (namespaceName ++ "/")

/-- The error that names an entry which is no text of a key. -/
def notAKey (entry : String) : EnvironmentError :=
  ⟨allowListVariable, s!"expected namespace/name, got '{entry}'"⟩

/-- The entries of a value: what stands between its commas, without the blanks around it, as far as
anything is left then. -/
def Lists (value : String) (entries : List String) : Prop :=
  ∃ cut trimmed, Text.IsCut ',' value cut ∧ List.Forall₂ Text.IsTrimmed cut trimmed ∧
    entries = trimmed.filter (· ≠ "")

variable {value entry : String} {entries : List String} {key : IngressKey}

/-- A value has just one list of entries. -/
theorem lists_iff :
    Lists value entries ↔ entries = allowListPieces value := by
  have asFunction : Text.IsTrimmed = fun text rest => Text.trim text = rest := by
    funext text rest
    exact propext (Text.isTrimmed_iff.trans eq_comm)
  have trims (cut trimmed : List String) :
      List.Forall₂ Text.IsTrimmed cut trimmed ↔ cut.map Text.trim = trimmed := by
    rw [asFunction, ← List.forall₂_map_left_iff, List.forall₂_eq_eq_eq]
  constructor
  · rintro ⟨cut, trimmed, isCut, areTrimmed, rfl⟩
    rw [Text.isCut_iff.mp isCut, trims] at areTrimmed
    rw [← areTrimmed]
    rfl
  · rintro rfl
    exact ⟨_, _, Text.isCut_iff.mpr rfl, (trims _ _).mpr rfl, rfl⟩

/-! ## Reading one entry -/

theorem readAllowed_text
    (listable : key.IsListable) :
    readAllowed key.text = .ok (key.namespaceName, key.name) := by
  have halves : Text.halves '/' key.text = some (key.namespaceName, key.name) :=
    Text.halves_eq_some_iff.mpr ⟨rfl, listable.noSlash⟩
  rw [readAllowed, halves]
  simp [listable.namespaceName, listable.name]

/-- A malformed entry is refused by its own name. -/
theorem readAllowed_of_isMalformed
    (malformed : IsMalformed entry) :
    readAllowed entry = .error (notAKey entry) := by
  cases malformed with
  | noSlash absent =>
      rw [readAllowed, Text.halves_eq_none_iff.mpr absent]
      rfl
  | noNamespace name =>
      have halves : Text.halves '/' ("/" ++ name) = some ("", name) :=
        Text.halves_eq_some_iff.mpr ⟨by simp, by simp⟩
      rw [readAllowed, halves]
      rfl
  | @noName namespaceName first =>
      have halves : Text.halves '/' (namespaceName ++ "/") = some (namespaceName, "") :=
        Text.halves_eq_some_iff.mpr ⟨by simp, first⟩
      rw [readAllowed, halves]
      simp [notAKey]

/-- A text is that of a listable key, or it is malformed. -/
theorem exists_text_eq_or_isMalformed
    (entry : String) :
    (∃ key : IngressKey, key.IsListable ∧ key.text = entry) ∨ IsMalformed entry := by
  cases cut : Text.halves '/' entry with
  | none => exact .inr (.noSlash (Text.halves_eq_none_iff.mp cut))
  | some halves =>
      rcases halves with ⟨namespaceName, name⟩
      rcases Text.halves_eq_some_iff.mp cut with ⟨rfl, noSlash⟩
      by_cases noNamespace : namespaceName = ""
      · subst noNamespace
        exact .inr (by simpa using .noNamespace name)
      · by_cases noName : name = ""
        · subst noName
          exact .inr (by simpa using .noName noSlash)
        · exact .inl ⟨⟨namespaceName, name⟩, ⟨noNamespace, noSlash, noName⟩, rfl⟩

theorem not_isMalformed_text
    (listable : key.IsListable) :
    ¬ IsMalformed key.text := by
  intro malformed
  cases (readAllowed_text listable).symm.trans (readAllowed_of_isMalformed malformed)

/-- Listable keys of one text are one key. -/
theorem text_injective
    {other : IngressKey}
    (listable : key.IsListable)
    (listableToo : other.IsListable)
    (same : key.text = other.text) :
    key = other := by
  have read := readAllowed_text listable
  rw [same, readAllowed_text listableToo] at read
  cases key
  cases other
  cases read
  rfl

/-! ## Reading all entries -/

/-- Put keys on the allow-list one after the other. -/
def allowAll (configuration : Configuration) (keys : List IngressKey) : Configuration :=
  keys.foldl (fun reached key => reached.allow key.namespaceName key.name) configuration

/-- The names of the keys that have a namespace, in their order. -/
def namesIn (namespaceName : String) (keys : List IngressKey) : List String :=
  (keys.filter fun key => key.namespaceName = namespaceName).map IngressKey.name

theorem namesIn_cons
    (namespaceName : String)
    (key : IngressKey)
    (keys : List IngressKey) :
    namesIn namespaceName (key :: keys) =
      if key.namespaceName = namespaceName then key.name :: namesIn namespaceName keys
      else namesIn namespaceName keys := by
  by_cases same : key.namespaceName = namespaceName
  · simp [namesIn, same]
  · simp [namesIn, same]

theorem mem_namesIn_iff
    {namespaceName name : String}
    {keys : List IngressKey} :
    name ∈ namesIn namespaceName keys ↔ ⟨namespaceName, name⟩ ∈ keys := by
  rw [namesIn, List.mem_map]
  constructor
  · rintro ⟨key, among, rfl⟩
    rcases List.mem_filter.mp among with ⟨member, same⟩
    cases of_decide_eq_true same
    exact member
  · intro member
    exact ⟨_, List.mem_filter.mpr ⟨member, by simp⟩, rfl⟩

/-- Every namespace gets the names of its keys, in their order, after those that it has. -/
theorem lookup_allowAll
    (configuration : Configuration)
    (keys : List IngressKey)
    (namespaceName : String) :
    (configuration.allowAll keys).internetFacingIngresses.lookup namespaceName =
      if namesIn namespaceName keys = [] then
        configuration.internetFacingIngresses.lookup namespaceName
      else
        some ((configuration.internetFacingIngresses.lookup namespaceName).getD [] ++
          namesIn namespaceName keys) := by
  induction keys generalizing configuration with
  | nil => rfl
  | cons key rest ih =>
      have reached : configuration.allowAll (key :: rest) =
          (configuration.allow key.namespaceName key.name).allowAll rest := rfl
      rw [reached, ih, namesIn_cons, allow]
      by_cases same : key.namespaceName = namespaceName
      · subst same
        cases namesIn key.namespaceName rest with
        | nil => simp
        | cons name others => simp
      · simp [same, Ne.symm same]

/-- Either all entries are texts of listable keys, which come on the allow-list in their order, or the
first that is malformed is named in an error. -/
theorem allowPieces_cases
    (configuration : Configuration)
    (entries : List String) :
    (∃ keys, entries = keys.map IngressKey.text ∧ (∀ key ∈ keys, key.IsListable) ∧
        allowPieces configuration entries = .ok (configuration.allowAll keys)) ∨
      ∃ before entry after, entries = before ++ entry :: after ∧
        (∀ earlier ∈ before, ¬ IsMalformed earlier) ∧ IsMalformed entry ∧
          allowPieces configuration entries = .error (notAKey entry) := by
  induction entries generalizing configuration with
  | nil => exact .inl ⟨[], rfl, by simp, rfl⟩
  | cons entry rest ih =>
      rcases exists_text_eq_or_isMalformed entry with ⟨key, listable, rfl⟩ | malformed
      · rw [allowPieces, readAllowed_text listable]
        rcases ih (configuration.allow key.namespaceName key.name) with
          ⟨keys, rfl, areListable, allowed⟩ | ⟨before, first, after, rfl, fine, malformed, named⟩
        · refine .inl ⟨key :: keys, rfl, ?_, allowed⟩
          intro other member
          rcases List.mem_cons.mp member with rfl | later
          · exact listable
          · exact areListable other later
        · refine .inr ⟨key.text :: before, first, after, rfl, ?_, malformed, named⟩
          intro other member
          rcases List.mem_cons.mp member with rfl | later
          · exact not_isMalformed_text listable
          · exact fine other later
      · refine .inr ⟨[], entry, rest, rfl, by simp, malformed, ?_⟩
        rw [allowPieces, readAllowed_of_isMalformed malformed]

/-- On an allow-list that was empty there are just the keys that were put on it. -/
theorem allows_allowAll_iff
    {configuration : Configuration}
    {keys : List IngressKey}
    (empty : configuration.internetFacingIngresses = ∅) :
    (configuration.allowAll keys).allows key = true ↔ key ∈ keys := by
  have listed : key.name ∈ namesIn key.namespaceName keys ↔ key ∈ keys := mem_namesIn_iff
  rw [← listed, allows, lookup_allowAll, empty, Table.lookup_empty]
  cases namesIn key.namespaceName keys with
  | nil => simp
  | cons name others => simp

/-! ## Reading the environment -/

/-- The switch is not set, or it is set to one of its two words. -/
def HasSwitch (environment : Environment) : Prop :=
  ∀ word, environment restrictVariable = some word →
    Text.trim word = "true" ∨ Text.trim word = "false"

/-- Listable keys are among others exactly if their texts are. -/
theorem mem_iff_text_mem
    {keys : List IngressKey}
    (areListable : ∀ other ∈ keys, other.IsListable) :
    key ∈ keys ↔ key.IsListable ∧ key.text ∈ keys.map IngressKey.text := by
  constructor
  · intro member
    exact ⟨areListable key member, List.mem_map_of_mem member⟩
  · rintro ⟨listable, among⟩
    rcases List.mem_map.mp among with ⟨other, member, same⟩
    rwa [text_injective listable (areListable other member) same.symm]

section Reading

variable {environment : Environment}

theorem exists_environmentSwitch_eq
    (switch : HasSwitch environment) :
    ∃ restrictScheme, environmentSwitch environment = .ok restrictScheme := by
  rw [environmentSwitch]
  cases given : environment restrictVariable with
  | none => exact ⟨false, rfl⟩
  | some word =>
      rcases switch word given with isTrue | isFalse
      · exact ⟨true, by simp [readSwitch, isTrue]⟩
      · exact ⟨false, by simp [readSwitch, isFalse]⟩

/-- The environment is read as the entries of its allow-list are. -/
theorem ofEnvironment_cases
    (given : environment allowListVariable = some value)
    (switch : HasSwitch environment) :
    (∃ keys configuration, allowListPieces value = keys.map IngressKey.text ∧
        (∀ key ∈ keys, key.IsListable) ∧ ofEnvironment environment = .ok configuration ∧
          configuration.internetFacingIngresses = (allowAll {} keys).internetFacingIngresses) ∨
      ∃ before entry after, allowListPieces value = before ++ entry :: after ∧
        (∀ earlier ∈ before, ¬ IsMalformed earlier) ∧ IsMalformed entry ∧
          ofEnvironment environment = .error (notAKey entry) := by
  rcases exists_environmentSwitch_eq switch with ⟨restrictScheme, switched⟩
  rw [ofEnvironment, switched, given]
  rcases allowPieces_cases {} (allowListPieces value) with
    ⟨keys, listed, areListable, allowed⟩ | ⟨before, entry, after, listed, fine, malformed, named⟩
  · simp only [Option.map_some, Option.getD_some, allowed]
    exact .inl ⟨keys, _, listed, areListable, rfl, rfl⟩
  · simp only [Option.map_some, Option.getD_some, named]
    exact .inr ⟨before, entry, after, listed, fine, malformed, rfl⟩

/-- An environment whose switch can be read is refused exactly if an entry of its allow-list is malformed. -/
theorem ofEnvironment_eq_error_iff
    (given : environment allowListVariable = some value)
    (switch : HasSwitch environment) :
    (∃ error, ofEnvironment environment = .error error) ↔
      ∃ entry ∈ allowListPieces value, IsMalformed entry := by
  rcases ofEnvironment_cases given switch with
    ⟨keys, configuration, listed, areListable, read, -⟩ |
      ⟨before, entry, after, listed, -, malformed, read⟩
  · rw [read, listed]
    constructor
    · rintro ⟨error, fails⟩
      cases fails
    · rintro ⟨entry, member, malformed⟩
      rcases List.mem_map.mp member with ⟨key, among, rfl⟩
      exact absurd malformed (not_isMalformed_text (areListable key among))
  · rw [read, listed]
    exact ⟨fun _ => ⟨entry, by simp, malformed⟩, fun _ => ⟨_, rfl⟩⟩

/-- The keys that are allowed are those whose texts are entries. -/
theorem allows_iff_of_ofEnvironment
    {configuration : Configuration}
    (given : environment allowListVariable = some value)
    (switch : HasSwitch environment)
    (read : ofEnvironment environment = .ok configuration)
    (key : IngressKey) :
    configuration.allows key = true ↔ key.IsListable ∧ key.text ∈ allowListPieces value := by
  rcases ofEnvironment_cases given switch with
    ⟨keys, readAs, listed, areListable, readToo, same⟩ | ⟨before, entry, after, -, -, -, fails⟩
  · cases read.symm.trans readToo
    have alike : configuration.allows key = (allowAll {} keys).allows key := by
      rw [allows, same, allows]
    rw [alike, allows_allowAll_iff rfl, listed, mem_iff_text_mem areListable]
  · cases read.symm.trans fails

end Reading

/-- How the value of the allow-list is read. -/
structure ReadsAllowList (environment : Environment) (value : String) : Prop where
  /-- The entries are what the value lists. -/
  entries : ∀ entries, Lists value entries ↔ entries = allowListPieces value
  /-- The value is refused exactly if an entry is malformed. -/
  fails_iff :
    (∃ error, ofEnvironment environment = .error error) ↔
      ∃ entry ∈ allowListPieces value, IsMalformed entry
  /-- The error names the first malformed entry. -/
  namesFirst :
    ∀ error, ofEnvironment environment = .error error →
      ∃ before entry after, allowListPieces value = before ++ entry :: after ∧
        (∀ earlier ∈ before, ¬ IsMalformed earlier) ∧ IsMalformed entry ∧ error = notAKey entry
  /-- The entries are texts of keys, and the allow-list has for each namespace the names of its keys, in
  the order of the entries. -/
  grouped :
    ∀ configuration, ofEnvironment environment = .ok configuration →
      ∃ keys : List IngressKey, allowListPieces value = keys.map IngressKey.text ∧
        (∀ key ∈ keys, key.IsListable) ∧
          ∀ namespaceName, configuration.internetFacingIngresses.lookup namespaceName =
            if namesIn namespaceName keys = [] then none else some (namesIn namespaceName keys)
  /-- The keys that are allowed are the listable ones whose texts are entries. -/
  allows_iff :
    ∀ configuration, ofEnvironment environment = .ok configuration →
      ∀ key, configuration.allows key = true ↔ key.IsListable ∧ key.text ∈ allowListPieces value
  /-- Which keys are allowed depends neither on the order of the entries nor on their repetition. -/
  orderless :
    ∀ other otherValue, other allowListVariable = some otherValue → HasSwitch other →
      (∀ entry, entry ∈ allowListPieces value ↔ entry ∈ allowListPieces otherValue) →
        ((∃ error, ofEnvironment environment = .error error) ↔
            ∃ error, ofEnvironment other = .error error) ∧
          ∀ configuration otherConfiguration, ofEnvironment environment = .ok configuration →
            ofEnvironment other = .ok otherConfiguration →
              ∀ key, configuration.allows key = otherConfiguration.allows key

/-- Whenever the switch can be read, the value of the allow-list is read as it should be. -/
theorem readsAllowList
    {environment : Environment}
    (given : environment allowListVariable = some value)
    (switch : HasSwitch environment) :
    ReadsAllowList environment value := by
  constructor
  case entries => exact fun entries => lists_iff
  case fails_iff => exact ofEnvironment_eq_error_iff given switch
  case namesFirst =>
    intro error fails
    rcases ofEnvironment_cases given switch with
      ⟨keys, configuration, -, -, read, -⟩ | ⟨before, entry, after, listed, fine, malformed, named⟩
    · cases fails.symm.trans read
    · cases fails.symm.trans named
      exact ⟨before, entry, after, listed, fine, malformed, rfl⟩
  case grouped =>
    intro configuration read
    rcases ofEnvironment_cases given switch with
      ⟨keys, readAs, listed, areListable, readToo, same⟩ | ⟨before, entry, after, -, -, -, named⟩
    · cases read.symm.trans readToo
      refine ⟨keys, listed, areListable, fun namespaceName => ?_⟩
      rw [same, lookup_allowAll]
      simp
    · cases read.symm.trans named
  case allows_iff =>
    intro configuration read key
    exact allows_iff_of_ofEnvironment given switch read key
  case orderless =>
    intro other otherValue givenToo switchToo sameEntries
    refine ⟨?_, ?_⟩
    · rw [ofEnvironment_eq_error_iff given switch, ofEnvironment_eq_error_iff givenToo switchToo]
      simp only [sameEntries]
    · intro configuration otherConfiguration read readToo key
      rw [Bool.eq_iff_iff, allows_iff_of_ofEnvironment given switch read key,
        allows_iff_of_ofEnvironment givenToo switchToo readToo key, sameEntries]

/-- An allow-list that is not tidy: it has an empty piece, and lists a name twice and a name with a
slash. -/
def untidy : String := " prod/web,,prod/api , team-a/site/blue,prod/web"

/-- An environment in which only the allow-list is set. -/
def untidyEnvironment : Environment := fun variableName =>
  if variableName = allowListVariable then some untidy else none

theorem readsAllowList_untidy :
    untidyEnvironment allowListVariable = some untidy ∧ HasSwitch untidyEnvironment ∧
      ReadsAllowList untidyEnvironment untidy ∧
        allowListPieces untidy = ["prod/web", "prod/api", "team-a/site/blue", "prod/web"] ∧
          (ofEnvironment untidyEnvironment).toOption.map (·.internetFacingIngresses.entries) =
            some [("prod", ["web", "api", "web"]), ("team-a", ["site/blue"])] := by
  have given : untidyEnvironment allowListVariable = some untidy := rfl
  have switch : HasSwitch untidyEnvironment := by
    intro word isSet
    cases isSet
  exact ⟨given, switch, readsAllowList given switch, by decide +kernel, by decide +kernel⟩

end Configuration

end IngressConvergence
