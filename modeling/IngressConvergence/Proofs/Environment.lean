import IngressConvergence.Naming
import IngressConvergence.Proofs.AllowList

/-!
# Blanks around the values of the environment

Values of variables come with the blanks that files and shells leave around them.  In three of the four
variables these change nothing: the switch and the start of names are trimmed, and so are the entries of
the allow-list, because no comma is blank.  The name of the cluster is trimmed only to see whether anything
is left of it, and the tag by which the cluster owns load balancers keeps its blanks.

`Configuration.readsPadded` says how the configuration of an environment compares with that of one with
blanks added, and exactly when they are the same; `Configuration.cluster_blanks_matter`, that they need not
be.
-/

namespace IngressConvergence

/-! ## Blanks around a text -/

namespace Text

/-- A list of characters with blanks before and after it. -/
def Pads (characters padded : List Char) : Prop :=
  ∃ before after, padded = before ++ characters ++ after ∧
    (∀ character ∈ before, isBlank character = true) ∧
      ∀ character ∈ after, isBlank character = true

variable {characters padded before after : List Char} {text paddedText : String} {separator : Char}

theorem pads_append_left
    (blank : ∀ character ∈ before, isBlank character = true)
    (characters : List Char) :
    Pads characters (before ++ characters) :=
  ⟨before, [], by simp, blank, by simp⟩

theorem pads_append_right
    (blank : ∀ character ∈ after, isBlank character = true)
    (characters : List Char) :
    Pads characters (characters ++ after) :=
  ⟨[], after, by simp, by simp, blank⟩

/-- What is left of a text without the blanks around it is left of the text with more of them. -/
theorem IsTrimmed.of_pads
    {rest : String}
    (trimmed : IsTrimmed text rest)
    (pads : Pads text.toList paddedText.toList) :
    IsTrimmed paddedText rest := by
  rcases trimmed.around with ⟨inner, innerEnd, characters, blankInner, blankInnerEnd⟩
  rcases pads with ⟨before, after, paddedCharacters, blankBefore, blankAfter⟩
  refine ⟨⟨before ++ inner, innerEnd ++ after, ?_, ?_, ?_⟩, trimmed.begins, trimmed.ends⟩
  · rw [paddedCharacters, characters]
    simp
  · exact List.forall_mem_append.mpr ⟨blankBefore, blankInner⟩
  · exact List.forall_mem_append.mpr ⟨blankInnerEnd, blankAfter⟩

theorem trim_eq_of_pads
    (pads : Pads text.toList paddedText.toList) :
    trim paddedText = trim text :=
  (isTrimmed_iff.mp ((isTrimmed_trim text).of_pads pads)).symm

theorem trimList_eq_of_pads
    (pads : Pads characters padded) :
    trimList padded = trimList characters := by
  have same : trim (String.ofList padded) = trim (String.ofList characters) :=
    trim_eq_of_pads (by simpa using pads)
  rwa [trim, trim, String.ofList_inj, String.toList_ofList, String.toList_ofList] at same

/-- Nothing is left of a text without the blanks around it exactly if it is blank altogether. -/
theorem trim_eq_empty_iff :
    trim text = "" ↔ ∀ character ∈ text.toList, isBlank character = true := by
  constructor
  · intro nothing
    rcases (isTrimmed_trim text).around with ⟨before, after, characters, blankBefore, blankAfter⟩
    rw [characters, nothing]
    simpa using List.forall_mem_append.mpr ⟨blankBefore, blankAfter⟩
  · intro blank
    refine (isTrimmed_iff.mp ⟨⟨text.toList, [], by simp, blank, by simp⟩, by simp, by simp⟩).symm

/-! ## Blanks around pieces -/

/-- What stands before a text, without separators, goes to its first piece. -/
theorem piecesList_append_left
    (absent : separator ∉ before)
    (characters : List Char) :
    ∃ first others, piecesList separator characters = first :: others ∧
      piecesList separator (before ++ characters) = (before ++ first) :: others := by
  induction before with
  | nil =>
      rcases List.exists_cons_of_ne_nil (List.splitOn_ne_nil separator characters) with
        ⟨first, others, pieces⟩
      rw [← piecesList_eq_splitOn] at pieces
      exact ⟨first, others, pieces, pieces⟩
  | cons character rest ih =>
      rcases ih (List.not_mem_of_not_mem_cons absent) with ⟨first, others, pieces, longer⟩
      have different : character ≠ separator := fun same => absent (same ▸ List.mem_cons_self)
      refine ⟨first, others, pieces, ?_⟩
      rw [List.cons_append, piecesList, if_neg different, longer]
      rfl

/-- What stands after a text, without separators, goes to its last piece. -/
theorem piecesList_append_right
    (absent : separator ∉ after)
    (characters : List Char) :
    ∃ others last, piecesList separator characters = others ++ [last] ∧
      piecesList separator (characters ++ after) = others ++ [last ++ after] := by
  induction characters with
  | nil =>
      rcases piecesList_append_left absent [] with ⟨first, others, pieces, longer⟩
      rcases List.cons.inj pieces with ⟨rfl, rfl⟩
      exact ⟨[], [], rfl, by simpa using longer⟩
  | cons character rest ih =>
      rcases ih with ⟨others, last, pieces, longer⟩
      rw [List.cons_append, piecesList, piecesList, pieces, longer]
      by_cases same : character = separator
      · exact ⟨[] :: others, last, by simp [same], by simp [same]⟩
      · cases others with
        | nil => exact ⟨[], character :: last, by simp [same], by simp [same]⟩
        | cons first more => exact ⟨(character :: first) :: more, last, by simp [same], by simp [same]⟩

/-- The pieces between separators that are not blank, trimmed, do not show the blanks around the whole. -/
theorem map_trimList_piecesList_of_pads
    (visible : isBlank separator = false)
    (pads : Pads characters padded) :
    (piecesList separator padded).map trimList = (piecesList separator characters).map trimList := by
  rcases pads with ⟨before, after, rfl, blankBefore, blankAfter⟩
  have absentBefore : separator ∉ before :=
    fun member => Bool.noConfusion (visible.symm.trans (blankBefore separator member))
  have absentAfter : separator ∉ after :=
    fun member => Bool.noConfusion (visible.symm.trans (blankAfter separator member))
  rcases piecesList_append_right absentAfter characters with ⟨others, last, pieces, longer⟩
  rcases piecesList_append_left absentBefore (characters ++ after) with
    ⟨first, more, piecesToo, longest⟩
  calc (piecesList separator (before ++ characters ++ after)).map trimList
      = (piecesList separator (characters ++ after)).map trimList := by
        rw [List.append_assoc, longest, piecesToo, List.map_cons, List.map_cons,
          trimList_eq_of_pads (pads_append_left blankBefore first)]
    _ = (piecesList separator characters).map trimList := by
        rw [longer, pieces, List.map_append, List.map_append, List.map_singleton, List.map_singleton,
          trimList_eq_of_pads (pads_append_right blankAfter last)]

theorem map_trim_pieces_of_pads
    (visible : isBlank separator = false)
    (pads : Pads text.toList paddedText.toList) :
    (pieces separator paddedText).map trim = (pieces separator text).map trim := by
  have asLists (text : String) :
      (pieces separator text).map trim =
        ((piecesList separator text.toList).map trimList).map String.ofList := by
    simp [pieces, trim, Function.comp_def]
  rw [asLists, asLists, map_trimList_piecesList_of_pads visible pads]

end Text

/-! ## Ownership tags -/

namespace NamingPolicy

theorem clusterTag_injective :
    Function.Injective clusterTag :=
  fun _ _ same => (String.append_right_inj _).mp same

/-- The tag of a cluster is neither of the tags that identify an ingress. -/
theorem clusterTag_ne
    (clusterName : String) :
    clusterTag clusterName ≠ namespaceTag ∧ clusterTag clusterName ≠ nameTag := by
  have letter : (clusterTag clusterName).toList[14]? = some 'c' := by
    have characters : (clusterTag clusterName).toList =
        "kubernetes.io/cluster/".toList ++ clusterName.toList := String.toList_append
    rw [characters, List.getElem?_append_left (by decide)]
    decide
  constructor
  · intro same
    rw [same] at letter
    exact absurd letter (by decide)
  · intro same
    rw [same] at letter
    exact absurd letter (by decide)

/-- The tag of a cluster is on the load balancers that it owns, and on no others. -/
theorem lookup_clusterTag
    (policy : NamingPolicy)
    (key : IngressKey)
    (clusterName : String) :
    (policy.loadBalancerTags key).lookup (clusterTag clusterName) =
      if policy.clusterName = some clusterName then some "owned" else none := by
  have unnamed : (Table.ofList [(namespaceTag, key.namespaceName), (nameTag, key.name)]).lookup
      (clusterTag clusterName) = none := by
    have differs := clusterTag_ne clusterName
    simp [Table.ofList, Table.insertAll, differs.1, differs.2]
  rw [loadBalancerTags]
  cases policy.clusterName with
  | none => simpa using unnamed
  | some owner =>
      rw [Table.lookup_insert, unnamed]
      by_cases same : owner = clusterName
      · simp [same]
      · simp [same, clusterTag_injective.ne (Ne.symm same)]

/-- Policies that differ in the cluster put different tags on every load balancer. -/
theorem loadBalancerTags_eq_iff
    (policy other : NamingPolicy)
    (key : IngressKey) :
    policy.loadBalancerTags key = other.loadBalancerTags key ↔
      policy.clusterName = other.clusterName := by
  constructor
  · intro sameTags
    have sameOwner (clusterName : String) :
        policy.clusterName = some clusterName ↔ other.clusterName = some clusterName := by
      have sameLookup := congrArg (fun tags => tags.lookup (clusterTag clusterName)) sameTags
      simp only [lookup_clusterTag] at sameLookup
      grind
    exact Option.ext sameOwner
  · intro sameCluster
    rw [loadBalancerTags, loadBalancerTags, sameCluster]

end NamingPolicy

namespace Configuration

/-! ## Environments with blanks added -/

/-- The variables that make up a configuration. -/
def variableNames : List String :=
  [restrictVariable, allowListVariable, namePrefixVariable, clusterVariable]

/-- One environment is another with blanks added around values. -/
def PadsEnvironment (environment padded : Environment) : Prop :=
  ∀ variableName ∈ variableNames,
    Option.Rel (fun value paddedValue : String => Text.Pads value.toList paddedValue.toList)
      (environment variableName) (padded variableName)

variable {environment padded : Environment}

theorem PadsEnvironment.cases
    (pads : PadsEnvironment environment padded)
    {variableName : String}
    (member : variableName ∈ variableNames) :
    (environment variableName = none ∧ padded variableName = none) ∨
      ∃ value paddedValue, environment variableName = some value ∧
        padded variableName = some paddedValue ∧ Text.Pads value.toList paddedValue.toList := by
  have related := pads variableName member
  generalize environment variableName = value?, padded variableName = paddedValue? at related ⊢
  cases related with
  | none => exact .inl ⟨rfl, rfl⟩
  | some padsValue => exact .inr ⟨_, _, rfl, rfl, padsValue⟩

/-- A switch with blanks added is read as the same word, or refused as well. -/
theorem environmentSwitch_of_pads
    (pads : PadsEnvironment environment padded) :
    (∃ switch, environmentSwitch environment = .ok switch ∧ environmentSwitch padded = .ok switch) ∨
      ∃ reason otherReason, environmentSwitch environment = .error ⟨restrictVariable, reason⟩ ∧
        environmentSwitch padded = .error ⟨restrictVariable, otherReason⟩ := by
  rw [environmentSwitch, environmentSwitch]
  rcases pads.cases (by simp [variableNames] : restrictVariable ∈ variableNames) with
    ⟨unset, unsetToo⟩ | ⟨value, paddedValue, given, givenToo, padsValue⟩
  · rw [unset, unsetToo]
    exact .inl ⟨false, rfl, rfl⟩
  · rw [given, givenToo]
    simp only [readSwitch, Text.trim_eq_of_pads padsValue]
    by_cases isTrue : Text.trim value = "true"
    · exact .inl ⟨true, by simp [isTrue], by simp [isTrue]⟩
    · by_cases isFalse : Text.trim value = "false"
      · exact .inl ⟨false, by simp [isFalse], by simp [isFalse]⟩
      · exact .inr ⟨_, _, by rw [if_neg isTrue, if_neg isFalse], by rw [if_neg isTrue, if_neg isFalse]⟩

theorem allowListPieces_of_pads
    (pads : PadsEnvironment environment padded) :
    (padded allowListVariable).map allowListPieces =
      (environment allowListVariable).map allowListPieces := by
  rcases pads.cases (by simp [variableNames] : allowListVariable ∈ variableNames) with
    ⟨unset, unsetToo⟩ | ⟨value, paddedValue, given, givenToo, padsValue⟩
  · rw [unset, unsetToo]
  · rw [given, givenToo, Option.map_some, Option.map_some, allowListPieces, allowListPieces,
      Text.map_trim_pieces_of_pads (by decide) padsValue]

theorem environmentNamePrefix_of_pads
    (pads : PadsEnvironment environment padded) :
    environmentNamePrefix padded = environmentNamePrefix environment := by
  rw [environmentNamePrefix, environmentNamePrefix]
  rcases pads.cases (by simp [variableNames] : namePrefixVariable ∈ variableNames) with
    ⟨unset, unsetToo⟩ | ⟨value, paddedValue, given, givenToo, padsValue⟩
  · rw [unset, unsetToo]
  · simp only [given, givenToo, Text.trim_eq_of_pads padsValue]

/-- Blanks were added to no name of a cluster, or to one that is blank anyway. -/
def SparesCluster (environment padded : Environment) : Prop :=
  padded clusterVariable = environment clusterVariable ∨
    ∀ value, environment clusterVariable = some value →
      ∀ character ∈ value.toList, Text.isBlank character = true

/-- Blanks do not decide whether a cluster is named, but under which name. -/
theorem environmentCluster_of_pads
    (pads : PadsEnvironment environment padded) :
    (environmentCluster padded).isSome = (environmentCluster environment).isSome ∧
      (environmentCluster padded = environmentCluster environment ↔
        SparesCluster environment padded) := by
  rw [environmentCluster, environmentCluster, SparesCluster]
  rcases pads.cases (by simp [variableNames] : clusterVariable ∈ variableNames) with
    ⟨unset, unsetToo⟩ | ⟨value, paddedValue, given, givenToo, padsValue⟩
  · simp [unset, unsetToo]
  · have blankIff : (∀ other, some value = some other →
        ∀ character ∈ other.toList, Text.isBlank character = true) ↔ Text.trim value = "" := by
      rw [Text.trim_eq_empty_iff]
      simp
    rw [given, givenToo, blankIff]
    by_cases blank : Text.trim value = ""
    · simp [Option.filter, Text.trim_eq_of_pads padsValue, blank]
    · simp [Option.filter, Text.trim_eq_of_pads padsValue, blank]

/-! ## Reading the environment -/

theorem clusterName_of_ofEnvironment
    {configuration : Configuration}
    (read : ofEnvironment environment = .ok configuration) :
    configuration.clusterName = environmentCluster environment := by
  rw [ofEnvironment] at read
  cases switched : environmentSwitch environment with
  | error error =>
      rw [switched] at read
      cases read
  | ok switch =>
      cases allowed : allowPieces {} (((environment allowListVariable).map allowListPieces).getD []) with
      | error error =>
          rw [switched, allowed] at read
          cases read
      | ok reached =>
          rw [switched, allowed] at read
          cases read
          rfl

/-- An environment with blanks added is read as the environment but for the name of the cluster, or its
reading fails as well, for the same variable. -/
theorem ofEnvironment_of_pads
    (pads : PadsEnvironment environment padded) :
    (∃ configuration, ofEnvironment environment = .ok configuration ∧
        ofEnvironment padded =
          .ok { configuration with clusterName := environmentCluster padded }) ∨
      ∃ error other, ofEnvironment environment = .error error ∧
        ofEnvironment padded = .error other ∧ other.name = error.name := by
  rw [ofEnvironment, ofEnvironment, allowListPieces_of_pads pads, environmentNamePrefix_of_pads pads]
  rcases environmentSwitch_of_pads pads with
    ⟨switch, switched, switchedToo⟩ | ⟨reason, otherReason, refused, refusedToo⟩
  · rw [switched, switchedToo]
    cases allowPieces {} (((environment allowListVariable).map allowListPieces).getD []) with
    | ok reached => exact .inl ⟨_, rfl, rfl⟩
    | error error => exact .inr ⟨error, error, rfl, rfl, rfl⟩
  · rw [refused, refusedToo]
    exact .inr ⟨_, _, rfl, rfl, rfl⟩

/-- One configuration is another but for the name of the cluster, which is the same if and only if it was
spared. -/
structure SameButCluster (configuration other : Configuration) (spared : Prop) : Prop where
  rest : other = { configuration with clusterName := other.clusterName }
  isSome_clusterName : other.clusterName.isSome = configuration.clusterName.isSome
  eq_iff : other = configuration ↔ spared
  names :
    ∀ key, (NamingPolicy.ofConfiguration other).loadBalancerName key =
      (NamingPolicy.ofConfiguration configuration).loadBalancerName key
  allows : ∀ key, other.allows key = configuration.allows key
  /-- The tags of every load balancer show whether the name of the cluster was spared. -/
  tags_eq_iff :
    ∀ key, (NamingPolicy.ofConfiguration other).loadBalancerTags key =
      (NamingPolicy.ofConfiguration configuration).loadBalancerTags key ↔ spared

/-- How the reading of an environment compares with that of one with blanks added. -/
structure ReadsPadded (environment padded : Environment) : Prop where
  /-- Both fail, for the same variable. -/
  fails :
    ∀ error, ofEnvironment environment = .error error →
      ∃ other, ofEnvironment padded = .error other ∧ other.name = error.name
  /-- Both succeed, and only the name of the cluster may differ. -/
  reads :
    ∀ configuration, ofEnvironment environment = .ok configuration →
      ∃ other, ofEnvironment padded = .ok other ∧
        SameButCluster configuration other (SparesCluster environment padded)

/-- Blanks change the configuration in the name of the cluster at most. -/
theorem sameButCluster_of_pads
    (pads : PadsEnvironment environment padded)
    {configuration : Configuration}
    (read : ofEnvironment environment = .ok configuration) :
    SameButCluster configuration { configuration with clusterName := environmentCluster padded }
      (SparesCluster environment padded) := by
  have cluster := clusterName_of_ofEnvironment read
  rcases environmentCluster_of_pads pads with ⟨alsoSet, spared⟩
  constructor
  case rest => rfl
  case isSome_clusterName => rw [cluster, ← alsoSet]
  case eq_iff =>
    rw [← spared, ← cluster]
    constructor
    · exact fun same => congrArg clusterName same
    · exact fun same => by rw [same]
  case names => exact fun key => rfl
  case allows => exact fun key => rfl
  case tags_eq_iff =>
    intro key
    rw [NamingPolicy.loadBalancerTags_eq_iff, ← spared, ← cluster]
    rfl

/-- Blanks around values change nothing but the name of the cluster, and that exactly where they are added to
one that is not blank altogether. -/
theorem readsPadded
    (pads : PadsEnvironment environment padded) :
    ReadsPadded environment padded := by
  rcases ofEnvironment_of_pads pads with
    ⟨configuration, read, readToo⟩ | ⟨error, other, fails, failsToo, sameName⟩
  · constructor
    case fails =>
      intro error fails
      cases read.symm.trans fails
    case reads =>
      intro configuration' read'
      cases read.symm.trans read'
      exact ⟨_, readToo, sameButCluster_of_pads pads read⟩
  · constructor
    case fails =>
      intro error' fails'
      cases fails.symm.trans fails'
      exact ⟨other, failsToo, sameName⟩
    case reads =>
      intro configuration read
      cases read.symm.trans fails

/-- An environment with all four variables set. -/
def environmentOf (switch allowList namePrefix cluster : String) : Environment := fun variableName =>
  if variableName = restrictVariable then some switch
  else if variableName = allowListVariable then some allowList
  else if variableName = namePrefixVariable then some namePrefix
  else if variableName = clusterVariable then some cluster
  else none

/-- An environment without a blank. -/
def tidyEnvironment : Environment := environmentOf "true" "prod/web,prod/api" "blue" "east"

/-- Blanks are added to every value. -/
def blankyEnvironment : Environment :=
  environmentOf " true" "prod/web,prod/api\n" "\tblue " " east "

theorem padsEnvironment_blanky :
    PadsEnvironment tidyEnvironment blankyEnvironment := by
  intro variableName member
  simp only [variableNames, List.mem_cons, List.not_mem_nil, or_false] at member
  rcases member with rfl | rfl | rfl | rfl
  · exact .some ⟨[' '], [], by decide, by simp [Text.isBlank], by simp⟩
  · exact .some ⟨[], ['\n'], by decide, by simp, by simp [Text.isBlank]⟩
  · exact .some ⟨['\t'], [' '], by decide, by simp [Text.isBlank], by simp [Text.isBlank]⟩
  · exact .some ⟨[' '], [' '], by decide, by simp [Text.isBlank], by simp [Text.isBlank]⟩

theorem readsPadded_blanky :
    PadsEnvironment tidyEnvironment blankyEnvironment ∧
      ReadsPadded tidyEnvironment blankyEnvironment ∧
        (ofEnvironment tidyEnvironment).toOption =
            some ⟨true, Table.ofList [("prod", ["web", "api"])], "blue", some "east"⟩ ∧
          (ofEnvironment blankyEnvironment).toOption =
            some ⟨true, Table.ofList [("prod", ["web", "api"])], "blue", some " east "⟩ :=
  ⟨padsEnvironment_blanky, readsPadded padsEnvironment_blanky, by decide +kernel, by decide +kernel⟩

/-- An environment with nothing but the name of the cluster. -/
def clusterOnly (cluster : String) : Environment := fun variableName =>
  if variableName = clusterVariable then some cluster else none

/-- Blanks around the name of the cluster make another configuration. -/
theorem cluster_blanks_matter :
    ¬ ∀ environment padded, PadsEnvironment environment padded →
      (∃ error other, ofEnvironment environment = .error error ∧
          ofEnvironment padded = .error other) ∨
        ∃ configuration, ofEnvironment environment = .ok configuration ∧
          ofEnvironment padded = .ok configuration := by
  intro sameReading
  have pads : PadsEnvironment (clusterOnly "blue") (clusterOnly " blue ") := by
    intro variableName member
    simp only [variableNames, List.mem_cons, List.not_mem_nil, or_false] at member
    rcases member with rfl | rfl | rfl | rfl
    · exact .none
    · exact .none
    · exact .none
    · exact .some ⟨[' '], [' '], by decide, by simp [Text.isBlank], by simp [Text.isBlank]⟩
  have succeeds : ∃ configuration, ofEnvironment (clusterOnly "blue") = .ok configuration := ⟨_, rfl⟩
  rcases sameReading _ _ pads with ⟨error, other, fails, -⟩ | ⟨configuration, read, readToo⟩
  · rcases succeeds with ⟨configuration, read⟩
    cases read.symm.trans fails
  · have sameCluster := (clusterName_of_ofEnvironment read).symm.trans
      (clusterName_of_ofEnvironment readToo)
    revert sameCluster
    decide

end Configuration

end IngressConvergence
