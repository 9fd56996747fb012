import IngressConvergence.Proofs.Resolution
import IngressConvergence.Proofs.Stage.Inventory
import IngressConvergence.Proofs.World.Beginning
import IngressConvergence.Proofs.World.Moments

/-!
# The subnets of a desired state

A desired state is built if its subnets are known: all annotated names are, and stand for different
subnets, or none is annotated and the cluster sets some aside.  Its subnets are then exactly those that are
asked for, in strictly increasing order.  In which order they are annotated makes no difference at all,
whatever faults the lookup meets.  The main statement is `DesiredState.build_exact`.
-/

namespace IngressConvergence

/-! ## Sorting without repetition -/

section Sorting

/-- What is left of a list in order, once repetitions are left out, is in strict order. -/
theorem pairwise_eraseRepsBy_loop
    (held : String)
    (rest kept : List String)
    (restInOrder : (held :: rest).Pairwise (· ≤ ·))
    (keptInOrder : (held :: kept).Pairwise (· > ·)) :
    (List.eraseRepsBy.loop (· == ·) held rest kept).Pairwise (· < ·) := by
  induction rest generalizing held kept with
  | nil =>
      rw [List.eraseRepsBy.loop, List.pairwise_reverse]
      exact keptInOrder
  | cons next rest ih =>
      rcases List.pairwise_cons.mp restInOrder with ⟨heldFirst, nextInOrder⟩
      rw [List.eraseRepsBy.loop]
      cases same : held == next with
      | true =>
          rw [← beq_iff_eq.mp same] at nextInOrder
          exact ih held kept nextInOrder keptInOrder
      | false =>
          have above : held < next :=
            Std.lt_of_le_of_ne (heldFirst next List.mem_cons_self) (beq_eq_false_iff_ne.mp same)
          refine ih next (held :: kept) nextInOrder (List.pairwise_cons.mpr ⟨?_, keptInOrder⟩)
          intro earlier member
          rcases List.mem_cons.mp member with rfl | isKept
          · exact above
          · exact String.lt_trans ((List.pairwise_cons.mp keptInOrder).1 earlier isKept) above

theorem pairwise_mergeSort_le
    (ids : List String) :
    ids.mergeSort.Pairwise (· ≤ ·) := by
  have sorted := List.pairwise_mergeSort
    (fun (first second third : String) (lower : decide (first ≤ second) = true)
        (upper : decide (second ≤ third) = true) =>
      decide_eq_true (Std.le_trans (of_decide_eq_true lower) (of_decide_eq_true upper)))
    (fun first second => by simpa using Std.le_total) ids
  exact sorted.imp of_decide_eq_true

/-- Sorted identifiers without repetitions are in strict order. -/
theorem pairwise_eraseReps_mergeSort
    (ids : List String) :
    ids.mergeSort.eraseReps.Pairwise (· < ·) := by
  have sorted := pairwise_mergeSort_le ids
  cases listed : ids.mergeSort with
  | nil => exact .nil
  | cons first rest =>
      rw [listed] at sorted
      exact pairwise_eraseRepsBy_loop first rest [] sorted (List.pairwise_singleton _ _)

/-- Sorting forgets the order. -/
theorem mergeSort_eq_of_perm
    {ids ids' : List String}
    (same : ids.Perm ids') :
    ids.mergeSort = ids'.mergeSort :=
  List.Perm.eq_of_pairwise (fun _ _ _ _ below above => Std.le_antisymm below above)
    (pairwise_mergeSort_le ids) (pairwise_mergeSort_le ids')
    ((List.mergeSort_perm ids _).trans (same.trans (List.mergeSort_perm ids' _).symm))

theorem eq_nil_iff_of_perm
    {ids ids' : List String}
    (same : ids.Perm ids') :
    ids = [] ↔ ids' = [] := by
  rw [← List.length_eq_zero_iff, same.length_eq, List.length_eq_zero_iff]

end Sorting

/-! ## Worlds in which no call is refused -/

/-- In a quiet world no call is refused under a live context. -/
theorem World.IsQuiet.refusalOf_eq_none
    {world : World}
    (quiet : world.IsQuiet)
    (live : world.IsLive)
    (operation : String) :
    world.refusalOf operation = none := by
  have begins : world.begun operation = world := by
    rw [begun, quiet.takeHook_eq]
    rfl
  have noneWaits : world.cloud.failures.lookup operation = none := by
    rw [quiet.noFailure]
    rfl
  rw [refusalOf, begins, quiet.takeHook_eq]
  simp only [Option.getD_none, live.wait_zero, noneWaits, Option.map_none]

namespace DesiredState

open Reference (names identifiers)

variable {world : World} {policy : NamingPolicy} {key : IngressKey}
  {annotations : IngressAnnotations} {items items' subnets : List String} {scheme : Scheme}

/-! ## Subnets that are asked for -/

/-- An annotated item that is the identifier of a subnet; every other item is a name. -/
def IsSubnetId
    (item : String) : Prop :=
  ∃ rest, item = "subnet-" ++ rest

theorem isIdentifier_subnet_iff
    {item : String} :
    Reference.isIdentifier .subnet item = true ↔ IsSubnetId item :=
  Reference.isIdentifier_iff

instance : DecidablePred IsSubnetId :=
  fun _ => decidable_of_iff _ isIdentifier_subnet_iff

/-- The annotated names, in the order in which they are annotated. -/
def annotatedNames
    (items : List String) : List String :=
  items.filter fun item => ¬ IsSubnetId item

theorem names_subnet
    (items : List String) :
    names .subnet items = annotatedNames items := by
  refine List.filter_congr fun item _ => ?_
  rw [Bool.eq_iff_iff, Bool.not_eq_true', ← Bool.not_eq_true, isIdentifier_subnet_iff,
    decide_eq_true_iff]

theorem mem_identifiers_subnet_iff
    {item : String} :
    item ∈ identifiers .subnet items ↔ item ∈ items ∧ IsSubnetId item := by
  rw [identifiers, List.mem_filter, isIdentifier_subnet_iff]

theorem mem_names_subnet_iff
    {item : String} :
    item ∈ names .subnet items ↔ item ∈ items ∧ ¬ IsSubnetId item := by
  rw [Reference.mem_names_iff, ← isIdentifier_subnet_iff, Bool.not_eq_true]

/-- The subnets that annotations ask for are known: each annotated name is, and no two stand for one
subnet, or no subnet is annotated and the cluster sets some aside. -/
def AreKnown
    (tables : CloudTables)
    (items : List String)
    (scheme : Scheme) : Prop :=
  if items = [] then tables.clusterSubnets scheme ≠ []
  else
    (∀ item ∈ items, ¬ IsSubnetId item → (tables.namedSubnets.lookup item).isSome) ∧
      items.Pairwise fun item other => ¬ IsSubnetId item → ¬ IsSubnetId other →
        tables.namedSubnets.lookup item ≠ tables.namedSubnets.lookup other

instance (tables : CloudTables) (items : List String) (scheme : Scheme) :
    Decidable (AreKnown tables items scheme) :=
  inferInstanceAs (Decidable (if items = [] then _ else _))

/-- A subnet is asked for: by its identifier, by its name, or, where no subnet is annotated, as one that the
cluster sets aside. -/
def IsAskedFor
    (tables : CloudTables)
    (items : List String)
    (scheme : Scheme)
    (subnet : String) : Prop :=
  if items = [] then subnet ∈ tables.clusterSubnets scheme
  else
    subnet ∈ items ∧ IsSubnetId subnet ∨
      ∃ name ∈ items, ¬ IsSubnetId name ∧ tables.namedSubnets.lookup name = some subnet

instance (tables : CloudTables) (items : List String) (scheme : Scheme) (subnet : String) :
    Decidable (IsAskedFor tables items scheme subnet) :=
  inferInstanceAs (Decidable (if items = [] then _ else _))

/-- The only call that is made: for the subnets of the cluster if none is annotated, else for the annotated
names if there are any. -/
def subnetLookup
    (items : List String)
    (scheme : Scheme) : List Effect :=
  if items = [] then [.cloud (.findClusterSubnets scheme)]
  else if annotatedNames items = [] then []
  else [.cloud (.findSubnets (annotatedNames items))]

/-! ## Resolving -/

/-- The matches that a lookup of subnets reports: their names are not told. -/
def unnamedMatches
    (ids : List String) : List ReferenceMatch :=
  ids.map fun id => ⟨id, none⟩

theorem coversNames_unnamedMatches
    (requested ids : List String) :
    Reference.coversNames requested (unnamedMatches ids) = true := by
  simp [Reference.coversNames, unnamedMatches]

theorem map_id_unnamedMatches
    (ids : List String) :
    (unnamedMatches ids).map (·.id) = ids := by
  rw [unnamedMatches, List.map_map]
  exact List.map_id ids

/-- The subnets that are found in the tables, in the order in which they are found. -/
def foundIn
    (tables : CloudTables)
    (items : List String)
    (scheme : Scheme) : Except ControllerError (List String) :=
  if items = [] then (tables.clusterSubnetsFor scheme).mapError (.referenceLookup .subnet)
  else Reference.settle .subnet items (unnamedMatches (tables.subnetsNamed (names .subnet items)))

/-- The error with which the only call is refused, if it is made and refused. -/
def lookupRefusal
    (world : World)
    (items : List String) : Option CloudError :=
  if items = [] then world.refusalOf "DescribeClusterSubnets"
  else if names .subnet items = [] then none
  else world.refusalOf "DescribeSubnets"

/-- What follows a call to the cloud and makes no further request depends on the reply alone. -/
theorem fst_run_cloud_bind_done
    {Failure Value : Type}
    (world : World)
    (call : CloudCall)
    (wrap : CloudError → Failure)
    (finish : call.Answer → Except Failure Value) :
    (world.run (Attempt.cloud call wrap >>= fun answer => ExceptT.mk (.done (finish answer)))).1 =
      match world.refusalOf call.operation, world.cloud.tables.perform call with
      | some error, _ => .error (wrap error)
      | none, .error error => .error (wrap error)
      | none, .ok (answer, _) => finish answer := by
  have ran :
      world.run (Attempt.cloud call wrap) =
        ((world.cloudCall call).1.mapError wrap, (world.cloudCall call).2) :=
    rfl
  rw [world.cloudCall_fst call] at ran
  cases refusal : world.refusalOf call.operation with
  | some error =>
      rw [refusal] at ran
      rw [World.run_bind_of_error ran]
  | none =>
      rw [refusal] at ran
      cases performed : world.cloud.tables.perform call with
      | error error =>
          rw [performed] at ran
          rw [World.run_bind_of_error ran]
      | ok done =>
          rw [performed] at ran
          rw [World.run_bind_of_ok ran]
          rfl

/-- Names, if there are any, are looked up once, and what is found for them settles the items. -/
theorem fst_run_resolveAnnotatedSubnets
    (world : World)
    (scheme : Scheme)
    (someItem : items ≠ []) :
    (world.run (resolveAnnotatedSubnets items)).1 =
      match lookupRefusal world items with
      | some error => .error (.referenceLookup .subnet error)
      | none => foundIn world.cloud.tables items scheme := by
  rw [resolveAnnotatedSubnets_eq, lookupRefusal, foundIn, if_neg someItem, if_neg someItem]
  by_cases noNames : names .subnet items = []
  · rw [if_pos noNames, if_pos (List.isEmpty_iff.mpr noNames)]
    refine (Reference.settle_eq_ok_iff.mpr ?_).symm
    simp [noNames, Reference.identifiers_eq_self noNames, unnamedMatches, CloudTables.subnetsNamed,
      Reference.coversNames]
  · rw [if_neg noNames, if_neg (mt List.isEmpty_iff.mp noNames)]
    refine (fst_run_cloud_bind_done world (.findSubnets (names .subnet items)) _ _).trans ?_
    rw [CloudCall.operation]
    cases world.refusalOf "DescribeSubnets" with
    | some error => rfl
    | none => rfl

/-- Subnets are resolved by one call at most, and sorted once they are found. -/
theorem fst_run_resolveSubnets
    (world : World)
    (items : List String)
    (scheme : Scheme) :
    (world.run (resolveSubnets items scheme)).1 =
      match lookupRefusal world items with
      | some error => .error (.referenceLookup .subnet error)
      | none => (foundIn world.cloud.tables items scheme).map List.mergeSort := by
  by_cases noItems : items = []
  · subst noItems
    refine (fst_run_cloud_bind_done world (.findClusterSubnets scheme) _
      fun subnets : List String => .ok subnets.mergeSort).trans ?_
    rw [CloudCall.operation, CloudTables.perform, lookupRefusal, if_pos rfl, foundIn, if_pos rfl]
    cases world.refusalOf "DescribeClusterSubnets" with
    | some error => rfl
    | none =>
        cases world.cloud.tables.clusterSubnetsFor scheme with
        | error error => rfl
        | ok subnets => rfl
  · rw [resolveSubnets, if_neg (mt List.isEmpty_iff.mp noItems)]
    have resolves := fst_run_resolveAnnotatedSubnets world scheme noItems
    cases ran : world.run (resolveAnnotatedSubnets items) with
    | mk result after =>
        rw [ran] at resolves
        subst resolves
        cases refusal : lookupRefusal world items with
        | some error =>
            rw [refusal] at ran
            exact congrArg Prod.fst (World.run_bind_of_error ran)
        | none =>
            rw [refusal] at ran
            cases found : foundIn world.cloud.tables items scheme with
            | error error =>
                rw [found] at ran
                exact congrArg Prod.fst (World.run_bind_of_error ran)
            | ok subnets =>
                rw [found] at ran
                exact congrArg Prod.fst (World.run_bind_of_ok ran)

theorem fst_run_build
    (world : World)
    (policy : NamingPolicy)
    (key : IngressKey)
    (annotations : IngressAnnotations) :
    (world.run (build policy key annotations)).1 =
      ((world.run (resolveSubnets annotations.loadBalancer.subnets
        annotations.loadBalancer.scheme)).1.mapError (.configBuild key.text)).map
          (ofSubnets policy key annotations) := by
  rcases world.run_build_cases policy key annotations with
    ⟨error, after, resolved, ran⟩ | ⟨subnets, after, resolved, ran⟩
  · rw [ran, resolved]
    rfl
  · rw [ran, resolved]
    rfl

/-- What is built is built from subnets that were found. -/
theorem exists_foundIn_of_build
    {desired : DesiredState}
    (succeeds : (world.run (build policy key annotations)).1 = .ok desired) :
    ∃ ids, foundIn world.cloud.tables annotations.loadBalancer.subnets
        annotations.loadBalancer.scheme = .ok ids ∧
      desired = ofSubnets policy key annotations ids.mergeSort := by
  rw [fst_run_build, fst_run_resolveSubnets] at succeeds
  split at succeeds
  · cases succeeds
  · cases found : foundIn world.cloud.tables annotations.loadBalancer.subnets
        annotations.loadBalancer.scheme with
    | error error =>
        rw [found] at succeeds
        cases succeeds
    | ok ids =>
        rw [found] at succeeds
        cases succeeds
        exact ⟨ids, rfl, rfl⟩

/-- What is not refused is built from the subnets that are found. -/
theorem build_eq_ok_of_foundIn
    {ids : List String}
    (notRefused : lookupRefusal world annotations.loadBalancer.subnets = none)
    (found : foundIn world.cloud.tables annotations.loadBalancer.subnets
      annotations.loadBalancer.scheme = .ok ids) :
    (world.run (build policy key annotations)).1 =
      .ok (ofSubnets policy key annotations ids.mergeSort) := by
  rw [fst_run_build, fst_run_resolveSubnets, notRefused, found]
  rfl

/-! ## What is asked -/

section Asked

variable {State : Type} (answer : (asked : Request) → State → asked.Reply × State)

theorem effects_transcript_cloud_bind_done
    {Failure Value : Type}
    (call : CloudCall)
    (wrap : CloudError → Failure)
    (finish : call.Answer → Except Failure Value)
    (state : State) :
    ((ExceptT.run (Attempt.cloud call wrap >>= fun found =>
        ExceptT.mk (.done (finish found)))).transcript answer state).flatMap
          (fun exchange => exchange.asked.effects) =
      [.cloud call] := by
  rw [Attempt.transcript_bind_of_silent answer _ _ fun _ _ => rfl]
  rfl

/-- Subnets are resolved by the call that their lookup takes, and by no other. -/
theorem effects_transcript_resolveSubnets
    (items : List String)
    (scheme : Scheme)
    (state : State) :
    ((ExceptT.run (resolveSubnets items scheme)).transcript answer state).flatMap
        (fun exchange => exchange.asked.effects) =
      subnetLookup items scheme := by
  rw [resolveSubnets, subnetLookup, ← names_subnet]
  by_cases noItems : items = []
  · rw [if_pos noItems, if_pos (List.isEmpty_iff.mpr noItems)]
    exact effects_transcript_cloud_bind_done answer (.findClusterSubnets scheme)
      (ControllerError.referenceLookup .subnet) (fun subnets : List String => .ok subnets.mergeSort)
      state
  · rw [if_neg noItems, if_neg (mt List.isEmpty_iff.mp noItems)]
    have asks := Attempt.transcript_bind_of_silent answer (resolveAnnotatedSubnets items)
      (fun subnets => pure subnets.mergeSort) (fun _ _ => rfl) state
    refine (congrArg (List.flatMap _) asks).trans ?_
    rw [resolveAnnotatedSubnets_eq]
    by_cases noNames : names .subnet items = []
    · rw [if_pos noNames, if_pos (List.isEmpty_iff.mpr noNames)]
      rfl
    · rw [if_neg noNames, if_neg (mt List.isEmpty_iff.mp noNames)]
      exact effects_transcript_cloud_bind_done answer (.findSubnets (names .subnet items))
        (ControllerError.referenceLookup .subnet) _ state

theorem effects_transcript_build
    (policy : NamingPolicy)
    (key : IngressKey)
    (annotations : IngressAnnotations)
    (state : State) :
    ((ExceptT.run (build policy key annotations)).transcript answer state).flatMap
        (fun exchange => exchange.asked.effects) =
      subnetLookup annotations.loadBalancer.subnets annotations.loadBalancer.scheme := by
  rw [build, Attempt.transcript_bind_of_silent answer _ _ fun _ _ => rfl, Attempt.transcript_mapFailure,
    effects_transcript_resolveSubnets]

end Asked

/-! ## What is found -/

/-- Names that are known stand for different subnets if no two of them are looked up alike. -/
theorem nodup_filterMap_names_iff
    {namedSubnets : Table String}
    (known : ∀ name ∈ names .subnet items, (namedSubnets.lookup name).isSome) :
    ((names .subnet items).filterMap namedSubnets.lookup).Nodup ↔
      items.Pairwise fun item other => ¬ IsSubnetId item → ¬ IsSubnetId other →
        namedSubnets.lookup item ≠ namedSubnets.lookup other := by
  have differ :
      ((names .subnet items).filterMap namedSubnets.lookup).Nodup ↔
        (names .subnet items).Pairwise fun name other =>
          namedSubnets.lookup name ≠ namedSubnets.lookup other := by
    rw [List.Nodup, List.pairwise_filterMap]
    refine List.Pairwise.iff_of_mem fun {name other} isName isOther => ?_
    rcases Option.isSome_iff_exists.mp (known name isName) with ⟨subnet, found⟩
    rcases Option.isSome_iff_exists.mp (known other isOther) with ⟨otherSubnet, otherFound⟩
    simp [found, otherFound]
  rw [differ, names, List.pairwise_filter]
  simp only [Bool.not_eq_true', ← Bool.not_eq_true, isIdentifier_subnet_iff]

/-- The cluster sets subnets aside for a scheme if its list of them is not empty. -/
theorem clusterSubnetsFor_eq_ok_iff
    {tables : CloudTables} :
    tables.clusterSubnetsFor scheme = .ok subnets ↔
      tables.clusterSubnets scheme ≠ [] ∧ subnets = tables.clusterSubnets scheme := by
  rw [CloudTables.clusterSubnetsFor]
  cases tables.clusterSubnets scheme with
  | nil => simp
  | cons first others => simp [eq_comm]

/-- Subnets are found exactly if they are known. -/
theorem foundIn_eq_ok_iff
    {tables : CloudTables} :
    foundIn tables items scheme = .ok subnets ↔
      AreKnown tables items scheme ∧
        subnets =
          if items = [] then tables.clusterSubnets scheme
          else identifiers .subnet items ++ tables.subnetsNamed (names .subnet items) := by
  rw [foundIn, AreKnown]
  by_cases noItems : items = []
  · rw [if_pos noItems, if_pos noItems, if_pos noItems, ← clusterSubnetsFor_eq_ok_iff]
    cases tables.clusterSubnetsFor scheme with
    | error error => simp [Except.mapError]
    | ok listed => simp [Except.mapError]
  · rw [if_neg noItems, if_neg noItems, if_neg noItems, Reference.settle_eq_ok_iff,
      map_id_unnamedMatches, unnamedMatches, List.length_map, CloudTables.subnetsNamed,
      List.filterMap_length_eq_length]
    have covers := coversNames_unnamedMatches (names .subnet items)
      ((names .subnet items).filterMap tables.namedSubnets.lookup)
    rw [unnamedMatches] at covers
    constructor
    · rintro ⟨resolves, -, distinct, allKnown⟩
      refine ⟨⟨?_, (nodup_filterMap_names_iff allKnown).mp distinct⟩, resolves⟩
      exact fun item listed isName => allKnown item (mem_names_subnet_iff.mpr ⟨listed, isName⟩)
    · rintro ⟨⟨eachKnown, differ⟩, resolves⟩
      have allKnown :
          ∀ name ∈ names .subnet items, (tables.namedSubnets.lookup name).isSome := by
        intro name isName
        rcases mem_names_subnet_iff.mp isName with ⟨listed, notId⟩
        exact eachKnown name listed notId
      exact ⟨resolves, covers, (nodup_filterMap_names_iff allKnown).mpr differ, allKnown⟩

/-- What is found is what is asked for. -/
theorem mem_iff_isAskedFor_of_foundIn
    {tables : CloudTables}
    (found : foundIn tables items scheme = .ok subnets)
    (subnet : String) :
    subnet ∈ subnets ↔ IsAskedFor tables items scheme subnet := by
  rw [(foundIn_eq_ok_iff.mp found).2, IsAskedFor]
  by_cases noItems : items = []
  · rw [if_pos noItems, if_pos noItems]
  · rw [if_neg noItems, if_neg noItems, List.mem_append, CloudTables.subnetsNamed,
      List.mem_filterMap]
    simp only [mem_identifiers_subnet_iff, mem_names_subnet_iff, and_assoc]

/-- Subnets that are found are at least one. -/
theorem ne_nil_of_foundIn
    {tables : CloudTables}
    (found : foundIn tables items scheme = .ok subnets) :
    subnets ≠ [] := by
  intro noneFound
  rw [noneFound] at found
  rcases foundIn_eq_ok_iff.mp found with ⟨known, asked⟩
  rw [AreKnown] at known
  by_cases noItems : items = []
  · rw [if_pos noItems] at known asked
    exact known asked.symm
  · rw [foundIn, if_neg noItems] at found
    exact ne_nil_of_settle_eq_ok found noItems rfl

/-- In whatever order items are listed, the same subnets are found, in some order. -/
theorem foundIn_agrees_of_perm
    (tables : CloudTables)
    (scheme : Scheme)
    (sameItems : items.Perm items') :
    AgreeUpToOrder List.Perm (foundIn tables items scheme) (foundIn tables items' scheme) := by
  have sameNames : (names .subnet items).Perm (names .subnet items') := sameItems.filter _
  rw [foundIn, foundIn]
  by_cases noItems : items = []
  · rw [if_pos noItems, if_pos ((eq_nil_iff_of_perm sameItems).mp noItems)]
    cases tables.clusterSubnetsFor scheme with
    | ok subnets => exact .ok (List.Perm.refl subnets)
    | error error => exact .error (.refl _)
  · rw [if_neg noItems, if_neg (mt (eq_nil_iff_of_perm sameItems).mpr noItems)]
    exact Reference.settle_agrees_of_perm sameItems ((sameNames.filterMap _).map _)

/-! ## What is built -/

/-- In whatever order subnets are annotated, the same call is refused. -/
theorem lookupRefusal_eq_of_perm
    (world : World)
    (sameItems : items.Perm items') :
    lookupRefusal world items = lookupRefusal world items' := by
  have sameNames : (names .subnet items).Perm (names .subnet items') := sameItems.filter _
  simp only [lookupRefusal, eq_nil_iff_of_perm sameItems, eq_nil_iff_of_perm sameNames]

theorem mem_subnets_ofSubnets
    (policy : NamingPolicy)
    (key : IngressKey)
    (annotations : IngressAnnotations)
    (ids : List String)
    (subnet : String) :
    subnet ∈ (ofSubnets policy key annotations ids.mergeSort).subnets ↔ subnet ∈ ids :=
  (mem_eraseReps _ _).trans (List.mergeSort_perm ids _).mem_iff

/-- Without faults no lookup is refused. -/
theorem lookupRefusal_withoutFaults
    (world : World)
    (items : List String) :
    lookupRefusal world.withoutFaults items = none := by
  have faultless := world.isFaultless_withoutFaults
  have noneRefused := faultless.isQuiet.refusalOf_eq_none faultless.isLive
  rw [lookupRefusal, noneRefused, noneRefused]
  split_ifs
  · rfl
  · rfl
  · rfl

/-- A run that nothing disturbs comes to what it would come to without faults. -/
theorem fst_run_eq_withoutFaults
    {Failure Value : Type}
    {attempt : Attempt Failure Value}
    (undisturbed : world.Undisturbed attempt) :
    (world.run attempt).1 = (world.withoutFaults.run attempt).1 := by
  have faultless := world.isFaultless_withoutFaults.undisturbed attempt
  have asCalm := (undisturbed.runsAs world.matches_calm).result
  exact asCalm.trans (faultless.runsAs world.matches_calm.withoutFaults).result.symm

/-- Without faults a desired state is built exactly if its subnets are known. -/
theorem exists_build_iff
    (undisturbed : world.Undisturbed (build policy key annotations)) :
    (∃ desired, (world.run (build policy key annotations)).1 = .ok desired) ↔
      AreKnown world.cloud.tables annotations.loadBalancer.subnets
        annotations.loadBalancer.scheme := by
  constructor
  · rintro ⟨desired, succeeds⟩
    rcases exists_foundIn_of_build succeeds with ⟨ids, found, -⟩
    exact (foundIn_eq_ok_iff.mp found).1
  · intro known
    rw [fst_run_eq_withoutFaults undisturbed]
    have found : foundIn world.withoutFaults.cloud.tables _ _ = _ :=
      foundIn_eq_ok_iff.mpr ⟨known, rfl⟩
    exact ⟨_, build_eq_ok_of_foundIn (lookupRefusal_withoutFaults world _) found⟩

/-- The annotations of an ingress with other items for its subnets. -/
def annotating
    (annotations : IngressAnnotations)
    (items : List String) : IngressAnnotations :=
  { annotations with loadBalancer := { annotations.loadBalancer with subnets := items } }

/-- Subnets in some order make the same desired state, and errors that differ in their order make errors
that differ in their order. -/
theorem built_of_agree
    {result result' : Except ControllerError (List String)}
    (agrees : AgreeUpToOrder List.Perm result result')
    (policy : NamingPolicy)
    (key : IngressKey)
    (annotations : IngressAnnotations)
    (items : List String) :
    AgreeUpToOrder Eq
      (((result.map List.mergeSort).mapError (.configBuild key.text)).map
        (ofSubnets policy key annotations))
      (((result'.map List.mergeSort).mapError (.configBuild key.text)).map
        (ofSubnets policy key (annotating annotations items))) := by
  cases agrees with
  | error same => exact .error (.configBuild same)
  | @ok ids ids' same =>
      have sameOrder : ids.mergeSort = ids'.mergeSort := mergeSort_eq_of_perm same
      refine .ok ?_
      show ofSubnets policy key annotations ids.mergeSort = _
      rw [sameOrder]
      rfl

/-- A desired state is built exactly: from one lookup at most, if the subnets that annotations ask for are
known, with these subnets in strict order, and always the same in whatever order they are annotated. -/
structure BuildsExactly
    (policy : NamingPolicy)
    (key : IngressKey)
    (annotations : IngressAnnotations) : Prop where
  asksOnce :
    ∀ (State : Type) (answer : (asked : Request) → State → asked.Reply × State) (state : State),
      ((ExceptT.run (build policy key annotations)).transcript answer state).flatMap
          (fun exchange => exchange.asked.effects) =
        subnetLookup annotations.loadBalancer.subnets annotations.loadBalancer.scheme
  succeeds_iff :
    ∀ world : World, world.Undisturbed (build policy key annotations) →
      ((∃ desired, (world.run (build policy key annotations)).1 = .ok desired) ↔
        AreKnown world.cloud.tables annotations.loadBalancer.subnets
          annotations.loadBalancer.scheme)
  subnets :
    ∀ (world : World) (desired : DesiredState),
      (world.run (build policy key annotations)).1 = .ok desired →
        desired.subnets ≠ [] ∧ desired.subnets.Pairwise (· < ·) ∧
          ∀ subnet, subnet ∈ desired.subnets ↔
            IsAskedFor world.cloud.tables annotations.loadBalancer.subnets
              annotations.loadBalancer.scheme subnet
  sameInEveryOrder :
    ∀ (world : World) (items : List String), annotations.loadBalancer.subnets.Perm items →
      AgreeUpToOrder Eq (world.run (build policy key annotations)).1
        (world.run (build policy key (annotating annotations items))).1

/-- Desired states are built exactly, from all annotations. -/
theorem build_exact
    (policy : NamingPolicy)
    (key : IngressKey)
    (annotations : IngressAnnotations) :
    BuildsExactly policy key annotations where
  asksOnce := fun _ answer state => effects_transcript_build answer policy key annotations state
  succeeds_iff := fun _ undisturbed => exists_build_iff undisturbed
  subnets := by
    intro world desired succeeds
    rcases exists_foundIn_of_build succeeds with ⟨ids, found, rfl⟩
    have sameMembers := mem_subnets_ofSubnets policy key annotations ids
    refine ⟨?_, pairwise_eraseReps_mergeSort ids, ?_⟩
    · rcases List.exists_mem_of_ne_nil ids (ne_nil_of_foundIn found) with ⟨subnet, member⟩
      exact List.ne_nil_of_mem ((sameMembers subnet).mpr member)
    · intro subnet
      rw [sameMembers, mem_iff_isAskedFor_of_foundIn found]
  sameInEveryOrder := by
    intro world items sameItems
    have sameRefusal := lookupRefusal_eq_of_perm world sameItems
    have agrees := foundIn_agrees_of_perm world.cloud.tables annotations.loadBalancer.scheme sameItems
    rw [fst_run_build, fst_run_build, fst_run_resolveSubnets, fst_run_resolveSubnets, sameRefusal]
    dsimp only [annotating]
    cases lookupRefusal world items with
    | some error => exact .error (.refl _)
    | none => exact built_of_agree agrees policy key annotations items

/-- A cloud in which one subnet has a name. -/
def blueCloud : World :=
  (World.start "eu-west-1" {}).changeTables (·.addNamedSubnet "blue" "subnet-1")

theorem isFaultless_blueCloud : blueCloud.IsFaultless := ⟨rfl, rfl, rfl, rfl⟩

/-- A name and an identifier ask for two subnets.  An item that only looks like an identifier is a name,
which no subnet has, and a name that comes twice asks twice for one subnet. -/
theorem build_exact_blueCloud :
    (∃ desired,
        (blueCloud.run (build ⟨"k8s", none⟩ ⟨"default", "web"⟩
          (annotating {} ["subnet-2", "blue"]))).1 = .ok desired ∧
        desired.subnets.Pairwise (· < ·) ∧
          "subnet-1" ∈ desired.subnets ∧ "subnet-2" ∈ desired.subnets ∧
            "blue" ∉ desired.subnets) ∧
      ∀ items ∈ [["blue", "Subnet-2"], ["blue", "blue"]],
        ¬ ∃ desired,
          (blueCloud.run (build ⟨"k8s", none⟩ ⟨"default", "web"⟩
            (annotating {} items))).1 = .ok desired := by
  have buildsExactly (items : List String) :=
    build_exact ⟨"k8s", none⟩ ⟨"default", "web"⟩ (annotating {} items)
  have undisturbed (items : List String) :=
    isFaultless_blueCloud.undisturbed
      (build ⟨"k8s", none⟩ ⟨"default", "web"⟩ (annotating {} items))
  constructor
  · have twoSubnets := buildsExactly ["subnet-2", "blue"]
    rcases (twoSubnets.succeeds_iff _ (undisturbed _)).mpr (by decide) with ⟨desired, builds⟩
    rcases twoSubnets.subnets _ desired builds with ⟨-, inOrder, asked⟩
    refine ⟨desired, builds, inOrder, ?_⟩
    rw [asked, asked, asked]
    decide
  · intro items member
    rw [(buildsExactly items).succeeds_iff _ (undisturbed items)]
    revert items
    decide

end DesiredState

end IngressConvergence
