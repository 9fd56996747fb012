import IngressConvergence.Proofs.Firewall

/-!
# Attributes are converged by the least change

The attributes that a load balancer lacks are the least that has to be written to it, and they are
enough: written over what it holds they leave what the desired attributes written over it would leave.
So a run that converges attributes writes once, or not at all where nothing differs, and whatever fault
it meets instead leaves everything as it was.  The main statement is `Convergence.attributes_converged`.
-/

namespace IngressConvergence.Convergence

variable {arn : String} {current desired : Table String} {tables after : CloudTables}
  {calls : List CloudCall}

/-! ## What a load balancer lacks -/

theorem lookup_changedAttributes_eq_some_iff
    {name value : String} :
    (changedAttributes current desired).lookup name = some value ↔
      desired.lookup name = some value ∧ current.lookup name ≠ some value := by
  rw [changedAttributes, Table.lookup_filter, Option.filter_eq_some_iff, decide_eq_true_iff]

theorem lookup_changedAttributes_of_none
    {name : String}
    (unwanted : desired.lookup name = none) :
    (changedAttributes current desired).lookup name = none := by
  rw [changedAttributes, Table.lookup_filter, unwanted]
  rfl

theorem changedAttributes_eq_empty_iff :
    changedAttributes current desired = ∅ ↔
      ∀ name value, desired.lookup name = some value → current.lookup name = some value := by
  rw [← Table.isEmpty_iff_eq_empty, changedAttributes_isEmpty_iff]

/-- What is lacking and all that is desired leave the same when they are written over what is held. -/
theorem overlay_changedAttributes
    (current desired : Table String) :
    current.overlay (changedAttributes current desired) = current.overlay desired := by
  refine Table.ext_lookup fun name => ?_
  cases wanted : desired.lookup name with
  | some value =>
      rw [lookup_overlay_changedAttributes wanted, Table.lookup_overlay, wanted, Option.some_or]
  | none =>
      rw [Table.lookup_overlay, Table.lookup_overlay, lookup_changedAttributes_of_none wanted, wanted]

/-- What is lacking is written by whatever leaves all that is desired. -/
theorem lookup_of_overlay
    {others : Table String}
    (leaves :
      ∀ name value, desired.lookup name = some value →
        (current.overlay others).lookup name = some value)
    {name value : String}
    (lacking : (changedAttributes current desired).lookup name = some value) :
    others.lookup name = some value := by
  rcases lookup_changedAttributes_eq_some_iff.mp lacking with ⟨wanted, differs⟩
  have left := leaves name value wanted
  rw [Table.lookup_overlay] at left
  cases written : others.lookup name with
  | none =>
      rw [written, Option.none_or] at left
      exact absurd left differs
  | some other =>
      rw [written, Option.some_or] at left
      exact left

/-- Changes that lead from the attributes that are held to the desired ones, and no more than these. -/
structure IsLeastChange (current desired changes : Table String) : Prop where
  /-- The changes leave what all that is desired would leave. -/
  isEnough : current.overlay changes = current.overlay desired
  keepsOthers :
    ∀ name, desired.lookup name = none →
      (current.overlay changes).lookup name = current.lookup name
  leavesNothingLacking : changedAttributes (current.overlay changes) desired = ∅
  eq_empty_iff :
    changes = ∅ ↔
      ∀ name value, desired.lookup name = some value → current.lookup name = some value
  /-- Whatever leaves all that is desired contains the changes. -/
  isLeast :
    ∀ others : Table String,
      (∀ name value, desired.lookup name = some value →
        (current.overlay others).lookup name = some value) →
      ∀ name value, changes.lookup name = some value → others.lookup name = some value

theorem isLeastChange_changedAttributes
    (current desired : Table String) :
    IsLeastChange current desired (changedAttributes current desired) where
  isEnough := overlay_changedAttributes current desired
  keepsOthers := by
    intro name unwanted
    rw [Table.lookup_overlay, lookup_changedAttributes_of_none unwanted, Option.none_or]
  leavesNothingLacking :=
    changedAttributes_eq_empty_iff.mpr fun _ _ wanted => lookup_overlay_changedAttributes wanted
  eq_empty_iff := changedAttributes_eq_empty_iff
  isLeast := fun _ leaves _ _ lacking => lookup_of_overlay leaves lacking

/-! ## Courses -/

theorem length_attributeCalls_le
    (arn : String)
    (held desired : Table String) :
    (attributeCalls arn held desired).length ≤ 1 := by
  rw [attributeCalls_eq]
  split
  · exact Nat.zero_le 1
  · exact Nat.le_refl 1

theorem attributeCalls_of_eq_empty
    (arn : String)
    (nothing : changedAttributes current desired = ∅) :
    attributeCalls arn current desired = [] := by
  rw [attributeCalls_eq, nothing]
  rfl

theorem attributeCalls_of_ne_empty
    (arn : String)
    (something : changedAttributes current desired ≠ ∅) :
    attributeCalls arn current desired =
      [.modifyAttributes arn (changedAttributes current desired)] := by
  rw [attributeCalls_eq, if_neg]
  rwa [Table.isEmpty_iff_eq_empty]

/-- Where attributes could not be converged nothing has changed, and nothing was tried but the call that
is needed. -/
theorem unchanged_of_course_error
    {cause : Cause}
    (course : (convergeAttributes arn desired).Course tables calls (.error cause) after) :
    after = tables ∧ calls <+: attributeCalls arn (tables.attributesOf arn) desired := by
  rcases course.ite with ⟨-, reads⟩ | ⟨-, keeps⟩
  · rcases reads.cloud_bind with ⟨error, -, tried, rfl⟩ | ⟨held, middle, later, rfl, read, rest⟩
    · exact ⟨rfl, tried.trans List.nil_prefix⟩
    · rcases CloudTables.readAttributes_eq_ok_iff.mp read with ⟨-, rfl, rfl⟩
      rcases rest.ite with ⟨someLacking, writes⟩ | ⟨-, keeps⟩
      · rcases writes.report_bind.cloud with ⟨error, -, tried, rfl⟩ | ⟨done, same, -⟩
        · rw [attributeCalls_eq, if_neg (by simpa using someLacking)]
          exact ⟨rfl, tried⟩
        · cases same
      · cases keeps.pure.1
  · cases keeps.pure.1

/-- Attributes could not be converged, or they are converged by the call that is needed. -/
theorem cases_of_course
    {result : Except Cause Unit}
    (course : (convergeAttributes arn desired).Course tables calls result after) :
    (∃ cause, result = .error cause ∧ after = tables ∧
        calls <+: attributeCalls arn (tables.attributesOf arn) desired) ∨
      result = .ok () ∧ calls = attributeCalls arn (tables.attributesOf arn) desired ∧
        tables.PerformsAll (attributeCalls arn (tables.attributesOf arn) desired) after := by
  cases result with
  | error cause => exact .inl ⟨cause, rfl, unchanged_of_course_error course⟩
  | ok done => exact .inr ⟨rfl, makesExactly_convergeAttributes arn desired _ _ _ course⟩

/-- The calls that are needed leave the desired attributes over those that were held, and those of every
other load balancer as they were. -/
theorem attributesOf_of_performsAll
    (performs :
      tables.PerformsAll (attributeCalls arn (tables.attributesOf arn) desired) after)
    (other : String) :
    after.attributesOf other =
      if other = arn then (tables.attributesOf arn).overlay desired
      else tables.attributesOf other := by
  rw [← overlay_changedAttributes]
  by_cases nothing : changedAttributes (tables.attributesOf arn) desired = ∅
  · rw [attributeCalls_of_eq_empty arn nothing] at performs
    rw [CloudTables.PerformsAll.nil_iff.mp performs, nothing]
    split
    next isOwn =>
      rw [isOwn]
      rfl
    next => rfl
  · rw [attributeCalls_of_ne_empty arn nothing] at performs
    rcases CloudTables.PerformsAll.singleton_iff.mp performs with ⟨done, performed⟩
    rcases CloudTables.modifyAttributes_eq_ok_iff.mp performed with ⟨-, rfl⟩
    rw [CloudTables.attributesOf, CloudTables.setAttributes, Table.lookup_insert]
    split <;> rfl

/-! ## Runs -/

/-- Whatever is replied, one call at most is asked for that may change the cloud. -/
theorem length_mutationsAsked_convergeAttributes_le
    {State : Type}
    (answer : (asked : Request) → State → asked.Reply × State)
    (arn : String)
    (desired : Table String)
    (state : State) :
    (Attempt.mutationsAsked answer (convergeAttributes arn desired) state).length ≤ 1 := by
  rw [convergeAttributes]
  cases desired.isEmpty with
  | true => exact Nat.zero_le 1
  | false =>
      refine Attempt.length_mutationsAsked_bind_le answer (fun _ => rfl) (fun held moment => ?_) state
      dsimp only
      cases (changedAttributes held desired).isEmpty with
      | true => exact Nat.zero_le 1
      | false =>
          exact Attempt.length_mutationsAsked_bind_le answer (fun _ => rfl)
            (fun _ _ => Nat.le_refl 1) moment

/-- What a run that converges the attributes of a load balancer does, whatever faults it meets. -/
structure ConvergesAttributes
    (world : World)
    (arn : String)
    (desired : Table String) : Prop where
  atMostOneChange :
    ∃ calls, (world.run (convergeAttributes arn desired)).2.cloud.mutatingCalls =
        world.cloud.mutatingCalls ++ calls ∧ calls.length ≤ 1
  /-- A success leaves the desired attributes over those that were held. -/
  converged :
    (world.run (convergeAttributes arn desired)).1 = .ok () →
      (world.run (convergeAttributes arn desired)).2.cloud.tables.attributesOf arn =
        (world.cloud.tables.attributesOf arn).overlay desired
  /-- Where something differs a success takes one call, which writes what is lacking. -/
  changesOnce :
    changedAttributes (world.cloud.tables.attributesOf arn) desired ≠ ∅ →
      (world.run (convergeAttributes arn desired)).1 = .ok () →
        (world.run (convergeAttributes arn desired)).2.cloud.mutatingCalls =
          world.cloud.mutatingCalls ++
            [.modifyAttributes arn
              (changedAttributes (world.cloud.tables.attributesOf arn) desired)]
  changesNothingNeedlessly :
    changedAttributes (world.cloud.tables.attributesOf arn) desired = ∅ →
      (world.run (convergeAttributes arn desired)).2.cloud.mutatingCalls =
          world.cloud.mutatingCalls ∧
        (world.run (convergeAttributes arn desired)).2.cloud.tables = world.cloud.tables
  failsUntouched :
    ∀ cause, (world.run (convergeAttributes arn desired)).1 = .error cause →
      (world.run (convergeAttributes arn desired)).2.cloud.tables = world.cloud.tables
  succeeds :
    world.cloud.tables.loadBalancers.contains arn = true →
      world.Undisturbed (convergeAttributes arn desired) →
        (world.run (convergeAttributes arn desired)).1 = .ok ()
  keepsOtherAttributes :
    ∀ other, other ≠ arn →
      (world.run (convergeAttributes arn desired)).2.cloud.tables.attributesOf other =
        world.cloud.tables.attributesOf other

/-- Attributes are converged by the least change: what a load balancer lacks is enough and no more than is
needed, whatever is replied one change at most is asked for, and in every world one change at most is
made, which leaves the desired attributes over those that were held, or nothing changed. -/
theorem attributes_converged
    (arn : String)
    (desired : Table String) :
    (∀ held, IsLeastChange held desired (changedAttributes held desired)) ∧
      (∀ (State : Type) (answer : (asked : Request) → State → asked.Reply × State) (state : State),
        (Attempt.mutationsAsked answer (convergeAttributes arn desired) state).length ≤ 1) ∧
      ∀ world : World, ConvergesAttributes world arn desired := by
  refine ⟨fun held => isLeastChange_changedAttributes held desired, ?_, ?_⟩
  · exact fun _ answer => length_mutationsAsked_convergeAttributes_le answer arn desired
  intro world
  rcases (convergeAttributes arn desired).course_of_run world with ⟨calls, added, course⟩
  -- A run has failed with the tables as they were, or it has made exactly the calls that are needed.
  rcases cases_of_course course with ⟨cause, fails, same, tried⟩ | ⟨succeeds, rfl, performs⟩
  · constructor
    case atMostOneChange =>
      exact ⟨calls, added, Nat.le_trans tried.length_le (length_attributeCalls_le _ _ _)⟩
    case converged => exact fun succeeds => nomatch fails.symm.trans succeeds
    case changesOnce => exact fun _ succeeds => nomatch fails.symm.trans succeeds
    case changesNothingNeedlessly =>
      intro nothing
      rw [attributeCalls_of_eq_empty arn nothing, List.prefix_nil] at tried
      rw [added, tried, List.append_nil]
      exact ⟨rfl, same⟩
    case failsUntouched => exact fun _ _ => same
    case succeeds =>
      intro exist undisturbed
      have existCalmly : world.calm.tables.loadBalancers.contains arn = true := exist
      rcases yields_convergeAttributes existCalmly desired with ⟨_, yields, -⟩
      exact (undisturbed.runsAs world.matches_calm).eq_ok_of_yields yields
    case keepsOtherAttributes => exact fun other _ => by rw [same]
  · constructor
    case atMostOneChange => exact ⟨_, added, length_attributeCalls_le _ _ _⟩
    case converged => exact fun _ => (attributesOf_of_performsAll performs arn).trans (if_pos rfl)
    case changesOnce =>
      intro something _
      rw [added, attributeCalls_of_ne_empty arn something]
    case changesNothingNeedlessly =>
      intro nothing
      rw [attributeCalls_of_eq_empty arn nothing] at added performs
      exact ⟨added.trans (List.append_nil _), CloudTables.PerformsAll.nil_iff.mp performs⟩
    case failsUntouched => exact fun _ fails => nomatch succeeds.symm.trans fails
    case succeeds => exact fun _ _ => succeeds
    case keepsOtherAttributes =>
      exact fun other differs => (attributesOf_of_performsAll performs other).trans (if_neg differs)

end IngressConvergence.Convergence
