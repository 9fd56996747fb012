import IngressConvergence.Proofs.Course.Exact
import IngressConvergence.Proofs.Stage.Attachments

/-!
# The firewall policy is converged in one change or none

The firewall policy of a load balancer is looked at twice before it is changed: which one there is, and
whether the desired one exists.  Wherever a fault comes in between, there are only four ways in which this
ends; `Convergence.WebAclEnding` lists them.  From the list it follows that a change is made at most once
and only where it is needed, that an error leaves everything as it was, and that a policy which does not
exist is refused before anything is changed.  The main statement is `Convergence.webAcl_converged`.
-/

namespace IngressConvergence

/-! ## Calls that are asked for -/

namespace Attempt

variable {Failure First Second State : Type}
variable (answer : (asked : Request) → State → asked.Reply × State)

/-- What an attempt asks for that may change the cloud, whether or not it is granted. -/
def mutationsAsked
    (attempt : Attempt Failure First)
    (state : State) : List Effect :=
  ((Program.transcript answer (ExceptT.run attempt) state).flatMap
    fun exchange => exchange.asked.effects).filter Effect.isMutating

/-- A second attempt asks for something only after the first has succeeded. -/
theorem mutationsAsked_bind
    (attempt : Attempt Failure First)
    (next : First → Attempt Failure Second)
    (state : State) :
    mutationsAsked answer (attempt >>= next) state =
      mutationsAsked answer attempt state ++
        match Program.run answer (ExceptT.run attempt) state with
        | (.ok value, after) => mutationsAsked answer (next value) after
        | (.error _, _) => [] := by
  simp only [mutationsAsked]
  rw [ExceptT.run_bind]
  have parts := Program.transcript_bind answer (ExceptT.run attempt)
    (fun result => match result with
      | .ok value => ExceptT.run (next value)
      | .error failure => pure (.error failure)) state
  refine (congrArg (fun exchanges => ((exchanges : List (Exchange State)).flatMap
    fun exchange => exchange.asked.effects).filter Effect.isMutating) parts).trans ?_
  rw [List.flatMap_append, List.filter_append]
  rcases Program.run answer (ExceptT.run attempt) state with ⟨result, after⟩
  cases result with
  | ok value => rfl
  | error failure => rfl

/-- What first only reads asks for as much as what follows it. -/
theorem length_mutationsAsked_bind_le
    {bound : Nat}
    {attempt : Attempt Failure First}
    {next : First → Attempt Failure Second}
    (reads : ∀ state, mutationsAsked answer attempt state = [])
    (rest : ∀ value state, (mutationsAsked answer (next value) state).length ≤ bound)
    (state : State) :
    (mutationsAsked answer (attempt >>= next) state).length ≤ bound := by
  rw [mutationsAsked_bind, reads, List.nil_append]
  rcases Program.run answer (ExceptT.run attempt) state with ⟨result, after⟩
  cases result with
  | ok value => exact rest value after
  | error failure => exact Nat.zero_le bound

end Attempt

namespace Convergence

variable {arn : String} {desired : Option String} {tables after : CloudTables}
  {calls : List CloudCall} {result : Except ControllerError Unit}

/-! ## Endings -/

/-- The ways in which the firewall policy of a load balancer is converged, or is not. -/
inductive WebAclEnding
    (arn : String)
    (desired : Option String)
    (tables : CloudTables) :
    List CloudCall → Except ControllerError Unit → CloudTables → Prop where
  /-- What there is, or what is desired, could not be looked at. -/
  | unseen
      {action : WebAclAction}
      {error : CloudError}
      (looks : action = .get ∨ action = .check) :
      WebAclEnding arn desired tables [] (.error (.webAcl arn action error)) tables
  /-- What is desired does not exist. -/
  | unknown
      {webAclId : String}
      (wanted : desired = some webAclId)
      (absent : tables.webAcls.contains webAclId = false) :
      WebAclEnding arn desired tables [] (.error (.invalidReference arn webAclId)) tables
  /-- What had to be changed could not be changed. -/
  | failed
      {action : WebAclAction}
      {error : CloudError}
      {calls : List CloudCall}
      (isKnown : IsKnown tables desired)
      (begun : calls <+: webAclCalls arn (tables.associationOf arn) desired) :
      WebAclEnding arn desired tables calls (.error (.webAcl arn action error)) tables
  /-- What had to be changed was changed. -/
  | done
      {after : CloudTables}
      (isKnown : IsKnown tables desired)
      (performs : tables.PerformsAll (webAclCalls arn (tables.associationOf arn) desired) after) :
      WebAclEnding arn desired tables (webAclCalls arn (tables.associationOf arn) desired) (.ok ())
        after

/-- One call is enough to bring about any firewall policy. -/
theorem length_webAclCalls_le
    (arn : String)
    (associated desired : Option String) :
    (webAclCalls arn associated desired).length ≤ 1 := by
  cases desired with
  | none =>
      rw [webAclCalls]
      split
      · exact Nat.zero_le 1
      · exact Nat.le_refl 1
  | some webAclId =>
      rw [webAclCalls]
      split
      · exact Nat.zero_le 1
      · exact Nat.le_refl 1

/-- A plan is carried out by its calls, or it fails and changes nothing. -/
theorem carryOut_cases
    {plan : WebAclPlan}
    (course : (carryOut arn plan).Course tables calls result after) :
    (∃ action error, result = .error (.webAcl arn action error) ∧ calls <+: planCalls arn plan ∧
        after = tables) ∨
      result = .ok () ∧ calls = planCalls arn plan ∧
        tables.PerformsAll (planCalls arn plan) after := by
  cases plan with
  | keep =>
      rcases course.pure with ⟨rfl, rfl, rfl⟩
      exact .inr ⟨rfl, rfl, .done _⟩
  | associate webAclId =>
      rcases course.report_bind.cloud with ⟨error, rfl, tried, rfl⟩ | ⟨done, rfl, rfl, performed⟩
      · exact .inl ⟨.associate, error, rfl, tried, rfl⟩
      · exact .inr ⟨rfl, rfl, CloudTables.PerformsAll.singleton_iff.mpr ⟨done, performed⟩⟩
  | disassociate =>
      rcases course.report_bind.cloud with ⟨error, rfl, tried, rfl⟩ | ⟨done, rfl, rfl, performed⟩
      · exact .inl ⟨.disassociate, error, rfl, tried, rfl⟩
      · exact .inr ⟨rfl, rfl, CloudTables.PerformsAll.singleton_iff.mpr ⟨done, performed⟩⟩

/-- A firewall policy is found to exist, or not to exist, or it could not be looked at. -/
theorem requireWebAcl_cases
    {webAclId : String}
    (course : (requireWebAcl arn webAclId).Course tables calls result after) :
    calls = [] ∧ after = tables ∧
      ((∃ error, result = .error (.webAcl arn .check error)) ∨
        tables.webAcls.contains webAclId = false ∧
          result = .error (.invalidReference arn webAclId) ∨
        tables.webAcls.contains webAclId = true ∧ result = .ok ()) := by
  rcases course.cloud_bind with ⟨error, rfl, tried, rfl⟩ | ⟨known, middle, later, rfl, found, rest⟩
  · exact ⟨List.prefix_nil.mp tried, rfl, .inl ⟨error, rfl⟩⟩
  · cases found
    rcases rest.ite with ⟨isUnknown, refuses⟩ | ⟨isKnown, goesOn⟩
    · rcases refuses.ofExcept with ⟨rfl, rfl, rfl⟩
      exact ⟨rfl, rfl, .inr (.inl ⟨by simpa using isUnknown, rfl⟩)⟩
    · rcases goesOn.pure with ⟨rfl, rfl, rfl⟩
      exact ⟨rfl, rfl, .inr (.inr ⟨by simpa using isKnown, rfl⟩)⟩

/-- A plan for what is desired and known ends in one of the ways that are listed. -/
theorem webAclEnding_of_carryOut
    (isKnown : IsKnown tables desired)
    (course :
      (carryOut arn (planWebAcl (currentWebAcl tables arn) desired)).Course tables calls result
        after) :
    WebAclEnding arn desired tables calls result after := by
  rcases carryOut_cases course with ⟨action, error, rfl, begun, rfl⟩ | ⟨rfl, rfl, performs⟩
  · rw [planCalls_planWebAcl] at begun
    exact .failed isKnown begun
  · rw [planCalls_planWebAcl] at performs ⊢
    exact .done isKnown performs

/-- Every course on which the firewall policy is converged ends in one of the ways that are listed. -/
theorem webAclEnding_of_course
    (course : (convergeWebAcl arn desired).Course tables calls result after) :
    WebAclEnding arn desired tables calls result after := by
  rcases course.cloud_bind with ⟨error, rfl, tried, rfl⟩ | ⟨current, middle, later, rfl, read, rest⟩
  · cases List.prefix_nil.mp tried
    exact .unseen (.inl rfl)
  · cases read
    cases desired with
    | none => exact webAclEnding_of_carryOut (fun _ wanted => nomatch wanted) rest
    | some webAclId =>
        rcases rest.bind with
          ⟨failure, rfl, requires⟩ | ⟨known, earlier, between, later, rfl, requires, carries⟩
        · rcases requireWebAcl_cases requires with
            ⟨rfl, rfl, ⟨error, same⟩ | ⟨absent, same⟩ | ⟨-, same⟩⟩
          · cases same
            exact .unseen (.inr rfl)
          · cases same
            exact .unknown rfl absent
          · cases same
        · rcases requireWebAcl_cases requires with
            ⟨rfl, rfl, ⟨error, same⟩ | ⟨-, same⟩ | ⟨isKnown, -⟩⟩
          · cases same
          · cases same
          · refine webAclEnding_of_carryOut ?_ carries
            rintro _ ⟨⟩
            exact isKnown

/-! ## What follows from the endings -/

/-- Where an association is what is desired, it may stand for itself. -/
theorem associationOf_eq_ite
    (associated : tables.associationOf arn = desired)
    (other : String) :
    tables.associationOf other = if other = arn then desired else tables.associationOf other := by
  split
  next isOwn => rw [isOwn, associated]
  next => rfl

/-- The calls that are needed leave what is desired, and every other association as it was. -/
theorem associationOf_of_performsAll
    (performs : tables.PerformsAll (webAclCalls arn (tables.associationOf arn) desired) after)
    (other : String) :
    after.associationOf other = if other = arn then desired else tables.associationOf other := by
  cases desired with
  | none =>
      rw [webAclCalls] at performs
      split at performs
      next associated =>
        rw [CloudTables.PerformsAll.nil_iff.mp performs]
        exact associationOf_eq_ite associated other
      next =>
        rcases CloudTables.PerformsAll.singleton_iff.mp performs with ⟨done, performed⟩
        cases performed
        exact Table.lookup_erase _ _ _
  | some webAclId =>
      rw [webAclCalls] at performs
      split at performs
      next associated =>
        rw [CloudTables.PerformsAll.nil_iff.mp performs]
        exact associationOf_eq_ite associated other
      next =>
        rcases CloudTables.PerformsAll.singleton_iff.mp performs with ⟨done, performed⟩
        rcases CloudTables.associateWebAcl_eq_ok_iff.mp performed with ⟨-, rfl⟩
        exact Table.lookup_insert _ _ _ _

/-- No calls are needed exactly if the association is what is desired. -/
theorem webAclCalls_eq_nil_iff
    (arn : String)
    (associated desired : Option String) :
    webAclCalls arn associated desired = [] ↔ associated = desired := by
  cases desired with
  | none =>
      rw [webAclCalls]
      split
      next same => simp [same]
      next differs => simp [differs]
  | some webAclId =>
      rw [webAclCalls]
      split
      next same => simp [same]
      next differs => simp [differs]

namespace WebAclEnding

theorem length_calls_le
    (ending : WebAclEnding arn desired tables calls result after) :
    calls.length ≤ 1 := by
  cases ending with
  | unseen looks => exact Nat.zero_le 1
  | unknown wanted absent => exact Nat.zero_le 1
  | failed isKnown begun => exact Nat.le_trans begun.length_le (length_webAclCalls_le _ _ _)
  | done isKnown performs => exact length_webAclCalls_le _ _ _

theorem associationOf_other
    (ending : WebAclEnding arn desired tables calls result after)
    {other : String}
    (differs : other ≠ arn) :
    after.associationOf other = tables.associationOf other := by
  cases ending with
  | unseen looks => rfl
  | unknown wanted absent => rfl
  | failed isKnown begun => rfl
  | done isKnown performs => rw [associationOf_of_performsAll performs, if_neg differs]

/-- Where nothing differs nothing is called and nothing changed. -/
theorem unchanged
    (ending : WebAclEnding arn desired tables calls result after)
    (associated : tables.associationOf arn = desired) :
    calls = [] ∧ after = tables := by
  have noneNeeded := (webAclCalls_eq_nil_iff arn (tables.associationOf arn) desired).mpr associated
  cases ending with
  | unseen looks => exact ⟨rfl, rfl⟩
  | unknown wanted absent => exact ⟨rfl, rfl⟩
  | failed isKnown begun =>
      rw [noneNeeded] at begun
      exact ⟨List.prefix_nil.mp begun, rfl⟩
  | done isKnown performs =>
      rw [noneNeeded] at performs
      exact ⟨noneNeeded, CloudTables.PerformsAll.nil_iff.mp performs⟩

theorem of_ok
    (ending : WebAclEnding arn desired tables calls (.ok ()) after) :
    after.associationOf arn = desired ∧
      calls = webAclCalls arn (tables.associationOf arn) desired := by
  cases ending with
  | done isKnown performs =>
      exact ⟨(associationOf_of_performsAll performs arn).trans (if_pos rfl), rfl⟩

/-- An error is a fault or stands for a policy that does not exist, and it leaves everything as it was. -/
theorem of_error
    {error : ControllerError}
    (ending : WebAclEnding arn desired tables calls (.error error) after) :
    after = tables ∧
      ((∃ action cause, error = .webAcl arn action cause) ∨
        ∃ webAclId, desired = some webAclId ∧ tables.webAcls.contains webAclId = false ∧
          error = .invalidReference arn webAclId) := by
  cases ending with
  | unseen looks => exact ⟨rfl, .inl ⟨_, _, rfl⟩⟩
  | unknown wanted absent => exact ⟨rfl, .inr ⟨_, wanted, absent, rfl⟩⟩
  | failed isKnown begun => exact ⟨rfl, .inl ⟨_, _, rfl⟩⟩

/-- A policy that does not exist is refused, unless it could not be looked at, and nothing is called. -/
theorem of_absent
    {webAclId : String}
    (ending : WebAclEnding arn (some webAclId) tables calls result after)
    (absent : tables.webAcls.contains webAclId = false) :
    calls = [] ∧
      (result = .error (.invalidReference arn webAclId) ∨
        ∃ action cause, (action = .get ∨ action = .check) ∧
          result = .error (.webAcl arn action cause)) := by
  have notKnown (isKnown : IsKnown tables (some webAclId)) : False := by
    have present := isKnown webAclId rfl
    rw [absent] at present
    cases present
  cases ending with
  | unseen looks => exact ⟨rfl, .inr ⟨_, _, looks, rfl⟩⟩
  | unknown wanted absent =>
      cases wanted
      exact ⟨rfl, .inl rfl⟩
  | failed isKnown begun => exact (notKnown isKnown).elim
  | done isKnown performs => exact (notKnown isKnown).elim

end WebAclEnding

/-! ## Runs -/

/-- A policy that does not exist is refused where nothing disturbs the run. -/
theorem run_convergeWebAcl_of_absent
    {world : World}
    {webAclId : String}
    (absent : world.cloud.tables.webAcls.contains webAclId = false)
    (undisturbed : world.Undisturbed (convergeWebAcl arn (some webAclId))) :
    (world.run (convergeWebAcl arn (some webAclId))).1 =
      .error (.invalidReference arn webAclId) := by
  have looked :
      world.calm.run (convergeWebAcl arn (some webAclId)) =
        (inspected world.calm arn (some webAclId)).run
          ((if !world.cloud.tables.webAcls.contains webAclId then
              throw (.invalidReference arn webAclId)
            else pure () : Attempt ControllerError Unit) >>= fun _ =>
              carryOut arn (planWebAcl (currentWebAcl world.cloud.tables arn) (some webAclId))) :=
    rfl
  refine (undisturbed.runsAs world.matches_calm).result.trans ?_
  rw [absent] at looked
  exact congrArg Prod.fst looked

section Asked

variable {State : Type} (answer : (asked : Request) → State → asked.Reply × State)

theorem length_mutationsAsked_carryOut_le
    (arn : String)
    (plan : WebAclPlan)
    (state : State) :
    (Attempt.mutationsAsked answer (carryOut arn plan) state).length ≤ 1 := by
  cases plan with
  | keep => exact Nat.zero_le 1
  | associate webAclId =>
      exact Attempt.length_mutationsAsked_bind_le answer (fun _ => rfl) (fun _ _ => Nat.le_refl 1)
        state
  | disassociate =>
      exact Attempt.length_mutationsAsked_bind_le answer (fun _ => rfl) (fun _ _ => Nat.le_refl 1)
        state

theorem mutationsAsked_requireWebAcl
    (arn webAclId : String)
    (state : State) :
    Attempt.mutationsAsked answer (requireWebAcl arn webAclId) state = [] := by
  refine List.length_eq_zero_iff.mp (Nat.le_zero.mp ?_)
  refine Attempt.length_mutationsAsked_bind_le answer (fun _ => rfl) (fun known _ => ?_) state
  cases known with
  | false => exact Nat.le_refl 0
  | true => exact Nat.le_refl 0

/-- Whatever is replied, one call at most is asked for that may change the cloud. -/
theorem length_mutationsAsked_convergeWebAcl_le
    (arn : String)
    (desired : Option String)
    (state : State) :
    (Attempt.mutationsAsked answer (convergeWebAcl arn desired) state).length ≤ 1 := by
  refine Attempt.length_mutationsAsked_bind_le answer (fun _ => rfl) (fun current after => ?_) state
  cases desired with
  | none => exact length_mutationsAsked_carryOut_le answer arn _ after
  | some webAclId =>
      refine Attempt.length_mutationsAsked_bind_le answer ?_ (fun _ moment => ?_) after
      · exact mutationsAsked_requireWebAcl answer arn webAclId
      · exact length_mutationsAsked_carryOut_le answer arn _ moment

end Asked

/-- What a run that converges a firewall policy does, whatever faults it meets. -/
structure ConvergesWebAcl
    (world : World)
    (arn : String)
    (desired : Option String) : Prop where
  atMostOneChange :
    ∃ calls, (world.run (convergeWebAcl arn desired)).2.cloud.mutatingCalls =
        world.cloud.mutatingCalls ++ calls ∧ calls.length ≤ 1
  /-- A success leaves what is desired, by the call that this takes, if it takes one. -/
  converged :
    (world.run (convergeWebAcl arn desired)).1 = .ok () →
      (world.run (convergeWebAcl arn desired)).2.cloud.tables.associationOf arn = desired ∧
        (world.run (convergeWebAcl arn desired)).2.cloud.mutatingCalls =
          world.cloud.mutatingCalls ++
            webAclCalls arn (world.cloud.tables.associationOf arn) desired
  changesNothingNeedlessly :
    world.cloud.tables.associationOf arn = desired →
      (world.run (convergeWebAcl arn desired)).2.cloud.mutatingCalls = world.cloud.mutatingCalls ∧
        (world.run (convergeWebAcl arn desired)).2.cloud.tables = world.cloud.tables
  /-- An error leaves all tables as they were; it is a fault, or what is desired does not exist. -/
  failsUntouched :
    ∀ error, (world.run (convergeWebAcl arn desired)).1 = .error error →
      (world.run (convergeWebAcl arn desired)).2.cloud.tables = world.cloud.tables ∧
        ((∃ action cause, error = .webAcl arn action cause) ∨
          ∃ webAclId, desired = some webAclId ∧
            world.cloud.tables.webAcls.contains webAclId = false ∧
            error = .invalidReference arn webAclId)
  /-- What does not exist is refused before any change, whatever is associated. -/
  refusesUnknown :
    ∀ webAclId, desired = some webAclId →
      world.cloud.tables.webAcls.contains webAclId = false →
        (world.run (convergeWebAcl arn desired)).2.cloud.mutatingCalls =
            world.cloud.mutatingCalls ∧
          ((world.run (convergeWebAcl arn desired)).1 = .error (.invalidReference arn webAclId) ∨
            ∃ action cause, (action = .get ∨ action = .check) ∧
              (world.run (convergeWebAcl arn desired)).1 = .error (.webAcl arn action cause)) ∧
          (world.Undisturbed (convergeWebAcl arn desired) →
            (world.run (convergeWebAcl arn desired)).1 = .error (.invalidReference arn webAclId))
  succeeds :
    IsKnown world.cloud.tables desired → world.Undisturbed (convergeWebAcl arn desired) →
      (world.run (convergeWebAcl arn desired)).1 = .ok ()
  keepsOtherAssociations :
    ∀ other, other ≠ arn →
      (world.run (convergeWebAcl arn desired)).2.cloud.tables.associationOf other =
        world.cloud.tables.associationOf other

/-- A firewall policy is converged in one change or none: whatever is replied, one change at most is asked
for, and in every world one change at most is made, which leaves what is desired or nothing changed. -/
theorem webAcl_converged
    (arn : String)
    (desired : Option String) :
    (∀ (State : Type) (answer : (asked : Request) → State → asked.Reply × State) (state : State),
        (Attempt.mutationsAsked answer (convergeWebAcl arn desired) state).length ≤ 1) ∧
      ∀ world : World, ConvergesWebAcl world arn desired := by
  refine ⟨fun _ answer state => length_mutationsAsked_convergeWebAcl_le answer arn desired state, ?_⟩
  intro world
  rcases (convergeWebAcl arn desired).course_of_run world with ⟨calls, added, course⟩
  have ending := webAclEnding_of_course course
  constructor
  case atMostOneChange => exact ⟨calls, added, ending.length_calls_le⟩
  case converged =>
    intro succeeds
    rw [succeeds] at ending
    rw [added, ← ending.of_ok.2]
    exact ⟨ending.of_ok.1, rfl⟩
  case changesNothingNeedlessly =>
    intro associated
    rcases ending.unchanged associated with ⟨rfl, same⟩
    exact ⟨added.trans (List.append_nil _), same⟩
  case failsUntouched =>
    intro error fails
    rw [fails] at ending
    exact ending.of_error
  case refusesUnknown =>
    rintro webAclId rfl absent
    rcases ending.of_absent absent with ⟨rfl, refused⟩
    exact ⟨added.trans (List.append_nil _), refused, run_convergeWebAcl_of_absent absent⟩
  case succeeds =>
    intro isKnown undisturbed
    have calmIsKnown : IsKnown world.calm.tables desired := isKnown
    rcases yields_convergeWebAcl calmIsKnown arn with ⟨after, yields, -⟩
    exact (undisturbed.runsAs world.matches_calm).eq_ok_of_yields yields
  case keepsOtherAssociations =>
    intro other differs
    exact ending.associationOf_other differs

end Convergence

end IngressConvergence
